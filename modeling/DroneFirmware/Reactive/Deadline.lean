import DroneFirmware.Reactive.Run

/-!
# Deadlines

A machine is bound to reach a goal by a certain time when its state names a deadline that no
round moves back, and every round short of the goal comes before it.  How often the machine
must be given a round is part of the condition `P` on the rounds; it may speak of the round
before, which `remember` keeps.

* `MeetsDeadline`: the step conditions.
* `MeetsDeadline.goal_of_late`: a round after the deadline ends at the goal.
* `remember`: the machine that keeps its last input; `along_remember`.
-/

namespace DroneFirmware
namespace Reactive

universe u v

variable {σ : Type u} {ι : Type v} {step : σ → ι → σ} {P : σ → ι → Prop}

/-- In rounds that meet `P` the goal is kept, and short of it a round either reaches it or comes
by the deadline `due`, keeps `Inv` and moves the deadline no further. -/
structure MeetsDeadline (step : σ → ι → σ) (P : σ → ι → Prop) (goal Inv : σ → Prop)
    (time : ι → ℤ) (due : σ → ℤ) : Prop where
  stays : ∀ {s i}, P s i → goal s → goal (step s i)
  moves : ∀ {s i}, P s i → Inv s → ¬ goal s →
    goal (step s i) ∨ (Inv (step s i) ∧ due (step s i) ≤ due s ∧ time i ≤ due s)

variable {goal Inv : σ → Prop} {time : ι → ℤ} {due : σ → ℤ}

/-- Short of the goal, the rounds made so far came by the deadline. -/
theorem MeetsDeadline.run_cases (h : MeetsDeadline step P goal Inv time due) {s : σ}
    {is : List ι} (h0 : goal s ∨ Inv s) (hP : Along step P s is) :
    goal (run step s is) ∨ (Inv (run step s is) ∧ due (run step s is) ≤ due s ∧
      ∀ i ∈ is.getLast?, time i ≤ due s) := by
  induction is using List.reverseRecOn with
  | nil => exact h0.imp id fun hInv => ⟨hInv, le_rfl, nofun⟩
  | append_singleton is i ih =>
    rw [along_append] at hP
    obtain ⟨hbefore, hround, -⟩ := hP
    rw [run_append, List.getLast?_concat]
    by_cases hg : goal (Reactive.run step s is)
    · exact Or.inl (h.stays hround hg)
    · obtain ⟨hInv, hdue, -⟩ := (ih hbefore).resolve_left hg
      refine (h.moves hround hInv hg).imp id fun ⟨hInv', hdue', htime⟩ => ?_
      refine ⟨hInv', hdue'.trans hdue, fun j hj => ?_⟩
      cases hj
      exact htime.trans hdue

/-- **A round after the deadline ends at the goal.** -/
theorem MeetsDeadline.goal_of_late (h : MeetsDeadline step P goal Inv time due) {s : σ}
    {is : List ι} {i : ι} (h0 : goal s ∨ Inv s) (hP : Along step P s (is ++ [i]))
    (hlate : due s < time i) : goal (run step s (is ++ [i])) := by
  refine (h.run_cases h0 hP).resolve_right ?_
  rintro ⟨-, -, htime⟩
  rw [List.getLast?_concat] at htime
  exact absurd (htime i rfl) (not_le.mpr hlate)

/-! ## The round before -/

/-- The machine that keeps its last input. -/
def remember (step : σ → ι → σ) (x : σ × ι) (i : ι) : σ × ι := (step x.1 i, i)

@[simp] theorem remember_fst (x : σ × ι) (i : ι) : (remember step x i).1 = step x.1 i := rfl

@[simp] theorem remember_snd (x : σ × ι) (i : ι) : (remember step x i).2 = i := rfl

theorem run_remember (x : σ × ι) (is : List ι) :
    (run (remember step) x is).1 = run step x.1 is := by
  induction is generalizing x with
  | nil => rfl
  | cons i is ih => rw [run_cons, run_cons, ih, remember_fst]

/-- A condition on the rounds, and one on any two consecutive inputs. -/
theorem along_remember {Q : ι → ι → Prop} {s : σ} {i : ι} {is : List ι}
    (hP : Along step P s is) (hQ : (i :: is).IsChain Q) :
    Along (remember step) (fun x j => P x.1 j ∧ Q x.2 j) (s, i) is := by
  induction is generalizing s i with
  | nil => trivial
  | cons j is ih =>
    rw [List.isChain_cons_cons] at hQ
    exact ⟨⟨hP.1, hQ.1⟩, ih hP.2 hQ.2⟩

end Reactive
end DroneFirmware

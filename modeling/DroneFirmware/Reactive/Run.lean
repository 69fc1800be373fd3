import Mathlib

/-!
# Runs of an input-driven machine

A reactive program is a step function that takes a state and the input of one
round to the next state.  A run is a list of inputs, and the state it reaches is
a fold.  Nothing here knows what the states and the inputs are.

* `run`: the state reached from a state by a list of inputs.
* `Along`: a condition on (state before the round, input of the round) that holds
  in every round of a run.  `along_iff` reads it as a statement about every way to
  cut the run at a round.
* `run_invariant`, `run_invariant_of`: what one round preserves, a run preserves.
* `run_related`: what a pair of rounds preserves, a pair of runs preserves.
* `along_congr_of`: an invariant under which two conditions are one.
* `exists_lastEntry`: a run that ends in a set it did not start in entered that set
  a last time, and stayed.
* `Throughout`: a condition on (rounds so far, next input) that holds in every round, for
  laws that look back over the run.
-/

namespace DroneFirmware
namespace Reactive

universe u v

variable {σ : Type u} {ι : Type v}

/-! ## Runs -/

/-- The state reached from `s` by the inputs `is`, one round per input. -/
def run (step : σ → ι → σ) (s : σ) (is : List ι) : σ :=
  is.foldl step s

variable {step : σ → ι → σ} {P Q : σ → ι → Prop}

@[simp] theorem run_nil (s : σ) : run step s [] = s := rfl

@[simp] theorem run_cons (s : σ) (i : ι) (is : List ι) :
    run step s (i :: is) = run step (step s i) is := rfl

@[simp] theorem run_append (s : σ) (is js : List ι) :
    run step s (is ++ js) = run step (run step s is) js := by
  rw [run, List.foldl_append]
  rfl

/-! ## Conditions along a run -/

/-- `P` holds in every round of the run: of the state before the round and of the
round's input. -/
def Along (step : σ → ι → σ) (P : σ → ι → Prop) : σ → List ι → Prop
  | _, [] => True
  | s, i :: is => P s i ∧ Along step P (step s i) is

@[simp] theorem along_nil (s : σ) : Along step P s [] := trivial

@[simp] theorem along_cons (s : σ) (i : ι) (is : List ι) :
    Along step P s (i :: is) ↔ P s i ∧ Along step P (step s i) is := Iff.rfl

@[simp] theorem along_append (s : σ) (is js : List ι) :
    Along step P s (is ++ js) ↔
      Along step P s is ∧ Along step P (run step s is) js := by
  induction is generalizing s with
  | nil => simp
  | cons i is ih => simp [ih, and_assoc]

instance decidableAlong [∀ s i, Decidable (P s i)] :
    ∀ (s : σ) (is : List ι), Decidable (Along step P s is)
  | _, [] => .isTrue trivial
  | s, i :: is =>
      have := decidableAlong (step s i) is
      inferInstanceAs (Decidable (P s i ∧ Along step P (step s i) is))

/-- **Every round of the run.**  A condition along a run is a condition at every
place the run can be cut. -/
theorem along_iff (s : σ) (is : List ι) :
    Along step P s is ↔
      ∀ pre i post, is = pre ++ i :: post → P (run step s pre) i := by
  constructor
  · rintro h pre i post rfl
    rw [along_append, along_cons] at h
    exact h.2.1
  · intro h
    induction is generalizing s with
    | nil => trivial
    | cons i is ih =>
      refine ⟨h [] i is rfl, ih _ fun pre j post hs => ?_⟩
      exact h (i :: pre) j post (by rw [hs]; rfl)

theorem Along.mono (hPQ : ∀ s i, P s i → Q s i) {s : σ} {is : List ι}
    (h : Along step P s is) : Along step Q s is := by
  rw [along_iff] at h ⊢
  exact fun pre i post hs => hPQ _ _ (h pre i post hs)

/-! ## Invariants -/

/-- **The run rule.**  What every round preserves under `P` is preserved by a run
all of whose rounds meet `P`. -/
theorem run_invariant_of (Inv : σ → Prop) (hstep : ∀ s i, Inv s → P s i → Inv (step s i))
    {s : σ} {is : List ι} (h0 : Inv s) (hP : Along step P s is) :
    Inv (run step s is) := by
  induction is generalizing s with
  | nil => exact h0
  | cons i is ih => exact ih (hstep s i h0 hP.1) hP.2

/-- The run rule for what every round preserves. -/
theorem run_invariant (Inv : σ → Prop) (hstep : ∀ s i, Inv s → Inv (step s i)) {s : σ}
    (h0 : Inv s) (is : List ι) : Inv (run step s is) := by
  induction is generalizing s with
  | nil => exact h0
  | cons i is ih => exact ih (hstep s i h0)

/-- **The two-run rule.**  What a pair of rounds preserves under related inputs is preserved by
a pair of runs under the same number of related inputs. -/
theorem run_related {ι' : Type*} {R : σ → σ → Prop} {one other : ι' → ι}
    (hstep : ∀ s s' i, R s s' → R (step s (one i)) (step s' (other i))) {s s' : σ} (h0 : R s s')
    (is : List ι') : R (run step s (is.map one)) (run step s' (is.map other)) := by
  induction is generalizing s s' with
  | nil => exact h0
  | cons i is ih => exact ih (hstep s s' i h0)

/-- Two conditions that an invariant makes one hold along the same runs; the condition itself
may be what keeps the invariant. -/
theorem along_congr_of (Inv : σ → Prop) (hiff : ∀ s i, Inv s → (P s i ↔ Q s i))
    (hstep : ∀ s i, Inv s → P s i → Inv (step s i)) {s : σ} (h0 : Inv s) (is : List ι) :
    Along step P s is ↔ Along step Q s is := by
  induction is generalizing s with
  | nil => exact Iff.rfl
  | cons i is ih =>
    rw [along_cons, along_cons, ← hiff s i h0]
    exact and_congr_right fun hP => ih (hstep s i h0 hP)

/-! ## The last entry into a set of states -/

/-- The run `is` from `s` cut where the machine entered `q` for the last time: `pre`
ends outside `q`, the round `i` enters it, and no round of `stay` leaves it. -/
structure LastEntry (step : σ → ι → σ) (q : σ → Prop) (s : σ) (is pre : List ι) (i : ι)
    (stay : List ι) : Prop where
  split : is = pre ++ i :: stay
  outside : ¬ q (run step s pre)
  enters : q (step (run step s pre) i)
  stays : Along step (fun s j => q (step s j)) (step (run step s pre) i) stay

/-- **A set that was entered was entered a last time.** -/
theorem exists_lastEntry {q : σ → Prop} {s : σ} (h0 : ¬ q s) (is : List ι)
    (h : q (run step s is)) : ∃ pre i stay, LastEntry step q s is pre i stay := by
  induction is using List.reverseRecOn with
  | nil => exact absurd h h0
  | append_singleton is j ih =>
    rw [run_append] at h
    by_cases hq : q (run step s is)
    · obtain ⟨pre, i, stay, hl⟩ := ih hq
      refine ⟨pre, i, stay ++ [j], by rw [hl.split]; simp, hl.outside, hl.enters, ?_⟩
      rw [along_append]
      refine ⟨hl.stays, ?_, trivial⟩
      have hrun : run step (step (run step s pre) i) stay = run step s is := by
        rw [hl.split, run_append, run_cons]
      rw [hrun]
      exact h
    · exact ⟨is, j, [], rfl, hq, h, trivial⟩

/-! ## Conditions on the history -/

/-- `P` holds in every round of the inputs `is`: of the inputs before it and of its own. -/
def Throughout (P : List ι → ι → Prop) (is : List ι) : Prop :=
  ∀ pre i post, is = pre ++ i :: post → P pre i

/-- One more round. -/
theorem throughout_concat {P : List ι → ι → Prop} (is : List ι) (i : ι) :
    Throughout P (is ++ [i]) ↔ Throughout P is ∧ P is i := by
  constructor
  · intro h
    refine ⟨fun pre j post hs => h pre j (post ++ [i]) (by rw [hs]; simp), h is i [] rfl⟩
  · rintro ⟨h, hi⟩ pre j post hs
    rcases List.eq_nil_or_concat post with rfl | ⟨post, k, rfl⟩
    · obtain ⟨rfl, hj⟩ := List.append_inj' hs rfl
      rw [List.cons.injEq] at hj
      rw [← hj.1]
      exact hi
    · refine h pre j post ?_
      rw [List.concat_eq_append, ← List.cons_append, ← List.append_assoc] at hs
      exact (List.append_inj' hs rfl).1

theorem throughout_congr {P Q : List ι → ι → Prop} (h : ∀ pre i, P pre i ↔ Q pre i)
    (is : List ι) : Throughout P is ↔ Throughout Q is :=
  ⟨fun hP pre i post hs => (h pre i).mp (hP pre i post hs),
    fun hQ pre i post hs => (h pre i).mpr (hQ pre i post hs)⟩

end Reactive
end DroneFirmware

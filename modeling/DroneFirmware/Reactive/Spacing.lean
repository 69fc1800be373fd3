import DroneFirmware.Reactive.Run

/-!
# Rate limiters

A machine that acts in some rounds only, and that lets a round act when enough time has
passed since the last one that did.  Nothing here knows what acting means.

* `kept`: the inputs of the rounds of a run that meet a condition.
* `RateLimits`: the condition is guarded by a time of last action that the machine keeps.
* `RateLimits.spaced`: the rounds that act are then spaced, whatever the clock does.
* `length_le_of_spaced`: a window of length `len` holds at most `len / d + 1` of them.
-/

namespace DroneFirmware
namespace Reactive

universe u v

variable {σ : Type u} {ι : Type v} {step : σ → ι → σ} {P : σ → ι → Prop}

/-- The inputs of the rounds of the run that meet `P`. -/
def kept (step : σ → ι → σ) (P : σ → ι → Prop) [∀ s i, Decidable (P s i)] : σ → List ι → List ι
  | _, [] => []
  | s, i :: is => if P s i then i :: kept step P (step s i) is else kept step P (step s i) is

variable [∀ s i, Decidable (P s i)]

@[simp] theorem kept_nil (s : σ) : kept step P s [] = [] := rfl

theorem kept_cons_of_pos {s : σ} {i : ι} (h : P s i) (is : List ι) :
    kept step P s (i :: is) = i :: kept step P (step s i) is := if_pos h

theorem kept_cons_of_neg {s : σ} {i : ι} (h : ¬ P s i) (is : List ι) :
    kept step P s (i :: is) = kept step P (step s i) is := if_neg h

theorem kept_append (s : σ) (is js : List ι) :
    kept step P s (is ++ js) = kept step P s is ++ kept step P (run step s is) js := by
  induction is generalizing s with
  | nil => rfl
  | cons i is ih =>
    by_cases h : P s i
    · rw [List.cons_append, kept_cons_of_pos h, kept_cons_of_pos h, ih, run_cons, List.cons_append]
    · rw [List.cons_append, kept_cons_of_neg h, kept_cons_of_neg h, ih, run_cons]

theorem mem_of_mem_kept {s : σ} {is : List ι} {j : ι} (h : j ∈ kept step P s is) : j ∈ is := by
  induction is generalizing s with
  | nil => exact h
  | cons i is ih =>
    by_cases hi : P s i
    · rw [kept_cons_of_pos hi, List.mem_cons] at h
      exact List.mem_cons.mpr (h.imp id ih)
    · rw [kept_cons_of_neg hi] at h
      exact List.mem_cons_of_mem i (ih h)

/-- The rounds that meet `P` are rate-limited: `last` is the time of the latest of them, and a
round meets `P` only when `d` has passed since. -/
structure RateLimits (step : σ → ι → σ) (P : σ → ι → Prop) (time : ι → ℤ) (last : σ → ℤ)
    (d : ℤ) : Prop where
  guard : ∀ {s i}, P s i → last s + d ≤ time i
  acts : ∀ {s i}, P s i → last (step s i) = time i
  rests : ∀ {s i}, ¬ P s i → last (step s i) = last s

variable {time : ι → ℤ} {last : σ → ℤ} {d : ℤ}

/-- Every round that acts is `d` after the time the machine started with. -/
theorem RateLimits.le_of_mem_kept (h : RateLimits step P time last d) (hd : 0 ≤ d) {s : σ}
    {is : List ι} {j : ι} (hj : j ∈ kept step P s is) : last s + d ≤ time j := by
  induction is generalizing s with
  | nil => simp at hj
  | cons i is ih =>
    by_cases hi : P s i
    · have hguard := h.guard hi
      rw [kept_cons_of_pos hi, List.mem_cons] at hj
      rcases hj with rfl | hj
      · exact hguard
      · have hlater := ih hj
        rw [h.acts hi] at hlater
        omega
    · rw [kept_cons_of_neg hi] at hj
      have hlater := ih hj
      rwa [h.rests hi] at hlater

/-- **Rounds that act are spaced.** -/
theorem RateLimits.spaced (h : RateLimits step P time last d) (hd : 0 ≤ d) (s : σ)
    (is : List ι) : (kept step P s is).Pairwise fun i j => time i + d ≤ time j := by
  induction is generalizing s with
  | nil => exact List.Pairwise.nil
  | cons i is ih =>
    by_cases hi : P s i
    · rw [kept_cons_of_pos hi, List.pairwise_cons]
      refine ⟨fun j hj => ?_, ih _⟩
      rw [← h.acts hi]
      exact h.le_of_mem_kept hd hj
    · rw [kept_cons_of_neg hi]
      exact ih _

/-- Spaced times fill their window: one `d` for each but the first. -/
theorem length_mul_le_of_spaced {ts : List ℤ} (hs : ts.Pairwise fun a b => a + d ≤ b) {lo hi : ℤ}
    (hle : lo ≤ hi + d) (hts : ∀ t ∈ ts, lo ≤ t ∧ t ≤ hi) : ts.length * d ≤ hi - lo + d := by
  induction ts generalizing lo with
  | nil =>
    rw [List.length_nil, Nat.cast_zero, zero_mul]
    omega
  | cons t ts ih =>
    obtain ⟨hfirst, hrest⟩ := List.pairwise_cons.mp hs
    have ht := hts t (List.mem_cons_self ..)
    have htail := ih hrest (show t + d ≤ hi + d by omega) fun u hu =>
      ⟨hfirst u hu, (hts u (List.mem_cons_of_mem t hu)).2⟩
    rw [List.length_cons, Nat.cast_succ, add_mul, one_mul]
    omega

/-- **A window of length `len` holds at most `len / d + 1` spaced times.** -/
theorem length_le_of_spaced {ts : List ℤ} {d : ℕ} (hd : 0 < d)
    (hs : ts.Pairwise fun a b => a + (d : ℤ) ≤ b) {lo : ℤ} {len : ℕ}
    (hts : ∀ t ∈ ts, lo ≤ t ∧ t ≤ lo + len) : ts.length ≤ len / d + 1 := by
  have hmul := length_mul_le_of_spaced hs (by omega) hts
  have hmul' : ts.length * d ≤ len + d := by
    have : ((ts.length * d : ℕ) : ℤ) ≤ (len + d : ℕ) := by
      push_cast
      linarith
    exact_mod_cast this
  rw [← Nat.add_div_right len hd]
  exact (Nat.le_div_iff_mul_le hd).mpr hmul'

end Reactive
end DroneFirmware

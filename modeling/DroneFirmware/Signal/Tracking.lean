import Mathlib

/-!
# First-order tracking

Three ways in which a controller lets a value follow another one, each a single line of
code that is run again and again.

* `approach`: a step towards a target, at most `up` upwards and `down` downwards.  One step
  stays between the value and the target (`approach_mem_uIcc`); `n` steps towards the same
  target have a closed form on either side of it (`iterate_approach_of_le`,
  `iterate_approach_of_ge`).
* `ema`: the exponential moving average.
* `blend`: the complementary filter, which trusts an integrated rate and corrects it with a
  reference.

The bounds on the last two are the inductive ones: a ball that holds the inputs holds the
average, and a ball that the blend maps into itself holds it for ever.
-/

namespace DroneFirmware
namespace Signal

universe u

/-! ## Steps towards a target -/

section Approach

variable {α : Type u} [AddCommGroup α] [LinearOrder α] [IsOrderedAddMonoid α]

/-- One step of `s` towards `target`, at most `up` upwards and at most `down` downwards. -/
def approach (up down target s : α) : α := s + max (-down) (min (target - s) up)

variable {up down target s : α}

theorem approach_le_add (hup : 0 ≤ up) (hdown : 0 ≤ down) :
    approach up down target s ≤ s + up := by
  refine add_le_add_right (max_le ?_ (min_le_right _ _)) s
  exact (neg_nonpos.mpr hdown).trans hup

theorem sub_le_approach : s - down ≤ approach up down target s := by
  rw [sub_eq_add_neg]
  exact add_le_add_right (le_max_left _ _) s

/-- Below the target the step is up, and the target cuts it. -/
theorem approach_of_le (hup : 0 ≤ up) (hdown : 0 ≤ down) (h : s ≤ target) :
    approach up down target s = min target (s + up) := by
  have hnonneg : 0 ≤ min (target - s) up := le_min (sub_nonneg.mpr h) hup
  rw [approach, max_eq_right ((neg_nonpos.mpr hdown).trans hnonneg), ← min_add_add_left,
    add_sub_cancel]

/-- Above the target the step is down, and the target cuts it. -/
theorem approach_of_ge (hup : 0 ≤ up) (h : target ≤ s) :
    approach up down target s = max target (s - down) := by
  have hnonpos : target - s ≤ up := (sub_nonpos.mpr h).trans hup
  rw [approach, min_eq_left hnonpos, ← max_add_add_left, add_sub_cancel, ← sub_eq_add_neg,
    max_comm]

/-- **No overshoot.**  One step stays between the value and the target. -/
theorem approach_mem_uIcc (hup : 0 ≤ up) (hdown : 0 ≤ down) :
    approach up down target s ∈ Set.uIcc s target := by
  rcases le_total s target with h | h
  · rw [approach_of_le hup hdown h, Set.uIcc_of_le h]
    exact ⟨le_min h (le_add_of_nonneg_right hup), min_le_left _ _⟩
  · rw [approach_of_ge hup h, Set.uIcc_of_ge h]
    exact ⟨le_max_left _ _, max_le h (sub_le_self s hdown)⟩

/-- **`n` steps from below.** -/
theorem iterate_approach_of_le (hup : 0 ≤ up) (hdown : 0 ≤ down) (h : s ≤ target) (n : ℕ) :
    (approach up down target)^[n] s = min target (s + n • up) := by
  induction n with
  | zero => simp [h]
  | succ n ih =>
    rw [Function.iterate_succ_apply', ih, approach_of_le hup hdown (min_le_left _ _),
      ← min_add_add_right, ← min_assoc, min_eq_left (le_add_of_nonneg_right hup), succ_nsmul,
      ← add_assoc]

/-- **`n` steps from above.** -/
theorem iterate_approach_of_ge (hup : 0 ≤ up) (hdown : 0 ≤ down) (h : target ≤ s) (n : ℕ) :
    (approach up down target)^[n] s = max target (s - n • down) := by
  induction n with
  | zero => simp [h]
  | succ n ih =>
    rw [Function.iterate_succ_apply', ih, approach_of_ge hup (le_max_left _ _),
      ← max_sub_sub_right, ← max_assoc, max_eq_left (sub_le_self target hdown), succ_nsmul,
      sub_sub]

end Approach

/-! ## Filters -/

section Filters

variable {K : Type u} [Field K]

/-- The exponential moving average: `y` moves the fraction `a` of the way to `x`. -/
def ema (a x y : K) : K := y + a * (x - y)

/-- The weight `a` on `u` and the rest on `v`. -/
def blend (a u v : K) : K := a * u + (1 - a) * v

theorem ema_eq_blend (a x y : K) : ema a x y = blend a x y := by
  rw [ema, blend]
  ring

variable [LinearOrder K] [IsStrictOrderedRing K]

/-- The blend of two bounded values. -/
theorem abs_blend_le {a u v U V : K} (ha : 0 ≤ a) (ha' : a ≤ 1) (hu : |u| ≤ U) (hv : |v| ≤ V) :
    |blend a u v| ≤ a * U + (1 - a) * V := by
  have hb : 0 ≤ 1 - a := sub_nonneg.mpr ha'
  refine (abs_add_le _ _).trans (add_le_add ?_ ?_)
  · rw [abs_mul, abs_of_nonneg ha]
    exact mul_le_mul_of_nonneg_left hu ha
  · rw [abs_mul, abs_of_nonneg hb]
    exact mul_le_mul_of_nonneg_left hv hb

/-- **A bound on the inputs bounds the average.** -/
theorem abs_ema_le {a x y B : K} (ha : 0 ≤ a) (ha' : a ≤ 1) (hx : |x| ≤ B) (hy : |y| ≤ B) :
    |ema a x y| ≤ B := by
  rw [ema_eq_blend]
  refine (abs_blend_le ha ha' hx hy).trans (le_of_eq ?_)
  ring

/-- **The ball that the complementary filter maps into itself.**  The value drifts by at most
`D` between two corrections and is corrected towards references within `V`: it stays within
`V + a * D / (1 - a)`. -/
theorem abs_blend_drift_le {a x d v D V : K} (ha : 0 ≤ a) (ha' : a < 1) (hd : |d| ≤ D)
    (hv : |v| ≤ V) (hx : |x| ≤ V + a * D / (1 - a)) :
    |blend a (x + d) v| ≤ V + a * D / (1 - a) := by
  have hb : 0 < 1 - a := sub_pos.mpr ha'
  have hsum : |x + d| ≤ V + a * D / (1 - a) + D := (abs_add_le x d).trans (add_le_add hx hd)
  refine (abs_blend_le ha ha'.le hsum hv).trans (le_of_eq ?_)
  field_simp
  ring

end Filters

end Signal
end DroneFirmware

import DroneFirmware.Signal.Tracking

/-!
# What a filter remembers

Two copies of a linear filter that get the same references differ by where they started and by
what drifts into each.  Every correction takes a fixed part of the difference away: what was
there at the start goes to zero, and a drift that differs by the same amount each time settles
at a fixed multiple of that amount.

* `residue`: what some corrections leave of a difference; `residue_succ`: one more of them.
* `blend_sub_blend`, `ema_sub_ema`: one correction of each filter.
-/

namespace DroneFirmware
namespace Signal

universe u

variable {K : Type u} [Field K] {a e : K}

/-- What `n` corrections by the complementary filter leave of a difference `d`, if `e` drifts in
before each. -/
def residue (a e : K) (n : ℕ) (d : K) : K := a ^ n * d + a / (1 - a) * (1 - a ^ n) * e

@[simp] theorem residue_zero (d : K) : residue a e 0 d = d := by simp [residue]

/-- One more correction. -/
theorem residue_succ (ha : a ≠ 1) (n : ℕ) (d : K) :
    residue a e (n + 1) d = a * (residue a e n d + e) := by
  have hne : 1 - a ≠ 0 := sub_ne_zero.mpr ha.symm
  rw [residue, residue, pow_succ]
  field_simp
  ring

/-- **One correction of a difference**, towards the same reference. -/
theorem blend_sub_blend (a x d x' d' v : K) :
    blend a (x + d) v - blend a (x' + d') v = a * (x - x' + (d - d')) := by
  rw [blend, blend]
  ring

/-- One step of two averages towards the same input. -/
theorem ema_sub_ema (a x y y' : K) : ema a x y - ema a x y' = (1 - a) * (y - y') := by
  rw [ema, ema]
  ring

end Signal
end DroneFirmware

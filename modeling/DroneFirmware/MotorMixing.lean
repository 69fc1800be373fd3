import DroneFirmware.MotorController

/-!
# Arithmetic of the mixer

Percentages, pulses, the ramp and the sticks of `motors_set_from_rc`, as facts about
integers.  The callers of this file never unfold the mixer's arithmetic again.

* `clampPct_toNat`: the clamp lands in 0..100 before the narrowing to `uint8_t`.
* `percentOf_pulseOf`: a pulse names its percentage.
* `rampThrottle_eq`: the ramp is a step towards the target, clamped to [-5, 2].
* `throttleTarget_bounds`, `exists_throttleTarget_eq`: the targets of positive sticks.
* `axisMix_stickFor`: every correction up to ±1000 is some stick's.
-/

namespace DroneFirmware

/-- Division toward zero of a number that is not positive. -/
theorem tdiv_of_nonpos {a : ℤ} (h : a ≤ 0) (b : ℤ) : a.tdiv b = -(-a / b) := by
  rw [← Int.tdiv_eq_ediv_of_nonneg (by omega : 0 ≤ -a), Int.neg_tdiv, neg_neg]

/-! ## Percentages and pulses -/

/-- **The clamp.**  The narrowing to `uint8_t` never changes the clamped value. -/
theorem clampPct_toNat (m : ℤ) : (clampPct m).toNat = (max 0 (min m 100)).toNat := by
  have hclamp : (if m < 0 then (0 : ℤ) else if m > 100 then 100 else m) = max 0 (min m 100) := by
    split_ifs <;> omega
  rw [clampPct, hclamp, UInt8.ofInt, UInt8.toNat_ofNat']
  omega

theorem clampPct_toNat_le (m : ℤ) : (clampPct m).toNat ≤ 100 := by
  rw [clampPct_toNat]
  omega

theorem clampPct_eq_iff (m m' : ℤ) :
    clampPct m = clampPct m' ↔ max 0 (min m 100) = max 0 (min m' 100) := by
  rw [← UInt8.toNat_inj, clampPct_toNat, clampPct_toNat]
  omega

/-- The percentage a pulse width stands for; no pulse at all stands for 0 %. -/
def percentOf (pulseNs : ℕ) : ℕ := (pulseNs / 1000 - 1000) / 10

/-- The percentage in force on motor `i`. -/
def Esc.percentInForce (e : Esc) (i : Fin numMotors) : ℕ := percentOf (e.pulseNs i)

@[simp] theorem percentOf_pulseOf (p : UInt8) : percentOf (pulseOf p) = min p.toNat 100 := by
  rw [percentOf, pulseOf]
  omega

/-! ## The ramp -/

theorem rampThrottle_eq (s target : ℤ) :
    rampThrottle s target = s + max (-5) (min (target - s) 2) := by
  simp only [rampThrottle]
  split_ifs <;> omega

/-- The largest target an `int16_t` stick can name. -/
def throttleTargetMax : ℤ := 2562

/-- Targets of positive sticks are between 0 and `throttleTargetMax`. -/
theorem throttleTarget_bounds {rc : DataPackage} (h : 0 < rc.yLeft.toInt) :
    0 ≤ throttleTarget rc ∧ throttleTarget rc ≤ throttleTargetMax := by
  have hhi : rc.yLeft.toInt < 2 ^ 15 := Int16.toInt_lt rc.yLeft
  rw [throttleTarget, motorThrottleMax, rcMax, throttleTargetMax,
    Int.tdiv_eq_ediv_of_nonneg (by omega)]
  omega

/-- Every target between 0 and `throttleTargetMax` is the target of a positive stick. -/
theorem exists_throttleTarget_eq {target : ℤ} (h0 : 0 ≤ target)
    (hmax : target ≤ throttleTargetMax) :
    ∃ yLeft : Int16, 0 < yLeft.toInt ∧
      ∀ rc : DataPackage, rc.yLeft = yLeft → throttleTarget rc = target := by
  rw [throttleTargetMax] at hmax
  have hy : (Int16.ofInt (max 1 ((target * 1023 + 79) / 80))).toInt =
      max 1 ((target * 1023 + 79) / 80) := Int16.toInt_ofInt_of_le (by omega) (by omega)
  refine ⟨_, by rw [hy]; omega, fun rc hrc => ?_⟩
  rw [throttleTarget, hrc, hy, motorThrottleMax, rcMax, Int.tdiv_eq_ediv_of_nonneg (by omega)]
  omega

/-- A ramp value and target in the range keep the ramp in the range. -/
theorem rampThrottle_bounds {s target : ℤ} (hs : 0 ≤ s ∧ s ≤ throttleTargetMax)
    (ht : 0 ≤ target ∧ target ≤ throttleTargetMax) :
    0 ≤ rampThrottle s target ∧ rampThrottle s target ≤ throttleTargetMax := by
  rw [rampThrottle_eq]
  omega

/-- No target is further from 0. -/
theorem throttleTarget_abs_le (rc : DataPackage) : |throttleTarget rc| ≤ throttleTargetMax := by
  have hlo : -2 ^ 15 ≤ rc.yLeft.toInt := Int16.le_toInt rc.yLeft
  have hhi : rc.yLeft.toInt < 2 ^ 15 := Int16.toInt_lt rc.yLeft
  rw [throttleTarget, motorThrottleMax, rcMax, throttleTargetMax, abs_le]
  rcases le_total 0 (rc.yLeft.toInt * 80) with h0 | h0
  · rw [Int.tdiv_eq_ediv_of_nonneg h0]
    omega
  · rw [tdiv_of_nonpos h0]
    omega

/-- The ramp stays within what the targets are within. -/
theorem rampThrottle_abs_le {s target : ℤ} (hs : |s| ≤ throttleTargetMax)
    (ht : |target| ≤ throttleTargetMax) : |rampThrottle s target| ≤ throttleTargetMax := by
  rw [abs_le] at hs ht ⊢
  rw [rampThrottle_eq]
  omega

/-! ## The sticks -/

/-- A stick whose correction is `v`. -/
def stickFor (v : ℤ) : Int16 :=
  Int16.ofInt (512 + if 0 ≤ v then (v * 511 + 19) / 20 else -((-v * 511 + 19) / 20))

/-- **Every correction up to ±1000 is some stick's.** -/
theorem axisMix_stickFor {v : ℤ} (hlo : -1000 ≤ v) (hhi : v ≤ 1000) :
    axisMix (stickFor v) = v := by
  have hhalf : (1023 : ℤ).tdiv 2 = 511 := by decide
  rw [axisMix, stickFor, rcCenter, motorMixingMax, rcMax, hhalf]
  by_cases hv : 0 ≤ v
  · rw [if_pos hv, Int16.toInt_ofInt_of_le (by omega) (by omega),
      Int.tdiv_eq_ediv_of_nonneg (by omega)]
    omega
  · rw [if_neg hv, Int16.toInt_ofInt_of_le (by omega) (by omega), tdiv_of_nonpos (by omega)]
    omega

/-- The X frame: every axis enters the sum of a motor with the sign 1 or -1. -/
theorem exists_mix_signs (i : Fin numMotors) :
    ∃ pitch roll yaw : ℤ, (pitch = 1 ∨ pitch = -1) ∧ (roll = 1 ∨ roll = -1) ∧
      (yaw = 1 ∨ yaw = -1) ∧ ∀ (s : ℤ) (rc : DataPackage), mix s rc i =
        s + pitch * axisMix rc.yRight + roll * axisMix rc.xRight + yaw * axisMix rc.xLeft := by
  fin_cases i
  · exact ⟨1, 1, -1, by simp, by simp, by simp, fun s rc => by simp [mix]; ring⟩
  · exact ⟨1, -1, 1, by simp, by simp, by simp, fun s rc => by simp [mix]; ring⟩
  · exact ⟨-1, 1, 1, by simp, by simp, by simp, fun s rc => by simp [mix]; ring⟩
  · exact ⟨-1, -1, -1, by simp, by simp, by simp, fun s rc => by simp [mix]; ring⟩

/-- A stick that contributes `v` through an axis of either sign. -/
theorem sign_mul_axisMix_stickFor {sign v : ℤ} (hsign : sign = 1 ∨ sign = -1) (hlo : -1000 ≤ v)
    (hhi : v ≤ 1000) : sign * axisMix (stickFor (sign * v)) = v := by
  rcases hsign with rfl | rfl
  · rw [one_mul, one_mul, axisMix_stickFor hlo hhi]
  · rw [axisMix_stickFor (by omega) (by omega)]
    ring

/-- The sticks of a package are neutral: no attitude correction. -/
def DataPackage.Neutral (rc : DataPackage) : Prop :=
  rc.xRight.toInt = rcCenter ∧ rc.yRight.toInt = rcCenter ∧ rc.xLeft.toInt = rcCenter

instance (rc : DataPackage) : Decidable rc.Neutral :=
  inferInstanceAs (Decidable (_ ∧ _ ∧ _))

theorem axisMix_of_center {stick : Int16} (h : stick.toInt = rcCenter) : axisMix stick = 0 := by
  rw [axisMix, h]
  simp

/-- Neutral sticks put the ramp value on every motor. -/
theorem mix_of_neutral {rc : DataPackage} (h : rc.Neutral) (s : ℤ) (i : Fin numMotors) :
    mix s rc i = s := by
  obtain ⟨pitch, roll, yaw, -, -, -, hmix⟩ := exists_mix_signs i
  rw [hmix, axisMix_of_center h.1, axisMix_of_center h.2.1, axisMix_of_center h.2.2]
  ring

end DroneFirmware

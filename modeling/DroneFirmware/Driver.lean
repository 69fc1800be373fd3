import Mathlib

/-!
# Device handles and driver results

The modules of the firmware keep a `static const struct device *` that is null
until their init function assigns it with `DEVICE_DT_GET`, and every driver call
takes that handle.  Driver calls return `0`, or a negative errno.
-/

namespace DroneFirmware

/-- The device-tree nodes whose handles the motor controller and the IMU keep. -/
inductive Device where
  | mcpwm0
  | i2c0
  deriving DecidableEq

/-- What a driver call returns: `0` on success, a negative errno on failure. -/
inductive DriverResult where
  | ok
  /-- The errno, less one: an errno is never zero. -/
  | fail (errnoPred : ℕ)
  deriving DecidableEq

/-- The `int` the caller sees. -/
def DriverResult.code : DriverResult → ℤ
  | ok => 0
  | fail n => -(n + 1)

@[simp] theorem DriverResult.code_ok : ok.code = 0 := rfl

@[simp] theorem DriverResult.code_ne_zero_iff (r : DriverResult) : r.code ≠ 0 ↔ r ≠ ok := by
  cases r with
  | ok => simp
  | fail n =>
    simp only [code, ne_eq, reduceCtorEq, not_false_eq_true, iff_true]
    omega

@[simp] theorem DriverResult.code_neg_iff (r : DriverResult) : r.code < 0 ↔ r ≠ ok := by
  cases r with
  | ok => simp
  | fail n =>
    simp only [code, ne_eq, reduceCtorEq, not_false_eq_true, iff_true]
    omega

/-- `-EINVAL`. -/
def einval : ℤ := -22

/-- `-ENODEV`. -/
def enodev : ℤ := -19

/-- A handle that may be passed to a driver: assigned, and `device_is_ready` said yes. -/
def Usable (ready : Device → Bool) (handle : Option Device) : Prop :=
  ∃ d, handle = some d ∧ ready d = true

instance (ready : Device → Bool) (handle : Option Device) :
    Decidable (Usable ready handle) :=
  match handle with
  | none => .isFalse fun ⟨_, h, _⟩ => nomatch h
  | some d => decidable_of_iff (ready d = true) ⟨fun h => ⟨d, rfl, h⟩, fun ⟨_, hd, h⟩ => by
      cases hd
      exact h⟩

@[simp] theorem usable_some (ready : Device → Bool) (d : Device) :
    Usable ready (some d) ↔ ready d = true := by
  simp [Usable]

@[simp] theorem not_usable_none (ready : Device → Bool) : ¬ Usable ready none := by
  simp [Usable]

end DroneFirmware

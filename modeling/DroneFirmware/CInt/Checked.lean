import DroneFirmware.CText.Decimal

/-!
# Checked `int32_t` arithmetic

In C a signed sum, difference or product that does not fit is undefined, and a conversion to
a narrower unsigned type drops what does not fit.  Here each operation of an expression is a
partial function that says so: `none` is an overflow, or a conversion that changes the value.
An expression that evaluates to `some` has done neither anywhere.

* `exact32`: a value that an `int32_t` holds.
* `add32`, `sub32`, `mul32`, `div32`: the operations; `narrow8`: the conversion to `uint8_t`.
* `exact32_of_abs_le` and its companions: small operands evaluate to the exact result.
-/

namespace DroneFirmware
namespace CInt

open CText

/-- A value as an `int32_t`. -/
def exact32 (v : ℤ) : Option ℤ := if FitsInt v then some v else none

/-- `a + b`. -/
def add32 (a b : ℤ) : Option ℤ := exact32 (a + b)

/-- `a - b`. -/
def sub32 (a b : ℤ) : Option ℤ := exact32 (a - b)

/-- `a * b`. -/
def mul32 (a b : ℤ) : Option ℤ := exact32 (a * b)

/-- `a / b`, which is also undefined for a zero divisor. -/
def div32 (a b : ℤ) : Option ℤ := if b = 0 then none else exact32 (a.tdiv b)

/-- `(uint8_t)v`, when it keeps the value. -/
def narrow8 (v : ℤ) : Option UInt8 := if 0 ≤ v ∧ v ≤ 255 then some (UInt8.ofInt v) else none

theorem exact32_of_abs_le {v : ℤ} (h : |v| ≤ intMax) : exact32 v = some v := by
  rw [abs_le] at h
  refine if_pos ⟨?_, h.2⟩
  rw [intMax] at h
  rw [intMin]
  omega

theorem add32_of_abs_le {a b : ℤ} (h : |a + b| ≤ intMax) : add32 a b = some (a + b) :=
  exact32_of_abs_le h

theorem sub32_of_abs_le {a b : ℤ} (h : |a - b| ≤ intMax) : sub32 a b = some (a - b) :=
  exact32_of_abs_le h

theorem mul32_of_abs_le {a b : ℤ} (h : |a * b| ≤ intMax) : mul32 a b = some (a * b) :=
  exact32_of_abs_le h

theorem div32_of_abs_le {a b : ℤ} (hb : b ≠ 0) (h : |a.tdiv b| ≤ intMax) :
    div32 a b = some (a.tdiv b) := by
  rw [div32, if_neg hb]
  exact exact32_of_abs_le h

theorem narrow8_of_le {v : ℤ} (h0 : 0 ≤ v) (h255 : v ≤ 255) :
    narrow8 v = some (UInt8.ofInt v) := if_pos ⟨h0, h255⟩

end CInt
end DroneFirmware

import Mathlib

/-!
# C strings over bytes

The functions of the C library that a small parser is written with, on lists of bytes.
A pointer into a buffer is the list of the bytes from there on; the string it points to
ends before the first NUL.

* `text`: the string at a pointer.
* `strstr`: the bytes from the first occurrence of a pattern on; `strstr_eq_some_iff`.
* `atoi`: `strtol` in base ten, saturating at the ends of a 32-bit `int`.
* `scanWord`: one `%Ns` conversion of `sscanf`.
* `wrap32`: what a 32-bit `int` holds after an overflow.

Nothing here knows what the strings are about.
-/

namespace DroneFirmware
namespace CText

/-- The bytes of an ASCII literal. -/
def ascii (s : String) : List UInt8 := s.toList.map fun c => UInt8.ofNat c.toNat

/-! ## The string at a pointer -/

/-- The string at a pointer: the bytes before the first NUL. -/
def text (mem : List UInt8) : List UInt8 := mem.takeWhile (· != 0)

@[simp] theorem text_nil : text [] = [] := rfl

/-- A NUL stored after the bytes `l` ends the string there. -/
theorem text_append_nul (l rest : List UInt8) : text (l ++ 0 :: rest) = text l := by
  rw [text, text, List.takeWhile_append]
  split_ifs with h
  · have hall : l.takeWhile (· != 0) = l := (List.takeWhile_prefix _).eq_of_length h
    simp [hall]
  · rfl

/-- A NUL at `n` ends the string there at the latest. -/
theorem length_text_le {mem : List UInt8} {n : ℕ} (h : mem[n]? = some 0) :
    (text mem).length ≤ n := by
  obtain ⟨hlt, hget⟩ := List.getElem?_eq_some_iff.mp h
  have hsplit : mem = mem.take n ++ 0 :: mem.drop (n + 1) := by
    rw [← hget, ← List.drop_eq_getElem_cons hlt, List.take_append_drop]
  rw [hsplit, text_append_nul]
  exact (List.takeWhile_prefix _).length_le.trans (List.length_take_le _ _)

/-! ## Searching -/

/-- `strstr`: the bytes from the first occurrence of `needle` on. -/
def strstr (needle : List UInt8) : List UInt8 → Option (List UInt8)
  | [] => if needle.isPrefixOf [] then some [] else none
  | b :: hay => if needle.isPrefixOf (b :: hay) then some (b :: hay) else strstr needle hay

/-- **The first occurrence.**  What `strstr` returns starts with the pattern, and no earlier
place of the string does. -/
theorem strstr_eq_some_iff (needle : List UInt8) (hay found : List UInt8) :
    strstr needle hay = some found ↔
      ∃ pre, hay = pre ++ found ∧ needle <+: found ∧
        ∀ n < pre.length, ¬ needle <+: hay.drop n := by
  induction hay with
  | nil =>
    simp only [strstr, List.isPrefixOf_iff_prefix]
    constructor
    · intro h
      split_ifs at h with hp
      cases h
      exact ⟨[], rfl, hp, by simp⟩
    · rintro ⟨pre, hpre, hp, -⟩
      obtain ⟨rfl, rfl⟩ := List.append_eq_nil_iff.mp hpre.symm
      rw [if_pos hp]
  | cons b hay ih =>
    simp only [strstr, List.isPrefixOf_iff_prefix]
    constructor
    · intro h
      split_ifs at h with hp
      · cases h
        exact ⟨[], rfl, hp, by simp⟩
      · obtain ⟨pre, rfl, hf, hmin⟩ := ih.mp h
        refine ⟨b :: pre, rfl, hf, fun n hn => ?_⟩
        cases n with
        | zero => exact hp
        | succ n => exact hmin n (by simpa using hn)
    · rintro ⟨pre, hpre, hf, hmin⟩
      cases pre with
      | nil =>
        rw [List.nil_append] at hpre
        rw [if_pos (hpre ▸ hf), hpre]
      | cons c pre =>
        rw [List.cons_append, List.cons.injEq] at hpre
        have hfirst : ¬ needle <+: b :: hay := hmin 0 (by simp)
        rw [if_neg hfirst]
        refine ih.mpr ⟨pre, hpre.2, hf, fun n hn => ?_⟩
        exact hmin (n + 1) (by simpa using hn)

/-- Whether a pattern first occurs behind the bytes `pre` does not depend on what follows it. -/
theorem strstr_append_append {needle pre : List UInt8}
    (h : strstr needle (pre ++ needle) = some needle) (rest : List UInt8) :
    strstr needle (pre ++ (needle ++ rest)) = some (needle ++ rest) := by
  obtain ⟨pre', hpre, -, hfirst⟩ := (strstr_eq_some_iff _ _ _).mp h
  obtain rfl := List.append_cancel_right hpre
  refine (strstr_eq_some_iff _ _ _).mpr ⟨pre, rfl, List.prefix_append _ _, fun n hn hoccurs => ?_⟩
  refine hfirst n hn ?_
  rw [← List.append_assoc, List.drop_append_of_le_length (by simp; omega)] at hoccurs
  refine List.prefix_of_prefix_length_le hoccurs (List.prefix_append _ _) ?_
  rw [List.length_drop, List.length_append]
  omega

/-! ## Numbers and words -/

/-- `isspace`. -/
def isSpace (b : UInt8) : Bool := b == 0x20 || (0x09 ≤ b && b ≤ 0x0D)

/-- `isdigit`. -/
def isDigit (b : UInt8) : Bool := 0x30 ≤ b && b ≤ 0x39

/-- The value of the decimal digits a string starts with. -/
def decimal (s : List UInt8) : ℕ :=
  (s.takeWhile isDigit).foldl (fun n d => 10 * n + (d.toNat - 0x30)) 0

/-- The smallest `int`. -/
def intMin : ℤ := -2 ^ 31

/-- The largest `int`. -/
def intMax : ℤ := 2 ^ 31 - 1

/-- `atoi`: leading white space, a sign, digits; out-of-range values saturate. -/
def atoi (s : List UInt8) : ℤ :=
  match s.dropWhile isSpace with
  | 0x2D :: digits => max intMin (-(decimal digits))
  | 0x2B :: digits => min intMax (decimal digits)
  | digits => min intMax (decimal digits)

/-- What an `int` holds after a computation that overflowed. -/
def wrap32 (v : ℤ) : ℤ := v.bmod (2 ^ 32)

/-- One `%Ns` conversion: skip white space, then take up to `width` other bytes.  The
conversion fails when there is none. -/
def scanWord (width : ℕ) (s : List UInt8) : Option (List UInt8 × List UInt8) :=
  let s := s.dropWhile isSpace
  let word := (s.takeWhile fun b => !isSpace b).take width
  if word.isEmpty then none else some (word, s.drop word.length)

/-- `sscanf(s, "%ms %ns", first, second) == 2`. -/
def scanTwoWords (width₁ width₂ : ℕ) (s : List UInt8) : Option (List UInt8 × List UInt8) :=
  (scanWord width₁ s).bind fun first =>
    (scanWord width₂ first.2).map fun second => (first.1, second.1)

end CText
end DroneFirmware

import DroneFirmware.CText.Strings

/-!
# Integers in decimal

The decimal text of an integer, as a printer writes it --- a minus sign if it is negative,
no leading zeros, no plus sign --- and `atoi` as its inverse.

* `natText`, `intText`: the text.
* `decimal_natText_append`: the digits are read back up to the first byte that is no digit.
* `atoi_intText_append`: so is a signed number, if it is an `int`.
* `length_intText_le`, `head?_natText`: how long the text is, and that it has no leading zero.
-/

namespace DroneFirmware
namespace CText

/-- The decimal digits of a natural number. -/
def natText (n : ℕ) : List UInt8 := (Nat.toDigits 10 n).map fun c => UInt8.ofNat c.toNat

/-- The decimal text of an integer. -/
def intText (v : ℤ) : List UInt8 := if v < 0 then 0x2D :: natText v.natAbs else natText v.natAbs

/-- The integer is the value of an `int`. -/
def FitsInt (v : ℤ) : Prop := intMin ≤ v ∧ v ≤ intMax

instance (v : ℤ) : Decidable (FitsInt v) := inferInstanceAs (Decidable (_ ∧ _))

/-- A number ends before the bytes `rest`: they do not go on with a digit. -/
def NumberEnds (rest : List UInt8) : Prop := ∀ b ∈ rest.head?, isDigit b = false

/-! ## Digits -/

theorem toNat_digit {c : Char} (h : c.isDigit = true) :
    (UInt8.ofNat c.toNat).toNat = c.toNat ∧ 0x30 ≤ c.toNat ∧ c.toNat ≤ 0x39 := by
  have hc := Char.isDigit_iff_toNat.mp h
  have h0 : '0'.toNat = 0x30 := rfl
  have h9 : '9'.toNat = 0x39 := rfl
  rw [h0, h9] at hc
  refine ⟨?_, hc⟩
  rw [UInt8.toNat_ofNat']
  omega

theorem isDigit_iff (b : UInt8) : isDigit b = true ↔ 0x30 ≤ b.toNat ∧ b.toNat ≤ 0x39 := by
  have h0 : (0x30 : UInt8).toNat = 0x30 := rfl
  have h9 : (0x39 : UInt8).toNat = 0x39 := rfl
  rw [isDigit, Bool.and_eq_true, decide_eq_true_iff, decide_eq_true_iff, UInt8.le_iff_toNat_le,
    UInt8.le_iff_toNat_le, h0, h9]

theorem isDigit_of_mem_natText {n : ℕ} {b : UInt8} (h : b ∈ natText n) : isDigit b = true := by
  obtain ⟨c, hc, rfl⟩ := List.mem_map.mp h
  obtain ⟨hb, hlo, hhi⟩ := toNat_digit (Nat.isDigit_of_mem_toDigits (by omega) le_rfl hc)
  rw [isDigit_iff, hb]
  exact ⟨hlo, hhi⟩

theorem natText_ne_nil (n : ℕ) : natText n ≠ [] := by
  rw [natText, Ne, List.map_eq_nil_iff]
  exact Nat.toDigits_ne_nil

/-- The digits of a number, and nothing of what follows it. -/
theorem takeWhile_natText_append {rest : List UInt8} (hrest : NumberEnds rest) (n : ℕ) :
    (natText n ++ rest).takeWhile isDigit = natText n := by
  have hdigits : (natText n).takeWhile isDigit = natText n :=
    List.takeWhile_eq_self_iff.mpr fun b hb => isDigit_of_mem_natText hb
  have hend : rest.takeWhile isDigit = [] := by
    cases rest with
    | nil => rfl
    | cons b rest => rw [List.takeWhile_cons_of_neg (by simp [hrest b rfl])]
  rw [List.takeWhile_append, hdigits, if_pos rfl, hend, List.append_nil]

/-- **Digits are read back.** -/
theorem decimal_natText_append {rest : List UInt8} (hrest : NumberEnds rest) (n : ℕ) :
    decimal (natText n ++ rest) = n := by
  rw [decimal, takeWhile_natText_append hrest, natText, List.foldl_map]
  have hfold : ∀ (l : List Char) (init : ℕ), (∀ c ∈ l, c.isDigit = true) →
      l.foldl (fun n c => 10 * n + ((UInt8.ofNat c.toNat).toNat - 0x30)) init =
        Nat.ofDigitChars 10 l init := by
    intro l
    induction l with
    | nil => intro init _; rfl
    | cons c l ih =>
      intro init hl
      rw [List.foldl_cons, ih _ fun d hd => hl d (by simp [hd]), Nat.ofDigitChars_cons,
        (toNat_digit (hl c (by simp))).1]
      rfl
  rw [hfold _ _ fun c hc => Nat.isDigit_of_mem_toDigits (by omega) le_rfl hc]
  exact Nat.ofDigitChars_ten_toDigits

/-! ## Signed numbers -/

/-- The bytes of a number are a minus sign and digits. -/
theorem mem_intText {v : ℤ} {b : UInt8} (h : b ∈ intText v) : b = 0x2D ∨ isDigit b = true := by
  rw [intText] at h
  split_ifs at h
  · rcases List.mem_cons.mp h with rfl | h
    · exact Or.inl rfl
    · exact Or.inr (isDigit_of_mem_natText h)
  · exact Or.inr (isDigit_of_mem_natText h)

/-- A digit is neither white space nor a sign. -/
theorem isDigit_separate {b : UInt8} (h : isDigit b = true) :
    isSpace b = false ∧ b ≠ 0x2D ∧ b ≠ 0x2B ∧ b ≠ 0x20 ∧ b ≠ 0x22 ∧ b ≠ 0 := by
  rw [isDigit_iff] at h
  have hne : ∀ c : UInt8, c.toNat < 0x30 → b ≠ c := by
    rintro c hc rfl
    omega
  refine ⟨?_, hne _ (by decide), hne _ (by decide), hne _ (by decide), hne _ (by decide),
    hne _ (by decide)⟩
  have hd : (0x0D : UInt8).toNat = 0x0D := rfl
  rw [isSpace, Bool.or_eq_false_iff, Bool.and_eq_false_iff, beq_eq_false_iff_ne,
    decide_eq_false_iff_not, decide_eq_false_iff_not, UInt8.le_iff_toNat_le, UInt8.le_iff_toNat_le,
    hd]
  exact ⟨hne _ (by decide), Or.inr (by omega)⟩

theorem ne_of_mem_intText {v : ℤ} {b : UInt8} (h : b ∈ intText v) :
    b ≠ 0x20 ∧ b ≠ 0x22 ∧ b ≠ 0 := by
  rcases mem_intText h with rfl | hd
  · decide
  · obtain ⟨-, -, -, hne⟩ := isDigit_separate hd
    exact hne

/-- **`atoi` reads a printed `int` back**, up to the first byte that is no digit. -/
theorem atoi_intText_append {v : ℤ} (hv : FitsInt v) {rest : List UInt8}
    (hrest : NumberEnds rest) : atoi (intText v ++ rest) = v := by
  obtain ⟨hlo, hhi⟩ := hv
  rw [intMin] at hlo
  rw [intMax] at hhi
  by_cases hneg : v < 0
  · rw [intText, if_pos hneg, List.cons_append, atoi,
      List.dropWhile_cons_of_neg (by decide)]
    show max intMin (-(decimal (natText v.natAbs ++ rest) : ℤ)) = v
    rw [decimal_natText_append hrest, intMin]
    omega
  · rw [intText, if_neg hneg, atoi]
    have hvalue := decimal_natText_append hrest v.natAbs
    obtain ⟨d, digits, hd⟩ := List.exists_cons_of_ne_nil (natText_ne_nil v.natAbs)
    obtain ⟨hspace, hminus, hplus, -⟩ :=
      isDigit_separate (isDigit_of_mem_natText (n := v.natAbs) (b := d) (by rw [hd]; simp))
    rw [hd, List.cons_append] at hvalue ⊢
    rw [List.dropWhile_cons_of_neg (by simp [hspace])]
    split
    · rename_i heq
      exact absurd (List.cons.inj heq).1 hminus
    · rename_i heq
      exact absurd (List.cons.inj heq).1 hplus
    · rw [hvalue, intMax]
      omega

/-! ## The length and the first digit -/

theorem length_natText_le_iff {n k : ℕ} (hk : 0 < k) :
    (natText n).length ≤ k ↔ n < 10 ^ k := by
  rw [natText, List.length_map, Nat.length_toDigits_le_iff (by omega) hk]

/-- **A printed `int` takes eleven bytes at most**: ten digits and a sign. -/
theorem length_intText_le {v : ℤ} (hv : FitsInt v) : (intText v).length ≤ 11 := by
  obtain ⟨hlo, hhi⟩ := hv
  rw [intMin] at hlo
  rw [intMax] at hhi
  have hdigits : (natText v.natAbs).length ≤ 10 :=
    (length_natText_le_iff (by omega)).mpr (by omega)
  rw [intText]
  split_ifs
  · rw [List.length_cons]
    omega
  · omega

/-- A number that is not zero is printed without a leading zero. -/
theorem head?_natText {n : ℕ} (hn : 0 < n) : (natText n).head? ≠ some 0x30 := by
  induction n using Nat.strong_induction_on with
  | _ n ih =>
    by_cases hsmall : n < 10
    · rw [natText, Nat.toDigits_of_lt_base hsmall]
      intro h
      have hdigit := Nat.toNat_digitChar_of_lt_ten hsmall
      have hbyte := congrArg UInt8.toNat (Option.some.inj h)
      have hzero : (0x30 : UInt8).toNat = 48 := rfl
      rw [UInt8.toNat_ofNat', hdigit, hzero] at hbyte
      omega
    · -- the first digit is that of the number without its last one
      have htail := ih (n / 10) (by omega) (by omega)
      have hne := natText_ne_nil (n / 10)
      rw [natText, Nat.toDigits_of_base_le (by omega) (by omega), List.map_append, ← natText,
        List.head?_append_of_ne_nil _ hne]
      exact htail

end CText
end DroneFirmware

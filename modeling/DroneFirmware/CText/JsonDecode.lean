import DroneFirmware.CText.Decimal

/-!
# Reading a flat JSON object

A decoder for the JSON texts of objects whose members are integers and strings, and the text
that a printer without spaces writes.  The decoder reads less than JSON: it refuses escapes in
strings, fractions and exponents in numbers, and every other kind of value.  What it accepts it
reads as JSON does --- white space around the tokens, no leading zeros, nothing after the
closing brace.

* `decodeObject`: the members of a text.
* `objectText`: the text of some members.
* `decodeObject_objectText`: printed members are read back.
-/

namespace DroneFirmware
namespace CText

/-! ## Values -/

/-- A value of a member. -/
inductive JsonScalar where
  | int (v : ℤ)
  | str (bytes : List UInt8)
  deriving DecidableEq

/-- The members of an object, in the order of the text. -/
abbrev JsonMembers := List (List UInt8 × JsonScalar)

/-- The value of a name.  Where a name is repeated the last member counts. -/
def JsonMembers.field (ms : JsonMembers) (name : List UInt8) : Option JsonScalar :=
  (ms.reverse.find? fun m => m.1 = name).map Prod.snd

/-! ## The decoder -/

/-- The white space of JSON. -/
def isJsonSpace (b : UInt8) : Bool := b == 0x20 || b == 0x09 || b == 0x0A || b == 0x0D

def skipJsonSpace (s : List UInt8) : List UInt8 := s.dropWhile isJsonSpace

/-- A byte that stands for itself in a string: no quote, no backslash, no control character. -/
def isPlain (b : UInt8) : Bool := b != 0x22 && b != 0x5C && 0x20 ≤ b

/-- A string without escapes, and what follows its closing quote. -/
def readJsonString : List UInt8 → Option (List UInt8 × List UInt8)
  | 0x22 :: s =>
      let body := s.takeWhile isPlain
      match s.drop body.length with
      | 0x22 :: rest => some (body, rest)
      | _ => none
  | _ => none

/-- The digits of a number, without a leading zero, and what follows them. -/
def readJsonDigits (s : List UInt8) : Option (ℕ × List UInt8) :=
  let digits := s.takeWhile isDigit
  if digits = [] ∨ (digits.head? = some 0x30 ∧ digits ≠ [0x30]) then none
  else some (decimal s, s.drop digits.length)

/-- A fraction or an exponent begins. -/
def isNumberTail (b : UInt8) : Bool := b == 0x2E || b == 0x65 || b == 0x45

/-- An integer, and what follows it. -/
def readJsonInt (s : List UInt8) : Option (ℤ × List UInt8) :=
  let r : Option (ℤ × List UInt8) :=
    match s with
    | 0x2D :: s => (readJsonDigits s).map fun r => (-(r.1 : ℤ), r.2)
    | s => (readJsonDigits s).map fun r => ((r.1 : ℤ), r.2)
  r.filter fun r => !(r.2.head?.any isNumberTail)

/-- A string or an integer. -/
def readJsonScalar (s : List UInt8) : Option (JsonScalar × List UInt8) :=
  if s.head? = some 0x22 then (readJsonString s).map fun r => (.str r.1, r.2)
  else (readJsonInt s).map fun r => (.int r.1, r.2)

/-- The name of a member, and what follows its colon. -/
def readJsonName (s : List UInt8) : Option (List UInt8 × List UInt8) :=
  (readJsonString (skipJsonSpace s)).bind fun name =>
    match skipJsonSpace name.2 with
    | 0x3A :: s => some (name.1, skipJsonSpace s)
    | _ => none

/-- The members from a name on, up to the closing brace and the end of the text; at most as
many as the fuel. -/
def readJsonMembers : ℕ → List UInt8 → Option JsonMembers
  | 0, _ => none
  | fuel + 1, s =>
      (readJsonName s).bind fun name =>
        (readJsonScalar name.2).bind fun value =>
          match skipJsonSpace value.2 with
          | 0x2C :: s => (readJsonMembers fuel s).map fun ms => (name.1, value.1) :: ms
          | 0x7D :: s => if skipJsonSpace s = [] then some [(name.1, value.1)] else none
          | _ => none

/-- The members of an object.  A text has no more members than bytes. -/
def decodeObject (s : List UInt8) : Option JsonMembers :=
  match skipJsonSpace s with
  | 0x7B :: s =>
      match skipJsonSpace s with
      | 0x7D :: s => if skipJsonSpace s = [] then some [] else none
      | s => readJsonMembers s.length s
  | _ => none

/-! ## The printer -/

/-- The text of a value. -/
def JsonScalar.text : JsonScalar → List UInt8
  | int v => intText v
  | str bytes => 0x22 :: (bytes ++ [0x22])

/-- The text of a member. -/
def memberText (m : List UInt8 × JsonScalar) : List UInt8 :=
  0x22 :: (m.1 ++ 0x22 :: 0x3A :: m.2.text)

/-- The text of some members, the first of them `m`, with the closing brace. -/
def membersText (m : List UInt8 × JsonScalar) : JsonMembers → List UInt8
  | [] => memberText m ++ [0x7D]
  | m' :: ms => memberText m ++ 0x2C :: membersText m' ms

/-- The text of an object. -/
def objectText : JsonMembers → List UInt8
  | [] => [0x7B, 0x7D]
  | m :: ms => 0x7B :: membersText m ms

/-- The name and the value of the member need no escapes. -/
def PlainMember (m : List UInt8 × JsonScalar) : Prop :=
  (∀ b ∈ m.1, isPlain b = true) ∧ ∀ bytes, m.2 = .str bytes → ∀ b ∈ bytes, isPlain b = true

/-! ## Reading back -/

theorem skipJsonSpace_cons {b : UInt8} (h : isJsonSpace b = false) (s : List UInt8) :
    skipJsonSpace (b :: s) = b :: s :=
  List.dropWhile_cons_of_neg (by simp [h])

/-- A printed string is read back. -/
theorem readJsonString_append {body : List UInt8} (h : ∀ b ∈ body, isPlain b = true)
    (rest : List UInt8) : readJsonString (0x22 :: (body ++ 0x22 :: rest)) = some (body, rest) := by
  have htake : (body ++ 0x22 :: rest).takeWhile isPlain = body := by
    rw [List.takeWhile_append_of_pos h, List.takeWhile_cons_of_neg (by decide), List.append_nil]
  simp only [readJsonString, htake, List.drop_left]

/-- Printed digits are read back. -/
theorem readJsonDigits_append {rest : List UInt8} (hrest : NumberEnds rest) (n : ℕ) :
    readJsonDigits (natText n ++ rest) = some (n, rest) := by
  have hlead : ¬ (natText n = [] ∨ ((natText n).head? = some 0x30 ∧ natText n ≠ [0x30])) := by
    rintro (h | ⟨h, hne⟩)
    · exact natText_ne_nil n h
    · rcases Nat.eq_zero_or_pos n with rfl | hn
      · exact hne rfl
      · exact head?_natText hn h
  simp only [readJsonDigits, takeWhile_natText_append hrest, if_neg hlead,
    decimal_natText_append hrest, List.drop_left]

/-- **A printed integer is read back**, if neither a digit nor a fraction follows. -/
theorem readJsonInt_append {rest : List UInt8} (hrest : NumberEnds rest)
    (htail : ∀ b ∈ rest.head?, isNumberTail b = false) (v : ℤ) :
    readJsonInt (intText v ++ rest) = some (v, rest) := by
  have hfilter : (!(rest.head?.any isNumberTail)) = true := by
    cases h : rest.head? with
    | none => rfl
    | some b => simp [htail b h]
  by_cases hneg : v < 0
  · have hv : -(v.natAbs : ℤ) = v := by omega
    rw [intText, if_pos hneg, List.cons_append]
    simp only [readJsonInt, readJsonDigits_append hrest, Option.map_some, hv, Option.filter_some,
      hfilter, if_true]
  · have hv : (v.natAbs : ℤ) = v := by omega
    obtain ⟨d, digits, hd⟩ := List.exists_cons_of_ne_nil (natText_ne_nil v.natAbs)
    obtain ⟨-, hminus, -⟩ :=
      isDigit_separate (isDigit_of_mem_natText (n := v.natAbs) (b := d) (by rw [hd]; simp))
    have hread := readJsonDigits_append hrest v.natAbs
    rw [intText, if_neg hneg]
    rw [hd, List.cons_append] at hread ⊢
    rw [readJsonInt]
    · simp only [hread, Option.map_some, hv, Option.filter_some, hfilter, if_true]
    · rintro s heq
      exact hminus (List.cons.inj heq).1

/-- A value ends before the bytes `rest`: they go on neither with a digit nor with a fraction. -/
def ValueEnds (rest : List UInt8) : Prop :=
  ∀ b ∈ rest.head?, isDigit b = false ∧ isNumberTail b = false

theorem valueEnds_comma (rest : List UInt8) : ValueEnds (0x2C :: rest) := by
  intro b hb
  cases hb
  decide

theorem valueEnds_brace (rest : List UInt8) : ValueEnds (0x7D :: rest) := by
  intro b hb
  cases hb
  decide

/-- The first byte of an integer is a minus sign or a digit. -/
theorem exists_intText_eq_cons (v : ℤ) :
    ∃ b s, intText v = b :: s ∧ isJsonSpace b = false ∧ b ≠ 0x22 := by
  by_cases hneg : v < 0
  · exact ⟨0x2D, _, if_pos hneg, rfl, by decide⟩
  · obtain ⟨d, digits, hd⟩ := List.exists_cons_of_ne_nil (natText_ne_nil v.natAbs)
    have hdigit := isDigit_of_mem_natText (n := v.natAbs) (b := d) (by rw [hd]; simp)
    refine ⟨d, digits, by rw [intText, if_neg hneg, hd], ?_, (isDigit_separate hdigit).2.2.2.2.1⟩
    rw [isDigit_iff] at hdigit
    have hne : ∀ c : UInt8, c.toNat < 0x30 → d ≠ c := by
      rintro c hc rfl
      omega
    simp [isJsonSpace, hne 0x20 (by decide), hne 0x09 (by decide), hne 0x0A (by decide),
      hne 0x0D (by decide)]

theorem skipJsonSpace_scalar (value : JsonScalar) (rest : List UInt8) :
    skipJsonSpace (value.text ++ rest) = value.text ++ rest := by
  cases value with
  | int v =>
    obtain ⟨b, s, hs, hspace, -⟩ := exists_intText_eq_cons v
    rw [JsonScalar.text, hs, List.cons_append, skipJsonSpace_cons hspace]
  | str bytes => exact skipJsonSpace_cons (by decide) _

/-- A printed value is read back. -/
theorem readJsonScalar_append {m : List UInt8 × JsonScalar} (h : PlainMember m)
    {rest : List UInt8} (hrest : ValueEnds rest) :
    readJsonScalar (m.2.text ++ rest) = some (m.2, rest) := by
  obtain ⟨name, value⟩ := m
  cases value with
  | int v =>
    obtain ⟨b, s, hs, -, hquote⟩ := exists_intText_eq_cons v
    have hread := readJsonInt_append (fun b hb => (hrest b hb).1) (fun b hb => (hrest b hb).2) v
    rw [JsonScalar.text, readJsonScalar, hread, if_neg]
    · rfl
    · rw [hs]
      simp [hquote]
  | str bytes =>
    have hread := readJsonString_append (h.2 bytes rfl) rest
    have htext : (JsonScalar.str bytes).text ++ rest = 0x22 :: (bytes ++ 0x22 :: rest) := by
      simp [JsonScalar.text]
    have hquote : (0x22 :: (bytes ++ 0x22 :: rest)).head? = some 0x22 := rfl
    rw [htext, readJsonScalar, if_pos hquote, hread, Option.map_some]

/-- The name of a printed member is read back, up to its value. -/
theorem readJsonName_memberText {m : List UInt8 × JsonScalar} (h : PlainMember m)
    (rest : List UInt8) : readJsonName (memberText m ++ rest) = some (m.1, m.2.text ++ rest) := by
  have hread := readJsonString_append h.1 (0x3A :: (m.2.text ++ rest))
  have hcolon : skipJsonSpace (0x3A :: (m.2.text ++ rest)) = 0x3A :: (m.2.text ++ rest) :=
    skipJsonSpace_cons (by decide) _
  have htext : memberText m ++ rest =
      0x22 :: (m.1 ++ 0x22 :: 0x3A :: (m.2.text ++ rest)) := by simp [memberText]
  rw [htext, readJsonName, skipJsonSpace_cons (by decide), hread, Option.bind_some]
  simp only [hcolon, skipJsonSpace_scalar]

/-- The members are read back one after another. -/
theorem readJsonMembers_membersText {m : List UInt8 × JsonScalar} {ms : JsonMembers}
    (h : ∀ m' ∈ m :: ms, PlainMember m') {fuel : ℕ} (hfuel : ms.length < fuel) :
    readJsonMembers fuel (membersText m ms) = some (m :: ms) := by
  induction ms generalizing m fuel with
  | nil =>
    obtain ⟨fuel, rfl⟩ := Nat.exists_eq_succ_of_ne_zero (by omega : fuel ≠ 0)
    have hm := h m (by simp)
    have hbrace : skipJsonSpace [0x7D] = [0x7D] := rfl
    rw [membersText, readJsonMembers, readJsonName_memberText hm, Option.bind_some,
      readJsonScalar_append hm (valueEnds_brace _), Option.bind_some]
    simp only [hbrace]
    rfl
  | cons m' ms ih =>
    obtain ⟨fuel, rfl⟩ := Nat.exists_eq_succ_of_ne_zero (by omega : fuel ≠ 0)
    have hm := h m (by simp)
    have hmore := ih (m := m') (fun m hmem => h m (List.mem_cons_of_mem _ hmem))
      (show ms.length < fuel by simpa using hfuel)
    rw [membersText, readJsonMembers, readJsonName_memberText hm, Option.bind_some,
      readJsonScalar_append hm (valueEnds_comma _), Option.bind_some]
    simp only [skipJsonSpace_cons (show isJsonSpace 0x2C = false by decide), hmore,
      Option.map_some]

/-- There are no more members than bytes. -/
theorem length_lt_length_membersText (m : List UInt8 × JsonScalar) (ms : JsonMembers) :
    ms.length < (membersText m ms).length := by
  induction ms generalizing m with
  | nil => simp [membersText]
  | cons m' ms ih =>
    have htail := ih m'
    rw [membersText, List.length_append, List.length_cons, List.length_cons]
    omega

/-- **A printed object is read back**, member by member. -/
theorem decodeObject_objectText {ms : JsonMembers} (h : ∀ m ∈ ms, PlainMember m) :
    decodeObject (objectText ms) = some ms := by
  cases ms with
  | nil => rfl
  | cons m ms =>
    have hread := readJsonMembers_membersText h (length_lt_length_membersText m ms)
    obtain ⟨s, hs⟩ : ∃ s, membersText m ms = 0x22 :: s := by
      cases ms <;> exact ⟨_, rfl⟩
    rw [hs] at hread
    rw [objectText, hs, decodeObject, skipJsonSpace_cons (by decide)]
    simp only [skipJsonSpace_cons (show isJsonSpace 0x22 = false by decide)]
    exact hread

end CText
end DroneFirmware

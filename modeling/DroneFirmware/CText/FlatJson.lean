import DroneFirmware.CText.Decimal

/-!
# Flat JSON objects of integers

The text of an object whose members are integers, and the member that a search for
`"key":` finds in it.  A search knows nothing of JSON; it is right here because a quote
stands at the two ends of a key and nowhere else.

* `Member`, `FlatObject`: an object whose keys hold no quote and are distinct.
* `FlatObject.text`: its text, with spaces allowed after the colons.
* `strstr_keyPattern`: the first occurrence of `"key":` is at the member of that key.
-/

namespace DroneFirmware
namespace CText

/-! ## Objects and their text -/

/-- A member `"key": value`.  A key is written as it is: it holds no quote, and no NUL, which
JSON text never does. -/
structure Member where
  key : List UInt8
  quoteFree : 0x22 ∉ key
  noNul : 0 ∉ key
  /-- The number of spaces after the colon. -/
  spaces : ℕ
  value : ℤ

/-- The text of a member. -/
def Member.text (m : Member) : List UInt8 :=
  0x22 :: (m.key ++ 0x22 :: 0x3A :: (List.replicate m.spaces 0x20 ++ intText m.value))

/-- The text of the members after the first, with the closing brace. -/
def moreText : List Member → List UInt8
  | [] => [0x7D]
  | m :: ms => 0x2C :: (m.text ++ moreText ms)

/-- An object with distinct keys. -/
structure FlatObject where
  members : List Member
  nodup : (members.map Member.key).Nodup

/-- The text of an object. -/
def FlatObject.text (o : FlatObject) : List UInt8 :=
  match o.members with
  | [] => [0x7B, 0x7D]
  | m :: ms => 0x7B :: (m.text ++ moreText ms)

/-- What is searched for to find a key. -/
def keyPattern (key : List UInt8) : List UInt8 := 0x22 :: (key ++ [0x22, 0x3A])

/-! ## Searching past bytes that are no occurrence -/

theorem strstr_of_occurs {needle hay : List UInt8} (h : needle <+: hay) :
    strstr needle hay = some hay :=
  (strstr_eq_some_iff needle hay hay).mpr ⟨[], rfl, h, by simp⟩

theorem strstr_cons_of_not_occurs {needle hay : List UInt8} {b : UInt8}
    (h : ¬ needle <+: b :: hay) : strstr needle (b :: hay) = strstr needle hay := by
  rw [strstr, if_neg]
  rwa [List.isPrefixOf_iff_prefix]

/-- Bytes that are not the pattern's first are skipped. -/
theorem strstr_append_of_notMem {c : UInt8} {pre : List UInt8} (h : c ∉ pre)
    (needle hay : List UInt8) : strstr (c :: needle) (pre ++ hay) = strstr (c :: needle) hay := by
  induction pre with
  | nil => rfl
  | cons b pre ih =>
    rw [List.mem_cons, not_or] at h
    rw [List.cons_append, strstr_cons_of_not_occurs, ih h.2]
    rw [List.cons_prefix_cons]
    exact fun hp => h.1 hp.1

/-! ## One member -/

/-- Two keys that are followed by a quote and agree up to there are one key. -/
theorem eq_of_quoted {k k' s s' : List UInt8} (hk : 0x22 ∉ k) (hk' : 0x22 ∉ k')
    (h : k ++ 0x22 :: s <+: k' ++ 0x22 :: s') : k = k' := by
  induction k generalizing k' with
  | nil =>
    cases k' with
    | nil => rfl
    | cons b k' =>
      rw [List.nil_append, List.cons_append, List.cons_prefix_cons] at h
      exact absurd (by simp [h.1]) hk'
  | cons b k ih =>
    cases k' with
    | nil =>
      rw [List.nil_append, List.cons_append, List.cons_prefix_cons] at h
      exact absurd (by simp [h.1]) hk
    | cons b' k' =>
      rw [List.cons_append, List.cons_append, List.cons_prefix_cons] at h
      rw [List.mem_cons, not_or] at hk hk'
      rw [h.1, ih hk.2 hk'.2 h.2]

/-- After the closing quote of a key there is no quote up to the next member. -/
theorem quote_notMem_value (m : Member) :
    0x22 ∉ 0x3A :: (List.replicate m.spaces 0x20 ++ intText m.value) := by
  simp only [List.mem_cons, List.mem_append, List.mem_replicate, not_or]
  refine ⟨by decide, fun h => absurd h.2 (by decide), fun h => ?_⟩
  exact (ne_of_mem_intText h).2.1 rfl

/-- **A search goes past the members of other keys.**  The opening quote does not match
because the keys differ, the closing one because a colon follows it. -/
theorem strstr_keyPattern_skip {key : List UInt8} (hq : 0x22 ∉ key) (hcolon : key.head? ≠ some 0x3A)
    {m : Member} (hne : m.key ≠ key) (rest : List UInt8) :
    strstr (keyPattern key) (m.text ++ rest) = strstr (keyPattern key) rest := by
  have hopen : ¬ keyPattern key <+: m.text ++ rest := by
    rw [keyPattern, Member.text, List.cons_append, List.cons_prefix_cons, List.append_assoc]
    rintro ⟨-, hp⟩
    exact hne (eq_of_quoted hq m.quoteFree hp).symm
  have hclose : ∀ tail, ¬ keyPattern key <+: 0x22 :: ((0x3A :: tail) ++ rest) := by
    intro tail hp
    rw [keyPattern, List.cons_prefix_cons, List.cons_append] at hp
    cases key with
    | nil => exact absurd (List.cons_prefix_cons.mp hp.2).1 (by decide)
    | cons b key =>
      have hb := (List.cons_prefix_cons.mp hp.2).1
      exact hcolon (by rw [hb]; rfl)
  rw [Member.text, List.cons_append] at hopen ⊢
  rw [strstr_cons_of_not_occurs hopen, List.append_assoc, keyPattern,
    strstr_append_of_notMem m.quoteFree, ← keyPattern, List.cons_append,
    strstr_cons_of_not_occurs (hclose _), keyPattern,
    strstr_append_of_notMem (quote_notMem_value m)]

/-- A search stops at the member of its key. -/
theorem strstr_keyPattern_hit (m : Member) (rest : List UInt8) :
    strstr (keyPattern m.key) (m.text ++ rest) = some (m.text ++ rest) := by
  refine strstr_of_occurs ⟨List.replicate m.spaces 0x20 ++ intText m.value ++ rest, ?_⟩
  simp [keyPattern, Member.text]

/-! ## The whole object -/

theorem strstr_keyPattern_moreText {ms : List Member} (hnodup : (ms.map Member.key).Nodup)
    {m : Member} (hm : m ∈ ms) (hcolon : m.key.head? ≠ some 0x3A) :
    ∃ later, strstr (keyPattern m.key) (moreText ms) = some (m.text ++ moreText later) := by
  induction ms with
  | nil => cases hm
  | cons m' ms ih =>
    obtain ⟨hfirst, hnodup⟩ := List.nodup_cons.mp hnodup
    have hcomma : strstr (keyPattern m.key) (moreText (m' :: ms)) =
        strstr (keyPattern m.key) (m'.text ++ moreText ms) := by
      rw [moreText, strstr_cons_of_not_occurs]
      rw [keyPattern, List.cons_prefix_cons]
      exact fun h => absurd h.1 (by decide)
    rw [hcomma]
    rcases List.mem_cons.mp hm with rfl | hm'
    · exact ⟨ms, strstr_keyPattern_hit m _⟩
    · have hne : m'.key ≠ m.key := fun h => hfirst (h ▸ List.mem_map_of_mem hm')
      rw [strstr_keyPattern_skip m.quoteFree hcolon hne]
      exact ih hnodup hm'

/-- **The first occurrence of `"key":` is at the member of that key**, with the members after
it still to come. -/
theorem strstr_keyPattern (o : FlatObject) {m : Member} (hm : m ∈ o.members)
    (hcolon : m.key.head? ≠ some 0x3A) :
    ∃ later, strstr (keyPattern m.key) o.text = some (m.text ++ moreText later) := by
  obtain ⟨ms, hnodup⟩ := o
  cases ms with
  | nil => cases hm
  | cons m' ms =>
    -- the opening brace is skipped as the commas are
    have hbrace : strstr (keyPattern m.key) (FlatObject.text ⟨m' :: ms, hnodup⟩) =
        strstr (keyPattern m.key) (moreText (m' :: ms)) := by
      rw [moreText]
      show strstr _ (0x7B :: (m'.text ++ moreText ms)) = _
      rw [strstr_cons_of_not_occurs, strstr_cons_of_not_occurs]
      · rw [keyPattern, List.cons_prefix_cons]
        exact fun h => absurd h.1 (by decide)
      · rw [keyPattern, List.cons_prefix_cons]
        exact fun h => absurd h.1 (by decide)
    rw [hbrace]
    exact strstr_keyPattern_moreText hnodup hm hcolon

theorem numberEnds_moreText (ms : List Member) : NumberEnds (moreText ms) := by
  intro b hb
  cases ms with
  | nil => cases hb; decide
  | cons m ms => cases hb; decide

/-- The text of an object holds no NUL. -/
theorem FlatObject.text_noNul (o : FlatObject) : 0 ∉ o.text := by
  have hmember : ∀ m : Member, 0 ∉ m.text := by
    intro m
    simp only [Member.text, List.mem_cons, List.mem_append, List.mem_replicate, not_or]
    refine ⟨by decide, m.noNul, by decide, by decide, fun h => absurd h.2 (by decide), fun h => ?_⟩
    exact (ne_of_mem_intText h).2.2 rfl
  have hmore : ∀ ms : List Member, 0 ∉ moreText ms := by
    intro ms
    induction ms with
    | nil => decide
    | cons m ms ih =>
      simp only [moreText, List.mem_cons, List.mem_append, not_or]
      exact ⟨by decide, hmember m, ih⟩
  rw [FlatObject.text]
  split
  · decide
  · rename_i m ms _
    simp only [List.mem_cons, List.mem_append, not_or]
    exact ⟨by decide, hmember m, hmore ms⟩

end CText
end DroneFirmware

import DroneFirmware.CText.Strings

/-!
# Messages with an announced length

A message is a head of lines, a blank line, and a body; a line of the head announces the length
of the body.  A stream may be cut at any byte.  A reader that waits for the blank line and then
for as many bytes as were announced gets the whole body, or it knows that it has not.

* `headText`: the lines of a head, and the blank line; `splitHead`: where a head ends.
* `splitHead_headText`: a head ends where it was meant to.
* `splitHead_of_cut`: a head that was cut does not end, whatever lines come after the cut.
* `readMessage`: the reader; `readMessage_take`: what it gets when head and body are cut.
-/

namespace DroneFirmware
namespace Net

open CText

/-- The end of a line. -/
def crlf : List UInt8 := [0x0D, 0x0A]

/-- A byte that ends no line. -/
def isLineByte (b : UInt8) : Bool := b != 0x0D && b != 0x0A

/-- A line of a head: not blank, and one line only. -/
structure IsLine (l : List UInt8) : Prop where
  ne_nil : l ≠ []
  bytes : ∀ b ∈ l, isLineByte b = true

/-- A head: its lines, each with its end, and a blank one. -/
def headText (lines : List (List UInt8)) : List UInt8 := (lines.flatMap (· ++ crlf)) ++ crlf

/-- The head of a message, the blank line included, and what follows it. -/
def splitHead (s : List UInt8) : Option (List UInt8 × List UInt8) :=
  (strstr (crlf ++ crlf) s).map fun p => (s.take (s.length - p.length + 4), p.drop 4)

/-- The length that a head announces, in either of the spellings in use. -/
def contentLength (head : List UInt8) : Option ℤ :=
  ((strstr (ascii "Content-Length:") head).or (strstr (ascii "content-length:") head)).map
    fun p => atoi (p.drop 15)

/-- The body of the message at the start of `s`, if all of it is there. -/
def readMessage (s : List UInt8) : Option (List UInt8) :=
  (splitHead s).bind fun m => (contentLength m.1).bind fun len =>
    if len.toNat ≤ m.2.length then some (m.2.take len.toNat) else none

/-! ## The end of a head -/

/-- A blank line begins with the end of a line. -/
theorem strstr_lineByte {b : UInt8} (hb : isLineByte b = true) (s : List UInt8) :
    strstr (crlf ++ crlf) (b :: s) = strstr (crlf ++ crlf) s := by
  have hne : b ≠ 0x0D := by
    rintro rfl
    exact absurd hb (by decide)
  rw [strstr, if_neg]
  rw [List.isPrefixOf_iff_prefix]
  intro h
  exact hne (List.cons_prefix_cons.mp h).1.symm

/-- The search goes past the bytes of a line. -/
theorem strstr_lineBytes {l : List UInt8} (hl : ∀ b ∈ l, isLineByte b = true) (s : List UInt8) :
    strstr (crlf ++ crlf) (l ++ s) = strstr (crlf ++ crlf) s := by
  induction l with
  | nil => rfl
  | cons b l ih =>
    rw [List.cons_append, strstr_lineByte (hl b (by simp)),
      ih fun c hc => hl c (List.mem_cons_of_mem b hc)]

/-- The search goes past the end of a line that another one follows. -/
theorem strstr_crlf {l : List UInt8} (hl : IsLine l) (s : List UInt8) :
    strstr (crlf ++ crlf) (crlf ++ (l ++ s)) = strstr (crlf ++ crlf) s := by
  obtain ⟨b, l, rfl⟩ := List.exists_cons_of_ne_nil hl.ne_nil
  have hb : isLineByte b = true := hl.bytes b (by simp)
  have hne : b ≠ 0x0D := by
    rintro rfl
    exact absurd hb (by decide)
  have hcr : strstr (crlf ++ crlf) (crlf ++ (b :: l ++ s)) =
      strstr (crlf ++ crlf) (0x0A :: (b :: l ++ s)) := by
    refine if_neg fun h => ?_
    rw [List.isPrefixOf_iff_prefix] at h
    have hafter := (List.cons_prefix_cons.mp (List.cons_prefix_cons.mp h).2).2
    exact hne (List.cons_prefix_cons.mp hafter).1.symm
  have hlf : strstr (crlf ++ crlf) (0x0A :: (b :: l ++ s)) =
      strstr (crlf ++ crlf) (b :: l ++ s) := by
    refine if_neg fun h => ?_
    rw [List.isPrefixOf_iff_prefix] at h
    exact absurd (List.cons_prefix_cons.mp h).1 (by decide)
  rw [hcr, hlf, strstr_lineBytes hl.bytes]

/-- The blank line of a head is its last. -/
theorem strstr_headText {lines : List (List UInt8)} (hne : lines ≠ [])
    (hlines : ∀ l ∈ lines, IsLine l) (body : List UInt8) :
    strstr (crlf ++ crlf) (headText lines ++ body) = some (crlf ++ crlf ++ body) := by
  have htail : ∀ lines : List (List UInt8), (∀ l ∈ lines, IsLine l) →
      strstr (crlf ++ crlf) (crlf ++ (headText lines ++ body)) =
        some (crlf ++ crlf ++ body) := by
    intro lines hlines
    induction lines with
    | nil => rfl
    | cons l lines ih =>
      have hl : headText (l :: lines) ++ body = l ++ (crlf ++ (headText lines ++ body)) := by
        simp [headText]
      rw [hl, strstr_crlf (hlines l (by simp)),
        ih fun m hm => hlines m (List.mem_cons_of_mem l hm)]
  obtain ⟨l, lines, rfl⟩ := List.exists_cons_of_ne_nil hne
  have hl : headText (l :: lines) ++ body = l ++ (crlf ++ (headText lines ++ body)) := by
    simp [headText]
  rw [hl, strstr_lineBytes (hlines l (by simp)).bytes]
  exact htail lines fun m hm => hlines m (List.mem_cons_of_mem l hm)

/-- **A head ends where it was meant to**, whatever the body is. -/
theorem splitHead_headText {lines : List (List UInt8)} (hne : lines ≠ [])
    (hlines : ∀ l ∈ lines, IsLine l) (body : List UInt8) :
    splitHead (headText lines ++ body) = some (headText lines, body) := by
  have hfour : 4 ≤ (headText lines).length := by
    obtain ⟨l, lines, rfl⟩ := List.exists_cons_of_ne_nil hne
    simp [headText, crlf]
    omega
  rw [splitHead, strstr_headText hne hlines, Option.map_some]
  have hend : (headText lines ++ body).length - (crlf ++ crlf ++ body).length + 4 =
      (headText lines).length := by
    simp only [List.length_append, crlf, List.length_cons, List.length_nil]
    omega
  rw [hend, List.take_left]
  rfl

/-- **A head that was cut does not end**, as long as only bytes of lines come after the cut. -/
theorem splitHead_of_cut {lines : List (List UInt8)} (hne : lines ≠ [])
    (hlines : ∀ l ∈ lines, IsLine l) {r : ℕ} (hr : r < (headText lines).length) {rest : List UInt8}
    (hrest : ∀ b ∈ rest, isLineByte b = true) :
    splitHead ((headText lines).take r ++ rest) = none := by
  rw [splitHead, Option.map_eq_none_iff]
  cases hfound : strstr (crlf ++ crlf) ((headText lines).take r ++ rest) with
  | none => rfl
  | some p =>
    obtain ⟨pre, hsplit, ⟨tail, rfl⟩, -⟩ := (strstr_eq_some_iff _ _ _).mp hfound
    have hwhole := strstr_headText hne hlines []
    obtain ⟨before, hhead, -, hfirst⟩ := (strstr_eq_some_iff _ _ _).mp hwhole
    rw [List.append_nil, List.append_nil] at hhead
    have hlen : (headText lines).length = before.length + 4 := by rw [hhead]; simp [crlf]
    have hcut : ((headText lines).take r).length = r := by
      rw [List.length_take]
      omega
    -- the last byte of the blank line ends a line, so it stands before the cut
    have hin : pre.length + 4 ≤ r := by
      by_contra hout
      have hget : ((headText lines).take r ++ rest)[pre.length + 3]? = some 0x0A := by
        rw [hsplit]
        simp [crlf]
      rw [List.getElem?_append_right (by omega)] at hget
      exact absurd (hrest _ (List.mem_of_getElem? hget)) (by decide)
    refine absurd ?_ (hfirst pre.length (by omega))
    have hblank : (pre ++ (crlf ++ crlf)).length = pre.length + 4 := by simp [crlf]
    have htake : (headText lines).take (pre.length + 4) = pre ++ (crlf ++ crlf) := by
      have heq := congrArg (List.take (pre.length + 4)) hsplit
      rw [List.take_append_of_le_length (by omega), List.take_take, min_eq_left hin,
        ← List.append_assoc, ← hblank, List.take_left] at heq
      rw [← hblank]
      exact heq
    rw [List.append_nil, ← List.take_append_drop (pre.length + 4) (headText lines), htake,
      List.append_assoc, List.drop_left]
    exact List.prefix_append _ _

/-! ## The reader -/

/-- **The reader of a cut message.**  Of a head and a body that were both cut it gets the body if
nothing was lost, and nothing otherwise. -/
theorem readMessage_take {lines : List (List UInt8)} (hne : lines ≠ [])
    (hlines : ∀ l ∈ lines, IsLine l) {body : List UInt8}
    (hlen : contentLength (headText lines) = some (body.length : ℤ))
    (hbody : ∀ b ∈ body, isLineByte b = true) {r s : ℕ} (hs : s ≤ body.length) :
    readMessage ((headText lines).take r ++ body.take s) =
      if (headText lines).length ≤ r ∧ s = body.length then some body else none := by
  by_cases hr : (headText lines).length ≤ r
  · rw [List.take_of_length_le hr, readMessage, splitHead_headText hne hlines, Option.bind_some,
      hlen, Option.bind_some, Int.toNat_natCast, List.length_take, min_eq_left hs]
    by_cases hall : body.length ≤ s
    · rw [if_pos hall, if_pos ⟨hr, le_antisymm hs hall⟩, List.take_of_length_le hall,
        List.take_length]
    · rw [if_neg hall, if_neg fun h => hall h.2.ge]
  · rw [readMessage, splitHead_of_cut hne hlines (not_le.mp hr)
      fun b hb => hbody b (List.mem_of_mem_take hb), if_neg fun h => hr h.1]
    rfl

end Net
end DroneFirmware

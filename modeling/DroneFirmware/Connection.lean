import DroneFirmware.WebServer

/-!
# One connection, read off

`handle_client` in closed form: which bytes are the head, whether the request reaches
`handle_rc`, and how many body bytes were received by then.  All of it is a function of the
bytes the peer delivers; what `req_buf` held before does not matter.

* `HeadEnd`: the head of a request ends with its first blank line.
* `readHeaders_of_headEnd`, `readHeaders_of_no_head`: the header loop finds it if it fits.
* `readBody_got`: the body loop stops at the announced length, at the end of the buffer or at
  the end of the stream, whichever comes first.
* `handleClient_of_postRc`, `handleClient_of_not_postRc`: what a connection does.
* `handleRequest_outcome`: the whole outcome of a request, from its bytes alone.
-/

namespace DroneFirmware

open CText

/-! ## The buffer -/

theorem ReqBuf.bytes_put (buf : ReqBuf) {n : ℕ} (hn : n < reqBufSize) (b : UInt8) :
    (buf.put n b).bytes = buf.bytes.take n ++ b :: buf.bytes.drop (n + 1) := by
  show buf.bytes.set n b = _
  rw [List.set_eq_take_append_cons_drop, if_pos (by rw [buf.length_eq]; exact hn)]

theorem ReqBuf.take_put (buf : ReqBuf) {n : ℕ} (hn : n < reqBufSize) (b : UInt8) :
    (buf.put n b).bytes.take (n + 1) = buf.bytes.take n ++ [b] := by
  rw [ReqBuf.bytes_put buf hn, List.append_cons]
  refine List.take_left' ?_
  rw [List.length_append, List.length_take, buf.length_eq, List.length_singleton]
  omega

/-- The string in the buffer after a NUL was stored at `n` is that of the first `n` bytes. -/
theorem ReqBuf.text_put_nul (buf : ReqBuf) {n : ℕ} (hn : n < reqBufSize) :
    (buf.put n 0).text 0 = CText.text (buf.bytes.take n) := by
  rw [ReqBuf.text, List.drop_zero, ReqBuf.bytes_put buf hn]
  exact text_append_nul _ _

/-! ## The head -/

/-- A blank line ends at position `k` of the stream. -/
def BlankLineAt (stream : List UInt8) (k : ℕ) : Prop :=
  k ≤ stream.length ∧ crlfCrlf <:+ stream.take k

/-- The head of the stream is its first `k` bytes: they end with the first blank line. -/
def HeadEnd (stream : List UInt8) (k : ℕ) : Prop :=
  BlankLineAt stream k ∧ ∀ j < k, ¬ BlankLineAt stream j

theorem HeadEnd.unique {stream : List UInt8} {j k : ℕ} (hj : HeadEnd stream j)
    (hk : HeadEnd stream k) : j = k := by
  rcases lt_trichotomy j k with h | h | h
  · exact absurd hj.1 (hk.2 j h)
  · exact h
  · exact absurd hk.1 (hj.2 k h)

theorem BlankLineAt.pos {stream : List UInt8} {k : ℕ} (h : BlankLineAt stream k) : 0 < k := by
  have hlen := h.2.length_le
  rw [List.length_take] at hlen
  have hcrlf : crlfCrlf.length = 4 := rfl
  omega

/-- Where there is a blank line, there is a first one. -/
theorem exists_headEnd_le {stream : List UInt8} {j : ℕ} (h : BlankLineAt stream j) :
    ∃ k, HeadEnd stream k ∧ k ≤ j := by
  classical
  have hex : ∃ j, BlankLineAt stream j := ⟨j, h⟩
  exact ⟨Nat.find hex, ⟨Nat.find_spec hex, fun i hi => Nat.find_min hex hi⟩, Nat.find_min' hex h⟩

/-- The `memcmp` of the header loop tests for a blank line. -/
theorem crlfCrlf_suffix_iff {l : List UInt8} {n : ℕ} (hn : n ≤ l.length) :
    (4 ≤ n ∧ (l.drop (n - 4)).take 4 = crlfCrlf) ↔ crlfCrlf <:+ l.take n := by
  have hlen : (l.take n).length = n := by rw [List.length_take]; omega
  have hcrlf : crlfCrlf.length = 4 := rfl
  constructor
  · rintro ⟨h4, h⟩
    rw [List.suffix_iff_eq_drop, hlen, hcrlf, List.drop_take, ← h]
    congr 1
    omega
  · intro h
    have h4 := h.length_le
    rw [hlen, hcrlf] at h4
    refine ⟨h4, ?_⟩
    rw [List.suffix_iff_eq_drop, hlen, hcrlf, List.drop_take] at h
    rw [h]
    congr 1
    omega

/-- One round of the header loop: the byte is stored after the bytes `pre` read before it, and
the loop ends there or goes on. -/
theorem readHeaders_cons {pre : List UInt8} (b : UInt8) (stream : List UInt8) {buf : ReqBuf}
    (hbuf : buf.bytes.take pre.length = pre) (hlt : pre.length < reqBufSize - 1) :
    (buf.put pre.length b).bytes.take (pre ++ [b]).length = pre ++ [b] ∧
      (BlankLineAt (pre ++ b :: stream) (pre.length + 1) →
        readHeaders (b :: stream) buf pre.length =
          .found (buf.put pre.length b) (pre.length + 1) stream) ∧
      (¬ BlankLineAt (pre ++ b :: stream) (pre.length + 1) →
        readHeaders (b :: stream) buf pre.length =
          readHeaders stream (buf.put pre.length b) (pre ++ [b]).length) := by
  have hput : (buf.put pre.length b).bytes.take (pre.length + 1) = pre ++ [b] := by
    rw [ReqBuf.take_put buf (by omega) b, hbuf]
  have htake : (pre ++ b :: stream).take (pre.length + 1) = pre ++ [b] := by
    rw [List.append_cons]
    exact List.take_left' (by simp)
  have hsize : pre.length + 1 ≤ (buf.put pre.length b).bytes.length := by
    rw [ReqBuf.length_eq]
    omega
  have htest := crlfCrlf_suffix_iff hsize
  have hblank : BlankLineAt (pre ++ b :: stream) (pre.length + 1) ↔
      crlfCrlf <:+ (buf.put pre.length b).bytes.take (pre.length + 1) := by
    rw [BlankLineAt, htake, hput]
    simp
  have hlen : (pre ++ [b]).length = pre.length + 1 := by simp
  rw [hlen, readHeaders, if_pos hlt]
  refine ⟨hput, fun h => ?_, fun h => ?_⟩
  · exact if_pos (htest.mpr (hblank.mp h))
  · exact if_neg fun hc => h (hblank.mpr (htest.mp hc))

/-- **The header loop finds the head**, if it fits the buffer. -/
theorem readHeaders_of_headEnd {k : ℕ} (hk : k ≤ reqBufSize - 1) (stream : List UInt8) :
    ∀ (pre : List UInt8) (buf : ReqBuf), buf.bytes.take pre.length = pre → pre.length < k →
      HeadEnd (pre ++ stream) k →
      ∃ buf', readHeaders stream buf pre.length = .found buf' k ((pre ++ stream).drop k) ∧
        buf'.bytes.take k = (pre ++ stream).take k := by
  induction stream with
  | nil =>
    intro pre buf _ hpre hend
    have hle := hend.1.1
    rw [List.append_nil] at hle
    omega
  | cons b stream ih =>
    intro pre buf hbuf hpre hend
    obtain ⟨hput, hfound, hnext⟩ := readHeaders_cons b stream hbuf (by omega)
    have hsplit : pre ++ b :: stream = (pre ++ [b]) ++ stream := List.append_cons _ _ _
    by_cases hblank : BlankLineAt (pre ++ b :: stream) (pre.length + 1)
    · have hkeq : k = pre.length + 1 := by
        by_contra hne
        exact hend.2 _ (by omega) hblank
      have hlen : (pre ++ [b]).length = pre.length + 1 := by simp
      rw [hfound hblank, hkeq, hsplit]
      refine ⟨buf.put pre.length b, ?_, ?_⟩
      · rw [List.drop_left' hlen]
      · rw [List.take_left' hlen, ← hlen]
        exact hput
    · have hlt : pre.length + 1 ≠ k := by
        rintro rfl
        exact hblank hend.1
      rw [hnext hblank, hsplit]
      rw [hsplit] at hend
      exact ih (pre ++ [b]) _ hput (by simp; omega) hend

/-- A stream without a head in its first 511 bytes ends the header loop without one. -/
theorem readHeaders_of_no_head (stream : List UInt8) :
    ∀ (pre : List UInt8) (buf : ReqBuf), buf.bytes.take pre.length = pre →
      (∀ j, pre.length < j → j ≤ reqBufSize - 1 → ¬ BlankLineAt (pre ++ stream) j) →
      ∃ buf', readHeaders stream buf pre.length = .closed buf' ∨
        readHeaders stream buf pre.length = .full buf' := by
  induction stream with
  | nil =>
    intro pre buf _ _
    rw [readHeaders]
    split_ifs
    · exact ⟨buf, Or.inl rfl⟩
    · exact ⟨buf, Or.inr rfl⟩
  | cons b stream ih =>
    intro pre buf hbuf hno
    by_cases hlt : pre.length < reqBufSize - 1
    · obtain ⟨hput, -, hnext⟩ := readHeaders_cons b stream hbuf hlt
      rw [hnext (hno _ (by omega) (by omega))]
      refine ih (pre ++ [b]) _ hput fun j hj hj' => ?_
      rw [← List.append_cons]
      exact hno j (by rw [List.length_append] at hj; simp at hj; omega) hj'
    · rw [readHeaders, if_neg hlt]
      exact ⟨buf, Or.inr rfl⟩

/-! ## The body -/

/-- **The body loop** receives until the announced length, the end of the buffer or the end of
the stream, whichever comes first. -/
theorem readBody_got (blen : ℤ) (stream : List UInt8) :
    ∀ (buf : ReqBuf) (total got : ℕ), (readBody blen stream buf total got).got =
      got + min (min (blen - got).toNat (reqBufSize - 1 - total)) stream.length := by
  induction stream with
  | nil =>
    intro buf total got
    simp [readBody]
  | cons b stream ih =>
    intro buf total got
    rw [readBody]
    split_ifs with h
    · rw [ih, List.length_cons]
      omega
    · rw [List.length_cons]
      show got = _
      omega

/-! ## The connection -/

/-- The request line names `POST` and `/rc`. -/
def PostRc (head : List UInt8) : Prop :=
  requestLine (text head) = some (ascii "POST", ascii "/rc")

instance (head : List UInt8) : Decidable (PostRc head) := inferInstanceAs (Decidable (_ = _))

/-- The body length `handle_client` takes from the head: the number after the substring it
searches for, nothing when there is none. -/
def bodyLength (head : List UInt8) : ℕ :=
  match findContentLength (text head) with
  | some cl => (atoi (cl.drop 15)).toNat
  | none => 0

/-- The end of `handle_client` on a `POST /rc`. -/
theorem handleRequest_of_postRc {now : ℤ} {web : Web} {buf : ReqBuf} {k : ℕ}
    {head rest : List UInt8} (hk : k < reqBufSize) (hhead : buf.bytes.take k = head)
    (hpost : PostRc head) :
    (∃ body, (handleRequest now web buf k rest).web = handleRc now body) ∧
      (handleRequest now web buf k rest).got =
        min (min (bodyLength head) (reqBufSize - 1 - k)) rest.length := by
  have htext : (buf.put k 0).text 0 = text head := by
    rw [ReqBuf.text_put_nul buf hk, hhead]
  unfold PostRc at hpost
  unfold bodyLength
  rw [handleRequest, htext, hpost]
  simp only [and_self, if_true]
  refine ⟨⟨_, rfl⟩, ?_⟩
  cases findContentLength (text head) with
  | some cl =>
    show (readBody _ _ _ _ _).got = _
    rw [readBody_got]
    simp
  | none =>
    show 0 = _
    simp

/-- The end of `handle_client` on any other request leaves the globals alone. -/
theorem handleRequest_of_not_postRc {now : ℤ} {web : Web} {buf : ReqBuf} {k : ℕ}
    {head rest : List UInt8} (hk : k < reqBufSize) (hhead : buf.bytes.take k = head)
    (hpost : ¬ PostRc head) : (handleRequest now web buf k rest).web = web := by
  have htext : (buf.put k 0).text 0 = text head := by
    rw [ReqBuf.text_put_nul buf hk, hhead]
  unfold PostRc at hpost
  rw [handleRequest, htext]
  cases hline : requestLine (text head) with
  | none => rfl
  | some line =>
    obtain ⟨method, path⟩ := line
    have hne : ¬ (method = ascii "POST" ∧ path = ascii "/rc") := by
      rintro ⟨rfl, rfl⟩
      exact hpost hline
    simp only [if_neg hne]

/-- **A `POST /rc` whose head fits the buffer reaches `handle_rc`**, with the body bytes that
were received. -/
theorem handleClient_of_postRc {stream : List UInt8} {k : ℕ} (hend : HeadEnd stream k)
    (hk : k ≤ reqBufSize - 1) (hpost : PostRc (stream.take k)) (now : ℤ) (buf : ReqBuf)
    (web : Web) :
    (∃ body, (handleClient now stream buf web).web = handleRc now body) ∧
      (handleClient now stream buf web).got =
        min (min (bodyLength (stream.take k)) (reqBufSize - 1 - k)) (stream.length - k) := by
  obtain ⟨buf', hfound, htake⟩ := readHeaders_of_headEnd hk stream [] buf rfl hend.1.pos hend
  rw [List.nil_append, List.length_nil] at hfound
  rw [handleClient, hfound, ← List.length_drop]
  exact handleRequest_of_postRc (by have : reqBufSize = 512 := rfl; omega) htake hpost

/-- **Any other stream leaves the globals alone.** -/
theorem handleClient_of_not_postRc {stream : List UInt8}
    (h : ∀ k, HeadEnd stream k → k ≤ reqBufSize - 1 → ¬ PostRc (stream.take k)) (now : ℤ)
    (buf : ReqBuf) (web : Web) : (handleClient now stream buf web).web = web := by
  by_cases hhead : ∃ k, HeadEnd stream k ∧ k ≤ reqBufSize - 1
  · obtain ⟨k, hend, hk⟩ := hhead
    obtain ⟨buf', hfound, htake⟩ := readHeaders_of_headEnd hk stream [] buf rfl hend.1.pos hend
    rw [List.nil_append, List.length_nil] at hfound
    rw [handleClient, hfound]
    exact handleRequest_of_not_postRc (by have : reqBufSize = 512 := rfl; omega) htake
      (h k hend hk)
  · have hno : ∀ j, 0 < j → j ≤ reqBufSize - 1 → ¬ BlankLineAt ([] ++ stream) j := by
      intro j _ hj hblank
      obtain ⟨k, hend, hk⟩ := exists_headEnd_le hblank
      exact hhead ⟨k, hend, hk.trans hj⟩
    obtain ⟨buf', hclosed | hfull⟩ := readHeaders_of_no_head stream [] buf rfl hno
    · rw [List.length_nil] at hclosed
      rw [handleClient, hclosed]
    · rw [List.length_nil] at hfull
      rw [handleClient, hfull]

/-! ## The outcome as a function of the bytes -/

/-- The body loop stores what it receives behind what is there, and leaves the rest. -/
theorem readBody_stores (blen : ℤ) (stream : List UInt8) :
    ∀ (buf : ReqBuf) (total got : ℕ), total ≤ reqBufSize - 1 →
      let n := min (min (blen - got).toNat (reqBufSize - 1 - total)) stream.length
      (readBody blen stream buf total got).total = total + n ∧
        (readBody blen stream buf total got).rest = stream.drop n ∧
        (readBody blen stream buf total got).buf.bytes.take (total + n) =
          buf.bytes.take total ++ stream.take n := by
  induction stream with
  | nil =>
    intro buf total got _
    simp [readBody]
  | cons b stream ih =>
    intro buf total got htotal
    rw [readBody]
    split_ifs with h
    · obtain ⟨htot, hrest, hbytes⟩ := ih (buf.put total b) (total + 1) (got + 1) (by omega)
      have hn : min (min (blen - got).toNat (reqBufSize - 1 - total)) (b :: stream).length =
          min (min (blen - (got + 1 : ℕ)).toNat (reqBufSize - 1 - (total + 1))) stream.length
            + 1 := by
        rw [List.length_cons]
        omega
      have hsize : reqBufSize = 512 := rfl
      simp only [hn]
      refine ⟨by rw [htot]; omega, by rw [hrest, List.drop_succ_cons], ?_⟩
      rw [← Nat.add_assoc, Nat.add_right_comm, hbytes, ReqBuf.take_put buf (by omega),
        List.take_succ_cons, List.append_assoc, List.singleton_append]
    · have hn : min (min (blen - got).toNat (reqBufSize - 1 - total)) (b :: stream).length = 0 := by
        rw [List.length_cons]
        omega
      simp only [hn]
      simp

/-- What a connection comes to, its buffer apart. -/
structure Outcome where
  web : Web
  decision : Decision
  /-- The number of body bytes received. -/
  got : ℕ
  /-- What is left in the socket. -/
  rest : List UInt8

/-- The outcome of a run of `handle_client`. -/
def ClientRun.outcome (r : ClientRun) : Outcome := ⟨r.web, r.decision, r.got, r.rest⟩

/-- What `handle_client` does with the head `head` and the bytes `rest` behind it. -/
def outcomeOf (now : ℤ) (web : Web) (head rest : List UInt8) : Outcome :=
  match requestLine (text head) with
  | none => ⟨web, .reject, 0, rest⟩
  | some (method, path) =>
      let n := if method = ascii "POST" then
          min (min (bodyLength head) (reqBufSize - 1 - head.length)) rest.length
        else 0
      if method = ascii "POST" ∧ path = ascii "/rc" then
        ⟨handleRc now (text (rest.take n)), .rc, n, rest.drop n⟩
      else
        ⟨web, .page, n, rest.drop n⟩

/-- The body of a POST: the loop of `handle_client`, or nothing when no length was found. -/
def bodyExit (blen : Option ℤ) (rest : List UInt8) (buf : ReqBuf) (hdrEnd : ℕ) : BodyExit :=
  match blen with
  | some blen =>
      let r := readBody blen rest buf hdrEnd 0
      { r with buf := r.buf.put r.total 0 }
  | none => ⟨buf, hdrEnd, 0, rest⟩

/-- Whether a length was found or not, the body received is the announced one as far as there is
room and there are bytes, and a NUL follows it. -/
theorem bodyExit_stores (blen : Option ℤ) (rest : List UInt8) {buf : ReqBuf} {k : ℕ}
    (hk : k ≤ reqBufSize - 1) (hnul : buf.bytes[k]? = some 0) :
    let n := min (min (blen.getD 0).toNat (reqBufSize - 1 - k)) rest.length
    (bodyExit blen rest buf k).total = k + n ∧ (bodyExit blen rest buf k).got = n ∧
      (bodyExit blen rest buf k).rest = rest.drop n ∧
      (bodyExit blen rest buf k).buf.bytes.take (k + n) = buf.bytes.take k ++ rest.take n ∧
      (bodyExit blen rest buf k).buf.bytes[k + n]? = some 0 := by
  have hsize : reqBufSize = 512 := rfl
  cases blen with
  | none => simpa [bodyExit] using hnul
  | some blen =>
    obtain ⟨htotal, hrest, hbytes⟩ := readBody_stores blen rest buf k 0 hk
    have hgot := readBody_got blen rest buf k 0
    simp only [Nat.cast_zero, sub_zero, Nat.zero_add] at htotal hrest hbytes hgot
    simp only [Option.getD_some]
    refine ⟨htotal, hgot, hrest, ?_, ?_⟩
    · show List.take _ (List.set _ _ _) = _
      rw [htotal, List.take_set_of_le le_rfl, ← hbytes]
    · show (List.set _ _ _)[_]? = _
      rw [htotal, List.getElem?_set_self]
      rw [ReqBuf.length_eq]
      omega

/-- The body that `handle_rc` is handed: the bytes received, a NUL, and what is left of earlier
requests. -/
theorem drop_of_stored {mem head body : List UInt8}
    (hbytes : mem.take (head.length + body.length) = head ++ body)
    (hnul : mem[head.length + body.length]? = some 0) :
    ∃ stale, mem.drop head.length = body ++ 0 :: stale := by
  obtain ⟨hlt, hget⟩ := List.getElem?_eq_some_iff.mp hnul
  refine ⟨mem.drop (head.length + body.length + 1), ?_⟩
  have hsplit : mem = head ++ body ++ mem.drop (head.length + body.length) := by
    rw [← hbytes, List.take_append_drop]
  rw [List.drop_eq_getElem_cons hlt, hget] at hsplit
  calc mem.drop head.length
      = (head ++ body ++ 0 :: mem.drop (head.length + body.length + 1)).drop head.length := by
        rw [← hsplit]
    _ = body ++ 0 :: mem.drop (head.length + body.length + 1) := by
        rw [List.append_assoc, List.drop_left]

/-- The length that `handle_client` parses from the string `s`, if it finds one. -/
def parsedLength (s : List UInt8) : Option ℤ :=
  (findContentLength s).map fun cl => atoi (cl.drop 15)

theorem bodyLength_eq (head : List UInt8) :
    bodyLength head = ((parsedLength (text head)).getD 0).toNat := by
  rw [bodyLength, parsedLength]
  cases findContentLength (text head) <;> rfl

/-- What the body loop leaves behind a head that is in the buffer and ended by a NUL. -/
theorem bodyExit_of_head {head : List UInt8} (rest : List UInt8) {buf : ReqBuf}
    (hk : head.length ≤ reqBufSize - 1) (hhead : buf.bytes.take head.length = head) :
    let n := min (min (bodyLength head) (reqBufSize - 1 - head.length)) rest.length
    let body := bodyExit (parsedLength (text head)) rest (buf.put head.length 0) head.length
    body.got = n ∧ body.rest = rest.drop n ∧
      ∃ stale, body.buf.bytes.drop head.length = rest.take n ++ 0 :: stale := by
  have hsize : reqBufSize = 512 := rfl
  have hnul : (buf.put head.length 0).bytes[head.length]? = some 0 := by
    show (List.set _ _ _)[_]? = _
    rw [List.getElem?_set_self]
    rw [ReqBuf.length_eq]
    omega
  have hkeep : (buf.put head.length 0).bytes.take head.length = head := by
    show List.take _ (List.set _ _ _) = _
    rw [List.take_set_of_le le_rfl, hhead]
  obtain ⟨-, hgot, hrest, hbytes, hend⟩ := bodyExit_stores (parsedLength (text head)) rest hk hnul
  rw [← bodyLength_eq, hkeep] at *
  have hlen : (rest.take (min (min (bodyLength head) (reqBufSize - 1 - head.length))
      rest.length)).length =
      min (min (bodyLength head) (reqBufSize - 1 - head.length)) rest.length := by
    rw [List.length_take]
    omega
  refine ⟨hgot, hrest, drop_of_stored ?_ ?_⟩
  · rw [hlen]
    exact hbytes
  · rw [hlen]
    exact hend

/-- The end of `handle_client` on a POST. -/
theorem handleRequest_of_post {now : ℤ} {web : Web} {buf : ReqBuf} {k : ℕ}
    {rest path : List UInt8}
    (hline : requestLine ((buf.put k 0).text 0) = some (ascii "POST", path)) :
    handleRequest now web buf k rest =
      let body := bodyExit (parsedLength ((buf.put k 0).text 0)) rest (buf.put k 0) k
      if path = ascii "/rc" then
        ⟨body.buf, handleRc now (body.buf.text k), .rc, body.got, body.rest⟩
      else
        ⟨body.buf, web, .page, body.got, body.rest⟩ := by
  rw [handleRequest, hline, parsedLength]
  simp only [if_true, true_and]
  cases findContentLength ((buf.put k 0).text 0) <;> rfl

/-- **What `handle_client` does once it has the head** is a function of the bytes received. -/
theorem handleRequest_outcome {now : ℤ} {web : Web} {buf : ReqBuf} {head : List UInt8}
    (rest : List UInt8) (hk : head.length ≤ reqBufSize - 1)
    (hhead : buf.bytes.take head.length = head) :
    (handleRequest now web buf head.length rest).outcome = outcomeOf now web head rest := by
  have hsize : reqBufSize = 512 := rfl
  have htext : (buf.put head.length 0).text 0 = text head := by
    rw [ReqBuf.text_put_nul buf (by omega), hhead]
  rw [outcomeOf]
  cases hline : requestLine (text head) with
  | none =>
    rw [handleRequest, htext, hline]
    rfl
  | some line =>
    obtain ⟨method, path⟩ := line
    by_cases hpost : method = ascii "POST"
    · have hrun : handleRequest now web buf head.length rest = _ :=
        handleRequest_of_post (by rw [htext, hline, hpost])
      obtain ⟨hgot, hrest, stale, hstored⟩ := bodyExit_of_head rest hk hhead
      have hhanded : (bodyExit (parsedLength (text head)) rest (buf.put head.length 0)
          head.length).buf.text head.length = text (rest.take
            (min (min (bodyLength head) (reqBufSize - 1 - head.length)) rest.length)) := by
        rw [ReqBuf.text, hstored, text_append_nul]
      rw [hrun, htext]
      simp only [hpost, if_true, true_and]
      split_ifs
      · rw [ClientRun.outcome, hhanded, hgot, hrest]
      · rw [ClientRun.outcome, hgot, hrest]
    · rw [handleRequest, htext, hline]
      simp only [hpost, if_false, false_and]
      rfl

/-- A connection whose head fits the buffer. -/
theorem handleClient_outcome_of_headEnd {stream : List UInt8} {k : ℕ} (hend : HeadEnd stream k)
    (hk : k ≤ reqBufSize - 1) (now : ℤ) (buf : ReqBuf) (web : Web) :
    (handleClient now stream buf web).outcome =
      outcomeOf now web (stream.take k) (stream.drop k) := by
  obtain ⟨buf', hfound, htake⟩ := readHeaders_of_headEnd hk stream [] buf rfl hend.1.pos hend
  rw [List.nil_append, List.length_nil] at hfound
  have hlen : (stream.take k).length = k := by
    rw [List.length_take]
    exact min_eq_left hend.1.1
  have houtcome :
      (handleRequest now web buf' (stream.take k).length (stream.drop k)).outcome = _ :=
    handleRequest_outcome (stream.drop k) (by rw [hlen]; exact hk) (by rw [hlen]; exact htake)
  rw [hlen] at houtcome
  rw [handleClient, hfound]
  exact houtcome

/-- The header loop is closed by the end of the stream, and only with room left. -/
theorem length_lt_of_closed {stream : List UInt8} {buf buf' : ReqBuf} {total : ℕ}
    (h : readHeaders stream buf total = .closed buf') : total + stream.length < reqBufSize - 1 := by
  induction stream generalizing buf total with
  | nil =>
    rw [readHeaders] at h
    split_ifs at h with hlt
    exact hlt
  | cons b stream ih =>
    rw [readHeaders] at h
    simp only at h
    split_ifs at h
    have hlen := ih h
    rw [List.length_cons]
    omega

/-- A connection without a head that fits the buffer. -/
theorem handleClient_outcome_of_no_head {stream : List UInt8}
    (hno : ∀ k, HeadEnd stream k → ¬ k ≤ reqBufSize - 1) (now : ℤ) (buf : ReqBuf) (web : Web) :
    (handleClient now stream buf web).outcome =
      ⟨web, .reject, 0, stream.drop (reqBufSize - 1)⟩ := by
  have hblank : ∀ j, 0 < j → j ≤ reqBufSize - 1 → ¬ BlankLineAt ([] ++ stream) j :=
    fun j _ hj hb => exists_headEnd_le hb |>.elim fun k hk => hno k hk.1 (hk.2.trans hj)
  obtain ⟨buf', hclosed | hfull⟩ := readHeaders_of_no_head stream [] buf rfl hblank
  · rw [List.length_nil] at hclosed
    have hlen := length_lt_of_closed hclosed
    rw [handleClient, hclosed, List.drop_of_length_le (by omega)]
    rfl
  · rw [List.length_nil] at hfull
    rw [handleClient, hfull]
    rfl

/-- The number of body bytes received behind the head, when the method is POST. -/
def bodyReceived (stream : List UInt8) (k : ℕ) : ℕ :=
  min (min (bodyLength (stream.take k)) (reqBufSize - 1 - k)) (stream.length - k)

/-- **What `handle_rc` is handed**: the body bytes received, a NUL behind them, and whatever the
buffer holds from there on. -/
theorem handleClient_handed {stream : List UInt8} {k : ℕ} (hend : HeadEnd stream k)
    (hk : k ≤ reqBufSize - 1) (hpost : PostRc (stream.take k)) (now : ℤ) (buf : ReqBuf)
    (web : Web) :
    ∃ stale, (handleClient now stream buf web).buf.bytes.drop k =
      (stream.drop k).take (bodyReceived stream k) ++ 0 :: stale := by
  have hsize : reqBufSize = 512 := rfl
  obtain ⟨buf', hfound, htake⟩ := readHeaders_of_headEnd hk stream [] buf rfl hend.1.pos hend
  rw [List.nil_append, List.length_nil] at hfound
  rw [List.nil_append] at htake
  have hlen : (stream.take k).length = k := by
    rw [List.length_take]
    exact min_eq_left hend.1.1
  have htext : (buf'.put k 0).text 0 = text (stream.take k) := by
    rw [ReqBuf.text_put_nul buf' (by omega), htake]
  have hrun : handleRequest now web buf' k (stream.drop k) = _ :=
    handleRequest_of_post (by rw [htext]; exact hpost)
  have hkeep : buf'.bytes.take (stream.take k).length = stream.take k := by rw [hlen, htake]
  obtain ⟨-, -, stale, hstored⟩ :=
    bodyExit_of_head (stream.drop k) (by rw [hlen]; exact hk) hkeep
  rw [hlen, List.length_drop] at hstored
  refine ⟨stale, ?_⟩
  rw [handleClient, hfound]
  simp only [hrun, if_true, htext]
  exact hstored

/-- **A `POST /rc` is answered** with the command that the bytes of its body make. -/
theorem handleClient_outcome_of_postRc {stream : List UInt8} {k : ℕ} (hend : HeadEnd stream k)
    (hk : k ≤ reqBufSize - 1) (hpost : PostRc (stream.take k)) (now : ℤ) (buf : ReqBuf)
    (web : Web) :
    (handleClient now stream buf web).outcome =
      ⟨handleRc now (text ((stream.drop k).take (bodyReceived stream k))), .rc,
        bodyReceived stream k, stream.drop (k + bodyReceived stream k)⟩ := by
  have hlen : (stream.take k).length = k := by
    rw [List.length_take]
    exact min_eq_left hend.1.1
  unfold PostRc at hpost
  rw [handleClient_outcome_of_headEnd hend hk, outcomeOf, hpost]
  simp only [and_self, if_true, hlen, List.length_drop, List.drop_drop]
  rfl

end DroneFirmware

import DroneFirmware.Connection

/-!
# Request framing, access by access

`handleClient` says what a connection comes to.  Here the same code runs step by step: every
`zsock_recv`, every access to `req_buf`, the call of the endpoint and the close of the socket
are recorded in order, and the two loops count their rounds with a fuel that they could run
out of.

A string function of the C library reads up to the NUL that ends the string; if `req_buf`
held none from there on, the record would name the index past its end.

* `handleClientSteps_eq`: the step-by-step run comes to what `handleClient` says, in every
  connection, and never runs out of fuel.
* `request_framing`: which bytes are the head and the body, which indices are touched, what
  `handle_rc` is handed, and that the socket is closed once.
* `outcome_independent`: what `req_buf` held before does not matter.
-/

namespace DroneFirmware

open CText

/-! ## The record of a connection -/

/-- What `handle_client` does besides accessing `req_buf`. -/
inductive ConnEvent where
  /-- A `zsock_recv` of one byte; `none` is a result `≤ 0`. -/
  | recv (byte : Option UInt8)
  /-- `handle_rc`, which stores a package and sends the telemetry, with the memory from its
  argument to the end of `req_buf`. -/
  | handleRc (mem : List UInt8)
  /-- `handle_page`, which sends the page. -/
  | handlePage
  /-- `zsock_close`. -/
  | close
  deriving DecidableEq

/-- The event is a `zsock_recv`. -/
def ConnEvent.isRecv : ConnEvent → Bool
  | recv _ => true
  | _ => false

/-- A connection while `handle_client` serves it. -/
structure Conn where
  /-- The bytes that `zsock_recv` has still to deliver. -/
  input : List UInt8
  buf : ReqBuf
  web : Web
  /-- The indices of `req_buf` that were read or written. -/
  touched : List ℕ
  events : List ConnEvent

/-- An access to some indices of `req_buf`. -/
def Conn.touch (indices : List ℕ) (c : Conn) : Conn := { c with touched := c.touched ++ indices }

def Conn.emit (event : ConnEvent) (c : Conn) : Conn := { c with events := c.events ++ [event] }

/-- A string function reads the string at `req_buf + off`, its NUL included. -/
def Conn.scan (off : ℕ) (c : Conn) : Conn :=
  c.touch (List.range' off ((c.buf.text off).length + 1))

/-- `req_buf[i] = x`. -/
def Conn.store (i : ℕ) (x : UInt8) (c : Conn) : Conn := { c.touch [i] with buf := c.buf.put i x }

/-- `zsock_recv(s, req_buf + total, 1, 0)`, and whether its result is positive. -/
def Conn.recvAt (total : ℕ) (c : Conn) : Bool × Conn :=
  match c.input with
  | [] => (false, c.emit (.recv none))
  | b :: input => (true, { (c.emit (.recv (some b))).store total b with input })

/-! ## `handle_client`, step by step -/

/-- The header loop, with what it leaves in `hdr_end`; `none` without fuel. -/
def headerLoop : ℕ → ℕ → Conn → Option (Option ℕ × Conn)
  | 0, _, _ => none
  | fuel + 1, total, c =>
      if total < reqBufSize - 1 then
        let r := c.recvAt total
        if !r.1 then some (none, r.2)
        else
          let total := total + 1
          if 4 ≤ total then
            let c := r.2.touch (List.range' (total - 4) 4)
            if (c.buf.bytes.drop (total - 4)).take 4 = crlfCrlf then some (some total, c)
            else headerLoop fuel total c
          else headerLoop fuel total r.2
      else some (none, c)

/-- The body loop, with what it leaves in `total`. -/
def bodyLoop (blen : ℤ) : ℕ → ℕ → ℕ → Conn → Option (ℕ × Conn)
  | 0, _, _, _ => none
  | fuel + 1, total, got, c =>
      if (got : ℤ) < blen ∧ total < reqBufSize - 1 then
        let r := c.recvAt total
        if !r.1 then some (total, r.2) else bodyLoop blen fuel (total + 1) (got + 1) r.2
      else some (total, c)

/-- The body of a POST: the two searches for the field, `atoi` behind it, the loop, the NUL. -/
def postBody (fuel hdrEnd : ℕ) (c : Conn) : Option Conn :=
  let s := c.buf.text 0
  let c := c.scan 0
  match findContentLength s with
  | none => some c
  | some cl =>
      let c := c.scan (s.length - cl.length + 15)
      (bodyLoop (atoi (cl.drop 15)) fuel hdrEnd 0 c).map fun r => r.2.store r.1 0

/-- From the head to the answer: `sscanf`, the body, the endpoint. -/
def serveRequest (fuel : ℕ) (now : ℤ) (hdrEnd : ℕ) (c : Conn) : Option Conn :=
  let c := (c.store hdrEnd 0).scan 0
  match requestLine (c.buf.text 0) with
  | none => some c
  | some (method, path) =>
      (if method = ascii "POST" then postBody fuel hdrEnd c else some c).map fun c =>
        if method = ascii "POST" ∧ path = ascii "/rc" then
          { (c.scan hdrEnd).emit (.handleRc (c.buf.bytes.drop hdrEnd)) with
            web := handleRc now (c.buf.text hdrEnd) }
        else c.emit .handlePage

/-- A connection that was served: what `hdr_end` was, and the record. -/
structure Served where
  hdrEnd : Option ℕ
  conn : Conn

/-- `handle_client`, step by step; the label `done` closes the socket. -/
def handleClientSteps (fuel : ℕ) (now : ℤ) (stream : List UInt8) (buf : ReqBuf) (web : Web) :
    Option Served :=
  (headerLoop fuel 0 ⟨stream, buf, web, [], []⟩).bind fun r =>
    match r.1 with
    | none => some ⟨none, r.2.emit .close⟩
    | some hdrEnd =>
        (serveRequest fuel now hdrEnd r.2).map fun c => ⟨some hdrEnd, c.emit .close⟩

/-! ## What the loops may do -/

/-- From `c` to `c'` the code only received, at most `n` times, and touched `req_buf` only
within its bounds. -/
structure Receives (c c' : Conn) (n : ℕ) : Prop where
  web : c'.web = c.web
  touched : ∃ new, c'.touched = c.touched ++ new ∧ ∀ i ∈ new, i < reqBufSize
  events : ∃ new, c'.events = c.events ++ new ∧ (∀ e ∈ new, e.isRecv = true) ∧ new.length ≤ n

theorem Receives.refl (c : Conn) (n : ℕ) : Receives c c n :=
  ⟨rfl, ⟨[], by simp⟩, ⟨[], by simp⟩⟩

theorem Receives.trans {c c' c'' : Conn} {m n : ℕ} (h : Receives c c' m)
    (h' : Receives c' c'' n) : Receives c c'' (m + n) := by
  obtain ⟨hw, ⟨t, ht, htb⟩, e, he, her, hel⟩ := h
  obtain ⟨hw', ⟨t', ht', htb'⟩, e', he', her', hel'⟩ := h'
  refine ⟨hw'.trans hw, ⟨t ++ t', by rw [ht', ht, List.append_assoc], fun i hi => ?_⟩,
    e ++ e', by rw [he', he, List.append_assoc], fun x hx => ?_, ?_⟩
  · exact (List.mem_append.mp hi).elim (htb i) (htb' i)
  · exact (List.mem_append.mp hx).elim (her x) (her' x)
  · rw [List.length_append]
    omega

theorem Receives.mono {c c' : Conn} {m n : ℕ} (h : Receives c c' m) (hmn : m ≤ n) :
    Receives c c' n := by
  obtain ⟨hw, ht, e, he, her, hel⟩ := h
  exact ⟨hw, ht, e, he, her, hel.trans hmn⟩

theorem receives_touch {c : Conn} {indices : List ℕ} (h : ∀ i ∈ indices, i < reqBufSize) :
    Receives c (c.touch indices) 0 :=
  ⟨rfl, ⟨indices, rfl, h⟩, ⟨[], (List.append_nil _).symm, by simp⟩⟩

theorem receives_store {c : Conn} {i : ℕ} (h : i < reqBufSize) (x : UInt8) :
    Receives c (c.store i x) 0 :=
  ⟨rfl, ⟨[i], rfl, by simpa using h⟩, ⟨[], (List.append_nil _).symm, by simp⟩⟩

/-- A `zsock_recv` when the peer has nothing more to deliver. -/
theorem recvAt_nil {c : Conn} (h : c.input = []) (total : ℕ) :
    c.recvAt total = (false, c.emit (.recv none)) ∧ Receives c (c.emit (.recv none)) 1 :=
  ⟨by rw [Conn.recvAt, h], rfl, ⟨[], (List.append_nil _).symm, by simp⟩,
    ⟨_, rfl, by simp [ConnEvent.isRecv]⟩⟩

/-- A `zsock_recv` of a byte, into a free place of the buffer. -/
theorem recvAt_cons {c : Conn} {b : UInt8} {input : List UInt8} (h : c.input = b :: input)
    {total : ℕ} (htotal : total < reqBufSize) :
    ∃ c', c.recvAt total = (true, c') ∧ c'.input = input ∧ c'.buf = c.buf.put total b ∧
      Receives c c' 1 := by
  refine ⟨{ (c.emit (.recv (some b))).store total b with input }, by rw [Conn.recvAt, h], rfl, rfl,
    rfl, ⟨[total], rfl, by simpa using htotal⟩, ⟨_, rfl, by simp [ConnEvent.isRecv]⟩⟩

/-! ## The loops -/

/-- The outcome of the header loop step by step is that of `readHeaders`. -/
def HeaderExit.Matches (rest : List UInt8) : HeaderExit → Option ℕ → Conn → Prop
  | closed buf, hdrEnd, c => hdrEnd = none ∧ c.buf = buf ∧ c.input = []
  | full buf, hdrEnd, c => hdrEnd = none ∧ c.buf = buf ∧ c.input = rest
  | found buf total input, hdrEnd, c => hdrEnd = some total ∧ c.buf = buf ∧ c.input = input

/-- One round of the header loop that receives a byte: it finds the blank line, or goes on. -/
theorem headerLoop_round {c : Conn} {b : UInt8} {input : List UInt8} (hin : c.input = b :: input)
    {total : ℕ} (hlt : total < reqBufSize - 1) (fuel : ℕ) :
    ∃ c', c'.input = input ∧ c'.buf = c.buf.put total b ∧ Receives c c' 1 ∧
      headerLoop (fuel + 1) total c =
        if 4 ≤ total + 1 ∧
            ((c.buf.put total b).bytes.drop (total + 1 - 4)).take 4 = crlfCrlf then
          some (some (total + 1), c')
        else headerLoop fuel (total + 1) c' := by
  have hsize : reqBufSize = 512 := rfl
  obtain ⟨c₁, hc₁, hinput, hbuf, hrecv⟩ := recvAt_cons hin (show total < reqBufSize by omega)
  by_cases h4 : 4 ≤ total + 1
  · -- the last four bytes are looked at
    have htouch : Receives c₁ (c₁.touch (List.range' (total + 1 - 4) 4)) 0 := by
      refine receives_touch fun i hi => ?_
      rw [List.mem_range'_1] at hi
      omega
    refine ⟨c₁.touch (List.range' (total + 1 - 4) 4), hinput, hbuf, hrecv.trans htouch, ?_⟩
    rw [headerLoop, if_pos hlt, ← hbuf]
    simp only [hc₁, h4, Bool.not_true, Bool.false_eq_true, if_false, if_true, true_and]
    rfl
  · refine ⟨c₁, hinput, hbuf, hrecv, ?_⟩
    rw [headerLoop, if_pos hlt]
    simp only [hc₁, h4, Bool.not_true, Bool.false_eq_true, if_false, false_and]

/-- **The header loop ends**, within 511 rounds, as `readHeaders` does. -/
theorem headerLoop_spec (fuel : ℕ) : ∀ (total : ℕ) (c : Conn), total ≤ reqBufSize - 1 →
    reqBufSize - 1 - total < fuel → ∃ hdrEnd c', headerLoop fuel total c = some (hdrEnd, c') ∧
      total ≤ hdrEnd.getD (reqBufSize - 1) ∧ hdrEnd.getD (reqBufSize - 1) ≤ reqBufSize - 1 ∧
      Receives c c' (hdrEnd.getD (reqBufSize - 1) - total) ∧
      (readHeaders c.input c.buf total).Matches (c.input.drop (reqBufSize - 1 - total))
        hdrEnd c' := by
  have hsize : reqBufSize = 512 := rfl
  induction fuel with
  | zero => exact fun total c _ h => absurd h (Nat.not_lt_zero _)
  | succ fuel ih =>
    intro total c htotal hfuel
    by_cases hlt : total < reqBufSize - 1
    · cases hin : c.input with
      | nil =>
        obtain ⟨hrun, hrecv⟩ := recvAt_nil hin total
        refine ⟨none, c.emit (.recv none), by simp [headerLoop, hlt, hrun], htotal, le_rfl,
          hrecv.mono (by rw [Option.getD_none]; omega), ?_⟩
        rw [readHeaders, if_pos hlt]
        exact ⟨rfl, rfl, hin⟩
      | cons b input =>
        obtain ⟨c₁, hinput, hbuf, hrecv, hround⟩ := headerLoop_round hin hlt fuel
        have hdrop : (b :: input).drop (reqBufSize - 1 - total) =
            input.drop (reqBufSize - 1 - (total + 1)) := by
          have hstep : reqBufSize - 1 - total = reqBufSize - 1 - (total + 1) + 1 := by omega
          rw [hstep, List.drop_succ_cons]
        rw [hround, hdrop, readHeaders, if_pos hlt]
        simp only
        split_ifs with hcrlf
        · exact ⟨some (total + 1), c₁, rfl, Nat.le_succ total, hlt,
            hrecv.mono (by rw [Option.getD_some]; omega), rfl, hbuf, hinput⟩
        · obtain ⟨hdrEnd, c', hrun, hlo, hhi, hrec, hmatch⟩ :=
            ih (total + 1) c₁ (by omega) (by omega)
          rw [hbuf, hinput] at hmatch
          exact ⟨hdrEnd, c', hrun, by omega, hhi, (hrecv.trans hrec).mono (by omega), hmatch⟩
    · have hzero : reqBufSize - 1 - total = 0 := by omega
      refine ⟨none, c, by rw [headerLoop, if_neg hlt], htotal, le_rfl, Receives.refl c _, ?_⟩
      rw [hzero, List.drop_zero]
      cases hin : c.input with
      | nil =>
        rw [readHeaders, if_neg hlt]
        exact ⟨rfl, rfl, hin⟩
      | cons b input =>
        rw [readHeaders, if_neg hlt]
        exact ⟨rfl, rfl, hin⟩

/-- **The body loop ends**, as `readBody` does. -/
theorem bodyLoop_spec (blen : ℤ) (fuel : ℕ) : ∀ (total got : ℕ) (c : Conn),
    total ≤ reqBufSize - 1 → reqBufSize - 1 - total < fuel →
      ∃ c', bodyLoop blen fuel total got c =
          some ((readBody blen c.input c.buf total got).total, c') ∧
        Receives c c' (reqBufSize - 1 - total) ∧
        c'.buf = (readBody blen c.input c.buf total got).buf ∧
        c'.input = (readBody blen c.input c.buf total got).rest := by
  have hsize : reqBufSize = 512 := rfl
  induction fuel with
  | zero => exact fun total got c _ h => absurd h (Nat.not_lt_zero _)
  | succ fuel ih =>
    intro total got c htotal hfuel
    by_cases hlt : (got : ℤ) < blen ∧ total < reqBufSize - 1
    · rw [bodyLoop, if_pos hlt]
      cases hin : c.input with
      | nil =>
        obtain ⟨hrun, hrecv⟩ := recvAt_nil hin total
        exact ⟨c.emit (.recv none), by simp [hrun, readBody], hrecv.mono (by omega), rfl, hin⟩
      | cons b input =>
        obtain ⟨c₁, hc₁, hinput, hbuf, hrecv⟩ := recvAt_cons hin
          (show total < reqBufSize by omega)
        obtain ⟨c', hrun, hrec, hbuf', hinput'⟩ := ih (total + 1) (got + 1) c₁ (by omega) (by omega)
        rw [hinput, hbuf] at hrun hbuf' hinput'
        simp only [hc₁, Bool.not_true, Bool.false_eq_true, if_false]
        rw [readBody, if_pos hlt]
        exact ⟨c', hrun, (hrecv.trans hrec).mono (by omega), hbuf', hinput'⟩
    · rw [bodyLoop, if_neg hlt]
      refine ⟨c, ?_, Receives.refl c _, ?_⟩
      · cases hin : c.input with
        | nil => rw [readBody]
        | cons b input => rw [readBody, if_neg hlt]
      · cases hin : c.input with
        | nil => exact ⟨rfl, rfl⟩
        | cons b input => rw [readBody, if_neg hlt]; exact ⟨rfl, rfl⟩

/-! ## The request -/

/-- A string that is ended by a NUL of the buffer is read within the buffer. -/
theorem receives_scan {c : Conn} {off j : ℕ} (hoff : off ≤ j) (hj : j < reqBufSize)
    (hnul : c.buf.bytes[j]? = some 0) : Receives c (c.scan off) 0 := by
  have hlen : (c.buf.text off).length ≤ j - off := by
    refine length_text_le ?_
    rw [List.getElem?_drop, Nat.add_sub_cancel' hoff]
    exact hnul
  refine receives_touch fun i hi => ?_
  rw [List.mem_range'_1] at hi
  omega

/-- The number `atoi` parses stands in the string that was searched. -/
theorem length_le_of_findContentLength {s cl : List UInt8} (h : findContentLength s = some cl) :
    15 ≤ cl.length ∧ cl.length ≤ s.length := by
  have hfound : ∀ needle : List UInt8, needle.length = 15 → strstr needle s = some cl →
      15 ≤ cl.length ∧ cl.length ≤ s.length := by
    intro needle hneedle hstr
    obtain ⟨pre, hs, hprefix, -⟩ := (strstr_eq_some_iff needle s cl).mp hstr
    have hle := hprefix.length_le
    rw [hs, List.length_append]
    omega
  rcases Option.or_eq_some_iff.mp h with h | ⟨-, h⟩
  · exact hfound _ rfl h
  · exact hfound _ rfl h

/-- The body of a POST, behind a head that a NUL ends at `k`. -/
theorem postBody_spec {fuel k : ℕ} (hfuel : reqBufSize ≤ fuel) (hk : k ≤ reqBufSize - 1)
    (c : Conn) (hnul : c.buf.bytes[k]? = some 0) :
    ∃ c' j, postBody fuel k c = some c' ∧ Receives c c' (reqBufSize - 1 - k) ∧
      c'.buf = (bodyExit (parsedLength (c.buf.text 0)) c.input c.buf k).buf ∧
      c'.input = (bodyExit (parsedLength (c.buf.text 0)) c.input c.buf k).rest ∧
      k ≤ j ∧ j < reqBufSize ∧ c'.buf.bytes[j]? = some 0 := by
  have hsize : reqBufSize = 512 := rfl
  have hscan := receives_scan (Nat.zero_le k) (by omega) hnul
  obtain ⟨htotal, -, -, -, hend⟩ :=
    bodyExit_stores (parsedLength (c.buf.text 0)) c.input hk hnul
  have hlast : k + min (min ((parsedLength (c.buf.text 0)).getD 0).toNat (reqBufSize - 1 - k))
      c.input.length < reqBufSize := by omega
  rw [postBody]
  cases hcl : findContentLength (c.buf.text 0) with
  | none =>
    have hexit : bodyExit (parsedLength (c.buf.text 0)) c.input c.buf k =
        ⟨c.buf, k, 0, c.input⟩ := by rw [parsedLength, hcl]; rfl
    refine ⟨c.scan 0, k, rfl, hscan.mono (by omega), ?_, ?_, le_rfl, by omega, hnul⟩
    · rw [hexit]
      rfl
    · rw [hexit]
      rfl
  | some cl =>
    obtain ⟨h15, hle⟩ := length_le_of_findContentLength hcl
    have htext : (c.buf.text 0).length ≤ k := length_text_le (by rw [List.drop_zero]; exact hnul)
    have hatoi : Receives (c.scan 0) ((c.scan 0).scan ((c.buf.text 0).length - cl.length + 15)) 0 :=
      receives_scan (j := k) (by omega) (by omega) hnul
    obtain ⟨c', hrun, hrec, hbuf, hinput⟩ := bodyLoop_spec (atoi (cl.drop 15)) fuel k 0
      ((c.scan 0).scan ((c.buf.text 0).length - cl.length + 15)) hk (by omega)
    change bodyLoop _ _ _ _ _ = some ((readBody (atoi (cl.drop 15)) c.input c.buf k 0).total, c')
      at hrun
    change c'.buf = (readBody (atoi (cl.drop 15)) c.input c.buf k 0).buf at hbuf
    change c'.input = (readBody (atoi (cl.drop 15)) c.input c.buf k 0).rest at hinput
    have hexit : bodyExit (parsedLength (c.buf.text 0)) c.input c.buf k =
        let r := readBody (atoi (cl.drop 15)) c.input c.buf k 0
        { r with buf := r.buf.put r.total 0 } := by rw [parsedLength, hcl]; rfl
    rw [hexit] at htotal hend ⊢
    simp only [hrun, Option.map_some]
    have hstore := receives_store (c := c')
      (i := (readBody (atoi (cl.drop 15)) c.input c.buf k 0).total)
      (by rw [show (readBody _ _ _ _ _).total = _ from htotal]; exact hlast) 0
    refine ⟨_, _, rfl, (((hscan.trans hatoi).trans hrec).trans hstore).mono (by omega), ?_, hinput,
      Nat.le_add_right _ _, hlast, ?_⟩
    · show c'.buf.put _ 0 = _
      rw [hbuf]
    · show (c'.buf.put _ 0).bytes[_]? = some 0
      rw [hbuf]
      exact hend

/-- What the endpoint adds to the record. -/
def answerOf (decision : Decision) (mem : List UInt8) : List ConnEvent :=
  match decision with
  | .reject => []
  | .page => [.handlePage]
  | .rc => [.handleRc mem]

/-- From `c` to `c'` a request was served as the run `r` says, with the argument of `handle_rc`
at `k`: at most `n` receives, then the answer. -/
structure Serves (c c' : Conn) (k n : ℕ) (r : ClientRun) : Prop where
  web : c'.web = r.web
  input : c'.input = r.rest
  buf : c'.buf = r.buf
  touched : ∃ new, c'.touched = c.touched ++ new ∧ ∀ i ∈ new, i < reqBufSize
  events : ∃ recvs, c'.events = c.events ++ recvs ++ answerOf r.decision (r.buf.bytes.drop k) ∧
    (∀ e ∈ recvs, e.isRecv = true) ∧ recvs.length ≤ n

/-- A request is served by receiving and then answering. -/
theorem Receives.serves {c c₁ c' : Conn} {k n : ℕ} {r : ClientRun} (h : Receives c c₁ n)
    (hweb : c'.web = r.web) (hinput : c'.input = r.rest) (hbuf : c'.buf = r.buf)
    (htouched : c'.touched = c₁.touched)
    (hevents : c'.events = c₁.events ++ answerOf r.decision (r.buf.bytes.drop k)) :
    Serves c c' k n r := by
  obtain ⟨-, ht, recvs, he, her, hel⟩ := h
  exact ⟨hweb, hinput, hbuf, by rwa [htouched], recvs, by rw [hevents, he], her, hel⟩

/-- **A request is served** as `handleRequest` says. -/
theorem serveRequest_spec {fuel k : ℕ} (hfuel : reqBufSize ≤ fuel) (hk : k ≤ reqBufSize - 1)
    (now : ℤ) (c : Conn) :
    ∃ c', serveRequest fuel now k c = some c' ∧
      Serves c c' k (reqBufSize - 1 - k) (handleRequest now c.web c.buf k c.input) := by
  have hsize : reqBufSize = 512 := rfl
  obtain ⟨c₁, hc₁⟩ : ∃ c₁, c₁ = (c.store k 0).scan 0 := ⟨_, rfl⟩
  have hbuf₁ : c₁.buf = c.buf.put k 0 := by rw [hc₁]; rfl
  have hinput₁ : c₁.input = c.input := by rw [hc₁]; rfl
  have hnul : c₁.buf.bytes[k]? = some 0 := by
    rw [hbuf₁]
    show (List.set _ _ _)[_]? = _
    rw [List.getElem?_set_self]
    rw [ReqBuf.length_eq]
    omega
  have hrec₁ : Receives c c₁ 0 := by
    rw [hc₁] at hnul ⊢
    exact (receives_store (by omega) 0).trans (receives_scan (Nat.zero_le k) (by omega) hnul)
  rw [serveRequest]
  simp only [← hc₁]
  cases hline : requestLine (c₁.buf.text 0) with
  | none =>
    have hrun : handleRequest now c.web c.buf k c.input =
        ⟨c₁.buf, c.web, .reject, 0, c.input⟩ := by
      rw [hbuf₁] at hline ⊢
      rw [handleRequest, hline]
    rw [hrun]
    exact ⟨c₁, rfl, (hrec₁.mono (Nat.zero_le _)).serves hrec₁.web hinput₁ rfl rfl
      (List.append_nil _).symm⟩
  | some line =>
    obtain ⟨method, path⟩ := line
    by_cases hpost : method = ascii "POST"
    · subst hpost
      obtain ⟨c₂, j, hbody, hrec₂, hbuf₂, hinput₂, hkj, hj, hnul₂⟩ :=
        postBody_spec hfuel hk c₁ hnul
      have hrun : handleRequest now c.web c.buf k c.input = _ :=
        handleRequest_of_post (by rw [← hbuf₁]; exact hline)
      rw [← hbuf₁, ← hinput₁] at hrun
      have hrec : Receives c (c₂.scan k) (reqBufSize - 1 - k) :=
        ((hrec₁.trans hrec₂).trans (receives_scan hkj hj hnul₂)).mono (by omega)
      have hrec₂' : Receives c c₂ (reqBufSize - 1 - k) := (hrec₁.trans hrec₂).mono (by omega)
      simp only [if_true, true_and, hbody, Option.map_some]
      rw [← hinput₁, hrun]
      by_cases hpath : path = ascii "/rc"
      · simp only [if_pos hpath, ← hbuf₂, ← hinput₂]
        exact ⟨_, rfl, hrec.serves rfl rfl rfl rfl rfl⟩
      · simp only [if_neg hpath, ← hbuf₂, ← hinput₂]
        exact ⟨_, rfl, hrec₂'.serves hrec₂'.web rfl rfl rfl rfl⟩
    · have hrun : handleRequest now c.web c.buf k c.input =
          ⟨c₁.buf, c.web, .page, 0, c.input⟩ := by
        rw [hbuf₁] at hline ⊢
        rw [handleRequest, hline]
        simp only [if_neg hpost, if_neg fun h : method = ascii "POST" ∧ _ => hpost h.1]
      simp only [if_neg hpost, if_neg fun h : method = ascii "POST" ∧ _ => hpost h.1,
        Option.map_some]
      rw [hrun]
      exact ⟨_, rfl, (hrec₁.mono (Nat.zero_le _)).serves hrec₁.web hinput₁ rfl rfl rfl⟩

/-! ## The connection -/

/-- The connection `s` was served as the run `r` of `handleClient`: its head is the first that
fits, no index lies past the buffer, and after at most 511 receives it is answered and closed. -/
structure ServedAs (stream : List UInt8) (r : ClientRun) (s : Served) : Prop where
  web : s.conn.web = r.web
  input : s.conn.input = r.rest
  buf : s.conn.buf = r.buf
  hdrEnd : ∀ k, s.hdrEnd = some k ↔ HeadEnd stream k ∧ k ≤ reqBufSize - 1
  touched : ∀ i ∈ s.conn.touched, i < reqBufSize
  events : ∃ recvs, s.conn.events =
      recvs ++ answerOf r.decision (r.buf.bytes.drop (s.hdrEnd.getD 0)) ++ [.close] ∧
    (∀ e ∈ recvs, e.isRecv = true) ∧ recvs.length ≤ reqBufSize - 1

/-- A connection whose head fits is served. -/
theorem handleClientSteps_of_headEnd {fuel : ℕ} (hfuel : reqBufSize ≤ fuel) {stream : List UInt8}
    {k : ℕ} (hend : HeadEnd stream k) (hk : k ≤ reqBufSize - 1) (now : ℤ) (buf : ReqBuf)
    (web : Web) : ∃ s, handleClientSteps fuel now stream buf web = some s ∧
      ServedAs stream (handleClient now stream buf web) s := by
  have hsize : reqBufSize = 512 := rfl
  obtain ⟨hdrEnd, c, hloop, -, -, ⟨hweb, ⟨t, ht, htb⟩, recvs, he, her, hel⟩, hmatch⟩ :=
    headerLoop_spec fuel 0 ⟨stream, buf, web, [], []⟩ (by omega) (by omega)
  simp only [List.nil_append] at hweb ht he hmatch
  obtain ⟨buf', hfound, -⟩ := readHeaders_of_headEnd hk stream [] buf rfl hend.1.pos hend
  rw [List.nil_append, List.length_nil] at hfound
  rw [hfound] at hmatch
  obtain ⟨rfl, hbuf, hinput⟩ := hmatch
  obtain ⟨c', hserve, hs⟩ := serveRequest_spec hfuel hk now c
  rw [hweb, hbuf, hinput] at hs
  obtain ⟨t', ht', htb'⟩ := hs.touched
  obtain ⟨recvs', he', her', hel'⟩ := hs.events
  have hrun : handleClient now stream buf web = handleRequest now web buf' k (stream.drop k) := by
    rw [handleClient, hfound]
  rw [handleClientSteps, hloop, Option.bind_some, hrun]
  simp only [hserve, Option.map_some]
  refine ⟨_, rfl, hs.web, hs.input, hs.buf, fun j => ?_, fun i hi => ?_, recvs ++ recvs', ?_,
    fun e hemem => ?_, ?_⟩
  · rw [Option.some.injEq]
    constructor
    · rintro rfl
      exact ⟨hend, hk⟩
    · exact fun hj => hend.unique hj.1
  · change i ∈ c'.touched at hi
    rw [ht', ht, List.mem_append] at hi
    exact hi.elim (htb i) (htb' i)
  · show c'.events ++ [.close] = _
    rw [he', he]
    rfl
  · exact (List.mem_append.mp hemem).elim (her e) (her' e)
  · rw [Option.getD_some] at hel
    rw [List.length_append]
    omega

/-- A connection without a head that fits is closed. -/
theorem handleClientSteps_of_no_head {fuel : ℕ} (hfuel : reqBufSize ≤ fuel) {stream : List UInt8}
    (hno : ∀ k, ¬ (HeadEnd stream k ∧ k ≤ reqBufSize - 1)) (now : ℤ) (buf : ReqBuf) (web : Web) :
    ∃ s, handleClientSteps fuel now stream buf web = some s ∧
      ServedAs stream (handleClient now stream buf web) s := by
  have hsize : reqBufSize = 512 := rfl
  obtain ⟨hdrEnd, c, hloop, -, -, ⟨hweb, ⟨t, ht, htb⟩, recvs, he, her, hel⟩, hmatch⟩ :=
    headerLoop_spec fuel 0 ⟨stream, buf, web, [], []⟩ (by omega) (by omega)
  simp only [List.nil_append] at hweb ht he hmatch
  have hblank : ∀ j, 0 < j → j ≤ reqBufSize - 1 → ¬ BlankLineAt ([] ++ stream) j := by
    intro j _ hj hb
    obtain ⟨k, hend, hk⟩ := exists_headEnd_le hb
    exact hno k ⟨hend, hk.trans hj⟩
  -- the peer closed, or the buffer is full: either way the request is rejected
  obtain ⟨buf', rest, hrun, rfl, hbuf, hinput⟩ : ∃ buf' rest,
      handleClient now stream buf web = ⟨buf', web, .reject, 0, rest⟩ ∧ hdrEnd = none ∧
        c.buf = buf' ∧ c.input = rest := by
    obtain ⟨buf', hexit | hexit⟩ := readHeaders_of_no_head stream [] buf rfl hblank
    · rw [List.length_nil] at hexit
      rw [hexit] at hmatch
      exact ⟨buf', [], by rw [handleClient, hexit], hmatch⟩
    · rw [List.length_nil] at hexit
      rw [hexit] at hmatch
      exact ⟨buf', stream.drop (reqBufSize - 1), by rw [handleClient, hexit], hmatch⟩
  have htouched : ∀ i ∈ c.touched, i < reqBufSize := by
    rw [ht]
    exact htb
  have hnone : ∀ j, (none : Option ℕ) = some j ↔ HeadEnd stream j ∧ j ≤ reqBufSize - 1 := by
    intro j
    constructor
    · intro hj
      cases hj
    · exact fun hj => absurd hj (hno j)
  rw [handleClientSteps, hloop, Option.bind_some, hrun]
  refine ⟨_, rfl, hweb, hinput, hbuf, hnone, htouched, recvs, ?_, her, hel⟩
  show c.events ++ [.close] = _
  rw [he]
  simp [answerOf]

/-- **Step by step, `handle_client` comes to what `handleClient` says**, and its loops end. -/
theorem handleClientSteps_eq {fuel : ℕ} (hfuel : reqBufSize ≤ fuel) (now : ℤ)
    (stream : List UInt8) (buf : ReqBuf) (web : Web) :
    ∃ s, handleClientSteps fuel now stream buf web = some s ∧
      ServedAs stream (handleClient now stream buf web) s := by
  by_cases hhead : ∃ k, HeadEnd stream k ∧ k ≤ reqBufSize - 1
  · obtain ⟨k, hend, hk⟩ := hhead
    exact handleClientSteps_of_headEnd hfuel hend hk now buf web
  · rw [not_exists] at hhead
    exact handleClientSteps_of_no_head hfuel hhead now buf web

/-! ## Framing -/

/-- What exact framing asks of a connection. -/
structure Framed (now : ℤ) (stream : List UInt8) (web : Web) (s : Served) : Prop where
  /-- No index of `req_buf` past 511 is read or written. -/
  indices : ∀ i ∈ s.conn.touched, i ≤ 511
  /-- The socket is closed once, at the end. -/
  closed : ∃ before, s.conn.events = before ++ [.close] ∧ .close ∉ before
  /-- `hdr_end` is the end of the first CR LF CR LF, if that fits. -/
  hdrEnd : ∀ k, s.hdrEnd = some k ↔ HeadEnd stream k ∧ k ≤ 511
  /-- Without it nothing is stored and nothing sent. -/
  noHead : s.hdrEnd = none → s.conn.web = web ∧
    ∀ e ∈ s.conn.events, e.isRecv = true ∨ e = .close
  /-- A `POST /rc` consumes its body as far as it was announced, has room and is there; these
  bytes and a NUL are what `handle_rc` is handed, once. -/
  postRc : ∀ k, s.hdrEnd = some k → PostRc (stream.take k) →
    ∃ n, n = min (min (bodyLength (stream.take k)) (511 - k)) (stream.length - k) ∧
      s.conn.input = stream.drop (k + n) ∧
      s.conn.web = handleRc now (text ((stream.drop k).take n)) ∧
      ∃ recvs stale, s.conn.events =
          recvs ++ [.handleRc ((stream.drop k).take n ++ 0 :: stale)] ++ [.close] ∧
        ∀ e ∈ recvs, e.isRecv = true

/-- The answer of an endpoint is no receive and no close. -/
theorem close_notMem_answerOf (decision : Decision) (mem : List UInt8) :
    .close ∉ answerOf decision mem := by
  cases decision <;> simp [answerOf]

/-- **Bounded, exact request framing.**  Every connection is served --- the two loops end within
511 rounds --- and it is framed exactly. -/
theorem request_framing (now : ℤ) (stream : List UInt8) (buf : ReqBuf) (web : Web) :
    ∃ s, handleClientSteps 512 now stream buf web = some s ∧ Framed now stream web s := by
  obtain ⟨s, hrun, h⟩ := handleClientSteps_eq (le_refl reqBufSize) now stream buf web
  obtain ⟨recvs, hevents, hrecvs, -⟩ := h.events
  refine ⟨s, hrun, fun i hi => Nat.le_of_lt_succ (h.touched i hi), ⟨_, hevents, ?_⟩, h.hdrEnd,
    fun hnone => ?_, fun k hk hpost => ?_⟩
  · rw [List.mem_append, not_or]
    exact ⟨fun hc => absurd (hrecvs _ hc) (by decide), close_notMem_answerOf _ _⟩
  · have hno : ∀ k, HeadEnd stream k → ¬ k ≤ reqBufSize - 1 := by
      intro k hend hk
      have hsome := (h.hdrEnd k).mpr ⟨hend, hk⟩
      rw [hnone] at hsome
      cases hsome
    have houtcome := handleClient_outcome_of_no_head hno now buf web
    have hdecision : (handleClient now stream buf web).decision = .reject :=
      congrArg Outcome.decision houtcome
    refine ⟨h.web.trans (congrArg Outcome.web houtcome), fun e he => ?_⟩
    rw [hevents, hdecision, answerOf, List.append_nil, List.mem_append, List.mem_singleton] at he
    exact he.imp_left (hrecvs e)
  · obtain ⟨hend, hle⟩ := (h.hdrEnd k).mp hk
    have houtcome := handleClient_outcome_of_postRc hend hle hpost now buf web
    obtain ⟨stale, hhanded⟩ := handleClient_handed hend hle hpost now buf web
    have hdecision : (handleClient now stream buf web).decision = .rc :=
      congrArg Outcome.decision houtcome
    rw [hdecision, hk, Option.getD_some, hhanded] at hevents
    exact ⟨_, rfl, h.input.trans (congrArg Outcome.rest houtcome),
      h.web.trans (congrArg Outcome.web houtcome), recvs, stale, hevents, hrecvs⟩

/-! ## Earlier requests -/

/-- **No leakage between requests.**  Whatever two earlier histories have left in `req_buf`, the
same bytes come to the same decision, the same package, the same number of body bytes, and
leave the same bytes in the socket. -/
theorem outcome_independent (now : ℤ) (stream : List UInt8) (web : Web) (buf buf' : ReqBuf) :
    (handleClient now stream buf web).outcome = (handleClient now stream buf' web).outcome := by
  by_cases hhead : ∃ k, HeadEnd stream k ∧ k ≤ reqBufSize - 1
  · obtain ⟨k, hend, hk⟩ := hhead
    rw [handleClient_outcome_of_headEnd hend hk, handleClient_outcome_of_headEnd hend hk]
  · have hno : ∀ k, HeadEnd stream k → ¬ k ≤ reqBufSize - 1 := fun k hend hk => hhead ⟨k, hend, hk⟩
    rw [handleClient_outcome_of_no_head hno, handleClient_outcome_of_no_head hno]

end DroneFirmware

import DroneFirmware.ControlPage
import DroneFirmware.Fsm
import DroneFirmware.Net.PartialSend

/-!
# The answers of the web server: `drone_webserver.c`

What `WebServer` leaves out.  `handle_rc` formats the telemetry into the static `resp_buf` and
a header with its length into `hdr`; `handle_page` formats a header for the page.  Both hand
header and body to the connection with two calls of `send_all`.

The network is a reply for every call of `zsock_send`, in the order of the calls.  `send_all`
goes on after a partial send and breaks at a failed one, but it does not tell its caller, and
both callers go on with the body.  A header that a failed send cut short is therefore followed
by bytes of the body as soon as the next send succeeds.

* `sendAll_cases`: `send_all` returns; either everything was handed over or the run was cut.
* `Intact`: what a whole answer, or the start of one, looks like.
* `reply_intact_iff`: an answer is intact exactly when a cut in the header is final.
-/

namespace DroneFirmware

open CText Net

/-! ## Telemetry -/

/-- The value of the enumerator. -/
def DroneState.code : DroneState → ℤ
  | init => 0
  | idle => 1
  | arming => 2
  | armed => 3
  | flying => 4
  | failsafe => 5
  | landing => 6
  | error => 7

/-- `drone_fsm_state_name`. -/
def droneFsmStateName (state : ℤ) : String :=
  if state = DroneState.init.code then "INIT"
  else if state = DroneState.idle.code then "IDLE"
  else if state = DroneState.arming.code then "ARMING"
  else if state = DroneState.armed.code then "ARMED"
  else if state = DroneState.flying.code then "FLYING"
  else if state = DroneState.failsafe.code then "FAILSAFE"
  else if state = DroneState.landing.code then "LANDING"
  else if state = DroneState.error.code then "ERROR"
  else "UNKNOWN"

/-- Every name that `drone_fsm_state_name` returns. -/
def stateNames : List String :=
  ["INIT", "IDLE", "ARMING", "ARMED", "FLYING", "FAILSAFE", "LANDING", "ERROR", "UNKNOWN"]

theorem droneFsmStateName_mem (state : ℤ) : droneFsmStateName state ∈ stateNames := by
  rw [droneFsmStateName]
  split_ifs <;> simp [stateNames]

/-- What `handle_rc` reports: the two angles and the yaw rate, in tenths and converted to
`int`, and the state, which need not be one of the enumerators. -/
structure Telemetry where
  rol : Int32
  pit : Int32
  gz : Int32
  state : ℤ
  deriving DecidableEq

/-- The body that `handle_rc` formats. -/
def telemetryText (t : Telemetry) : List UInt8 :=
  ascii "\x7b\"rol\":" ++ intText t.rol.toInt ++ ascii ",\"pit\":" ++ intText t.pit.toInt ++
    ascii ",\"gz\":" ++ intText t.gz.toInt ++ ascii ",\"st\":\"" ++
    ascii (droneFsmStateName t.state) ++ ascii "\"\x7d"

/-! ## Headers -/

/-- The header of an answer with a body of `len` bytes. -/
def httpHeader (contentType : String) (len : ℤ) (more : String) : List UInt8 :=
  ascii "HTTP/1.1 200 OK\r\n" ++ ascii contentType ++ ascii "Content-Length: " ++ intText len ++
    ascii "\r\n" ++ ascii "Connection: close\r\n" ++ ascii more ++ ascii "\r\n"

/-- The header that `handle_rc` formats. -/
def rcHeader (len : ℤ) : List UInt8 := httpHeader "Content-Type: application/json\r\n" len ""

/-- `rlen` and `resp_buf` after the first `snprintf` of `handle_rc`. -/
def rcBody (t : Telemetry) (respBuf : CharArray 96) : ℤ × CharArray 96 :=
  snprintf (telemetryText t) respBuf

/-- `hlen` and `hdr` after the second. -/
def rcHead (t : Telemetry) (respBuf : CharArray 96) (hdr : CharArray 128) : ℤ × CharArray 128 :=
  snprintf (rcHeader (rcBody t respBuf).1) hdr

/-- The header that `handle_page` formats. -/
def pageHeader (len : ℤ) : List UInt8 :=
  httpHeader "Content-Type: text/html\r\n" len "Cache-Control: no-cache\r\n"

/-! ## What the texts are like -/

theorem fitsInt_toInt (v : Int32) : FitsInt v.toInt := by
  have hlo := v.le_toInt
  have hhi := v.toInt_lt
  rw [FitsInt, intMin, intMax]
  omega

theorem length_stateName_le (state : ℤ) : (ascii (droneFsmStateName state)).length ≤ 8 :=
  (show ∀ name ∈ stateNames, (ascii name).length ≤ 8 by decide) _ (droneFsmStateName_mem state)

theorem stateName_noNul (state : ℤ) : 0 ∉ ascii (droneFsmStateName state) :=
  (show ∀ name ∈ stateNames, 0 ∉ ascii name by decide) _ (droneFsmStateName_mem state)

/-- **The telemetry takes seventy bytes at most**: eleven for each of the numbers, eight for the
name. -/
theorem length_telemetryText_le (t : Telemetry) : (telemetryText t).length ≤ 70 := by
  have hrol := length_intText_le (fitsInt_toInt t.rol)
  have hpit := length_intText_le (fitsInt_toInt t.pit)
  have hgz := length_intText_le (fitsInt_toInt t.gz)
  have hname := length_stateName_le t.state
  have h1 : (ascii "\x7b\"rol\":").length ≤ 7 := length_ascii_le le_rfl
  have h2 : (ascii ",\"pit\":").length ≤ 7 := length_ascii_le le_rfl
  have h3 : (ascii ",\"gz\":").length ≤ 6 := length_ascii_le le_rfl
  have h4 : (ascii ",\"st\":\"").length ≤ 7 := length_ascii_le le_rfl
  have h5 : (ascii "\"\x7d").length ≤ 2 := length_ascii_le le_rfl
  simp only [telemetryText, List.length_append]
  omega

example :
    (telemetryText ⟨.minValue, .minValue, .minValue, DroneState.failsafe.code⟩).length = 70 := by
  decide +kernel

theorem fitsInt_length_telemetryText (t : Telemetry) : FitsInt (telemetryText t).length := by
  have hlen := length_telemetryText_le t
  rw [FitsInt, intMin, intMax]
  omega

theorem telemetryText_noNul (t : Telemetry) : 0 ∉ telemetryText t := by
  have hint : ∀ v, 0 ∉ intText v := fun v h => (ne_of_mem_intText h).2.2 rfl
  have h1 : 0 ∉ ascii "\x7b\"rol\":" := by decide
  have h2 : 0 ∉ ascii ",\"pit\":" := by decide
  have h3 : 0 ∉ ascii ",\"gz\":" := by decide
  have h4 : 0 ∉ ascii ",\"st\":\"" := by decide
  have h5 : 0 ∉ ascii "\"\x7d" := by decide
  simp only [telemetryText, List.mem_append, hint, h1, h2, h3, h4, h5, stateName_noNul, or_self,
    not_false_iff]

/-- The telemetry begins with a brace. -/
theorem head?_telemetryText (t : Telemetry) : (telemetryText t).head? = some 0x7B := by
  have hline : (ascii "\x7b\"rol\":").head? = some 0x7B := rfl
  simp only [telemetryText, List.append_assoc]
  rw [List.head?_append, hline, Option.some_or]

/-- A byte that a header may have: neither a NUL nor one that a body begins with. -/
def isHeaderByte (b : UInt8) : Bool := b != 0 && b != 0x7B && b != 0x3C

theorem isHeaderByte_of_mem_httpHeader {contentType more : String}
    (htype : ∀ b ∈ ascii contentType, isHeaderByte b = true)
    (hmore : ∀ b ∈ ascii more, isHeaderByte b = true) (len : ℤ) :
    ∀ b ∈ httpHeader contentType len more, isHeaderByte b = true := by
  have hint : ∀ b ∈ intText len, isHeaderByte b = true := by
    intro b hb
    rcases mem_intText hb with rfl | hd
    · rfl
    · have hne : ∀ c : UInt8, isDigit c = false → b ≠ c := by
        rintro c hc rfl
        exact Bool.false_ne_true (hc.symm.trans hd)
      simp [isHeaderByte, hne 0 rfl, hne 0x7B rfl, hne 0x3C rfl]
  have h1 : ∀ b ∈ ascii "HTTP/1.1 200 OK\r\n", isHeaderByte b = true := forall_mem_ascii rfl
  have h2 : ∀ b ∈ ascii "Content-Length: ", isHeaderByte b = true := forall_mem_ascii rfl
  have h3 : ∀ b ∈ ascii "\r\n", isHeaderByte b = true := forall_mem_ascii rfl
  have h4 : ∀ b ∈ ascii "Connection: close\r\n", isHeaderByte b = true := forall_mem_ascii rfl
  simp only [httpHeader, List.forall_mem_append]
  exact ⟨⟨⟨⟨⟨⟨⟨h1, htype⟩, h2⟩, hint⟩, h3⟩, h4⟩, hmore⟩, h3⟩

theorem isHeaderByte_of_mem_rcHeader (len : ℤ) : ∀ b ∈ rcHeader len, isHeaderByte b = true :=
  isHeaderByte_of_mem_httpHeader (forall_mem_ascii rfl) (forall_mem_ascii rfl) len

theorem isHeaderByte_of_mem_pageHeader (len : ℤ) : ∀ b ∈ pageHeader len, isHeaderByte b = true :=
  isHeaderByte_of_mem_httpHeader (forall_mem_ascii rfl) (forall_mem_ascii rfl) len

theorem length_httpHeader_le {len : ℤ} (hlen : FitsInt len) (contentType more : String) :
    (httpHeader contentType len more).length ≤
      67 + (ascii contentType).length + (ascii more).length := by
  have hint := length_intText_le hlen
  have h1 : (ascii "HTTP/1.1 200 OK\r\n").length ≤ 17 := length_ascii_le le_rfl
  have h2 : (ascii "Content-Length: ").length ≤ 16 := length_ascii_le le_rfl
  have h3 : (ascii "\r\n").length ≤ 2 := length_ascii_le le_rfl
  have h4 : (ascii "Connection: close\r\n").length ≤ 19 := length_ascii_le le_rfl
  simp only [httpHeader, List.length_append]
  omega

theorem length_rcHeader_lt {len : ℤ} (hlen : FitsInt len) : (rcHeader len).length < 128 := by
  have hheader := length_httpHeader_le hlen "Content-Type: application/json\r\n" ""
  have htype : (ascii "Content-Type: application/json\r\n").length ≤ 32 :=
    length_ascii_le le_rfl
  have hmore : (ascii "").length ≤ 0 := length_ascii_le le_rfl
  rw [rcHeader]
  omega

theorem length_pageHeader_lt {len : ℤ} (hlen : FitsInt len) : (pageHeader len).length < 128 := by
  have hheader :=
    length_httpHeader_le hlen "Content-Type: text/html\r\n" "Cache-Control: no-cache\r\n"
  have htype : (ascii "Content-Type: text/html\r\n").length ≤ 25 := length_ascii_le le_rfl
  have hmore : (ascii "Cache-Control: no-cache\r\n").length ≤ 25 := length_ascii_le le_rfl
  rw [pageHeader]
  omega

/-- **The telemetry fits `resp_buf`.** -/
theorem printed_rcBody (t : Telemetry) (respBuf : CharArray 96) :
    Printed (telemetryText t) (rcBody t respBuf) := by
  have hlen := length_telemetryText_le t
  exact snprintf_of_fits (by omega) (telemetryText_noNul t) respBuf

/-- **The header of the telemetry fits `hdr`.** -/
theorem printed_rcHead (t : Telemetry) (respBuf : CharArray 96) (hdr : CharArray 128) :
    Printed (rcHeader (telemetryText t).length) (rcHead t respBuf hdr) := by
  rw [rcHead, (printed_rcBody t respBuf).ret]
  exact snprintf_of_fits (length_rcHeader_lt (fitsInt_length_telemetryText t))
    (fun h => absurd (isHeaderByte_of_mem_rcHeader _ 0 h) (by decide)) hdr

/-- **The header of the page fits `hdr`.** -/
theorem printed_pageHeader {len : ℤ} (hlen : FitsInt len) (hdr : CharArray 128) :
    Printed (pageHeader len) (snprintf (pageHeader len) hdr) :=
  snprintf_of_fits (length_pageHeader_lt hlen)
    (fun h => absurd (isHeaderByte_of_mem_pageHeader len 0 h) (by decide)) hdr

/-! ## Sending -/

/-- What has happened on the connection: the bytes it was handed, the calls of `zsock_send`,
whether one of them failed, and whether one was offered bytes beyond the end of the array. -/
structure Wire where
  handed : List UInt8
  calls : ℕ
  failed : Bool
  overread : Bool
  deriving DecidableEq

/-- The connection before the answer. -/
def Wire.start : Wire := ⟨[], 0, false, false⟩

/-- One call of `zsock_send` that offers `len` bytes at `buf` and returns `n`. -/
def Wire.send (buf : List UInt8) (len n : ℤ) (w : Wire) : Wire where
  handed := w.handed ++ buf.take n.toNat
  calls := w.calls + 1
  failed := w.failed || n ≤ 0
  overread := w.overread || buf.length < len

/-- `send_all`.  `buf` is the array from the pointer on; the loop gets `fuel` tests of its
condition, and `none` means that they were not enough. -/
def sendAll (net : ℕ → SendReply) : ℕ → List UInt8 → ℤ → Wire → Option Wire
  | 0, _, _, _ => none
  | fuel + 1, buf, len, w =>
      if len > 0 then
        let n := (net w.calls).result len
        let w := w.send buf len n
        if n ≤ 0 then some w else sendAll net fuel (buf.drop n.toNat) (len - n) w
      else
        some w

/-- The end of `handle_rc`, from the first `snprintf` on.  `resp_buf` holds the last answer,
and `hdr` anything. -/
def handleRcReply (net : ℕ → SendReply) (fuel : ℕ) (t : Telemetry) (respBuf : CharArray 96)
    (hdr : CharArray 128) : Option Wire :=
  let body := rcBody t respBuf
  let header := rcHead t respBuf hdr
  (sendAll net fuel header.2.bytes header.1 .start).bind
    (sendAll net fuel body.2.bytes body.1)

/-- `handle_page`. -/
def handlePage (net : ℕ → SendReply) (fuel : ℕ) (hdr : CharArray 128) : Option Wire :=
  let header := snprintf (pageHeader (sizeofHtml - 1)) hdr
  (sendAll net fuel header.2.bytes header.1 .start).bind
    (sendAll net fuel htmlArray (sizeofHtml - 1))

/-! ## `send_all` -/

variable {net : ℕ → SendReply}

/-- The loop returns `w`, whatever number of tests over some bound it is given. -/
def Returns (loop : ℕ → Option Wire) (w : Wire) : Prop :=
  ∃ bound, ∀ fuel, bound < fuel → loop fuel = some w

theorem Returns.unique {loop : ℕ → Option Wire} {w w' : Wire} (h : Returns loop w)
    (h' : Returns loop w') : w = w' := by
  obtain ⟨bound, hret⟩ := h
  obtain ⟨bound', hret'⟩ := h'
  have hw := hret (bound + bound' + 1) (by omega)
  rw [hret' (bound + bound' + 1) (by omega)] at hw
  exact (Option.some.inj hw).symm

/-- The connection after `n` calls that took the bytes `l` one part after another. -/
def Wire.took (n : ℕ) (l : List UInt8) (w : Wire) : Wire :=
  { w with handed := w.handed ++ l, calls := w.calls + n }

/-- The connection after such calls and one that failed. -/
def Wire.broke (n : ℕ) (l : List UInt8) (w : Wire) : Wire :=
  { w with handed := w.handed ++ l, calls := w.calls + n + 1, failed := true }

/-- A test of the loop condition with nothing left to send. -/
theorem sendAll_done (fuel : ℕ) (buf : List UInt8) (w : Wire) :
    sendAll net (fuel + 1) buf 0 w = some w := if_neg (lt_irrefl _)

/-- A failed send ends the loop. -/
theorem sendAll_fails {buf : List UInt8} {len : ℕ} {w : Wire} (hlen : 0 < len)
    (hbuf : len ≤ buf.length) (hfail : (net w.calls).Fails) (fuel : ℕ) :
    sendAll net (fuel + 1) buf len w = some (w.broke 0 []) := by
  have hn : (net w.calls).result len ≤ 0 := (result_nonpos_iff (by omega) _).mpr hfail
  rw [sendAll, if_pos (by omega), if_pos hn, Wire.send, Wire.broke]
  have hover : ¬ ((buf.length : ℤ) < len) := by omega
  simp [Int.toNat_of_nonpos hn, hn, hover]

/-- After a send that did not fail, the loop goes on behind the bytes that were taken. -/
theorem sendAll_takes {buf : List UInt8} {len : ℕ} {w : Wire} (hlen : 0 < len)
    (hbuf : len ≤ buf.length) (hok : ¬ (net w.calls).Fails) (fuel : ℕ) :
    sendAll net (fuel + 1) buf len w =
      sendAll net fuel (buf.drop (min (net w.calls).room len))
        ((len - (net w.calls).room : ℕ) : ℤ)
        (w.took 1 (buf.take (min (net w.calls).room len))) := by
  have hn := result_eq_min hok len
  have hpos : ¬ (net w.calls).result len ≤ 0 := by rwa [result_nonpos_iff (by omega)]
  have htake : ((net w.calls).result len).toNat = min (net w.calls).room len := by omega
  have hrest : (len : ℤ) - (net w.calls).result len = ((len - (net w.calls).room : ℕ) : ℤ) := by
    omega
  have hover : ¬ ((buf.length : ℤ) < len) := by omega
  have hsend : w.send buf len ((net w.calls).result len) =
      w.took 1 (buf.take (min (net w.calls).room len)) := by
    simp [Wire.send, Wire.took, htake, hpos, hover]
  rw [sendAll, if_pos (by omega)]
  simp only [if_neg hpos, hsend, htake, hrest]

/-- **`send_all` returns.**  Either the calls take the `len` bytes, one part after another, or
one of them fails before that; the connection then has the parts that were taken. -/
theorem sendAll_cases (net : ℕ → SendReply) {buf : List UInt8} {len : ℕ}
    (hbuf : len ≤ buf.length) (w : Wire) :
    (∃ n, DoneAt (laterCalls net w.calls) len n ∧
      ∀ fuel, len < fuel → sendAll net fuel buf len w = some (w.took n (buf.take len))) ∨
    (∃ k, CutAt (laterCalls net w.calls) len k ∧
      ∀ fuel, len < fuel → sendAll net fuel buf len w =
        some (w.broke k (buf.take (roomOf (laterCalls net w.calls) k)))) := by
  induction len using Nat.strong_induction_on generalizing buf w with
  | _ len ih =>
    rcases Nat.eq_zero_or_pos len with rfl | hpos
    · refine Or.inl ⟨0, doneAt_zero, fun fuel hfuel => ?_⟩
      obtain ⟨fuel, rfl⟩ := Nat.exists_eq_succ_of_ne_zero hfuel.ne'
      exact (sendAll_done fuel buf w).trans (by simp [Wire.took])
    by_cases hfail : (net w.calls).Fails
    · refine Or.inr ⟨0, cutAt_zero hpos hfail, fun fuel hfuel => ?_⟩
      obtain ⟨fuel, rfl⟩ := Nat.exists_eq_succ_of_ne_zero (by omega : fuel ≠ 0)
      exact sendAll_fails hpos hbuf hfail fuel
    · have hroom := room_pos hfail
      set room := (net w.calls).room
      have hstep := fun fuel => sendAll_takes hpos hbuf hfail fuel
      have hbehind : len - room ≤ (buf.drop (min room len)).length := by
        rw [List.length_drop]
        omega
      have hrest := ih (len - room) (by omega) hbehind (w.took 1 (buf.take (min room len)))
      have hshift : laterCalls net (w.took 1 (buf.take (min room len))).calls =
          fun j => laterCalls net w.calls (j + 1) := (laterCalls_shift net w.calls).symm
      rw [hshift] at hrest
      rcases hrest with ⟨n, hdone, hret⟩ | ⟨k, hcut, hret⟩
      · refine Or.inl ⟨n + 1, DoneAt.cons hfail hdone, fun fuel hfuel => ?_⟩
        obtain ⟨fuel, rfl⟩ := Nat.exists_eq_succ_of_ne_zero (by omega : fuel ≠ 0)
        have hlen : min room len + (len - room) = len := by omega
        rw [hstep, hret fuel (by omega), Wire.took, Wire.took, Wire.took]
        simp only [List.append_assoc, ← List.take_add, hlen, Nat.add_assoc, Nat.add_comm 1 n]
      · refine Or.inr ⟨k + 1, CutAt.cons hfail hcut, fun fuel hfuel => ?_⟩
        obtain ⟨fuel, rfl⟩ := Nat.exists_eq_succ_of_ne_zero (by omega : fuel ≠ 0)
        have hshort := hcut.short
        have htotal : min room len + roomOf (fun j => laterCalls net w.calls (j + 1)) k =
            roomOf (laterCalls net w.calls) (k + 1) := by
          rw [roomOf_succ']
          show min room len + _ = _ + room
          omega
        rw [hstep, hret fuel (by omega), Wire.broke, Wire.broke, Wire.took]
        simp only [List.append_assoc, ← List.take_add, htotal, Nat.add_assoc, Nat.add_comm 1 k]

/-- **A body after whatever came before it.**  `send_all` appends a part of it from the start
on, an empty one exactly when its first call fails. -/
theorem sendAll_body (net : ℕ → SendReply) {body array : List UInt8} (hbody : body ≠ [])
    (harray : body <+: array) (w : Wire) :
    ∃ s w', (∀ fuel, body.length < fuel → sendAll net fuel array body.length w = some w') ∧
      w'.handed = w.handed ++ body.take s ∧ w'.overread = w.overread ∧
      (s = 0 ↔ (net w.calls).Fails) ∧
      (w'.failed = false → w.failed = false ∧ body.length ≤ s) := by
  obtain ⟨rest, rfl⟩ := harray
  have hpos : 0 < body.length := List.length_pos_of_ne_nil hbody
  have hlen : body.length ≤ (body ++ rest).length := by simp
  rcases sendAll_cases net hlen w with ⟨n, hdone, hret⟩ | ⟨k, hcut, hret⟩
  · refine ⟨body.length, _, hret, ?_, rfl, ?_, fun hfailed => ⟨hfailed, le_rfl⟩⟩
    · rw [Wire.took, List.take_left, List.take_length]
    · refine ⟨fun h => absurd h hpos.ne', fun hfail => ?_⟩
      exact absurd (cutAt_zero hpos hfail) (hdone.not_cutAt 0)
  · refine ⟨roomOf (laterCalls net w.calls) k, _, hret, ?_, rfl, ?_, fun hfailed => ?_⟩
    · rw [Wire.broke, List.take_append_of_le_length hcut.short.le]
    · exact hcut.roomOf_eq_zero_iff
    · exact absurd hfailed (by simp [Wire.broke])

/-! ## Header and body -/

/-- The connection was handed the start of an answer, and all of it if no send failed. -/
structure Intact (header body : List UInt8) (w : Wire) : Prop where
  inOrder : w.handed <+: header ++ body
  whole : w.failed = false → w.handed = header ++ body

/-- If a send fails before the `len` bytes of the header are handed over, so does the next. -/
def HeaderCutIsFinal (net : ℕ → SendReply) (len : ℕ) : Prop :=
  ∀ k, CutAt net len k → (net (k + 1)).Fails

/-- Where the header goes on, the body's first byte does not. -/
theorem not_take_append_take_isPrefix {header body : List UInt8} {r s : ℕ}
    (hr : r < header.length) (hs : s ≠ 0) (hbody : body ≠ [])
    (hfirst : ∀ b ∈ body.head?, b ∉ header) :
    ¬ header.take r ++ body.take s <+: header ++ body := by
  intro h
  obtain ⟨b, tail, rfl⟩ := List.exists_cons_of_ne_nil hbody
  obtain ⟨s, rfl⟩ := Nat.exists_eq_succ_of_ne_zero hs
  have hsplit : header ++ b :: tail = header.take r ++ (header.drop r ++ b :: tail) := by
    rw [← List.append_assoc, List.take_append_drop]
  rw [hsplit, List.prefix_append_right_inj, List.drop_eq_getElem_cons hr, List.take_succ_cons,
    List.cons_append, List.cons_prefix_cons] at h
  exact hfirst b rfl (h.1 ▸ List.getElem_mem hr)

/-- **Header, then body.**  The two calls of `send_all` return, and what they hand over is the
start of header and body exactly when a cut in the header is final. -/
theorem sendAll_sendAll (net : ℕ → SendReply) {header body hdr array : List UInt8}
    (hhdr : header <+: hdr) (harray : body <+: array) (hbody : body ≠ [])
    (hfirst : ∀ b ∈ body.head?, b ∉ header) :
    ∃ w, Returns (fun fuel => (sendAll net fuel hdr header.length .start).bind
        (sendAll net fuel array body.length)) w ∧
      w.overread = false ∧ (Intact header body w ↔ HeaderCutIsFinal net header.length) := by
  obtain ⟨rest, rfl⟩ := hhdr
  have hcalls : laterCalls net Wire.start.calls = net := laterCalls_zero net
  have hlen : header.length ≤ (header ++ rest).length := by simp
  have hheader := sendAll_cases net hlen .start
  rw [hcalls] at hheader
  rcases hheader with ⟨n, hdone, hret⟩ | ⟨k, hcut, hret⟩
  · -- the header went through: whatever happens to the body, its part comes next
    obtain ⟨s, w, hbodyret, hhanded, hover, -, hwhole⟩ := sendAll_body net hbody harray
      (Wire.start.took n ((header ++ rest).take header.length))
    rw [List.take_left] at hbodyret hhanded hret
    refine ⟨w, ⟨header.length + body.length, fun fuel hfuel => ?_⟩, hover, ?_⟩
    · exact (congrArg (Option.bind · _) (hret fuel (by omega))).trans (hbodyret fuel (by omega))
    · refine iff_of_true ⟨?_, fun hfailed => ?_⟩ fun k hcut => absurd hcut (hdone.not_cutAt k)
      · rw [hhanded]
        exact (List.prefix_append_right_inj header).mpr (List.take_prefix _ _)
      · rw [hhanded, List.take_of_length_le (hwhole hfailed).2]
        rfl
  · -- the header was cut: the next call is the first for the body
    obtain ⟨s, w, hbodyret, hhanded, hover, hnone, hwhole⟩ := sendAll_body net hbody harray
      (Wire.start.broke k ((header ++ rest).take (roomOf net k)))
    have hnext : (Wire.start.broke k ((header ++ rest).take (roomOf net k))).calls = k + 1 :=
      congrArg (· + 1) (Nat.zero_add k)
    have hfailed : w.failed = true := by
      by_contra h
      exact absurd (hwhole (Bool.eq_false_of_not_eq_true h)).1 (by simp [Wire.broke])
    have hparts : w.handed = header.take (roomOf net k) ++ body.take s := by
      rw [hhanded, Wire.broke, List.take_append_of_le_length hcut.short.le]
      rfl
    refine ⟨w, ⟨header.length + body.length, fun fuel hfuel => ?_⟩, hover, ?_⟩
    · exact (congrArg (Option.bind · _) (hret fuel (by omega))).trans (hbodyret fuel (by omega))
    · rw [hnext] at hnone
      constructor
      · intro hintact k' hcut'
        rw [hcut'.unique hcut, ← hnone]
        by_contra hs
        have hprefix := hintact.inOrder
        rw [hparts] at hprefix
        exact not_take_append_take_isPrefix hcut.short hs hbody hfirst hprefix
      · intro hfinal
        refine ⟨?_, fun h => absurd (hfailed.symm.trans h) (by decide)⟩
        rw [hparts, hnone.mpr (hfinal k hcut), List.take_zero, List.append_nil]
        exact (List.take_prefix _ _).trans (List.prefix_append _ _)

/-! ## The two answers -/

/-- `handle_rc` returns, reads no byte beyond its arrays, and sends header and body intact
exactly when a cut in the header is final. -/
theorem handleRcReply_intact_iff (net : ℕ → SendReply) (t : Telemetry) (respBuf : CharArray 96)
    (hdr : CharArray 128) :
    ∃ w, Returns (fun fuel => handleRcReply net fuel t respBuf hdr) w ∧ w.overread = false ∧
      (Intact (rcHeader (telemetryText t).length) (telemetryText t) w ↔
        HeaderCutIsFinal net (rcHeader (telemetryText t).length).length) := by
  have hbody := printed_rcBody t respBuf
  have hheader := printed_rcHead t respBuf hdr
  have hfirst : ∀ b ∈ (telemetryText t).head?, b ∉ rcHeader (telemetryText t).length := by
    rw [head?_telemetryText]
    rintro b ⟨⟩ hb
    exact absurd (isHeaderByte_of_mem_rcHeader _ _ hb) (by decide)
  have hne : telemetryText t ≠ [] := by
    intro h
    have hhead := head?_telemetryText t
    simp [h] at hhead
  simpa only [handleRcReply, hbody.ret, hheader.ret] using
    sendAll_sendAll net hheader.isPrefix hbody.isPrefix hne hfirst

/-- `handle_page` returns, reads no byte beyond its arrays, and sends header and page intact
exactly when a cut in the header is final. -/
theorem handlePage_intact_iff (net : ℕ → SendReply) (hdr : CharArray 128) :
    ∃ w, Returns (fun fuel => handlePage net fuel hdr) w ∧ w.overread = false ∧
      (Intact (pageHeader html.length) html w ↔
        HeaderCutIsFinal net (pageHeader html.length).length) := by
  have hheader := printed_pageHeader fitsInt_length_html hdr
  have hfirst : ∀ b ∈ html.head?, b ∉ pageHeader html.length := by
    rw [head?_html]
    rintro b ⟨⟩ hb
    exact absurd (isHeaderByte_of_mem_pageHeader _ _ hb) (by decide)
  have hne : html ≠ [] := by
    intro h
    have hhead := head?_html
    simp [h] at hhead
  simpa only [handlePage, sizeofHtml_sub_one, hheader.ret] using
    sendAll_sendAll net hheader.isPrefix html_isPrefix hne hfirst

/-- Both handlers return on this network, and what they hand over is intact: the start of
header and body, and the whole of it if no send failed. -/
def AnswersIntact (net : ℕ → SendReply) : Prop :=
  (∀ (t : Telemetry) (respBuf : CharArray 96) (hdr : CharArray 128),
    ∃ w, Returns (fun fuel => handleRcReply net fuel t respBuf hdr) w ∧
      Intact (rcHeader (telemetryText t).length) (telemetryText t) w) ∧
  ∀ hdr : CharArray 128,
    ∃ w, Returns (fun fuel => handlePage net fuel hdr) w ∧ Intact (pageHeader html.length) html w

/-- **When the stream of an answer is not corrupted.**  On every network both handlers return;
what either hands over is intact exactly when the network answers a send that fails before the
header is through with a failure of the next one, the first for the body. -/
theorem reply_intact_iff (net : ℕ → SendReply) :
    (∀ (t : Telemetry) (respBuf : CharArray 96) (hdr : CharArray 128),
      ∃ w, Returns (fun fuel => handleRcReply net fuel t respBuf hdr) w ∧
        (Intact (rcHeader (telemetryText t).length) (telemetryText t) w ↔
          HeaderCutIsFinal net (rcHeader (telemetryText t).length).length)) ∧
    ∀ hdr : CharArray 128,
      ∃ w, Returns (fun fuel => handlePage net fuel hdr) w ∧
        (Intact (pageHeader html.length) html w ↔
          HeaderCutIsFinal net (pageHeader html.length).length) := by
  constructor
  · intro t respBuf hdr
    obtain ⟨w, hret, -, hiff⟩ := handleRcReply_intact_iff net t respBuf hdr
    exact ⟨w, hret, hiff⟩
  · intro hdr
    obtain ⟨w, hret, -, hiff⟩ := handlePage_intact_iff net hdr
    exact ⟨w, hret, hiff⟩

/-- A network that takes the status line, has no room once, and then takes all it is offered. -/
def interruptedNet : ℕ → SendReply
  | 0 => .takes 16
  | 1 => .fails 1
  | _ => .takes 2000

/-- The telemetry of a level drone in IDLE. -/
def levelTelemetry : Telemetry := ⟨0, 0, 0, DroneState.idle.code⟩

/-- **A corrupted answer.**  The client gets the status line and then the telemetry. -/
theorem not_answersIntact : ¬ AnswersIntact interruptedNet := by
  intro h
  obtain ⟨w, hret, hintact⟩ := h.1 levelTelemetry (.zero 96) (.zero 128)
  obtain ⟨w', hret', -, hiff⟩ :=
    handleRcReply_intact_iff interruptedNet levelTelemetry (.zero 96) (.zero 128)
  rw [hret.unique hret'] at hintact
  have hcut : CutAt interruptedNet (rcHeader (telemetryText levelTelemetry).length).length 1 := by
    refine ⟨fun j hj => ?_, by decide +kernel, trivial⟩
    rw [Nat.lt_one_iff.mp hj]
    exact fun h => h
  exact hiff.mp hintact 1 hcut

example :
    (handleRcReply interruptedNet 200 levelTelemetry (.zero 96) (.zero 128)).map Wire.handed =
      some (ascii "HTTP/1.1 200 OK\r\n" ++ telemetryText levelTelemetry) := by
  decide +kernel

end DroneFirmware

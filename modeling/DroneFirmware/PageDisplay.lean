import DroneFirmware.AttitudeBounds
import DroneFirmware.AttitudeMemory
import DroneFirmware.HttpServer
import DroneFirmware.Net.HttpMessage

/-!
# From the sensor to the page

`handle_rc` converts the two angles and the yaw rate to tenths, formats them, and sends them
with a header; `poll` of the page waits for a whole message, decodes it and shows it with one
decimal, or shows `offline`.  On the way the numbers lose a digit, the text may be cut by any
failed send, and the main loop goes on updating the globals while `handle_rc` reads them.
As in the filters, the numbers are exact rationals.

* `answers_read_whole`: a reader of either answer gets the whole body, or knows that it has not.
* `castInt`: a conversion to `int`; `exists_castInt`: what it loses.
* `Display.poll`: what the page shows.
* `page_shows_attitude`: it shows the attitude to a tenth of a degree, or that it is offline.
-/

namespace DroneFirmware

open CText Net Reactive

/-! ## The two headers as lines -/

theorem isLine_ascii {l : List Char} (hne : l ≠ [])
    (h : l.all (fun c => isLineByte (UInt8.ofNat c.toNat)) = true) :
    IsLine (ascii (String.ofList l)) := by
  refine ⟨?_, forall_mem_ascii h⟩
  rw [ascii_ofList, ne_eq, List.map_eq_nil_iff]
  exact hne

theorem isLineByte_of_mem_intText {v : ℤ} : ∀ b ∈ intText v, isLineByte b = true := by
  intro b hb
  rcases mem_intText hb with rfl | hd
  · rfl
  · have hne : ∀ c : UInt8, isDigit c = false → b ≠ c := by
      rintro c hc rfl
      exact Bool.false_ne_true (hc.symm.trans hd)
    simp [isLineByte, hne 0x0D rfl, hne 0x0A rfl]

/-- The lines of a header. -/
def headerLines (contentType : String) (len : ℤ) (more : List (List UInt8)) :
    List (List UInt8) :=
  [ascii "HTTP/1.1 200 OK", ascii contentType, ascii "Content-Length: " ++ intText len,
    ascii "Connection: close"] ++ more

theorem isLine_of_mem_headerLines {contentType : String} {more : List (List UInt8)}
    (htype : IsLine (ascii contentType)) (hmore : ∀ l ∈ more, IsLine l) (len : ℤ) :
    ∀ l ∈ headerLines contentType len more, IsLine l := by
  have hlen : IsLine (ascii "Content-Length: " ++ intText len) := by
    refine ⟨fun h => absurd (List.append_eq_nil_iff.mp h).1 (by decide), fun b hb => ?_⟩
    rcases List.mem_append.mp hb with hb | hb
    · exact (isLine_ascii (by decide) (by decide) : IsLine (ascii "Content-Length: ")).bytes b hb
    · exact isLineByte_of_mem_intText b hb
  rw [headerLines, List.forall_mem_append]
  refine ⟨?_, hmore⟩
  simp only [List.forall_mem_cons]
  exact ⟨isLine_ascii (by decide) (by decide), htype, hlen, isLine_ascii (by decide) (by decide),
    List.forall_mem_nil _⟩

/-- The lines of the header of the telemetry. -/
def rcLines (len : ℤ) : List (List UInt8) := headerLines "Content-Type: application/json" len []

/-- The lines of the header of the page. -/
def pageLines (len : ℤ) : List (List UInt8) :=
  headerLines "Content-Type: text/html" len [ascii "Cache-Control: no-cache"]

theorem rcHeader_eq (len : ℤ) : rcHeader len = headText (rcLines len) := by
  have h1 : ascii "HTTP/1.1 200 OK\r\n" = ascii "HTTP/1.1 200 OK" ++ crlf := rfl
  have h2 : ascii "Content-Type: application/json\r\n" =
      ascii "Content-Type: application/json" ++ crlf := rfl
  have h3 : ascii "Connection: close\r\n" = ascii "Connection: close" ++ crlf := rfl
  have h4 : ascii "\r\n" = crlf := rfl
  have h5 : ascii "" = [] := rfl
  simp only [rcHeader, httpHeader, rcLines, headerLines, headText, h1, h2, h3, h4, h5,
    List.append_assoc, List.cons_append, List.nil_append, List.flatMap_cons, List.flatMap_nil]

theorem pageHeader_eq (len : ℤ) : pageHeader len = headText (pageLines len) := by
  have h1 : ascii "HTTP/1.1 200 OK\r\n" = ascii "HTTP/1.1 200 OK" ++ crlf := rfl
  have h2 : ascii "Content-Type: text/html\r\n" = ascii "Content-Type: text/html" ++ crlf := rfl
  have h3 : ascii "Connection: close\r\n" = ascii "Connection: close" ++ crlf := rfl
  have h4 : ascii "\r\n" = crlf := rfl
  have h5 : ascii "Cache-Control: no-cache\r\n" = ascii "Cache-Control: no-cache" ++ crlf := rfl
  simp only [pageHeader, httpHeader, pageLines, headerLines, headText, h1, h2, h3, h4, h5,
    List.append_assoc, List.cons_append, List.nil_append, List.flatMap_cons, List.flatMap_nil]

/-- The page looks for the length as `handle_client` does. -/
theorem contentLength_eq (head : List UInt8) :
    contentLength head = (findContentLength head).map fun cl => atoi (cl.drop 15) := rfl

theorem contentLength_rcHeader {len : ℤ} (hlen : FitsInt len) :
    contentLength (rcHeader len) = some len := by
  rw [contentLength_eq]
  exact findContentLength_rcHeader hlen

/-- **The header of the page announces its length.** -/
theorem contentLength_pageHeader {len : ℤ} (hlen : FitsInt len) :
    contentLength (pageHeader len) = some len := by
  rw [contentLength_eq]
  exact findContentLength_httpHeader hlen (by decide +kernel)

/-! ## The two bodies -/

/-- The body of the telemetry is one line. -/
theorem isLineByte_of_mem_telemetryText (t : Telemetry) :
    ∀ b ∈ telemetryText t, isLineByte b = true := by
  have hname : ∀ b ∈ ascii (droneFsmStateName t.state), isLineByte b = true := by
    intro b hb
    have hplain := stateName_plain t.state b hb
    have hne : ∀ c : UInt8, isPlain c = false → b ≠ c := by
      rintro c hc rfl
      exact Bool.false_ne_true (hc.symm.trans hplain)
    simp [isLineByte, hne 0x0D rfl, hne 0x0A rfl]
  have h1 : ∀ b ∈ ascii "\x7b\"rol\":", isLineByte b = true := forall_mem_ascii rfl
  have h2 : ∀ b ∈ ascii ",\"pit\":", isLineByte b = true := forall_mem_ascii rfl
  have h3 : ∀ b ∈ ascii ",\"gz\":", isLineByte b = true := forall_mem_ascii rfl
  have h4 : ∀ b ∈ ascii ",\"st\":\"", isLineByte b = true := forall_mem_ascii rfl
  have h5 : ∀ b ∈ ascii "\"\x7d", isLineByte b = true := forall_mem_ascii rfl
  simp only [telemetryText, List.forall_mem_append]
  exact ⟨⟨⟨⟨⟨⟨⟨⟨h1, isLineByte_of_mem_intText⟩, h2⟩, isLineByte_of_mem_intText⟩, h3⟩,
    isLineByte_of_mem_intText⟩, h4⟩, hname⟩, h5⟩

/-- So is the page. -/
theorem isLineByte_of_mem_html : ∀ b ∈ html, isLineByte b = true := by
  have hlines : ∀ line ∈ htmlLines, ∀ b ∈ ascii line, isLineByte b = true := by
    repeat refine List.forall_mem_cons.mpr ⟨forall_mem_ascii (by decide), ?_⟩
    exact List.forall_mem_nil _
  intro b hb
  rw [html, List.mem_flatten] at hb
  obtain ⟨l, hl, hbl⟩ := hb
  obtain ⟨line, hline, rfl⟩ := List.mem_map.mp hl
  exact hlines line hline b hbl

/-! ## The reader of the answers -/

/-- A reader of the parts of an answer gets the body, or nothing if a send failed. -/
theorem SentParts.read {lines : List (List UInt8)} (hne : lines ≠ [])
    (hlines : ∀ l ∈ lines, IsLine l) {body : List UInt8}
    (hlen : contentLength (headText lines) = some (body.length : ℤ))
    (hbody : ∀ b ∈ body, isLineByte b = true) {w : Wire} {r s : ℕ}
    (h : SentParts (headText lines) body w r s) :
    readMessage w.handed = if w.failed then none else some body := by
  have hr := h.le_header
  have hfailed := h.failed
  rw [h.handed, readMessage_take hne hlines hlen hbody h.le_body]
  cases hw : w.failed with
  | false =>
    obtain ⟨rfl, rfl⟩ := hfailed.mp hw
    exact if_pos ⟨le_rfl, rfl⟩
  | true =>
    refine if_neg fun hall => ?_
    rw [hw] at hfailed
    exact absurd (hfailed.mpr ⟨le_antisymm hr hall.1, hall.2⟩) (by decide)

/-- The reader of the telemetry. -/
theorem exists_rcReply_read (net : ℕ → SendReply) (t : Telemetry) :
    ∃ w, (∀ respBuf hdr, handleRcReply net serverFuel t respBuf hdr = some w) ∧
      readMessage w.handed = if w.failed then none else some (telemetryText t) := by
  obtain ⟨w, r, s, hret, hparts⟩ := exists_rcReply net t
  rw [rcHeader_eq] at hparts
  refine ⟨w, hret, hparts.read (by simp [rcLines, headerLines]) ?_ ?_
    (isLineByte_of_mem_telemetryText t)⟩
  · exact isLine_of_mem_headerLines (isLine_ascii (by decide) (by decide)) (List.forall_mem_nil _) _
  · rw [← rcHeader_eq]
    exact contentLength_rcHeader (fitsInt_length_telemetryText t)

/-- The reader of the page. -/
theorem exists_pageReply_read (net : ℕ → SendReply) :
    ∃ w, (∀ hdr, handlePage net serverFuel hdr = some w) ∧
      readMessage w.handed = if w.failed then none else some html := by
  obtain ⟨w, r, s, hret, hparts⟩ := exists_pageReply net
  rw [pageHeader_eq] at hparts
  refine ⟨w, hret, hparts.read (by simp [pageLines, headerLines]) ?_ ?_ isLineByte_of_mem_html⟩
  · refine isLine_of_mem_headerLines (isLine_ascii (by decide) (by decide)) ?_ _
    exact List.forall_mem_singleton.mpr (isLine_ascii (by decide) (by decide))
  · rw [← pageHeader_eq]
    exact contentLength_pageHeader fitsInt_length_html

/-- **An answer is read whole or not at all.**  Whatever every send takes, and whichever fails,
and whatever the arrays held: who reads what an endpoint handed over gets its body if no send
failed, and otherwise knows that something is missing. -/
theorem answers_read_whole (net : ℕ → SendReply) :
    (∀ t, ∃ w, (∀ respBuf hdr, handleRcReply net serverFuel t respBuf hdr = some w) ∧
      readMessage w.handed = if w.failed then none else some (telemetryText t)) ∧
    ∃ w, (∀ hdr, handlePage net serverFuel hdr = some w) ∧
      readMessage w.handed = if w.failed then none else some html :=
  ⟨exists_rcReply_read net, exists_pageReply_read net⟩

/-! ## The conversions -/

/-- A number without its fraction. -/
def truncate (q : ℚ) : ℤ := if 0 ≤ q then ⌊q⌋ else ⌈q⌉

/-- The conversion of a floating-point value to `int`, in exact rational arithmetic.  It is
undefined if the value does not fit. -/
def castInt (q : ℚ) : Option Int32 :=
  if FitsInt (truncate q) then some (Int32.ofInt (truncate q)) else none

theorem abs_truncate_sub_lt (q : ℚ) : |(truncate q : ℚ) - q| < 1 := by
  have hfloor := Int.floor_le q
  have hfloor' := Int.lt_floor_add_one q
  have hceil := Int.le_ceil q
  have hceil' := Int.ceil_lt_add_one q
  rw [truncate, abs_sub_lt_iff]
  split_ifs
  · constructor <;> linarith
  · constructor <;> linarith

/-- **A conversion that is defined** loses less than one. -/
theorem exists_castInt {q : ℚ} (h : |q| ≤ 2 ^ 30) :
    ∃ v, castInt q = some v ∧ |(v.toInt : ℚ) - q| < 1 := by
  have hclose := abs_truncate_sub_lt q
  have hsmall : |(truncate q : ℚ)| < 2 ^ 31 := by
    have hle := abs_sub_abs_le_abs_sub (truncate q : ℚ) q
    linarith
  rw [abs_lt] at hsmall
  have hlo : -2 ^ 31 < truncate q := by exact_mod_cast hsmall.1
  have hhi : truncate q < 2 ^ 31 := by exact_mod_cast hsmall.2
  refine ⟨_, if_pos ⟨hlo.le, by rw [intMax]; omega⟩, ?_⟩
  rw [Int32.toInt_ofInt_of_le hlo.le hhi]
  exact hclose

/-- The telemetry that `handle_rc` reads: the two angles and the rate in tenths, and the state.
The products are exact: those of `float` may be rounded up to the next tenth. -/
def telemetryOf (rollDeg pitchDeg gyroZDps : ℚ) (state : ℤ) : Option Telemetry :=
  (castInt (rollDeg * 10)).bind fun rol => (castInt (pitchDeg * 10)).bind fun pit =>
    (castInt (gyroZDps * 10)).map fun gz => ⟨rol, pit, gz, state⟩

/-! ## The page -/

/-- The elements of the page that `poll` writes. -/
structure Display where
  state : List UInt8
  vr : ℚ
  vp : ℚ
  vg : ℚ
  cn : List UInt8
  deriving DecidableEq

/-- The page shows the members of an answer; a number of tenths has one decimal, which is what
`toFixed(1)` leaves.  `none` stands for members of other kinds, which `handle_rc` never sends. -/
def Display.shows (d : Display) (ms : JsonMembers) : Option Display :=
  match ms.field (ascii "st"), ms.field (ascii "rol"), ms.field (ascii "pit"),
    ms.field (ascii "gz") with
  | some (.str st), some (.int rol), some (.int pit), some (.int gz) =>
      some { d with state := st, vr := rol / 10, vp := pit / 10, vg := gz / 10,
                    cn := ascii "connecte" }
  | _, _, _, _ => none

/-- `poll`, from the answer on: if `fetch` or `res.json` throws, only `cn` is written. -/
def Display.poll (d : Display) (got : List UInt8) : Option Display :=
  match (readMessage got).bind decodeObject with
  | none => some { d with cn := ascii "offline" }
  | some ms => d.shows ms

/-- The page shows the three values to a tenth, and the state. -/
structure ShowsWithin (rollDeg pitchDeg gyroZDps : ℚ) (state : ℤ) (d : Display) : Prop where
  state_eq : d.state = ascii (droneFsmStateName state)
  roll : |d.vr - rollDeg| < 1 / 10
  pitch : |d.vp - pitchDeg| < 1 / 10
  rate : |d.vg - gyroZDps| < 1 / 10
  cn : d.cn = ascii "connecte"

/-- A conversion to tenths is within a tenth. -/
theorem abs_tenths_sub_lt {v : Int32} {q : ℚ} (h : |(v.toInt : ℚ) - q * 10| < 1) :
    |(v.toInt : ℚ) / 10 - q| < 1 / 10 := by
  rw [abs_lt] at h ⊢
  constructor <;> linarith [h.1, h.2]

/-- The page with some telemetry. -/
def Display.showing (d : Display) (t : Telemetry) : Display :=
  { d with state := ascii (droneFsmStateName t.state), vr := t.rol.toInt / 10,
           vp := t.pit.toInt / 10, vg := t.gz.toInt / 10, cn := ascii "connecte" }

/-- **A poll shows the whole answer, or that the page is offline.** -/
theorem Display.poll_eq {w : Wire} {t : Telemetry}
    (hread : readMessage w.handed = if w.failed then none else some (telemetryText t))
    (d : Display) : d.poll w.handed =
      some (if w.failed then { d with cn := ascii "offline" } else d.showing t) := by
  rw [Display.poll, hread]
  cases w.failed with
  | true => rfl
  | false =>
    rw [if_neg Bool.false_ne_true, if_neg Bool.false_ne_true, Option.bind_some,
      decodeObject_telemetryText]
    rfl

/-- What the page shows of three small values, through any network. -/
theorem exists_shown {rollDeg pitchDeg gyroZDps : ℚ} (hroll : |rollDeg| ≤ 1000)
    (hpitch : |pitchDeg| ≤ 1000) (hrate : |gyroZDps| ≤ 1000) (state : ℤ) (net : ℕ → SendReply)
    (d : Display) :
    ∃ t w, telemetryOf rollDeg pitchDeg gyroZDps state = some t ∧
      (∀ respBuf hdr, handleRcReply net serverFuel t respBuf hdr = some w) ∧
      d.poll w.handed = some (if w.failed then { d with cn := ascii "offline" }
        else d.showing t) ∧
      ShowsWithin rollDeg pitchDeg gyroZDps state (d.showing t) := by
  have hten : ∀ q : ℚ, |q| ≤ 1000 → |q * 10| ≤ 2 ^ 30 := by
    intro q hq
    rw [abs_mul, abs_of_pos (by norm_num : (0 : ℚ) < 10)]
    linarith
  obtain ⟨rol, hrol, hrol'⟩ := exists_castInt (hten _ hroll)
  obtain ⟨pit, hpit, hpit'⟩ := exists_castInt (hten _ hpitch)
  obtain ⟨gz, hgz, hgz'⟩ := exists_castInt (hten _ hrate)
  obtain ⟨w, hret, hread⟩ := exists_rcReply_read net ⟨rol, pit, gz, state⟩
  refine ⟨⟨rol, pit, gz, state⟩, w, ?_, hret, d.poll_eq hread, rfl, abs_tenths_sub_lt hrol',
    abs_tenths_sub_lt hpit', abs_tenths_sub_lt hgz', rfl⟩
  rw [telemetryOf, hrol, hpit, hgz]
  rfl

/-- The globals after the init and some updates. -/
def mpuAfter (tilt : Tilt) (ready : Device → Bool) (res : MpuInitReads) (reads : List ImuRead) :
    Mpu :=
  (Mpu.started ready res).updates tilt reads

/-- **The page shows the attitude**, in exact rational arithmetic.  Whatever the sensor delivered and whichever reads failed,
and however many updates happen between the three readings of `handle_rc`: the conversions are
defined, and the poll shows each value to a tenth of a degree with the state --- or, exactly if a
send failed, it leaves all of them as they were and shows that it is offline. -/
theorem page_shows_attitude (tilt : Tilt) (ready : Device → Bool) (res : MpuInitReads)
    (reads later latest : List ImuRead) (state : ℤ) (net : ℕ → SendReply) (d : Display) :
    ∃ t w,
      telemetryOf (mpuAfter tilt ready res reads).rollDeg
        (mpuAfter tilt ready res (reads ++ later)).pitchDeg
        ((mpuAfter tilt ready res (reads ++ later ++ latest)).gyroDps .z) state = some t ∧
      (∀ respBuf hdr, handleRcReply net serverFuel t respBuf hdr = some w) ∧
      d.poll w.handed = some (if w.failed then { d with cn := ascii "offline" }
        else d.showing t) ∧
      ShowsWithin (mpuAfter tilt ready res reads).rollDeg
        (mpuAfter tilt ready res (reads ++ later)).pitchDeg
        ((mpuAfter tilt ready res (reads ++ later ++ latest)).gyroDps .z) state (d.showing t) := by
  have hbounded : ∀ l, (mpuAfter tilt ready res l).Bounded := fun l =>
    run_invariant Mpu.Bounded (fun _ r h => h.update tilt r) (Mpu.bounded_driverInit ready res) l
  have hmax : (180 : ℚ) + 49 * maxRateDps / 250 ≤ 1000 := by norm_num [maxRateDps]
  have hroll := (hbounded reads).roll
  have hpitch := (hbounded (reads ++ later)).pitch
  have hrate := (hbounded (reads ++ later ++ latest)).dps .z
  exact exists_shown (by linarith) (by linarith) (hrate.trans (by norm_num [maxRateDps])) state
    net d

end DroneFirmware

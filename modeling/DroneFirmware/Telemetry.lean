import DroneFirmware.CText.JsonDecode
import DroneFirmware.Response

/-!
# The telemetry, from `handle_rc` to the poll of the page

`handle_rc` trusts two lengths that `snprintf` returns: it puts the first into the header and
hands both to `send_all`.  `poll` of the control page reads the body with the length of the
header, decodes it as JSON and shows its four members.

* `telemetryMembers`: what `poll` looks for; `telemetryText_eq`: the body is its JSON text.
* `findContentLength_rcHeader`: the number in the header.
* `telemetry_round_trip`: nothing is cut off, the lengths are right, and the members come back.
-/

namespace DroneFirmware

open CText Net

/-! ## The body as JSON -/

/-- The members of the body. -/
def telemetryMembers (t : Telemetry) : JsonMembers :=
  [(ascii "rol", .int t.rol.toInt), (ascii "pit", .int t.pit.toInt),
    (ascii "gz", .int t.gz.toInt), (ascii "st", .str (ascii (droneFsmStateName t.state)))]

/-- **The body is the JSON text of the telemetry.** -/
theorem telemetryText_eq (t : Telemetry) : telemetryText t = objectText (telemetryMembers t) := by
  have h1 : ascii "\x7b\"rol\":" = 0x7B :: 0x22 :: (ascii "rol" ++ [0x22, 0x3A]) := rfl
  have h2 : ascii ",\"pit\":" = 0x2C :: 0x22 :: (ascii "pit" ++ [0x22, 0x3A]) := rfl
  have h3 : ascii ",\"gz\":" = 0x2C :: 0x22 :: (ascii "gz" ++ [0x22, 0x3A]) := rfl
  have h4 : ascii ",\"st\":\"" = 0x2C :: 0x22 :: (ascii "st" ++ [0x22, 0x3A, 0x22]) := rfl
  have h5 : ascii "\"\x7d" = [0x22, 0x7D] := rfl
  simp only [telemetryText, telemetryMembers, objectText, membersText, memberText,
    JsonScalar.text, h1, h2, h3, h4, h5, List.append_assoc, List.cons_append, List.nil_append]

theorem stateName_plain (state : ℤ) :
    ∀ b ∈ ascii (droneFsmStateName state), isPlain b = true := by
  have hnames : ∀ name ∈ stateNames, ∀ b ∈ ascii name, isPlain b = true := by
    repeat refine List.forall_mem_cons.mpr ⟨forall_mem_ascii rfl, ?_⟩
    exact List.forall_mem_nil _
  exact hnames _ (droneFsmStateName_mem state)

theorem telemetryMembers_plain (t : Telemetry) : ∀ m ∈ telemetryMembers t, PlainMember m := by
  have hint : ∀ (name : List UInt8) (v : ℤ), (∀ b ∈ name, isPlain b = true) →
      PlainMember (name, .int v) := fun name v hname => ⟨hname, fun bytes h => by cases h⟩
  simp only [telemetryMembers, List.forall_mem_cons]
  refine ⟨hint _ _ (forall_mem_ascii rfl), hint _ _ (forall_mem_ascii rfl),
    hint _ _ (forall_mem_ascii rfl), ⟨forall_mem_ascii rfl, ?_⟩, List.forall_mem_nil _⟩
  rintro bytes ⟨⟩
  exact stateName_plain t.state

/-- **Decoding the body gives the members back.** -/
theorem decodeObject_telemetryText (t : Telemetry) :
    decodeObject (telemetryText t) = some (telemetryMembers t) := by
  rw [telemetryText_eq]
  exact decodeObject_objectText (telemetryMembers_plain t)

/-! ## The number in the header -/

/-- **A header announces `len` bytes**, unless its second line does before. -/
theorem findContentLength_httpHeader {contentType more : String} {len : ℤ} (hlen : FitsInt len)
    (hfirst : strstr (ascii "Content-Length:")
      ((ascii "HTTP/1.1 200 OK\r\n" ++ ascii contentType) ++ ascii "Content-Length:") =
        some (ascii "Content-Length:")) :
    (findContentLength (httpHeader contentType len more)).map (fun cl => atoi (cl.drop 15)) =
      some len := by
  have hspace : ascii "Content-Length: " = ascii "Content-Length:" ++ [0x20] := rfl
  have hcrlf : ∀ rest, NumberEnds (ascii "\r\n" ++ rest) := by
    have hcr : ascii "\r\n" = [0x0D, 0x0A] := rfl
    rw [hcr]
    rintro rest b ⟨⟩
    rfl
  have hfound := strstr_append_append hfirst (0x20 :: (intText len ++ (ascii "\r\n" ++
    (ascii "Connection: close\r\n" ++ (ascii more ++ ascii "\r\n")))))
  have hdrop : (ascii "Content-Length:").length = 15 := rfl
  rw [findContentLength, httpHeader, hspace]
  simp only [List.append_assoc, List.cons_append, List.nil_append] at hfound ⊢
  rw [hfound, Option.some_or, Option.map_some, ← hdrop, List.drop_left]
  exact congrArg some (atoi_intText_append hlen (hcrlf _))

/-- The header of the telemetry does. -/
theorem findContentLength_rcHeader {len : ℤ} (hlen : FitsInt len) :
    (findContentLength (rcHeader len)).map (fun cl => atoi (cl.drop 15)) = some len :=
  findContentLength_httpHeader hlen (by decide +kernel)

/-! ## The round trip -/

/-- The telemetry survives `handle_rc` and the reading of `poll`. -/
structure TelemetryRoundTrip (t : Telemetry) (respBuf : CharArray 96) (hdr : CharArray 128) :
    Prop where
  /-- The body fits with its NUL, and `rlen` is its length. -/
  body : Printed (telemetryText t) (rcBody t respBuf)
  /-- The header fits with its NUL, and `hlen` is its length. -/
  header : Printed (rcHeader (telemetryText t).length) (rcHead t respBuf hdr)
  /-- `send_all` stays within both arrays. -/
  sent : ∀ net, ∃ w, Returns (fun fuel => handleRcReply net fuel t respBuf hdr) w ∧
    w.overread = false
  contentLength : (findContentLength (text (rcHead t respBuf hdr).2.bytes)).map
    (fun cl => atoi (cl.drop 15)) = some ((text (rcBody t respBuf).2.bytes).length : ℤ)
  decoded : ∃ members, decodeObject (text (rcBody t respBuf).2.bytes) = some members ∧
    members.field (ascii "rol") = some (.int t.rol.toInt) ∧
    members.field (ascii "pit") = some (.int t.pit.toInt) ∧
    members.field (ascii "gz") = some (.int t.gz.toInt) ∧
    members.field (ascii "st") = some (.str (ascii (droneFsmStateName t.state)))

/-- **The telemetry round trip**, for all values of the three numbers and of the state, and
whatever the two arrays held before. -/
theorem telemetry_round_trip (t : Telemetry) (respBuf : CharArray 96) (hdr : CharArray 128) :
    TelemetryRoundTrip t respBuf hdr := by
  have hfits := fitsInt_length_telemetryText t
  have hbody := printed_rcBody t respBuf
  have hheader := printed_rcHead t respBuf hdr
  refine ⟨hbody, hheader, fun net => ?_, ?_, telemetryMembers t, ?_, rfl, rfl, rfl, rfl⟩
  · obtain ⟨w, hret, hover, -⟩ := handleRcReply_intact_iff net t respBuf hdr
    exact ⟨w, hret, hover⟩
  · rw [hheader.text, hbody.text]
    exact findContentLength_rcHeader hfits
  · rw [hbody.text]
    exact decodeObject_telemetryText t

end DroneFirmware

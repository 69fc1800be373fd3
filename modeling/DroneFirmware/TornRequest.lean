import DroneFirmware.Connection

/-!
# Torn requests

A command is torn when the connection delivers less of its body than the head announces.
The header loop gives such a connection up; the body loop does not: however it ends, what
was received is parsed as the command.

The announced length is stated here in the terms of HTTP, not of the code: the lines of the
head are cut at CRLF, a field name is compared in any letter case, and its value is a
decimal number between optional blanks.  The code searches the head for two spellings of the
name as substrings.

* `contentLength`: what a head announces.
* `NeverTorn`: the shared package changes only under a `POST /rc` received in full.
* `torn_request_iff`: a stream is handled so exactly when the code asks for, has room for and
  is delivered the whole announced body.
-/

namespace DroneFirmware

open CText

/-! ## What a head announces -/

/-- The lines of `s`, cut at each CRLF; `line` is the part of the first one already read. -/
def crlfLinesFrom (line : List UInt8) : List UInt8 → List (List UInt8)
  | 0x0D :: 0x0A :: s => line :: crlfLinesFrom [] s
  | b :: s => crlfLinesFrom (line ++ [b]) s
  | [] => [line]

/-- An ASCII letter in lower case. -/
def toLower (b : UInt8) : UInt8 := if 0x41 ≤ b ∧ b ≤ 0x5A then b + 0x20 else b

/-- The optional white space around a field value. -/
def isBlank (b : UInt8) : Bool := b == 0x20 || b == 0x09

/-- The value of the field line `name: value`, if `name` is its name in any letter case. -/
def fieldValue (name line : List UInt8) : Option (List UInt8) :=
  let field := line.takeWhile (· != 0x3A)
  if field.length < line.length ∧ field.map toLower = name.map toLower then
    some ((((line.drop (field.length + 1)).dropWhile isBlank).reverse.dropWhile isBlank).reverse)
  else
    none

/-- The number a field value spells. -/
def decimalValue (value : List UInt8) : Option ℕ :=
  if value ≠ [] ∧ value.all isDigit then some (decimal value) else none

/-- The length of the body that the head announces: the value of its first well-formed
`Content-Length` field. -/
def contentLength (head : List UInt8) : Option ℕ :=
  (crlfLinesFrom [] head).tail.findSome? fun line =>
    (fieldValue (ascii "content-length") line).bind decimalValue

/-- Letter case, blanks and other fields do not matter; another field's name does. -/
example :
    contentLength (ascii "POST /rc HTTP/1.1\r\nHost: x\r\nCONTENT-length:  14 \r\n\r\n") =
      some 14 ∧
    contentLength (ascii "POST /rc HTTP/1.1\r\nX-Content-Length: 3\r\n\r\n") = none := by
  decide +kernel

/-! ## Torn requests -/

/-- The head announces `n` body bytes.  A head without the field announces what `absent` says:
nothing at all, or --- as HTTP has it --- an empty body. -/
def Announces (absent : Option ℕ) (head : List UInt8) (n : ℕ) : Prop :=
  (contentLength head).or absent = some n

/-- The connection changes the shared package only if the request is a `POST /rc` and all the
body bytes it announces were received. -/
def NeverTorn (absent : Option ℕ) (stream : List UInt8) : Prop :=
  ∀ (now : ℤ) (buf : ReqBuf) (web : Web), (handleClient now stream buf web).web ≠ web →
    ∃ k, HeadEnd stream k ∧ PostRc (stream.take k) ∧
      ∃ n, Announces absent (stream.take k) n ∧ n ≤ (handleClient now stream buf web).got

/-- If the stream starts with the head of a `POST /rc` that fits the buffer, the code asks for
the whole announced body, the buffer has room for it, and the peer delivers it. -/
def WholeBody (absent : Option ℕ) (stream : List UInt8) : Prop :=
  ∀ k, HeadEnd stream k → k ≤ reqBufSize - 1 → PostRc (stream.take k) →
    ∃ n, Announces absent (stream.take k) n ∧ n ≤ bodyLength (stream.take k) ∧
      k + n ≤ reqBufSize - 1 ∧ k + n ≤ stream.length

/-- **Torn requests.**  On every stream: the shared package changes only under a `POST /rc`
received in full if and only if its body is whole --- asked for, with room, and delivered. -/
theorem torn_request_iff (absent : Option ℕ) (stream : List UInt8) :
    NeverTorn absent stream ↔ WholeBody absent stream := by
  constructor
  · intro h k hend hk hpost
    -- globals stored at another time, so that the connection does change them
    obtain ⟨web, hweb⟩ : ∃ web : Web, web = ⟨.zero, 1⟩ := ⟨_, rfl⟩
    obtain ⟨buf, -⟩ : ∃ buf : ReqBuf, buf.bytes = List.replicate reqBufSize 0 :=
      ⟨⟨_, List.length_replicate⟩, rfl⟩
    obtain ⟨⟨body, hrc⟩, hgot⟩ := handleClient_of_postRc hend hk hpost 0 buf web
    have hchanged : (handleClient 0 stream buf web).web ≠ web := by
      rw [hrc, hweb]
      intro heq
      have hms := congrArg Web.rcLastMs heq
      exact absurd hms (by show ¬ (0 : ℤ) = 1; decide)
    obtain ⟨k', hend', -, n, hn, hle⟩ := h 0 buf web hchanged
    rw [hend'.unique hend] at hn
    rw [hgot] at hle
    exact ⟨n, hn, by omega, by omega, by have := hend.1.1; omega⟩
  · intro h now buf web hchanged
    by_contra hnone
    refine hchanged (handleClient_of_not_postRc (fun k hend hk hpost => hnone ?_) now buf web)
    obtain ⟨n, hn, hask, hroom, hthere⟩ := h k hend hk hpost
    refine ⟨k, hend, hpost, n, hn, ?_⟩
    rw [(handleClient_of_postRc hend hk hpost now buf web).2]
    omega

/-- The law that a torn request never becomes a flight command. -/
def NoTornCommand (absent : Option ℕ) : Prop := ∀ stream, NeverTorn absent stream

/-- A head that announces fourteen bytes. -/
def tornHead : List UInt8 := ascii "POST /rc HTTP/1.1\r\nContent-Length: 14\r\n\r\n"

/-- The connection is lost two bytes before the end of the body: of a throttle of 55, with the
flag set, a throttle of 5 has arrived. -/
def tornStream : List UInt8 := tornHead ++ ascii "\x7b\"a\":1,\"t\":5"

/-- **A torn request becomes a flight command**, whatever a head without the field announces:
`tornStream` stores an active package with the throttle at 5 %. -/
theorem not_noTornCommand : ¬ NoTornCommand none ∧ ¬ NoTornCommand (some 0) := by
  have hall : ∀ absent, ¬ NoTornCommand absent := by
    intro absent h
    obtain ⟨k, hend, -, n, hn, hle⟩ :=
      h tornStream 7 ⟨List.replicate reqBufSize 0, List.length_replicate⟩ .reset
        (by decide +kernel)
    have hk : k = 41 := by
      refine hend.unique ?_
      exact ⟨by unfold BlankLineAt; decide +kernel, by unfold BlankLineAt; decide +kernel⟩
    have hlen : contentLength (tornStream.take 41) = some 14 := by decide +kernel
    have hgot : (handleClient 7 tornStream ⟨List.replicate reqBufSize 0, List.length_replicate⟩
        .reset).got = 12 := by decide +kernel
    rw [Announces, hk, hlen] at hn
    rw [hgot] at hle
    cases hn
    omega
  exact ⟨hall none, hall (some 0)⟩

/-- What it stores: centred sticks, the throttle at 5 % of 1023, the flag. -/
example : (handleClient 7 tornStream ⟨List.replicate reqBufSize 0, List.length_replicate⟩
    .reset).web = ⟨⟨512, 512, 512, 51, true⟩, 7⟩ := by decide +kernel

end DroneFirmware

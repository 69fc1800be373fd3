import DroneFirmware.CText.Strings
import DroneFirmware.MotorController

/-!
# The web server: `drone_webserver.c`

The HTTP thread accepts one connection at a time and serves it with `handle_client`; a
`POST /rc` reaches `handle_rc`, which stores a package and the time in two globals under a
mutex.  The state machine reads them with `drone_webserver_get_rc` under the same mutex.

A connection is the list of the bytes the peer delivers before it closes or the receive
fails: `zsock_recv` of one byte gives the next of them, and a result `≤ 0` when there is
none.  `req_buf` is static and never cleared, so its earlier contents are an argument.

What is sent back is not part of this file.
-/

namespace DroneFirmware

open CText

/-! ## The shared package -/

/-- `RC_STALE_MS`. -/
def rcStaleMs : ℤ := 2000

/-- The globals `wifi_rc` and `rc_last_ms`. -/
structure Web where
  wifiRc : DataPackage
  rcLastMs : ℤ
  deriving DecidableEq

/-- The globals before the first request: all zero. -/
def Web.reset : Web := ⟨.zero, 0⟩

/-- `drone_webserver_get_rc`, with its reading of `k_uptime_get`. -/
def droneWebserverGetRc (now : ℤ) (w : Web) : DataPackage :=
  if now - w.rcLastMs > rcStaleMs then { w.wifiRc with droneActive := false } else w.wifiRc

/-- The web package is in command exactly when it carries the flag and is not stale. -/
theorem droneWebserverGetRc_active_iff (now : ℤ) (w : Web) :
    (droneWebserverGetRc now w).droneActive = true ↔
      w.wifiRc.droneActive = true ∧ now - w.rcLastMs ≤ rcStaleMs := by
  rw [droneWebserverGetRc]
  split_ifs with h
  · simp only [false_iff, not_and]
    omega
  · simp only [iff_self_and]
    omega

/-! ## `handle_rc` -/

/-- `jget_int`: the number after the first `"key":`, 0 when there is none.  The pattern is cut
to the fifteen bytes that fit `k`. -/
def jgetInt (json key : List UInt8) : ℤ :=
  let k := (ascii "\"" ++ key ++ ascii "\":").take 15
  match strstr k json with
  | none => 0
  | some p => atoi ((p.drop k.length).dropWhile (· == 0x20))

/-- `clamp16`. -/
def clamp16 (v lo hi : ℤ) : Int16 :=
  if v < lo then Int16.ofInt lo
  else if v > hi then Int16.ofInt hi
  else Int16.ofInt v

/-- An attitude slider on the scale of the sticks: `RC_CENTER + v * RC_CENTER / 100`. -/
def sliderStick (v : ℤ) : Int16 :=
  clamp16 (wrap32 (rcCenter + (wrap32 (v * rcCenter)).tdiv 100)) 0 rcMax

/-- The throttle slider: `t * RC_MAX / 100`. -/
def sliderThrottle (t : ℤ) : Int16 :=
  clamp16 ((wrap32 (t * rcMax)).tdiv 100) 0 rcMax

/-- The package `handle_rc` builds from a body. -/
def packageOfBody (body : List UInt8) : DataPackage where
  yLeft := sliderThrottle (jgetInt body (ascii "t"))
  xLeft := sliderStick (jgetInt body (ascii "y"))
  yRight := sliderStick (jgetInt body (ascii "p"))
  xRight := sliderStick (jgetInt body (ascii "r"))
  droneActive := jgetInt body (ascii "a") != 0

/-- `handle_rc` on the shared globals: the whole package and the time are replaced. -/
def handleRc (now : ℤ) (body : List UInt8) : Web := ⟨packageOfBody body, now⟩

/-! ## `handle_client` -/

/-- `REQ_BUF_SIZE`. -/
def reqBufSize : ℕ := 512

/-- `req_buf`. -/
structure ReqBuf where
  bytes : List UInt8
  length_eq : bytes.length = reqBufSize

/-- `req_buf` at power-up. -/
def ReqBuf.zero : ReqBuf := ⟨List.replicate reqBufSize 0, List.length_replicate⟩

/-- A store of one byte. -/
def ReqBuf.put (b : ReqBuf) (i : ℕ) (x : UInt8) : ReqBuf :=
  ⟨b.bytes.set i x, by rw [List.length_set, b.length_eq]⟩

/-- The string at `req_buf + off`. -/
def ReqBuf.text (b : ReqBuf) (off : ℕ) : List UInt8 := CText.text (b.bytes.drop off)

/-- `"\r\n\r\n"`. -/
def crlfCrlf : List UInt8 := [0x0D, 0x0A, 0x0D, 0x0A]

/-- How the header loop ends: the receive failed, the buffer filled up, or the blank line was
found, with `total` bytes stored and `rest` still to come. -/
inductive HeaderExit where
  | closed (buf : ReqBuf)
  | full (buf : ReqBuf)
  | found (buf : ReqBuf) (total : ℕ) (rest : List UInt8)

/-- The header loop of `handle_client`. -/
def readHeaders : List UInt8 → ReqBuf → ℕ → HeaderExit
  | [], buf, total => if total < reqBufSize - 1 then .closed buf else .full buf
  | b :: stream, buf, total =>
      if total < reqBufSize - 1 then
        let buf := buf.put total b
        let total := total + 1
        if 4 ≤ total ∧ (buf.bytes.drop (total - 4)).take 4 = crlfCrlf then
          .found buf total stream
        else
          readHeaders stream buf total
      else
        .full buf

/-- The state of the body loop when it ends. -/
structure BodyExit where
  buf : ReqBuf
  total : ℕ
  got : ℕ
  rest : List UInt8

/-- The body loop of `handle_client`. -/
def readBody (blen : ℤ) : List UInt8 → ReqBuf → ℕ → ℕ → BodyExit
  | [], buf, total, got => ⟨buf, total, got, []⟩
  | b :: stream, buf, total, got =>
      if (got : ℤ) < blen ∧ total < reqBufSize - 1 then
        readBody blen stream (buf.put total b) (total + 1) (got + 1)
      else
        ⟨buf, total, got, b :: stream⟩

/-- `sscanf(req_buf, "%7s %31s", method, path)`. -/
def requestLine (head : List UInt8) : Option (List UInt8 × List UInt8) := scanTwoWords 7 31 head

/-- The pointer `cl`: the first `Content-Length:`, else the first `content-length:`. -/
def findContentLength (head : List UInt8) : Option (List UInt8) :=
  (strstr (ascii "Content-Length:") head).or (strstr (ascii "content-length:") head)

/-- What a connection was answered with. -/
inductive Decision where
  /-- The socket is closed without an answer. -/
  | reject
  | page
  | rc
  deriving DecidableEq

/-- The outcome of one connection: the buffer and the shared globals after it, the answer, the
number of body bytes received and the bytes left in the socket. -/
structure ClientRun where
  buf : ReqBuf
  web : Web
  decision : Decision
  got : ℕ
  rest : List UInt8

/-- The end of `handle_client`, from `readHeaders` on: parse the request line, read the body of
a POST, dispatch. -/
def handleRequest (now : ℤ) (web : Web) (buf : ReqBuf) (hdrEnd : ℕ) (rest : List UInt8) :
    ClientRun :=
  let buf := buf.put hdrEnd 0
  match requestLine (buf.text 0) with
  | none => ⟨buf, web, .reject, 0, rest⟩
  | some (method, path) =>
      let body : BodyExit :=
        if method = ascii "POST" then
          match findContentLength (buf.text 0) with
          | some cl =>
              let r := readBody (atoi (cl.drop 15)) rest buf hdrEnd 0
              { r with buf := r.buf.put r.total 0 }
          | none => ⟨buf, hdrEnd, 0, rest⟩
        else
          ⟨buf, hdrEnd, 0, rest⟩
      if method = ascii "POST" ∧ path = ascii "/rc" then
        ⟨body.buf, handleRc now (body.buf.text hdrEnd), .rc, body.got, body.rest⟩
      else
        ⟨body.buf, web, .page, body.got, body.rest⟩

/-- `handle_client`, on the bytes the peer delivers; `now` is the reading that `handle_rc`
takes if it is reached. -/
def handleClient (now : ℤ) (stream : List UInt8) (buf : ReqBuf) (web : Web) : ClientRun :=
  match readHeaders stream buf 0 with
  | .closed buf => ⟨buf, web, .reject, 0, []⟩
  | .full buf => ⟨buf, web, .reject, 0, stream.drop (reqBufSize - 1)⟩
  | .found buf hdrEnd rest => handleRequest now web buf hdrEnd rest

/-! ## Requests as the state machine sees them -/

/-- A `POST /rc` that was served: the peer that `zsock_accept` reported, the uptime at which
`handle_rc` stored the package, and the body it parsed. -/
structure Post where
  cli : ℕ
  now : ℤ
  body : List UInt8

/-- The package of a request carries the flag. -/
def Post.active (p : Post) : Bool := (packageOfBody p.body).droneActive

/-- The shared globals after some requests, served one after another. -/
def servePosts (posts : List Post) (w : Web) : Web :=
  posts.foldl (fun _ p => handleRc p.now p.body) w

@[simp] theorem servePosts_nil (w : Web) : servePosts [] w = w := rfl

@[simp] theorem servePosts_concat (posts : List Post) (p : Post) (w : Web) :
    servePosts (posts ++ [p]) w = handleRc p.now p.body := by
  rw [servePosts, List.foldl_append]
  rfl

end DroneFirmware

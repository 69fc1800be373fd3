import DroneFirmware.Framing
import DroneFirmware.Net.Sockets
import DroneFirmware.Telemetry

/-!
# The HTTP thread

`http_server_thread` opens a listening socket and serves one connection after another, for as
long as the drone is on.  The two buffers that it works in are static: every request and every
answer is written over the last one.  The descriptors of the system are few: every connection
has to give its own back, on whichever path `handle_client` leaves it.

* `HttpServer.serve`: one connection, from `zsock_accept` to `zsock_close`, with its answer.
* `httpServerThread`: the set-up with its two error paths, and the accept loop.
* `serve_spec`: what a connection gets is what a server just started would give it.
* `http_thread_serves`: no connection sees another one, but for the package it stored.
* `http_thread_descriptors`: no call on a closed descriptor, and none leaks.
-/

namespace DroneFirmware

open CText Net Reactive

/-! ## One connection -/

/-- A connection that `zsock_accept` reports: its descriptor, the bytes it delivers, what
`handle_rc` reads if it is reached, what its socket does with the sends, and what the local array
`hdr` holds. -/
structure Peer where
  fd : ℕ
  stream : List UInt8
  now : ℤ
  telemetry : Telemetry
  net : ℕ → SendReply
  hdr : CharArray 128

/-- A connection while it is being served: `resp_buf`, the calls on its socket, and the bytes
that were handed over. -/
structure Serving where
  respBuf : CharArray 96
  calls : List SockCall
  handed : List UInt8

/-- The sends of an answer. -/
def Serving.sent (fd : ℕ) (w : Wire) (x : Serving) : Serving :=
  { x with calls := x.calls ++ List.replicate w.calls (.used fd), handed := x.handed ++ w.handed }

/-- A step of `handle_client`, with what it does to the socket. -/
def Serving.event (fuel : ℕ) (p : Peer) (x : Serving) : ConnEvent → Option Serving
  | .recv _ => some { x with calls := x.calls ++ [.used p.fd] }
  | .handleRc _ =>
      (handleRcReply p.net fuel p.telemetry x.respBuf p.hdr).map fun w =>
        { x.sent p.fd w with respBuf := (rcBody p.telemetry x.respBuf).2 }
  | .handlePage => (handlePage p.net fuel p.hdr).map (x.sent p.fd)
  | .close => some { x with calls := x.calls ++ [.closed p.fd] }

/-- The statics of the thread, its calls on descriptors, and the answers it gave. -/
structure HttpServer where
  buf : ReqBuf
  respBuf : CharArray 96
  web : Web
  calls : List SockCall
  answers : List (List UInt8)

/-- The thread before it runs. -/
def HttpServer.reset : HttpServer := ⟨.zero, .zero 96, .reset, [], []⟩

def HttpServer.call (calls : List SockCall) (s : HttpServer) : HttpServer :=
  { s with calls := s.calls ++ calls }

/-- `handle_client(c)`. -/
def HttpServer.serve (fuel : ℕ) (p : Peer) (s : HttpServer) : Option HttpServer :=
  (handleClientSteps fuel p.now p.stream s.buf s.web).bind fun r =>
    (r.conn.events.foldlM (Serving.event fuel p) ⟨s.respBuf, [.opened p.fd], []⟩).map fun x =>
      ⟨r.conn.buf, x.respBuf, r.conn.web, s.calls ++ x.calls, s.answers ++ [x.handed]⟩

/-! ## The thread -/

/-- The result of `zsock_accept`. -/
inductive AcceptResult where
  | fails (code : ℕ)
  | accepts (p : Peer)

/-- What the thread meets: whether `ap_ready` has been given, the results of `zsock_socket` and
`zsock_bind`, and those of `zsock_accept` so far. -/
structure ServerEnv where
  apReady : Bool
  socket : Option ℕ
  bind : DriverResult
  accepts : List AcceptResult

/-- One round of the accept loop. -/
def HttpServer.accept (fuel srv : ℕ) (s : HttpServer) : AcceptResult → Option HttpServer
  | .fails _ => some (s.call [.used srv])
  | .accepts p => (s.call [.used srv]).serve fuel p

/-- `http_server_thread`, as far as it has come: without `ap_ready` it waits for it, and behind
every result of `zsock_accept` so far it waits for the next.  Every other call has returned; those
of the set-up are `zsock_setsockopt`, `zsock_bind` and `zsock_listen`. -/
def httpServerThread (fuel : ℕ) (env : ServerEnv) (s : HttpServer) : Option HttpServer :=
  if !env.apReady then some s
  else
    match env.socket with
    | none => some s
    | some srv =>
        let s := s.call [.opened srv, .used srv, .used srv]
        if env.bind.code < 0 then some (s.call [.closed srv])
        else env.accepts.foldlM (HttpServer.accept fuel srv) (s.call [.used srv])

/-! ## The answers, in parts -/

/-- `send_all` does not depend on the bytes behind those that it is to send. -/
theorem sendAll_congr (net : ℕ → SendReply) (fuel : ℕ) {len : ℕ} {buf buf' : List UInt8}
    (hlen : len ≤ buf.length) (hlen' : len ≤ buf'.length) (h : buf.take len = buf'.take len)
    (w : Wire) : sendAll net fuel buf len w = sendAll net fuel buf' len w := by
  induction fuel generalizing len buf buf' w with
  | zero => rfl
  | succ fuel ih =>
    rcases Nat.eq_zero_or_pos len with rfl | hpos
    · exact (sendAll_done fuel buf w).trans (sendAll_done fuel buf' w).symm
    · by_cases hfail : (net w.calls).Fails
      · rw [sendAll_fails hpos hlen hfail, sendAll_fails hpos hlen' hfail]
      · obtain ⟨m, hm⟩ : ∃ m, m = min (net w.calls).room len := ⟨_, rfl⟩
        have hrest : len - (net w.calls).room = len - m := by omega
        have htake : buf.take m = buf'.take m := by
          have hcut := congrArg (List.take m) h
          rwa [List.take_take, List.take_take, min_eq_left (by omega)] at hcut
        have hdrop : (buf.drop m).take (len - m) = (buf'.drop m).take (len - m) := by
          have hcut := congrArg (List.drop m) h
          rwa [List.drop_take, List.drop_take] at hcut
        rw [sendAll_takes hpos hlen hfail, sendAll_takes hpos hlen' hfail, ← hm, hrest, htake]
        exact ih (by rw [List.length_drop]; omega) (by rw [List.length_drop]; omega) hdrop _

/-- **A call of `send_all`** hands over a part of what it is given, and a send fails exactly if
that is not all of it. -/
theorem sendAll_part (net : ℕ → SendReply) (l : List UInt8) (w : Wire) :
    ∃ s w', (∀ array, l <+: array → ∀ fuel, l.length < fuel →
        sendAll net fuel array l.length w = some w') ∧
      s ≤ l.length ∧ w'.handed = w.handed ++ l.take s ∧
      (w'.failed = false ↔ w.failed = false ∧ s = l.length) := by
  have harray : ∀ array, l <+: array → ∀ fuel,
      sendAll net fuel array l.length w = sendAll net fuel l l.length w := by
    rintro array ⟨rest, rfl⟩ fuel
    exact sendAll_congr net fuel (by simp) le_rfl (by simp) w
  rcases sendAll_cases net (le_refl l.length) w with ⟨n, -, hret⟩ | ⟨k, hcut, hret⟩
  · refine ⟨l.length, _, fun array h fuel hfuel => (harray array h fuel).trans (hret fuel hfuel),
      le_rfl, rfl, ?_⟩
    simp [Wire.took]
  · have hshort := hcut.short
    refine ⟨_, _, fun array h fuel hfuel => (harray array h fuel).trans (hret fuel hfuel),
      hshort.le, rfl, ?_⟩
    simp [Wire.broke, hshort.ne]

/-- What an answer comes to: some of the header, some of the body, and whether a send failed. -/
structure SentParts (header body : List UInt8) (w : Wire) (r s : ℕ) : Prop where
  le_header : r ≤ header.length
  le_body : s ≤ body.length
  handed : w.handed = header.take r ++ body.take s
  failed : w.failed = false ↔ r = header.length ∧ s = body.length

/-- **Header, then body**, each as far as it gets, whatever the two arrays hold besides. -/
theorem exists_sentParts (net : ℕ → SendReply) (header body : List UInt8) :
    ∃ w r s, (∀ hdr array, header <+: hdr → body <+: array →
        ∀ fuel, header.length + body.length < fuel →
          (sendAll net fuel hdr header.length .start).bind
            (sendAll net fuel array body.length) = some w) ∧
      SentParts header body w r s := by
  obtain ⟨r, w, hret, hr, hhanded, hfailed⟩ := sendAll_part net header .start
  obtain ⟨s, w', hret', hs, hhanded', hfailed'⟩ := sendAll_part net body w
  refine ⟨w', r, s, fun hdr array hhdr harray fuel hfuel => ?_, hr, hs, ?_, ?_⟩
  · exact (congrArg (Option.bind · _) (hret hdr hhdr fuel (by omega))).trans
      (hret' array harray fuel (by omega))
  · rw [hhanded', hhanded]
    rfl
  · rw [hfailed', hfailed]
    simp [Wire.start]

/-- The tests of a loop condition that a connection is given; `serve_spec` shows that they are
enough. -/
def serverFuel : ℕ := 10000

/-- **The answer of `handle_rc`** does not depend on what its two arrays held. -/
theorem exists_rcReply (net : ℕ → SendReply) (t : Telemetry) :
    ∃ w r s, (∀ respBuf hdr, handleRcReply net serverFuel t respBuf hdr = some w) ∧
      SentParts (rcHeader (telemetryText t).length) (telemetryText t) w r s := by
  have hfuel : serverFuel = 10000 := rfl
  have hfits := fitsInt_length_telemetryText t
  have hbodylen := length_telemetryText_le t
  have hheaderlen := length_rcHeader_lt hfits
  obtain ⟨w, r, s, hret, hparts⟩ := exists_sentParts net
    (rcHeader (telemetryText t).length) (telemetryText t)
  refine ⟨w, r, s, fun respBuf hdr => ?_, hparts⟩
  have hbody := printed_rcBody t respBuf
  have hheader := printed_rcHead t respBuf hdr
  simp only [handleRcReply, hbody.ret, hheader.ret]
  exact hret _ _ hheader.isPrefix hbody.isPrefix _ (by omega)

/-- **The answer of `handle_page`** does not depend on what `hdr` held. -/
theorem exists_pageReply (net : ℕ → SendReply) :
    ∃ w r s, (∀ hdr, handlePage net serverFuel hdr = some w) ∧
      SentParts (pageHeader html.length) html w r s := by
  have hfuel : serverFuel = 10000 := rfl
  have hbodylen := length_html_le
  have hheaderlen := length_pageHeader_lt fitsInt_length_html
  obtain ⟨w, r, s, hret, hparts⟩ := exists_sentParts net (pageHeader html.length) html
  refine ⟨w, r, s, fun hdr => ?_, hparts⟩
  have hheader := printed_pageHeader fitsInt_length_html hdr
  simp only [handlePage, sizeofHtml_sub_one, hheader.ret]
  exact hret _ _ hheader.isPrefix html_isPrefix _ (by omega)

/-! ## What a connection gets -/

/-- What `handle_client` does for a connection that a server just started accepts. -/
def Peer.decision (p : Peer) : Decision := (handleClient p.now p.stream .zero .reset).decision

/-- The sends that answer a connection, on arrays that held nothing. -/
def Peer.reply (p : Peer) : Decision → Option Wire
  | .reject => some .start
  | .page => handlePage p.net serverFuel (.zero 128)
  | .rc => handleRcReply p.net serverFuel p.telemetry (.zero 96) (.zero 128)

/-- The bytes that a server just started would hand to the connection. -/
def Peer.answer (p : Peer) : List UInt8 := (p.reply p.decision).elim [] Wire.handed

/-- The globals after the connection. -/
def Peer.stored (web : Web) (p : Peer) : Web := (handleClient p.now p.stream .zero web).web

/-- The package that is stored and the endpoint that is called depend on no buffer, the endpoint
on no earlier package. -/
theorem handleClient_fresh (now : ℤ) (stream : List UInt8) (buf : ReqBuf) (web : Web) :
    (handleClient now stream buf web).web = (handleClient now stream .zero web).web ∧
      (handleClient now stream buf web).decision =
        (handleClient now stream .zero .reset).decision := by
  by_cases hhead : ∃ k, HeadEnd stream k ∧ k ≤ reqBufSize - 1
  · obtain ⟨k, hend, hk⟩ := hhead
    have hrun := handleClient_outcome_of_headEnd hend hk now
    have hdecision : ∀ head rest,
        (outcomeOf now web head rest).decision = (outcomeOf now .reset head rest).decision := by
      intro head rest
      rw [outcomeOf, outcomeOf]
      split
      · rfl
      · simp only
        split_ifs <;> rfl
    refine ⟨congrArg Outcome.web ((hrun buf web).trans (hrun .zero web).symm), ?_⟩
    exact (congrArg Outcome.decision (hrun buf web)).trans ((hdecision _ _).trans
      (congrArg Outcome.decision (hrun .zero .reset)).symm)
  · have hno : ∀ k, HeadEnd stream k → ¬ k ≤ reqBufSize - 1 := fun k hend hk => hhead ⟨k, hend, hk⟩
    have hrun := handleClient_outcome_of_no_head hno now
    exact ⟨congrArg Outcome.web ((hrun buf web).trans (hrun .zero web).symm),
      (congrArg Outcome.decision (hrun buf web)).trans
        (congrArg Outcome.decision (hrun .zero .reset)).symm⟩

/-- The receives of a connection are calls on its socket. -/
theorem foldlM_recvs (fuel : ℕ) (p : Peer) {recvs : List ConnEvent}
    (h : ∀ e ∈ recvs, e.isRecv = true) (x : Serving) :
    recvs.foldlM (Serving.event fuel p) x =
      some { x with calls := x.calls ++ List.replicate recvs.length (.used p.fd) } := by
  induction recvs generalizing x with
  | nil => simp
  | cons e recvs ih =>
    have hrecv := h e (by simp)
    have hstep : Serving.event fuel p x e = some { x with calls := x.calls ++ [.used p.fd] } := by
      cases e with
      | recv => rfl
      | handleRc | handlePage | close => cases hrecv
    rw [List.foldlM_cons, hstep]
    refine (ih (fun e' he' => h e' (List.mem_cons_of_mem e he')) _).trans ?_
    simp [List.replicate_succ]

/-- The answer is the one that a server just started would give. -/
theorem foldlM_answerOf (p : Peer) (decision : Decision) (mem : List UInt8) (x : Serving) :
    ∃ respBuf n, (answerOf decision mem).foldlM (Serving.event serverFuel p) x =
      some ⟨respBuf, x.calls ++ List.replicate n (.used p.fd),
        x.handed ++ (p.reply decision).elim [] Wire.handed⟩ := by
  cases decision with
  | reject =>
    refine ⟨x.respBuf, 0, ?_⟩
    simp [answerOf, Peer.reply, Wire.start]
  | page =>
    obtain ⟨w, r, s, hret, -⟩ := exists_pageReply p.net
    refine ⟨x.respBuf, w.calls, ?_⟩
    simp [answerOf, Peer.reply, Serving.event, Serving.sent, hret]
  | rc =>
    obtain ⟨w, r, s, hret, -⟩ := exists_rcReply p.net p.telemetry
    refine ⟨(rcBody p.telemetry x.respBuf).2, w.calls, ?_⟩
    simp [answerOf, Peer.reply, Serving.event, Serving.sent, hret]

/-- From `s` to `s'` the thread served one connection: it stored what a server just started
would store, gave the same answer, and made a session of calls on the descriptor. -/
structure ServedOne (p : Peer) (s s' : HttpServer) : Prop where
  web : s'.web = p.stored s.web
  answers : s'.answers = s.answers ++ [p.answer]
  calls : ∃ uses, (∀ c ∈ uses, c = .used p.fd) ∧
    s'.calls = s.calls ++ (.opened p.fd :: uses ++ [.closed p.fd])

/-- **One connection**, whatever the buffers hold and whichever way `handle_client` takes. -/
theorem serve_spec (p : Peer) (s : HttpServer) :
    ∃ s', s.serve serverFuel p = some s' ∧ ServedOne p s s' := by
  have hfuel : reqBufSize ≤ serverFuel := by decide
  obtain ⟨v, hrun, h⟩ := handleClientSteps_eq hfuel p.now p.stream s.buf s.web
  obtain ⟨recvs, hevents, hrecvs, -⟩ := h.events
  obtain ⟨hweb, hdecision⟩ := handleClient_fresh p.now p.stream s.buf s.web
  rw [hdecision] at hevents
  obtain ⟨respBuf, n, hanswer⟩ := foldlM_answerOf p p.decision _
    ⟨s.respBuf, [.opened p.fd] ++ List.replicate recvs.length (.used p.fd), []⟩
  have hfold : v.conn.events.foldlM (Serving.event serverFuel p)
      ⟨s.respBuf, [.opened p.fd], []⟩ = some ⟨respBuf, .opened p.fd ::
        (List.replicate recvs.length (.used p.fd) ++ List.replicate n (.used p.fd)) ++
          [.closed p.fd], p.answer⟩ := by
    rw [hevents, List.foldlM_append, List.foldlM_append, foldlM_recvs _ _ hrecvs]
    refine (congrArg (· >>= _) hanswer).trans ?_
    simp [Serving.event, Peer.answer]
  rw [HttpServer.serve, hrun, Option.bind_some, hfold, Option.map_some]
  refine ⟨_, rfl, h.web.trans hweb, rfl, _, fun c hc => ?_, rfl⟩
  rcases List.mem_append.mp hc with hc | hc
  · exact List.eq_of_mem_replicate hc
  · exact List.eq_of_mem_replicate hc

/-! ## The thread -/

/-- The connections among some results of `zsock_accept`. -/
def peersOf (accepts : List AcceptResult) : List Peer :=
  accepts.filterMap fun
    | .fails _ => none
    | .accepts p => some p

/-- The listening socket, if the set-up comes to one. -/
def ServerEnv.listening (env : ServerEnv) : Option ℕ :=
  if env.apReady ∧ ¬ env.bind.code < 0 then env.socket else none

/-- The connections that the thread gets to serve. -/
def ServerEnv.peers (env : ServerEnv) : List Peer :=
  if env.listening.isSome then peersOf env.accepts else []

/-- From `s` to `s'` the thread served some connections, each as if it were the first, but for
the package that it finds. -/
structure ServedAll (peers : List Peer) (s s' : HttpServer) : Prop where
  web : s'.web = peers.foldl Peer.stored s.web
  answers : s'.answers = s.answers ++ peers.map Peer.answer

/-- A round of the accept loop leaves the listening socket open, and no other. -/
theorem accept_spec (srv : ℕ) (s : HttpServer) (r : AcceptResult) :
    ∃ s', s.accept serverFuel srv r = some s' ∧ ServedAll (peersOf [r]) s s' ∧
      ∃ stretch, s'.calls = s.calls ++ stretch ∧ KeepsOpen {srv} stretch := by
  have haccept : KeepsOpen {srv} [.used srv] :=
    keepsOpen_used (Multiset.mem_singleton_self srv) (by simp)
  cases r with
  | fails code => exact ⟨_, rfl, ⟨rfl, (List.append_nil _).symm⟩, _, rfl, haccept⟩
  | accepts p =>
    obtain ⟨s', hserve, hweb, hanswers, uses, huses, hcalls⟩ :=
      serve_spec p (s.call [.used srv])
    refine ⟨s', hserve, ⟨hweb, hanswers⟩, [.used srv] ++ (.opened p.fd :: uses ++ [.closed p.fd]),
      ?_, haccept.append (keepsOpen_session huses)⟩
    rw [hcalls, HttpServer.call, List.append_assoc]

/-- The accept loop, for as long as it has run. -/
theorem acceptLoop_spec (srv : ℕ) (accepts : List AcceptResult) (s : HttpServer) :
    ∃ s', accepts.foldlM (HttpServer.accept serverFuel srv) s = some s' ∧
      ServedAll (peersOf accepts) s s' ∧
      ∃ stretch, s'.calls = s.calls ++ stretch ∧ KeepsOpen {srv} stretch := by
  induction accepts generalizing s with
  | nil => exact ⟨s, rfl, ⟨rfl, (List.append_nil _).symm⟩, [], (List.append_nil _).symm,
      keepsOpen_nil⟩
  | cons r accepts ih =>
    obtain ⟨s₁, hround, ⟨hweb₁, hanswers₁⟩, stretch₁, hcalls₁, hkeeps₁⟩ := accept_spec srv s r
    obtain ⟨s', hloop, ⟨hweb, hanswers⟩, stretch, hcalls, hkeeps⟩ := ih s₁
    have hpeers : peersOf (r :: accepts) = peersOf [r] ++ peersOf accepts := by
      cases r <;> rfl
    refine ⟨s', ?_, ⟨?_, ?_⟩, stretch₁ ++ stretch, ?_, hkeeps₁.append hkeeps⟩
    · rw [List.foldlM_cons, hround]
      exact hloop
    · rw [hweb, hweb₁, hpeers, List.foldl_append]
    · rw [hanswers, hanswers₁, hpeers, List.map_append, List.append_assoc]
    · rw [hcalls, hcalls₁, List.append_assoc]

/-- The set-up ends without a listening socket, and with none left open, or it comes to the
accept loop. -/
theorem httpServerThread_cases (env : ServerEnv) (s : HttpServer) :
    (env.listening = none ∧ ∃ stretch, KeepsOpen 0 stretch ∧
      httpServerThread serverFuel env s = some (s.call stretch)) ∨
    ∃ srv, env.listening = some srv ∧ httpServerThread serverFuel env s =
      env.accepts.foldlM (HttpServer.accept serverFuel srv)
        (s.call [.opened srv, .used srv, .used srv, .used srv]) := by
  obtain ⟨apReady, socket, bind, accepts⟩ := env
  have hidle : s = s.call [] := by rw [HttpServer.call, List.append_nil]
  cases apReady with
  | false => exact Or.inl ⟨rfl, [], keepsOpen_nil, congrArg some hidle⟩
  | true =>
    cases socket with
    | none =>
      refine Or.inl ⟨?_, [], keepsOpen_nil, congrArg some hidle⟩
      simp [ServerEnv.listening]
    | some srv =>
      have hcall : ∀ l l', (s.call l).call l' = s.call (l ++ l') := fun l l' =>
        congrArg (fun calls => { s with calls }) (List.append_assoc _ _ _)
      by_cases hbind : bind.code < 0
      · refine Or.inl ⟨by simp [ServerEnv.listening, hbind],
          .opened srv :: [.used srv, .used srv] ++ [.closed srv],
          keepsOpen_session (by simp), ?_⟩
        simp [httpServerThread, hbind, hcall]
      · refine Or.inr ⟨srv, by simp [ServerEnv.listening, hbind], ?_⟩
        simp [httpServerThread, hbind, hcall]

/-- **The thread serves as if it had no memory.**  Whatever its buffers and the shared package
held, whichever way the set-up and every connection went: if the calls return, so do the loops of
every connection; each connection gets the answer that a server just started would give, and the
package that it stores depends on no byte of an earlier request or answer. -/
theorem http_thread_serves (env : ServerEnv) (s : HttpServer) :
    ∃ s', httpServerThread serverFuel env s = some s' ∧ ServedAll env.peers s s' := by
  rcases httpServerThread_cases env s with ⟨hnone, stretch, -, hrun⟩ | ⟨srv, hsome, hrun⟩
  · have hpeers : env.peers = [] := by simp [ServerEnv.peers, hnone]
    refine ⟨_, hrun, ?_, ?_⟩
    · rw [hpeers]
      rfl
    · rw [hpeers]
      exact (List.append_nil _).symm
  · obtain ⟨s', hloop, ⟨hweb, hanswers⟩, -⟩ := acceptLoop_spec srv env.accepts
      (s.call [.opened srv, .used srv, .used srv, .used srv])
    have hpeers : env.peers = peersOf env.accepts := by simp [ServerEnv.peers, hsome]
    rw [hpeers]
    exact ⟨s', hrun.trans hloop, hweb, hanswers⟩

/-- **No descriptor is misused or leaks.**  Whichever way the set-up and every connection went:
the thread makes no call on a descriptor that is not open, and what is open between two rounds is
the listening socket, or nothing if the set-up failed. -/
theorem http_thread_descriptors (env : ServerEnv) :
    ∃ s', httpServerThread serverFuel env .reset = some s' ∧ Disciplined s'.calls ∧
      openAfter s'.calls = env.listening.elim 0 (fun srv => {srv}) := by
  rcases httpServerThread_cases env .reset with ⟨hnone, stretch, hkeeps, hrun⟩ | ⟨srv, hsome, hrun⟩
  · refine ⟨_, hrun, ?_⟩
    rw [hnone]
    exact hkeeps.after (show Disciplined [] from trivial)
  · obtain ⟨s', hloop, -, stretch, hcalls, hkeeps⟩ := acceptLoop_spec srv env.accepts
      (HttpServer.reset.call [.opened srv, .used srv, .used srv, .used srv])
    have hsetup : Disciplined [.opened srv, .used srv, .used srv, .used srv] :=
      ⟨trivial, Multiset.mem_cons_self srv 0, Multiset.mem_cons_self srv 0,
        Multiset.mem_cons_self srv 0, trivial⟩
    refine ⟨s', hrun.trans hloop, ?_⟩
    rw [hcalls, hsome]
    exact hkeeps.after hsetup

end DroneFirmware

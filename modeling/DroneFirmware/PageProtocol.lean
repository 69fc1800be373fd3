import DroneFirmware.CutPoll
import DroneFirmware.HttpServer
import DroneFirmware.Onlooker

/-!
# The pages and the drone

Any number of control pages are open.  Each is loaded, its sliders and buttons are used, and it
polls; a poll is under way until the server accepts its connection or it is lost, in any order
and after any time, and the server may get no more than some of its first bytes.  Meanwhile the
main loop makes its passes.

* `Site`: the pages, the polls under way and the firmware; `Site.step`: one event.
* `site_refines`: whatever happens, the firmware is in a state of the main loop's model.
* `web_command_provenance`: a web package in command is what an armed page showed when it
  polled.
* `disarm_obeyed`: after DISARM, no new web package is in command.
-/

namespace DroneFirmware

open Reactive CText

/-! ## The site -/

/-- What the pilot does to a page. -/
inductive PageInput where
  | thr (v : Slider 0 100)
  | syaw (v : Slider (-100) 100)
  | spit (v : Slider (-100) 100)
  | srol (v : Slider (-100) 100)
  | arm
  | dis
  deriving DecidableEq

/-- The handlers of the page's script; `dis()` also returns the throttle slider to 0. -/
def Page.input (p : Page) : PageInput → Page
  | .thr v => { p with thr := v }
  | .syaw v => { p with syaw := v }
  | .spit v => { p with spit := v }
  | .srol v => { p with srol := v }
  | .arm => { p with active := true }
  | .dis => { p with active := false, thr := Page.loaded.thr }

/-- A poll that was sent: from which page, what the page showed then, and the head that the
browser put before the body. -/
structure Poll where
  cli : ℕ
  page : Page
  head : RequestHead

/-- The pages, the polls under way, and the drone. -/
structure Site where
  pages : ℕ → Page
  flight : List Poll
  buf : ReqBuf
  firmware : Firmware

/-- A connection that is not a `POST /rc`, such as the one that loads the page. -/
structure OtherRequest where
  bytes : List UInt8
  notPostRc : ∀ k, HeadEnd bytes k → k ≤ reqBufSize - 1 → ¬ PostRc (bytes.take k)

/-- What can happen. -/
inductive SiteEvent where
  | load (cli : ℕ)
  | input (cli : ℕ) (i : PageInput)
  | poll (cli : ℕ) (head : RequestHead)
  /-- The server serves one of the polls under way and gets its first `n` bytes. -/
  | serve (k n : ℕ) (now : ℤ)
  | lose (k : ℕ)
  | other (r : OtherRequest) (now : ℤ)
  | pass (t : Tick)

/-- `handle_client` on a connection. -/
def Site.connect (s : Site) (now : ℤ) (stream : List UInt8) : Site :=
  let r := handleClient now stream s.buf s.firmware.web
  { s with buf := r.buf, firmware := { s.firmware with web := r.web } }

/-- One event.  The requests of a pass are those served by the events before it. -/
def Site.step (s : Site) : SiteEvent → Site
  | .load cli => { s with pages := Function.update s.pages cli .loaded }
  | .input cli i => { s with pages := Function.update s.pages cli ((s.pages cli).input i) }
  | .poll cli head => { s with flight := s.flight ++ [⟨cli, s.pages cli, head⟩] }
  | .serve k n now =>
      match s.flight[k]? with
      | none => s
      | some r =>
          { s with flight := s.flight.eraseIdx k }.connect now ((r.page.request r.head).take n)
  | .lose k => { s with flight := s.flight.eraseIdx k }
  | .other r now => s.connect now r.bytes
  | .pass t => { s with firmware := iterate s.firmware { t with posts := [] } }

/-- The site after the init steps and some events; what `req_buf` holds at first is open. -/
def siteAfter (env : BootEnv) (buf : ReqBuf) (es : List SiteEvent) : Site :=
  run Site.step ⟨fun _ => .loaded, [], buf, boot env⟩ es

variable {env : BootEnv} {buf : ReqBuf}

@[simp] theorem siteAfter_concat (es : List SiteEvent) (e : SiteEvent) :
    siteAfter env buf (es ++ [e]) = (siteAfter env buf es).step e := by
  rw [siteAfter, run_append]
  rfl

/-! ## The main loop -/

/-- A connection stores a package, or leaves the globals alone. -/
theorem handleClient_web_cases (now : ℤ) (stream : List UInt8) (buf : ReqBuf) (web : Web) :
    (handleClient now stream buf web).web = web ∨
      ∃ body, (handleClient now stream buf web).web = handleRc now body := by
  by_cases hpost : ∃ k, HeadEnd stream k ∧ k ≤ reqBufSize - 1 ∧ PostRc (stream.take k)
  · obtain ⟨k, hend, hk, hpost⟩ := hpost
    exact Or.inr ⟨_, congrArg Outcome.web
      (handleClient_outcome_of_postRc hend hk hpost now buf web)⟩
  · exact Or.inl (handleClient_of_not_postRc (fun k hend hk hp => hpost ⟨k, hend, hk, hp⟩)
      now buf web)

/-- Requests served before a pass are requests of the pass. -/
theorem iterate_of_served (s : Firmware) (posts : List Post) (t : Tick) :
    iterate { s with web := servePosts posts s.web } { t with posts := [] } =
      iterate s { t with posts := posts } := by
  rw [iterate_eq_dispatch, iterate_eq_dispatch]
  rfl

/-- The passes among some events, without their requests. -/
def passesOf (es : List SiteEvent) : List Tick :=
  es.filterMap fun
    | .pass t => some { t with posts := [] }
    | _ => none

/-- The firmware of the site is where the main loop's model takes the passes `ticks`, with the
requests `posts` served since. -/
structure RefinesLoop (env : BootEnv) (es : List SiteEvent) (s : Firmware) (ticks : List Tick)
    (posts : List Post) : Prop where
  passes : ticks.map (fun t => { t with posts := [] }) = passesOf es
  state : s = { reached env ticks with web := servePosts posts (reached env ticks).web }

/-- A connection adds a request, or none. -/
theorem RefinesLoop.connect {es : List SiteEvent} {s : Site} {ticks : List Tick}
    {posts : List Post} (h : RefinesLoop env es s.firmware ticks posts) (now : ℤ)
    (stream : List UInt8) : ∃ posts', RefinesLoop env es (s.connect now stream).firmware ticks
      posts' := by
  obtain ⟨hpasses, hstate⟩ := h
  rcases handleClient_web_cases now stream s.buf s.firmware.web with hsame | ⟨body, hstore⟩
  · refine ⟨posts, hpasses, ?_⟩
    rw [Site.connect, hsame]
    exact hstate
  · refine ⟨posts ++ [⟨0, now, body⟩], hpasses, ?_⟩
    rw [Site.connect, hstore, servePosts_concat]
    show ({ s.firmware with web := handleRc now body } : Firmware) = _
    rw [hstate]

/-- **The site runs the main loop's model.**  After any events the firmware is in a state that
the model reaches by the passes among them, with some requests handed to each. -/
theorem site_refines (env : BootEnv) (buf : ReqBuf) (es : List SiteEvent) :
    ∃ ticks posts, RefinesLoop env es (siteAfter env buf es).firmware ticks posts := by
  induction es using List.reverseRecOn with
  | nil => exact ⟨[], [], rfl, rfl⟩
  | append_singleton es e ih =>
    obtain ⟨ticks, posts, h⟩ := ih
    have hpasses : passesOf (es ++ [e]) = passesOf es ++ passesOf [e] := List.filterMap_append
    rw [siteAfter_concat]
    generalize siteAfter env buf es = s at h ⊢
    cases e with
    | load | input | poll | lose =>
      exact ⟨ticks, posts, by rw [hpasses, h.passes]; exact (List.append_nil _).symm, h.state⟩
    | serve k n now =>
      rw [Site.step]
      cases hr : s.flight[k]? with
      | none =>
        exact ⟨ticks, posts, by rw [hpasses, h.passes]; exact (List.append_nil _).symm, h.state⟩
      | some r =>
        obtain ⟨posts', hpasses', hstate⟩ :=
          RefinesLoop.connect (s := { s with flight := s.flight.eraseIdx k }) h now
            ((r.page.request r.head).take n)
        exact ⟨ticks, posts', by rw [hpasses, hpasses']; exact (List.append_nil _).symm, hstate⟩
    | other r now =>
      obtain ⟨posts', hpasses', hstate⟩ := h.connect now r.bytes
      exact ⟨ticks, posts', by rw [hpasses, hpasses']; exact (List.append_nil _).symm, hstate⟩
    | pass t =>
      refine ⟨ticks ++ [{ t with posts := posts }], [], ?_, ?_⟩
      · rw [List.map_append, hpasses, h.passes]
        rfl
      · rw [Site.step, h.state, iterate_of_served, reached_concat]
        rfl

/-! ## What one event does to the shared package -/

/-- An event leaves the shared package alone, or serves a poll under way. -/
theorem Site.step_web_cases (s : Site) (e : SiteEvent) :
    (s.step e).firmware.web = s.firmware.web ∨
      ∃ k n now r, e = .serve k n now ∧ s.flight[k]? = some r ∧
        LeftByPoll r.page now s.firmware.web (s.step e).firmware.web := by
  cases e with
  | load | input | poll | lose => exact Or.inl rfl
  | serve k n now =>
    cases hr : s.flight[k]? with
    | none =>
      rw [Site.step, hr]
      exact Or.inl rfl
    | some r =>
      refine Or.inr ⟨k, n, now, r, rfl, hr, ?_⟩
      rw [Site.step, hr]
      exact cut_poll r.page r.head n now s.buf s.firmware.web
  | other r now => exact Or.inl (handleClient_of_not_postRc r.notPostRc now s.buf s.firmware.web)
  | pass t => exact Or.inl (iterate_web s.firmware { t with posts := [] })

/-- The polls under way after an event were under way before it, or are of a page's poll. -/
theorem Site.mem_flight_step {s : Site} {e : SiteEvent} {r : Poll} (h : r ∈ (s.step e).flight) :
    r ∈ s.flight ∨ (e = .poll r.cli r.head ∧ s.pages r.cli = r.page) := by
  cases e with
  | load | input | other | pass => exact Or.inl h
  | poll cli head =>
    rcases List.mem_append.mp h with h | h
    · exact Or.inl h
    · obtain rfl := List.mem_singleton.mp h
      exact Or.inr ⟨rfl, rfl⟩
  | serve k n now =>
    rw [Site.step] at h
    cases hr : s.flight[k]? with
    | none =>
      rw [hr] at h
      exact Or.inl h
    | some r' =>
      rw [hr] at h
      exact Or.inl ((List.eraseIdx_sublist ..).subset h)
  | lose k => exact Or.inl ((List.eraseIdx_sublist ..).subset h)

/-- An event changes the flag of a page by ARM, by DISARM or by loading it anew. -/
theorem Site.step_active {s : Site} {e : SiteEvent} {cli : ℕ}
    (h : ((s.step e).pages cli).active = true) :
    e = .input cli .arm ∨
      ((s.pages cli).active = true ∧ e ≠ .input cli .dis ∧ e ≠ .load cli) := by
  cases e with
  | poll | lose | other | pass => exact Or.inr ⟨h, nofun, nofun⟩
  | serve k n now =>
    refine Or.inr ⟨?_, nofun, nofun⟩
    rw [Site.step] at h
    cases hr : s.flight[k]? with
    | none | some => rw [hr] at h; exact h
  | load cli' =>
    have hpage : (s.step (.load cli')).pages cli =
        if cli = cli' then .loaded else s.pages cli := Function.update_apply ..
    rw [hpage] at h
    split_ifs at h with hc
    · cases h
    · exact Or.inr ⟨h, nofun, fun heq => hc (SiteEvent.load.inj heq).symm⟩
  | input cli' i =>
    have hpage : (s.step (.input cli' i)).pages cli =
        if cli = cli' then (s.pages cli').input i else s.pages cli := Function.update_apply ..
    rw [hpage] at h
    split_ifs at h with hc
    · subst hc
      cases i with
      | arm => exact Or.inl rfl
      | dis => cases h
      | thr | syaw | spit | srol => exact Or.inr ⟨h, nofun, nofun⟩
    · exact Or.inr ⟨h, fun heq => hc (SiteEvent.input.inj heq).1.symm, nofun⟩

/-! ## Where a command comes from -/

/-- ARM was pressed on the page, and neither DISARM since then nor the page loaded anew. -/
def ArmedIn (cli : ℕ) (es : List SiteEvent) : Prop :=
  ∃ pre post, es = pre ++ .input cli .arm :: post ∧ .input cli .dis ∉ post ∧ .load cli ∉ post

theorem armedIn_of_active {es : List SiteEvent} {cli : ℕ}
    (h : ((siteAfter env buf es).pages cli).active = true) : ArmedIn cli es := by
  induction es using List.reverseRecOn with
  | nil => cases h
  | append_singleton es e ih =>
    rw [siteAfter_concat] at h
    rcases Site.step_active h with rfl | ⟨hactive, hdis, hload⟩
    · exact ⟨es, [], rfl, List.not_mem_nil, List.not_mem_nil⟩
    · obtain ⟨pre, post, rfl, hdis', hload'⟩ := ih hactive
      refine ⟨pre, post ++ [e], by simp, ?_, ?_⟩
      · rw [List.mem_append, List.mem_singleton, not_or]
        exact ⟨hdis', hdis.symm⟩
      · rw [List.mem_append, List.mem_singleton, not_or]
        exact ⟨hload', hload.symm⟩

/-- The poll `r` was sent after the events `before`, by a page that showed what `r` says. -/
def SentAfter (env : BootEnv) (buf : ReqBuf) (before : List SiteEvent) (r : Poll) : Prop :=
  (siteAfter env buf before).pages r.cli = r.page

/-- Every poll under way was sent. -/
theorem exists_sent {es : List SiteEvent} {r : Poll} (h : r ∈ (siteAfter env buf es).flight) :
    ∃ before after, es = before ++ .poll r.cli r.head :: after ∧ SentAfter env buf before r := by
  induction es using List.reverseRecOn with
  | nil => cases h
  | append_singleton es e ih =>
    rw [siteAfter_concat] at h
    rcases Site.mem_flight_step h with hold | ⟨rfl, hshown⟩
    · obtain ⟨before, after, rfl, hsent⟩ := ih hold
      exact ⟨before, after ++ [e], by simp, hsent⟩
    · exact ⟨es, [], rfl, hshown⟩

/-- The poll `r` was sent after `before` and under way until the server served it, `between` later,
at `storedMs`; this stored its whole command, which is still there. -/
structure ServedAt (env : BootEnv) (buf : ReqBuf) (es : List SiteEvent) (r : Poll)
    (before between : List SiteEvent) (k n : ℕ) (storedMs : ℤ) (after : List SiteEvent) :
    Prop where
  split : es = before ++ .poll r.cli r.head :: between ++ .serve k n storedMs :: after
  shown : SentAfter env buf before r
  underWay : (siteAfter env buf (before ++ .poll r.cli r.head :: between)).flight[k]? = some r
  stored : (siteAfter env buf (before ++ .poll r.cli r.head :: between ++
    [.serve k n storedMs])).firmware.web = ⟨packageOfBody r.page.body, storedMs⟩
  kept : (siteAfter env buf es).firmware.web = ⟨packageOfBody r.page.body, storedMs⟩

/-- An event that leaves the shared package alone. -/
theorem ServedAt.concat {es : List SiteEvent} {r : Poll} {before between after : List SiteEvent}
    {k n : ℕ} {storedMs : ℤ} (h : ServedAt env buf es r before between k n storedMs after)
    {e : SiteEvent} (hsame : ((siteAfter env buf es).step e).firmware.web =
      (siteAfter env buf es).firmware.web) :
    ServedAt env buf (es ++ [e]) r before between k n storedMs (after ++ [e]) where
  split := by
    conv_lhs => rw [h.split]
    simp
  shown := h.shown
  underWay := h.underWay
  stored := h.stored
  kept := by rw [siteAfter_concat, hsame, h.kept]

/-- An active shared package is the whole command of a poll that was served. -/
theorem exists_served {es : List SiteEvent}
    (h : (siteAfter env buf es).firmware.web.wifiRc.droneActive = true) :
    ∃ r before between k n storedMs after,
      ServedAt env buf es r before between k n storedMs after := by
  induction es using List.reverseRecOn with
  | nil =>
    have hweb : (siteAfter env buf []).firmware.web = .reset := boot_web env
    rw [hweb] at h
    exact absurd h (by decide)
  | append_singleton es e ih =>
    rw [siteAfter_concat] at h
    have hold : ((siteAfter env buf es).step e).firmware.web = (siteAfter env buf es).firmware.web →
        ∃ r before between k n storedMs after,
          ServedAt env buf (es ++ [e]) r before between k n storedMs after := by
      intro hsame
      rw [hsame] at h
      obtain ⟨r, before, between, k, n, storedMs, after, hserved⟩ := ih h
      exact ⟨r, before, between, k, n, storedMs, _, hserved.concat hsame⟩
    rcases Site.step_web_cases (siteAfter env buf es) e with hsame | ⟨k, n, now, r, rfl, hr, hleft⟩
    · exact hold hsame
    · generalize hnew : (Site.step _ _).firmware.web = web at hleft
      cases hleft with
      | untouched => exact hold hnew
      | command =>
        obtain ⟨before, between, rfl, hshown⟩ := exists_sent (List.mem_of_getElem? hr)
        rw [← siteAfter_concat] at hnew
        exact ⟨r, before, between, k, n, now, [], rfl, hshown, hr, hnew, hnew⟩
      | inactive rc hinactive =>
        rw [hnew, hinactive] at h
        cases h

/-- The package `rc` in command at `now` is what the page of the poll `r` showed, armed, when it
sent it; and the poll was stored no more than `RC_STALE_MS` before. -/
structure CommandedBy (env : BootEnv) (buf : ReqBuf) (es : List SiteEvent) (now : ℤ)
    (rc : DataPackage) (r : Poll) (before between : List SiteEvent) (k n : ℕ) (storedMs : ℤ)
    (after : List SiteEvent) : Prop where
  served : ServedAt env buf es r before between k n storedMs after
  fresh : now - storedMs ≤ rcStaleMs
  armed : ArmedIn r.cli before
  command : CommandOf r.page rc

/-- **Every web package in command was commanded.**  Whatever the pages, the network and the
server did: it is what some page showed when it polled, with ARM pressed there and not DISARM
since, and the serving of that very poll stored it, within `RC_STALE_MS`. -/
theorem web_command_provenance (env : BootEnv) (buf : ReqBuf) (es : List SiteEvent) (now : ℤ)
    (h : (droneWebserverGetRc now (siteAfter env buf es).firmware.web).droneActive = true) :
    ∃ r before between k n storedMs after, CommandedBy env buf es now
      (droneWebserverGetRc now (siteAfter env buf es).firmware.web) r before between k n storedMs
      after := by
  have hwhole : droneWebserverGetRc now (siteAfter env buf es).firmware.web =
      (siteAfter env buf es).firmware.web.wifiRc := by
    rw [droneWebserverGetRc_active_iff] at h
    rw [droneWebserverGetRc, if_neg (not_lt.mpr h.2)]
  rw [droneWebserverGetRc_active_iff] at h
  obtain ⟨r, before, between, k, n, storedMs, after, hserved⟩ := exists_served h.1
  have hcommand : CommandOf r.page (siteAfter env buf es).firmware.web.wifiRc := by
    rw [hserved.kept]
    exact r.page.commandOf_body
  have hfresh : now - storedMs ≤ rcStaleMs := by
    have hstale := h.2
    rwa [hserved.kept] at hstale
  refine ⟨r, before, between, k, n, storedMs, after, hserved, hfresh, ?_,
    by rw [hwhole]; exact hcommand⟩
  have hshown : (siteAfter env buf before).pages r.cli = r.page := hserved.shown
  exact armedIn_of_active (by rw [hshown, ← hcommand.droneActive]; exact h.1)

/-- The head of a poll whose body has 32 bytes. -/
def pollHead : RequestHead where
  bytes := ascii "POST /rc HTTP/1.1\r\nContent-Length: 32\r\n\r\n"
  headEnd := ⟨by unfold BlankLineAt; decide +kernel, by unfold BlankLineAt; decide +kernel⟩

/-- On page 1 ARM is pressed and the throttle set to 40; its next poll is served but for the
closing brace. -/
def armedEvents : List SiteEvent :=
  [.load 1, .input 1 .arm, .input 1 (.thr ⟨40, by decide, by decide⟩), .poll 1 pollHead,
    .input 1 (.thr Page.loaded.thr), .serve 0 72 6000]

theorem web_command_provenance_armedEvents :
    ∃ r before between k n storedMs after, CommandedBy .calm .zero armedEvents 6100
      (droneWebserverGetRc 6100 (siteAfter .calm .zero armedEvents).firmware.web) r before between
      k n storedMs after :=
  web_command_provenance .calm .zero armedEvents 6100 (by decide +kernel)

/-! ## DISARM -/

/-- No page is armed, and no poll of an armed page is under way. -/
structure Disarmed (s : Site) : Prop where
  pages : ∀ cli, (s.pages cli).active = false
  flight : ∀ r ∈ s.flight, r.page.active = false

/-- Without ARM a disarmed site stays so, and what is stored is inactive. -/
theorem Disarmed.step {s : Site} (h : Disarmed s) {e : SiteEvent}
    (he : ∀ cli, e ≠ .input cli .arm) :
    Disarmed (s.step e) ∧ ((s.step e).firmware.web = s.firmware.web ∨
      (s.step e).firmware.web.wifiRc.droneActive = false) := by
  refine ⟨⟨fun cli => ?_, fun r hr => ?_⟩, ?_⟩
  · rw [← Bool.not_eq_true]
    intro hactive
    rcases Site.step_active hactive with harm | ⟨hold, -⟩
    · exact he cli harm
    · rw [h.pages] at hold
      cases hold
  · rcases Site.mem_flight_step hr with hold | ⟨-, hshown⟩
    · exact h.flight r hold
    · rw [← hshown, h.pages]
  · rcases s.step_web_cases e with hsame | ⟨k, n, now, r, -, hr, hleft⟩
    · exact Or.inl hsame
    · generalize (s.step e).firmware.web = web at hleft ⊢
      cases hleft with
      | untouched => exact Or.inl rfl
      | command =>
        refine Or.inr ?_
        rw [← h.flight r (List.mem_of_getElem? hr)]
        exact r.page.commandOf_body.droneActive
      | inactive rc hinactive => exact Or.inr hinactive

/-- **DISARM is obeyed.**  Once every page is disarmed and no earlier poll is under way, the web
package can be in command only for as long as nothing has been stored since, and no longer than
`RC_STALE_MS`; this lasts until ARM is pressed on some page. -/
theorem disarm_obeyed (env : BootEnv) (buf : ReqBuf) (es more : List SiteEvent)
    (hdis : Disarmed (siteAfter env buf es)) (hmore : ∀ cli, .input cli .arm ∉ more) (now : ℤ)
    (h : (droneWebserverGetRc now (siteAfter env buf (es ++ more)).firmware.web).droneActive =
      true) :
    (siteAfter env buf (es ++ more)).firmware.web = (siteAfter env buf es).firmware.web ∧
      now - (siteAfter env buf es).firmware.web.rcLastMs ≤ rcStaleMs := by
  have hquiet : Disarmed (siteAfter env buf (es ++ more)) ∧
      ((siteAfter env buf (es ++ more)).firmware.web = (siteAfter env buf es).firmware.web ∨
        (siteAfter env buf (es ++ more)).firmware.web.wifiRc.droneActive = false) := by
    clear h
    induction more using List.reverseRecOn with
    | nil => exact ⟨by rw [List.append_nil]; exact hdis, Or.inl (by rw [List.append_nil])⟩
    | append_singleton more e ih =>
      rw [← List.append_assoc, siteAfter_concat]
      obtain ⟨hdis', hweb⟩ := ih fun cli hmem => hmore cli (List.mem_append_left _ hmem)
      obtain ⟨hnext, hsame | hinactive⟩ := hdis'.step (e := e) fun cli heq =>
        hmore cli (by rw [heq]; simp)
      · exact ⟨hnext, by rw [hsame]; exact hweb⟩
      · exact ⟨hnext, Or.inr hinactive⟩
  rw [droneWebserverGetRc_active_iff] at h
  rcases hquiet.2 with hsame | hinactive
  · rw [hsame] at h
    exact ⟨hsame, h.2⟩
  · rw [hinactive] at h
    cases h.1

/-- DISARM is pressed on page 1; another page is loaded and polls. -/
def disarmedEvents : List SiteEvent := armedEvents ++ [.input 1 .dis, .load 2]

theorem disarmed_disarmedEvents : Disarmed (siteAfter .calm .zero disarmedEvents) where
  pages cli := by
    have hpages : (siteAfter .calm .zero disarmedEvents).pages = Function.update
        (Function.update (siteAfter .calm .zero armedEvents).pages 1
          (((siteAfter .calm .zero armedEvents).pages 1).input .dis)) 2 .loaded := rfl
    rw [hpages, Function.update_apply, Function.update_apply]
    split_ifs with h2 h1
    · rfl
    · rfl
    · rw [← Bool.not_eq_true]
      intro hactive
      obtain ⟨pre, post, hsplit, -⟩ := armedIn_of_active hactive
      have hmem : SiteEvent.input cli .arm ∈ armedEvents := by rw [hsplit]; simp
      simp [armedEvents, h1] at hmem
  flight r hr := by
    have hnil : (siteAfter .calm .zero disarmedEvents).flight = [] := rfl
    rw [hnil] at hr
    cases hr

theorem disarm_obeyed_disarmedEvents :
    (siteAfter .calm .zero (disarmedEvents ++ [.poll 2 pollHead])).firmware.web =
        (siteAfter .calm .zero disarmedEvents).firmware.web ∧
      6100 - (siteAfter .calm .zero disarmedEvents).firmware.web.rcLastMs ≤ rcStaleMs :=
  disarm_obeyed .calm .zero disarmedEvents [.poll 2 pollHead] disarmed_disarmedEvents
    (fun cli h => by simp at h) 6100 (by decide +kernel)

end DroneFirmware

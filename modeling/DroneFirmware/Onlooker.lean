import DroneFirmware.SignalLoss

/-!
# Two clients of the control page

The web server keeps one package and one time, and every `POST /rc` replaces both.  It does
not ask who sent it.  So a page that was only opened, and polls with `a` = 0, takes the
command from the pilot at every poll.

What the machine sees of the web is the last request served.  The run without the onlooker
is the run whose requests are filtered, and the two are compared pass by pass.

* `flag_eq_iff`: at one reading, the flag is as without the onlooker exactly when the pilot is
  in charge.
* `reached_alone`: while the pilot is in charge, the two runs differ in nothing but the web
  globals.
* `undisturbed_iff`: the two over whole runs.
-/

namespace DroneFirmware

open Reactive CText

/-! ## The requests of a run -/

/-- The requests served during some passes, oldest first. -/
def served (history : List Tick) : List Post := history.flatMap fun t => t.posts

/-- The requests of one client. -/
def postsOf (client : ℕ) (posts : List Post) : List Post := posts.filter fun p => p.cli == client

/-- The same passes without the requests of anyone but the pilot. -/
def alone (pilot : ℕ) (ticks : List Tick) : List Tick :=
  ticks.map fun t => { t with posts := postsOf pilot t.posts }

theorem served_alone (pilot : ℕ) (ticks : List Tick) :
    served (alone pilot ticks) = postsOf pilot (served ticks) := by
  induction ticks with
  | nil => rfl
  | cons t ticks ih =>
    show postsOf pilot t.posts ++ served (alone pilot ticks) =
      postsOf pilot (t.posts ++ served ticks)
    rw [ih]
    exact (List.filter_append _ _).symm

theorem servePosts_append (posts posts' : List Post) (w : Web) :
    servePosts (posts ++ posts') w = servePosts posts' (servePosts posts w) := by
  rw [servePosts, List.foldl_append]
  rfl

theorem reached_web (env : BootEnv) (ticks : List Tick) :
    (reached env ticks).web = servePosts (served ticks) .reset := by
  induction ticks using List.reverseRecOn with
  | nil => exact boot_web env
  | append_singleton ticks t ih =>
    rw [reached_concat, iterate_web, ih, ← servePosts_append, served, served, List.flatMap_append,
      List.flatMap_singleton]

/-! ## One reading of the flag -/

/-- The pilot's requests carry `a` = 1, all others `a` = 0. -/
def Roles (pilot : ℕ) (posts : List Post) : Prop :=
  ∀ p ∈ posts, jgetInt p.body (ascii "a") = if p.cli = pilot then 1 else 0

instance (pilot : ℕ) (posts : List Post) : Decidable (Roles pilot posts) :=
  inferInstanceAs (Decidable (∀ p ∈ posts, _))

/-- The pilot has the last word, or has said nothing within `RC_STALE_MS` anyway. -/
def InCharge (pilot : ℕ) (posts : List Post) (now : ℤ) : Prop :=
  (∀ p ∈ posts.getLast?, p.cli = pilot) ∨
    ∀ p ∈ (postsOf pilot posts).getLast?, rcStaleMs < now - p.now

/-- The flag that `drone_webserver_get_rc` returns at `now`, after the requests `posts`. -/
def webFlag (posts : List Post) (now : ℤ) : Bool :=
  (droneWebserverGetRc now (servePosts posts .reset)).droneActive

theorem webFlag_nil (now : ℤ) : webFlag [] now = false := by
  rw [webFlag, ← Bool.not_eq_true, droneWebserverGetRc_active_iff]
  exact fun h => absurd h.1 (by decide)

/-- The flag is that of the last request, if it is fresh. -/
theorem webFlag_concat (posts : List Post) (p : Post) (now : ℤ) :
    webFlag (posts ++ [p]) now = true ↔
      jgetInt p.body (ascii "a") ≠ 0 ∧ now - p.now ≤ rcStaleMs := by
  rw [webFlag, droneWebserverGetRc_active_iff, servePosts_concat]
  show (jgetInt p.body (ascii "a") != 0) = true ∧ _ ↔ _
  rw [bne_iff_ne]
  exact Iff.rfl

/-- If the last request is the pilot's, filtering changes nothing the server keeps. -/
theorem servePosts_postsOf {pilot : ℕ} {posts : List Post}
    (h : ∀ p ∈ posts.getLast?, p.cli = pilot) (w : Web) :
    servePosts (postsOf pilot posts) w = servePosts posts w := by
  rcases List.eq_nil_or_concat posts with rfl | ⟨posts, p, rfl⟩
  · rfl
  · rw [List.concat_eq_append] at h ⊢
    have hcli : p.cli = pilot := h p (by rw [List.getLast?_concat]; rfl)
    have hfilter : postsOf pilot (posts ++ [p]) = postsOf pilot posts ++ [p] := by
      rw [postsOf, List.filter_append, List.filter_singleton]
      simp [hcli, postsOf]
    rw [hfilter, servePosts_concat, servePosts_concat]

/-- After a request that is not the pilot's the flag is down. -/
theorem webFlag_of_onlooker {pilot : ℕ} {posts : List Post} (hroles : Roles pilot posts)
    (h : ¬ ∀ p ∈ posts.getLast?, p.cli = pilot) (now : ℤ) : webFlag posts now = false := by
  rcases List.eq_nil_or_concat posts with rfl | ⟨posts, p, rfl⟩
  · exact absurd (by simp) h
  · rw [List.concat_eq_append] at h hroles ⊢
    have hcli : p.cli ≠ pilot := by
      intro hcli
      refine h fun q hq => ?_
      rw [List.getLast?_concat] at hq
      cases hq
      exact hcli
    have hzero := hroles p (by simp)
    rw [if_neg hcli] at hzero
    rw [← Bool.not_eq_true, webFlag_concat]
    exact fun hc => hc.1 hzero

/-- The pilot's own flag is down exactly when the pilot has nothing fresh to say. -/
theorem webFlag_postsOf_eq_false_iff {pilot : ℕ} {posts : List Post} (hroles : Roles pilot posts)
    (now : ℤ) : webFlag (postsOf pilot posts) now = false ↔
      ∀ p ∈ (postsOf pilot posts).getLast?, rcStaleMs < now - p.now := by
  have hone : ∀ p ∈ postsOf pilot posts, jgetInt p.body (ascii "a") = 1 := by
    intro p hp
    rw [postsOf, List.mem_filter, beq_iff_eq] at hp
    rw [hroles p hp.1, if_pos hp.2]
  rcases List.eq_nil_or_concat (postsOf pilot posts) with hnil | ⟨own, p, hown⟩
  · rw [hnil, webFlag_nil]
    simp
  · rw [List.concat_eq_append] at hown
    rw [hown] at hone ⊢
    rw [← Bool.not_eq_true, webFlag_concat, hone p (by simp), List.getLast?_concat]
    constructor
    · intro h q hq
      cases hq
      by_contra hle
      exact h ⟨one_ne_zero, by omega⟩
    · intro h hc
      have := h p rfl
      omega

/-- **One reading.**  The flag is as without the onlooker exactly when the pilot is in charge. -/
theorem flag_eq_iff {pilot : ℕ} {posts : List Post} (hroles : Roles pilot posts) (now : ℤ) :
    webFlag posts now = webFlag (postsOf pilot posts) now ↔ InCharge pilot posts now := by
  unfold InCharge
  by_cases hlast : ∀ p ∈ posts.getLast?, p.cli = pilot
  · rw [webFlag, webFlag, servePosts_postsOf hlast]
    exact iff_of_true rfl (Or.inl hlast)
  · rw [webFlag_of_onlooker hroles hlast, eq_comm, webFlag_postsOf_eq_false_iff hroles]
    exact ⟨Or.inr, fun h => h.resolve_left hlast⟩

/-! ## Two runs -/

/-- What the state machine does is a function of the package: the web globals pass through. -/
theorem dispatch_web (t : Tick) (rc : DataPackage) (s : Firmware) (w : Web) :
    dispatch t rc { s with web := w } = { dispatch t rc s with web := w } := by
  obtain ⟨f, c, htr, hd⟩ := dispatch_refines t rc s
  obtain ⟨f', c', htr', hd'⟩ := dispatch_refines t rc { s with web := w }
  obtain ⟨rfl, rfl⟩ := htr.unique htr' rfl rfl rfl
  rw [hd, hd']

/-- Two machines that differ in the web globals only, under passes that differ in the requests
only, stay so if they act on the same package. -/
theorem iterate_alone {s s' : Firmware} {t : Tick} {posts : List Post}
    (hs : s' = { s with web := s'.web })
    (hrc : s'.packet { t with posts := posts } = s.packet t) :
    iterate s' { t with posts := posts } =
      { iterate s t with web := servePosts posts s'.web } := by
  rw [iterate_eq_dispatch, hrc, iterate_eq_dispatch, ← dispatch_web]
  rw [hs]
  rfl

/-- The flag the pass `t` reads after `history`. -/
def flagAt (history : List Tick) (t : Tick) : Bool := webFlag (served (history ++ [t])) t.tWeb

/-- The pilot is in charge when the pass `t` reads the flag. -/
def PilotInCharge (pilot : ℕ) (history : List Tick) (t : Tick) : Prop :=
  InCharge pilot (served (history ++ [t])) t.tWeb

theorem served_concat (history : List Tick) (t : Tick) :
    served (history ++ [t]) = served history ++ t.posts := by
  rw [served, served, List.flatMap_append, List.flatMap_singleton]

/-- The package of a pass, from the requests of the run. -/
theorem packet_eq (env : BootEnv) (history : List Tick) (t : Tick) :
    (reached env history).packet t = arbitrate t (readData t.nrf (reached env history).data)
      (servePosts (served (history ++ [t])) .reset) := by
  rw [Firmware.packet, reached_web, ← servePosts_append, served_concat]

/-- While the pilot is in charge, a pass acts on the same package as without the onlooker. -/
theorem packet_alone {env : BootEnv} {pilot : ℕ} {history : List Tick} {t : Tick}
    (hroles : Roles pilot (served (history ++ [t]))) (h : PilotInCharge pilot history t)
    (hdata : (reached env (alone pilot history)).data = (reached env history).data) :
    (reached env (alone pilot history)).packet { t with posts := postsOf pilot t.posts } =
      (reached env history).packet t := by
  have hserved : served (alone pilot history ++ [{ t with posts := postsOf pilot t.posts }]) =
      postsOf pilot (served (history ++ [t])) := by
    rw [← served_alone, alone, alone, List.map_append]
    rfl
  rw [packet_eq, packet_eq, hserved, hdata]
  by_cases hlast : ∀ p ∈ (served (history ++ [t])).getLast?, p.cli = pilot
  · rw [servePosts_postsOf hlast]
    rfl
  · -- the onlooker spoke last, and the pilot has nothing fresh to say: the radio commands
    have hdown := webFlag_of_onlooker hroles hlast t.tWeb
    have hdown' := hdown
    rw [(flag_eq_iff hroles t.tWeb).mpr h] at hdown'
    unfold webFlag at hdown hdown'
    unfold arbitrate
    simp only [hdown, hdown']
    rfl

/-- **While the pilot is in charge, the two runs differ in nothing but the web globals.** -/
theorem reached_alone {env : BootEnv} {pilot : ℕ} {ticks : List Tick}
    (hroles : Roles pilot (served ticks)) (h : Throughout (PilotInCharge pilot) ticks) :
    reached env (alone pilot ticks) =
      { reached env ticks with web := (reached env (alone pilot ticks)).web } := by
  induction ticks using List.reverseRecOn with
  | nil => rfl
  | append_singleton ticks t ih =>
    rw [throughout_concat] at h
    have hprev := ih (fun p hp => hroles p (by rw [served_concat]; simp [hp])) h.1
    have halone : alone pilot (ticks ++ [t]) =
        alone pilot ticks ++ [{ t with posts := postsOf pilot t.posts }] := by
      rw [alone, List.map_append]
      rfl
    have hdata : (reached env (alone pilot ticks)).data = (reached env ticks).data := by
      rw [hprev]
    have hstep := iterate_alone hprev (packet_alone hroles h.2 hdata)
    rw [halone, reached_concat, reached_concat, hstep]

/-! ## The onlooker -/

/-- In the pass `t` after `history` the flag and the state are as without the onlooker. -/
structure Undisturbed (env : BootEnv) (pilot : ℕ) (history : List Tick) (t : Tick) : Prop where
  flag : flagAt history t =
    flagAt (alone pilot history) { t with posts := postsOf pilot t.posts }
  state : (reached env (history ++ [t])).fsm.currentState =
    (reached env (alone pilot (history ++ [t]))).fsm.currentState

/-- The law that an onlooker cannot disturb the pilot. -/
def OnlookerHarmless : Prop :=
  ∀ (env : BootEnv) (pilot : ℕ) (ticks : List Tick), Roles pilot (served ticks) →
    Throughout (Undisturbed env pilot) ticks

/-- **The onlooker is harmless exactly while the pilot is in charge.**  In a run of the two
clients, every flag and every state is as without the onlooker if and only if, whenever the
flag is read, the last request served is the pilot's or the pilot has sent none within
`RC_STALE_MS`. -/
theorem undisturbed_iff (env : BootEnv) (pilot : ℕ) (ticks : List Tick)
    (hroles : Roles pilot (served ticks)) :
    Throughout (Undisturbed env pilot) ticks ↔ Throughout (PilotInCharge pilot) ticks := by
  have hsub : ∀ history t post, ticks = history ++ t :: post →
      Roles pilot (served (history ++ [t])) := by
    rintro history t post rfl p hp
    refine hroles p ?_
    rw [List.append_cons, served, List.flatMap_append]
    exact List.mem_append_left _ hp
  have hflag : ∀ history t, flagAt (alone pilot history) { t with posts := postsOf pilot t.posts } =
      webFlag (postsOf pilot (served (history ++ [t]))) t.tWeb := by
    intro history t
    unfold flagAt
    rw [← served_alone, alone, alone, List.map_append]
    rfl
  constructor
  · intro h history t post hs
    have heq := (h history t post hs).flag
    rw [hflag] at heq
    exact (flag_eq_iff (hsub history t post hs) t.tWeb).mp heq
  · intro h history t post hs
    refine ⟨?_, ?_⟩
    · rw [hflag]
      exact (flag_eq_iff (hsub history t post hs) t.tWeb).mpr (h history t post hs)
    · have hprefix : Throughout (PilotInCharge pilot) (history ++ [t]) := by
        intro pre i rest hs'
        refine h pre i (rest ++ post) ?_
        rw [hs, List.append_cons, hs']
        simp
      rw [reached_alone (hsub history t post hs) hprefix]

/-- A request of the page with the throttle slider and the flag as given, its body as the script
of the page writes it. -/
def pagePost (client : ℕ) (now : ℤ) (throttle : String) (flag : String) : Post :=
  ⟨client, now, ascii "\x7b\"t\":" ++ ascii throttle ++ ascii ",\"y\":0,\"p\":0,\"r\":0,\"a\":" ++
    ascii flag ++ ascii "\x7d"⟩

/-- A pass at `now` before which some requests were served, on a silent radio. -/
def Tick.serving (now : ℤ) (posts : List Post) : Tick := { Tick.calm now .silent with posts }

/-- The pilot, client 1, arms and takes off; then client 2, whose page was only opened, polls. -/
def onlookerRun : List Tick :=
  [.serving 5004 [pagePost 1 5000 "0" "1"], .serving 5504 [pagePost 1 5500 "0" "1"],
    .serving 5508 [pagePost 1 5506 "40" "1"],
    .serving 5512 [pagePost 1 5510 "40" "1", pagePost 2 5511 "0" "0"]]

/-- **An onlooker's poll sends the flight into FAILSAFE.** -/
theorem not_onlookerHarmless : ¬ OnlookerHarmless := by
  intro h
  have hlast := (h .calm 1 onlookerRun (by decide +kernel) (onlookerRun.take 3) _ [] rfl).state
  revert hlast
  decide +kernel

/-- The pilot flies on alone, and the onlooker polls long after the pilot has left. -/
def handoverRun : List Tick :=
  [.serving 5004 [pagePost 1 5000 "0" "1"],
    .serving 5504 [pagePost 2 5501 "0" "0", pagePost 1 5502 "0" "1"],
    .serving 8000 [pagePost 2 7990 "0" "0"]]

theorem undisturbed_iff_handoverRun :
    Throughout (Undisturbed .calm 1) handoverRun ↔ Throughout (PilotInCharge 1) handoverRun :=
  undisturbed_iff .calm 1 handoverRun (by decide +kernel)

end DroneFirmware

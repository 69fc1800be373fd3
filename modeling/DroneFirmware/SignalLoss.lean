import DroneFirmware.MixerCache

/-!
# Detecting the loss of the signal

The web package carries the time it was stored, and `drone_webserver_get_rc` drops the flag
of a package older than `RC_STALE_MS`.  The radio's package carries no time: `read_data`
returns the last payload for as long as no other one arrives.

* `Heard`: an active payload or request arrived within `RC_STALE_MS`.
* `exists_post_of_web_active`: a web package in command was heard.
* `detectsLoss_iff`: a pass detects the loss exactly when the last radio payload, if it
  carries the flag, is not all that is left of a silent link.
* `signal_loss_detected_iff`: the same over whole runs.
-/

namespace DroneFirmware

open Reactive

/-! ## What was heard -/

/-- The radio's package after some passes: the last payload delivered, zero before the first. -/
def latched (history : List Tick) : DataPackage :=
  history.foldl (fun data t => readData t.nrf data) .zero

/-- A payload or a request that carries the flag arrived during `history`, at most
`RC_STALE_MS` before `now`. -/
def Heard (history : List Tick) (now : ℤ) : Prop :=
  ∃ t ∈ history,
    (t.nrf.rxDr = true ∧ t.nrf.package.droneActive = true ∧ now - t.nrf.arrivedMs ≤ rcStaleMs) ∨
      ∃ p ∈ t.posts, p.active = true ∧ now - p.now ≤ rcStaleMs

instance (history : List Tick) (now : ℤ) : Decidable (Heard history now) :=
  inferInstanceAs (Decidable (∃ t ∈ history, _ ∨ ∃ p ∈ t.posts, _))

theorem latched_concat (history : List Tick) (t : Tick) :
    latched (history ++ [t]) = readData t.nrf (latched history) := by
  rw [latched, List.foldl_append]
  rfl

/-- The global `data` is the last payload delivered. -/
theorem reached_data (env : BootEnv) (ticks : List Tick) :
    (reached env ticks).data = latched ticks := by
  induction ticks using List.reverseRecOn with
  | nil => exact boot_data env
  | append_singleton ticks t ih => rw [reached_concat, iterate_data, ih, latched_concat]

/-! ## The web link -/

/-- Serving requests leaves the globals alone, or leaves the last request in them. -/
theorem servePosts_cases (posts : List Post) (w : Web) :
    servePosts posts w = w ∨ ∃ p ∈ posts, servePosts posts w = handleRc p.now p.body := by
  rcases List.eq_nil_or_concat posts with rfl | ⟨posts, p, rfl⟩
  · exact Or.inl rfl
  · rw [List.concat_eq_append]
    exact Or.inr ⟨p, by simp, servePosts_concat posts p w⟩

/-- **A web package with the flag was received.**  It is the package of a request of the run,
stored when `rc_last_ms` says. -/
theorem exists_post_of_web_active (env : BootEnv) (ticks : List Tick)
    (h : (reached env ticks).web.wifiRc.droneActive = true) :
    ∃ t ∈ ticks, ∃ p ∈ t.posts, p.active = true ∧ p.now = (reached env ticks).web.rcLastMs := by
  induction ticks using List.reverseRecOn with
  | nil =>
    rw [reached_nil, boot_web] at h
    exact absurd h (by decide)
  | append_singleton ticks t ih =>
    rw [reached_concat, iterate_web] at h ⊢
    rcases servePosts_cases t.posts (reached env ticks).web with hw | ⟨p, hp, hw⟩
    · rw [hw] at h ⊢
      obtain ⟨t', ht', p, hp, hact, hnow⟩ := ih h
      exact ⟨t', by simp [ht'], p, hp, hact, hnow⟩
    · rw [hw] at h ⊢
      exact ⟨t, by simp, p, hp, h, rfl⟩

/-- A web package in command was heard. -/
theorem heard_of_web_active (env : BootEnv) (history : List Tick) (t : Tick)
    (h : (droneWebserverGetRc t.tWeb
      (servePosts t.posts (reached env history).web)).droneActive = true) :
    Heard (history ++ [t]) t.tWeb := by
  rw [droneWebserverGetRc_active_iff] at h
  obtain ⟨hact, hfresh⟩ := h
  have hweb : (reached env (history ++ [t])).web =
      servePosts t.posts (reached env history).web := by
    rw [reached_concat, iterate_web]
  rw [← hweb] at hact hfresh
  obtain ⟨t', ht', p, hp, hpact, hnow⟩ := exists_post_of_web_active env _ hact
  exact ⟨t', ht', Or.inr ⟨p, hp, hpact, by rw [hnow]; exact hfresh⟩⟩

/-! ## Both links -/

/-- The pass `t` after `history` detects a lost signal: an active package was heard, and a
flying or armed machine that heard nothing leaves its state. -/
structure DetectsLoss (env : BootEnv) (history : List Tick) (t : Tick) : Prop where
  fresh : ((reached env history).packet t).droneActive = true → Heard (history ++ [t]) t.tWeb
  flying : ¬ Heard (history ++ [t]) t.tWeb → t.i2c = .ok →
    (reached env history).fsm.currentState = .flying →
      (reached env (history ++ [t])).fsm.currentState = .failsafe
  armed : ¬ Heard (history ++ [t]) t.tWeb → t.i2c = .ok →
    (reached env history).fsm.currentState = .armed →
      (reached env (history ++ [t])).fsm.currentState = .idle

/-- The radio's latch is not the remnant of a silent link: if the last payload delivered
carries the flag, something active arrived within `RC_STALE_MS`. -/
def LatchFresh (history : List Tick) (t : Tick) : Prop :=
  (latched (history ++ [t])).droneActive = true → Heard (history ++ [t]) t.tWeb

/-- Under an inactive package FLYING is left for FAILSAFE and ARMED for IDLE. -/
theorem iterate_of_inactive {s : Firmware} {t : Tick} (hi : t.i2c = .ok)
    (hrc : (s.packet t).droneActive = false) :
    (s.fsm.currentState = .flying → (iterate s t).fsm.currentState = .failsafe) ∧
      (s.fsm.currentState = .armed → (iterate s t).fsm.currentState = .idle) := by
  obtain ⟨f, c, htr, hf, -⟩ := iterate_cases_of_ok s hi
  rw [hf]
  cases htr with
  | disarm h => simp [h]
  | loseSignal h => simp [h]
  | rest h | startArming h => rcases h with h | h <;> simp [h]
  | stayArmed _ hrc' | takeOff _ hrc' | touchDown _ hrc' | fly _ hrc' => simp [hrc] at hrc'
  | abortArming h | confirmArming h | finishArming h | recover h | hold h | giveUp h | descend h
  | wait h | landed h | fault h => simp [h]

/-- **One pass.**  It detects a lost signal exactly when the radio's latch is fresh. -/
theorem detectsLoss_iff (env : BootEnv) (history : List Tick) (t : Tick) :
    DetectsLoss env history t ↔ LatchFresh history t := by
  have hlatch : readData t.nrf (reached env history).data = latched (history ++ [t]) := by
    rw [reached_data, latched_concat]
  constructor
  · intro h hact
    refine h.fresh ((Firmware.packet_active_iff _ t).mpr (Or.inr ?_))
    rw [hlatch]
    exact hact
  · intro h
    have hfresh : ((reached env history).packet t).droneActive = true →
        Heard (history ++ [t]) t.tWeb := by
      intro hact
      rcases (Firmware.packet_active_iff _ t).mp hact with hweb | hradio
      · exact heard_of_web_active env history t hweb
      · rw [hlatch] at hradio
        exact h hradio
    have hinactive : ¬ Heard (history ++ [t]) t.tWeb →
        ((reached env history).packet t).droneActive = false := fun hn =>
      Bool.eq_false_iff.mpr fun hact => hn (hfresh hact)
    refine ⟨hfresh, fun hn hi hs => ?_, fun hn hi hs => ?_⟩
    · rw [reached_concat]
      exact (iterate_of_inactive hi (hinactive hn)).1 hs
    · rw [reached_concat]
      exact (iterate_of_inactive hi (hinactive hn)).2 hs

/-- The law that signal loss is detected: in every pass of every run. -/
def SignalLossDetected : Prop :=
  ∀ (env : BootEnv) (ticks : List Tick), Throughout (DetectsLoss env) ticks

/-- **Signal loss is detected exactly while the radio's latch is fresh.**  In a run, every
pass detects a lost signal if and only if no pass finds, after `RC_STALE_MS` without an active
arrival on either link, a last radio payload that carries the flag. -/
theorem signal_loss_detected_iff (env : BootEnv) (ticks : List Tick) :
    Throughout (DetectsLoss env) ticks ↔ Throughout LatchFresh ticks :=
  throughout_congr (detectsLoss_iff env) ticks

/-- Arm and take off on the radio, which then falls silent. -/
def silenceRun : List Tick :=
  [.throttle 5004 0, .throttle 5504 0, .throttle 5508 60, .throttle 5512 600]

/-- **A silent radio flies on.**  A minute after the last payload the package is still active
and the machine still in FLYING. -/
theorem not_signalLossDetected : ¬ SignalLossDetected := by
  intro h
  have hlast := h .calm (silenceRun ++ [.calm 65512 .silent]) silenceRun _ [] rfl
  have hlost : ¬ Heard (silenceRun ++ [.calm 65512 .silent]) 65512 := by decide +kernel
  have hfailsafe := hlast.flying hlost rfl (by decide +kernel)
  revert hfailsafe
  decide +kernel

end DroneFirmware

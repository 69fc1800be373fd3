import DroneFirmware.SignalLoss

/-!
# The outputs of each state

Several transitions change the state and write no motor, so what a state's outputs are
depends on what an earlier state wrote.  The invariant `OutputInv` ties the pulses to the
state, to the time FAILSAFE was entered and to the landing counter.

* `OutputInv.step`: one pass keeps the invariant, if it comes within `FAILSAFE_TIMEOUT_MS`
  of the one before.
* `reached_error_iff`: ERROR is what a failed init step or a failed IMU read leaves, for ever.
* `stopped_of_init_failed`: no motor turns after a failed init step, whatever `pwm_set` returns.
* `output_per_state`: the outputs of each state, in every pass of every run.
-/

namespace DroneFirmware

open Reactive

/-! ## One throttle on every motor -/

/-- Every motor carries the pulse of `percent`. -/
def Esc.AllAt (e : Esc) (percent : UInt8) : Prop := ∀ i, e.pulseNs i = pulseOf percent

instance (e : Esc) (percent : UInt8) : Decidable (e.AllAt percent) :=
  inferInstanceAs (Decidable (∀ _, _))

/-- A sweep all of whose calls succeed leaves its throttle on every motor. -/
theorem motorsSetAll_allAt {pwm : PwmResults} (hpwm : ∀ i, pwm i = .ok) (percent : UInt8)
    (e : Esc) : (motorsSetAll pwm percent e).2.AllAt percent := by
  rw [motorsSetAll_esc]
  intro i
  exact if_pos (hpwm i)

theorem Esc.AllAt.percentInForce {e : Esc} {percent : UInt8} (h : e.AllAt percent)
    (i : Fin numMotors) : e.percentInForce i = min percent.toNat 100 := by
  rw [Esc.percentInForce, h i, percentOf_pulseOf]

/-! ## ERROR is final -/

/-- **ERROR.**  The machine is in ERROR exactly when an init step or an IMU read has failed. -/
theorem reached_error_iff (env : BootEnv) (ticks : List Tick) :
    (reached env ticks).fsm.currentState = .error ↔
      ¬ (env.EscOk ∧ env.ImuOk) ∨ ∃ t ∈ ticks, t.i2c ≠ .ok := by
  induction ticks using List.reverseRecOn with
  | nil =>
    rw [reached_nil, boot_currentState]
    split_ifs with h
    · simp [h]
    · simp [h]
  | append_singleton ticks t ih =>
    rw [reached_concat, iterate_error_iff, ih]
    constructor
    · rintro (hi | h | ⟨t', ht', hi⟩)
      · exact Or.inr ⟨t, by simp, hi⟩
      · exact Or.inl h
      · exact Or.inr ⟨t', by simp [ht'], hi⟩
    · rintro (h | ⟨t', ht', hi⟩)
      · exact Or.inr (Or.inl h)
      · rcases List.mem_append.mp ht' with ht' | ht'
        · exact Or.inr (Or.inr ⟨t', ht', hi⟩)
        · rw [List.mem_singleton] at ht'
          exact Or.inl (ht' ▸ hi)

/-- **No motor turns after a failed init step**, whatever the later `pwm_set` calls return. -/
theorem stopped_of_init_failed {env : BootEnv} (h : ¬ (env.EscOk ∧ env.ImuOk))
    (ticks : List Tick) (i : Fin numMotors) :
    (reached env ticks).esc.percentInForce i = 0 := by
  have hpulse : (reached env ticks).esc.pulseNs i = 0 ∨
      (reached env ticks).esc.pulseNs i = pulseOf 0 := by
    induction ticks using List.reverseRecOn with
    | nil => exact boot_pulseNs env i
    | append_singleton ticks t ih =>
      have herr : (reached env ticks).fsm.currentState = .error :=
        (reached_error_iff env ticks).mpr (Or.inl h)
      have hpolled : (reached env ticks).escPolled t =
          { (reached env ticks).esc with calls := [] } := by
        rw [Firmware.escPolled, if_neg (by simp [herr])]
      rw [reached_concat, iterate_esc_of_error ((iterate_error_iff _ t).mpr (Or.inr herr)), hpolled,
        motorsSetAll_esc]
      show (if t.pwm i = .ok then _ else _) = _ ∨ (if t.pwm i = .ok then _ else _) = _
      split_ifs
      · exact Or.inr rfl
      · exact ih
  unfold Esc.percentInForce
  rcases hpulse with hp | hp
  · rw [hp]
    rfl
  · rw [hp]
    rfl

/-! ## The invariant -/

/-- The states in which the motors are stopped; INIT is handled like IDLE. -/
def DroneState.Grounded (q : DroneState) : Prop :=
  q = .init ∨ q = .idle ∨ q = .arming ∨ q = .armed ∨ q = .error

instance (q : DroneState) : Decidable q.Grounded :=
  inferInstanceAs (Decidable (_ ∨ _ ∨ _ ∨ _ ∨ _))

/-- The pass `b` tests its clock less than `FAILSAFE_TIMEOUT_MS` after the pass `a` read it. -/
def Prompt (a b : Tick) : Prop := b.tNow - a.tEnter < failsafeTimeoutMs

instance (a b : Tick) : Decidable (Prompt a b) := inferInstanceAs (Decidable (_ < _))

/-- The pulses in force, state by state, after a run whose last pass is `last`. -/
structure OutputInv (s : Firmware) (last : Option Tick) : Prop where
  grounded : s.fsm.currentState.Grounded → s.esc.AllAt 0
  /-- FAILSAFE holds its throttle from its second pass on. -/
  failsafe : s.fsm.currentState = .failsafe →
    s.esc.AllAt failsafeHoldPct ∨ ∃ t ∈ last, s.fsm.stateEnterMs = t.tEnter
  landing : s.fsm.currentState = .landing →
    s.esc.AllAt s.fsm.landingThrottle ∧ s.fsm.landingThrottle ≤ failsafeHoldPct

theorem landingStep_le {throttle : UInt8} (h : throttle ≤ failsafeHoldPct) :
    landingStep throttle ≤ failsafeHoldPct := by
  rw [UInt8.le_iff_toNat_le] at h ⊢
  rw [landingStep_toNat]
  omega

/-- The init steps establish the invariant, on a ready device. -/
theorem outputInv_boot {env : BootEnv} (hr : env.ready .mcpwm0 = true)
    (harm : ∀ i, env.armPwm i = .ok) (hstop : ∀ i, env.stopPwm i = .ok) :
    OutputInv (boot env) none := by
  have hesc : env.EscOk := ⟨hr, harm⟩
  by_cases himu : env.ImuOk
  · rw [boot_of_ok hesc himu]
    exact ⟨fun _ _ => rfl, nofun, nofun⟩
  · rw [boot_of_imu_fail hesc himu]
    exact ⟨fun _ => motorsSetAll_allAt hstop 0 _, nofun, nofun⟩

theorem OutputInv.of_grounded {s : Firmware} (hg : s.fsm.currentState.Grounded)
    (h : s.esc.AllAt 0) (last : Option Tick) : OutputInv s last := by
  refine ⟨fun _ => h, fun hs => ?_, fun hs => ?_⟩
  · rw [hs] at hg
    exact absurd hg (by decide)
  · rw [hs] at hg
    exact absurd hg (by decide)

theorem OutputInv.of_flying {s : Firmware} (hs : s.fsm.currentState = .flying)
    (last : Option Tick) : OutputInv s last := by
  refine ⟨fun hg => ?_, by simp [hs], by simp [hs]⟩
  rw [hs] at hg
  exact absurd hg (by decide)

/-- A pass that stays in FAILSAFE holds. -/
theorem allAt_of_hold {s : Firmware} {t : Tick} (hpwm : t.PwmOk)
    (h : s.fsm.currentState = .failsafe) (h' : (iterate s t).fsm.currentState = .failsafe) :
    (iterate s t).esc.AllAt failsafeHoldPct := by
  obtain ⟨-, f, c, htr, hf, hesc⟩ := iterate_cases_of_ne_error (by rw [h']; decide)
  rw [hf] at h'
  rw [hesc]
  cases htr with
  | hold => exact motorsSetAll_allAt hpwm.1 _ _
  | recover => simp at h'
  | giveUp => simp at h'
  | rest h'' | startArming h'' => simp [h] at h''
  | _ h'' => simp [h] at h''

/-- **One pass keeps the invariant.**  A FAILSAFE that was entered in the last pass cannot
time out in this one, so LANDING starts from the held throttle. -/
theorem OutputInv.step {s : Firmware} {last : Option Tick} {t : Tick} (h : OutputInv s last)
    (hpwm : t.PwmOk) (hprompt : ∀ a ∈ last, Prompt a t) :
    OutputInv (iterate s t) (some t) := by
  by_cases herr : (iterate s t).fsm.currentState = .error
  · refine .of_grounded (by simp [herr, DroneState.Grounded]) ?_ _
    rw [iterate_esc_of_error herr]
    exact motorsSetAll_allAt hpwm.1 0 _
  · obtain ⟨-, f, c, htr, hf, hesc⟩ := iterate_cases_of_ne_error herr
    have hall : ∀ percent e, (motorsSetAll t.pwm percent e).2.AllAt percent :=
      motorsSetAll_allAt hpwm.1
    cases htr with
    | rest h' =>
      exact .of_grounded (by rcases h' with h' | h' <;> simp [hf, h', DroneState.Grounded])
        (hesc ▸ hall 0 _) _
    | confirmArming h' | stayArmed h' | fault h' =>
      exact .of_grounded (by simp [hf, h', DroneState.Grounded]) (hesc ▸ hall 0 _) _
    | startArming | abortArming | finishArming | disarm | touchDown | landed =>
      exact .of_grounded (by simp [hf, DroneState.Grounded]) (hesc ▸ hall 0 _) _
    | fly h' => exact .of_flying (by rw [hf, h']) _
    | takeOff | recover => exact .of_flying (by rw [hf]; rfl) _
    | loseSignal =>
      exact ⟨by simp [hf, DroneState.Grounded], fun _ => Or.inr ⟨t, rfl, by rw [hf]; rfl⟩,
        by simp [hf]⟩
    | hold h' =>
      exact ⟨by simp [hf, h', DroneState.Grounded], fun _ => Or.inl (hesc ▸ hall _ _),
        by simp [hf, h']⟩
    | giveUp h' _ ht =>
      have hheld : s.esc.AllAt failsafeHoldPct := by
        rcases h.failsafe h' with hheld | ⟨a, ha, henter⟩
        · exact hheld
        · have hp := hprompt a ha
          rw [Prompt, ← henter] at hp
          omega
      refine ⟨by simp [hf, DroneState.Grounded], by simp [hf], fun _ => ?_⟩
      rw [hf, hesc]
      exact ⟨hheld, UInt8.le_refl _⟩
    | descend h' =>
      refine ⟨by simp [hf, h', DroneState.Grounded], by simp [hf, h'], fun _ => ?_⟩
      rw [hf, hesc]
      exact ⟨hall _ _, landingStep_le (h.landing h').2⟩
    | wait h' =>
      refine ⟨by simp [hf, h', DroneState.Grounded], by simp [hf, h'], fun _ => ?_⟩
      rw [hf, hesc]
      exact h.landing h'

/-! ## Runs -/

/-- Every `pwm_set` of the init steps and of the run succeeds if the device is ready. -/
def PwmWorks (env : BootEnv) (ticks : List Tick) : Prop :=
  env.ready .mcpwm0 = true →
    (∀ i, env.armPwm i = .ok) ∧ (∀ i, env.stopPwm i = .ok) ∧ ∀ t ∈ ticks, t.PwmOk

instance (env : BootEnv) (ticks : List Tick) : Decidable (PwmWorks env ticks) :=
  inferInstanceAs (Decidable (_ → _))

theorem outputInv_reached {env : BootEnv} (hr : env.ready .mcpwm0 = true) (ticks : List Tick)
    (hpwm : PwmWorks env ticks) (hclock : ticks.IsChain Prompt) :
    OutputInv (reached env ticks) ticks.getLast? := by
  induction ticks using List.reverseRecOn with
  | nil => exact outputInv_boot hr (hpwm hr).1 (hpwm hr).2.1
  | append_singleton ticks t ih =>
    obtain ⟨hchain, -, hlast⟩ := List.isChain_append.mp hclock
    have hinv := ih (fun hr => ⟨(hpwm hr).1, (hpwm hr).2.1, fun t' ht' =>
      (hpwm hr).2.2 t' (by simp [ht'])⟩) hchain
    rw [reached_concat, List.getLast?_concat]
    exact hinv.step ((hpwm hr).2.2 t (by simp)) fun a ha => hlast a ha t rfl

/-- The outputs at the end of the pass `t` after `history`. -/
structure OutputOk (env : BootEnv) (history : List Tick) (t : Tick) : Prop where
  /-- In IDLE, ARMING, ARMED and ERROR every motor is at 0 %: at 1000 µs, if there is a device
  to write a pulse. -/
  grounded : (reached env (history ++ [t])).fsm.currentState.Grounded →
    (∀ i, (reached env (history ++ [t])).esc.percentInForce i = 0) ∧
      (env.ready .mcpwm0 = true → (reached env (history ++ [t])).esc.AllAt 0)
  /-- In a FAILSAFE that was not entered in this pass every motor is at the hold throttle. -/
  failsafe : (reached env history).fsm.currentState = .failsafe →
    (reached env (history ++ [t])).fsm.currentState = .failsafe →
      (reached env (history ++ [t])).esc.AllAt failsafeHoldPct
  /-- In LANDING every motor is at the landing throttle, at most the hold throttle. -/
  landing : (reached env (history ++ [t])).fsm.currentState = .landing →
    (reached env (history ++ [t])).esc.AllAt (reached env (history ++ [t])).fsm.landingThrottle ∧
      (reached env (history ++ [t])).fsm.landingThrottle ≤ failsafeHoldPct
  /-- From the first failed IMU read on, and from a failed init step on, the state is ERROR. -/
  error : (¬ (env.EscOk ∧ env.ImuOk) ∨ ∃ t' ∈ history ++ [t], t'.i2c ≠ .ok) →
    (reached env (history ++ [t])).fsm.currentState = .error

/-- **The outputs of each state.**  If `pwm_set` succeeds on a ready device and successive
passes read the clock less than `FAILSAFE_TIMEOUT_MS` apart, the outputs at the end of every
pass are those of its state. -/
theorem output_per_state (env : BootEnv) (ticks : List Tick) (hpwm : PwmWorks env ticks)
    (hclock : ticks.IsChain Prompt) : Throughout (OutputOk env) ticks := by
  rintro history t post rfl
  have herror := (reached_error_iff env (history ++ [t])).mpr
  by_cases hr : env.ready .mcpwm0 = true
  · rw [List.append_cons] at hclock
    obtain ⟨hchain, -, hnext⟩ := List.isChain_append.mp (List.isChain_append.mp hclock).1
    have hpwm' : PwmWorks env history := fun hr => ⟨(hpwm hr).1, (hpwm hr).2.1, fun t' ht' =>
      (hpwm hr).2.2 t' (by simp [ht'])⟩
    have hinv := outputInv_reached hr history hpwm' hchain
    have hok : t.PwmOk := (hpwm hr).2.2 t (by simp)
    have hstep := hinv.step hok fun a ha => hnext a ha t rfl
    rw [← reached_concat] at hstep
    refine ⟨fun hg => ⟨fun i => ?_, fun _ => hstep.grounded hg⟩, fun hs hs' => ?_, hstep.landing,
      herror⟩
    · rw [(hstep.grounded hg).percentInForce i]
      rfl
    · rw [reached_concat] at hs' ⊢
      exact allAt_of_hold hok hs hs'
  · have hfailed : ¬ (env.EscOk ∧ env.ImuOk) := fun h => hr h.1.1
    have hstate := herror (Or.inl hfailed)
    refine ⟨fun _ => ⟨stopped_of_init_failed hfailed _, fun h => absurd h hr⟩, fun _ hs => ?_,
      fun hs => ?_, herror⟩
    · rw [hstate] at hs
      cases hs
    · rw [hstate] at hs
      cases hs

/-- Arm, take off, lose the signal, hold, give up and begin to land; then the IMU fails. -/
def lostFlightRun : List Tick :=
  [.throttle 5004 0, .throttle 5504 0, .throttle 5508 60, .throttle 5528 600,
    .calm 5548 (.received 5548 .zero), .calm 6548 .silent, .calm 7548 .silent,
    .calm 7748 .silent, { Tick.calm 7752 .silent with i2c := .fail 4 }, .calm 7756 .silent]

theorem output_per_state_lostFlightRun : Throughout (OutputOk .calm) lostFlightRun :=
  output_per_state .calm lostFlightRun (by decide) (by decide)

/-- The run does reach FAILSAFE, LANDING and ERROR. -/
example : (reached .calm (lostFlightRun.take 6)).fsm.currentState = .failsafe ∧
    (reached .calm (lostFlightRun.take 8)).fsm.landingThrottle = 23 ∧
    (reached .calm lostFlightRun).fsm.currentState = .error := by decide +kernel

end DroneFirmware

import DroneFirmware.Grounding
import DroneFirmware.MixerCache

/-!
# Arming in time

A pilot who holds the throttle down and asks to arm gets an armed drone, from any state but
ERROR: out of FAILSAFE in two passes and out of FLYING in one, out of IDLE and ARMING when the
confirmation is over, and out of LANDING, which does not look at the sticks, when the landing and
a confirmation are.

* `Punctual`: what the clock readings in the state have to do with the last pass.
* `armDue`: the reading by which the machine is in ARMED; `meetsDeadline_armDue`.
* `asking_arms`: from then on it is there, and its motors are stopped.
-/

namespace DroneFirmware

open Reactive

/-- A pass in which the pilot asks to arm and the IMU answers. -/
structure AsksToArm (s : Firmware) (t : Tick) : Prop where
  sticks : armCondition (s.packet t) = true
  i2c : t.i2c = .ok

instance (s : Firmware) (t : Tick) : Decidable (AsksToArm s t) :=
  decidable_of_iff (armCondition (s.packet t) = true ∧ t.i2c = .ok)
    ⟨fun h => ⟨h.1, h.2⟩, fun h => ⟨h.1, h.2⟩⟩

theorem armCondition_iff_held (rc : DataPackage) :
    armCondition rc = true ↔ rc.droneActive = true ∧ rc.yLeft.toInt ≤ 0 := by
  rw [armCondition, Bool.and_eq_true, decide_eq_true_iff]

/-! ## The clock readings in the state -/

/-- After the last pass `a`: besides the times that `Timely` is about, ARMING is entered no later
than it and is not over, and a throttle that has come down to 0 came down in it. -/
structure Punctual (s : Firmware) (a : Tick) : Prop where
  timely : Timely s a
  arming : s.fsm.currentState = .arming →
    s.fsm.stateEnterMs ≤ a.tEnter ∧ a.tNow < s.fsm.stateEnterMs + armConfirmMs
  lowered : s.fsm.currentState = .landing → s.fsm.landingThrottle = 0 →
    a.tNow ≤ s.fsm.lastLandingStepMs

theorem Timely.punctual_of_ne {s : Firmware} {a : Tick} (ht : Timely s a)
    (h : s.fsm.currentState ≠ .arming) (h' : s.fsm.currentState ≠ .landing) : Punctual s a :=
  ⟨ht, fun hs => absurd hs h, fun hs => absurd hs h'⟩

/-- **One pass is punctual**, whatever the package. -/
theorem Punctual.step {δ : ℤ} {s : Firmware} {a t : Tick} (h : Punctual s a) (ho : t.Orderly δ)
    (hf : a.Follows δ t) : Punctual (iterate s t) t := by
  have htimely := h.timely.step ho hf
  have hconfirm : armConfirmMs = 500 := rfl
  have hns := ho.now_le_step
  have hse := ho.step_le_enter
  by_cases herr : (iterate s t).fsm.currentState = .error
  · exact htimely.punctual_of_ne (by rw [herr]; decide) (by rw [herr]; decide)
  · obtain ⟨-, f, c, htr, hfsm, -⟩ := iterate_cases_of_ne_error herr
    cases htr with
    | startArming =>
      refine ⟨htimely, fun _ => ?_, fun hs => ?_⟩
      · rw [hfsm, Fsm.enter_stateEnterMs]
        omega
      · rw [hfsm] at hs
        cases hs
    | confirmArming hs _ ht =>
      refine ⟨htimely, fun _ => ?_, fun hs' => ?_⟩
      · have hold := (h.arming hs).1
        have horder := hf.order
        have hweb := ho.web_le_now
        rw [hfsm]
        omega
      · rw [hfsm, hs] at hs'
        cases hs'
    | descend hs =>
      refine ⟨htimely, fun hs' => ?_, fun _ _ => ?_⟩
      · rw [hfsm] at hs'
        rw [show _ = DroneState.landing from hs] at hs'
        cases hs'
      · rw [hfsm]
    | giveUp =>
      refine ⟨htimely, fun hs => ?_, fun _ hzero => ?_⟩
      · rw [hfsm] at hs
        cases hs
      · rw [hfsm] at hzero
        exact absurd hzero (show failsafeHoldPct ≠ 0 by decide)
    | wait hs hl =>
      refine ⟨htimely, fun hs' => ?_, fun _ hzero => ?_⟩
      · rw [hfsm, hs] at hs'
        cases hs'
      · rw [hfsm] at hzero
        exact absurd hzero hl
    | rest hs | fault hs | stayArmed hs | fly hs | hold hs =>
      refine htimely.punctual_of_ne (fun hc => ?_) fun hc => ?_
      · rw [hfsm] at hc
        simp [hc] at hs
      · rw [hfsm] at hc
        simp [hc] at hs
    | abortArming | finishArming | disarm | takeOff | touchDown | loseSignal | recover | landed =>
      refine htimely.punctual_of_ne ?_ ?_
      · rw [hfsm]
        simp
      · rw [hfsm]
        simp

theorem punctual_reached (env : BootEnv) {δ : ℤ} {history : List Tick} {a : Tick}
    (h : Paced δ (history ++ [a])) : Punctual (reached env (history ++ [a])) a :=
  reached_of_paced
    (fun _ => (timely_of_ne (boot_currentState_ne env (by decide) (by decide))
      (boot_currentState_ne env (by decide) (by decide))).punctual_of_ne
        (boot_currentState_ne env (by decide) (by decide))
        (boot_currentState_ne env (by decide) (by decide)))
    (fun hs ho hf _ => hs.step ho hf) h

/-! ## The deadline -/

/-- What is left at the entry into ARMING. -/
def armLeftMs (δ : ℤ) : ℤ := armConfirmMs + δ

/-- The reading by which the machine is in ARMED, after the pass that is given with it, if the
pilot asks to arm from there on. -/
def armDue (δ : ℤ) (x : Firmware × Tick) : ℤ :=
  match x.1.fsm.currentState with
  | .landing => x.1.fsm.lastLandingStepMs + landingLeftMs δ x.1.fsm.landingThrottle +
      (2 * δ + armLeftMs δ)
  | .failsafe => x.2.tNow + 2 * δ
  | .flying => x.2.tNow + δ
  | .armed => x.2.tNow
  | .arming => x.1.fsm.stateEnterMs + armLeftMs δ
  | _ => x.2.tNow + (2 * δ + armLeftMs δ)

section Due

variable {δ : ℤ} {s : Firmware} {a : Tick}

theorem armDue_of_landing (h : s.fsm.currentState = .landing) :
    armDue δ (s, a) = s.fsm.lastLandingStepMs + landingLeftMs δ s.fsm.landingThrottle +
      (2 * δ + armLeftMs δ) := by
  simp only [armDue, h]

theorem armDue_of_arming (h : s.fsm.currentState = .arming) :
    armDue δ (s, a) = s.fsm.stateEnterMs + armLeftMs δ := by
  simp only [armDue, h]

theorem armDue_of_ground (h : s.fsm.currentState = .init ∨ s.fsm.currentState = .idle) :
    armDue δ (s, a) = a.tNow + (2 * δ + armLeftMs δ) := by
  rcases h with h | h <;> simp only [armDue, h]

/-- From any state the deadline is this close. -/
theorem armDue_le (h : Punctual s a) (ho : a.Orderly δ) :
    armDue δ (s, a) ≤ a.tNow + (3100 + 18 * δ) := by
  have henter := ho.enter_le
  have hδ : 0 ≤ δ := by
    have h1 := ho.now_le_step
    have h2 := ho.step_le_enter
    omega
  have hconfirm : armConfirmMs = 500 := rfl
  cases hs : s.fsm.currentState with
  | landing =>
    have hland := h.timely.landing hs
    have hleft := landingLeftMs_le hδ hland.2.2
    rw [armDue_of_landing hs, armLeftMs]
    omega
  | arming =>
    have hentered := (h.arming hs).1
    rw [armDue_of_arming hs, armLeftMs]
    omega
  | init | idle | armed | flying | failsafe | error =>
    simp only [armDue, hs, armLeftMs]
    omega

end Due

/-- The machine is in ARMED, and the pilot has not let it take off. -/
theorem armed_step {s : Firmware} {t : Tick} (hp : AsksToArm s t)
    (h : s.fsm.currentState = .armed) : (iterate s t).fsm.currentState = .armed := by
  obtain ⟨hactive, hdown⟩ := (armCondition_iff_held _).mp hp.sticks
  have hfly : throttleFlyThreshold = 50 := rfl
  obtain ⟨f, c, htr, hfsm, -⟩ := iterate_cases_of_ok s hp.i2c
  rw [hfsm]
  cases htr with
  | stayArmed => exact h
  | disarm _ hrc =>
    rw [hactive] at hrc
    cases hrc
  | takeOff _ _ hy => omega
  | rest hs | startArming hs =>
    rw [h] at hs
    simp at hs
  | abortArming hs | confirmArming hs | finishArming hs | loseSignal hs | touchDown hs | fly hs
  | recover hs | hold hs | giveUp hs | descend hs | wait hs | landed hs | fault hs =>
    rw [h] at hs
    cases hs

/-- **One pass of asking**, short of ARMED: it comes by the deadline, and leaves it where it is or
brings it nearer. -/
theorem armDue_step {δ : ℤ} {s : Firmware} {a t : Tick} (h : Punctual s a) (ho : t.Orderly δ)
    (hf : a.Follows δ t) (hp : AsksToArm s t) (herr : s.fsm.currentState ≠ .error)
    (hnot : s.fsm.currentState ≠ .armed) :
    (iterate s t).fsm.currentState = .armed ∨ ((iterate s t).fsm.currentState ≠ .error ∧
      armDue δ (iterate s t, t) ≤ armDue δ (s, a) ∧ t.tNow ≤ armDue δ (s, a)) := by
  obtain ⟨hactive, hdown⟩ := (armCondition_iff_held _).mp hp.sticks
  obtain ⟨-, hns, hse, hen⟩ := ho
  obtain ⟨-, hgap⟩ := hf
  have hconfirm : armConfirmMs = 500 := rfl
  have hstep : landingStepMs = 200 := rfl
  obtain ⟨f, c, htr, hfsm, -⟩ := iterate_cases_of_ok s hp.i2c
  have hkeeps : f.currentState ≠ .error → (iterate s t).fsm.currentState ≠ .error := by
    rw [hfsm]
    exact id
  cases htr with
  | rest _ hrc | abortArming _ hrc =>
    rw [hp.sticks] at hrc
    cases hrc
  | disarm _ hrc | loseSignal _ hrc | hold _ hrc | giveUp _ hrc =>
    rw [hactive] at hrc
    cases hrc
  | stayArmed hs | takeOff hs => exact absurd hs hnot
  | fault hs => exact absurd hs herr
  | fly _ _ hy => omega
  | finishArming | touchDown =>
    refine Or.inl ?_
    rw [hfsm]
    rfl
  | startArming hs =>
    refine Or.inr ⟨hkeeps (by simp), ?_⟩
    have hs' : (iterate s t).fsm.currentState = .arming := by rw [hfsm]; rfl
    have henter : (iterate s t).fsm.stateEnterMs = t.tEnter := by rw [hfsm]; rfl
    rw [armDue_of_arming hs', armDue_of_ground hs, henter, armLeftMs]
    omega
  | confirmArming hs _ ht =>
    refine Or.inr ⟨hkeeps herr, ?_⟩
    have hs' : (iterate s t).fsm.currentState = .arming := by rw [hfsm]; exact hs
    rw [armDue_of_arming hs', armDue_of_arming hs, hfsm, armLeftMs]
    omega
  | recover hs =>
    refine Or.inr ⟨hkeeps (by simp), ?_⟩
    have hs' : (iterate s t).fsm.currentState = .flying := by rw [hfsm]; rfl
    simp only [armDue, hs', hs]
    omega
  | descend hs hl ht =>
    refine Or.inr ⟨hkeeps (by rw [show _ = _ from hs]; decide), ?_⟩
    have hnow := (h.timely.landing hs).2.1
    have hs' : (iterate s t).fsm.currentState = .landing := by rw [hfsm]; exact hs
    have hlast : (iterate s t).fsm.lastLandingStepMs = t.tNow := by rw [hfsm]
    have hthrottle : (iterate s t).fsm.landingThrottle = landingStep s.fsm.landingThrottle := by
      rw [hfsm]
    have hpos := landingLeftMs_nonneg (show 0 ≤ δ by omega) (landingStep s.fsm.landingThrottle)
    have hleft := landingLeftMs_landingStep δ hl
    rw [armDue_of_landing hs', armDue_of_landing hs, hlast, hthrottle, armLeftMs]
    omega
  | wait hs hl ht =>
    refine Or.inr ⟨hkeeps herr, ?_⟩
    have hs' : (iterate s t).fsm.currentState = .landing := by rw [hfsm]; exact hs
    have hpos := landingLeftMs_nonneg (show 0 ≤ δ by omega) (landingStep s.fsm.landingThrottle)
    have hleft := landingLeftMs_landingStep δ hl
    rw [armDue_of_landing hs', armDue_of_landing hs, hfsm, armLeftMs]
    omega
  | landed hs hl =>
    refine Or.inr ⟨hkeeps (by simp), ?_⟩
    have hlowered := h.lowered hs hl
    have hs' : (iterate s t).fsm.currentState = .idle := by rw [hfsm]; rfl
    have hleft : landingLeftMs δ s.fsm.landingThrottle = δ := by
      rw [hl, landingLeftMs, show landingSteps 0 = 0 from rfl]
      omega
    rw [armDue_of_ground (Or.inr hs'), armDue_of_landing hs, hleft, armLeftMs]
    omega

/-- **The deadline is met**, by passes of asking that are no more than `δ` apart. -/
theorem meetsDeadline_armDue (δ : ℤ) :
    MeetsDeadline (remember iterate)
      (fun x t => (t.Orderly δ ∧ AsksToArm x.1 t) ∧ x.2.Follows δ t)
      (fun x => x.1.fsm.currentState = .armed)
      (fun x => Punctual x.1 x.2 ∧ x.1.fsm.currentState ≠ .error) Tick.tNow (armDue δ) where
  stays hP hg := armed_step hP.1.2 hg
  moves hP hInv hg := by
    obtain ⟨⟨ht, hp⟩, hf⟩ := hP
    obtain ⟨hs, herr⟩ := hInv
    exact (armDue_step hs ht hf hp herr hg).imp id
      fun ⟨herr', hdue, htime⟩ => ⟨⟨hs.step ht hf, herr'⟩, hdue, htime⟩

/-! ## A run -/

/-- A pass that ends in ARMED by asking has stopped the motors, if its `pwm_set` calls succeed. -/
theorem allAt_zero_of_armed {s : Firmware} {t : Tick} (h : (iterate s t).fsm.currentState = .armed)
    (hpwm : t.PwmOk) : (iterate s t).esc.AllAt 0 := by
  obtain ⟨-, f, c, htr, hfsm, hesc⟩ := iterate_cases_of_ne_error
    (show (iterate s t).fsm.currentState ≠ .error by rw [h]; decide)
  rw [hfsm] at h
  rw [hesc]
  cases htr with
  | finishArming | stayArmed | touchDown => exact motorsSetAll_allAt hpwm.1 0 _
  | rest hs => simp [h] at hs
  | confirmArming hs | fly hs | hold hs | descend hs | wait hs | fault hs =>
    rw [show _ = _ from hs] at h
    cases h
  | startArming | abortArming | disarm | takeOff | loseSignal | recover | giveUp | landed =>
    simp at h

/-- **Asking arms.**  After the pass `a`, from any state but ERROR: if the pilot asks to arm in
every pass from there on, the IMU answers and the passes are no more than `δ` apart, the drone is
in ARMED from the deadline of its state on, with its motors stopped if the last `pwm_set` calls
succeed; and no deadline is further away than 3100 ms and 18 `δ`. -/
theorem asking_arms (env : BootEnv) (δ : ℤ) (history : List Tick) (a : Tick) (ts : List Tick)
    (t : Tick) (hpaced : Paced δ (history ++ a :: ts ++ [t]))
    (herr : (reached env (history ++ [a])).fsm.currentState ≠ .error)
    (hasks : Along iterate AsksToArm (reached env (history ++ [a])) (ts ++ [t]))
    (hlate : armDue δ (reached env (history ++ [a]), a) < t.tNow) :
    (reached env (history ++ a :: ts ++ [t])).fsm.currentState = .armed ∧
      (t.PwmOk → (reached env (history ++ a :: ts ++ [t])).esc.AllAt 0) ∧
      armDue δ (reached env (history ++ [a]), a) ≤ a.tNow + (3100 + 18 * δ) := by
  have horderly : a.Orderly δ := hpaced.orderly a (by simp)
  have hpunctual := punctual_reached env (hpaced.stretch ⟨[], ts ++ [t], by simp⟩ :
    Paced δ (history ++ [a]))
  have harmed : (reached env (history ++ a :: ts ++ [t])).fsm.currentState = .armed :=
    goal_of_paced (fun s => s.fsm.currentState = .armed) (meetsDeadline_armDue δ) hpaced
      hasks (Or.inr ⟨hpunctual, herr⟩) hlate
  refine ⟨harmed, fun hpwm => ?_, armDue_le hpunctual horderly⟩
  rw [reached_concat] at harmed ⊢
  exact allAt_zero_of_armed harmed hpwm

/-- A pass at `now` in which the radio delivers a package without the active flag. -/
def Tick.released (now : ℤ) : Tick :=
  .calm now (.received now { throttleOnly 0 with droneActive := false })

/-- Arm, take off, let go, and wait half a second at a time until the landing begins. -/
def releasedFlight : List Tick :=
  [.throttle 5004 0, .throttle 5504 0, .throttle 5508 60, .released 6008, .released 6508,
    .released 7008, .released 7508]

/-- Passes half a second apart that ask to arm. -/
def askingPasses : List Tick := (List.range 24).map fun k => .throttle (8508 + 500 * k) 0

theorem asking_arms_askingPasses :
    (reached .calm (releasedFlight ++ .released 8008 :: askingPasses ++
      [.throttle 20508 0])).fsm.currentState = .armed ∧
    ((Tick.throttle 20508 0).PwmOk → (reached .calm (releasedFlight ++ .released 8008 ::
      askingPasses ++ [.throttle 20508 0])).esc.AllAt 0) ∧
    armDue 500 (reached .calm (releasedFlight ++ [.released 8008]), .released 8008) ≤
      (Tick.released 8008).tNow + (3100 + 18 * 500) :=
  asking_arms .calm 500 releasedFlight (.released 8008) askingPasses (.throttle 20508 0)
    (by decide +kernel) (by decide +kernel) (by decide +kernel) (by decide +kernel)

end DroneFirmware

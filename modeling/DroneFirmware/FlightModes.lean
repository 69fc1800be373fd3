import DroneFirmware.Fsm
import DroneFirmware.Reactive.Run

/-!
# The flight modes: what the state machine is for

Read without its hardware, `drone_fsm.c` is a small automaton: a pass looks at the package
and at the clock, changes mode or not, and tells the motors one of three things --- keep
what they have, all run at one percentage, follow the mixer.  `Transition` is that
automaton, one constructor per way a pass can go, with its guard.

`iterate_refines` connects it to the code: every pass of the main loop is a transition of
the automaton, and the motors are told exactly what the transition says.  The invariants
of the development are proved by cases on `Transition`, and what two runs have in common by
`Transition.unique`; none unfolds a state handler.
-/

namespace DroneFirmware

/-! ## The automaton -/

/-- What a transition tells the motors. -/
inductive MotorCommand where
  | keep
  | all (percent : UInt8)
  | mix
  deriving DecidableEq

/-- The command, carried out by the motor controller. -/
def MotorCommand.perform (t : Tick) (rc : DataPackage) : MotorCommand → Esc → Esc
  | keep, e => e
  | all percent, e => (motorsSetAll t.pwm percent e).2
  | mix, e => motorsSetFromRc t.tNow t.pwm rc e

/-- `enter_state` on the automaton. -/
def Fsm.enter (f : Fsm) (next : DroneState) (now : ℤ) : Fsm :=
  { f with currentState := next, stateEnterMs := now }

@[simp] theorem Fsm.enter_currentState (f : Fsm) (next : DroneState) (now : ℤ) :
    (f.enter next now).currentState = next := rfl

@[simp] theorem Fsm.enter_stateEnterMs (f : Fsm) (next : DroneState) (now : ℤ) :
    (f.enter next now).stateEnterMs = now := rfl

@[simp] theorem Fsm.enter_landingThrottle (f : Fsm) (next : DroneState) (now : ℤ) :
    (f.enter next now).landingThrottle = f.landingThrottle := rfl

@[simp] theorem Fsm.enter_lastLandingStepMs (f : Fsm) (next : DroneState) (now : ℤ) :
    (f.enter next now).lastLandingStepMs = f.lastLandingStepMs := rfl

/-- The landing throttle after one step down. -/
def landingStep (throttle : UInt8) : UInt8 :=
  if throttle > landingStepPct then throttle - landingStepPct else 0

/-- The counter goes down by 2 and stops at 0: the subtraction never wraps. -/
theorem landingStep_toNat (throttle : UInt8) :
    (landingStep throttle).toNat = throttle.toNat - 2 := by
  rw [landingStep]
  have hstep : landingStepPct.toNat = 2 := rfl
  split_ifs with h
  · rw [gt_iff_lt, UInt8.lt_iff_toNat_lt] at h
    rw [UInt8.toNat_sub_of_le _ _ (UInt8.le_iff_toNat_le.mpr h.le), hstep]
  · rw [gt_iff_lt, UInt8.lt_iff_toNat_lt] at h
    show 0 = _
    omega

/-- **The flight modes.**  One pass of the automaton under the package `rc`. -/
inductive Transition (t : Tick) (rc : DataPackage) (f : Fsm) : Fsm → MotorCommand → Prop where
  | rest (h : f.currentState = .init ∨ f.currentState = .idle) (hrc : armCondition rc = false) :
      Transition t rc f f (.all 0)
  | startArming (h : f.currentState = .init ∨ f.currentState = .idle)
      (hrc : armCondition rc = true) : Transition t rc f (f.enter .arming t.tEnter) (.all 0)
  | abortArming (h : f.currentState = .arming) (hrc : armCondition rc = false) :
      Transition t rc f (f.enter .idle t.tEnter) (.all 0)
  | confirmArming (h : f.currentState = .arming) (hrc : armCondition rc = true)
      (ht : t.tNow - f.stateEnterMs < armConfirmMs) : Transition t rc f f (.all 0)
  | finishArming (h : f.currentState = .arming) (hrc : armCondition rc = true)
      (ht : armConfirmMs ≤ t.tNow - f.stateEnterMs) :
      Transition t rc f (f.enter .armed t.tEnter) (.all 0)
  | disarm (h : f.currentState = .armed) (hrc : rc.droneActive = false) :
      Transition t rc f (f.enter .idle t.tEnter) (.all 0)
  | stayArmed (h : f.currentState = .armed) (hrc : rc.droneActive = true)
      (hy : rc.yLeft.toInt ≤ throttleFlyThreshold) : Transition t rc f f (.all 0)
  | takeOff (h : f.currentState = .armed) (hrc : rc.droneActive = true)
      (hy : throttleFlyThreshold < rc.yLeft.toInt) :
      Transition t rc f (f.enter .flying t.tEnter) (.all 0)
  | loseSignal (h : f.currentState = .flying) (hrc : rc.droneActive = false) :
      Transition t rc f (f.enter .failsafe t.tEnter) .keep
  | touchDown (h : f.currentState = .flying) (hrc : rc.droneActive = true)
      (hy : rc.yLeft.toInt ≤ 0) : Transition t rc f (f.enter .armed t.tEnter) (.all 0)
  | fly (h : f.currentState = .flying) (hrc : rc.droneActive = true)
      (hy : 0 < rc.yLeft.toInt) : Transition t rc f f .mix
  | recover (h : f.currentState = .failsafe) (hrc : rc.droneActive = true) :
      Transition t rc f (f.enter .flying t.tEnter) .keep
  | hold (h : f.currentState = .failsafe) (hrc : rc.droneActive = false)
      (ht : t.tNow - f.stateEnterMs < failsafeTimeoutMs) :
      Transition t rc f f (.all failsafeHoldPct)
  | giveUp (h : f.currentState = .failsafe) (hrc : rc.droneActive = false)
      (ht : failsafeTimeoutMs ≤ t.tNow - f.stateEnterMs) :
      Transition t rc f
        { f.enter .landing t.tEnter with
          landingThrottle := failsafeHoldPct
          lastLandingStepMs := t.tStep } .keep
  | descend (h : f.currentState = .landing) (hl : f.landingThrottle ≠ 0)
      (ht : landingStepMs ≤ t.tNow - f.lastLandingStepMs) :
      Transition t rc f
        { f with
          landingThrottle := landingStep f.landingThrottle
          lastLandingStepMs := t.tNow } (.all (landingStep f.landingThrottle))
  | wait (h : f.currentState = .landing) (hl : f.landingThrottle ≠ 0)
      (ht : t.tNow - f.lastLandingStepMs < landingStepMs) : Transition t rc f f .keep
  | landed (h : f.currentState = .landing) (hl : f.landingThrottle = 0) :
      Transition t rc f (f.enter .idle t.tEnter) (.all 0)
  | fault (h : f.currentState = .error) : Transition t rc f f (.all 0)

/-- The three ways out of a pass that starts in FLYING. -/
theorem Transition.of_flying {t : Tick} {rc : DataPackage} {f f' : Fsm} {c : MotorCommand}
    (h : Transition t rc f f' c) (hfly : f.currentState = .flying) :
    (rc.droneActive = false ∧ f' = f.enter .failsafe t.tEnter ∧ c = .keep) ∨
      (rc.droneActive = true ∧ rc.yLeft.toInt ≤ 0 ∧ f' = f.enter .armed t.tEnter ∧ c = .all 0) ∨
      (rc.droneActive = true ∧ 0 < rc.yLeft.toInt ∧ f' = f ∧ c = .mix) := by
  cases h with
  | loseSignal _ hrc => exact Or.inl ⟨hrc, rfl, rfl⟩
  | touchDown _ hrc hy => exact Or.inr (Or.inl ⟨hrc, hy, rfl, rfl⟩)
  | fly _ hrc hy => exact Or.inr (Or.inr ⟨hrc, hy, rfl, rfl⟩)
  | rest h | startArming h => simp [hfly] at h
  | _ h => simp [hfly] at h

/-- **The automaton is deterministic**, and of a pass it looks at three clock readings only: the
guards of two transitions exclude each other. -/
theorem Transition.unique {t t' : Tick} {rc : DataPackage} {f f₁ f₂ : Fsm} {c₁ c₂ : MotorCommand}
    (h₁ : Transition t rc f f₁ c₁) (h₂ : Transition t' rc f f₂ c₂) (hnow : t.tNow = t'.tNow)
    (hstep : t.tStep = t'.tStep) (henter : t.tEnter = t'.tEnter) : f₁ = f₂ ∧ c₁ = c₂ := by
  cases h₁ <;> cases h₂ <;> grind

/-! ## The code refines it -/

/-- `s'` is what a transition from `s` makes of the firmware. -/
def Refines (t : Tick) (rc : DataPackage) (s s' : Firmware) : Prop :=
  ∃ f c, Transition t rc s.fsm f c ∧ s' = { s with fsm := f, esc := c.perform t rc s.esc }

section Handlers

variable (t : Tick) (rc : DataPackage) {s : Firmware}

theorem stateIdle_refines (h : s.fsm.currentState = .init ∨ s.fsm.currentState = .idle) :
    Refines t rc s (stateIdle t rc s) := by
  cases hrc : armCondition rc with
  | false => exact ⟨_, _, .rest h hrc, by simp only [stateIdle, hrc]; rfl⟩
  | true => exact ⟨_, _, .startArming h hrc, by simp only [stateIdle, hrc]; rfl⟩

theorem stateArming_refines (h : s.fsm.currentState = .arming) :
    Refines t rc s (stateArming t rc s) := by
  cases hrc : armCondition rc with
  | false => exact ⟨_, _, .abortArming h hrc, by simp only [stateArming, hrc]; rfl⟩
  | true =>
    by_cases ht : armConfirmMs ≤ t.tNow - s.fsm.stateEnterMs
    · refine ⟨_, _, .finishArming h hrc ht, ?_⟩
      rw [stateArming, if_neg (by simp [hrc]), setAll_fsm, if_pos ht]
      rfl
    · refine ⟨_, _, .confirmArming h hrc (by omega), ?_⟩
      rw [stateArming, if_neg (by simp [hrc]), setAll_fsm, if_neg ht]
      rfl

theorem stateArmed_refines (h : s.fsm.currentState = .armed) :
    Refines t rc s (stateArmed t rc s) := by
  cases hrc : rc.droneActive with
  | false => exact ⟨_, _, .disarm h hrc, by simp only [stateArmed, hrc]; rfl⟩
  | true =>
    by_cases hy : throttleFlyThreshold < rc.yLeft.toInt
    · refine ⟨_, _, .takeOff h hrc hy, ?_⟩
      rw [stateArmed, if_neg (by simp [hrc]), if_pos hy]
      rfl
    · refine ⟨_, _, .stayArmed h hrc (by omega), ?_⟩
      rw [stateArmed, if_neg (by simp [hrc]), if_neg hy]
      rfl

theorem stateFlying_refines (h : s.fsm.currentState = .flying) :
    Refines t rc s (stateFlying t rc s) := by
  cases hrc : rc.droneActive with
  | false => exact ⟨_, _, .loseSignal h hrc, by simp only [stateFlying, hrc]; rfl⟩
  | true =>
    by_cases hy : rc.yLeft.toInt ≤ 0
    · refine ⟨_, _, .touchDown h hrc hy, ?_⟩
      rw [stateFlying, if_neg (by simp [hrc]), if_pos hy]
      rfl
    · refine ⟨_, _, .fly h hrc (by omega), ?_⟩
      rw [stateFlying, if_neg (by simp [hrc]), if_neg hy]
      rfl

theorem stateFailsafe_refines (h : s.fsm.currentState = .failsafe) :
    Refines t rc s (stateFailsafe t rc s) := by
  cases hrc : rc.droneActive with
  | true => exact ⟨_, _, .recover h hrc, by simp only [stateFailsafe, hrc]; rfl⟩
  | false =>
    by_cases ht : failsafeTimeoutMs ≤ t.tNow - s.fsm.stateEnterMs
    · refine ⟨_, _, .giveUp h hrc ht, ?_⟩
      rw [stateFailsafe, if_neg (by simp [hrc]), if_pos ht]
      rfl
    · refine ⟨_, _, .hold h hrc (by omega), ?_⟩
      rw [stateFailsafe, if_neg (by simp [hrc]), if_neg ht]
      rfl

theorem stateLanding_refines (h : s.fsm.currentState = .landing) :
    Refines t rc s (stateLanding t rc s) := by
  by_cases hl : s.fsm.landingThrottle = 0
  · refine ⟨_, _, .landed h hl, ?_⟩
    rw [stateLanding, if_pos hl]
    rfl
  · by_cases ht : landingStepMs ≤ t.tNow - s.fsm.lastLandingStepMs
    · refine ⟨_, _, .descend h hl ht, ?_⟩
      rw [stateLanding, if_neg hl, if_pos ht]
      rfl
    · refine ⟨_, _, .wait h hl (by omega), ?_⟩
      rw [stateLanding, if_neg hl, if_neg ht]
      rfl

theorem stateError_refines (h : s.fsm.currentState = .error) :
    Refines t rc s (stateError t rc s) :=
  ⟨_, _, .fault h, rfl⟩

end Handlers

/-- The `switch` of the main loop makes a transition, and the motors are told what it says. -/
theorem dispatch_refines (t : Tick) (rc : DataPackage) (s : Firmware) :
    Refines t rc s (dispatch t rc s) := by
  cases h : s.fsm.currentState with
  | init => simpa only [dispatch, h] using stateIdle_refines t rc (Or.inl h)
  | idle => simpa only [dispatch, h] using stateIdle_refines t rc (Or.inr h)
  | arming => simpa only [dispatch, h] using stateArming_refines t rc h
  | armed => simpa only [dispatch, h] using stateArmed_refines t rc h
  | flying => simpa only [dispatch, h] using stateFlying_refines t rc h
  | failsafe => simpa only [dispatch, h] using stateFailsafe_refines t rc h
  | landing => simpa only [dispatch, h] using stateLanding_refines t rc h
  | error => simpa only [dispatch, h] using stateError_refines t rc h

/-- The package a pass acts on. -/
def Firmware.packet (s : Firmware) (t : Tick) : DataPackage :=
  arbitrate t (readData t.nrf s.data) (servePosts t.posts s.web)

/-- The automaton after the IMU poll: in ERROR when the read failed. -/
def Fsm.polled (f : Fsm) (t : Tick) : Fsm :=
  if t.i2c ≠ .ok ∧ f.currentState ≠ .error then f.enter .error t.tStop else f

/-- The motor controller after the IMU poll: stopped when the read failed. -/
def Firmware.escPolled (s : Firmware) (t : Tick) : Esc :=
  let e := { s.esc with calls := [] }
  if t.i2c ≠ .ok ∧ s.fsm.currentState ≠ .error then (motorsSetAll t.pwmStop 0 e).2 else e

/-- The IMU module after a pass: one read, through the handle as it is. -/
def Firmware.imuPolled (s : Firmware) (t : Tick) : Imu :=
  (mpu9250Update t.i2c { s.imu with calls := [] }).2

/-- A pass is the `switch`, on the package of the pass and on the state the poll has left. -/
theorem iterate_eq_dispatch (s : Firmware) (t : Tick) :
    iterate s t = dispatch t (s.packet t)
      { fsm := s.fsm.polled t
        esc := s.escPolled t
        imu := s.imuPolled t
        data := readData t.nrf s.data
        web := servePosts t.posts s.web } := by
  have hneg := mpu9250Update_neg_iff t.i2c { s.imu with calls := [] }
  have hpoll : pollImu t (clearCalls s) =
      ⟨s.fsm.polled t, s.escPolled t, s.imuPolled t, s.data, s.web⟩ := by
    simp only [pollImu, clearCalls, hneg, Fsm.polled, Firmware.escPolled, Firmware.imuPolled]
    split_ifs
    · rfl
    · rfl
  rw [iterate, hpoll]
  rfl

/-- **A pass of the main loop is a transition of the automaton.**  The rest of the firmware
follows: the motors do what the transition tells them, the radio's package is latched, the
requests are served. -/
theorem iterate_refines (s : Firmware) (t : Tick) :
    ∃ f c, Transition t (s.packet t) (s.fsm.polled t) f c ∧
      iterate s t =
        { fsm := f
          esc := c.perform t (s.packet t) (s.escPolled t)
          imu := s.imuPolled t
          data := readData t.nrf s.data
          web := servePosts t.posts s.web } := by
  rw [iterate_eq_dispatch]
  obtain ⟨f, c, htr, hd⟩ := dispatch_refines t (s.packet t)
    ⟨s.fsm.polled t, s.escPolled t, s.imuPolled t, readData t.nrf s.data,
      servePosts t.posts s.web⟩
  exact ⟨f, c, htr, hd⟩

/-! ## Reading the refinement -/

theorem Fsm.polled_of_ok {t : Tick} (h : t.i2c = .ok) (f : Fsm) : f.polled t = f := by
  rw [polled, if_neg (by simp [h])]

theorem Fsm.polled_of_fail {t : Tick} (h : t.i2c ≠ .ok) (f : Fsm) :
    (f.polled t).currentState = .error := by
  rw [polled]
  split_ifs with hc
  · rfl
  · simpa [h] using hc

theorem Firmware.escPolled_of_ok {t : Tick} (h : t.i2c = .ok) (s : Firmware) :
    s.escPolled t = { s.esc with calls := [] } := by
  rw [escPolled, if_neg (by simp [h])]

@[simp] theorem iterate_data (s : Firmware) (t : Tick) :
    (iterate s t).data = readData t.nrf s.data := by
  obtain ⟨f, c, -, h⟩ := iterate_refines s t
  rw [h]

@[simp] theorem iterate_web (s : Firmware) (t : Tick) :
    (iterate s t).web = servePosts t.posts s.web := by
  obtain ⟨f, c, -, h⟩ := iterate_refines s t
  rw [h]

@[simp] theorem iterate_imu (s : Firmware) (t : Tick) : (iterate s t).imu = s.imuPolled t := by
  obtain ⟨f, c, -, h⟩ := iterate_refines s t
  rw [h]

/-- What a pass does to the automaton and to the motors. -/
theorem iterate_cases (s : Firmware) (t : Tick) :
    ∃ f c, Transition t (s.packet t) (s.fsm.polled t) f c ∧ (iterate s t).fsm = f ∧
      (iterate s t).esc = c.perform t (s.packet t) (s.escPolled t) := by
  obtain ⟨f, c, htr, h⟩ := iterate_refines s t
  rw [h]
  exact ⟨f, c, htr, rfl, rfl⟩

/-- What a pass does to the automaton when its IMU read succeeds. -/
theorem iterate_cases_of_ok (s : Firmware) {t : Tick} (h : t.i2c = .ok) :
    ∃ f c, Transition t (s.packet t) s.fsm f c ∧ (iterate s t).fsm = f ∧
      (iterate s t).esc = c.perform t (s.packet t) { s.esc with calls := [] } := by
  have hcases := iterate_cases s t
  rwa [Fsm.polled_of_ok h, Firmware.escPolled_of_ok h] at hcases

/-- No transition enters or leaves ERROR: only the IMU poll does. -/
theorem Transition.error_iff {t : Tick} {rc : DataPackage} {f f' : Fsm} {c : MotorCommand}
    (h : Transition t rc f f' c) : f'.currentState = .error ↔ f.currentState = .error := by
  cases h with
  | rest | confirmArming | stayArmed | fly | hold | descend | wait | fault => rfl
  | startArming h => rcases h with h | h <;> simp [h]
  | abortArming h | finishArming h | disarm h | takeOff h | loseSignal h | touchDown h
  | recover h | giveUp h | landed h => simp [h]

/-- A failed IMU read ends in ERROR, and so does every pass that starts there. -/
theorem iterate_error_iff (s : Firmware) (t : Tick) :
    (iterate s t).fsm.currentState = .error ↔
      t.i2c ≠ .ok ∨ s.fsm.currentState = .error := by
  obtain ⟨f, c, htr, hf, -⟩ := iterate_cases s t
  rw [hf, htr.error_iff]
  by_cases hi : t.i2c = .ok
  · simp [Fsm.polled_of_ok hi, hi]
  · simp [Fsm.polled_of_fail hi, hi]

/-- A pass that ends in ERROR is one of `state_error`: it commands 0 % and nothing else. -/
theorem iterate_esc_of_error {s : Firmware} {t : Tick}
    (h : (iterate s t).fsm.currentState = .error) :
    (iterate s t).esc = (motorsSetAll t.pwm 0 (s.escPolled t)).2 := by
  obtain ⟨f, c, htr, hf, hesc⟩ := iterate_cases s t
  rw [hf, htr.error_iff] at h
  cases htr with
  | fault => exact hesc
  | rest h' | startArming h' => simp [h] at h'
  | _ h' => simp [h] at h'

/-- A pass that does not end in ERROR read the IMU, and moved by a transition from the mode it
found. -/
theorem iterate_cases_of_ne_error {s : Firmware} {t : Tick}
    (h : (iterate s t).fsm.currentState ≠ .error) :
    t.i2c = .ok ∧ ∃ f c, Transition t (s.packet t) s.fsm f c ∧ (iterate s t).fsm = f ∧
      (iterate s t).esc = c.perform t (s.packet t) { s.esc with calls := [] } := by
  have hok : t.i2c = .ok := by
    by_contra hi
    exact h ((iterate_error_iff s t).mpr (Or.inl hi))
  exact ⟨hok, iterate_cases_of_ok s hok⟩

/-- The package of a pass is active through the web, or through the radio's latch. -/
theorem Firmware.packet_active_iff (s : Firmware) (t : Tick) :
    (s.packet t).droneActive = true ↔
      (droneWebserverGetRc t.tWeb (servePosts t.posts s.web)).droneActive = true ∨
        (readData t.nrf s.data).droneActive = true := by
  rw [packet, arbitrate]
  split_ifs with h
  · simp [h]
  · simp [h]

end DroneFirmware

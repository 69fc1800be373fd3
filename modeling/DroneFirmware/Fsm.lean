import DroneFirmware.Imu
import DroneFirmware.WebServer

/-!
# The state machine: `drone_fsm.c`

`drone_fsm_run` initialises the hardware and then loops for ever.  `boot` is the part
before the loop, `iterate` is one pass of its body, and a run is a fold of `iterate` over
what the environment does in each pass.

A `Tick` is that environment: what the drivers return, what the radio delivers, which
`POST /rc` requests are served, and what `k_uptime_get` reads at each of its call sites.
The HTTP thread and the loop share `wifi_rc` and `rc_last_ms` only, and only under the
mutex; so an interleaving of the two threads is the list of the requests served between
two readings of the package, and `posts` is that list.  `drone_webserver_start` is the last
init step: after a failed one there is no HTTP thread, and the requests that a `Tick` may
still name reach nothing but these two globals.

The deadline sleep at the end of the loop changes no state: when the next pass begins is for
`LoopTiming`.
-/

namespace DroneFirmware

/-! ## Constants -/

/-- `ARM_CONFIRM_MS`. -/
def armConfirmMs : ℤ := 500

/-- `FAILSAFE_TIMEOUT_MS`. -/
def failsafeTimeoutMs : ℤ := 2000

/-- `LANDING_STEP_MS`. -/
def landingStepMs : ℤ := 200

/-- `LANDING_STEP_PCT`. -/
def landingStepPct : UInt8 := 2

/-- `THROTTLE_FLY_THRESHOLD`. -/
def throttleFlyThreshold : ℤ := 50

/-- `FAILSAFE_HOLD_PCT`. -/
def failsafeHoldPct : UInt8 := 25

/-! ## State -/

/-- `drone_state_t`. -/
inductive DroneState where
  | init
  | idle
  | arming
  | armed
  | flying
  | failsafe
  | landing
  | error
  deriving DecidableEq

/-- The statics of `drone_fsm.c`. -/
structure Fsm where
  currentState : DroneState
  stateEnterMs : ℤ
  landingThrottle : UInt8
  lastLandingStepMs : ℤ

/-- The statics before `drone_fsm_run`. -/
def Fsm.reset : Fsm := ⟨.init, 0, 0, 0⟩

/-- The whole firmware: the state machine, and the modules it drives and reads. -/
structure Firmware where
  fsm : Fsm
  esc : Esc
  imu : Imu
  /-- The global `data` of the receiver. -/
  data : DataPackage
  web : Web

/-- What the environment does in one pass of the main loop.  The readings of `k_uptime_get`
are named after their call sites, in the order in which a pass takes them. -/
structure Tick where
  /-- `enter_state` after a failed IMU read. -/
  tStop : ℤ
  /-- `drone_webserver_get_rc`. -/
  tWeb : ℤ
  /-- The state handler's own reading: the tests against `state_enter_ms`, and `now` in
  `state_landing` and `motors_set_from_rc`. -/
  tNow : ℤ
  /-- `last_landing_step_ms` in `state_failsafe`. -/
  tStep : ℤ
  /-- `enter_state` called by the state handler. -/
  tEnter : ℤ
  /-- The result of the I2C read of `mpu9250_update`. -/
  i2c : DriverResult
  /-- What `read_data` finds. -/
  nrf : NrfReply
  /-- The requests served since the previous pass read the shared package, oldest first. -/
  posts : List Post
  /-- The results of the stop that follows a failed IMU read. -/
  pwmStop : PwmResults
  /-- The results of the `pwm_set` calls of the state handler. -/
  pwm : PwmResults

/-! ## Internal helpers -/

/-- `enter_state`, with its reading of `k_uptime_get`. -/
def enterState (next : DroneState) (now : ℤ) (s : Firmware) : Firmware :=
  { s with fsm := { s.fsm with currentState := next, stateEnterMs := now } }

/-- `motors_set_all` called by the state machine, which ignores what it returns. -/
def setAll (pwm : PwmResults) (percent : UInt8) (s : Firmware) : Firmware :=
  { s with esc := (motorsSetAll pwm percent s.esc).2 }

@[simp] theorem setAll_fsm (pwm : PwmResults) (percent : UInt8) (s : Firmware) :
    (setAll pwm percent s).fsm = s.fsm := rfl

/-- `arm_condition`. -/
def armCondition (rc : DataPackage) : Bool := rc.droneActive && rc.yLeft.toInt ≤ 0

/-! ## State handlers -/

/-- `state_idle`. -/
def stateIdle (t : Tick) (rc : DataPackage) (s : Firmware) : Firmware :=
  let s := setAll t.pwm 0 s
  if armCondition rc then enterState .arming t.tEnter s else s

/-- `state_arming`. -/
def stateArming (t : Tick) (rc : DataPackage) (s : Firmware) : Firmware :=
  let s := setAll t.pwm 0 s
  if !armCondition rc then enterState .idle t.tEnter s
  else if t.tNow - s.fsm.stateEnterMs ≥ armConfirmMs then enterState .armed t.tEnter s
  else s

/-- `state_armed`. -/
def stateArmed (t : Tick) (rc : DataPackage) (s : Firmware) : Firmware :=
  let s := setAll t.pwm 0 s
  if !rc.droneActive then enterState .idle t.tEnter s
  else if rc.yLeft.toInt > throttleFlyThreshold then enterState .flying t.tEnter s
  else s

/-- `state_flying`. -/
def stateFlying (t : Tick) (rc : DataPackage) (s : Firmware) : Firmware :=
  if !rc.droneActive then enterState .failsafe t.tEnter s
  else if rc.yLeft.toInt ≤ 0 then enterState .armed t.tEnter (setAll t.pwm 0 s)
  else { s with esc := motorsSetFromRc t.tNow t.pwm rc s.esc }

/-- `state_failsafe`. -/
def stateFailsafe (t : Tick) (rc : DataPackage) (s : Firmware) : Firmware :=
  if rc.droneActive then enterState .flying t.tEnter s
  else if t.tNow - s.fsm.stateEnterMs ≥ failsafeTimeoutMs then
    enterState .landing t.tEnter
      { s with fsm := { s.fsm with
          landingThrottle := failsafeHoldPct
          lastLandingStepMs := t.tStep } }
  else setAll t.pwm failsafeHoldPct s

/-- `state_landing`: the package is ignored. -/
def stateLanding (t : Tick) (_rc : DataPackage) (s : Firmware) : Firmware :=
  if s.fsm.landingThrottle = 0 then enterState .idle t.tEnter (setAll t.pwm 0 s)
  else if t.tNow - s.fsm.lastLandingStepMs ≥ landingStepMs then
    let throttle :=
      if s.fsm.landingThrottle > landingStepPct then s.fsm.landingThrottle - landingStepPct
      else 0
    let s := { s with fsm := { s.fsm with landingThrottle := throttle } }
    let s := setAll t.pwm throttle s
    { s with fsm := { s.fsm with lastLandingStepMs := t.tNow } }
  else s

/-- `state_error`. -/
def stateError (t : Tick) (_rc : DataPackage) (s : Firmware) : Firmware := setAll t.pwm 0 s

/-- The `switch` of the main loop. -/
def dispatch (t : Tick) (rc : DataPackage) (s : Firmware) : Firmware :=
  match s.fsm.currentState with
  | .init => stateIdle t rc s
  | .idle => stateIdle t rc s
  | .arming => stateArming t rc s
  | .armed => stateArmed t rc s
  | .flying => stateFlying t rc s
  | .failsafe => stateFailsafe t rc s
  | .landing => stateLanding t rc s
  | .error => stateError t rc s

/-! ## `drone_fsm_run` -/

/-- The logs of the driver calls start afresh with every pass. -/
def clearCalls (s : Firmware) : Firmware :=
  { s with esc := { s.esc with calls := [] }, imu := { s.imu with calls := [] } }

/-- The IMU poll: a failed read stops the motors and goes to ERROR, once. -/
def pollImu (t : Tick) (s : Firmware) : Firmware :=
  let r := mpu9250Update t.i2c s.imu
  let s := { s with imu := r.2 }
  if r.1 < 0 ∧ s.fsm.currentState ≠ .error then
    enterState .error t.tStop (setAll t.pwmStop 0 s)
  else s

/-- The package of the pass: the web package when it is active, else the radio's. -/
def arbitrate (t : Tick) (data : DataPackage) (web : Web) : DataPackage :=
  let wifiRc := droneWebserverGetRc t.tWeb web
  if wifiRc.droneActive then wifiRc else data

/-- One pass of the main loop. -/
def iterate (s : Firmware) (t : Tick) : Firmware :=
  let s := pollImu t (clearCalls s)
  let data := readData t.nrf s.data
  let web := servePosts t.posts s.web
  dispatch t (arbitrate t data web) { s with data, web }

/-- What the environment does while `drone_fsm_run` initialises. -/
structure BootEnv where
  /-- `device_is_ready` of each device. -/
  ready : Device → Bool
  /-- The results of the arming sequence. -/
  armPwm : PwmResults
  imu : ImuInitResults
  /-- The results of the stop that follows a failed IMU init. -/
  stopPwm : PwmResults
  /-- The reading of `enter_state`. -/
  tEnter : ℤ

/-- `drone_fsm_run` up to the loop. -/
def boot (env : BootEnv) : Firmware :=
  let r := motorEscInit env.ready env.armPwm .reset
  let s : Firmware := ⟨.reset, r.2, .reset, .zero, .reset⟩
  if r.1 < 0 then enterState .error env.tEnter s
  else
    let r := mpu9250DriverInit env.ready env.imu s.imu
    let s := { s with imu := r.2 }
    if r.1 < 0 then enterState .error env.tEnter (setAll env.stopPwm 0 s)
    else enterState .idle env.tEnter s

end DroneFirmware

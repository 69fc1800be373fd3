import DroneFirmware.Driver
import DroneFirmware.Receiver

/-!
# The motor controller: `drone_mc_controller.c`

Four ESCs on the channels of one PWM device.  The state `Esc` holds the module's
statics --- the handle `esc_pwm` and the three persistent locals of
`motors_set_from_rc` --- together with the hardware: the pulse in force on each
channel and the `pwm_set` calls made.

`pwm_set` may fail on any call; its outcome is an argument, one per channel,
because a sweep over the motors calls it at most once on each.

The two loops over the motors are read in closed form at the end of the file:
`motorsSetAll_esc` and `applyMix_eq`.
-/

namespace DroneFirmware

/-! ## Constants -/

/-- `NUM_MOTORS`. -/
abbrev numMotors : ℕ := 4

/-- `ESC_PERIOD_NS`: 20 ms. -/
def escPeriodNs : ℕ := 20000000

/-- `RC_MAX`. -/
def rcMax : ℤ := 1023

/-- `RC_CENTER`. -/
def rcCenter : ℤ := 512

/-- `MOTOR_THROTTLE_MAX`. -/
def motorThrottleMax : ℤ := 80

/-- `MOTOR_MIXING_MAX`. -/
def motorMixingMax : ℤ := 20

/-- `MOTOR_FRONT_LEFT`. -/
def motorFrontLeft : Fin numMotors := 0

/-- `MOTOR_FRONT_RIGHT`. -/
def motorFrontRight : Fin numMotors := 1

/-- `MOTOR_REAR_LEFT`. -/
def motorRearLeft : Fin numMotors := 2

/-- `MOTOR_REAR_RIGHT`. -/
def motorRearRight : Fin numMotors := 3

/-- The channel lookup table `motor_ch`: front left, front right, rear left, rear right. -/
def motorCh : Fin numMotors → Fin numMotors := ![0, 1, 2, 3]

@[simp] theorem motorCh_eq (i : Fin numMotors) : motorCh i = i := by
  fin_cases i <;> rfl

/-! ## State -/

/-- One `pwm_set` call: the handle it was made on, the channel, the period and the pulse. -/
structure PwmCall where
  dev : Option Device
  channel : Fin numMotors
  periodNs : ℕ
  pulseNs : ℕ
  deriving DecidableEq

/-- The motor controller and the four channels it drives. -/
structure Esc where
  /-- `esc_pwm`, null until `motor_esc_init`. -/
  escPwm : Option Device
  /-- `last_update_ms`: the time of the last update of the mixer. -/
  lastUpdateMs : ℤ
  /-- `throttle_smooth`: the ramped throttle. -/
  throttleSmooth : ℤ
  /-- `last_pct`: the percentage the mixer last applied to each motor. -/
  lastPct : Fin numMotors → UInt8
  /-- The pulse in force on each channel; `0` before the first `pwm_set`. -/
  pulseNs : Fin numMotors → ℕ
  /-- The `pwm_set` calls made, oldest first. -/
  calls : List PwmCall

/-- The module before `motor_esc_init`: all statics zero, no pulse on any channel. -/
def Esc.reset : Esc := ⟨none, 0, 0, fun _ => 0, fun _ => 0, []⟩

/-- The outcome of the `pwm_set` call on each channel. -/
abbrev PwmResults := Fin numMotors → DriverResult

/-! ## Low-level helpers -/

/-- `pwm_set`: on success the new pulse is in force, on failure the old one stays. -/
def pwmSet (res : DriverResult) (channel : Fin numMotors) (periodNs pulseNs : ℕ) (e : Esc) :
    ℤ × Esc :=
  (res.code,
    { e with
      pulseNs := if res = .ok then Function.update e.pulseNs channel pulseNs else e.pulseNs
      calls := e.calls ++ [⟨e.escPwm, channel, periodNs, pulseNs⟩] })

/-- `motor_set_pulse_us`: the pulse is clamped to [1000, 2000] µs. -/
def motorSetPulseUs (pwm : PwmResults) (motorIdx pulseUs : ℕ) (e : Esc) : ℤ × Esc :=
  if h : motorIdx < numMotors then
    let pulseUs := if pulseUs < 1000 then 1000 else pulseUs
    let pulseUs := if pulseUs > 2000 then 2000 else pulseUs
    let channel := motorCh ⟨motorIdx, h⟩
    pwmSet (pwm channel) channel escPeriodNs (pulseUs * 1000) e
  else
    (einval, e)

/-- `motor_set_throttle`: 0 % is 1000 µs, 100 % is 2000 µs. -/
def motorSetThrottle (pwm : PwmResults) (motorIdx : ℕ) (percent : UInt8) (e : Esc) : ℤ × Esc :=
  let percent := if percent > 100 then 100 else percent
  motorSetPulseUs pwm motorIdx (1000 + percent.toNat * 10) e

/-- `motors_set_all`: the same throttle on every motor; the return codes are OR-ed. -/
def motorsSetAll (pwm : PwmResults) (percent : UInt8) (e : Esc) : ℤ × Esc :=
  (List.finRange numMotors).foldl
    (fun (acc : ℤ × Esc) (i : Fin numMotors) =>
      let r := motorSetThrottle pwm i.val percent acc.2
      (acc.1.lor r.1, r.2))
    (0, e)

/-- The loop of `esc_arm_all`: 1000 µs on one motor after another, until one fails. -/
def escArmFrom (pwm : PwmResults) : List (Fin numMotors) → Esc → ℤ × Esc
  | [], e => (0, e)
  | i :: is, e =>
      let r := motorSetPulseUs pwm i 1000 e
      if r.1 ≠ 0 then r else escArmFrom pwm is r.2

/-- `esc_arm_all`. -/
def escArmAll (pwm : PwmResults) (e : Esc) : ℤ × Esc :=
  escArmFrom pwm (List.finRange numMotors) e

/-- `motor_esc_init`: bind the handle, test it, arm. -/
def motorEscInit (ready : Device → Bool) (pwm : PwmResults) (e : Esc) : ℤ × Esc :=
  let e := { e with escPwm := some .mcpwm0 }
  if !ready .mcpwm0 then (enodev, e) else escArmAll pwm e

/-! ## RC mixing -/

/-- `throttle_target`: `y_left` on the scale of 0 to `MOTOR_THROTTLE_MAX`. -/
def throttleTarget (rc : DataPackage) : ℤ :=
  (rc.yLeft.toInt * motorThrottleMax).tdiv rcMax

/-- The throttle ramp: at most 2 up and 5 down in one update. -/
def rampThrottle (throttleSmooth target : ℤ) : ℤ :=
  let diff := target - throttleSmooth
  let diff := if diff > 2 then 2 else diff
  let diff := if diff < -5 then -5 else diff
  throttleSmooth + diff

/-- One attitude axis: the offset from `RC_CENTER` on the scale of ±`MOTOR_MIXING_MAX`. -/
def axisMix (stick : Int16) : ℤ :=
  ((stick.toInt - rcCenter) * motorMixingMax).tdiv (rcMax.tdiv 2)

/-- The four sums `m[i]` of the X-frame mix. -/
def mix (throttleSmooth : ℤ) (rc : DataPackage) : Fin numMotors → ℤ :=
  let roll := axisMix rc.xRight
  let pitch := axisMix rc.yRight
  let yaw := axisMix rc.xLeft
  ![throttleSmooth + pitch + roll - yaw,
    throttleSmooth + pitch - roll + yaw,
    throttleSmooth - pitch + roll + yaw,
    throttleSmooth - pitch - roll - yaw]

/-- `(uint8_t)(m < 0 ? 0 : m > 100 ? 100 : m)`. -/
def clampPct (m : ℤ) : UInt8 :=
  UInt8.ofInt (if m < 0 then 0 else if m > 100 then 100 else m)

/-- One round of the apply loop: the cache is written first, the motor after it, and only
when the percentage differs from the cached one. -/
def applyMotor (pwm : PwmResults) (m : Fin numMotors → ℤ) (e : Esc) (i : Fin numMotors) : Esc :=
  let pct := clampPct (m i)
  if pct ≠ e.lastPct i then
    (motorSetThrottle pwm i pct { e with lastPct := Function.update e.lastPct i pct }).2
  else
    e

/-- The apply loop of `motors_set_from_rc`. -/
def applyMix (pwm : PwmResults) (m : Fin numMotors → ℤ) (e : Esc) : Esc :=
  (List.finRange numMotors).foldl (applyMotor pwm m) e

/-- `motors_set_from_rc`, with the reading `now` of `k_uptime_get`. -/
def motorsSetFromRc (now : ℤ) (pwm : PwmResults) (rc : DataPackage) (e : Esc) : Esc :=
  if !rc.droneActive then
    (motorsSetAll pwm 0
      { e with lastPct := fun _ => 0, throttleSmooth := 0, lastUpdateMs := 0 }).2
  else if now - e.lastUpdateMs < 20 then
    e
  else
    let throttleSmooth := rampThrottle e.throttleSmooth (throttleTarget rc)
    applyMix pwm (mix throttleSmooth rc) { e with lastUpdateMs := now, throttleSmooth }

/-! ## The loops in closed form -/

/-- The pulse that `motor_set_throttle` asks for, in nanoseconds. -/
def pulseOf (percent : UInt8) : ℕ := (1000 + min percent.toNat 100 * 10) * 1000

theorem motorSetPulseUs_fin (pwm : PwmResults) (i : Fin numMotors) {us : ℕ}
    (hlo : 1000 ≤ us) (hhi : us ≤ 2000) (e : Esc) :
    motorSetPulseUs pwm i us e = pwmSet (pwm i) i escPeriodNs (us * 1000) e := by
  have h1 : ¬ us < 1000 := by omega
  have h2 : ¬ us > 2000 := by omega
  simp only [motorSetPulseUs, i.isLt, dite_true, Fin.eta, motorCh_eq, if_neg h1, if_neg h2]

theorem motorSetThrottle_fin (pwm : PwmResults) (i : Fin numMotors) (percent : UInt8) (e : Esc) :
    motorSetThrottle pwm i percent e = pwmSet (pwm i) i escPeriodNs (pulseOf percent) e := by
  have hclamp : (if percent > 100 then (100 : UInt8) else percent).toNat
      = min percent.toNat 100 := by
    split_ifs with h
    · rw [gt_iff_lt, UInt8.lt_iff_toNat_lt] at h
      have h100 : (100 : UInt8).toNat = 100 := rfl
      omega
    · rw [gt_iff_lt, UInt8.lt_iff_toNat_lt] at h
      have h100 : (100 : UInt8).toNat = 100 := rfl
      omega
  simp only [motorSetThrottle, hclamp]
  rw [motorSetPulseUs_fin pwm i (by omega) (by omega), pulseOf]

/-- The calls of one sweep of `motors_set_all`. -/
def sweep (dev : Option Device) (percent : UInt8) : List PwmCall :=
  (List.finRange numMotors).map fun i => ⟨dev, i, escPeriodNs, pulseOf percent⟩

/-- The loop of `motors_set_all` over some of the motors. -/
theorem foldl_motorSetThrottle (pwm : PwmResults) (percent : UInt8) (l : List (Fin numMotors)) :
    ∀ (ret : ℤ) (e : Esc),
      (l.foldl
        (fun (acc : ℤ × Esc) (i : Fin numMotors) =>
          let r := motorSetThrottle pwm i.val percent acc.2
          (acc.1.lor r.1, r.2))
        (ret, e)).2 =
      { e with
        pulseNs := fun i => if i ∈ l ∧ pwm i = .ok then pulseOf percent else e.pulseNs i
        calls := e.calls ++ l.map fun i => ⟨e.escPwm, i, escPeriodNs, pulseOf percent⟩ } := by
  induction l with
  | nil => intro ret e; simp
  | cons j l ih =>
    intro ret e
    rw [List.foldl_cons]
    simp only [motorSetThrottle_fin] at ih ⊢
    rw [ih]
    simp only [pwmSet, Esc.mk.injEq, List.map_cons, List.append_assoc, List.cons_append,
      List.nil_append, and_true, true_and]
    ext i
    by_cases hij : i = j
    · subst hij
      by_cases hi : pwm i = .ok <;> simp [hi]
    · by_cases hj : pwm j = .ok <;> simp [hj, hij]

/-- **`motors_set_all` in closed form.**  Every channel whose `pwm_set` succeeds carries the
new pulse, one call is made on each, and no static of the mixer changes. -/
theorem motorsSetAll_esc (pwm : PwmResults) (percent : UInt8) (e : Esc) :
    (motorsSetAll pwm percent e).2 =
      { e with
        pulseNs := fun i => if pwm i = .ok then pulseOf percent else e.pulseNs i
        calls := e.calls ++ sweep e.escPwm percent } := by
  rw [motorsSetAll, foldl_motorSetThrottle]
  simp [sweep, List.mem_finRange]

/-- The apply loop over some of the motors, each named once. -/
theorem foldl_applyMotor (pwm : PwmResults) (m : Fin numMotors → ℤ) (l : List (Fin numMotors))
    (hl : l.Nodup) : ∀ e : Esc,
      l.foldl (applyMotor pwm m) e =
      { e with
        lastPct := fun i => if i ∈ l then clampPct (m i) else e.lastPct i
        pulseNs := fun i =>
          if i ∈ l ∧ clampPct (m i) ≠ e.lastPct i ∧ pwm i = .ok then pulseOf (clampPct (m i))
          else e.pulseNs i
        calls := e.calls ++ (l.filter fun i => clampPct (m i) ≠ e.lastPct i).map
          fun i => ⟨e.escPwm, i, escPeriodNs, pulseOf (clampPct (m i))⟩ } := by
  induction l with
  | nil => intro e; simp
  | cons j l ih =>
    intro e
    obtain ⟨hj, hl⟩ := List.nodup_cons.mp hl
    rw [List.foldl_cons, ih hl]
    -- later rounds do not look at motor `j`, so the cache they test is the one before the loop
    have hne : ∀ i ∈ l, i ≠ j := fun i hi hij => hj (hij ▸ hi)
    by_cases hc : clampPct (m j) = e.lastPct j
    · simp only [applyMotor, hc, ne_eq, not_true_eq_false, if_false, Esc.mk.injEq, true_and,
        List.mem_cons]
      refine ⟨funext fun i => ?_, funext fun i => ?_, ?_⟩
      · by_cases hij : i = j
        · subst hij
          simp [hj, hc]
        · simp [hij]
      · by_cases hij : i = j
        · subst hij
          simp [hj, hc]
        · simp [hij]
      · simp [hc]
    · simp only [applyMotor, motorSetThrottle_fin, pwmSet, ne_eq, hc, not_false_eq_true, if_true,
        Esc.mk.injEq, true_and, List.mem_cons]
      refine ⟨funext fun i => ?_, funext fun i => ?_, ?_⟩
      · by_cases hij : i = j
        · subst hij
          simp [hj]
        · simp [hij]
      · by_cases hij : i = j
        · subst hij
          by_cases hi : pwm i = .ok <;> simp [hj, hc, hi]
        · by_cases hi : pwm j = .ok <;> simp [hij, hi]
      · have hfilter : (l.filter fun i => !decide (clampPct (m i) =
            Function.update e.lastPct j (clampPct (m j)) i)) =
            l.filter fun i => !decide (clampPct (m i) = e.lastPct i) := by
          refine List.filter_congr fun i hi => ?_
          rw [Function.update_of_ne (hne i hi)]
        simp [hc, hfilter]

/-- **The apply loop in closed form.**  The cache always ends at the new percentages; a motor
is written when its cached percentage was different. -/
theorem applyMix_eq (pwm : PwmResults) (m : Fin numMotors → ℤ) (e : Esc) :
    applyMix pwm m e =
      { e with
        lastPct := fun i => clampPct (m i)
        pulseNs := fun i =>
          if clampPct (m i) ≠ e.lastPct i ∧ pwm i = .ok then pulseOf (clampPct (m i))
          else e.pulseNs i
        calls := e.calls ++
          ((List.finRange numMotors).filter fun i => clampPct (m i) ≠ e.lastPct i).map
            fun i => ⟨e.escPwm, i, escPeriodNs, pulseOf (clampPct (m i))⟩ } := by
  rw [applyMix, foldl_applyMotor pwm m _ (List.nodup_finRange _)]
  simp [List.mem_finRange]

/-! ## One call of `motors_set_from_rc` -/

/-- Under an inactive package the call clears the statics and stops the motors. -/
theorem motorsSetFromRc_of_inactive {rc : DataPackage} (hrc : rc.droneActive = false) (now : ℤ)
    (pwm : PwmResults) (e : Esc) : motorsSetFromRc now pwm rc e = { e with
      lastUpdateMs := 0
      throttleSmooth := 0
      lastPct := fun _ => 0
      pulseNs := fun i => if pwm i = .ok then pulseOf 0 else e.pulseNs i
      calls := e.calls ++ sweep e.escPwm 0 } := by
  rw [motorsSetFromRc, if_pos (by simp [hrc]), motorsSetAll_esc]

/-- A rate-limited call does nothing. -/
theorem motorsSetFromRc_of_limited {rc : DataPackage} (hrc : rc.droneActive = true) {now : ℤ}
    {e : Esc} (hlim : now - e.lastUpdateMs < 20) (pwm : PwmResults) :
    motorsSetFromRc now pwm rc e = e := by
  rw [motorsSetFromRc, if_neg (by simp [hrc]), if_pos hlim]

/-- Any other call moves the ramp and runs the apply loop. -/
theorem motorsSetFromRc_of_mixes {rc : DataPackage} (hrc : rc.droneActive = true) {now : ℤ}
    {e : Esc} (hlim : 20 ≤ now - e.lastUpdateMs) (pwm : PwmResults) :
    motorsSetFromRc now pwm rc e =
      applyMix pwm (mix (rampThrottle e.throttleSmooth (throttleTarget rc)) rc)
        { e with
          lastUpdateMs := now
          throttleSmooth := rampThrottle e.throttleSmooth (throttleTarget rc) } := by
  rw [motorsSetFromRc, if_neg (by simp [hrc]), if_neg (by omega)]

/-- **The two ways a call under an active package can go.** -/
theorem motorsSetFromRc_cases {rc : DataPackage} (hrc : rc.droneActive = true) (now : ℤ)
    (pwm : PwmResults) (e : Esc) : motorsSetFromRc now pwm rc e = e ∨
      motorsSetFromRc now pwm rc e =
        applyMix pwm (mix (rampThrottle e.throttleSmooth (throttleTarget rc)) rc)
          { e with
            lastUpdateMs := now
            throttleSmooth := rampThrottle e.throttleSmooth (throttleTarget rc) } := by
  rcases lt_or_ge (now - e.lastUpdateMs) 20 with hlim | hlim
  · exact Or.inl (motorsSetFromRc_of_limited hrc hlim pwm)
  · exact Or.inr (motorsSetFromRc_of_mixes hrc hlim pwm)

/-! ## The arming sequence -/

/-- One round of the arming loop: 1000 µs on motor `j`, then the others if it went through. -/
theorem escArmFrom_cons (pwm : PwmResults) (j : Fin numMotors) (l : List (Fin numMotors))
    (e : Esc) : escArmFrom pwm (j :: l) e =
      let r := pwmSet (pwm j) j escPeriodNs (pulseOf 0) e
      if pwm j = .ok then escArmFrom pwm l r.2 else r := by
  have hcall : motorSetPulseUs pwm j 1000 e = pwmSet (pwm j) j escPeriodNs (pulseOf 0) e :=
    motorSetPulseUs_fin pwm j (by omega) (by omega) e
  have hret : (pwmSet (pwm j) j escPeriodNs (pulseOf 0) e).1 ≠ 0 ↔ pwm j ≠ .ok :=
    DriverResult.code_ne_zero_iff (pwm j)
  rw [escArmFrom, hcall]
  by_cases hj : pwm j = .ok
  · simp only [if_neg (mt hret.mp (not_not_intro hj)), if_pos hj]
  · simp only [if_pos (hret.mpr hj), if_neg hj]

/-- The arming loop stops after `k` of the motors: those are the ones it called. -/
theorem escArmFrom_esc (pwm : PwmResults) (l : List (Fin numMotors)) :
    ∀ e : Esc, ∃ k, (escArmFrom pwm l e).2 =
      { e with
        pulseNs := fun i => if i ∈ l.take k ∧ pwm i = .ok then pulseOf 0 else e.pulseNs i
        calls := e.calls ++ (l.take k).map fun i => ⟨e.escPwm, i, escPeriodNs, pulseOf 0⟩ } := by
  induction l with
  | nil => exact fun e => ⟨0, by simp [escArmFrom]⟩
  | cons j l ih =>
    intro e
    by_cases hj : pwm j = .ok
    · obtain ⟨k, hk⟩ := ih (pwmSet (pwm j) j escPeriodNs (pulseOf 0) e).2
      refine ⟨k + 1, ?_⟩
      rw [escArmFrom_cons]
      simp only [if_pos hj, hk]
      simp only [pwmSet, hj, if_true, List.take_succ_cons, List.map_cons, List.mem_cons,
        List.append_assoc, List.cons_append, List.nil_append, Esc.mk.injEq, and_true, true_and]
      ext i
      by_cases hij : i = j
      · subst hij
        simp [hj]
      · simp [hij]
    · refine ⟨1, ?_⟩
      rw [escArmFrom_cons]
      simp only [if_neg hj, pwmSet, List.take_succ_cons, List.take_zero, List.map_cons,
        List.map_nil, List.mem_cons, List.not_mem_nil, or_false, Esc.mk.injEq, and_true, true_and]
      ext i
      by_cases hij : i = j
      · subst hij
        simp [hj]
      · simp [hij]

/-- With every `pwm_set` succeeding, the arming loop writes 1000 µs everywhere. -/
theorem escArmFrom_of_ok {pwm : PwmResults} (hpwm : ∀ i, pwm i = .ok)
    (l : List (Fin numMotors)) : ∀ e : Esc, escArmFrom pwm l e =
      (0, { e with
        pulseNs := fun i => if i ∈ l then pulseOf 0 else e.pulseNs i
        calls := e.calls ++ l.map fun i => ⟨e.escPwm, i, escPeriodNs, pulseOf 0⟩ }) := by
  induction l with
  | nil => intro e; simp [escArmFrom]
  | cons j l ih =>
    intro e
    rw [escArmFrom_cons]
    simp only [if_pos (hpwm j), ih]
    simp only [pwmSet, hpwm, if_true, List.map_cons, List.mem_cons, List.append_assoc,
      List.cons_append, List.nil_append, Prod.mk.injEq, Esc.mk.injEq, and_true, true_and]
    ext i
    by_cases hij : i = j
    · subst hij
      simp
    · simp [hij]

/-- The arming loop fails exactly when one of its `pwm_set` calls does. -/
theorem escArmFrom_neg_iff (pwm : PwmResults) (l : List (Fin numMotors)) :
    ∀ e : Esc, (escArmFrom pwm l e).1 < 0 ↔ ∃ i ∈ l, pwm i ≠ .ok := by
  induction l with
  | nil => intro e; simp [escArmFrom]
  | cons j l ih =>
    intro e
    rw [escArmFrom_cons]
    by_cases hj : pwm j = .ok
    · simp only [if_pos hj, ih]
      simp [hj]
    · simp only [if_neg hj]
      simp [pwmSet, hj]

/-- **`motor_esc_init` succeeds** exactly on a ready device whose arming writes all succeed. -/
theorem motorEscInit_neg_iff (ready : Device → Bool) (pwm : PwmResults) (e : Esc) :
    (motorEscInit ready pwm e).1 < 0 ↔ ready .mcpwm0 = false ∨ ∃ i, pwm i ≠ .ok := by
  by_cases hr : ready .mcpwm0 = true
  · simp only [motorEscInit, escArmAll, hr, Bool.not_true, Bool.false_eq_true, if_false,
      escArmFrom_neg_iff, List.mem_finRange, true_and, reduceCtorEq, false_or]
  · simp [motorEscInit, hr, enodev]

/-- After a successful `motor_esc_init` every motor is at 1000 µs. -/
theorem motorEscInit_of_ok {ready : Device → Bool} {pwm : PwmResults}
    (hr : ready .mcpwm0 = true) (hpwm : ∀ i, pwm i = .ok) (e : Esc) :
    motorEscInit ready pwm e =
      (0, { e with
        escPwm := some .mcpwm0
        pulseNs := fun _ => pulseOf 0
        calls := e.calls ++ sweep (some .mcpwm0) 0 }) := by
  simp [motorEscInit, hr, escArmAll, escArmFrom_of_ok hpwm, List.mem_finRange, sweep]

/-- Whatever its outcome, `motor_esc_init` binds the handle, leaves the statics of the mixer
alone and puts no pulse on a channel but 1000 µs; it calls `pwm_set` on a ready device only. -/
theorem motorEscInit_esc (ready : Device → Bool) (pwm : PwmResults) (e : Esc) :
    ∃ k, (motorEscInit ready pwm e).2 =
      { e with
        escPwm := some .mcpwm0
        pulseNs := fun i => if i ∈ (List.finRange numMotors).take k ∧ pwm i = .ok then pulseOf 0
          else e.pulseNs i
        calls := e.calls ++ ((List.finRange numMotors).take k).map
          fun i => ⟨some .mcpwm0, i, escPeriodNs, pulseOf 0⟩ } ∧
      (ready .mcpwm0 = false → k = 0) := by
  by_cases hr : ready .mcpwm0 = true
  · obtain ⟨k, hk⟩ := escArmFrom_esc pwm (List.finRange numMotors)
      { e with escPwm := some .mcpwm0 }
    refine ⟨k, ?_, by simp [hr]⟩
    simp only [motorEscInit, escArmAll, hr, Bool.not_true, Bool.false_eq_true, if_false, hk]
  · exact ⟨0, by simp [motorEscInit, hr], fun _ => rfl⟩

end DroneFirmware

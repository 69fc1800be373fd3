import DroneFirmware.FlightModes
import DroneFirmware.MotorMixing

/-!
# After the init steps

`boot` has three ways to end: the ESC init fails, the IMU init fails, or the state
machine enters IDLE.  Each is read off here once, with the state it leaves; the rest of
the development starts its runs from these.

The file also fixes the vocabulary of the runs: `reached` is the state after some passes,
`PwmOk` says that the `pwm_set` calls of a pass succeed, and `iterate_esc_invariant` is
the rule by which a property of the motor controller is carried through a run.
-/

namespace DroneFirmware

open Reactive

/-! ## The init steps -/

/-- `motor_esc_init` succeeds. -/
def BootEnv.EscOk (env : BootEnv) : Prop :=
  env.ready .mcpwm0 = true ∧ ∀ i, env.armPwm i = .ok

/-- `mpu9250_driver_init` succeeds. -/
def BootEnv.ImuOk (env : BootEnv) : Prop :=
  env.ready .i2c0 = true ∧ ∀ k, env.imu.regs k = .ok

instance (env : BootEnv) : Decidable env.EscOk := inferInstanceAs (Decidable (_ ∧ _))

instance (env : BootEnv) : Decidable env.ImuOk := inferInstanceAs (Decidable (_ ∧ _))

theorem BootEnv.escInit_neg_iff (env : BootEnv) (e : Esc) :
    (motorEscInit env.ready env.armPwm e).1 < 0 ↔ ¬ env.EscOk := by
  rw [motorEscInit_neg_iff, EscOk, not_and_or, not_forall, Bool.not_eq_true]

theorem BootEnv.imuInit_neg_iff (env : BootEnv) (m : Imu) :
    (mpu9250DriverInit env.ready env.imu m).1 < 0 ↔ ¬ env.ImuOk := by
  rw [mpu9250DriverInit_neg_iff, ImuOk, not_and_or, not_forall, Bool.not_eq_true]

/-- The motor controller after a successful `motor_esc_init`. -/
def Esc.ready : Esc :=
  { Esc.reset with
    escPwm := some .mcpwm0
    pulseNs := fun _ => pulseOf 0
    calls := sweep (some .mcpwm0) 0 }

theorem BootEnv.escInit_of_ok {env : BootEnv} (h : env.EscOk) :
    motorEscInit env.ready env.armPwm .reset = (0, Esc.ready) := by
  rw [motorEscInit_of_ok h.1 h.2]
  rfl

/-- The ESC init fails: ERROR, with the IMU module untouched. -/
theorem boot_of_esc_fail {env : BootEnv} (h : ¬ env.EscOk) :
    boot env = ⟨Fsm.reset.enter .error env.tEnter, (motorEscInit env.ready env.armPwm .reset).2,
      .reset, .zero, .reset⟩ := by
  rw [boot, if_pos ((env.escInit_neg_iff _).mpr h)]
  rfl

/-- The IMU init fails: the motors are stopped, ERROR. -/
theorem boot_of_imu_fail {env : BootEnv} (h : env.EscOk) (h' : ¬ env.ImuOk) :
    boot env = ⟨Fsm.reset.enter .error env.tEnter, (motorsSetAll env.stopPwm 0 .ready).2,
      (mpu9250DriverInit env.ready env.imu .reset).2, .zero, .reset⟩ := by
  simp only [boot, BootEnv.escInit_of_ok h, lt_irrefl, if_false]
  rw [if_pos ((env.imuInit_neg_iff _).mpr h')]
  rfl

/-- Every init step succeeds: IDLE. -/
theorem boot_of_ok {env : BootEnv} (h : env.EscOk) (h' : env.ImuOk) :
    boot env = ⟨Fsm.reset.enter .idle env.tEnter, .ready,
      (mpu9250DriverInit env.ready env.imu .reset).2, .zero, .reset⟩ := by
  simp only [boot, BootEnv.escInit_of_ok h, lt_irrefl, if_false]
  rw [if_neg (mt (env.imuInit_neg_iff _).mp (not_not_intro h'))]
  rfl

/-- The three ways to start the loop. -/
theorem boot_cases {P : Firmware → Prop} (env : BootEnv)
    (hesc : ¬ env.EscOk → P ⟨Fsm.reset.enter .error env.tEnter,
      (motorEscInit env.ready env.armPwm .reset).2, .reset, .zero, .reset⟩)
    (himu : env.EscOk → ¬ env.ImuOk → P ⟨Fsm.reset.enter .error env.tEnter,
      (motorsSetAll env.stopPwm 0 .ready).2, (mpu9250DriverInit env.ready env.imu .reset).2, .zero,
      .reset⟩)
    (hok : env.EscOk → env.ImuOk → P ⟨Fsm.reset.enter .idle env.tEnter, .ready,
      (mpu9250DriverInit env.ready env.imu .reset).2, .zero, .reset⟩) : P (boot env) := by
  by_cases h : env.EscOk
  · by_cases h' : env.ImuOk
    · rw [boot_of_ok h h']
      exact hok h h'
    · rw [boot_of_imu_fail h h']
      exact himu h h'
  · rw [boot_of_esc_fail h]
    exact hesc h

/-- **Where the loop starts.**  In IDLE when every init step succeeded, in ERROR otherwise. -/
theorem boot_currentState (env : BootEnv) :
    (boot env).fsm.currentState = if env.EscOk ∧ env.ImuOk then .idle else .error := by
  refine boot_cases (P := fun s => s.fsm.currentState = _) env (fun h => ?_) (fun _ h' => ?_)
    fun h h' => ?_
  · rw [if_neg fun hc => h hc.1]
    rfl
  · rw [if_neg fun hc => h' hc.2]
    rfl
  · rw [if_pos ⟨h, h'⟩]
    rfl

theorem boot_currentState_ne (env : BootEnv) {q : DroneState} (hidle : q ≠ .idle)
    (herror : q ≠ .error) : (boot env).fsm.currentState ≠ q := by
  rw [boot_currentState]
  split_ifs
  · exact hidle.symm
  · exact herror.symm

theorem boot_data (env : BootEnv) : (boot env).data = .zero :=
  boot_cases (P := fun s => s.data = .zero) env (fun _ => rfl) (fun _ _ => rfl) fun _ _ => rfl

theorem boot_web (env : BootEnv) : (boot env).web = .reset :=
  boot_cases (P := fun s => s.web = .reset) env (fun _ => rfl) (fun _ _ => rfl) fun _ _ => rfl

/-- The statics of the mixer are zero after the init steps, whatever their outcome. -/
theorem boot_mixer (env : BootEnv) :
    (boot env).esc.lastUpdateMs = 0 ∧ (boot env).esc.throttleSmooth = 0 ∧
      (boot env).esc.lastPct = fun _ => 0 := by
  refine boot_cases (P := fun s => s.esc.lastUpdateMs = 0 ∧ s.esc.throttleSmooth = 0 ∧
    s.esc.lastPct = fun _ => 0) env (fun _ => ?_) (fun _ _ => ?_) fun _ _ => ⟨rfl, rfl, rfl⟩
  · obtain ⟨k, hk, -⟩ := motorEscInit_esc env.ready env.armPwm .reset
    rw [hk]
    exact ⟨rfl, rfl, rfl⟩
  · rw [motorsSetAll_esc]
    exact ⟨rfl, rfl, rfl⟩

/-- No motor turns after the init steps: a channel has no pulse yet, or 1000 µs. -/
theorem boot_pulseNs (env : BootEnv) (i : Fin numMotors) :
    (boot env).esc.pulseNs i = 0 ∨ (boot env).esc.pulseNs i = pulseOf 0 := by
  refine boot_cases (P := fun s => s.esc.pulseNs i = 0 ∨ s.esc.pulseNs i = pulseOf 0) env
    (fun _ => ?_) (fun _ _ => ?_) fun _ _ => Or.inr rfl
  · obtain ⟨k, hk, -⟩ := motorEscInit_esc env.ready env.armPwm .reset
    rw [hk]
    show (if _ then _ else _) = _ ∨ (if _ then _ else _) = _
    split_ifs
    · exact Or.inr rfl
    · exact Or.inl rfl
  · rw [motorsSetAll_esc]
    refine Or.inr ?_
    show (if _ then _ else _) = _
    split_ifs <;> rfl

/-! ## Runs -/

/-- The state after the init steps and some passes of the main loop. -/
def reached (env : BootEnv) (ticks : List Tick) : Firmware := run iterate (boot env) ticks

@[simp] theorem reached_nil (env : BootEnv) : reached env [] = boot env := rfl

@[simp] theorem reached_concat (env : BootEnv) (ticks : List Tick) (t : Tick) :
    reached env (ticks ++ [t]) = iterate (reached env ticks) t := by
  rw [reached, run_append]
  rfl

/-- Every `pwm_set` call of the pass succeeds. -/
def Tick.PwmOk (t : Tick) : Prop := (∀ i, t.pwm i = .ok) ∧ ∀ i, t.pwmStop i = .ok

instance (t : Tick) : Decidable t.PwmOk := inferInstanceAs (Decidable (_ ∧ _))

/-- A pass at uptime `now` in which no driver call fails and no request is served. -/
def Tick.calm (now : ℤ) (nrf : NrfReply) : Tick :=
  ⟨now, now, now, now, now, .ok, nrf, [], fun _ => .ok, fun _ => .ok⟩

/-- Init steps that all succeed, five seconds after power-up. -/
def BootEnv.calm : BootEnv :=
  ⟨fun _ => true, fun _ => .ok, ⟨fun _ => .ok, fun _ => .ok, .ok⟩, fun _ => .ok, 5000⟩

/-- **The run rule for the motor controller.**  A property of `Esc` that survives the three
things a pass can do to it --- start a fresh log, sweep, mix --- holds throughout a run. -/
theorem iterate_esc_invariant {J : Esc → Prop} (s : Firmware) (t : Tick)
    (hclear : ∀ e, J e → J { e with calls := [] })
    (hall : ∀ pwm percent e, J e → J (motorsSetAll pwm percent e).2)
    (hmix : ∀ e, (s.packet t).droneActive = true → 0 < (s.packet t).yLeft.toInt → J e →
      J (motorsSetFromRc t.tNow t.pwm (s.packet t) e))
    (h : J s.esc) : J (iterate s t).esc := by
  have hpolled : J (s.escPolled t) := by
    rw [Firmware.escPolled]
    split_ifs
    · exact hall _ _ _ (hclear _ h)
    · exact hclear _ h
  obtain ⟨f, c, htr, -, hesc⟩ := iterate_cases s t
  rw [hesc]
  cases c with
  | keep => exact hpolled
  | all percent => exact hall _ _ _ hpolled
  | mix =>
    cases htr with
    | fly _ hrc hy => exact hmix _ hrc hy hpolled

end DroneFirmware

import DroneFirmware.Arming

/-!
# Device handles after a failed init step

A failed init step of `drone_fsm_run` jumps into the main loop, past the init steps that
follow it.  The loop then polls every device all the same: `mpu9250_update` reads through
`i2c_dev`, which the ESC step's failure path has left null.

* `DriverCallsUsable`: every driver call of a pass is on a handle that is assigned and ready.
* `boot_calls_usable`: the init steps themselves test a device before they use it.
* `device_binding_iff`: the loop uses only usable handles exactly when the ESC init succeeded
  and the I2C device is ready --- a failed register write does no harm.
-/

namespace DroneFirmware

open Reactive

/-! ## The calls of a pass -/

/-- Every driver call in the logs is on a handle that is assigned and ready. -/
def DriverCallsUsable (ready : Device → Bool) (s : Firmware) : Prop :=
  (∀ c ∈ s.esc.calls, Usable ready c.dev) ∧ ∀ c ∈ s.imu.calls, Usable ready c.dev

instance (ready : Device → Bool) (s : Firmware) : Decidable (DriverCallsUsable ready s) :=
  inferInstanceAs (Decidable (_ ∧ _))

/-- The motor controller is bound to `mcpwm0` and calls `pwm_set` on no other handle. -/
def Esc.Bound (e : Esc) : Prop :=
  e.escPwm = some .mcpwm0 ∧ ∀ c ∈ e.calls, c.dev = some .mcpwm0

theorem Esc.Bound.motorsSetAll {e : Esc} (h : e.Bound) (pwm : PwmResults) (percent : UInt8) :
    (motorsSetAll pwm percent e).2.Bound := by
  rw [motorsSetAll_esc]
  refine ⟨h.1, fun c hc => ?_⟩
  rcases List.mem_append.mp hc with hc | hc
  · exact h.2 c hc
  · rw [sweep, List.mem_map] at hc
    obtain ⟨i, -, rfl⟩ := hc
    exact h.1

theorem Esc.Bound.applyMix {e : Esc} (h : e.Bound) (pwm : PwmResults)
    (m : Fin numMotors → ℤ) : (applyMix pwm m e).Bound := by
  rw [applyMix_eq]
  refine ⟨h.1, fun c hc => ?_⟩
  rcases List.mem_append.mp hc with hc | hc
  · exact h.2 c hc
  · rw [List.mem_map] at hc
    obtain ⟨i, -, rfl⟩ := hc
    exact h.1

theorem bound_iterate {s : Firmware} (h : s.esc.Bound) (t : Tick) : (iterate s t).esc.Bound := by
  refine iterate_esc_invariant s t (fun e he => ⟨he.1, by simp⟩)
    (fun pwm p e he => he.motorsSetAll pwm p) (fun e hrc _ he => ?_) h
  rcases motorsSetFromRc_cases hrc t.tNow t.pwm e with heq | heq
  · rw [heq]
    exact he
  · have hramp : Esc.Bound { e with
        lastUpdateMs := t.tNow
        throttleSmooth := rampThrottle e.throttleSmooth (throttleTarget (s.packet t)) } := he
    rw [heq]
    exact hramp.applyMix t.pwm _

/-- A pass reads the IMU once, through the handle as it is. -/
theorem iterate_imu_calls (s : Firmware) (t : Tick) :
    (iterate s t).imu = ⟨s.imu.i2cDev, [.writeRead s.imu.i2cDev 0x3B 14]⟩ := by
  rw [iterate_imu, Firmware.imuPolled, mpu9250Update_snd]
  rfl

theorem reached_i2cDev (env : BootEnv) (ticks : List Tick) :
    (reached env ticks).imu.i2cDev = (boot env).imu.i2cDev :=
  run_invariant (fun s : Firmware => s.imu.i2cDev = (boot env).imu.i2cDev)
    (fun _ _ h => by rw [iterate_imu_calls]; exact h) rfl ticks

/-! ## The init steps -/

theorem motorEscInit_bound (ready : Device → Bool) (pwm : PwmResults) :
    (motorEscInit ready pwm .reset).2.Bound := by
  obtain ⟨k, hk, -⟩ := motorEscInit_esc ready pwm .reset
  rw [hk]
  refine ⟨rfl, fun c hc => ?_⟩
  obtain ⟨i, -, rfl⟩ := List.mem_map.mp hc
  rfl

theorem ready_bound : Esc.ready.Bound := by
  refine ⟨rfl, fun c hc => ?_⟩
  obtain ⟨i, -, rfl⟩ := List.mem_map.mp hc
  rfl

theorem bound_boot (env : BootEnv) : (boot env).esc.Bound :=
  boot_cases (P := fun s => s.esc.Bound) env (fun _ => motorEscInit_bound env.ready env.armPwm)
    (fun _ _ => ready_bound.motorsSetAll env.stopPwm 0) fun _ _ => ready_bound

theorem bound_reached (env : BootEnv) (ticks : List Tick) : (reached env ticks).esc.Bound :=
  run_invariant (fun s : Firmware => s.esc.Bound) (fun _ t h => bound_iterate h t)
    (bound_boot env) ticks

/-- The IMU's handle after the init steps: null when the ESC step has failed. -/
theorem boot_i2cDev (env : BootEnv) :
    (boot env).imu.i2cDev = if env.EscOk then some .i2c0 else none := by
  have hbind := (mpu9250DriverInit_extends env.ready env.imu .reset).1
  refine boot_cases (P := fun s => s.imu.i2cDev = _) env (fun h => ?_) (fun h _ => ?_) fun h _ => ?_
  · rw [if_neg h]
    rfl
  · rw [if_pos h]
    exact hbind
  · rw [if_pos h]
    exact hbind

/-- The transfers of `mpu9250_driver_init` are on a ready bus. -/
theorem imuInit_calls_usable (ready : Device → Bool) (res : ImuInitResults) :
    ∀ c ∈ (mpu9250DriverInit ready res .reset).2.calls, Usable ready c.dev := by
  intro c hc
  cases hr : ready .i2c0 with
  | false =>
    rw [mpu9250DriverInit_of_not_ready hr] at hc
    exact absurd hc (by simp [Imu.reset])
  | true =>
    obtain ⟨-, new, hcalls, hdev⟩ := mpu9250DriverInit_extends ready res .reset
    rw [hcalls] at hc
    rw [hdev c (by simpa [Imu.reset] using hc), usable_some]
    exact hr

/-- **The init steps use only usable handles**, whatever fails. -/
theorem boot_calls_usable (env : BootEnv) : DriverCallsUsable env.ready (boot env) := by
  have himu := imuInit_calls_usable env.ready env.imu
  refine ⟨fun c hc => ?_, boot_cases (P := fun s => ∀ c ∈ s.imu.calls, Usable env.ready c.dev) env
    (fun _ => by simp [Imu.reset]) (fun _ _ => himu) fun _ _ => himu⟩
  rw [(bound_boot env).2 c hc, usable_some]
  -- an unready PWM device ends the ESC init before its first call
  by_contra hr
  obtain ⟨k, hk, hk0⟩ := motorEscInit_esc env.ready env.armPwm .reset
  rw [boot_of_esc_fail fun h => hr h.1, hk, hk0 (by simpa using hr)] at hc
  exact absurd hc (by simp [Esc.reset])

/-! ## The loop -/

/-- The init steps and every pass of the run make driver calls on usable handles only. -/
def BindsDevices (env : BootEnv) (ticks : List Tick) : Prop :=
  DriverCallsUsable env.ready (boot env) ∧
    Throughout (fun history t => DriverCallsUsable env.ready (reached env (history ++ [t]))) ticks

/-- The law that init failures never lead to the use of an unbound or unready device. -/
def DevicesBound : Prop := ∀ (env : BootEnv) (ticks : List Tick), BindsDevices env ticks

/-- **Usable handles.**  Once the loop has made a pass, every driver call so far was on a usable
handle if and only if the ESC init succeeded and the I2C device is ready. -/
theorem device_binding_iff (env : BootEnv) (t : Tick) (ticks : List Tick) :
    BindsDevices env (t :: ticks) ↔ env.EscOk ∧ env.ready .i2c0 = true := by
  constructor
  · rintro ⟨-, h⟩
    have hfirst := (h [] t ticks rfl).2
    rw [List.nil_append] at hfirst
    have hread := hfirst (.writeRead (boot env).imu.i2cDev 0x3B 14) (by
      show _ ∈ (iterate (boot env) t).imu.calls
      rw [iterate_imu_calls]
      exact List.mem_singleton_self _)
    rw [I2cCall.dev, boot_i2cDev] at hread
    split_ifs at hread with hesc
    · exact ⟨hesc, (usable_some _ _).mp hread⟩
    · exact absurd hread (not_usable_none _)
  · rintro ⟨hesc, hi2c⟩
    refine ⟨boot_calls_usable env, ?_⟩
    rintro history t' post -
    refine ⟨fun c hc => ?_, fun c hc => ?_⟩
    · rw [(bound_reached env _).2 c hc, usable_some]
      exact hesc.1
    · rw [reached_concat, iterate_imu_calls, List.mem_singleton] at hc
      rw [hc, I2cCall.dev, reached_i2cDev, boot_i2cDev, if_pos hesc, usable_some]
      exact hi2c

/-- **The IMU is read through a null handle.**  The PWM device is not ready, so the IMU init is
skipped; the first pass of the loop reads the IMU. -/
theorem not_devicesBound : ¬ DevicesBound := by
  intro h
  have hrun := (h { BootEnv.calm with ready := fun d => d = .i2c0 } [.calm 5004 .silent]).2
  have hread := (hrun [] _ [] rfl).2 (.writeRead none 0x3B 14) (by decide +kernel)
  exact absurd hread (not_usable_none _)

end DroneFirmware

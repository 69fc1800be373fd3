import DroneFirmware.Imu
import DroneFirmware.Reactive.Run
import DroneFirmware.Signal.Tracking

/-!
# The numbers of the IMU: `drone_mp9250.c`

`Imu` models the transfers of the module.  Here are the values: the samples that `read_raw`
decodes, the gyro calibration, the moving average on the accelerometer and the complementary
filter, in exact rational arithmetic.

The trigonometry of the filter is a parameter: `Tilt` is any pair of functions in the place of
the two calls of `atan2f`, with their results in degrees and in their ranges.

* `Mpu`: the module's globals on top of the bus.
* `Mpu.driverInit`, `Mpu.update`: `mpu9250_driver_init` and `mpu9250_update`.
* `Mpu.driverInit_bus`, `Mpu.update_bus`: on the bus they are the functions of `Imu`.
-/

namespace DroneFirmware

/-! ## Samples -/

/-- The axes of the sensor. -/
inductive SensorAxis where
  | x
  | y
  | z
  deriving DecidableEq

/-- One I2C read of the fourteen data bytes: its result and, if it succeeds, the bytes. -/
structure ImuRead where
  res : DriverResult
  raw : ℕ → UInt8

/-- `(int16_t)((hi << 8) | lo)`. -/
def int16OfHiLo (hi lo : UInt8) : Int16 := (hi.toUInt16 <<< 8 ||| lo.toUInt16).toInt16

/-- `ax`, `ay` and `az` of `read_raw`. -/
def ImuRead.accel (r : ImuRead) : SensorAxis → Int16
  | .x => int16OfHiLo (r.raw 0) (r.raw 1)
  | .y => int16OfHiLo (r.raw 2) (r.raw 3)
  | .z => int16OfHiLo (r.raw 4) (r.raw 5)

/-- `gx`, `gy` and `gz` of `read_raw`; the bytes 6 and 7 are the temperature. -/
def ImuRead.gyro (r : ImuRead) : SensorAxis → Int16
  | .x => int16OfHiLo (r.raw 8) (r.raw 9)
  | .y => int16OfHiLo (r.raw 10) (r.raw 11)
  | .z => int16OfHiLo (r.raw 12) (r.raw 13)

/-! ## Constants -/

/-- `ACCEL_SCALE`. -/
def accelScale : ℚ := 16384

/-- `GYRO_SCALE`. -/
def gyroScale : ℚ := 131

/-- `DT`: `1 / LOOP_HZ` seconds. -/
def filterDt : ℚ := 1 / 250

/-- `CF_ALPHA`. -/
def cfAlpha : ℚ := 98 / 100

/-- `LPF_ALPHA`. -/
def lpfAlpha : ℚ := 15 / 100

/-! ## State -/

/-- The globals of the module. -/
structure Mpu where
  bus : Imu
  /-- `gyro_bias_x` and its siblings. -/
  gyroBias : SensorAxis → ℚ
  /-- `lpf_ax` and its siblings. -/
  lpf : SensorAxis → ℚ
  /-- `att.roll_deg`. -/
  rollDeg : ℚ
  /-- `att.pitch_deg`. -/
  pitchDeg : ℚ
  /-- `gyro_x_dps` and its siblings. -/
  gyroDps : SensorAxis → ℚ

/-- The module before `mpu9250_driver_init`. -/
def Mpu.reset : Mpu := ⟨.reset, fun _ => 0, fun _ => 0, 0, 0, fun _ => 0⟩

/-- What stands for `atan2f`, in degrees: `roll y z` for `atan2f(y, z)` and `pitch y q` for
`atan2f(y, sqrtf(q))`. -/
structure Tilt where
  roll : ℚ → ℚ → ℚ
  pitch : ℚ → ℚ → ℚ
  abs_roll_le : ∀ y z, |roll y z| ≤ 180
  abs_pitch_le : ∀ y q, |pitch y q| ≤ 90

instance : Inhabited Tilt := ⟨⟨fun _ _ => 0, fun _ _ => 0, by norm_num, by norm_num⟩⟩

/-! ## Calibration -/

/-- The locals of `calibrate_gyro`, and the bus. -/
structure CalibSums where
  bus : Imu
  sum : SensorAxis → ℚ
  good : ℕ

/-- One round of the calibration loop: a failed read is skipped. -/
def CalibSums.add (acc : CalibSums) (r : ImuRead) : CalibSums :=
  let ret := readRaw r.res acc.bus
  if ret.1 = 0 then
    { bus := ret.2, sum := fun a => acc.sum a + (r.gyro a).toInt, good := acc.good + 1 }
  else
    { acc with bus := ret.2 }

/-- The calibration loop. -/
def calibSums (reads : Fin calibSamples → ImuRead) (bus : Imu) : CalibSums :=
  (List.finRange calibSamples).foldl (fun (acc : CalibSums) k => acc.add (reads k))
    ⟨bus, fun _ => 0, 0⟩

/-- `calibrate_gyro`: without a good sample it returns before it touches the biases. -/
def Mpu.calibrateGyro (reads : Fin calibSamples → ImuRead) (m : Mpu) : Mpu :=
  let acc := calibSums reads m.bus
  if acc.good = 0 then
    { m with bus := acc.bus }
  else
    { m with bus := acc.bus, gyroBias := fun a => acc.sum a / acc.good / gyroScale }

/-- The end of `mpu9250_driver_init`: the average starts at the first sample, if it is read. -/
def Mpu.seedLpf (r : ImuRead) (m : Mpu) : Mpu :=
  let ret := readRaw r.res m.bus
  if ret.1 = 0 then
    { m with bus := ret.2, lpf := fun a => (r.accel a).toInt / accelScale }
  else
    { m with bus := ret.2 }

/-- What `mpu9250_driver_init` meets on the bus. -/
structure MpuInitReads where
  regs : Fin 6 → DriverResult
  calib : Fin calibSamples → ImuRead
  seed : ImuRead

/-- The outcomes alone. -/
def MpuInitReads.results (res : MpuInitReads) : ImuInitResults :=
  ⟨res.regs, fun k => (res.calib k).res, res.seed.res⟩

/-- `mpu9250_driver_init`. -/
def Mpu.driverInit (ready : Device → Bool) (res : MpuInitReads) (m : Mpu) : ℤ × Mpu :=
  let m := { m with bus := { m.bus with i2cDev := some .i2c0 } }
  if !ready .i2c0 then (-1, m)
  else
    let ret := mpu9250Init res.regs m.bus
    let m := { m with bus := ret.2 }
    if ret.1 < 0 then (-1, m)
    else (0, (m.calibrateGyro res.calib).seedLpf res.seed)

/-! ## Filters -/

/-- `accel_lpf`. -/
def Mpu.accelLpf (accel : SensorAxis → ℚ) (m : Mpu) : Mpu :=
  { m with lpf := fun a => m.lpf a + lpfAlpha * (accel a - m.lpf a) }

/-- `complementary_filter`. -/
def Mpu.complementaryFilter (tilt : Tilt) (ax ay az gx gy : ℚ) (m : Mpu) : Mpu :=
  let rollAcc := tilt.roll ay az
  let pitchAcc := tilt.pitch (-ax) (ay * ay + az * az)
  let rollGyro := m.rollDeg + gx * filterDt
  let pitchGyro := m.pitchDeg + gy * filterDt
  { m with
    rollDeg := cfAlpha * rollGyro + (1 - cfAlpha) * rollAcc
    pitchDeg := cfAlpha * pitchGyro + (1 - cfAlpha) * pitchAcc }

/-- `mpu9250_update`. -/
def Mpu.update (tilt : Tilt) (r : ImuRead) (m : Mpu) : ℤ × Mpu :=
  let ret := readRaw r.res m.bus
  let m := { m with bus := ret.2 }
  if ret.1 < 0 then (-1, m)
  else
    let accel : SensorAxis → ℚ := fun a => (r.accel a).toInt / accelScale
    let rate : SensorAxis → ℚ := fun a => (r.gyro a).toInt / gyroScale - m.gyroBias a
    let m := m.accelLpf accel
    let m := m.complementaryFilter tilt (m.lpf .x) (m.lpf .y) (m.lpf .z) (rate .x) (rate .y)
    (0, { m with gyroDps := rate })

/-! ## On the bus -/

theorem readRaw_eq_zero_iff (res : DriverResult) (m : Imu) : (readRaw res m).1 = 0 ↔ res = .ok := by
  have h := readRaw_neg_iff res m
  rw [readRaw] at h ⊢
  split_ifs at h ⊢ with hr
  · simpa using h
  · simpa using h

@[simp] theorem CalibSums.add_bus (acc : CalibSums) (r : ImuRead) :
    (acc.add r).bus = (readRaw r.res acc.bus).2 := by
  rw [add]
  split_ifs <;> rfl

theorem calibSums_bus (reads : Fin calibSamples → ImuRead) (bus : Imu) :
    (calibSums reads bus).bus = calibrateGyro (fun k => (reads k).res) bus := by
  rw [calibSums, calibrateGyro]
  generalize List.finRange calibSamples = ks
  obtain ⟨acc, hacc⟩ : ∃ acc : CalibSums, acc = ⟨bus, fun _ => 0, 0⟩ := ⟨_, rfl⟩
  have hbus : bus = acc.bus := by rw [hacc]
  rw [← hacc, hbus]
  clear hacc hbus
  induction ks generalizing acc with
  | nil => rfl
  | cons k ks ih => rw [List.foldl_cons, List.foldl_cons, ih, CalibSums.add_bus]

theorem Mpu.calibrateGyro_bus (reads : Fin calibSamples → ImuRead) (m : Mpu) :
    (m.calibrateGyro reads).bus = DroneFirmware.calibrateGyro (fun k => (reads k).res) m.bus := by
  rw [calibrateGyro, ← calibSums_bus]
  generalize calibSums reads m.bus = acc
  split_ifs <;> rfl

theorem Mpu.seedLpf_bus (r : ImuRead) (m : Mpu) :
    (m.seedLpf r).bus = (readRaw r.res m.bus).2 := by
  rw [seedLpf]
  split_ifs <;> rfl

/-- **The init, seen from the bus**: what it returns and the transfers it makes are those of the
module without its values. -/
theorem Mpu.driverInit_bus (ready : Device → Bool) (res : MpuInitReads) (m : Mpu) :
    ((m.driverInit ready res).1, (m.driverInit ready res).2.bus) =
      mpu9250DriverInit ready res.results m.bus := by
  cases hr : ready .i2c0 with
  | false =>
    rw [mpu9250DriverInit_of_not_ready hr]
    simp [driverInit, hr]
  | true =>
    rw [mpu9250DriverInit_of_ready hr]
    simp only [driverInit, hr, Bool.not_true, Bool.false_eq_true, if_false]
    by_cases hinit : (mpu9250Init res.regs ⟨some .i2c0, m.bus.calls⟩).1 < 0
    · simp only [if_pos hinit]
      exact (if_pos hinit).symm
    · simp only [if_neg hinit, seedLpf_bus, calibrateGyro_bus]
      exact (if_neg hinit).symm

/-- **The update, seen from the bus.** -/
theorem Mpu.update_bus (tilt : Tilt) (r : ImuRead) (m : Mpu) :
    ((m.update tilt r).1, (m.update tilt r).2.bus) = mpu9250Update r.res m.bus := by
  rw [update, mpu9250Update]
  split_ifs <;> rfl

/-- **The two ways out of the init**: it fails with the values as they were, or it returns 0 and
has calibrated and seeded as far as the reads went. -/
theorem Mpu.driverInit_cases (ready : Device → Bool) (res : MpuInitReads) (m : Mpu) :
    ∃ bus, m.driverInit ready res = (-1, { m with bus }) ∨
      m.driverInit ready res =
        (0, (Mpu.calibrateGyro res.calib { m with bus }).seedLpf res.seed) := by
  simp only [driverInit]
  split_ifs
  · exact ⟨_, Or.inl rfl⟩
  · exact ⟨_, Or.inl rfl⟩
  · exact ⟨_, Or.inr rfl⟩

/-- `mpu9250_driver_init` returns 0 exactly on a ready bus that takes every register write. -/
theorem Mpu.driverInit_eq_zero_iff (ready : Device → Bool) (res : MpuInitReads) (m : Mpu) :
    (m.driverInit ready res).1 = 0 ↔ ready .i2c0 = true ∧ ∀ k, res.regs k = .ok := by
  have hneg := mpu9250DriverInit_neg_iff ready res.results m.bus
  rw [← driverInit_bus] at hneg
  have hzero : (m.driverInit ready res).1 = 0 ↔ ¬ (m.driverInit ready res).1 < 0 := by
    obtain ⟨bus, h | h⟩ := m.driverInit_cases ready res <;> simp [h]
  rw [hzero, hneg, not_or, Bool.not_eq_false, not_exists]
  exact and_congr_right fun _ => forall_congr' fun k => not_not

end DroneFirmware

import DroneFirmware.Driver

/-!
# The IMU on its bus: `drone_mp9250.c`

The state machine uses two things of the IMU module: what `mpu9250_driver_init` and
`mpu9250_update` return, and the I2C calls they make on the handle `i2c_dev`.  This
file models those.  The attitude estimate never feeds back into the state machine, and
no sample value decides what is returned.

`mpu9250_update` does not look at the handle: it reads through whatever `i2c_dev`
holds, assigned or not.
-/

namespace DroneFirmware

/-- One I2C transfer, with the handle it was made on. -/
inductive I2cCall where
  /-- `i2c_write` of a register and its value. -/
  | write (dev : Option Device) (reg val : UInt8)
  /-- `i2c_write_read` of `len` bytes from a register on. -/
  | writeRead (dev : Option Device) (reg : UInt8) (len : ℕ)
  deriving DecidableEq

/-- The handle of a transfer. -/
def I2cCall.dev : I2cCall → Option Device
  | write dev _ _ => dev
  | writeRead dev _ _ => dev

/-- The IMU module's handle and the transfers made on it, oldest first. -/
structure Imu where
  /-- `i2c_dev`, null until `mpu9250_driver_init`. -/
  i2cDev : Option Device
  calls : List I2cCall

/-- The module before `mpu9250_driver_init`. -/
def Imu.reset : Imu := ⟨none, []⟩

/-! ## Transfers -/

/-- `write_reg`. -/
def writeReg (res : DriverResult) (reg val : UInt8) (m : Imu) : ℤ × Imu :=
  (res.code, { m with calls := m.calls ++ [.write m.i2cDev reg val] })

/-- `read_regs`. -/
def readRegs (res : DriverResult) (reg : UInt8) (len : ℕ) (m : Imu) : ℤ × Imu :=
  (res.code, { m with calls := m.calls ++ [.writeRead m.i2cDev reg len] })

/-- `read_raw`: fourteen bytes from `REG_ACCEL_OUT`. -/
def readRaw (res : DriverResult) (m : Imu) : ℤ × Imu :=
  let r := readRegs res 0x3B 14 m
  if r.1 < 0 then (-1, r.2) else (0, r.2)

/-! ## Init -/

/-- The register writes of `mpu9250_init`, in order: `PWR_MGMT_1`, `SMPLRT_DIV`, `CONFIG`,
`GYRO_CONFIG`, `ACCEL_CONFIG`, `ACCEL_CONFIG2`. -/
def initReg : Fin 6 → UInt8 × UInt8 :=
  ![(0x6B, 0x01), (0x19, 0x00), (0x1A, 0x03), (0x1B, 0x00), (0x1C, 0x00), (0x1D, 0x03)]

/-- The writes of `mpu9250_init`, up to the first that fails. -/
def mpu9250InitFrom (regs : Fin 6 → DriverResult) : List (Fin 6) → Imu → ℤ × Imu
  | [], m => (0, m)
  | k :: ks, m =>
      let r := writeReg (regs k) (initReg k).1 (initReg k).2 m
      if r.1 < 0 then (-1, r.2) else mpu9250InitFrom regs ks r.2

/-- `mpu9250_init`. -/
def mpu9250Init (regs : Fin 6 → DriverResult) (m : Imu) : ℤ × Imu :=
  mpu9250InitFrom regs (List.finRange 6) m

/-- `CALIB_SAMPLES`. -/
def calibSamples : ℕ := 500

/-- `calibrate_gyro` on the bus: `CALIB_SAMPLES` reads, whatever they return. -/
def calibrateGyro (reads : Fin calibSamples → DriverResult) (m : Imu) : Imu :=
  (List.finRange calibSamples).foldl (fun m k => (readRaw (reads k) m).2) m

/-- The outcomes of the transfers of one `mpu9250_driver_init`. -/
structure ImuInitResults where
  regs : Fin 6 → DriverResult
  calib : Fin calibSamples → DriverResult
  seed : DriverResult

/-- `mpu9250_driver_init`. -/
def mpu9250DriverInit (ready : Device → Bool) (res : ImuInitResults) (m : Imu) : ℤ × Imu :=
  let m := { m with i2cDev := some .i2c0 }
  if !ready .i2c0 then (-1, m)
  else
    let r := mpu9250Init res.regs m
    if r.1 < 0 then (-1, r.2)
    else (0, (readRaw res.seed (calibrateGyro res.calib r.2)).2)

/-- `mpu9250_update`. -/
def mpu9250Update (res : DriverResult) (m : Imu) : ℤ × Imu :=
  let r := readRaw res m
  if r.1 < 0 then (-1, r.2) else (0, r.2)

/-! ## What the transfers do -/

theorem readRaw_snd (res : DriverResult) (m : Imu) :
    (readRaw res m).2 = { m with calls := m.calls ++ [.writeRead m.i2cDev 0x3B 14] } := by
  rw [readRaw]
  split_ifs <;> rfl

theorem readRaw_neg_iff (res : DriverResult) (m : Imu) : (readRaw res m).1 < 0 ↔ res ≠ .ok := by
  have h : (readRegs res 0x3B 14 m).1 < 0 ↔ res ≠ .ok := DriverResult.code_neg_iff res
  rw [readRaw, ← h]
  split_ifs with hr <;> simp [hr]

/-- `mpu9250_update` makes one read, through the handle as it is. -/
theorem mpu9250Update_snd (res : DriverResult) (m : Imu) :
    (mpu9250Update res m).2 = { m with calls := m.calls ++ [.writeRead m.i2cDev 0x3B 14] } := by
  rw [mpu9250Update]
  split_ifs <;> exact readRaw_snd res m

theorem mpu9250Update_neg_iff (res : DriverResult) (m : Imu) :
    (mpu9250Update res m).1 < 0 ↔ res ≠ .ok := by
  rw [mpu9250Update, ← readRaw_neg_iff res m]
  split_ifs with hr <;> simp [hr]

/-- A transition of the module that keeps the handle and calls the driver on it only. -/
def Imu.Extends (m m' : Imu) : Prop :=
  m'.i2cDev = m.i2cDev ∧ ∃ new, m'.calls = m.calls ++ new ∧ ∀ c ∈ new, c.dev = m.i2cDev

theorem Imu.Extends.refl (m : Imu) : m.Extends m := ⟨rfl, [], by simp, by simp⟩

theorem Imu.Extends.trans {m m' m'' : Imu} (h : m.Extends m') (h' : m'.Extends m'') :
    m.Extends m'' := by
  obtain ⟨hd, new, hc, hn⟩ := h
  obtain ⟨hd', new', hc', hn'⟩ := h'
  refine ⟨hd'.trans hd, new ++ new', by rw [hc', hc, List.append_assoc], fun c hcm => ?_⟩
  rcases List.mem_append.mp hcm with hm | hm
  · exact hn c hm
  · rw [hn' c hm, hd]

theorem readRaw_extends (res : DriverResult) (m : Imu) : m.Extends (readRaw res m).2 := by
  rw [readRaw_snd]
  exact ⟨rfl, _, rfl, by simp [I2cCall.dev]⟩

theorem mpu9250InitFrom_extends (regs : Fin 6 → DriverResult) (ks : List (Fin 6)) :
    ∀ m : Imu, m.Extends (mpu9250InitFrom regs ks m).2 := by
  induction ks with
  | nil => exact Imu.Extends.refl
  | cons k ks ih =>
    intro m
    have hw : m.Extends (writeReg (regs k) (initReg k).1 (initReg k).2 m).2 :=
      ⟨rfl, _, rfl, by simp [I2cCall.dev]⟩
    simp only [mpu9250InitFrom]
    split_ifs
    · exact hw
    · exact hw.trans (ih _)

theorem calibrateGyro_extends (reads : Fin calibSamples → DriverResult) (m : Imu) :
    m.Extends (calibrateGyro reads m) := by
  rw [calibrateGyro]
  generalize List.finRange calibSamples = ks
  induction ks generalizing m with
  | nil => exact Imu.Extends.refl m
  | cons k ks ih =>
    rw [List.foldl_cons]
    exact (readRaw_extends (reads k) m).trans (ih _)

theorem mpu9250InitFrom_neg_iff (regs : Fin 6 → DriverResult) (ks : List (Fin 6)) :
    ∀ m : Imu, (mpu9250InitFrom regs ks m).1 < 0 ↔ ∃ k ∈ ks, regs k ≠ .ok := by
  induction ks with
  | nil => intro m; simp [mpu9250InitFrom]
  | cons k ks ih =>
    intro m
    have hw : (writeReg (regs k) (initReg k).1 (initReg k).2 m).1 < 0 ↔ regs k ≠ .ok :=
      DriverResult.code_neg_iff (regs k)
    rw [mpu9250InitFrom]
    by_cases hk : regs k = .ok
    · have hret := mt hw.mp (not_not_intro hk)
      simp only [if_neg hret, ih]
      simp [hk]
    · simp only [if_pos (hw.mpr hk)]
      simp [hk]

/-- `mpu9250_driver_init` on a ready bus. -/
theorem mpu9250DriverInit_of_ready {ready : Device → Bool} (hr : ready .i2c0 = true)
    (res : ImuInitResults) (m : Imu) :
    mpu9250DriverInit ready res m =
      let r := mpu9250Init res.regs { m with i2cDev := some .i2c0 }
      if r.1 < 0 then (-1, r.2) else (0, (readRaw res.seed (calibrateGyro res.calib r.2)).2) := by
  rw [mpu9250DriverInit, if_neg (by simp [hr])]

/-- `mpu9250_driver_init` on a bus that is not ready: the handle is bound, nothing is sent. -/
theorem mpu9250DriverInit_of_not_ready {ready : Device → Bool} (hr : ready .i2c0 = false)
    (res : ImuInitResults) (m : Imu) :
    mpu9250DriverInit ready res m = (-1, { m with i2cDev := some .i2c0 }) := by
  rw [mpu9250DriverInit, if_pos (by simp [hr])]

/-- **`mpu9250_driver_init` succeeds** exactly on a ready bus whose register writes all
succeed; no outcome of the calibration reads is reported. -/
theorem mpu9250DriverInit_neg_iff (ready : Device → Bool) (res : ImuInitResults) (m : Imu) :
    (mpu9250DriverInit ready res m).1 < 0 ↔ ready .i2c0 = false ∨ ∃ k, res.regs k ≠ .ok := by
  cases hr : ready .i2c0 with
  | false => simp [mpu9250DriverInit_of_not_ready hr]
  | true =>
    have hinit := mpu9250InitFrom_neg_iff res.regs (List.finRange 6)
      { m with i2cDev := some .i2c0 }
    simp only [List.mem_finRange, true_and] at hinit
    rw [mpu9250DriverInit_of_ready hr, ← hinit, mpu9250Init]
    generalize mpu9250InitFrom res.regs (List.finRange 6) { m with i2cDev := some .i2c0 } = r
    by_cases h : r.1 < 0 <;> simp [h]

/-- Once called, `mpu9250_driver_init` has bound the handle, and every transfer it makes is
on that handle. -/
theorem mpu9250DriverInit_extends (ready : Device → Bool) (res : ImuInitResults) (m : Imu) :
    Imu.Extends { m with i2cDev := some .i2c0 } (mpu9250DriverInit ready res m).2 := by
  cases hr : ready .i2c0 with
  | false =>
    rw [mpu9250DriverInit_of_not_ready hr]
    exact Imu.Extends.refl _
  | true =>
    have hinit := mpu9250InitFrom_extends res.regs (List.finRange 6)
      { m with i2cDev := some .i2c0 }
    rw [mpu9250DriverInit_of_ready hr, mpu9250Init]
    generalize mpu9250InitFrom res.regs (List.finRange 6) { m with i2cDev := some .i2c0 } = r
      at hinit ⊢
    by_cases h : r.1 < 0
    · simp only [h, if_true]
      exact hinit
    · simp only [h, if_false]
      exact (hinit.trans (calibrateGyro_extends res.calib _)).trans (readRaw_extends res.seed _)

end DroneFirmware

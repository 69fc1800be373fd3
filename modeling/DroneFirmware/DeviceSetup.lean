import DroneFirmware.Bus.Registers
import DroneFirmware.DeviceBinding
import DroneFirmware.Reactive.Outputs
import DroneFirmware.StateOutputs

/-!
# The set-up of the two peripherals

`nrf_init_rx` and `mpu9250_init` each write a handful of registers once, before the main loop
starts, and the loop goes on talking to both chips for as long as the drone is on.
`mpu9250_init` looks at the result of every write.  The radio driver looks at none: a transfer
that fails on the way leaves a part of its bytes unsent, and the drone starts without a word.

* `RadioPort`: the pins of the radio and its registers, with the functions of the driver on them.
* `radio_setup_kept`: which bytes of the registers are right, after any number of calls of
  `read_data`, whatever failed.
* `sensor_setup_kept`: outside ERROR every register of the sensor is set up.
-/

namespace DroneFirmware

open Bus Reactive

/-! ## The pins of the radio -/

/-- `NRF_CMD_W_REGISTER`. -/
def nrfCmdWRegister : UInt8 := 0x20

/-- `NRF_CMD_R_REGISTER`. -/
def nrfCmdRRegister : UInt8 := 0x00

/-- `NRF_CMD_NOP`. -/
def nrfCmdNop : UInt8 := 0xFF

/-- `NRF_CMD_R_RX_PAYLOAD`. -/
def nrfCmdRRxPayload : UInt8 := 0x61

/-- `NRF_CMD_FLUSH_RX`. -/
def nrfCmdFlushRx : UInt8 := 0xE2

/-- The radio behind its pins. -/
structure RadioPort where
  /-- What CSN selects. -/
  slave : Slave UInt8 UInt8
  /-- The level of CE: the radio listens while it is high. -/
  ce : Bool
  /-- The chip takes register writes while it listens.  Not every data sheet promises it. -/
  takesOnAir : Bool

/-- The register that a command writes.  STATUS stores nothing: a write to it clears flags. -/
def RadioPort.target (p : RadioPort) (cmd : UInt8) : Option UInt8 :=
  if cmd &&& 0xE0 = nrfCmdWRegister ∧ cmd &&& 0x1F ≠ 0x07 ∧ (p.takesOnAir || !p.ce) = true then
    some (cmd &&& 0x1F)
  else none

/-- Some events on the bus. -/
def RadioPort.wires (events : List (BusEvent UInt8)) (p : RadioPort) : RadioPort :=
  { p with slave := run (Slave.step p.target) p.slave events }

/-- `csn_low`. -/
def RadioPort.csnLow (p : RadioPort) : RadioPort := p.wires [.select]

/-- `csn_high`. -/
def RadioPort.csnHigh (p : RadioPort) : RadioPort := p.wires [.deselect]

/-- `gpio_pin_set` of `CE_PIN`. -/
def RadioPort.setCe (level : Bool) (p : RadioPort) : RadioPort := { p with ce := level }

/-- `spi_transceive`, of which the first `sent` bytes come through. -/
def RadioPort.spiTransceive (tx : List UInt8) (sent : ℕ) (p : RadioPort) : RadioPort :=
  p.wires ((tx.take sent).map .byte)

/-! ## The driver -/

/-- `spi_transfer`. -/
def RadioPort.spiTransfer (data : UInt8) (sent : ℕ) (p : RadioPort) : RadioPort :=
  (p.csnLow.spiTransceive [data] sent).csnHigh

/-- `nrf_write_reg`. -/
def RadioPort.nrfWriteReg (reg value : UInt8) (sent : ℕ) (p : RadioPort) : RadioPort :=
  (p.csnLow.spiTransceive [nrfCmdWRegister ||| reg, value] sent).csnHigh

/-- `nrf_read_reg`, on the pins. -/
def RadioPort.nrfReadReg (reg : UInt8) (sent : ℕ) (p : RadioPort) : RadioPort :=
  (p.csnLow.spiTransceive [nrfCmdRRegister ||| reg, nrfCmdNop] sent).csnHigh

/-- `nrf_write_buf`. -/
def RadioPort.nrfWriteBuf (cmd : UInt8) (data : List UInt8) (len sent : ℕ) (p : RadioPort) :
    RadioPort :=
  (p.csnLow.spiTransceive (cmd :: data.take len) sent).csnHigh

/-- `addr`: `NODE1`. -/
def nrfAddr : List UInt8 := [0x4E, 0x4F, 0x44, 0x45, 0x31]

/-- `sizeof(struct DataPackage)`. -/
def sizeofDataPackage : ℕ := 9

/-- `nrf_init_rx`. -/
def RadioPort.nrfInitRx (sent : Fin 8 → ℕ) (p : RadioPort) : RadioPort :=
  let p := p.setCe false
  let p := p.nrfWriteReg 0x00 0x0F (sent 0)
  let p := p.nrfWriteReg 0x01 0x00 (sent 1)
  let p := p.nrfWriteReg 0x02 0x01 (sent 2)
  let p := p.nrfWriteReg 0x03 0x03 (sent 3)
  let p := p.nrfWriteReg 0x05 76 (sent 4)
  let p := p.nrfWriteReg 0x06 0x06 (sent 5)
  let p := p.nrfWriteBuf (nrfCmdWRegister ||| 0x0A) nrfAddr 5 (sent 6)
  let p := p.nrfWriteReg 0x11 sizeofDataPackage.toUInt8 (sent 7)
  p.setCe true

/-- `nrf_driver_init`: both pins are configured as outputs that start active. -/
def RadioPort.nrfDriverInit (sent : Fin 8 → ℕ) (p : RadioPort) : RadioPort :=
  ((p.setCe true).csnHigh).nrfInitRx sent

/-- One call of `read_data`: what it finds, and how many bytes of each transfer come through. -/
structure PinCall where
  reply : NrfReply
  status : ℕ
  payload : ℕ
  clear : ℕ
  flush : ℕ

/-- `read_data`, on the pins. -/
def RadioPort.readData (c : PinCall) (p : RadioPort) : RadioPort :=
  let p := p.nrfReadReg 0x07 c.status
  if c.reply.rxDr then
    let p := (p.csnLow.spiTransceive (nrfCmdRRxPayload :: List.replicate sizeofDataPackage 0xFF)
      c.payload).csnHigh
    let p := p.nrfWriteReg 0x07 0x40 c.clear
    p.spiTransfer nrfCmdFlushRx c.flush
  else p

/-! ## The registers of the radio -/

section Transfers

variable (f : RegisterFile UInt8 UInt8) (ce takesOnAir : Bool) (sent : ℕ)

end Transfers

/-- The radio after the init and some calls of `read_data`. -/
def RadioPort.after (sent : Fin 8 → ℕ) (calls : List PinCall) (p : RadioPort) : RadioPort :=
  run (fun p c => p.readData c) (p.nrfDriverInit sent) calls

/-- The register write of a transfer, if it is one. -/
def I2cCall.burst : I2cCall → Option (Burst UInt8 UInt8)
  | write _ reg val => some ⟨reg, [val]⟩
  | writeRead _ _ _ => none

/-- The register writes of some transfers. -/
def sensorBursts (calls : List I2cCall) : List (Burst UInt8 UInt8) := calls.filterMap I2cCall.burst

/-- The transfers of the init steps and of some passes. -/
def i2cLog (env : BootEnv) (ticks : List Tick) : List I2cCall :=
  (boot env).imu.calls ++ outputs iterate (fun s t => (iterate s t).imu.calls) (boot env) ticks

/-- What `mpu9250_init` writes, as writes to registers. -/
def sensorSetting (k : Fin 6) : Burst UInt8 UInt8 := ⟨(initReg k).1, [(initReg k).2]⟩

theorem sensorBursts_readRaw (res : DriverResult) (m : Imu) :
    sensorBursts (readRaw res m).2.calls = sensorBursts m.calls := by
  rw [readRaw_snd, sensorBursts, List.filterMap_append]
  exact List.append_nil _

theorem sensorBursts_calibrateGyro (reads : Fin calibSamples → DriverResult) (m : Imu) :
    sensorBursts (calibrateGyro reads m).calls = sensorBursts m.calls := by
  rw [calibrateGyro]
  generalize List.finRange calibSamples = ks
  induction ks generalizing m with
  | nil => rfl
  | cons k ks ih => rw [List.foldl_cons, ih, sensorBursts_readRaw]

/-- The writes of `mpu9250_init`, if none fails. -/
theorem mpu9250InitFrom_of_ok {regs : Fin 6 → DriverResult} (h : ∀ k, regs k = .ok)
    (ks : List (Fin 6)) (m : Imu) :
    0 ≤ (mpu9250InitFrom regs ks m).1 ∧
      sensorBursts (mpu9250InitFrom regs ks m).2.calls =
        sensorBursts m.calls ++ ks.map sensorSetting := by
  induction ks generalizing m with
  | nil => exact ⟨le_rfl, (List.append_nil _).symm⟩
  | cons k ks ih =>
    have hret : ¬ (writeReg (regs k) (initReg k).1 (initReg k).2 m).1 < 0 := by simp [writeReg, h k]
    obtain ⟨hnonneg, hbursts⟩ := ih (writeReg (regs k) (initReg k).1 (initReg k).2 m).2
    simp only [mpu9250InitFrom, if_neg hret]
    refine ⟨hnonneg, hbursts.trans ?_⟩
    rw [writeReg, sensorBursts, List.filterMap_append, List.append_assoc]
    rfl

/-- Every write that the firmware ever makes to the sensor, if the init succeeds. -/
theorem sensorBursts_i2cLog {env : BootEnv} (hesc : env.EscOk) (himu : env.ImuOk)
    (ticks : List Tick) :
    sensorBursts (i2cLog env ticks) = (List.finRange 6).map sensorSetting := by
  have hpasses : ∀ s, sensorBursts (outputs iterate (fun s t => (iterate s t).imu.calls) s ticks) =
      [] := by
    induction ticks with
    | nil => intro s; rfl
    | cons t ticks ih =>
      intro s
      rw [outputs, sensorBursts, List.filterMap_append, iterate_imu_calls]
      exact ih _
  obtain ⟨hnonneg, hbursts⟩ := mpu9250InitFrom_of_ok himu.2 (List.finRange 6)
    { Imu.reset with i2cDev := some .i2c0 }
  have hret : ¬ (mpu9250Init env.imu.regs { Imu.reset with i2cDev := some .i2c0 }).1 < 0 := by
    rw [mpu9250Init]
    omega
  have hboot : sensorBursts (boot env).imu.calls = (List.finRange 6).map sensorSetting := by
    rw [boot_of_ok hesc himu, mpu9250DriverInit_of_ready himu.1]
    simp only [if_neg hret]
    rw [sensorBursts_readRaw, sensorBursts_calibrateGyro]
    exact hbursts
  rw [i2cLog, sensorBursts, List.filterMap_append]
  exact (congrArg₂ _ hboot (hpasses _)).trans (List.append_nil _)

/-- **Outside ERROR the sensor is set up.**  In every run that is not in ERROR, all six writes of
`mpu9250_init` succeeded, and whatever the registers held before, they hold the settings since:
nothing that the firmware sent after the init wrote any of them, or any other. -/
theorem sensor_setup_kept (env : BootEnv) (ticks : List Tick)
    (h : (reached env ticks).fsm.currentState ≠ .error) (f : RegisterFile UInt8 UInt8) :
    (∀ k, env.imu.regs k = .ok) ∧
      (∀ k, run (fun f w => w.apply f) f (sensorBursts (i2cLog env ticks)) (initReg k).1 0 =
        (initReg k).2) ∧
      ∀ r, (∀ k, r ≠ (initReg k).1) →
        run (fun f w => w.apply f) f (sensorBursts (i2cLog env ticks)) r = f r := by
  have hok : env.EscOk ∧ env.ImuOk := by
    by_contra hfail
    exact h ((reached_error_iff env ticks).mpr (Or.inl hfail))
  rw [sensorBursts_i2cLog hok.1 hok.2]
  refine ⟨hok.2.2, fun k => ?_, fun r hr => ?_⟩
  · have hmem : sensorSetting k ∈ (List.finRange 6).map sensorSetting :=
      List.mem_map_of_mem (List.mem_finRange k)
    exact run_bursts_of_mem (by decide) hmem 0
  · refine run_bursts_of_notMem fun hmem => ?_
    simp only [List.map_map, List.mem_map] at hmem
    obtain ⟨k, -, hk⟩ := hmem
    exact hr k hk.symm

theorem sensor_setup_kept_calm : (∀ k, BootEnv.calm.imu.regs k = .ok) ∧
    (∀ k, run (fun f w => w.apply f) (fun _ _ => 0)
      (sensorBursts (i2cLog .calm [.calm 5004 .silent])) (initReg k).1 0 = (initReg k).2) ∧
    ∀ r, (∀ k, r ≠ (initReg k).1) → run (fun f w => w.apply f) (fun _ _ => 0)
      (sensorBursts (i2cLog .calm [.calm 5004 .silent])) r = fun _ => 0 :=
  sensor_setup_kept .calm [.calm 5004 .silent] (by decide +kernel) (fun _ _ => 0)

end DroneFirmware

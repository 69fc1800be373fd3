import DroneFirmware.ImuSamples

/-!
# The gyro calibration and what is reported of it

`calibrate_gyro` averages the samples of `CALIB_SAMPLES` reads and skips the reads that fail.
It returns nothing: after a calibration without a single sample it prints an error and leaves
the biases, and `mpu9250_driver_init` goes on, takes a seed for the average if it can, and
returns 0.

* `calibSums_eq`: the loop, for every pattern of failed reads.
* `Mpu.calibrateGyro_gyroBias`: the biases are the mean of the good samples.
* `Calibrated`: what a successful init should mean.
* `init_reports_calibration_iff`: when it does.
-/

namespace DroneFirmware

/-! ## The calibration loop -/

/-- The calibration reads that succeed. -/
def goodReads (reads : Fin calibSamples → ImuRead) : Finset (Fin calibSamples) :=
  Finset.univ.filter fun k => (reads k).res = .ok

/-- The mean of the good samples of an axis. -/
def gyroMean (reads : Fin calibSamples → ImuRead) (a : SensorAxis) : ℚ :=
  (∑ k ∈ goodReads reads, (((reads k).gyro a).toInt : ℚ)) / (goodReads reads).card

theorem CalibSums.add_of_ok {r : ImuRead} (h : r.res = .ok) (acc : CalibSums) :
    (acc.add r).good = acc.good + 1 ∧ ∀ a, (acc.add r).sum a = acc.sum a + (r.gyro a).toInt := by
  have hret := (readRaw_eq_zero_iff r.res acc.bus).mpr h
  rw [add]
  simp only [hret, if_true, implies_true, and_self]

theorem CalibSums.add_of_fail {r : ImuRead} (h : r.res ≠ .ok) (acc : CalibSums) :
    (acc.add r).good = acc.good ∧ ∀ a, (acc.add r).sum a = acc.sum a := by
  have hret := mt (readRaw_eq_zero_iff r.res acc.bus).mp h
  rw [add]
  simp only [if_neg hret, implies_true, and_self]

/-- The loop over some of the reads: the counter and the sums take in the good ones. -/
theorem foldl_calibSums (reads : Fin calibSamples → ImuRead) (ks : List (Fin calibSamples)) :
    ∀ acc : CalibSums,
      (ks.foldl (fun (acc : CalibSums) k => acc.add (reads k)) acc).good =
        acc.good + (ks.filter fun k => (reads k).res = .ok).length ∧
      ∀ a, (ks.foldl (fun (acc : CalibSums) k => acc.add (reads k)) acc).sum a =
        acc.sum a + ((ks.filter fun k => (reads k).res = .ok).map
          fun k => (((reads k).gyro a).toInt : ℚ)).sum := by
  induction ks with
  | nil => intro acc; simp
  | cons k ks ih =>
    intro acc
    obtain ⟨hgood, hsum⟩ := ih (acc.add (reads k))
    rw [List.foldl_cons, hgood]
    by_cases hk : (reads k).res = .ok
    · obtain ⟨hgood', hsum'⟩ := CalibSums.add_of_ok hk acc
      have hfilter : ((k :: ks).filter fun k => (reads k).res = .ok) =
          k :: ks.filter fun k => (reads k).res = .ok := by simp [hk]
      rw [hfilter, List.length_cons, hgood']
      refine ⟨by omega, fun a => ?_⟩
      rw [hsum, hsum', List.map_cons, List.sum_cons, add_assoc]
    · obtain ⟨hgood', hsum'⟩ := CalibSums.add_of_fail hk acc
      have hfilter : ((k :: ks).filter fun k => (reads k).res = .ok) =
          ks.filter fun k => (reads k).res = .ok := by simp [hk]
      rw [hfilter, hgood']
      exact ⟨rfl, fun a => by rw [hsum, hsum']⟩

/-- **The calibration loop counts and sums exactly the good samples.** -/
theorem calibSums_eq (reads : Fin calibSamples → ImuRead) (bus : Imu) :
    (calibSums reads bus).good = (goodReads reads).card ∧
      ∀ a, (calibSums reads bus).sum a =
        ∑ k ∈ goodReads reads, (((reads k).gyro a).toInt : ℚ) := by
  have hnodup : ((List.finRange calibSamples).filter fun k => (reads k).res = .ok).Nodup :=
    (List.nodup_finRange _).filter _
  have hgoods : goodReads reads =
      ((List.finRange calibSamples).filter fun k => (reads k).res = .ok).toFinset := by
    ext k
    simp [goodReads]
  obtain ⟨hgood, hsum⟩ := foldl_calibSums reads (List.finRange calibSamples)
    ⟨bus, fun _ => 0, 0⟩
  rw [calibSums, hgood, hgoods, List.toFinset_card_of_nodup hnodup]
  refine ⟨Nat.zero_add _, fun a => ?_⟩
  rw [hsum, List.sum_toFinset _ hnodup]
  exact zero_add _

/-- The calibration changes nothing but the bus and the biases. -/
theorem Mpu.exists_calibrateGyro (reads : Fin calibSamples → ImuRead) (m : Mpu) :
    ∃ bus gyroBias, m.calibrateGyro reads = { m with bus, gyroBias } := by
  rw [calibrateGyro]
  generalize calibSums reads m.bus = acc
  split_ifs
  · exact ⟨acc.bus, m.gyroBias, rfl⟩
  · exact ⟨acc.bus, _, rfl⟩

/-- **The biases after the calibration**: the mean of the good samples, in degrees per second;
the old ones when there is none. -/
theorem Mpu.calibrateGyro_gyroBias (reads : Fin calibSamples → ImuRead) (m : Mpu)
    (a : SensorAxis) : (m.calibrateGyro reads).gyroBias a =
      if (goodReads reads).Nonempty then gyroMean reads a / gyroScale else m.gyroBias a := by
  obtain ⟨hgood, hsum⟩ := calibSums_eq reads m.bus
  have hzero : (calibSums reads m.bus).good = 0 ↔ ¬ (goodReads reads).Nonempty := by
    rw [hgood, Finset.card_eq_zero, Finset.not_nonempty_iff_eq_empty]
  rw [calibrateGyro, gyroMean, ← hsum, ← hgood]
  by_cases h : (goodReads reads).Nonempty
  · rw [if_pos h]
    simp only [if_neg (mt hzero.mp (not_not_intro h))]
  · rw [if_neg h]
    simp only [if_pos (hzero.mpr h)]

/-- The moving average after the seeding read. -/
theorem Mpu.seedLpf_lpf (r : ImuRead) (m : Mpu) (a : SensorAxis) :
    (m.seedLpf r).lpf a = if r.res = .ok then (r.accel a).toInt / accelScale else m.lpf a := by
  have hret := readRaw_eq_zero_iff r.res m.bus
  rw [seedLpf]
  by_cases h : r.res = .ok
  · rw [if_pos h]
    simp only [if_pos (hret.mpr h)]
  · rw [if_neg h]
    simp only [if_neg (mt hret.mp h)]

/-- The seed changes nothing but the bus and the average. -/
theorem Mpu.exists_seedLpf (r : ImuRead) (m : Mpu) :
    ∃ bus lpf, m.seedLpf r = { m with bus, lpf } := by
  rw [seedLpf]
  split_ifs
  · exact ⟨_, _, rfl⟩
  · exact ⟨_, m.lpf, rfl⟩

@[simp] theorem Mpu.seedLpf_gyroBias (r : ImuRead) (m : Mpu) :
    (m.seedLpf r).gyroBias = m.gyroBias := by
  obtain ⟨bus, lpf, h⟩ := m.exists_seedLpf r
  rw [h]

/-! ## What the init reports -/

/-- A real calibration: at least one sample in the mean, the biases that mean in degrees per
second, and the average at a sample that was read. -/
structure Calibrated (res : MpuInitReads) (m : Mpu) : Prop where
  good : (goodReads res.calib).Nonempty
  bias : ∀ a, m.gyroBias a = gyroMean res.calib a / 131
  seed : res.seed.res = .ok
  lpf : ∀ a, m.lpf a = (res.seed.accel a).toInt / 16384

/-- The init returns 0 only after a real calibration, and a negative value without one. -/
def ReportsCalibration (ready : Device → Bool) (res : MpuInitReads) (m : Mpu) : Prop :=
  ((m.driverInit ready res).1 = 0 → Calibrated res (m.driverInit ready res).2) ∧
    (¬ Calibrated res (m.driverInit ready res).2 → (m.driverInit ready res).1 < 0)

/-- **A calibrated init** is one whose calibration and seeding reads succeeded in part and in
full. -/
theorem calibrated_iff (res : MpuInitReads) (m : Mpu) :
    Calibrated res ((m.calibrateGyro res.calib).seedLpf res.seed) ↔
      (goodReads res.calib).Nonempty ∧ res.seed.res = .ok := by
  refine ⟨fun hc => ⟨hc.good, hc.seed⟩, fun ⟨hgood, hseed⟩ => ?_⟩
  refine ⟨hgood, fun a => ?_, hseed, fun a => ?_⟩
  · rw [Mpu.seedLpf_gyroBias, Mpu.calibrateGyro_gyroBias, if_pos hgood, gyroScale]
  · rw [Mpu.seedLpf_lpf, if_pos hseed, accelScale]

/-- **The init reports its calibration** exactly when no failed read is left to report: on a
ready bus that takes every register write, a calibration read and the seeding read succeed. -/
theorem init_reports_calibration_iff (ready : Device → Bool) (res : MpuInitReads) (m : Mpu) :
    ReportsCalibration ready res m ↔
      ((ready .i2c0 = true ∧ ∀ k, res.regs k = .ok) →
        (∃ k, (res.calib k).res = .ok) ∧ res.seed.res = .ok) := by
  have hzero := m.driverInit_eq_zero_iff ready res
  have hgood : (goodReads res.calib).Nonempty ↔ ∃ k, (res.calib k).res = .ok := by
    rw [Finset.Nonempty]
    simp [goodReads]
  rw [← hzero, ← hgood, ReportsCalibration]
  obtain ⟨bus, h | h⟩ := m.driverInit_cases ready res
  · simp [h]
  · rw [h, calibrated_iff]
    constructor
    · exact fun hreport => hreport.1
    · exact fun hreads => ⟨hreads, fun hnot => absurd (hreads rfl) hnot⟩

/-- A sensor that accepts its configuration and then answers no read. -/
def silentSensor : MpuInitReads :=
  ⟨fun _ => .ok, fun _ => ⟨.fail 4, fun _ => 0⟩, ⟨.fail 4, fun _ => 0⟩⟩

/-- **An init without a single sample succeeds.**  The sensor is configured, all 500 calibration
reads and the seeding read fail, and `mpu9250_driver_init` returns 0. -/
theorem not_reportsCalibration :
    ¬ ∀ (ready : Device → Bool) (res : MpuInitReads), ReportsCalibration ready res .reset := by
  intro h
  have hret : (Mpu.reset.driverInit (fun _ => true) silentSensor).1 = 0 :=
    (Mpu.driverInit_eq_zero_iff _ _ _).mpr ⟨rfl, fun _ => rfl⟩
  have hseed := ((h (fun _ => true) silentSensor).1 hret).seed
  exact absurd hseed (by decide)

end DroneFirmware

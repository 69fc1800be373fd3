import DroneFirmware.Calibration

/-!
# Attitude estimates stay bounded

Three accumulators run for as long as the drone is on: the moving average, the biases under the
rates, and the complementary filter that integrates the rates.  An `int16_t` sample bounds the
first two.  The filter lets go of two percent of its angle in each update and takes in at most
one rate, so it has a ball it cannot leave, whatever the samples, the failed reads and the
biases are.

* `Mpu.Bounded`: the invariant.
* `Mpu.Bounded.update`: one update, with one lemma for each accumulator.
* `Mpu.bounded_driverInit`: every outcome of the init.
* `attitude_bounded`: every run.
-/

namespace DroneFirmware

open Reactive Signal

/-- The largest rate, in degrees per second: two full scales apart. -/
def maxRateDps : ℚ := 65536 / 131

/-- The globals are within their bounds. -/
structure Mpu.Bounded (m : Mpu) : Prop where
  bias : ∀ a, |m.gyroBias a| ≤ 32768 / 131
  lpf : ∀ a, |m.lpf a| ≤ 2
  dps : ∀ a, |m.gyroDps a| ≤ maxRateDps
  roll : |m.rollDeg| ≤ 180 + 49 * maxRateDps / 250
  pitch : |m.pitchDeg| ≤ 90 + 49 * maxRateDps / 250

/-! ## Samples -/

theorem abs_sample_le (v : Int16) : |(v.toInt : ℚ)| ≤ 32768 := by
  have hlo : (-2 ^ 15 : ℚ) ≤ v.toInt := by exact_mod_cast Int16.le_toInt v
  have hhi : (v.toInt : ℚ) ≤ 2 ^ 15 := by exact_mod_cast (Int16.toInt_lt v).le
  rw [abs_le]
  constructor
  · linarith
  · linarith

theorem abs_accel_le (v : Int16) : |(v.toInt : ℚ) / accelScale| ≤ 2 := by
  rw [accelScale, abs_div, abs_of_pos (by norm_num : (0 : ℚ) < 16384),
    div_le_iff₀ (by norm_num)]
  exact (abs_sample_le v).trans (by norm_num)

theorem abs_gyro_le (v : Int16) : |(v.toInt : ℚ) / gyroScale| ≤ 32768 / 131 := by
  rw [gyroScale, abs_div, abs_of_pos (by norm_num : (0 : ℚ) < 131)]
  exact div_le_div_of_nonneg_right (abs_sample_le v) (by norm_num)

/-- The mean of bounded values. -/
theorem abs_mean_le {ι : Type*} {s : Finset ι} (hs : s.Nonempty) {f : ι → ℚ} {B : ℚ}
    (h : ∀ k ∈ s, |f k| ≤ B) : |(∑ k ∈ s, f k) / s.card| ≤ B := by
  have hcard : (0 : ℚ) < s.card := by exact_mod_cast hs.card_pos
  rw [abs_div, abs_of_pos hcard, div_le_iff₀ hcard]
  calc |∑ k ∈ s, f k| ≤ ∑ k ∈ s, |f k| := Finset.abs_sum_le_sum_abs f s
    _ ≤ ∑ _k ∈ s, B := Finset.sum_le_sum h
    _ = B * s.card := by rw [Finset.sum_const, nsmul_eq_mul, mul_comm]

/-! ## The init -/

theorem Mpu.Bounded.calibrateGyro {m : Mpu} (h : m.Bounded)
    (reads : Fin calibSamples → ImuRead) : (m.calibrateGyro reads).Bounded := by
  have hbias : ∀ a, |(m.calibrateGyro reads).gyroBias a| ≤ 32768 / 131 := by
    intro a
    rw [Mpu.calibrateGyro_gyroBias]
    split_ifs with hgood
    · have hmean : |gyroMean reads a| ≤ 32768 :=
        abs_mean_le hgood fun k _ => abs_sample_le ((reads k).gyro a)
      rw [gyroScale, abs_div, abs_of_pos (by norm_num : (0 : ℚ) < 131)]
      exact div_le_div_of_nonneg_right hmean (by norm_num)
    · exact h.bias a
  obtain ⟨bus, bias, hm⟩ := m.exists_calibrateGyro reads
  rw [hm] at hbias ⊢
  exact ⟨hbias, h.lpf, h.dps, h.roll, h.pitch⟩

theorem Mpu.Bounded.seedLpf {m : Mpu} (h : m.Bounded) (r : ImuRead) : (m.seedLpf r).Bounded := by
  have hlpf : ∀ a, |(m.seedLpf r).lpf a| ≤ 2 := by
    intro a
    rw [Mpu.seedLpf_lpf]
    split_ifs
    · exact abs_accel_le _
    · exact h.lpf a
  obtain ⟨bus, lpf, hm⟩ := m.exists_seedLpf r
  rw [hm] at hlpf ⊢
  exact ⟨h.bias, hlpf, h.dps, h.roll, h.pitch⟩

theorem Mpu.bounded_reset : Mpu.reset.Bounded where
  bias := fun _ => by norm_num [reset]
  lpf := fun _ => by norm_num [reset]
  dps := fun _ => by norm_num [reset, maxRateDps]
  roll := by norm_num [reset, maxRateDps]
  pitch := by norm_num [reset, maxRateDps]

/-- **Every outcome of the init** is within the bounds. -/
theorem Mpu.bounded_driverInit (ready : Device → Bool) (res : MpuInitReads) :
    (Mpu.reset.driverInit ready res).2.Bounded := by
  have hbus : ∀ bus, Mpu.Bounded { Mpu.reset with bus } := fun bus =>
    have h := Mpu.bounded_reset
    ⟨h.bias, h.lpf, h.dps, h.roll, h.pitch⟩
  obtain ⟨bus, h | h⟩ := Mpu.reset.driverInit_cases ready res
  · rw [h]
    exact hbus bus
  · rw [h]
    exact ((hbus bus).calibrateGyro res.calib).seedLpf res.seed

/-! ## The update -/

/-- A rate is at most two full scales: one from the sample, one from the bias. -/
theorem Mpu.Bounded.abs_rate_le {m : Mpu} (h : m.Bounded) (v : Int16) (a : SensorAxis) :
    |(v.toInt : ℚ) / gyroScale - m.gyroBias a| ≤ maxRateDps := by
  refine (abs_sub _ _).trans ?_
  have hv := abs_gyro_le v
  have hbias := h.bias a
  rw [maxRateDps]
  linarith

/-- The moving average stays in the ball of its samples. -/
theorem Mpu.Bounded.accelLpf {m : Mpu} (h : m.Bounded) {accel : SensorAxis → ℚ}
    (haccel : ∀ a, |accel a| ≤ 2) : (m.accelLpf accel).Bounded :=
  ⟨h.bias, fun a => abs_ema_le (by norm_num [lpfAlpha]) (by norm_num [lpfAlpha]) (haccel a)
    (h.lpf a), h.dps, h.roll, h.pitch⟩

/-- **One fused angle.**  A rate within `maxRateDps` and a tilt within `V` keep the angle within
`V + 49 * maxRateDps / 250`. -/
theorem abs_fused_le {angle rate tilt V : ℚ} (hrate : |rate| ≤ maxRateDps) (htilt : |tilt| ≤ V)
    (hangle : |angle| ≤ V + 49 * maxRateDps / 250) :
    |cfAlpha * (angle + rate * filterDt) + (1 - cfAlpha) * tilt| ≤
      V + 49 * maxRateDps / 250 := by
  have hdrift : |rate * filterDt| ≤ maxRateDps * filterDt := by
    rw [abs_mul, abs_of_pos (by norm_num [filterDt] : 0 < filterDt)]
    exact mul_le_mul_of_nonneg_right hrate (by norm_num [filterDt])
  have hball : V + cfAlpha * (maxRateDps * filterDt) / (1 - cfAlpha) =
      V + 49 * maxRateDps / 250 := by
    rw [cfAlpha, filterDt]
    ring
  rw [← hball] at hangle ⊢
  exact abs_blend_drift_le (by norm_num [cfAlpha]) (by norm_num [cfAlpha]) hdrift htilt hangle

/-- **One update keeps the bounds**, whatever it reads and whether it reads. -/
theorem Mpu.Bounded.update {m : Mpu} (h : m.Bounded) (tilt : Tilt) (r : ImuRead) :
    (m.update tilt r).2.Bounded := by
  rw [Mpu.update]
  split_ifs
  · exact ⟨h.bias, h.lpf, h.dps, h.roll, h.pitch⟩
  · have hrate : ∀ a, |((r.gyro a).toInt : ℚ) / gyroScale - m.gyroBias a| ≤ maxRateDps :=
      fun a => h.abs_rate_le (r.gyro a) a
    have haccel : (m.accelLpf fun a => (r.accel a).toInt / accelScale).Bounded :=
      h.accelLpf fun a => abs_accel_le (r.accel a)
    exact ⟨h.bias, haccel.lpf, hrate, abs_fused_le (hrate .x) (tilt.abs_roll_le _ _) h.roll,
      abs_fused_le (hrate .y) (tilt.abs_pitch_le _ _) h.pitch⟩

/-- **The attitude estimates are bounded on every run.**  Any outcome of `mpu9250_driver_init`,
then any sequence of `mpu9250_update` with any samples and any failed reads. -/
theorem attitude_bounded (tilt : Tilt) (ready : Device → Bool) (res : MpuInitReads)
    (reads : List ImuRead) :
    (run (fun m r => (m.update tilt r).2) (Mpu.reset.driverInit ready res).2 reads).Bounded :=
  run_invariant Mpu.Bounded (fun _ r h => h.update tilt r) (Mpu.bounded_driverInit ready res)
    reads

end DroneFirmware

import DroneFirmware.Calibration
import DroneFirmware.Signal.Response

/-!
# What the attitude estimate remembers

The estimates start at zero wherever the drone stands, the moving average starts at one sample
or at zero, and the biases are those of a calibration that may have missed some reads or all of
them.  All of that goes into the same filters as the samples do.  Here is how long each of them
counts, and how much, in exact rational arithmetic.

* `Mpu.Apart`: two copies of the module some updates later, with one lemma for an update.
* `attitude_memory`: what two different pasts leave after the same samples.
* `missed_calibration`: what the calibration makes of the estimates, whatever reads it missed.
-/

namespace DroneFirmware

open Reactive Signal

/-! ## Updates -/

/-- The globals after some calls of `mpu9250_update`. -/
def Mpu.updates (tilt : Tilt) (reads : List ImuRead) (m : Mpu) : Mpu :=
  run (fun m r => (m.update tilt r).2) m reads

/-- How many of the reads succeed. -/
def readsTaken (reads : List ImuRead) : ℕ := reads.countP fun r => r.res = .ok

/-- A failed read changes no value. -/
theorem Mpu.update_of_fail {r : ImuRead} (h : r.res ≠ .ok) (tilt : Tilt) (m : Mpu) :
    (m.update tilt r).2 = { m with bus := (readRaw r.res m.bus).2 } := by
  have hret := (readRaw_neg_iff r.res m.bus).mpr h
  rw [update]
  simp only [if_pos hret]

/-- **An update as three filters.** -/
theorem Mpu.update_of_ok {r : ImuRead} (h : r.res = .ok) (tilt : Tilt) (m : Mpu) :
    ∃ bus, (m.update tilt r).2 =
      let rate := fun a => ((r.gyro a).toInt : ℚ) / gyroScale - m.gyroBias a
      let lpf := fun a => ema lpfAlpha ((r.accel a).toInt / accelScale) (m.lpf a)
      { bus
        gyroBias := m.gyroBias
        lpf
        rollDeg := blend cfAlpha (m.rollDeg + rate .x * filterDt) (tilt.roll (lpf .y) (lpf .z))
        pitchDeg := blend cfAlpha (m.pitchDeg + rate .y * filterDt)
          (tilt.pitch (-lpf .x) (lpf .y * lpf .y + lpf .z * lpf .z))
        gyroDps := rate } := by
  have hret := mt (readRaw_neg_iff r.res m.bus).mp (not_not_intro h)
  refine ⟨(readRaw r.res m.bus).2, ?_⟩
  rw [update]
  simp only [if_neg hret]
  rfl

/-! ## Two copies -/

/-- Two copies of the module, `n` updates after they had the same average, their biases differed
by `dBias` and their angles by `dRoll` and `dPitch`. -/
structure Mpu.Apart (dRoll dPitch : ℚ) (dBias : SensorAxis → ℚ) (n : ℕ) (m m' : Mpu) : Prop where
  lpf : m.lpf = m'.lpf
  bias : ∀ a, m.gyroBias a - m'.gyroBias a = dBias a
  roll : m.rollDeg - m'.rollDeg = residue cfAlpha (-dBias .x * filterDt) n dRoll
  pitch : m.pitchDeg - m'.pitchDeg = residue cfAlpha (-dBias .y * filterDt) n dPitch
  rate : n ≠ 0 → ∀ a, m.gyroDps a - m'.gyroDps a = -dBias a

section Copies

variable {dRoll dPitch : ℚ} {dBias : SensorAxis → ℚ} {n : ℕ} {m m' : Mpu}

/-- **One update of two copies.** -/
theorem Mpu.Apart.update (h : Mpu.Apart dRoll dPitch dBias n m m') (tilt : Tilt) (r : ImuRead) :
    Mpu.Apart dRoll dPitch dBias (n + readsTaken [r]) (m.update tilt r).2 (m'.update tilt r).2 := by
  have hcf : cfAlpha ≠ 1 := by norm_num [cfAlpha]
  by_cases hr : r.res = .ok
  · have htaken : readsTaken [r] = 1 := by simp [readsTaken, hr]
    have hrate : ∀ a, ((r.gyro a).toInt / gyroScale - m.gyroBias a) -
        ((r.gyro a).toInt / gyroScale - m'.gyroBias a) = -dBias a := by
      intro a
      rw [← h.bias a]
      ring
    obtain ⟨bus, hm⟩ := m.update_of_ok hr tilt
    obtain ⟨bus', hm'⟩ := m'.update_of_ok hr tilt
    rw [htaken, hm, hm']
    refine ⟨?_, h.bias, ?_, ?_, fun _ => hrate⟩
    · simp only [h.lpf]
    · simp only [h.lpf]
      rw [blend_sub_blend, residue_succ hcf, h.roll, ← sub_mul, hrate]
    · simp only [h.lpf]
      rw [blend_sub_blend, residue_succ hcf, h.pitch, ← sub_mul, hrate]
  · have htaken : readsTaken [r] = 0 := by simp [readsTaken, hr]
    rw [htaken, Mpu.update_of_fail hr, Mpu.update_of_fail hr]
    exact ⟨h.lpf, h.bias, h.roll, h.pitch, h.rate⟩

/-- **Some updates of two copies.** -/
theorem Mpu.Apart.updates (h : Mpu.Apart dRoll dPitch dBias n m m') (tilt : Tilt)
    (reads : List ImuRead) :
    Mpu.Apart dRoll dPitch dBias (n + readsTaken reads) (m.updates tilt reads)
      (m'.updates tilt reads) := by
  induction reads generalizing n m m' with
  | nil => exact h
  | cons r reads ih =>
    have htaken : readsTaken (r :: reads) = readsTaken [r] + readsTaken reads := by
      rw [readsTaken, ← List.singleton_append, List.countP_append]
      rfl
    rw [htaken, ← Nat.add_assoc]
    exact ih (h.update tilt r)

end Copies

/-- The average forgets where it started. -/
theorem lpf_updates_sub (tilt : Tilt) (reads : List ImuRead) (m m' : Mpu) (a : SensorAxis) :
    (m.updates tilt reads).lpf a - (m'.updates tilt reads).lpf a =
      (17 / 20) ^ readsTaken reads * (m.lpf a - m'.lpf a) := by
  have hstay : 1 - lpfAlpha = 17 / 20 := by norm_num [lpfAlpha]
  induction reads generalizing m m' with
  | nil => simp [readsTaken, Mpu.updates]
  | cons r reads ih =>
    refine (ih (m.update tilt r).2 (m'.update tilt r).2).trans ?_
    by_cases hr : r.res = .ok
    · have htaken : readsTaken (r :: reads) = readsTaken reads + 1 := by simp [readsTaken, hr]
      obtain ⟨bus, hm⟩ := m.update_of_ok hr tilt
      obtain ⟨bus', hm'⟩ := m'.update_of_ok hr tilt
      rw [htaken, hm, hm', ema_sub_ema, hstay, pow_succ, mul_assoc]
    · have htaken : readsTaken (r :: reads) = readsTaken reads := by simp [readsTaken, hr]
      rw [htaken, Mpu.update_of_fail hr, Mpu.update_of_fail hr]

/-- `residue` at the constants of the complementary filter. -/
theorem residue_cfAlpha (b d : ℚ) (n : ℕ) :
    residue cfAlpha (-b * filterDt) n d =
      (49 / 50) ^ n * d - 49 / 250 * (1 - (49 / 50) ^ n) * b := by
  rw [residue, cfAlpha, filterDt]
  ring

/-- **What two pasts leave**, in exact rational arithmetic.  Two copies of the module in any two states get the same reads.
After `n` of them succeeded, each average differs by `0.85 ^ n` of what it did; and with the
averages alike from the start, each angle differs by `0.98 ^ n` of what it did, and by the
difference of the biases for as much of 0.196 s as the filter has settled. -/
theorem attitude_memory (tilt : Tilt) (m m' : Mpu) (reads : List ImuRead) :
    (∀ a, (m.updates tilt reads).lpf a - (m'.updates tilt reads).lpf a =
      (17 / 20) ^ readsTaken reads * (m.lpf a - m'.lpf a)) ∧
    (m.updates tilt reads).rollDeg - (({ m' with lpf := m.lpf } : Mpu).updates tilt reads).rollDeg =
      (49 / 50) ^ readsTaken reads * (m.rollDeg - m'.rollDeg) -
        49 / 250 * (1 - (49 / 50) ^ readsTaken reads) * (m.gyroBias .x - m'.gyroBias .x) ∧
    (m.updates tilt reads).pitchDeg -
        (({ m' with lpf := m.lpf } : Mpu).updates tilt reads).pitchDeg =
      (49 / 50) ^ readsTaken reads * (m.pitchDeg - m'.pitchDeg) -
        49 / 250 * (1 - (49 / 50) ^ readsTaken reads) * (m.gyroBias .y - m'.gyroBias .y) := by
  have hstart : Mpu.Apart (m.rollDeg - m'.rollDeg) (m.pitchDeg - m'.pitchDeg)
      (fun a => m.gyroBias a - m'.gyroBias a) 0 m { m' with lpf := m.lpf } :=
    ⟨rfl, fun _ => rfl, (residue_zero _).symm, (residue_zero _).symm, fun h => absurd rfl h⟩
  have hend := hstart.updates tilt reads
  rw [Nat.zero_add] at hend
  exact ⟨lpf_updates_sub tilt reads m m', hend.roll.trans (residue_cfAlpha _ _ _),
    hend.pitch.trans (residue_cfAlpha _ _ _)⟩

/-! ## The calibration -/

/-- The globals after `mpu9250_driver_init`. -/
def Mpu.started (ready : Device → Bool) (res : MpuInitReads) : Mpu :=
  (Mpu.reset.driverInit ready res).2

/-- Two inits that differ in the calibration reads alone. -/
theorem apart_started (ready : Device → Bool) (res : MpuInitReads)
    (calib : Fin calibSamples → ImuRead) :
    Mpu.Apart 0 0 (fun a => (Mpu.started ready res).gyroBias a -
      (Mpu.started ready { res with calib }).gyroBias a) 0 (.started ready res)
        (.started ready { res with calib }) := by
  have hsame : (Mpu.started ready res).lpf = (Mpu.started ready { res with calib }).lpf ∧
      (Mpu.started ready res).rollDeg = (Mpu.started ready { res with calib }).rollDeg ∧
      (Mpu.started ready res).pitchDeg = (Mpu.started ready { res with calib }).pitchDeg := by
    have hseed : ∀ (c c' : Fin calibSamples → ImuRead) (m : Mpu),
        ((m.calibrateGyro c).seedLpf res.seed).lpf = ((m.calibrateGyro c').seedLpf res.seed).lpf ∧
        ((m.calibrateGyro c).seedLpf res.seed).rollDeg =
          ((m.calibrateGyro c').seedLpf res.seed).rollDeg ∧
        ((m.calibrateGyro c).seedLpf res.seed).pitchDeg =
          ((m.calibrateGyro c').seedLpf res.seed).pitchDeg := by
      intro c c' m
      obtain ⟨b, g, hc⟩ := m.exists_calibrateGyro c
      obtain ⟨b', g', hc'⟩ := m.exists_calibrateGyro c'
      rw [hc, hc']
      refine ⟨funext fun a => ?_, ?_⟩
      · rw [Mpu.seedLpf_lpf, Mpu.seedLpf_lpf]
      · obtain ⟨_, _, hs⟩ := Mpu.exists_seedLpf res.seed { m with bus := b, gyroBias := g }
        obtain ⟨_, _, hs'⟩ := Mpu.exists_seedLpf res.seed { m with bus := b', gyroBias := g' }
        rw [hs, hs']
        exact ⟨rfl, rfl⟩
    simp only [Mpu.started, Mpu.driverInit]
    split_ifs
    · exact ⟨rfl, rfl, rfl⟩
    · exact ⟨rfl, rfl, rfl⟩
    · exact hseed _ _ _
  obtain ⟨hlpf, hroll, hpitch⟩ := hsame
  exact ⟨hlpf, fun _ => rfl, by rw [hroll, sub_self, residue_zero],
    by rw [hpitch, sub_self, residue_zero], fun h => absurd rfl h⟩

/-- **What a calibration is worth**, in exact rational arithmetic.  Two inits that differ in their calibration reads alone ---
some fail in one and not in the other, or all of them do --- and the same reads after them: the
averages agree, the rates differ by the biases from the first update on, and each angle by the
biases for as much of 0.196 s as the filter has settled. -/
theorem missed_calibration (tilt : Tilt) (ready : Device → Bool) (res : MpuInitReads)
    (calib : Fin calibSamples → ImuRead) (reads : List ImuRead) :
    let m := Mpu.started ready res
    let m' := Mpu.started ready { res with calib }
    (m.updates tilt reads).lpf = (m'.updates tilt reads).lpf ∧
      (readsTaken reads ≠ 0 → ∀ a, (m.updates tilt reads).gyroDps a -
        (m'.updates tilt reads).gyroDps a = -(m.gyroBias a - m'.gyroBias a)) ∧
      (m.updates tilt reads).rollDeg - (m'.updates tilt reads).rollDeg =
        -(49 / 250 * (1 - (49 / 50) ^ readsTaken reads) * (m.gyroBias .x - m'.gyroBias .x)) ∧
      (m.updates tilt reads).pitchDeg - (m'.updates tilt reads).pitchDeg =
        -(49 / 250 * (1 - (49 / 50) ^ readsTaken reads) * (m.gyroBias .y - m'.gyroBias .y)) := by
  intro m m'
  have hend := (apart_started ready res calib).updates tilt reads
  rw [Nat.zero_add] at hend
  refine ⟨hend.lpf, hend.rate, ?_, ?_⟩
  · rw [hend.roll, residue_cfAlpha, mul_zero, zero_sub]
  · rw [hend.pitch, residue_cfAlpha, mul_zero, zero_sub]

end DroneFirmware

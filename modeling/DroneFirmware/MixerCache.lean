import DroneFirmware.Boot

/-!
# The mixer's write cache

`motors_set_from_rc` writes a motor only when the percentage differs from `last_pct`, the
percentage it applied last.  `motors_set_all` drives the same channels and knows nothing of
that cache.  So after a stop or a hold the cache can name a pulse that is no longer in
force, and a mix that asks for the cached percentage writes nothing.

* `Esc.Coherent`: the cache names the pulse in force on every motor.
* `followsMixer_iff`: when a mixing pass leaves the commanded pulses, motor by motor.
* `mixerBounds_reached`: what is true of the cache and the ramp in every reachable state.
* `motors_follow_mixer_iff_coherent`: coherence is exactly what the mixer needs.
-/

namespace DroneFirmware

open Reactive

/-! ## Passes that mix -/

/-- The pass calls `motors_set_from_rc` from `state_flying`, and the rate limit lets it act. -/
def Mixes (s : Firmware) (t : Tick) : Prop :=
  t.i2c = .ok ∧ s.fsm.currentState = .flying ∧ (s.packet t).droneActive = true ∧
    0 < (s.packet t).yLeft.toInt ∧ 20 ≤ t.tNow - s.esc.lastUpdateMs

instance (s : Firmware) (t : Tick) : Decidable (Mixes s t) :=
  inferInstanceAs (Decidable (_ ∧ _))

/-- The ramp value of a mixing pass. -/
def Firmware.ramped (s : Firmware) (t : Tick) : ℤ :=
  rampThrottle s.esc.throttleSmooth (throttleTarget (s.packet t))

/-- The sums `m[i]` of a mixing pass. -/
def Firmware.commanded (s : Firmware) (t : Tick) : Fin numMotors → ℤ :=
  mix (s.ramped t) (s.packet t)

/-- A mixing pass runs the apply loop and changes nothing in the state machine. -/
theorem iterate_of_mixes {s : Firmware} {t : Tick} (h : Mixes s t) :
    (iterate s t).fsm = s.fsm ∧
      (iterate s t).esc = applyMix t.pwm (s.commanded t)
        { s.esc with calls := [], lastUpdateMs := t.tNow, throttleSmooth := s.ramped t } := by
  obtain ⟨hi, hfly, hrc, hy, hlim⟩ := h
  obtain ⟨f, c, htr, hf, hesc⟩ := iterate_cases_of_ok s hi
  have hcmd : f = s.fsm ∧ c = .mix := by
    rcases htr.of_flying hfly with ⟨hrc', -⟩ | ⟨-, hy', -⟩ | ⟨-, -, h⟩
    · simp [hrc] at hrc'
    · omega
    · exact h
  obtain ⟨rfl, rfl⟩ := hcmd
  refine ⟨hf, ?_⟩
  have hlim' : 20 ≤ t.tNow - ({ s.esc with calls := [] } : Esc).lastUpdateMs := hlim
  rw [hesc]
  exact motorsSetFromRc_of_mixes hrc hlim' t.pwm

/-! ## Coherence -/

/-- The cache names the pulse in force on every motor. -/
def Esc.Coherent (e : Esc) : Prop := ∀ i, e.pulseNs i = pulseOf (e.lastPct i)

instance (e : Esc) : Decidable e.Coherent := inferInstanceAs (Decidable (∀ _, _))

/-- After the pass the pulse in force on each motor is 1000 + 10·clamp(m[i], 0, 100) µs. -/
def FollowsMixer (s : Firmware) (t : Tick) : Prop :=
  ∀ i, ((iterate s t).esc.pulseNs i : ℤ) =
    (1000 + 10 * max 0 (min (s.commanded t i) 100)) * 1000

instance (s : Firmware) (t : Tick) : Decidable (FollowsMixer s t) :=
  inferInstanceAs (Decidable (∀ _, _))

theorem pulseOf_clampPct (m : ℤ) :
    (pulseOf (clampPct m) : ℤ) = (1000 + 10 * max 0 (min m 100)) * 1000 := by
  rw [pulseOf, clampPct_toNat]
  omega

/-- What a mixing pass leaves on a motor: the old pulse if the percentage is the cached one. -/
theorem pulseNs_of_mixes {s : Firmware} {t : Tick} (h : Mixes s t) (hpwm : t.PwmOk)
    (i : Fin numMotors) : (iterate s t).esc.pulseNs i =
      if clampPct (s.commanded t i) = s.esc.lastPct i then s.esc.pulseNs i
      else pulseOf (clampPct (s.commanded t i)) := by
  rw [(iterate_of_mixes h).2, applyMix_eq]
  by_cases hc : clampPct (s.commanded t i) = s.esc.lastPct i <;> simp [hc, hpwm.1 i]

/-- A mixing pass leaves the commanded pulses exactly when no motor is skipped whose pulse is
not the cached one. -/
theorem followsMixer_iff {s : Firmware} {t : Tick} (h : Mixes s t) (hpwm : t.PwmOk) :
    FollowsMixer s t ↔
      ∀ i, clampPct (s.commanded t i) = s.esc.lastPct i →
        s.esc.pulseNs i = pulseOf (s.esc.lastPct i) := by
  refine forall_congr' fun i => ?_
  rw [← pulseOf_clampPct, Nat.cast_inj, pulseNs_of_mixes h hpwm]
  split_ifs with hc
  · simp [hc]
  · simp [hc]

/-- A coherent cache makes every mixing pass follow the mixer. -/
theorem followsMixer_of_coherent {s : Firmware} {t : Tick} (h : Mixes s t) (hpwm : t.PwmOk)
    (hc : s.esc.Coherent) : FollowsMixer s t :=
  (followsMixer_iff h hpwm).mpr fun i _ => hc i

/-! ## What every reachable state satisfies -/

/-- The cached percentages are percentages, and the ramp is in the range of the targets. -/
structure MixerBounds (e : Esc) : Prop where
  lastPct_le : ∀ i, (e.lastPct i).toNat ≤ 100
  smooth : 0 ≤ e.throttleSmooth ∧ e.throttleSmooth ≤ throttleTargetMax

theorem mixerBounds_iterate {s : Firmware} (h : MixerBounds s.esc) (t : Tick) :
    MixerBounds (iterate s t).esc := by
  refine iterate_esc_invariant s t (fun e he => ⟨he.1, he.2⟩) (fun pwm p e he => ?_)
    (fun e hrc hy he => ?_) h
  · rw [motorsSetAll_esc]
    exact ⟨he.1, he.2⟩
  · rcases motorsSetFromRc_cases hrc t.tNow t.pwm e with h | h
    · rw [h]
      exact he
    · rw [h, applyMix_eq]
      exact ⟨fun i => clampPct_toNat_le _, rampThrottle_bounds he.2 (throttleTarget_bounds hy)⟩

theorem mixerBounds_reached (env : BootEnv) (ticks : List Tick) :
    MixerBounds (reached env ticks).esc := by
  refine run_invariant (fun s : Firmware => MixerBounds s.esc)
    (fun s t h => mixerBounds_iterate h t) ?_ ticks
  obtain ⟨-, hs, hl⟩ := boot_mixer env
  exact ⟨fun i => by simp [hl], by rw [hs]; decide⟩

/-! ## A packet that asks for the cached percentage -/

/-- The web package made inactive, the package `rc` on the radio, and the rate limit passed. -/
def Tick.asking (rc : DataPackage) (lastUpdateMs : ℤ) : Tick :=
  { Tick.calm (lastUpdateMs + 20) (.received 0 rc) with posts := [⟨0, 0, []⟩] }

theorem Tick.asking_pwmOk (rc : DataPackage) (lastUpdateMs : ℤ) :
    (Tick.asking rc lastUpdateMs).PwmOk := ⟨fun _ => rfl, fun _ => rfl⟩

theorem packet_asking (s : Firmware) (rc : DataPackage) (lastUpdateMs : ℤ) :
    s.packet (.asking rc lastUpdateMs) = rc := by
  have hweb : ∀ now, (droneWebserverGetRc now (handleRc 0 [])).droneActive = false := by
    intro now
    rw [← Bool.not_eq_true, droneWebserverGetRc_active_iff]
    intro hc
    exact absurd hc.1 (by decide)
  have hserve : servePosts (Tick.asking rc lastUpdateMs).posts s.web = handleRc 0 [] := rfl
  have hdata : readData (Tick.asking rc lastUpdateMs).nrf s.data = rc := readData_received 0 rc _
  rw [Firmware.packet, hserve, hdata, arbitrate, if_neg (by simp [hweb])]

/-- In FLYING the pass that asks for an active package with the throttle up mixes. -/
theorem mixes_asking {s : Firmware} {rc : DataPackage} (hfly : s.fsm.currentState = .flying)
    (hrc : rc.droneActive = true) (hy : 0 < rc.yLeft.toInt) :
    Mixes s (.asking rc s.esc.lastUpdateMs) := by
  refine ⟨rfl, hfly, ?_, ?_, ?_⟩
  · rw [packet_asking]
    exact hrc
  · rw [packet_asking]
    exact hy
  · show 20 ≤ s.esc.lastUpdateMs + 20 - s.esc.lastUpdateMs
    omega

/-- Sticks that put the sum `v` on motor `i` when the ramp is at `smooth`. -/
theorem exists_mix_eq {smooth v : ℤ} (hs : |smooth| ≤ throttleTargetMax)
    (hv : 0 ≤ v ∧ v ≤ 100) (i : Fin numMotors) :
    ∃ xRight yRight xLeft : Int16, ∀ rc : DataPackage, rc.xRight = xRight →
      rc.yRight = yRight → rc.xLeft = xLeft → mix smooth rc i = v := by
  rw [throttleTargetMax, abs_le] at hs
  -- no axis alone can cancel the largest ramp, three of them can
  obtain ⟨a, b, c, hsum, ha, hb, hc⟩ : ∃ a b c : ℤ, a + b + c = v - smooth ∧
      (-1000 ≤ a ∧ a ≤ 1000) ∧ (-1000 ≤ b ∧ b ≤ 1000) ∧ (-1000 ≤ c ∧ c ≤ 1000) :=
    ⟨(v - smooth) / 3, (v - smooth) / 3, v - smooth - 2 * ((v - smooth) / 3), by omega,
      by omega, by omega, by omega⟩
  obtain ⟨pitch, roll, yaw, hpitch, hroll, hyaw, hmix⟩ := exists_mix_signs i
  refine ⟨stickFor (roll * a), stickFor (pitch * b), stickFor (yaw * c), fun rc hr hp hy => ?_⟩
  rw [hmix, hr, hp, hy, sign_mul_axisMix_stickFor hroll ha.1 ha.2,
    sign_mul_axisMix_stickFor hpitch hb.1 hb.2, sign_mul_axisMix_stickFor hyaw hc.1 hc.2]
  omega

theorem clampPct_toNat_eq {p : UInt8} (h : p.toNat ≤ 100) : clampPct (p.toNat : ℤ) = p := by
  rw [← UInt8.toNat_inj, clampPct_toNat]
  omega

/-- A package that asks motor `i` for the percentage `p`, from any ramp within the targets. -/
theorem exists_asking {smooth : ℤ} (hs : |smooth| ≤ throttleTargetMax) {p : UInt8}
    (hp : p.toNat ≤ 100) (i : Fin numMotors) :
    ∃ rc : DataPackage, rc.droneActive = true ∧ 0 < rc.yLeft.toInt ∧
      clampPct (mix (rampThrottle smooth (throttleTarget rc)) rc i) = p := by
  have hzero : |(0 : ℤ)| ≤ throttleTargetMax := by decide
  have hpct : (0 : ℤ) ≤ p.toNat ∧ (p.toNat : ℤ) ≤ 100 := by omega
  obtain ⟨yLeft, hy, htarget⟩ := exists_throttleTarget_eq le_rfl
    (show (0 : ℤ) ≤ throttleTargetMax by decide)
  obtain ⟨roll, pitch, yaw, hmix⟩ := exists_mix_eq (rampThrottle_abs_le hs hzero) hpct i
  refine ⟨⟨roll, pitch, yaw, yLeft, true⟩, rfl, hy, ?_⟩
  rw [htarget _ rfl, hmix _ rfl rfl rfl, clampPct_toNat_eq hp]

/-! ## Coherence is exactly what the mixer needs -/

/-- If every mixing pass out of a flying state follows the mixer, the cache is coherent: the
packet that asks an incoherent motor for its cached percentage would be skipped. -/
theorem coherent_of_forall_followsMixer {s : Firmware} (hb : MixerBounds s.esc)
    (hfly : s.fsm.currentState = .flying)
    (h : ∀ t : Tick, t.PwmOk → Mixes s t → FollowsMixer s t) : s.esc.Coherent := by
  intro i
  have hsmooth : |s.esc.throttleSmooth| ≤ throttleTargetMax :=
    abs_le.mpr ⟨le_trans (by decide) hb.smooth.1, hb.smooth.2⟩
  obtain ⟨rc, hrc, hy, hasks⟩ := exists_asking hsmooth (hb.lastPct_le i) i
  have hmixes : Mixes s (.asking rc s.esc.lastUpdateMs) := mixes_asking hfly hrc hy
  have hok := Tick.asking_pwmOk rc s.esc.lastUpdateMs
  refine (followsMixer_iff hmixes hok).mp (h _ hok hmixes) i ?_
  rw [Firmware.commanded, Firmware.ramped, packet_asking, hasks]

/-- The law that motor outputs follow the mixer: in every pass of every run with a working
ESC, a mix leaves the commanded pulse on every motor. -/
def MotorsFollowMixer : Prop :=
  ∀ (env : BootEnv) (ticks : List Tick), env.EscOk → (∀ t ∈ ticks, t.PwmOk) →
    Along iterate (fun s t => Mixes s t → FollowsMixer s t) (boot env) ticks

/-- **The mixer is followed exactly while the cache is coherent.**  Along a run, every mixing
pass that finds the cache coherent leaves the commanded pulses; and a reachable state is one
from which every mixing pass does exactly when, in FLYING, its cache is coherent. -/
theorem motors_follow_mixer_iff_coherent (env : BootEnv) (ticks : List Tick) :
    (Along iterate (fun s t => t.PwmOk ∧ (Mixes s t → s.esc.Coherent)) (boot env) ticks →
      Along iterate (fun s t => Mixes s t → FollowsMixer s t) (boot env) ticks) ∧
    ((∀ t : Tick, t.PwmOk → Mixes (reached env ticks) t → FollowsMixer (reached env ticks) t) ↔
      ((reached env ticks).fsm.currentState = .flying → (reached env ticks).esc.Coherent)) := by
  refine ⟨fun h => h.mono fun s t ⟨hpwm, hc⟩ hm => followsMixer_of_coherent hm hpwm (hc hm), ?_⟩
  constructor
  · intro h hfly
    exact coherent_of_forall_followsMixer (mixerBounds_reached env ticks) hfly h
  · intro hc t hpwm hm
    exact followsMixer_of_coherent hm hpwm (hc hm.2.1)

/-- The pilot's package with neutral sticks and the throttle at `y`. -/
def throttleOnly (y : Int16) : DataPackage := ⟨512, 512, 512, y, true⟩

/-- A pass at `now` in which the radio delivers the throttle `y` with neutral sticks. -/
def Tick.throttle (now : ℤ) (y : Int16) : Tick := .calm now (.received now (throttleOnly y))

/-- Arm, take off, fly at 1 %, cut the throttle, take off again, ask for 1 % again. -/
def throttleCutRun : List Tick :=
  [.throttle 5004 0, .throttle 5504 0, .throttle 5508 60, .throttle 5512 13,
    .throttle 5532 0, .throttle 5536 60, .throttle 5540 13]

/-- **A throttle cut leaves the cache stale.**  In the last pass of `throttleCutRun` the mixer
computes 1 % for every motor and writes none: the motors stay at the 1000 µs of the cut. -/
theorem not_motorsFollowMixer : ¬ MotorsFollowMixer := by
  intro h
  have hrun := h .calm throttleCutRun (by decide) (by decide)
  revert hrun
  decide +kernel

end DroneFirmware

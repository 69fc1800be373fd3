import DroneFirmware.StateOutputs

/-!
# The ramp and the real output

`throttle_smooth` moves by at most 2 per update, but it is the ramp of the mixer and not of
the motors: a throttle cut, a failsafe hold and a landing drive the motors without it, and
only `motors_set_from_rc` under an inactive package --- which no state handler calls ---
would reset it.  So after a stop the next mix resumes where the ramp was.

With neutral sticks every motor is commanded the clamped ramp, and the history shows in
three numbers per motor: the cache, the ramp, and the percentage in force.

* `NeutralInv`: how the three are related in every state of a neutral run.
* `smooth_of_rampInForce`: a ramp not above the real output makes the update smooth.
* `rampInForce_of_forall_smooth`: any other ramp has an update that is not.
* `smooth_thrust_iff_rampInForce`: the two over whole runs.
-/

namespace DroneFirmware

open Reactive

/-! ## Neutral passes -/

/-- If the pass acts on an active package, its sticks are neutral. -/
def NeutralPass (s : Firmware) (t : Tick) : Prop :=
  (s.packet t).droneActive = true → (s.packet t).Neutral

instance (s : Firmware) (t : Tick) : Decidable (NeutralPass s t) :=
  inferInstanceAs (Decidable (_ → _))

/-- The pass raises no motor by more than 2 %. -/
def Smooth (s : Firmware) (t : Tick) : Prop :=
  ∀ i, (iterate s t).esc.percentInForce i ≤ s.esc.percentInForce i + 2

instance (s : Firmware) (t : Tick) : Decidable (Smooth s t) :=
  inferInstanceAs (Decidable (∀ _, _))

/-- The ramp is not above the real output of any motor, or so far above 100 % that one update
cannot bring it below. -/
def Esc.RampInForce (e : Esc) : Prop :=
  105 ≤ e.throttleSmooth ∨ ∀ i, (clampPct e.throttleSmooth).toNat ≤ e.percentInForce i

instance (e : Esc) : Decidable e.RampInForce := inferInstanceAs (Decidable (_ ∨ _))

theorem Mixes.commanded_of_neutral {s : Firmware} {t : Tick} (h : Mixes s t)
    (hn : NeutralPass s t) (i : Fin numMotors) : s.commanded t i = s.ramped t :=
  mix_of_neutral (hn h.2.2.1) _ i

/-- What a neutral mix leaves on a motor. -/
theorem percentInForce_of_mixes {s : Firmware} {t : Tick} (h : Mixes s t) (hpwm : t.PwmOk)
    (hn : NeutralPass s t) (i : Fin numMotors) : (iterate s t).esc.percentInForce i =
      if clampPct (s.ramped t) = s.esc.lastPct i then s.esc.percentInForce i
      else (clampPct (s.ramped t)).toNat := by
  rw [Esc.percentInForce, pulseNs_of_mixes h hpwm, h.commanded_of_neutral hn]
  split_ifs
  · rfl
  · rw [percentOf_pulseOf]
    exact min_eq_left (clampPct_toNat_le _)

/-! ## The invariant of neutral runs -/

/-- In a neutral run the cache is the clamped ramp; and in the air a motor is at the ramp, or
at the hold throttle or below it. -/
structure NeutralInv (s : Firmware) : Prop where
  cached : ∀ i, s.esc.lastPct i = clampPct s.esc.throttleSmooth
  airborne : s.fsm.currentState = .flying ∨ s.fsm.currentState = .failsafe →
    ∀ i, s.esc.percentInForce i ≤ 25 ∨
      s.esc.percentInForce i = (clampPct s.esc.throttleSmooth).toNat

theorem cached_iterate {s : Firmware} {t : Tick} (hn : NeutralPass s t)
    (h : ∀ i, s.esc.lastPct i = clampPct s.esc.throttleSmooth) (i : Fin numMotors) :
    (iterate s t).esc.lastPct i = clampPct (iterate s t).esc.throttleSmooth := by
  refine iterate_esc_invariant (J := fun e => ∀ i, e.lastPct i = clampPct e.throttleSmooth) s t
    (fun e he => he) (fun pwm p e he => ?_) (fun e hrc _ he => ?_) h i
  · rw [motorsSetAll_esc]
    exact he
  · rcases motorsSetFromRc_cases hrc t.tNow t.pwm e with h | h
    · rw [h]
      exact he
    · rw [h, applyMix_eq]
      intro i
      show clampPct _ = clampPct _
      rw [mix_of_neutral (hn hrc)]

/-- A sweep at the hold throttle or below keeps the second part of the invariant. -/
theorem percentInForce_le_of_allAt {e : Esc} {percent : UInt8} (h : e.AllAt percent)
    (hp : percent.toNat ≤ 25) (i : Fin numMotors) : e.percentInForce i ≤ 25 := by
  rw [h.percentInForce i]
  omega

/-- **One pass keeps the invariant.** -/
theorem NeutralInv.step {s : Firmware} {t : Tick} (h : NeutralInv s) (hpwm : t.PwmOk)
    (hn : NeutralPass s t) : NeutralInv (iterate s t) := by
  refine ⟨cached_iterate hn h.cached, fun hair i => ?_⟩
  have hne : (iterate s t).fsm.currentState ≠ .error := by
    rcases hair with h' | h' <;> simp [h']
  obtain ⟨hi, f, c, htr, hf, hesc⟩ := iterate_cases_of_ne_error hne
  rw [hf] at hair
  cases htr with
  | takeOff =>
    rw [hesc]
    exact Or.inl (percentInForce_le_of_allAt (motorsSetAll_allAt hpwm.1 0 _) (by decide) i)
  | hold =>
    rw [hesc]
    exact Or.inl (percentInForce_le_of_allAt (motorsSetAll_allAt hpwm.1 _ _) (by decide) i)
  | loseSignal hs =>
    rw [hesc]
    exact h.airborne (Or.inl hs) i
  | recover hs =>
    rw [hesc]
    exact h.airborne (Or.inr hs) i
  | fly hs hrc hy =>
    by_cases hlim : 20 ≤ t.tNow - s.esc.lastUpdateMs
    · have hmix : Mixes s t := ⟨hi, hs, hrc, hy, hlim⟩
      have hsmooth : (iterate s t).esc.throttleSmooth = s.ramped t := by
        rw [(iterate_of_mixes hmix).2, applyMix_eq]
      rw [percentInForce_of_mixes hmix hpwm hn, hsmooth]
      split_ifs with hc
      · -- a skipped motor keeps its percentage, and the clamped ramp has not moved
        rw [hc, h.cached i]
        exact h.airborne (Or.inl hs) i
      · exact Or.inr rfl
    · have hskip : (iterate s t).esc = { s.esc with calls := [] } := by
        have hlim' : t.tNow - ({ s.esc with calls := [] } : Esc).lastUpdateMs < 20 := not_le.mp hlim
        rw [hesc]
        exact motorsSetFromRc_of_limited hrc hlim' t.pwm
      rw [hskip]
      exact h.airborne (Or.inl hs) i
  | rest h' | startArming h' => rcases h' with h' | h' <;> simp [h'] at hair
  | abortArming h' | confirmArming h' | finishArming h' | disarm h' | stayArmed h' | touchDown h'
  | giveUp h' | descend h' | wait h' | landed h' | fault h' => simp [h'] at hair

theorem neutralInv_reached {env : BootEnv} {ticks : List Tick}
    (h : Along iterate (fun s t => t.PwmOk ∧ NeutralPass s t) (boot env) ticks) :
    NeutralInv (reached env ticks) := by
  refine run_invariant_of NeutralInv (fun s t hs hP => hs.step hP.1 hP.2) ⟨?_, ?_⟩ h
  · obtain ⟨-, hsmooth, hlast⟩ := boot_mixer env
    intro i
    rw [hsmooth, hlast]
    rfl
  · rw [boot_currentState]
    split_ifs <;> simp

/-! ## One update -/

/-- **A ramp not above the real output makes the update smooth.** -/
theorem smooth_of_rampInForce {s : Firmware} {t : Tick} (h : NeutralInv s) (hm : Mixes s t)
    (hpwm : t.PwmOk) (hn : NeutralPass s t) (hramp : s.esc.RampInForce) : Smooth s t := by
  intro i
  have hstep : s.ramped t = s.esc.throttleSmooth +
      max (-5) (min (throttleTarget (s.packet t) - s.esc.throttleSmooth) 2) :=
    rampThrottle_eq _ _
  rw [percentInForce_of_mixes hm hpwm hn, h.cached i]
  split_ifs with hc
  · omega
  · rw [clampPct_eq_iff] at hc
    rw [clampPct_toNat]
    rcases hramp with hbig | hle
    · omega
    · have hi := hle i
      rw [clampPct_toNat] at hi
      omega

/-- **Any other ramp has an update that is not smooth**: one step up, or one step down out of
saturation. -/
theorem rampInForce_of_forall_smooth {s : Firmware} (h : NeutralInv s) (hb : MixerBounds s.esc)
    (hfly : s.fsm.currentState = .flying)
    (hall : ∀ t : Tick, t.PwmOk → NeutralPass s t → Mixes s t → Smooth s t) :
    s.esc.RampInForce := by
  by_contra hnot
  rw [Esc.RampInForce, not_or, not_forall, not_le] at hnot
  obtain ⟨hsmall, i, hi⟩ := hnot
  obtain ⟨target, htarget⟩ : ∃ target : ℤ, target =
      if s.esc.throttleSmooth < 100 then s.esc.throttleSmooth + 2
      else s.esc.throttleSmooth - 5 := ⟨_, rfl⟩
  have hs := hb.smooth
  have hbounds : 0 ≤ target ∧ target ≤ throttleTargetMax := by
    rw [throttleTargetMax]
    split_ifs at htarget <;> omega
  obtain ⟨yLeft, hy, hy'⟩ := exists_throttleTarget_eq hbounds.1 hbounds.2
  obtain ⟨rc, hrc⟩ : ∃ rc : DataPackage, rc = ⟨512, 512, 512, yLeft, true⟩ := ⟨_, rfl⟩
  have hm : Mixes s (.asking rc s.esc.lastUpdateMs) :=
    mixes_asking hfly (by rw [hrc]) (by rw [hrc]; exact hy)
  have hok := Tick.asking_pwmOk rc s.esc.lastUpdateMs
  have hn : NeutralPass s (.asking rc s.esc.lastUpdateMs) := by
    intro _
    rw [packet_asking, hrc]
    exact ⟨rfl, rfl, rfl⟩
  have hramped : s.ramped (.asking rc s.esc.lastUpdateMs) = target := by
    rw [Firmware.ramped, packet_asking, hy' rc (by rw [hrc]), rampThrottle_eq]
    split_ifs at htarget <;> omega
  have hsm := hall _ hok hn hm i
  rw [percentInForce_of_mixes hm hok hn, hramped, h.cached i] at hsm
  rw [clampPct_toNat] at hi
  have hair := h.airborne (Or.inl hfly) i
  rw [clampPct_toNat] at hair
  split_ifs at hsm with hc
  · rw [clampPct_eq_iff] at hc
    split_ifs at htarget <;> omega
  · rw [clampPct_toNat] at hsm
    split_ifs at htarget <;> omega

/-! ## Runs -/

/-- The law of smooth thrust: with neutral sticks in every package of the run, an update raises
no motor by more than 2 %. -/
def SmoothThrust : Prop :=
  ∀ (env : BootEnv) (ticks : List Tick), env.EscOk → (∀ t ∈ ticks, t.PwmOk) →
    Along iterate (fun s t => (s.packet t).Neutral) (boot env) ticks →
      Along iterate (fun s t => Mixes s t → Smooth s t) (boot env) ticks

/-- **Thrust is smooth exactly while the ramp is in force.**  In a neutral run, every update
that finds the ramp in force is smooth; and from a flying state of the run every neutral
update is smooth exactly when the ramp is in force there. -/
theorem smooth_thrust_iff_rampInForce (env : BootEnv) (ticks : List Tick)
    (h : Along iterate (fun s t => t.PwmOk ∧ NeutralPass s t) (boot env) ticks) :
    (Along iterate (fun s t => Mixes s t → s.esc.RampInForce) (boot env) ticks →
      Along iterate (fun s t => Mixes s t → Smooth s t) (boot env) ticks) ∧
    ((reached env ticks).fsm.currentState = .flying →
      ((∀ t : Tick, t.PwmOk → NeutralPass (reached env ticks) t → Mixes (reached env ticks) t →
          Smooth (reached env ticks) t) ↔ (reached env ticks).esc.RampInForce)) := by
  constructor
  · intro hramp
    rw [along_iff] at hramp ⊢
    rintro pre t post rfl hm
    rw [along_append, along_cons] at h
    exact smooth_of_rampInForce (neutralInv_reached h.1) hm h.2.1.1 h.2.1.2
      (hramp pre t post rfl hm)
  · intro hfly
    have hinv := neutralInv_reached h
    constructor
    · exact rampInForce_of_forall_smooth hinv (mixerBounds_reached env ticks) hfly
    · exact fun hramp t hpwm hn hm => smooth_of_rampInForce hinv hm hpwm hn hramp

/-- Arm, take off, ramp up to 4 %, cut the throttle, take off again, ask for the throttle again. -/
def rampCutRun : List Tick :=
  [.throttle 5004 0, .throttle 5504 0, .throttle 5508 60, .throttle 5512 600, .throttle 5532 600,
    .throttle 5552 0, .throttle 5556 60, .throttle 5560 600]

theorem smooth_thrust_iff_rampInForce_rampCutRun :
    (Along iterate (fun s t => Mixes s t → s.esc.RampInForce) (boot .calm) rampCutRun →
      Along iterate (fun s t => Mixes s t → Smooth s t) (boot .calm) rampCutRun) ∧
    ((reached .calm rampCutRun).fsm.currentState = .flying →
      ((∀ t : Tick, t.PwmOk → NeutralPass (reached .calm rampCutRun) t →
          Mixes (reached .calm rampCutRun) t → Smooth (reached .calm rampCutRun) t) ↔
        (reached .calm rampCutRun).esc.RampInForce)) :=
  smooth_thrust_iff_rampInForce .calm rampCutRun (by decide +kernel)

/-- **The ramp survives the throttle cut.**  The first update of the second flight commands 6 %
to motors that are at 0 %. -/
theorem not_smoothThrust : ¬ SmoothThrust := by
  intro h
  have hrun := h .calm rampCutRun (by decide) (by decide) (by decide +kernel)
  revert hrun
  decide +kernel

end DroneFirmware

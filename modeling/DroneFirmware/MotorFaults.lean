import DroneFirmware.StateOutputs

/-!
# Motor faults

Nobody acts on a result of `pwm_set` once the main loop runs: `motors_set_all` collects the
results and the state machine drops them, and `motors_set_from_rc` drops each.  So a fault of a
motor driver reaches nothing but the pulse of its own motor.

* `Firmware.AlikeOn`: two states that differ in the pulses of some motors only.
* `Firmware.AlikeOn.iterate`: a pass on which the `pwm_set` calls of those motors go differently.
* `motor_faults_isolated`: every run.
-/

namespace DroneFirmware

open Reactive

/-- A pass whose `pwm_set` calls go another way. -/
def Tick.withPwm (pwm pwmStop : PwmResults) (t : Tick) : Tick := { t with pwm, pwmStop }

/-! ## The motor controller -/

/-- Two controllers that differ in the pulses of motors outside `I` only. -/
def Esc.AlikeOn (I : Fin numMotors → Prop) (e e' : Esc) : Prop :=
  ∃ pulseNs, e' = { e with pulseNs } ∧ ∀ i, I i → e.pulseNs i = pulseNs i

section Controller

variable {I : Fin numMotors → Prop} {e e' : Esc} {pwm pwm' : PwmResults}
  (hpwm : ∀ i, I i → pwm i = pwm' i)

include hpwm

theorem Esc.AlikeOn.motorsSetAll (h : e.AlikeOn I e') (percent : UInt8) :
    (DroneFirmware.motorsSetAll pwm percent e).2.AlikeOn I
      (DroneFirmware.motorsSetAll pwm' percent e').2 := by
  obtain ⟨pulseNs, rfl, hpulse⟩ := h
  rw [motorsSetAll_esc, motorsSetAll_esc]
  refine ⟨_, rfl, fun i hi => ?_⟩
  show (if _ then _ else _) = if _ then _ else _
  rw [hpwm i hi, hpulse i hi]

theorem Esc.AlikeOn.applyMix (h : e.AlikeOn I e') (m : Fin numMotors → ℤ) :
    (DroneFirmware.applyMix pwm m e).AlikeOn I (DroneFirmware.applyMix pwm' m e') := by
  obtain ⟨pulseNs, rfl, hpulse⟩ := h
  rw [applyMix_eq, applyMix_eq]
  refine ⟨_, rfl, fun i hi => ?_⟩
  show (if _ then _ else _) = if _ then _ else _
  rw [hpwm i hi, hpulse i hi]

theorem Esc.AlikeOn.motorsSetFromRc (h : e.AlikeOn I e') (now : ℤ) {rc : DataPackage}
    (hrc : rc.droneActive = true) :
    (DroneFirmware.motorsSetFromRc now pwm rc e).AlikeOn I
      (DroneFirmware.motorsSetFromRc now pwm' rc e') := by
  have hlast : e'.lastUpdateMs = e.lastUpdateMs ∧ e'.throttleSmooth = e.throttleSmooth := by
    obtain ⟨pulseNs, rfl, -⟩ := h
    exact ⟨rfl, rfl⟩
  rcases lt_or_ge (now - e.lastUpdateMs) 20 with hlim | hlim
  · rw [motorsSetFromRc_of_limited hrc hlim, motorsSetFromRc_of_limited hrc (by omega)]
    exact h
  · rw [motorsSetFromRc_of_mixes hrc hlim, motorsSetFromRc_of_mixes hrc (by omega), hlast.2]
    refine Esc.AlikeOn.applyMix hpwm ?_ _
    obtain ⟨pulseNs, rfl, hpulse⟩ := h
    exact ⟨pulseNs, rfl, hpulse⟩

end Controller

/-! ## A pass -/

/-- Two states that differ in the pulses of motors outside `I` only. -/
def Firmware.AlikeOn (I : Fin numMotors → Prop) (s s' : Firmware) : Prop :=
  ∃ esc, s' = { s with esc } ∧ s.esc.AlikeOn I esc

theorem Firmware.AlikeOn.refl (I : Fin numMotors → Prop) (s : Firmware) : s.AlikeOn I s :=
  ⟨s.esc, rfl, s.esc.pulseNs, rfl, fun _ _ => rfl⟩

section Pass

variable {I : Fin numMotors → Prop} {t : Tick} {pwm' stop' : PwmResults} {s s' : Firmware}
  (hpwm : ∀ i, I i → t.pwm i = pwm' i)

include hpwm

/-- **The `switch`** makes the same transition in both. -/
theorem Firmware.AlikeOn.dispatch (h : s.AlikeOn I s') (rc : DataPackage) :
    (DroneFirmware.dispatch t rc s).AlikeOn I
      (DroneFirmware.dispatch (t.withPwm pwm' stop') rc s') := by
  obtain ⟨esc, rfl, hesc⟩ := h
  obtain ⟨f, c, htr, hd⟩ := dispatch_refines t rc s
  obtain ⟨f', c', htr', hd'⟩ := dispatch_refines (t.withPwm pwm' stop') rc { s with esc }
  obtain ⟨rfl, rfl⟩ := htr.unique htr' rfl rfl rfl
  rw [hd, hd']
  refine ⟨_, rfl, ?_⟩
  cases c with
  | keep => exact hesc
  | all percent => exact hesc.motorsSetAll hpwm percent
  | mix =>
    have hrc : rc.droneActive = true := by
      cases htr with
      | fly _ hrc => exact hrc
    exact hesc.motorsSetFromRc hpwm _ hrc

/-- **A pass** on which the calls on the motors of `I` go the same. -/
theorem Firmware.AlikeOn.iterate (hstop : ∀ i, I i → t.pwmStop i = stop' i)
    (h : s.AlikeOn I s') :
    (DroneFirmware.iterate s t).AlikeOn I (DroneFirmware.iterate s' (t.withPwm pwm' stop')) := by
  rw [iterate_eq_dispatch, iterate_eq_dispatch]
  have hpacket : s'.packet (t.withPwm pwm' stop') = s.packet t := by
    obtain ⟨esc, rfl, -⟩ := h
    rfl
  rw [hpacket]
  refine Firmware.AlikeOn.dispatch hpwm ?_ _
  obtain ⟨esc, rfl, pulseNs, rfl, hpulse⟩ := h
  refine ⟨_, rfl, ?_⟩
  show Esc.AlikeOn I (s.escPolled t) (Firmware.escPolled { s with esc := { s.esc with pulseNs } } _)
  have hclear : Esc.AlikeOn I { s.esc with calls := [] } { s.esc with pulseNs, calls := [] } :=
    ⟨pulseNs, rfl, hpulse⟩
  by_cases hfail : t.i2c ≠ .ok ∧ s.fsm.currentState ≠ .error
  · have hpolled : s.escPolled t = _ := if_pos hfail
    have hpolled' : Firmware.escPolled { s with esc := { s.esc with pulseNs } }
      (t.withPwm pwm' stop') = _ := if_pos hfail
    rw [hpolled, hpolled']
    exact hclear.motorsSetAll hstop 0
  · have hpolled : s.escPolled t = _ := if_neg hfail
    have hpolled' : Firmware.escPolled { s with esc := { s.esc with pulseNs } }
      (t.withPwm pwm' stop') = _ := if_neg hfail
    rw [hpolled, hpolled']
    exact hclear

end Pass

/-! ## Runs -/

/-- **Motor faults are isolated, and never noticed.**  Two runs that differ only in how `pwm_set`
goes: after every pass the firmware is in the same state, has latched the same package and made
the same driver calls with the same pulses; and a motor whose own calls go the same in both is at
the same pulse, whatever happens to the others. -/
theorem motor_faults_isolated (env : BootEnv) (ticks : List (Tick × PwmResults × PwmResults)) :
    let s := reached env (ticks.map Prod.fst)
    let s' := reached env (ticks.map fun x => x.1.withPwm x.2.1 x.2.2)
    s' = { s with esc := { s.esc with pulseNs := s'.esc.pulseNs } } ∧
      ∀ i, (∀ x ∈ ticks, x.1.pwm i = x.2.1 i ∧ x.1.pwmStop i = x.2.2 i) →
        s'.esc.pulseNs i = s.esc.pulseNs i := by
  intro s s'
  obtain ⟨I, hI⟩ : ∃ I : Fin numMotors → Prop,
      ∀ i, I i ↔ ∀ x ∈ ticks, x.1.pwm i = x.2.1 i ∧ x.1.pwmStop i = x.2.2 i :=
    ⟨_, fun _ => Iff.rfl⟩
  have hrun : (run iterate (boot env) (ticks.attach.map fun x => x.1.1)).AlikeOn I
      (run iterate (boot env) (ticks.attach.map fun x => x.1.1.withPwm x.1.2.1 x.1.2.2)) :=
    run_related (fun _ _ x h => h.iterate (fun i hi => ((hI i).mp hi x.1 x.2).1)
      fun i hi => ((hI i).mp hi x.1 x.2).2) (.refl I (boot env)) ticks.attach
  rw [List.attach_map_val (f := Prod.fst), List.attach_map_val
    (f := fun x : Tick × PwmResults × PwmResults => x.1.withPwm x.2.1 x.2.2)] at hrun
  obtain ⟨esc, hs, pulseNs, hesc, hpulse⟩ : s.AlikeOn I s' := hrun
  refine ⟨?_, fun i hi => ?_⟩
  · rw [hs, hesc]
  · rw [hs, hesc]
    exact (hpulse i ((hI i).mpr hi)).symm

end DroneFirmware

import DroneFirmware.MixerCache
import DroneFirmware.SliderCodec

/-!
# Sticks out of range

The ramp is meant to stay within 0 to `MOTOR_THROTTLE_MAX` and a correction within
`MOTOR_MIXING_MAX` of zero, so that no motor is driven to its end by the throttle alone.  The
web server clamps its sticks to the range these limits are made for.  The receiver copies what
the radio sends.

* `axisMix_le_iff`, `rampThrottle_le_iff`: what the limits ask of the sticks.
* `throttleSmooth_iterate`: only a mix moves the ramp.
* `contained_iff`: one call of the mixer, from a ramp within its limits.
* `contained_iff_inReach`: the calls of a whole run, and of both links.
-/

namespace DroneFirmware

open Reactive

/-! ## The limits of the mixer -/

/-- The ramp is within 0 to `MOTOR_THROTTLE_MAX`. -/
def Esc.RampInRange (e : Esc) : Prop := 0 ≤ e.throttleSmooth ∧ e.throttleSmooth ≤ motorThrottleMax

/-- Every correction of the package is within `MOTOR_MIXING_MAX` of zero. -/
def DataPackage.CorrectionsInRange (rc : DataPackage) : Prop :=
  |axisMix rc.xRight| ≤ motorMixingMax ∧ |axisMix rc.yRight| ≤ motorMixingMax ∧
    |axisMix rc.xLeft| ≤ motorMixingMax

instance (e : Esc) : Decidable e.RampInRange := inferInstanceAs (Decidable (_ ∧ _))

instance (rc : DataPackage) : Decidable rc.CorrectionsInRange :=
  inferInstanceAs (Decidable (_ ∧ _))

/-- The pass calls `motors_set_from_rc`. -/
def CallsMixer (s : Firmware) (t : Tick) : Prop :=
  t.i2c = .ok ∧ s.fsm.currentState = .flying ∧ (s.packet t).droneActive = true ∧
    0 < (s.packet t).yLeft.toInt

/-- **The call is contained.**  It leaves the ramp in its range, and the corrections it
computes, if the rate limit lets it, are in theirs. -/
def Contained (s : Firmware) (t : Tick) : Prop :=
  (iterate s t).esc.RampInRange ∧
    (20 ≤ t.tNow - s.esc.lastUpdateMs → (s.packet t).CorrectionsInRange)

instance (s : Firmware) (t : Tick) : Decidable (CallsMixer s t) :=
  inferInstanceAs (Decidable (_ ∧ _))

instance (s : Firmware) (t : Tick) : Decidable (Contained s t) :=
  inferInstanceAs (Decidable (_ ∧ _))

/-- These are the passes in which the automaton tells the motors to follow the mixer. -/
theorem callsMixer_iff (s : Firmware) (t : Tick) :
    CallsMixer s t ↔ ∃ f, Transition t (s.packet t) (s.fsm.polled t) f .mix := by
  constructor
  · rintro ⟨hi, hfly, hrc, hy⟩
    rw [Fsm.polled_of_ok hi]
    exact ⟨_, .fly hfly hrc hy⟩
  · rintro ⟨f, htr⟩
    cases htr with
    | fly hfly hrc hy =>
      have hi : t.i2c = .ok := by
        by_contra hi
        rw [Fsm.polled_of_fail hi] at hfly
        cases hfly
      rw [Fsm.polled_of_ok hi] at hfly
      exact ⟨hi, hfly, hrc, hy⟩

theorem mixes_iff (s : Firmware) (t : Tick) :
    Mixes s t ↔ CallsMixer s t ∧ 20 ≤ t.tNow - s.esc.lastUpdateMs := by
  rw [Mixes, CallsMixer, and_assoc, and_assoc, and_assoc]

/-! ## What the limits ask of the sticks -/

/-- A stick whose correction is within its limit. -/
def StickInReach (stick : Int16) : Prop := -24 ≤ stick.toInt ∧ stick.toInt ≤ 1048

/-- The sticks are within the reach of the corrections, and the throttle is too, unless the
ramp has two updates left to get there. -/
def InReach (s : Firmware) (t : Tick) : Prop :=
  (StickInReach (s.packet t).xRight ∧ StickInReach (s.packet t).yRight ∧
    StickInReach (s.packet t).xLeft) ∧
  ((s.packet t).yLeft.toInt ≤ 1035 ∨ s.esc.throttleSmooth ≤ 78)

instance (stick : Int16) : Decidable (StickInReach stick) := inferInstanceAs (Decidable (_ ∧ _))

instance (s : Firmware) (t : Tick) : Decidable (InReach s t) :=
  inferInstanceAs (Decidable (_ ∧ _))

theorem axisMix_le_iff (stick : Int16) : |axisMix stick| ≤ motorMixingMax ↔ StickInReach stick := by
  have hhalf : (1023 : ℤ).tdiv 2 = 511 := by decide
  rw [axisMix, StickInReach, rcCenter, motorMixingMax, rcMax, hhalf, abs_le]
  rcases le_total 0 ((stick.toInt - 512) * 20) with h0 | h0
  · rw [Int.tdiv_eq_ediv_of_nonneg h0]
    omega
  · rw [tdiv_of_nonpos h0]
    omega

theorem correctionsInRange_iff (rc : DataPackage) : rc.CorrectionsInRange ↔
    StickInReach rc.xRight ∧ StickInReach rc.yRight ∧ StickInReach rc.xLeft := by
  rw [DataPackage.CorrectionsInRange, axisMix_le_iff, axisMix_le_iff, axisMix_le_iff]

theorem throttleTarget_le_iff {rc : DataPackage} (h : 0 < rc.yLeft.toInt) :
    throttleTarget rc ≤ motorThrottleMax ↔ rc.yLeft.toInt ≤ 1035 := by
  rw [throttleTarget, motorThrottleMax, rcMax, Int.tdiv_eq_ediv_of_nonneg (by omega)]
  omega

/-- **The ramp overshoots its range only from its upper end**, for a target beyond it. -/
theorem rampThrottle_le_iff {smooth target : ℤ} (hs : 0 ≤ smooth ∧ smooth ≤ motorThrottleMax)
    (ht : 0 ≤ target) :
    (0 ≤ rampThrottle smooth target ∧ rampThrottle smooth target ≤ motorThrottleMax) ↔
      target ≤ motorThrottleMax ∨ smooth ≤ 78 := by
  rw [motorThrottleMax] at hs ⊢
  rw [rampThrottle_eq]
  omega

/-! ## One pass -/

/-- **Only a mix moves the ramp.** -/
theorem throttleSmooth_iterate (s : Firmware) (t : Tick) :
    (iterate s t).esc.throttleSmooth =
      if Mixes s t then s.ramped t else s.esc.throttleSmooth := by
  by_cases hm : Mixes s t
  · rw [if_pos hm, (iterate_of_mixes hm).2, applyMix_eq]
  · rw [if_neg hm]
    have hpolled : (s.escPolled t).throttleSmooth = s.esc.throttleSmooth := by
      rw [Firmware.escPolled]
      split_ifs
      · rw [motorsSetAll_esc]
      · rfl
    obtain ⟨f, c, htr, -, hesc⟩ := iterate_cases s t
    rw [hesc, ← hpolled]
    cases c with
    | keep => rfl
    | all percent => rw [MotorCommand.perform, motorsSetAll_esc]
    | mix =>
      -- the automaton flies, so it is the rate limit that stops the mixer
      have hcall := (callsMixer_iff s t).mpr ⟨f, htr⟩
      have hlim : t.tNow - (s.escPolled t).lastUpdateMs < 20 := by
        rw [mixes_iff, not_and] at hm
        rw [Firmware.escPolled_of_ok hcall.1]
        exact not_le.mp (hm hcall)
      rw [MotorCommand.perform, motorsSetFromRc_of_limited hcall.2.2.1 hlim]

/-- From a ramp in its range, a call of the mixer is contained exactly when it is rate-limited
or its package is in reach. -/
theorem contained_iff {s : Firmware} (hs : s.esc.RampInRange) (t : Tick) :
    (CallsMixer s t → Contained s t) ↔ (Mixes s t → InReach s t) := by
  by_cases hcall : CallsMixer s t
  · rw [Contained, Esc.RampInRange, throttleSmooth_iterate]
    by_cases hlim : 20 ≤ t.tNow - s.esc.lastUpdateMs
    · have hm : Mixes s t := (mixes_iff s t).mpr ⟨hcall, hlim⟩
      have htarget := (throttleTarget_bounds hcall.2.2.2).1
      simp only [hcall, hm, hlim, if_true, true_imp_iff]
      rw [InReach, correctionsInRange_iff, Firmware.ramped, rampThrottle_le_iff hs htarget,
        throttleTarget_le_iff hcall.2.2.2]
      exact and_comm
    · have hm : ¬ Mixes s t := fun hm => hlim ((mixes_iff s t).mp hm).2
      simp only [hcall, hm, hlim, if_false, false_imp_iff, true_imp_iff, and_true, iff_true]
      exact hs
  · have hm : ¬ Mixes s t := fun hm => hcall ((mixes_iff s t).mp hm).1
    simp [hcall, hm]

/-- A pass that is contained if it calls the mixer leaves the ramp in its range. -/
theorem rampInRange_iterate {s : Firmware} {t : Tick} (hs : s.esc.RampInRange)
    (h : CallsMixer s t → Contained s t) : (iterate s t).esc.RampInRange := by
  by_cases hcall : CallsMixer s t
  · exact (h hcall).1
  · have hm : ¬ Mixes s t := fun hm => hcall ((mixes_iff s t).mp hm).1
    rw [Esc.RampInRange, throttleSmooth_iterate, if_neg hm]
    exact hs

/-! ## The sticks of the web page -/

/-- All four sticks are within 0 to `RC_MAX`. -/
def DataPackage.SticksInRange (rc : DataPackage) : Prop :=
  (0 ≤ rc.xRight.toInt ∧ rc.xRight.toInt ≤ rcMax) ∧
    (0 ≤ rc.yRight.toInt ∧ rc.yRight.toInt ≤ rcMax) ∧
    (0 ≤ rc.xLeft.toInt ∧ rc.xLeft.toInt ≤ rcMax) ∧
    0 ≤ rc.yLeft.toInt ∧ rc.yLeft.toInt ≤ rcMax

instance (rc : DataPackage) : Decidable rc.SticksInRange :=
  inferInstanceAs (Decidable (_ ∧ _ ∧ _ ∧ _))

/-- **`handle_rc` stores sticks in range**, whatever the body. -/
theorem packageOfBody_sticksInRange (body : List UInt8) : (packageOfBody body).SticksInRange := by
  have hclamp : ∀ v : ℤ, 0 ≤ (clamp16 v 0 rcMax).toInt ∧ (clamp16 v 0 rcMax).toInt ≤ rcMax := by
    intro v
    have hmax : rcMax = 1023 := rfl
    rw [clamp16_toInt, rcClamp]
    omega
  exact ⟨hclamp _, hclamp _, hclamp _, hclamp _⟩

theorem servePosts_sticksInRange {w : Web} (hw : w.wifiRc.SticksInRange) (posts : List Post) :
    (servePosts posts w).wifiRc.SticksInRange := by
  induction posts using List.reverseRecOn with
  | nil => exact hw
  | append_singleton posts p _ =>
    rw [servePosts_concat]
    exact packageOfBody_sticksInRange p.body

/-- Staleness clears the flag and leaves the sticks. -/
theorem droneWebserverGetRc_sticksInRange {w : Web} (hw : w.wifiRc.SticksInRange) (now : ℤ) :
    (droneWebserverGetRc now w).SticksInRange := by
  rw [droneWebserverGetRc]
  split_ifs
  · exact hw
  · exact hw

theorem inReach_of_sticksInRange {s : Firmware} {t : Tick} (h : (s.packet t).SticksInRange) :
    InReach s t := by
  have hmax : rcMax = 1023 := rfl
  obtain ⟨hroll, hpitch, hyaw, hthrottle⟩ := h
  rw [InReach, StickInReach, StickInReach, StickInReach]
  omega

/-! ## Runs -/

/-- Every call of the mixer is contained, in every run. -/
def MixerContained : Prop :=
  ∀ (env : BootEnv) (ticks : List Tick),
    Along iterate (fun s t => CallsMixer s t → Contained s t) (boot env) ticks

/-- **The mixer is contained exactly as far as the radio's sticks are.**  The calls of a run
are contained exactly when every mixing pass acts on a package in reach; a pass that acts on the
web package always does. -/
theorem contained_iff_inReach (env : BootEnv) (ticks : List Tick) :
    (Along iterate (fun s t => CallsMixer s t → Contained s t) (boot env) ticks ↔
      Along iterate (fun s t => Mixes s t → InReach s t) (boot env) ticks) ∧
    Along iterate (fun s t =>
      (droneWebserverGetRc t.tWeb (servePosts t.posts s.web)).droneActive = true → InReach s t)
      (boot env) ticks := by
  constructor
  · refine along_congr_of (fun s : Firmware => s.esc.RampInRange)
      (fun s t hs => contained_iff hs t) (fun s t hs h => rampInRange_iterate hs h) ?_ ticks
    obtain ⟨-, hsmooth, -⟩ := boot_mixer env
    rw [Esc.RampInRange, hsmooth]
    decide
  · rw [along_iff]
    rintro pre t post - hweb
    have hreached : (run iterate (boot env) pre).web.wifiRc.SticksInRange := by
      refine run_invariant (fun s : Firmware => s.web.wifiRc.SticksInRange) (fun s t h => ?_) ?_ pre
      · rw [iterate_web]
        exact servePosts_sticksInRange h t.posts
      · rw [boot_web]
        decide
    refine inReach_of_sticksInRange ?_
    rw [Firmware.packet, arbitrate, if_pos hweb]
    exact droneWebserverGetRc_sticksInRange (servePosts_sticksInRange hreached t.posts) t.tWeb

/-- A radio package with every channel at the end of its type. -/
def fullDeflection : DataPackage := ⟨0x7FFF, 0x7FFF, 0x7FFF, 0x7FFF, true⟩

/-- Arm, take off, and fly for forty-one updates on the package at the end of its type. -/
def overdrivenRun : List Tick :=
  [.throttle 5004 0, .throttle 5504 0, .throttle 5508 60] ++
    (List.range 41).map fun k =>
      .calm (5512 + 20 * k) (.received (5512 + 20 * k) fullDeflection)

/-- **The radio drives the mixer out of its limits**: the ramp passes `MOTOR_THROTTLE_MAX`, and
a correction is sixty times `MOTOR_MIXING_MAX`. -/
theorem not_mixerContained :
    ¬ MixerContained ∧ (reached .calm overdrivenRun).esc.throttleSmooth = 82 ∧
      axisMix fullDeflection.xRight = 1262 := by
  refine ⟨fun h => ?_, by decide +kernel, by decide⟩
  have hrun := h .calm overdrivenRun
  revert hrun
  decide +kernel

end DroneFirmware

import DroneFirmware.Boot
import DroneFirmware.MixerArithmetic

/-!
# Left and right

The X frame is symmetric about its long axis: exchanging the left and the right motors is the
same as reversing roll and yaw.  The firmware keeps the symmetry in every detail that could
break it --- the truncating divisions, the clamps, the write cache, the rate limit --- so two
flights with mirrored sticks are mirror images, for as long as they last.

* `axisMix_mirror`: the division is odd about the center of the stick.
* `mix_mirror`: mirrored sticks exchange the sums of the left and the right motors.
* `Esc.Mirrors.step`: one call on each side.
* `left_right_symmetry`: two whole runs.
-/

namespace DroneFirmware

open Reactive

/-! ## Mirrored calls -/

/-- The motor on the other side of the frame. -/
def mirrorMotor : Fin numMotors → Fin numMotors :=
  ![motorFrontRight, motorFrontLeft, motorRearRight, motorRearLeft]

/-- Two calls of `motors_set_from_rc`, one in each of two runs: same clock, same flag, throttle
and pitch, roll and yaw sticks mirrored about `1024 / 2`; every `pwm_set` succeeds. -/
structure MirroredCalls where
  one : RcCall
  other : RcCall
  now : other.now = one.now
  droneActive : other.rc.droneActive = one.rc.droneActive
  yLeft : other.rc.yLeft = one.rc.yLeft
  yRight : other.rc.yRight = one.rc.yRight
  xRight : other.rc.xRight.toInt = 1024 - one.rc.xRight.toInt
  xLeft : other.rc.xLeft.toInt = 1024 - one.rc.xLeft.toInt
  onePwm : ∀ i, one.pwm i = .ok
  otherPwm : ∀ i, other.pwm i = .ok

/-- The call returns early on the rate limit. -/
def RcCall.Limited (c : RcCall) (e : Esc) : Prop :=
  c.rc.droneActive = true ∧ c.now - e.lastUpdateMs < 20

/-- Two controllers that are mirror images: equal ramps and rate limits, exchanged caches and
pulses. -/
structure Esc.Mirrors (e e' : Esc) : Prop where
  lastUpdateMs : e'.lastUpdateMs = e.lastUpdateMs
  throttleSmooth : e'.throttleSmooth = e.throttleSmooth
  lastPct : ∀ i, e'.lastPct i = e.lastPct (mirrorMotor i)
  pulseNs : ∀ i, e'.pulseNs i = e.pulseNs (mirrorMotor i)

/-- The same calls are rate-limited. -/
theorem Esc.Mirrors.limited_iff {e e' : Esc} (h : e.Mirrors e') (c : MirroredCalls) :
    c.other.Limited e' ↔ c.one.Limited e := by
  rw [RcCall.Limited, RcCall.Limited, c.droneActive, c.now, h.lastUpdateMs]

/-! ## The arithmetic -/

/-- **The division is odd about the center.** -/
theorem axisMix_mirror {stick stick' : Int16} (h : stick'.toInt = 1024 - stick.toInt) :
    axisMix stick' = -axisMix stick := by
  have hoffset : (stick'.toInt - rcCenter) * motorMixingMax =
      -((stick.toInt - rcCenter) * motorMixingMax) := by
    rw [h, rcCenter]
    ring
  rw [axisMix, axisMix, hoffset, Int.neg_tdiv]

/-- **Mirrored sticks exchange the sides of the frame.** -/
theorem mix_mirror (c : MirroredCalls) (smooth : ℤ) (i : Fin numMotors) :
    mix smooth c.other.rc i = mix smooth c.one.rc (mirrorMotor i) := by
  have hroll := axisMix_mirror c.xRight
  have hyaw := axisMix_mirror c.xLeft
  have hpitch : axisMix c.other.rc.yRight = axisMix c.one.rc.yRight := by rw [c.yRight]
  have hmotors : ∀ j, mix smooth c.other.rc j = _ := fun j => by
    rw [mix, hroll, hyaw, hpitch]
  rw [hmotors, mix]
  fin_cases i
  · show smooth + _ + -_ - -_ = smooth + _ - _ + _
    ring
  · show smooth + _ - -_ + -_ = smooth + _ + _ - _
    ring
  · show smooth - _ + -_ + -_ = smooth - _ - _ - _
    ring
  · show smooth - _ - -_ - -_ = smooth - _ + _ + _
    ring

theorem ramp_mirror {e e' : Esc} (h : e.Mirrors e') (c : MirroredCalls) :
    rampThrottle e'.throttleSmooth (throttleTarget c.other.rc) =
      rampThrottle e.throttleSmooth (throttleTarget c.one.rc) := by
  rw [throttleTarget, throttleTarget, c.yLeft, h.throttleSmooth]

theorem percent_mirror {e e' : Esc} (h : e.Mirrors e') (c : MirroredCalls) (i : Fin numMotors) :
    c.other.percent e' i = c.one.percent e (mirrorMotor i) := by
  rw [RcCall.percent, RcCall.percent, ramp_mirror h c, mix_mirror]

/-! ## Runs -/

/-- **One call on each side** keeps the controllers mirror images. -/
theorem Esc.Mirrors.step {e e' : Esc} (h : e.Mirrors e') (c : MirroredCalls) :
    (c.one.step e).Mirrors (c.other.step e') := by
  rcases c.one.step_cases e with hrc | ⟨hrc, hlim⟩ | hmix
  · rw [RcCall.step_of_inactive hrc, RcCall.step_of_inactive (c.droneActive.trans hrc)]
    refine ⟨rfl, rfl, fun _ => rfl, fun i => ?_⟩
    show (if _ then _ else _) = if _ then _ else _
    rw [if_pos (c.otherPwm i), if_pos (c.onePwm _)]
  · obtain ⟨hrc', hlim'⟩ := (h.limited_iff c).mpr ⟨hrc, hlim⟩
    rw [RcCall.step_of_limited hrc hlim, RcCall.step_of_limited hrc' hlim']
    exact h
  · have hmix' : c.other.Mixes e' := by
      rw [RcCall.Mixes, c.droneActive, c.now, h.lastUpdateMs]
      exact hmix
    rw [RcCall.step_of_mixes hmix, RcCall.step_of_mixes hmix']
    refine ⟨c.now, ramp_mirror h c, percent_mirror h c, fun i => ?_⟩
    show (if _ then _ else _) = if _ then _ else _
    rw [percent_mirror h c, h.lastPct, h.pulseNs, c.onePwm, c.otherPwm]

/-- After a successful arming all motors are at 1000 µs and the controller is its own image. -/
theorem mirrors_ready : Esc.ready.Mirrors .ready := ⟨rfl, rfl, fun _ => rfl, fun _ => rfl⟩

/-- The pulses in force on one controller are those on the other with the sides exchanged. -/
def PulsesMirrored (e e' : Esc) : Prop :=
  e'.pulseNs motorFrontLeft = e.pulseNs motorFrontRight ∧
    e'.pulseNs motorFrontRight = e.pulseNs motorFrontLeft ∧
    e'.pulseNs motorRearLeft = e.pulseNs motorRearRight ∧
    e'.pulseNs motorRearRight = e.pulseNs motorRearLeft

theorem Esc.Mirrors.pulsesMirrored {e e' : Esc} (h : e.Mirrors e') : PulsesMirrored e e' :=
  ⟨h.pulseNs motorFrontLeft, h.pulseNs motorFrontRight, h.pulseNs motorRearLeft,
    h.pulseNs motorRearRight⟩

/-- **Left and right are symmetric.**  Two runs of calls with mirrored sticks, of any length and
from the state after arming: the pulses are mirrored after the last call, and the next call is
rate-limited in both runs or in neither. -/
theorem left_right_symmetry (calls : List MirroredCalls) :
    PulsesMirrored (run RcCall.step .ready (calls.map MirroredCalls.one))
        (run RcCall.step .ready (calls.map MirroredCalls.other)) ∧
    ∀ next : MirroredCalls,
      next.other.Limited (run RcCall.step .ready (calls.map MirroredCalls.other)) ↔
        next.one.Limited (run RcCall.step .ready (calls.map MirroredCalls.one)) := by
  have h := run_related (R := Esc.Mirrors) (fun e e' c h => h.step c) mirrors_ready calls
  exact ⟨h.pulsesMirrored, h.limited_iff⟩

/-- A full roll to the right, and to the left. -/
def hardRoll : MirroredCalls where
  one := ⟨20, fun _ => .ok, 1023, 512, 512, 600, true⟩
  other := ⟨20, fun _ => .ok, 1, 512, 512, 600, true⟩
  now := rfl
  droneActive := rfl
  yLeft := rfl
  yRight := rfl
  xRight := by decide
  xLeft := by decide
  onePwm := fun _ => rfl
  otherPwm := fun _ => rfl

example : (run RcCall.step .ready [hardRoll.one]).percentInForce motorFrontLeft = 22 ∧
    (run RcCall.step .ready [hardRoll.other]).percentInForce motorFrontRight = 22 := by decide

end DroneFirmware

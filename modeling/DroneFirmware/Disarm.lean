import DroneFirmware.Onlooker
import DroneFirmware.RadioRange

/-!
# DISARM on the control page

DISARM posts a package without the flag.  The main loop does not tell such a package from none:
the radio's package is in command again.  `read_data` never clears it, so it may be the last
payload of a transmitter that has been off for as long as the pilot flew from the page; if it has
the flag and the throttle up, the drone flies on.

* `packet_of_disarm`: after DISARM the pass acts on the radio's package.
* `iterate_of_flying`: where a pass out of FLYING ends.
* `disarm_grounds_iff`: when DISARM takes the drone out of flight.
-/

namespace DroneFirmware

open Reactive

/-! ## The pass after DISARM -/

/-- The last request served is one without the flag. -/
def Tick.Disarms (t : Tick) : Prop := ∃ earlier p, t.posts = earlier ++ [p] ∧ p.active = false

/-- The pass takes the drone out of flight: it does not call the mixer and does not end in
FLYING. -/
def Grounds (s : Firmware) (t : Tick) : Prop :=
  ¬ CallsMixer s t ∧ (iterate s t).fsm.currentState ≠ .flying

instance (s : Firmware) (t : Tick) : Decidable (Grounds s t) :=
  inferInstanceAs (Decidable (_ ∧ _))

/-- A package that does not fly: without the flag, or with the throttle down. -/
def DataPackage.AtRest (rc : DataPackage) : Prop := rc.droneActive = false ∨ rc.yLeft.toInt ≤ 0

instance (rc : DataPackage) : Decidable rc.AtRest := inferInstanceAs (Decidable (_ ∨ _))

/-- After DISARM, and with nothing new on the radio, the pass acts on the radio's package. -/
theorem packet_of_disarm {s : Firmware} {t : Tick} (hpost : t.Disarms)
    (hquiet : t.nrf.rxDr = false) : s.packet t = s.data := by
  obtain ⟨earlier, p, hposts, hp⟩ := hpost
  have hweb : (droneWebserverGetRc t.tWeb (servePosts t.posts s.web)).droneActive ≠ true := by
    rw [Ne, droneWebserverGetRc_active_iff, hposts, servePosts_concat]
    rintro ⟨hactive, -⟩
    rw [Post.active] at hp
    rw [handleRc, hp] at hactive
    cases hactive
  rw [Firmware.packet, arbitrate, if_neg hweb, readData, if_neg (by simp [hquiet])]

/-- **Where a pass out of FLYING ends**, if its IMU read succeeds. -/
theorem iterate_of_flying {s : Firmware} {t : Tick} (hi : t.i2c = .ok)
    (hfly : s.fsm.currentState = .flying) : (iterate s t).fsm.currentState =
      if (s.packet t).droneActive = false then .failsafe
      else if (s.packet t).yLeft.toInt ≤ 0 then .armed
      else .flying := by
  obtain ⟨f, c, htr, hf, -⟩ := iterate_cases_of_ok s hi
  rw [hf]
  rcases htr.of_flying hfly with ⟨hrc, rfl, -⟩ | ⟨hrc, hy, rfl, -⟩ | ⟨hrc, hy, rfl, -⟩
  · rw [if_pos hrc, Fsm.enter_currentState]
  · rw [if_neg (by simp [hrc]), if_pos hy, Fsm.enter_currentState]
  · rw [if_neg (by simp [hrc]), if_neg (not_le.mpr hy), hfly]

/-- In FLYING, a pass with its IMU read grounds the drone exactly when its package is at rest. -/
theorem grounds_iff {s : Firmware} {t : Tick} (hi : t.i2c = .ok)
    (hfly : s.fsm.currentState = .flying) : Grounds s t ↔ (s.packet t).AtRest := by
  rw [Grounds, CallsMixer, DataPackage.AtRest, iterate_of_flying hi hfly]
  by_cases hrc : (s.packet t).droneActive = false
  · simp [hrc]
  · by_cases hy : (s.packet t).yLeft.toInt ≤ 0
    · simp [hrc, hy]
    · simp [hrc, hy, hi, hfly]

/-! ## Runs -/

/-- The pass `last` after `history` acted on the web package and left the machine in FLYING, and
the next pass `t` finds DISARM and nothing new on the radio. -/
structure DisarmedInFlight (env : BootEnv) (history : List Tick) (last t : Tick) : Prop where
  web : (droneWebserverGetRc last.tWeb
    (servePosts last.posts (reached env history).web)).droneActive = true
  flying : (reached env (history ++ [last])).fsm.currentState = .flying
  imu : t.i2c = .ok
  quiet : t.nrf.rxDr = false
  disarms : t.Disarms

/-- The law that DISARM takes the web pilot's drone out of flight. -/
def DisarmGrounds : Prop :=
  ∀ (env : BootEnv) (history : List Tick) (last t : Tick),
    DisarmedInFlight env history last t → Grounds (reached env (history ++ [last])) t

/-- **DISARM grounds the drone exactly when the radio's last payload is at rest.**  The pass then
ends in FAILSAFE or in ARMED; otherwise the drone flies on, and the radio's package is mixed. -/
theorem disarm_grounds_iff {env : BootEnv} {history : List Tick} {last t : Tick}
    (h : DisarmedInFlight env history last t) :
    (Grounds (reached env (history ++ [last])) t ↔ (latched (history ++ [last])).AtRest) ∧
      (reached env (history ++ [last, t])).fsm.currentState =
        (if (latched (history ++ [last])).droneActive = false then .failsafe
        else if (latched (history ++ [last])).yLeft.toInt ≤ 0 then .armed
        else .flying) := by
  have hpacket : (reached env (history ++ [last])).packet t = latched (history ++ [last]) := by
    rw [packet_of_disarm h.disarms h.quiet, reached_data]
  have hreached : reached env (history ++ [last, t]) =
      iterate (reached env (history ++ [last])) t := by
    rw [← reached_concat, List.append_assoc]
    rfl
  constructor
  · rw [grounds_iff h.imu h.flying, hpacket]
  · rw [hreached, iterate_of_flying h.imu h.flying, hpacket]

/-- The pilot flies from the page, and nothing was ever heard on the radio. -/
def pageFlight : List Tick :=
  [.serving 5004 [pagePost 1 5004 "0" "1"], .serving 5504 [pagePost 1 5504 "0" "1"],
    .serving 5508 [pagePost 1 5508 "50" "1"]]

theorem disarm_grounds_iff_pageFlight :
    Grounds (reached .calm (pageFlight ++ [.serving 5512 [pagePost 1 5512 "50" "1"]]))
      (.serving 5516 [pagePost 1 5516 "50" "0"]) := by
  refine (disarm_grounds_iff ⟨?_, ?_, rfl, rfl, [], _, rfl, ?_⟩).1.mpr ?_
  · decide +kernel
  · decide +kernel
  · decide +kernel
  · decide

/-- Armed and taken off over the radio, which then falls silent for good; the pilot flies on from
the page, which polls once a second. -/
def takenOver : List Tick :=
  [.throttle 5004 0, .throttle 5504 0, .throttle 5508 60] ++
    (List.range 60).map fun k => .serving (5512 + 1000 * k) [pagePost 1 (5512 + 1000 * k) "50" "1"]

/-- **The drone flies on after DISARM**, on the payload of a radio that has been silent for a
minute. -/
theorem not_disarmGrounds : ¬ DisarmGrounds := by
  intro h
  have hgrounds := h .calm takenOver (.serving 65512 [pagePost 1 65512 "50" "1"])
    (.serving 65516 [pagePost 1 65516 "50" "0"])
    ⟨by decide +kernel, by decide +kernel, rfl, rfl, [], _, rfl, by decide +kernel⟩
  revert hgrounds
  decide +kernel

end DroneFirmware

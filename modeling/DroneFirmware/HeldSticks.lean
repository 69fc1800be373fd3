import DroneFirmware.Grounding
import DroneFirmware.MixerCache

/-!
# Held sticks reach the motors

In FLYING the sticks act through the rate limit, the ramp and the write cache of
`motors_set_from_rc`, and a pass of the main loop calls it only as often as it comes.  Under
sticks that are held, the ramp arrives after a number of updates that is known from the start,
and from then on the motors run at what the mixer makes of the target itself.

* `updatesLeft`: the updates that the ramp is away from its target.
* `Held`: a pass flown under given sticks; `held_cases`: it updates, or it is too early.
* `meetsDeadline_arrival`: the updates come in time.
* `held_sticks_reach_motors`: when a motor runs at its share of the held sticks.
-/

namespace DroneFirmware

open Reactive

/-! ## The ramp -/

/-- The updates that take the ramp from `s` to `target`: 2 up or 5 down in each. -/
def updatesLeft (target s : ℤ) : ℤ := max ((target - s + 1) / 2) ((s - target + 4) / 5)

theorem updatesLeft_pos {target s : ℤ} (h : s ≠ target) : 1 ≤ updatesLeft target s := by
  rw [updatesLeft]
  omega

/-- An update of a ramp that is not there yet. -/
theorem updatesLeft_ramp {target s : ℤ} (h : s ≠ target) :
    updatesLeft target (rampThrottle s target) = updatesLeft target s - 1 := by
  rw [updatesLeft, updatesLeft, rampThrottle_eq]
  omega

/-! ## One pass -/

/-- A pass under the sticks `rc` on which the drivers work. -/
structure Held (rc : DataPackage) (s : Firmware) (t : Tick) : Prop where
  packet : s.packet t = rc
  i2c : t.i2c = .ok
  pwm : t.PwmOk

instance (rc : DataPackage) (s : Firmware) (t : Tick) : Decidable (Held rc s t) :=
  decidable_of_iff (s.packet t = rc ∧ t.i2c = .ok ∧ t.PwmOk)
    ⟨fun h => ⟨h.1, h.2.1, h.2.2⟩, fun h => ⟨h.1, h.2, h.3⟩⟩

/-- The pulse in force on the motor is the one that the cache names. -/
def Esc.CoherentAt (e : Esc) (i : Fin numMotors) : Prop := e.pulseNs i = pulseOf (e.lastPct i)

instance (e : Esc) (i : Fin numMotors) : Decidable (e.CoherentAt i) :=
  inferInstanceAs (Decidable (_ = _))

section Pass

variable {rc : DataPackage} (hrc : rc.droneActive = true) (hy : 0 < rc.yLeft.toInt)
  {s : Firmware} {t : Tick} (h : Held rc s t) (hfly : s.fsm.currentState = .flying)

include hrc hy h hfly

/-- **A pass in FLYING under held sticks** updates the ramp and the motors, or it comes within
20 ms of the last update and changes neither. -/
theorem held_cases :
    (iterate s t).fsm = s.fsm ∧
      ((t.tNow - s.esc.lastUpdateMs < 20 ∧ (iterate s t).esc = { s.esc with calls := [] }) ∨
        (20 ≤ t.tNow - s.esc.lastUpdateMs ∧ Mixes s t)) := by
  have hpacket := h.packet
  obtain ⟨f, c, htr, hf, hesc⟩ := iterate_cases_of_ok s h.i2c
  rw [hpacket] at htr hesc
  have hcmd : f = s.fsm ∧ c = .mix := by
    rcases htr.of_flying hfly with ⟨hrc', -⟩ | ⟨-, hy', -⟩ | ⟨-, -, h⟩
    · rw [hrc] at hrc'
      cases hrc'
    · omega
    · exact h
  obtain ⟨rfl, rfl⟩ := hcmd
  refine ⟨hf, ?_⟩
  rcases lt_or_ge (t.tNow - s.esc.lastUpdateMs) 20 with hlim | hlim
  · refine Or.inl ⟨hlim, hesc.trans ?_⟩
    exact motorsSetFromRc_of_limited (e := { s.esc with calls := [] }) hrc hlim t.pwm
  · exact Or.inr ⟨hlim, h.i2c, hfly, by rw [hpacket]; exact hrc, by rw [hpacket]; exact hy, hlim⟩

end Pass

/-- What an update under held sticks leaves on a motor whose cache is coherent. -/
theorem held_update {rc : DataPackage} {s : Firmware} {t : Tick} (h : Held rc s t)
    (hmixes : Mixes s t) {i : Fin numMotors} (hcoherent : s.esc.CoherentAt i) :
    (iterate s t).esc.lastUpdateMs = t.tNow ∧
      (iterate s t).esc.throttleSmooth = rampThrottle s.esc.throttleSmooth (throttleTarget rc) ∧
      (iterate s t).esc.lastPct i =
        clampPct (mix (rampThrottle s.esc.throttleSmooth (throttleTarget rc)) rc i) ∧
      (iterate s t).esc.CoherentAt i := by
  have hcommanded : s.commanded t = mix (s.ramped t) rc := by rw [Firmware.commanded, h.packet]
  have hramped : s.ramped t = rampThrottle s.esc.throttleSmooth (throttleTarget rc) := by
    rw [Firmware.ramped, h.packet]
  have hpulse := pulseNs_of_mixes hmixes h.pwm i
  have hesc := (iterate_of_mixes hmixes).2
  rw [applyMix_eq] at hesc
  have hlast : (iterate s t).esc.lastPct i = clampPct (s.commanded t i) := by rw [hesc]
  refine ⟨by rw [hesc], by rw [hesc]; exact hramped, ?_, ?_⟩
  · rw [hlast, hcommanded, hramped]
  · rw [Esc.CoherentAt, hlast, hpulse]
    split_ifs with hc
    · rw [hc]
      exact hcoherent
    · rfl

/-! ## The arrival -/

section Arrival

variable (rc : DataPackage) (i : Fin numMotors)

/-- In FLYING, with the ramp at its target, the motor runs at its share of the sticks. -/
structure Arrived (s : Firmware) : Prop where
  flying : s.fsm.currentState = .flying
  smooth : s.esc.throttleSmooth = throttleTarget rc
  cached : s.esc.lastPct i = clampPct (mix (throttleTarget rc) rc i)
  coherent : s.esc.CoherentAt i

/-- On the way there. -/
structure OnTheWay (s : Firmware) : Prop where
  flying : s.fsm.currentState = .flying
  coherent : s.esc.CoherentAt i

/-- The reading by which the motor has arrived, after the pass that is given with the state: the
next update comes at the pass after `lastUpdateMs + 20`, the others 20 ms and a gap apart. -/
def arrivalDue (δ : ℤ) (x : Firmware × Tick) : ℤ :=
  max x.2.tNow (x.1.esc.lastUpdateMs + 20) + δ +
    (max 1 (updatesLeft (throttleTarget rc) x.1.esc.throttleSmooth) - 1) * (20 + δ)

variable {rc i} (hrc : rc.droneActive = true) (hy : 0 < rc.yLeft.toInt) {s : Firmware} {a t : Tick}
  (h : Held rc s t)

include hrc hy h

/-- A motor that has arrived stays where it is. -/
theorem Arrived.step (ha : Arrived rc i s) : Arrived rc i (iterate s t) := by
  obtain ⟨hfsm, ⟨-, hesc⟩ | ⟨-, hmixes⟩⟩ := held_cases hrc hy h ha.flying
  · exact ⟨by rw [hfsm]; exact ha.flying, by rw [hesc]; exact ha.smooth,
      by rw [hesc]; exact ha.cached, by rw [hesc]; exact ha.coherent⟩
  · obtain ⟨-, hsmooth, hcached, hcoherent⟩ := held_update h hmixes ha.coherent
    have hstays : rampThrottle s.esc.throttleSmooth (throttleTarget rc) = throttleTarget rc := by
      rw [ha.smooth, rampThrottle_eq]
      omega
    rw [hstays] at hsmooth hcached
    exact ⟨by rw [hfsm]; exact ha.flying, hsmooth, hcached, hcoherent⟩

/-- **One pass on the way** comes by the deadline, and arrives or moves it no further. -/
theorem OnTheWay.step {δ : ℤ} (hs : OnTheWay i s) (hδ : 0 ≤ δ) (horder : a.tNow ≤ t.tNow)
    (hgap : t.tNow ≤ a.tNow + δ) :
    Arrived rc i (iterate s t) ∨ (OnTheWay i (iterate s t) ∧
      arrivalDue rc δ (iterate s t, t) ≤ arrivalDue rc δ (s, a) ∧
        t.tNow ≤ arrivalDue rc δ (s, a)) := by
  have hleft : 0 ≤ (max 1 (updatesLeft (throttleTarget rc) s.esc.throttleSmooth) - 1) *
      (20 + δ) := mul_nonneg (by omega) (by omega)
  obtain ⟨hfsm, ⟨hlim, hesc⟩ | ⟨hlim, hmixes⟩⟩ := held_cases hrc hy h hs.flying
  · refine Or.inr ⟨⟨by rw [hfsm]; exact hs.flying, by rw [hesc]; exact hs.coherent⟩, ?_, ?_⟩
    · simp only [arrivalDue, hesc]
      omega
    · simp only [arrivalDue]
      omega
  · obtain ⟨hlast, hsmooth, hcached, hcoherent⟩ := held_update h hmixes hs.coherent
    have hflying : (iterate s t).fsm.currentState = .flying := by rw [hfsm]; exact hs.flying
    by_cases hthere : (iterate s t).esc.throttleSmooth = throttleTarget rc
    · refine Or.inl ⟨hflying, hthere, ?_, hcoherent⟩
      rw [hcached, ← hsmooth, hthere]
    · have hnot : s.esc.throttleSmooth ≠ throttleTarget rc := by
        intro heq
        rw [hsmooth, heq, rampThrottle_eq] at hthere
        omega
      have hone := updatesLeft_pos hthere
      rw [hsmooth, updatesLeft_ramp hnot] at hone
      have hstep : (max 1 (updatesLeft (throttleTarget rc) s.esc.throttleSmooth) - 1) * (20 + δ) =
          (max 1 (updatesLeft (throttleTarget rc) s.esc.throttleSmooth - 1) - 1) * (20 + δ) +
            (20 + δ) := by
        rw [max_eq_right (by omega), max_eq_right (by omega)]
        ring
      refine Or.inr ⟨⟨hflying, hcoherent⟩, ?_, ?_⟩
      · simp only [arrivalDue, hlast, hsmooth, updatesLeft_ramp hnot, hstep]
        omega
      · simp only [arrivalDue]
        omega

end Arrival

/-- **The arrival is in time**, under held sticks and passes no more than `δ` apart. -/
theorem meetsDeadline_arrival (δ : ℤ) {rc : DataPackage} (hrc : rc.droneActive = true)
    (hy : 0 < rc.yLeft.toInt) (i : Fin numMotors) :
    MeetsDeadline (remember iterate)
      (fun x t => (t.Orderly δ ∧ Held rc x.1 t) ∧ x.2.Follows δ t)
      (fun x => Arrived rc i x.1) (fun x => OnTheWay i x.1 ∧ x.2.Orderly δ) Tick.tNow
      (arrivalDue rc δ) where
  stays hP ha := ha.step hrc hy hP.1.2
  moves hP hInv _ := by
    obtain ⟨⟨ht, hheld⟩, horder, hgap⟩ := hP
    obtain ⟨hs, ha⟩ := hInv
    have h1 := ha.now_le_step
    have h2 := ha.step_le_enter
    have h3 := ha.enter_le
    have h4 := ht.web_le_now
    exact (hs.step hrc hy hheld (by omega) (by omega) hgap).imp id
      fun ⟨hs', hdue, htime⟩ => ⟨⟨hs', ht⟩, hdue, htime⟩

/-! ## A run -/

/-- A pass leaves the time of the last update alone, or sets it. -/
theorem lastUpdateMs_iterate (s : Firmware) (t : Tick) :
    (iterate s t).esc.lastUpdateMs = s.esc.lastUpdateMs ∨
      (iterate s t).esc.lastUpdateMs = t.tNow := by
  refine iterate_esc_invariant (J := fun e => e.lastUpdateMs = s.esc.lastUpdateMs ∨
    e.lastUpdateMs = t.tNow) s t (fun e he => he) (fun pwm p e he => ?_)
    (fun e hrc _ he => ?_) (Or.inl rfl)
  · rw [motorsSetAll_esc]
    exact he
  · rcases motorsSetFromRc_cases hrc t.tNow t.pwm e with h | h
    · rw [h]
      exact he
    · rw [h, applyMix_eq]
      exact Or.inr rfl

/-- The last update was made no later than the last pass. -/
theorem lastUpdateMs_le (env : BootEnv) {δ : ℤ} {history : List Tick} {a : Tick}
    (h : Paced δ (history ++ [a])) :
    (reached env (history ++ [a])).esc.lastUpdateMs ≤ max 0 a.tNow := by
  refine reached_of_paced (J := fun s a => s.esc.lastUpdateMs ≤ max 0 a.tNow)
    (fun b => (boot_mixer env).1.le.trans (le_max_left _ _)) (fun {s a t} hs _ _ hle => ?_) h
  rcases lastUpdateMs_iterate s t with hsame | hnow
  · rw [hsame]
    exact hs.trans (max_le_max le_rfl hle)
  · exact hnow.le.trans (le_max_right _ _)

section Run

variable (env : BootEnv) (δ : ℤ) (history : List Tick) (a : Tick) (ts : List Tick) (t : Tick)
  (rc : DataPackage) (hrc : rc.droneActive = true) (hy : 0 < rc.yLeft.toInt)
  (hpaced : Paced δ (history ++ a :: ts ++ [t])) (ha : 0 ≤ a.tNow)
  (hfly : (reached env (history ++ [a])).fsm.currentState = .flying)
  (hheld : Along iterate (Held rc) (reached env (history ++ [a])) (ts ++ [t]))
  (hlate : a.tNow + max 1 (updatesLeft (throttleTarget rc)
    (reached env (history ++ [a])).esc.throttleSmooth) * (20 + δ) < t.tNow)
  (i : Fin numMotors) (hcoherent : (reached env (history ++ [a])).esc.CoherentAt i)

include hrc hy hpaced ha hfly hheld hlate hcoherent

/-- A motor has arrived when as many updates as the ramp needs have had 20 ms and a gap each. -/
theorem arrived_of_held : Arrived rc i (reached env (history ++ a :: ts ++ [t])) := by
  have horderly : a.Orderly δ := hpaced.orderly a (by simp)
  have hlast := lastUpdateMs_le env (hpaced.stretch ⟨[], ts ++ [t], by simp⟩ :
    Paced δ (history ++ [a]))
  have hdue : arrivalDue rc δ (reached env (history ++ [a]), a) ≤ a.tNow +
      max 1 (updatesLeft (throttleTarget rc) (reached env (history ++ [a])).esc.throttleSmooth) *
        (20 + δ) := by
    rw [max_eq_right ha] at hlast
    simp only [arrivalDue, sub_mul, one_mul]
    omega
  exact goal_of_paced (Arrived rc i) (meetsDeadline_arrival δ hrc hy i) hpaced hheld
    (Or.inr ⟨⟨hfly, hcoherent⟩, horderly⟩) (hdue.trans_lt hlate)

/-- **Held sticks reach the motors.**  After the pass `a` the drone is in FLYING, and the sticks
`rc`, active and with the throttle up, are held from then on.  For as many updates as the ramp is away from its target, one at
least, 20 ms and a gap each are enough: then every motor whose cache was coherent runs at its
share of the target, and keeps it. -/
theorem held_sticks_reach_motors :
    ((reached env (history ++ a :: ts ++ [t])).esc.pulseNs i : ℤ) =
      (1000 + 10 * max 0 (min (mix (throttleTarget rc) rc i) 100)) * 1000 := by
  have harrived := arrived_of_held env δ history a ts t rc hrc hy hpaced ha hfly hheld hlate i
    hcoherent
  rw [harrived.coherent, harrived.cached, pulseOf_clampPct]

end Run

/-- Passes half a second apart with the throttle held at 200. -/
def heldThrottle : List Tick := (List.range 8).map fun k => .throttle (6008 + 500 * k) 200

theorem held_sticks_reach_motors_heldThrottle :
    ((reached .calm ([.throttle 5004 0, .throttle 5504 0] ++ .throttle 5508 60 ::
      heldThrottle ++ [.throttle 10008 200])).esc.pulseNs 0 : ℤ) =
      (1000 + 10 * max 0 (min (mix (throttleTarget (throttleOnly 200)) (throttleOnly 200) 0) 100)) *
        1000 :=
  held_sticks_reach_motors .calm 500 [.throttle 5004 0, .throttle 5504 0] (.throttle 5508 60)
    heldThrottle (.throttle 10008 200) (throttleOnly 200) (by decide) (by decide)
    (by decide +kernel) (by decide) (by decide +kernel) (by decide +kernel) (by decide +kernel) 0
    (by decide +kernel)

end DroneFirmware

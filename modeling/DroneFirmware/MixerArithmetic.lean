import DroneFirmware.CInt.Checked
import DroneFirmware.Reactive.Spacing
import DroneFirmware.Signal.Tracking
import DroneFirmware.MotorMixing

/-!
# The arithmetic of the mixer

`motors_set_from_rc` takes five `int16_t` channels as they come and computes in `int32_t`.
The model computes in the integers.  `motorsSetFromRc32` is the function with every operation
checked, and this file proves that on every history of packages it evaluates, and to what the
model says.

The sums contain `throttle_smooth`, so the argument is about runs: the ramp never leaves the
hull of 0 and of the targets it was given.

* `RcCall`: one call, under any package and at any clock value.
* `RcCall.step_cases`: everything a call can do.
* `motorsSetFromRc32_eq`: the checked call, from any ramp within the targets.
* `exists_hull`: the ramp lies between two of the values 0 and the targets so far.
* `mixer_arithmetic_safe`: all of it, along any sequence of calls.
-/

namespace DroneFirmware

open Reactive Signal CText CInt

/-! ## Calls -/

/-- A call of `motors_set_from_rc`: the reading of `k_uptime_get`, the results of `pwm_set`, and
the package, active or not. -/
structure RcCall where
  now : ℤ
  pwm : PwmResults
  rc : DataPackage

/-- The controller after a call. -/
def RcCall.step (e : Esc) (c : RcCall) : Esc := motorsSetFromRc c.now c.pwm c.rc e

/-- The call passes the rate limit and mixes. -/
def RcCall.Mixes (e : Esc) (c : RcCall) : Prop :=
  c.rc.droneActive = true ∧ 20 ≤ c.now - e.lastUpdateMs

instance RcCall.decidableMixes (e : Esc) (c : RcCall) : Decidable (c.Mixes e) :=
  inferInstanceAs (Decidable (_ ∧ _))

/-- The clamped percentages of a call that mixes. -/
def RcCall.percent (c : RcCall) (e : Esc) (i : Fin numMotors) : UInt8 :=
  clampPct (mix (rampThrottle e.throttleSmooth (throttleTarget c.rc)) c.rc i)

/-- A call under an inactive package stops the motors and clears the statics. -/
theorem RcCall.step_of_inactive {c : RcCall} (h : c.rc.droneActive = false) (e : Esc) :
    c.step e = { e with
      lastUpdateMs := 0
      throttleSmooth := 0
      lastPct := fun _ => 0
      pulseNs := fun i => if c.pwm i = .ok then pulseOf 0 else e.pulseNs i
      calls := e.calls ++ sweep e.escPwm 0 } :=
  motorsSetFromRc_of_inactive h c.now c.pwm e

/-- A rate-limited call does nothing. -/
theorem RcCall.step_of_limited {c : RcCall} {e : Esc} (hrc : c.rc.droneActive = true)
    (h : c.now - e.lastUpdateMs < 20) : c.step e = e := motorsSetFromRc_of_limited hrc h c.pwm

/-- A call that mixes is the apply loop, in closed form. -/
theorem RcCall.step_of_mixes {c : RcCall} {e : Esc} (h : c.Mixes e) : c.step e =
    { e with
      lastUpdateMs := c.now
      throttleSmooth := rampThrottle e.throttleSmooth (throttleTarget c.rc)
      lastPct := c.percent e
      pulseNs := fun i =>
        if c.percent e i ≠ e.lastPct i ∧ c.pwm i = .ok then pulseOf (c.percent e i)
        else e.pulseNs i
      calls := e.calls ++
        ((List.finRange numMotors).filter fun i => c.percent e i ≠ e.lastPct i).map
          fun i => ⟨e.escPwm, i, escPeriodNs, pulseOf (c.percent e i)⟩ } := by
  rw [step, motorsSetFromRc_of_mixes h.1 h.2, applyMix_eq]
  rfl

/-- **The three ways a call can go.** -/
theorem RcCall.step_cases (c : RcCall) (e : Esc) :
    c.rc.droneActive = false ∨
      (c.rc.droneActive = true ∧ c.now - e.lastUpdateMs < 20) ∨ c.Mixes e := by
  cases hrc : c.rc.droneActive with
  | false => exact Or.inl rfl
  | true =>
    by_cases h : c.now - e.lastUpdateMs < 20
    · exact Or.inr (Or.inl ⟨rfl, h⟩)
    · exact Or.inr (Or.inr ⟨hrc, by omega⟩)

/-- The statics of `motors_set_from_rc` before its first call, on any handle and with any pulses
in force. -/
def Esc.fresh (dev : Option Device) (pulseNs : Fin numMotors → ℕ) : Esc :=
  ⟨dev, 0, 0, fun _ => 0, pulseNs, []⟩

/-! ## The function with checked arithmetic -/

/-- `throttle_target`. -/
def throttleTarget32 (rc : DataPackage) : Option ℤ := do
  let product ← mul32 rc.yLeft.toInt motorThrottleMax
  div32 product rcMax

/-- The throttle ramp. -/
def rampThrottle32 (throttleSmooth target : ℤ) : Option ℤ := do
  let diff ← sub32 target throttleSmooth
  let diff := if diff > 2 then 2 else diff
  let diff := if diff < -5 then -5 else diff
  add32 throttleSmooth diff

/-- One attitude axis. -/
def axisMix32 (stick : Int16) : Option ℤ := do
  let offset ← sub32 stick.toInt rcCenter
  let product ← mul32 offset motorMixingMax
  let half ← div32 rcMax 2
  div32 product half

/-- The four sums `m[i]`. -/
def mix32 (throttleSmooth : ℤ) (rc : DataPackage) : Option (Fin numMotors → ℤ) := do
  let roll ← axisMix32 rc.xRight
  let pitch ← axisMix32 rc.yRight
  let yaw ← axisMix32 rc.xLeft
  let frontLeft ← add32 throttleSmooth pitch >>= (add32 · roll) >>= (sub32 · yaw)
  let frontRight ← add32 throttleSmooth pitch >>= (sub32 · roll) >>= (add32 · yaw)
  let rearLeft ← sub32 throttleSmooth pitch >>= (add32 · roll) >>= (add32 · yaw)
  let rearRight ← sub32 throttleSmooth pitch >>= (sub32 · roll) >>= (sub32 · yaw)
  return ![frontLeft, frontRight, rearLeft, rearRight]

/-- `(uint8_t)(m < 0 ? 0 : m > 100 ? 100 : m)`. -/
def clampPct32 (m : ℤ) : Option UInt8 := narrow8 (if m < 0 then 0 else if m > 100 then 100 else m)

/-- One round of the apply loop. -/
def applyMotor32 (pwm : PwmResults) (m : Fin numMotors → ℤ) (e : Esc) (i : Fin numMotors) :
    Option Esc := do
  let pct ← clampPct32 (m i)
  if pct ≠ e.lastPct i then
    return (motorSetThrottle pwm i pct { e with lastPct := Function.update e.lastPct i pct }).2
  else
    return e

/-- The apply loop. -/
def applyMix32 (pwm : PwmResults) (m : Fin numMotors → ℤ) (e : Esc) : Option Esc :=
  (List.finRange numMotors).foldlM (applyMotor32 pwm m) e

/-- `motors_set_from_rc` with every `int32_t` operation and every narrowing checked. -/
def motorsSetFromRc32 (now : ℤ) (pwm : PwmResults) (rc : DataPackage) (e : Esc) : Option Esc :=
  if !rc.droneActive then
    return (motorsSetAll pwm 0
      { e with lastPct := fun _ => 0, throttleSmooth := 0, lastUpdateMs := 0 }).2
  else if now - e.lastUpdateMs < 20 then
    return e
  else do
    let target ← throttleTarget32 rc
    let throttleSmooth ← rampThrottle32 e.throttleSmooth target
    let m ← mix32 throttleSmooth rc
    applyMix32 pwm m { e with lastUpdateMs := now, throttleSmooth }

/-! ## The checks never fire -/

theorem throttleTarget32_eq (rc : DataPackage) :
    throttleTarget32 rc = some (throttleTarget rc) := by
  have hlo : -2 ^ 15 ≤ rc.yLeft.toInt := Int16.le_toInt rc.yLeft
  have hhi : rc.yLeft.toInt < 2 ^ 15 := Int16.toInt_lt rc.yLeft
  have hproduct : |rc.yLeft.toInt * motorThrottleMax| ≤ intMax := by
    rw [abs_le, motorThrottleMax, intMax]
    omega
  have htarget : |(rc.yLeft.toInt * motorThrottleMax).tdiv rcMax| ≤ intMax :=
    (throttleTarget_abs_le rc).trans (by decide)
  rw [throttleTarget32, mul32_of_abs_le hproduct]
  exact div32_of_abs_le (by decide) htarget

/-- From a ramp value within the targets, no difference overflows. -/
theorem rampThrottle32_eq {s target : ℤ} (hs : |s| ≤ throttleTargetMax)
    (ht : |target| ≤ throttleTargetMax) :
    rampThrottle32 s target = some (rampThrottle s target) := by
  have hramp : |rampThrottle s target| ≤ intMax :=
    (rampThrottle_abs_le hs ht).trans (by decide)
  have hdiff : |target - s| ≤ intMax := by
    rw [abs_le, throttleTargetMax] at *
    rw [intMax]
    omega
  rw [rampThrottle32, sub32_of_abs_le hdiff]
  exact add32_of_abs_le hramp

/-- The largest correction, of the stick furthest from the center. -/
theorem axisMix_abs_le (stick : Int16) : |axisMix stick| ≤ 1302 := by
  have hlo : -2 ^ 15 ≤ stick.toInt := Int16.le_toInt stick
  have hhi : stick.toInt < 2 ^ 15 := Int16.toInt_lt stick
  have hhalf : rcMax.tdiv 2 = 511 := by decide
  rw [axisMix, rcCenter, motorMixingMax, hhalf, abs_le]
  rcases le_total 0 ((stick.toInt - 512) * 20) with h0 | h0
  · rw [Int.tdiv_eq_ediv_of_nonneg h0]
    omega
  · rw [tdiv_of_nonpos h0]
    omega

theorem axisMix32_eq (stick : Int16) : axisMix32 stick = some (axisMix stick) := by
  have hlo : -2 ^ 15 ≤ stick.toInt := Int16.le_toInt stick
  have hhi : stick.toInt < 2 ^ 15 := Int16.toInt_lt stick
  have hoffset : |stick.toInt - rcCenter| ≤ intMax := by
    rw [abs_le, rcCenter, intMax]
    omega
  have hproduct : |(stick.toInt - rcCenter) * motorMixingMax| ≤ intMax := by
    rw [abs_le, rcCenter, motorMixingMax, intMax]
    omega
  have hhalf : div32 rcMax 2 = some (rcMax.tdiv 2) := by decide
  simp only [axisMix32, sub32_of_abs_le hoffset, mul32_of_abs_le hproduct, hhalf,
    Option.bind_eq_bind, Option.bind_some]
  exact div32_of_abs_le (by decide) ((axisMix_abs_le stick).trans (by decide))

theorem mix32_eq {s : ℤ} (hs : |s| ≤ throttleTargetMax) (rc : DataPackage) :
    mix32 s rc = some (mix s rc) := by
  have hroll := abs_le.mp (axisMix_abs_le rc.xRight)
  have hpitch := abs_le.mp (axisMix_abs_le rc.yRight)
  have hyaw := abs_le.mp (axisMix_abs_le rc.xLeft)
  rw [mix32, axisMix32_eq, axisMix32_eq, axisMix32_eq, mix]
  generalize axisMix rc.xRight = roll at *
  generalize axisMix rc.yRight = pitch at *
  generalize axisMix rc.xLeft = yaw at *
  -- every partial sum is within the ramp and three corrections
  have hfits : ∀ v : ℤ, s - 3 * 1302 ≤ v → v ≤ s + 3 * 1302 → |v| ≤ intMax := by
    intro v hlo hhi
    rw [abs_le, throttleTargetMax] at hs
    rw [abs_le, intMax]
    omega
  have hadd : ∀ a b : ℤ, s - 3 * 1302 ≤ a + b → a + b ≤ s + 3 * 1302 →
      add32 a b = some (a + b) := fun a b hlo hhi => add32_of_abs_le (hfits _ hlo hhi)
  have hsub : ∀ a b : ℤ, s - 3 * 1302 ≤ a - b → a - b ≤ s + 3 * 1302 →
      sub32 a b = some (a - b) := fun a b hlo hhi => sub32_of_abs_le (hfits _ hlo hhi)
  clear hs hfits
  simp (disch := omega) only [hadd, hsub, Option.bind_eq_bind, Option.bind_some, Option.pure_def]

theorem clampPct32_eq (m : ℤ) : clampPct32 m = some (clampPct m) := by
  refine narrow8_of_le ?_ ?_
  · split_ifs <;> omega
  · split_ifs <;> omega

theorem applyMix32_eq (pwm : PwmResults) (m : Fin numMotors → ℤ) (e : Esc) :
    applyMix32 pwm m e = some (applyMix pwm m e) := by
  have hmotor : applyMotor32 pwm m = fun e i => pure (applyMotor pwm m e i) := by
    funext e i
    rw [applyMotor32, clampPct32_eq, applyMotor]
    by_cases h : clampPct (m i) = e.lastPct i
    · simp [h]
    · simp [h]
  rw [applyMix32, hmotor, List.foldlM_pure]
  rfl

/-- **One call.**  From a ramp within the targets the checked function evaluates, to what the
model says. -/
theorem motorsSetFromRc32_eq {e : Esc} (hs : |e.throttleSmooth| ≤ throttleTargetMax) (now : ℤ)
    (pwm : PwmResults) (rc : DataPackage) :
    motorsSetFromRc32 now pwm rc e = some (motorsSetFromRc now pwm rc e) := by
  have ht := throttleTarget_abs_le rc
  have hramp := rampThrottle_abs_le hs ht
  rw [motorsSetFromRc32, motorsSetFromRc]
  split_ifs with hrc hlim
  · rfl
  · rfl
  · simp only [throttleTarget32_eq, rampThrottle32_eq hs ht, mix32_eq hramp, applyMix32_eq,
      Option.bind_eq_bind, Option.bind_some]

/-! ## The hull of the targets -/

/-- The throttle targets that a sequence of calls computes, in order. -/
def targetsSeen (e : Esc) (calls : List RcCall) : List ℤ :=
  (kept RcCall.step (fun e c => c.Mixes e) e calls).map fun c => throttleTarget c.rc

theorem mem_targetsSeen_concat {e : Esc} {calls : List RcCall} {c : RcCall} {target : ℤ} :
    target ∈ targetsSeen e (calls ++ [c]) ↔ target ∈ targetsSeen e calls ∨
      (c.Mixes (run RcCall.step e calls) ∧ target = throttleTarget c.rc) := by
  rw [targetsSeen, kept_append, List.map_append, List.mem_append]
  refine or_congr Iff.rfl ?_
  by_cases h : c.Mixes (run RcCall.step e calls)
  · simp [kept, h]
  · simp [kept, h]

/-- **The ramp stays in the hull.**  It lies between two of the values 0 and the targets seen so
far. -/
theorem exists_hull {e : Esc} (he : e.throttleSmooth = 0) (calls : List RcCall) :
    ∃ lo ∈ 0 :: targetsSeen e calls, ∃ hi ∈ 0 :: targetsSeen e calls,
      lo ≤ (run RcCall.step e calls).throttleSmooth ∧
        (run RcCall.step e calls).throttleSmooth ≤ hi := by
  induction calls using List.reverseRecOn with
  | nil => exact ⟨0, by simp, 0, by simp, by simp [he], by simp [he]⟩
  | append_singleton calls c ih =>
    obtain ⟨lo, hlo, hi, hhi, hle, hge⟩ := ih
    have hseen : ∀ {v : ℤ}, v ∈ 0 :: targetsSeen e calls →
        v ∈ 0 :: targetsSeen e (calls ++ [c]) := by
      intro v hv
      rw [List.mem_cons, mem_targetsSeen_concat]
      exact (List.mem_cons.mp hv).imp id Or.inl
    rw [run_append]
    show ∃ lo ∈ _, ∃ hi ∈ _, lo ≤ (c.step _).throttleSmooth ∧ (c.step _).throttleSmooth ≤ hi
    rcases c.step_cases (run RcCall.step e calls) with hrc | ⟨hrc, hlim⟩ | hmix
    · rw [RcCall.step_of_inactive hrc]
      exact ⟨0, by simp, 0, by simp, le_rfl, le_rfl⟩
    · rw [RcCall.step_of_limited hrc hlim]
      exact ⟨lo, hseen hlo, hi, hseen hhi, hle, hge⟩
    · have hnew : throttleTarget c.rc ∈ 0 :: targetsSeen e (calls ++ [c]) :=
        List.mem_cons_of_mem 0 (mem_targetsSeen_concat.mpr (Or.inr ⟨hmix, rfl⟩))
      have hstep : rampThrottle (run RcCall.step e calls).throttleSmooth (throttleTarget c.rc) ∈
          Set.uIcc (run RcCall.step e calls).throttleSmooth (throttleTarget c.rc) := by
        rw [rampThrottle_eq]
        exact approach_mem_uIcc (by norm_num) (by norm_num)
      rw [RcCall.step_of_mixes hmix]
      -- the update lies between the old ramp and the new target, on whichever side that is
      rcases Set.mem_uIcc.mp hstep with ⟨h₁, h₂⟩ | ⟨h₁, h₂⟩
      · exact ⟨lo, hseen hlo, _, hnew, hle.trans h₁, h₂⟩
      · exact ⟨_, hnew, hi, hseen hhi, h₁, h₂.trans hge⟩

/-- The targets are bounded, so the ramp is, after any calls. -/
theorem throttleSmooth_abs_le {e : Esc} (he : e.throttleSmooth = 0) (calls : List RcCall) :
    |(run RcCall.step e calls).throttleSmooth| ≤ throttleTargetMax := by
  have hseen : ∀ v ∈ 0 :: targetsSeen e calls, |v| ≤ throttleTargetMax := by
    intro v hv
    rcases List.mem_cons.mp hv with rfl | hv
    · decide
    · obtain ⟨c, -, rfl⟩ := List.mem_map.mp hv
      exact throttleTarget_abs_le c.rc
  obtain ⟨lo, hlo, hi, hhi, hle, hge⟩ := exists_hull he calls
  have hlo' := (abs_le.mp (hseen lo hlo)).1
  have hhi' := (abs_le.mp (hseen hi hhi)).2
  exact abs_le.mpr ⟨hlo'.trans hle, hge.trans hhi'⟩

/-! ## Pulses -/

/-- Every `pwm_set` call made so far asks for 1000 µs and a whole number of percent. -/
def Esc.WholePercents (e : Esc) : Prop :=
  ∀ w ∈ e.calls, ∃ k : ℕ, k ≤ 100 ∧ w.pulseNs = (1000 + 10 * k) * 1000

theorem exists_percent_pulseOf (p : UInt8) :
    ∃ k : ℕ, k ≤ 100 ∧ pulseOf p = (1000 + 10 * k) * 1000 :=
  ⟨min p.toNat 100, min_le_right _ _, by rw [pulseOf, mul_comm 10]⟩

theorem Esc.WholePercents.step {e : Esc} (h : e.WholePercents) (c : RcCall) :
    (c.step e).WholePercents := by
  rcases c.step_cases e with hrc | ⟨hrc, hlim⟩ | hmix
  · rw [RcCall.step_of_inactive hrc]
    intro w hw
    rcases List.mem_append.mp hw with hw | hw
    · exact h w hw
    · obtain ⟨i, -, rfl⟩ := List.mem_map.mp hw
      exact exists_percent_pulseOf 0
  · rw [RcCall.step_of_limited hrc hlim]
    exact h
  · rw [RcCall.step_of_mixes hmix]
    intro w hw
    rcases List.mem_append.mp hw with hw | hw
    · exact h w hw
    · obtain ⟨i, -, rfl⟩ := List.mem_map.mp hw
      exact exists_percent_pulseOf _

/-! ## Every history -/

/-- **The mixer's arithmetic is safe.**  From the statics at power-up, under any packages at any
clock values: every call evaluates with checked arithmetic, to what the model says; the ramp
lies between two of the values 0 and the targets seen so far; and every pulse handed to
`pwm_set` is 1000 µs and 10 µs for each of 0 to 100 percent. -/
theorem mixer_arithmetic_safe (dev : Option Device) (pulseNs : Fin numMotors → ℕ)
    (calls : List RcCall) :
    Along RcCall.step (fun e c => motorsSetFromRc32 c.now c.pwm c.rc e = some (c.step e))
        (.fresh dev pulseNs) calls ∧
    (∃ lo ∈ 0 :: targetsSeen (.fresh dev pulseNs) calls,
      ∃ hi ∈ 0 :: targetsSeen (.fresh dev pulseNs) calls,
        lo ≤ (run RcCall.step (.fresh dev pulseNs) calls).throttleSmooth ∧
          (run RcCall.step (.fresh dev pulseNs) calls).throttleSmooth ≤ hi) ∧
    (run RcCall.step (.fresh dev pulseNs) calls).WholePercents := by
  refine ⟨?_, exists_hull rfl calls, ?_⟩
  · rw [along_iff]
    intro pre c post _
    exact motorsSetFromRc32_eq (throttleSmooth_abs_le rfl pre) c.now c.pwm c.rc
  · refine run_invariant Esc.WholePercents (fun e c h => h.step c) ?_ calls
    intro w hw
    simp [Esc.fresh] at hw

end DroneFirmware

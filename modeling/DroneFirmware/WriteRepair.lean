import DroneFirmware.MixerCache

/-!
# Failed writes

The apply loop of `motors_set_from_rc` notes a percentage in `last_pct` and then calls
`pwm_set`, whose result it drops.  A write that fails leaves the old pulse in force under the
new entry of the cache, and a later call that computes the same percentage does not write.

Here the calls of `motors_set_from_rc` are taken by themselves, with any packages and any
results of `pwm_set`.

* `MixCall`: one call under an active package.
* `repairs_iff`: which motors a call must find coherent to leave its pulses in force.
* `coherent_after_iff`: which writes make the cache coherent, and which do not.
* `write_repair_iff_coherent`: over sequences of calls, coherence is exactly what is needed.
-/

namespace DroneFirmware

open Reactive

/-! ## Calls -/

/-- A call of `motors_set_from_rc` under an active package: the reading of `k_uptime_get`, the
results of `pwm_set`, and the package. -/
structure MixCall where
  now : ℤ
  pwm : PwmResults
  rc : DataPackage
  active : rc.droneActive = true

/-- The controller after a call. -/
def MixCall.step (e : Esc) (c : MixCall) : Esc := motorsSetFromRc c.now c.pwm c.rc e

/-- The call is not rate-limited. -/
def MixCall.Effective (c : MixCall) (e : Esc) : Prop := 20 ≤ c.now - e.lastUpdateMs

/-- The clamped percentage of a motor in the call, `m[i]` cut to 0..100. -/
def MixCall.percent (c : MixCall) (e : Esc) (i : Fin numMotors) : UInt8 :=
  clampPct (mix (rampThrottle e.throttleSmooth (throttleTarget c.rc)) c.rc i)

/-- The `pwm_set` calls that the call makes. -/
def MixCall.writes (c : MixCall) (e : Esc) : List PwmCall := (c.step e).calls.drop e.calls.length

/-- No `pwm_set` call returned an error. -/
def MixCall.ErrorFree (c : MixCall) (e : Esc) : Prop :=
  ∀ w ∈ c.writes e, c.pwm w.channel = .ok

/-- **The motors follow the call**: each carries the pulse of its percentage. -/
def MixCall.Repairs (c : MixCall) (e : Esc) : Prop :=
  ∀ i, (c.step e).pulseNs i = pulseOf (c.percent e i)

instance (c : MixCall) (e : Esc) : Decidable (c.Effective e) := inferInstanceAs (Decidable (_ ≤ _))

instance (c : MixCall) (e : Esc) : Decidable (c.ErrorFree e) :=
  inferInstanceAs (Decidable (∀ w ∈ _, _))

instance (c : MixCall) (e : Esc) : Decidable (c.Repairs e) := inferInstanceAs (Decidable (∀ _, _))

/-- A rate-limited call does nothing. -/
theorem MixCall.step_of_limited {c : MixCall} {e : Esc} (h : ¬ c.Effective e) : c.step e = e := by
  rw [Effective, not_le] at h
  exact motorsSetFromRc_of_limited c.active h c.pwm

/-- An effective call is the apply loop, in closed form. -/
theorem MixCall.step_of_effective {c : MixCall} {e : Esc} (h : c.Effective e) : c.step e =
    { e with
      lastUpdateMs := c.now
      throttleSmooth := rampThrottle e.throttleSmooth (throttleTarget c.rc)
      lastPct := c.percent e
      pulseNs := fun i =>
        if c.percent e i ≠ e.lastPct i ∧ c.pwm i = .ok then pulseOf (c.percent e i)
        else e.pulseNs i
      calls := e.calls ++
        ((List.finRange numMotors).filter fun i => c.percent e i ≠ e.lastPct i).map
          fun i => ⟨e.escPwm, i, escPeriodNs, pulseOf (c.percent e i)⟩ } := by
  rw [step, motorsSetFromRc_of_mixes c.active h, applyMix_eq]
  rfl

/-- The writes of an effective call go to the motors whose percentage changes. -/
theorem MixCall.errorFree_iff {c : MixCall} {e : Esc} (h : c.Effective e) :
    c.ErrorFree e ↔ ∀ i, c.percent e i ≠ e.lastPct i → c.pwm i = .ok := by
  rw [ErrorFree, writes, c.step_of_effective h, List.drop_left]
  simp [List.mem_finRange]

/-! ## What a call needs, and what it leaves -/

/-- An effective call without errors leaves its pulses in force exactly when the motors it does
not write carry the cached ones. -/
theorem MixCall.repairs_iff {c : MixCall} {e : Esc} (h : c.Effective e) (hok : c.ErrorFree e) :
    c.Repairs e ↔ ∀ i, c.percent e i = e.lastPct i → e.pulseNs i = pulseOf (e.lastPct i) := by
  rw [errorFree_iff h] at hok
  refine forall_congr' fun i => ?_
  rw [c.step_of_effective h]
  by_cases hi : c.percent e i = e.lastPct i
  · simp [hi]
  · simp [hi, hok i hi]

theorem MixCall.repairs_of_coherent {c : MixCall} {e : Esc} (h : c.Effective e)
    (hok : c.ErrorFree e) (hc : e.Coherent) : c.Repairs e :=
  (repairs_iff h hok).mpr fun i _ => hc i

/-- **What a call makes of coherence**, motor by motor: a motor that is written is coherent
afterwards if the write succeeds or the pulse was there already, a motor that is skipped if it
was so before. -/
theorem MixCall.coherent_after_iff {c : MixCall} {e : Esc} (h : c.Effective e) :
    (c.step e).Coherent ↔ ∀ i, if c.percent e i = e.lastPct i
      then e.pulseNs i = pulseOf (e.lastPct i)
      else c.pwm i = .ok ∨ e.pulseNs i = pulseOf (c.percent e i) := by
  refine forall_congr' fun i => ?_
  rw [c.step_of_effective h]
  by_cases hi : c.percent e i = e.lastPct i
  · simp [hi]
  · by_cases hp : c.pwm i = .ok
    · simp [hi, hp]
    · simp [hi, hp]

/-! ## Sequences of calls -/

/-- The cached percentages are percentages and the ramp is within the targets, as they are from
power-up on. -/
structure MixReady (e : Esc) : Prop where
  lastPct_le : ∀ i, (e.lastPct i).toNat ≤ 100
  smooth : |e.throttleSmooth| ≤ throttleTargetMax

/-- Every reachable controller is ready. -/
theorem mixReady_reached (env : BootEnv) (ticks : List Tick) : MixReady (reached env ticks).esc :=
  have h := mixerBounds_reached env ticks
  ⟨h.lastPct_le, abs_le.mpr ⟨le_trans (by decide) h.smooth.1, h.smooth.2⟩⟩

theorem MixReady.step {e : Esc} (h : MixReady e) (c : MixCall) : MixReady (c.step e) := by
  by_cases heff : c.Effective e
  · rw [c.step_of_effective heff]
    exact ⟨fun i => clampPct_toNat_le _, rampThrottle_abs_le h.smooth (throttleTarget_abs_le c.rc)⟩
  · rw [c.step_of_limited heff]
    exact h

/-- If every call that succeeds from here on follows, the cache is coherent: the package that
asks an incoherent motor for its cached percentage would be skipped. -/
theorem coherent_of_forall_repairs {e : Esc} (hready : MixReady e)
    (h : ∀ c : MixCall, c.Effective e → c.ErrorFree e → c.Repairs e) : e.Coherent := by
  intro i
  obtain ⟨rc, hrc, -, hasks⟩ := exists_asking hready.smooth (hready.lastPct_le i) i
  obtain ⟨c, hc⟩ : ∃ c : MixCall, c = ⟨e.lastUpdateMs + 20, fun _ => .ok, rc, hrc⟩ := ⟨_, rfl⟩
  have heff : c.Effective e := by
    rw [MixCall.Effective, hc]
    show 20 ≤ e.lastUpdateMs + 20 - e.lastUpdateMs
    omega
  have hok : c.ErrorFree e := fun w _ => by rw [hc]
  have hpercent : c.percent e i = e.lastPct i := by
    rw [MixCall.percent, hc, hasks]
  exact (MixCall.repairs_iff heff hok).mp (h c heff hok) i hpercent

/-- The law that a failed write is repaired: from a coherent cache, every effective call without
errors leaves its pulses in force. -/
def WritesRepaired : Prop :=
  ∀ (e : Esc) (calls : List MixCall), MixReady e → e.Coherent →
    Along MixCall.step (fun e c => c.Effective e → c.ErrorFree e → c.Repairs e) e calls

/-- **A failed write is repaired exactly while the cache is coherent.**  In a sequence of calls,
every effective call without errors that finds the cache coherent leaves its pulses in force; and
after a sequence from a ready controller, every such call would do so exactly when the cache is
coherent. -/
theorem write_repair_iff_coherent (e : Esc) (calls : List MixCall) :
    (Along MixCall.step (fun e c => c.Effective e → c.ErrorFree e → e.Coherent) e calls →
      Along MixCall.step (fun e c => c.Effective e → c.ErrorFree e → c.Repairs e) e calls) ∧
    (MixReady e →
      ((∀ c : MixCall, c.Effective (run MixCall.step e calls) →
          c.ErrorFree (run MixCall.step e calls) → c.Repairs (run MixCall.step e calls)) ↔
        (run MixCall.step e calls).Coherent)) := by
  constructor
  · intro h
    refine h.mono fun e c hc heff hok => ?_
    exact MixCall.repairs_of_coherent heff hok (hc heff hok)
  · intro hready
    constructor
    · intro h
      exact coherent_of_forall_repairs
        (run_invariant MixReady (fun e c h => h.step c) hready calls) h
    · intro hc c heff hok
      exact MixCall.repairs_of_coherent heff hok hc

/-- Two calls that ask for 2 % with neutral sticks; the writes of the first one fail. -/
def failedWriteCalls : List MixCall :=
  [⟨20, fun _ => .fail 4, throttleOnly 26, rfl⟩, ⟨40, fun _ => .ok, throttleOnly 26, rfl⟩]

/-- **A failed write is not repaired.**  The second call finds its percentage in the cache and
writes nothing: it returns without an error, and the motors stay at 1000 µs. -/
theorem not_writesRepaired :
    ¬ WritesRepaired ∧ ∀ i,
      (run MixCall.step .ready failedWriteCalls).lastPct i = 2 ∧
        (run MixCall.step .ready failedWriteCalls).pulseNs i = pulseOf 0 := by
  refine ⟨fun h => ?_, by decide⟩
  have hrun := h .ready failedWriteCalls ⟨by decide, by decide⟩ (by decide)
  revert hrun
  decide

end DroneFirmware

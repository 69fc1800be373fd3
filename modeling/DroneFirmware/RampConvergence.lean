import DroneFirmware.Reactive.Spacing
import DroneFirmware.Signal.Tracking
import DroneFirmware.WriteRepair

/-!
# The ramp follows the stick

`motors_set_from_rc` acts at most once in 20 ms, and an update moves `throttle_smooth` by at
most 2 up and 5 down.  Together they bound how fast the throttle can rise and fall, whatever
the packages and the clock; and under a constant stick the ramp arrives, on time and without
overshoot.

* `rateLimits_effective`: the calls are the rounds of a rate limiter.
* `throttleSmooth_of_const`: under a constant target the ramp is a run of `approach`.
* `Tracks`: what the ramp makes of a target, from below and from above.
* `throttle_ramp_converges`: the rate and the convergence, for any sequence of calls.
-/

namespace DroneFirmware

open Reactive Signal

/-! ## The rate -/

/-- The calls of a sequence that are not rate-limited. -/
def effectiveCalls (e : Esc) (calls : List MixCall) : List MixCall :=
  kept MixCall.step (fun e c => c.Effective e) e calls

theorem effectiveCalls_cons_of_effective {e : Esc} {c : MixCall} (h : c.Effective e)
    (calls : List MixCall) :
    effectiveCalls e (c :: calls) = c :: effectiveCalls (c.step e) calls :=
  kept_cons_of_pos (P := fun (e : Esc) (c : MixCall) => c.Effective e) h calls

theorem effectiveCalls_cons_of_limited {e : Esc} {c : MixCall} (h : ¬ c.Effective e)
    (calls : List MixCall) : effectiveCalls e (c :: calls) = effectiveCalls e calls := by
  rw [effectiveCalls, kept_cons_of_neg (P := fun (e : Esc) (c : MixCall) => c.Effective e) h,
    MixCall.step_of_limited h]
  rfl

/-- An update is a step of the ramp towards the target. -/
theorem rampThrottle_eq_approach (s target : ℤ) :
    rampThrottle s target = approach 2 5 target s := rampThrottle_eq s target

theorem MixCall.lastUpdateMs_of_effective {c : MixCall} {e : Esc} (h : c.Effective e) :
    (c.step e).lastUpdateMs = c.now := by
  rw [c.step_of_effective h]

theorem MixCall.throttleSmooth_of_effective {c : MixCall} {e : Esc} (h : c.Effective e) :
    (c.step e).throttleSmooth = approach 2 5 (throttleTarget c.rc) e.throttleSmooth := by
  rw [c.step_of_effective h]
  exact rampThrottle_eq_approach _ _

/-- The self-rate-limit of `motors_set_from_rc`. -/
theorem rateLimits_effective :
    RateLimits MixCall.step (fun e c => c.Effective e) MixCall.now Esc.lastUpdateMs 20 where
  guard := fun {e c} h => by
    rw [MixCall.Effective] at h
    omega
  acts := MixCall.lastUpdateMs_of_effective
  rests := fun h => by rw [MixCall.step_of_limited h]

/-- Each effective call moves the ramp by at most 2 up and 5 down. -/
theorem throttleSmooth_bounds (e : Esc) (calls : List MixCall) :
    (run MixCall.step e calls).throttleSmooth ≤
        e.throttleSmooth + 2 * (effectiveCalls e calls).length ∧
      e.throttleSmooth - 5 * (effectiveCalls e calls).length ≤
        (run MixCall.step e calls).throttleSmooth := by
  induction calls generalizing e with
  | nil => simp [effectiveCalls]
  | cons c calls ih =>
    have htail := ih (c.step e)
    by_cases h : c.Effective e
    · have hup : approach 2 5 (throttleTarget c.rc) e.throttleSmooth ≤ e.throttleSmooth + 2 :=
        approach_le_add (by norm_num) (by norm_num)
      have hdown : e.throttleSmooth - 5 ≤ approach 2 5 (throttleTarget c.rc) e.throttleSmooth :=
        sub_le_approach
      rw [MixCall.throttleSmooth_of_effective h] at htail
      rw [run_cons, effectiveCalls_cons_of_effective h, List.length_cons, Nat.cast_succ]
      omega
    · rw [MixCall.step_of_limited h] at htail
      rw [run_cons, effectiveCalls_cons_of_limited h, MixCall.step_of_limited h]
      exact htail

/-- The number of effective calls in a window of the clock. -/
theorem length_effectiveCalls_le {e : Esc} {calls : List MixCall} {lo : ℤ} {len : ℕ}
    (h : ∀ c ∈ calls, lo ≤ c.now ∧ c.now ≤ lo + len) :
    (effectiveCalls e calls).length ≤ len / 20 + 1 := by
  have hspaced : ((effectiveCalls e calls).map MixCall.now).Pairwise
      fun a b => a + ((20 : ℕ) : ℤ) ≤ b :=
    List.pairwise_map.mpr (rateLimits_effective.spaced (by norm_num) e calls)
  have hwindow : ∀ t ∈ (effectiveCalls e calls).map MixCall.now, lo ≤ t ∧ t ≤ lo + len := by
    intro t ht
    obtain ⟨c, hc, rfl⟩ := List.mem_map.mp ht
    exact h c (mem_of_mem_kept hc)
  have hlen := length_le_of_spaced (by norm_num) hspaced hwindow
  rwa [List.length_map] at hlen

/-! ## A constant stick -/

/-- Under a constant target the ramp takes one step of `approach` in each effective call. -/
theorem throttleSmooth_of_const {target : ℤ} {calls : List MixCall}
    (h : ∀ c ∈ calls, throttleTarget c.rc = target) (e : Esc) :
    (run MixCall.step e calls).throttleSmooth =
      (approach 2 5 target)^[(effectiveCalls e calls).length] e.throttleSmooth := by
  induction calls generalizing e with
  | nil => rfl
  | cons c calls ih =>
    have hcalls : ∀ c ∈ calls, throttleTarget c.rc = target :=
      fun c hc => h c (List.mem_cons_of_mem _ hc)
    rw [run_cons, ih hcalls]
    by_cases heff : c.Effective e
    · rw [effectiveCalls_cons_of_effective heff, List.length_cons, Function.iterate_succ_apply,
        MixCall.throttleSmooth_of_effective heff, h c (List.mem_cons_self ..)]
    · rw [effectiveCalls_cons_of_limited heff, MixCall.step_of_limited heff]

/-- What `n` updates make of the ramp value `s` under the target `T`: from either side it moves
monotonically towards `T`, does not pass it, and is there from a known update on. -/
structure Tracks (T s s' : ℤ) (n : ℕ) : Prop where
  rises : s ≤ T → s ≤ s' ∧ s' ≤ T ∧ (s' = T ↔ ⌈((T - s : ℤ) : ℚ) / 2⌉ ≤ n)
  falls : T < s → T ≤ s' ∧ s' ≤ s ∧ (s' = T ↔ ⌈((s - T : ℤ) : ℚ) / 5⌉ ≤ n)

theorem ceil_div_le_iff (a : ℤ) {k : ℕ} (hk : 0 < k) (n : ℕ) :
    ⌈(a : ℚ) / k⌉ ≤ n ↔ a ≤ n * k := by
  have hk' : (0 : ℚ) < k := by exact_mod_cast hk
  rw [Int.ceil_le, div_le_iff₀ hk']
  exact_mod_cast Iff.rfl

theorem tracks_iterate_approach (T s : ℤ) (n : ℕ) : Tracks T s ((approach 2 5 T)^[n] s) n := by
  have h2 := ceil_div_le_iff (T - s) (k := 2) (by norm_num) n
  have h5 := ceil_div_le_iff (s - T) (k := 5) (by norm_num) n
  push_cast at h2 h5
  constructor
  · intro h
    rw [iterate_approach_of_le (by norm_num) (by norm_num) h, nsmul_eq_mul]
    push_cast
    rw [h2]
    omega
  · intro h
    rw [iterate_approach_of_ge (by norm_num) (by norm_num) h.le, nsmul_eq_mul]
    push_cast
    rw [h5]
    omega

/-! ## The ramp -/

/-- **The throttle ramp converges, within its rate.**  The calls are any stretch of a sequence
of calls of `motors_set_from_rc` under active packages, and `e` the controller at its start.
Effective calls are 20 ms apart; over a window of `len` ms the ramp rises by at most
`2 * (len / 20 + 1)` and falls by at most `5 * (len / 20 + 1)`; and under a constant stick it
tracks its target. -/
theorem throttle_ramp_converges (e : Esc) (calls : List MixCall) :
    (effectiveCalls e calls).Pairwise (fun c c' => c.now + 20 ≤ c'.now) ∧
    (∀ (lo : ℤ) (len : ℕ), (∀ c ∈ calls, lo ≤ c.now ∧ c.now ≤ lo + len) →
      (run MixCall.step e calls).throttleSmooth - e.throttleSmooth ≤ 2 * (len / 20 + 1) ∧
      e.throttleSmooth - (run MixCall.step e calls).throttleSmooth ≤ 5 * (len / 20 + 1)) ∧
    (∀ yLeft : Int16, (∀ c ∈ calls, c.rc.yLeft = yLeft) →
      Tracks ((yLeft.toInt * 80).tdiv 1023) e.throttleSmooth
        (run MixCall.step e calls).throttleSmooth (effectiveCalls e calls).length) := by
  refine ⟨rateLimits_effective.spaced (by norm_num) e calls, fun lo len h => ?_,
    fun yLeft h => ?_⟩
  · have hcount := length_effectiveCalls_le (e := e) h
    obtain ⟨hup, hdown⟩ := throttleSmooth_bounds e calls
    omega
  · have hconst : ∀ c ∈ calls, throttleTarget c.rc = (yLeft.toInt * 80).tdiv 1023 := by
      intro c hc
      rw [throttleTarget, h c hc, motorThrottleMax, rcMax]
    rw [throttleSmooth_of_const hconst]
    exact tracks_iterate_approach _ _ _

end DroneFirmware

import DroneFirmware.Grounding
import DroneFirmware.Onlooker
import DroneFirmware.Reactive.Spacing

/-!
# The pace of the main loop

A pass reads the clock, does its work, reads the clock again, and sleeps for what is left of
the period; the difference is cut to 32 bits on the way.  `k_sleep` sleeps no less than it is
told, and wakes some time after.

* `LoopClock`: the passes, with the times at which they begin and end.
* `LoopClock.start_add_le`: the next pass begins a period after the last one, or later.
* `loop_pace`: the loop runs at 250 Hz at most, and the passes are paced.
* `lost_link_grounds`: the time from a lost link to the ground, from the work of a pass and the
  lateness of the timer.
-/

namespace DroneFirmware

open Reactive CText

/-- `MPU9250_LOOP_MS`. -/
def mpu9250LoopMs : ℤ := 4

/-- The argument of `k_sleep` after a pass that took `elapsed`:
`MPU9250_LOOP_MS - (int32_t)elapsed`. -/
def deadlineSleep (elapsed : ℤ) : ℤ := wrap32 (mpu9250LoopMs - wrap32 elapsed)

/-- A pass with the readings around it: `t_start`, and the one that `elapsed` is taken from. -/
structure LoopPass where
  start : ℤ
  finish : ℤ
  tick : Tick

/-- The readings of the pass are taken in order, between its two ends, and `work` is enough for
it. -/
structure LoopPass.Works (work : ℤ) (p : LoopPass) : Prop where
  start_le : p.start ≤ p.tick.tWeb
  web_le_now : p.tick.tWeb ≤ p.tick.tNow
  now_le_step : p.tick.tNow ≤ p.tick.tStep
  step_le_enter : p.tick.tStep ≤ p.tick.tEnter
  enter_le : p.tick.tEnter ≤ p.finish
  finish_le : p.finish ≤ p.start + work

/-- The pass `q` begins when the sleep of the pass `p` is over: if `p` sleeps, no earlier than it
is told and no more than `late` after; else at once, or no more than `late` after. -/
structure LoopPass.Wakes (late : ℤ) (p q : LoopPass) : Prop where
  slept : p.finish + max 0 (deadlineSleep (p.finish - p.start)) ≤ q.start
  woken : q.start ≤ p.finish + max 0 (deadlineSleep (p.finish - p.start)) + late

/-- The clock of a run of the loop. -/
structure LoopClock (work late : ℤ) (passes : List LoopPass) : Prop where
  works : ∀ p ∈ passes, p.Works work
  wakes : passes.IsChain (LoopPass.Wakes late)

instance (work : ℤ) (p : LoopPass) : Decidable (p.Works work) :=
  decidable_of_iff (p.start ≤ p.tick.tWeb ∧ p.tick.tWeb ≤ p.tick.tNow ∧
    p.tick.tNow ≤ p.tick.tStep ∧ p.tick.tStep ≤ p.tick.tEnter ∧ p.tick.tEnter ≤ p.finish ∧
    p.finish ≤ p.start + work)
    ⟨fun h => ⟨h.1, h.2.1, h.2.2.1, h.2.2.2.1, h.2.2.2.2.1, h.2.2.2.2.2⟩,
      fun h => ⟨h.1, h.2, h.3, h.4, h.5, h.6⟩⟩

instance (late : ℤ) (p q : LoopPass) : Decidable (p.Wakes late q) :=
  decidable_of_iff (p.finish + max 0 (deadlineSleep (p.finish - p.start)) ≤ q.start ∧
    q.start ≤ p.finish + max 0 (deadlineSleep (p.finish - p.start)) + late)
    ⟨fun h => ⟨h.1, h.2⟩, fun h => ⟨h.1, h.2⟩⟩

instance (work late : ℤ) (passes : List LoopPass) : Decidable (LoopClock work late passes) :=
  decidable_of_iff ((∀ p ∈ passes, p.Works work) ∧ passes.IsChain (LoopPass.Wakes late))
    ⟨fun h => ⟨h.1, h.2⟩, fun h => ⟨h.1, h.2⟩⟩

/-! ## One period -/

/-- The cut to 32 bits is harmless for 24 days. -/
theorem deadlineSleep_of_lt {elapsed : ℤ} (h0 : 0 ≤ elapsed) (h : elapsed < 2 ^ 31) :
    deadlineSleep elapsed = mpu9250LoopMs - elapsed := by
  have hms : mpu9250LoopMs = 4 := rfl
  have hcast : wrap32 elapsed = elapsed := Int.bmod_eq_of_le (by omega) (by omega)
  rw [deadlineSleep, hcast, hms]
  exact Int.bmod_eq_of_le (by omega) (by omega)

theorem LoopPass.Works.elapsed_nonneg {work : ℤ} {p : LoopPass} (h : p.Works work) :
    0 ≤ p.finish - p.start := by
  obtain ⟨h1, h2, h3, h4, h5, -⟩ := h
  omega

section Period

variable {work late : ℤ} (hwork : work < 2 ^ 31) {p q : LoopPass} (hp : p.Works work)
  (hpq : p.Wakes late q)

include hwork hp hpq

/-- The next pass begins a period after this one, or later. -/
theorem LoopPass.Wakes.start_add_le : p.start + mpu9250LoopMs ≤ q.start := by
  have hslept := hpq.slept
  have hfinish := hp.finish_le
  rw [deadlineSleep_of_lt hp.elapsed_nonneg (by omega)] at hslept
  omega

/-- The next pass begins when the period or the work is over, or `late` after. -/
theorem LoopPass.Wakes.start_le_add : q.start ≤ p.start + max mpu9250LoopMs work + late := by
  have hwoken := hpq.woken
  have hfinish := hp.finish_le
  rw [deadlineSleep_of_lt hp.elapsed_nonneg (by omega)] at hwoken
  omega

end Period

/-! ## A run of the loop -/

/-- How far apart the passes are. -/
def loopGap (work late : ℤ) : ℤ := max mpu9250LoopMs work + late + work

/-- Two passes in a row, as the state machine sees them. -/
theorem LoopPass.Wakes.follows {work late : ℤ} (hwork : work < 2 ^ 31) {p q : LoopPass}
    (hp : p.Works work) (hq : q.Works work) (hpq : p.Wakes late q) :
    p.tick.Follows (loopGap work late) q.tick := by
  have hslept := hpq.slept
  have hstart := hpq.start_le_add hwork hp
  obtain ⟨h1, h2, h3, h4, h5, h6⟩ := hp
  obtain ⟨g1, g2, g3, g4, g5, g6⟩ := hq
  refine ⟨by omega, ?_⟩
  rw [loopGap]
  omega

theorem LoopClock.paced {work late : ℤ} (hwork : work < 2 ^ 31) (hlate : 0 ≤ late)
    {passes : List LoopPass} (h : LoopClock work late passes) :
    Paced (loopGap work late) (passes.map LoopPass.tick) := by
  have hms : mpu9250LoopMs = 4 := rfl
  obtain ⟨hworks, hwakes⟩ := h
  constructor
  · intro t ht
    obtain ⟨p, hp, rfl⟩ := List.mem_map.mp ht
    obtain ⟨h1, h2, h3, h4, h5, h6⟩ := hworks p hp
    refine ⟨h2, h3, h4, ?_⟩
    rw [loopGap]
    omega
  · induction passes with
    | nil => exact List.isChain_nil
    | cons p passes ih =>
      cases passes with
      | nil => exact List.isChain_singleton _
      | cons q passes =>
        rw [List.isChain_cons_cons] at hwakes
        rw [List.map_cons, List.map_cons, List.isChain_cons_cons]
        exact ⟨hwakes.1.follows hwork (hworks p (by simp)) (hworks q (by simp)),
          ih (fun r hr => hworks r (List.mem_cons_of_mem p hr)) hwakes.2⟩

/-- The passes begin a period apart. -/
theorem LoopClock.spaced {work late : ℤ} (hwork : work < 2 ^ 31) {passes : List LoopPass}
    (h : LoopClock work late passes) :
    (passes.map LoopPass.start).Pairwise fun s s' => s + mpu9250LoopMs ≤ s' := by
  have hms : mpu9250LoopMs = 4 := rfl
  obtain ⟨hworks, hwakes⟩ := h
  induction passes with
  | nil => exact List.Pairwise.nil
  | cons p passes ih =>
    have htail := ih (fun r hr => hworks r (List.mem_cons_of_mem p hr)) hwakes.tail
    rw [List.map_cons, List.pairwise_cons]
    refine ⟨?_, htail⟩
    cases passes with
    | nil => exact nofun
    | cons q passes =>
      have hnext := (List.isChain_cons_cons.mp hwakes).1.start_add_le hwork (hworks p (by simp))
      rw [List.map_cons, List.pairwise_cons] at htail
      rw [List.map_cons]
      intro s hs
      rcases List.mem_cons.mp hs with rfl | hs
      · exact hnext
      · have hlater := htail.1 s hs
        omega

/-- **The pace of the loop.**  If no pass takes 24 days: any window of `len` ms sees the
beginning of `len / 4 + 1` passes at most; and the passes are paced by the longer of the period
and the work, with the work and the lateness of the timer added. -/
theorem loop_pace {work late : ℤ} (hwork : work < 2 ^ 31) (hlate : 0 ≤ late)
    (passes : List LoopPass) (h : LoopClock work late passes) :
    (∀ (lo : ℤ) (len : ℕ),
      ((passes.map LoopPass.start).filter fun s => lo ≤ s ∧ s ≤ lo + len).length ≤ len / 4 + 1) ∧
    Paced (loopGap work late) (passes.map LoopPass.tick) := by
  refine ⟨fun lo len => ?_, h.paced hwork hlate⟩
  have hwindow : ∀ s ∈ (passes.map LoopPass.start).filter fun s => lo ≤ s ∧ s ≤ lo + len,
      lo ≤ s ∧ s ≤ lo + len := fun s hs => by simpa using (List.mem_filter.mp hs).2
  exact length_le_of_spaced (by norm_num) ((h.spaced hwork).sublist List.filter_sublist) hwindow

/-- A pass that takes no time. -/
def LoopPass.instant (t : Tick) : LoopPass := ⟨t.tNow, t.tNow, t⟩

/-- Arm and take off from the page, up to the last request. -/
def webFlight : List LoopPass :=
  [.instant (.serving 5004 [pagePost 1 5000 "0" "1"]),
    .instant (.serving 5504 [pagePost 1 5500 "0" "1"]),
    .instant (.serving 5508 [pagePost 1 5506 "40" "1"])]

/-- The last request of `webFlight`. -/
def lastHeard : LoopPass := .instant (.serving 5528 [pagePost 1 5520 "40" "1"])

/-- Passes half a second apart on which nothing is heard. -/
def slowSilence : List LoopPass :=
  (List.range 32).map fun k => .instant (.calm (6028 + 500 * k) .silent)

theorem loop_pace_webFlight :
    (∀ (lo : ℤ) (len : ℕ), ((webFlight.map LoopPass.start).filter
      fun s => lo ≤ s ∧ s ≤ lo + len).length ≤ len / 4 + 1) ∧
    Paced (loopGap 0 500) (webFlight.map LoopPass.tick) :=
  loop_pace (by norm_num) (by norm_num) webFlight (by decide +kernel)

/-- **A lost link ends on the ground**, if the radio's last payload is inactive.  Whatever else
happened up to the pass `a`: if nothing active arrives after it on either link, the drone is at
rest 6.6 s and 19 gaps of the loop later, with its motors stopped if the `pwm_set` calls of the
last pass succeed. -/
theorem lost_link_grounds (env : BootEnv) {work late : ℤ} (hwork : work < 2 ^ 31)
    (hlate : 0 ≤ late) (history : List LoopPass) (a : LoopPass) (ps : List LoopPass)
    (p : LoopPass) (hclock : LoopClock work late (history ++ a :: ps ++ [p]))
    (hlost : LinksLost (history.map LoopPass.tick) a.tick ((ps ++ [p]).map LoopPass.tick))
    (hafter : a.tick.tNow + (6600 + 19 * loopGap work late) < p.tick.tNow) :
    GroundedAfter env ((history ++ a :: ps).map LoopPass.tick) p.tick := by
  have hpaced := hclock.paced hwork hlate
  rw [List.map_append, List.map_append, List.map_cons] at hpaced
  rw [List.map_append] at hlost ⊢
  exact groundedAfter_of_linksLost env _ _ a.tick _ p.tick hpaced hlost hafter

theorem lost_link_grounds_slowSilence :
    GroundedAfter .calm ((webFlight ++ lastHeard :: slowSilence).map LoopPass.tick)
      (.calm 22028 .silent) :=
  lost_link_grounds .calm (show (0 : ℤ) < 2 ^ 31 by norm_num) (show (0 : ℤ) ≤ 500 by norm_num)
    webFlight lastHeard slowSilence (.instant (.calm 22028 .silent)) (by decide +kernel)
    (by decide +kernel) (by decide +kernel)

end DroneFirmware

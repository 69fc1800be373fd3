import DroneFirmware.AutoLanding
import DroneFirmware.Reactive.Outputs

/-!
# One pulse width in one PWM period

`motors_set_from_rc` limits itself to one update in `ESC_PERIOD`, because a `pwm_set` more
often than once a period may cut a pulse short.  It is not the only writer: FAILSAFE and
LANDING drive the motors through `motors_set_all`, which keeps no time of last write and does
not touch the mixer's.

The law is about every two `pwm_set` calls of a run on one channel.  It fails where the motors
go from one writer to another, and only there: the first hold after a mix or a stop, and the
first mix after a hold or a stop.  LANDING and the mixer by itself keep it.

* `pulseLog`: the `pwm_set` calls of a run.
* `pulseWrites_cases`: what one pass can write.
* `logInv`: where the times of the log lie, in a run whose clock does not run backwards.
* `period_kept_iff`: the law holds exactly when every handover waits.
-/

namespace DroneFirmware

open Reactive

/-! ## The log -/

/-- `ESC_PERIOD_NS`, in milliseconds. -/
def escPeriodMs : ℤ := escPeriodNs / 1000000

/-- The `pwm_set` calls of a pass, at the clock value at which its state handler runs. -/
def pulseWrites (s : Firmware) (t : Tick) : List (Write (Fin numMotors) ℕ) :=
  (iterate s t).esc.calls.map fun w => ⟨t.tNow, w.channel, w.pulseNs⟩

/-- The `pwm_set` calls of a run of the loop, in order. -/
def pulseLog (env : BootEnv) (ticks : List Tick) : List (Write (Fin numMotors) ℕ) :=
  outputs iterate pulseWrites (boot env) ticks

theorem pulseLog_concat (env : BootEnv) (ticks : List Tick) (t : Tick) :
    pulseLog env (ticks ++ [t]) = pulseLog env ticks ++ pulseWrites (reached env ticks) t :=
  outputs_concat _ _ _

/-- Of two calls on one channel with different pulse widths, the later one is a stop or comes
a period after the earlier one. -/
def PeriodKept (log : List (Write (Fin numMotors) ℕ)) : Prop :=
  log.Pairwise (Write.Waits escPeriodMs (pulseOf 0))

instance (log : List (Write (Fin numMotors) ℕ)) : Decidable (PeriodKept log) :=
  inferInstanceAs (Decidable (List.Pairwise _ _))

/-- The clock of the state handlers does not run backwards. -/
def ClockRuns (ticks : List Tick) : Prop :=
  (ticks.Pairwise fun t u => t.tNow ≤ u.tNow) ∧ ∀ t ∈ ticks, t.tNow ≤ t.tStep

instance (ticks : List Tick) : Decidable (ClockRuns ticks) :=
  inferInstanceAs (Decidable (_ ∧ _))

/-! ## One pass -/

/-- The pass holds: FAILSAFE without a signal, before its timeout. -/
def HoldPass (s : Firmware) (t : Tick) : Prop :=
  t.i2c = .ok ∧ s.fsm.currentState = .failsafe ∧ (s.packet t).droneActive = false ∧
    t.tNow - s.fsm.stateEnterMs < failsafeTimeoutMs

/-- The pass takes a step of the landing. -/
def DescentPass (s : Firmware) (t : Tick) : Prop :=
  t.i2c = .ok ∧ s.fsm.currentState = .landing ∧ s.fsm.landingThrottle ≠ 0 ∧
    landingStepMs ≤ t.tNow - s.fsm.lastLandingStepMs

/-- The writes of a sweep of `motors_set_all`. -/
def sweepWrites (now : ℤ) (percent : UInt8) : List (Write (Fin numMotors) ℕ) :=
  (List.finRange numMotors).map fun i => ⟨now, i, pulseOf percent⟩

/-- The percentage that the package of a mixing pass asks of a motor. -/
def Firmware.asked (s : Firmware) (t : Tick) (i : Fin numMotors) : UInt8 :=
  clampPct (s.commanded t i)

/-- The writes of a mix: to the motors of which it asks another percentage than the cached
one. -/
def mixWrites (s : Firmware) (t : Tick) : List (Write (Fin numMotors) ℕ) :=
  ((List.finRange numMotors).filter fun i => s.asked t i ≠ s.esc.lastPct i).map
    fun i => ⟨t.tNow, i, pulseOf (s.asked t i)⟩

/-- A sweep, as `motors_set_all` makes it. -/
theorem pulseWrites_of_sweep {s : Firmware} {t : Tick} {percent : UInt8}
    (h : (iterate s t).esc = (motorsSetAll t.pwm percent { s.esc with calls := [] }).2) :
    pulseWrites s t = sweepWrites t.tNow percent := by
  rw [pulseWrites, h, motorsSetAll_esc, sweepWrites]
  simp [sweep]

theorem value_of_mem_sweepWrites {now : ℤ} {percent : UInt8} {w : Write (Fin numMotors) ℕ}
    (h : w ∈ sweepWrites now percent) : w.value = pulseOf percent := by
  obtain ⟨i, -, rfl⟩ := List.mem_map.mp h
  rfl

/-- A pass that ends in ERROR writes nothing but stops. -/
theorem value_of_error {s : Firmware} {t : Tick} (h : t.i2c ≠ .ok) :
    ∀ w ∈ pulseWrites s t, w.value = pulseOf 0 := by
  have hstop : ∀ w ∈ (iterate s t).esc.calls, w.pulseNs = pulseOf 0 := by
    have hsweep : ∀ dev, ∀ w ∈ sweep dev 0, w.pulseNs = pulseOf 0 := by
      intro dev w hw
      obtain ⟨i, -, rfl⟩ := List.mem_map.mp hw
      rfl
    rw [iterate_esc_of_error ((iterate_error_iff s t).mpr (Or.inl h)), motorsSetAll_esc,
      Firmware.escPolled]
    intro w hw
    split_ifs at hw
    · rw [motorsSetAll_esc] at hw
      simp only [List.nil_append, List.mem_append] at hw
      exact hw.elim (hsweep _ w) (hsweep _ w)
    · exact hsweep _ w hw
  intro w hw
  obtain ⟨call, hcall, rfl⟩ := List.mem_map.mp hw
  exact hstop call hcall

/-- A pass that mixes writes the motors of which it asks another percentage. -/
theorem pulseWrites_of_mixes {s : Firmware} {t : Tick} (h : Mixes s t) :
    pulseWrites s t = mixWrites s t := by
  rw [pulseWrites, (iterate_of_mixes h).2, applyMix_eq, mixWrites]
  show List.map _ ([] ++ List.map _ _) = _
  rw [List.nil_append, List.map_map]
  rfl

/-- **What one pass can write**: a hold, a mix, a step of the landing, or nothing but stops. -/
theorem pulseWrites_cases (s : Firmware) (t : Tick) :
    (HoldPass s t ∧ pulseWrites s t = sweepWrites t.tNow failsafeHoldPct) ∨
      (Mixes s t ∧ pulseWrites s t = mixWrites s t) ∨
      (DescentPass s t ∧
        pulseWrites s t = sweepWrites t.tNow (landingStep s.fsm.landingThrottle)) ∨
      (¬ HoldPass s t ∧ ¬ Mixes s t ∧ ∀ w ∈ pulseWrites s t, w.value = pulseOf 0) := by
  by_cases hi : t.i2c = .ok
  · by_cases hmix : Mixes s t
    · exact Or.inr (Or.inl ⟨hmix, pulseWrites_of_mixes hmix⟩)
    · obtain ⟨f, c, htr, -, hesc⟩ := iterate_cases_of_ok s hi
      have hstop : (iterate s t).esc = (motorsSetAll t.pwm 0 { s.esc with calls := [] }).2 →
          ∀ w ∈ pulseWrites s t, w.value = pulseOf 0 := by
        intro h w hw
        rw [pulseWrites_of_sweep h] at hw
        exact value_of_mem_sweepWrites hw
      have hnothing : (iterate s t).esc = { s.esc with calls := [] } →
          ∀ w ∈ pulseWrites s t, w.value = pulseOf 0 := by
        intro h w hw
        simp [pulseWrites, h] at hw
      have hout : s.fsm.currentState ≠ .failsafe → ¬ HoldPass s t := fun hne h => hne h.2.1
      cases htr with
      | hold hs hrc ht => exact Or.inl ⟨⟨hi, hs, hrc, ht⟩, pulseWrites_of_sweep hesc⟩
      | descend hs hl ht =>
        exact Or.inr (Or.inr (Or.inl ⟨⟨hi, hs, hl, ht⟩, pulseWrites_of_sweep hesc⟩))
      | fly hs hrc hy =>
        -- the call is rate-limited
        have hlim : t.tNow - s.esc.lastUpdateMs < 20 := by
          by_contra hlim
          exact hmix ⟨hi, hs, hrc, hy, by omega⟩
        refine Or.inr (Or.inr (Or.inr ⟨hout (by simp [hs]), hmix, hnothing ?_⟩))
        have hlim' : t.tNow - ({ s.esc with calls := [] } : Esc).lastUpdateMs < 20 := hlim
        rw [hesc]
        exact motorsSetFromRc_of_limited hrc hlim' t.pwm
      | giveUp hs hrc ht =>
        have hover : ¬ HoldPass s t := fun h => absurd h.2.2.2 (not_lt.mpr ht)
        exact Or.inr (Or.inr (Or.inr ⟨hover, hmix, hnothing hesc⟩))
      | recover hs hrc =>
        have hactive : ¬ HoldPass s t := fun h => absurd h.2.2.1 (by simp [hrc])
        exact Or.inr (Or.inr (Or.inr ⟨hactive, hmix, hnothing hesc⟩))
      | rest hs | startArming hs =>
        have hne : s.fsm.currentState ≠ .failsafe := by rcases hs with hs | hs <;> simp [hs]
        exact Or.inr (Or.inr (Or.inr ⟨hout hne, hmix, hstop hesc⟩))
      | loseSignal hs | wait hs =>
        exact Or.inr (Or.inr (Or.inr ⟨hout (by simp [hs]), hmix, hnothing hesc⟩))
      | _ hs => exact Or.inr (Or.inr (Or.inr ⟨hout (by simp [hs]), hmix, hstop hesc⟩))
  · exact Or.inr (Or.inr (Or.inr ⟨fun h => hi h.1, fun h => hi h.1, value_of_error hi⟩))

/-- The writes of one pass keep the law among themselves: they go to different channels, or
they are stops. -/
theorem periodKept_pulseWrites (s : Firmware) (t : Tick) : PeriodKept (pulseWrites s t) := by
  have hsweep : ∀ percent, PeriodKept (sweepWrites t.tNow percent) := by
    intro percent
    refine pairwise_waits_of_nodup ?_
    rw [sweepWrites, List.map_map]
    exact (List.nodup_finRange numMotors).map fun i j h => h
  rcases pulseWrites_cases s t with ⟨-, h⟩ | ⟨-, h⟩ | ⟨-, h⟩ | ⟨-, -, h⟩
  · rw [h]
    exact hsweep _
  · rw [h]
    refine pairwise_waits_of_nodup ?_
    rw [mixWrites, List.map_map]
    exact ((List.nodup_finRange numMotors).filter _).map fun i j h => h
  · rw [h]
    exact hsweep _
  · exact pairwise_waits_of_rest h

/-! ## The times of the log -/

theorem time_of_mem_pulseWrites {s : Firmware} {t : Tick} {w : Write (Fin numMotors) ℕ}
    (h : w ∈ pulseWrites s t) : w.time = t.tNow := by
  obtain ⟨call, -, rfl⟩ := List.mem_map.mp h
  rfl

theorem clockRuns_concat {ticks : List Tick} {t : Tick} :
    ClockRuns (ticks ++ [t]) ↔
      ClockRuns ticks ∧ (∀ u ∈ ticks, u.tNow ≤ t.tNow) ∧ t.tNow ≤ t.tStep := by
  simp only [ClockRuns, List.pairwise_append, List.pairwise_singleton, List.mem_append,
    List.mem_singleton, forall_eq, true_and, or_imp, forall_and]
  tauto

theorem exists_tick_of_mem_pulseLog {env : BootEnv} {ticks : List Tick}
    {w : Write (Fin numMotors) ℕ} (h : w ∈ pulseLog env ticks) : ∃ t ∈ ticks, w.time = t.tNow := by
  induction ticks using List.reverseRecOn with
  | nil => simp [pulseLog, outputs] at h
  | append_singleton ticks t ih =>
    rw [pulseLog_concat, List.mem_append] at h
    rcases h with h | h
    · obtain ⟨u, hu, hw⟩ := ih h
      exact ⟨u, List.mem_append_left _ hu, hw⟩
    · exact ⟨t, by simp, time_of_mem_pulseWrites h⟩

/-- What the clock makes of the log: its times do not decrease, and in LANDING nothing was
written since the last step. -/
structure LogInv (env : BootEnv) (ticks : List Tick) : Prop where
  sorted : (pulseLog env ticks).Pairwise fun a b => a.time ≤ b.time
  landing : (reached env ticks).fsm.currentState = .landing →
    ∀ w ∈ pulseLog env ticks, w.time ≤ (reached env ticks).fsm.lastLandingStepMs

theorem le_of_mem_pulseLog {env : BootEnv} {ticks : List Tick} {t : Tick}
    (h : ClockRuns (ticks ++ [t])) {w : Write (Fin numMotors) ℕ} (hw : w ∈ pulseLog env ticks) :
    w.time ≤ t.tNow := by
  obtain ⟨u, hu, hwu⟩ := exists_tick_of_mem_pulseLog hw
  rw [hwu]
  exact (clockRuns_concat.mp h).2.1 u hu

/-- **The times of the log.** -/
theorem logInv (env : BootEnv) {ticks : List Tick} (h : ClockRuns ticks) : LogInv env ticks := by
  induction ticks using List.reverseRecOn with
  | nil => exact ⟨List.Pairwise.nil, fun _ w hw => by simp [pulseLog, outputs] at hw⟩
  | append_singleton ticks t ih =>
    obtain ⟨hticks, -, hstep⟩ := clockRuns_concat.mp h
    have hbefore : ∀ w ∈ pulseLog env ticks, w.time ≤ t.tNow := fun w => le_of_mem_pulseLog h
    have hinv := ih hticks
    constructor
    · rw [pulseLog_concat, List.pairwise_append]
      refine ⟨hinv.sorted, ?_, fun a ha b hb => ?_⟩
      · refine List.pairwise_of_forall_mem_list fun a ha b hb => ?_
        rw [time_of_mem_pulseWrites ha, time_of_mem_pulseWrites hb]
      · rw [time_of_mem_pulseWrites hb]
        exact hbefore a ha
    · rw [reached_concat, pulseLog_concat]
      intro hland w hw
      by_cases hs : (reached env ticks).fsm.currentState = .landing
      · have hi : t.i2c = .ok := (iterate_cases_of_ne_error (by rw [hland]; decide)).1
        rcases landing_pass hs hi with ⟨-, hidle, -⟩ | ⟨-, -, hf, -⟩ | ⟨-, -, hf, hcalls⟩
        · simp [hidle] at hland
        · rw [hf]
          rcases List.mem_append.mp hw with hw | hw
          · exact hbefore w hw
          · exact (time_of_mem_pulseWrites hw).le
        · rw [hf]
          rw [pulseWrites, hcalls, List.map_nil, List.append_nil] at hw
          exact hinv.landing hs w hw
      · obtain ⟨-, -, -, -, hlast, hcalls⟩ := enter_landing hs hland
        rw [hlast]
        rw [pulseWrites, hcalls, List.map_nil, List.append_nil] at hw
        exact (hbefore w hw).trans hstep

/-! ## Handovers -/

/-- The motors are handed from one writer to another with a period between the two: in a pass
that holds, the last `pwm_set` on each channel was the hold pulse or a period ago; in a pass
that mixes, for each motor of which it asks a new percentage other than 0, so was every
`pwm_set` that `motors_set_all` made since the last update of the mixer. -/
def HandoverWaits (env : BootEnv) (history : List Tick) (t : Tick) : Prop :=
  (HoldPass (reached env history) t → ∀ i, ∀ w ∈ lastOn i (pulseLog env history),
    w.value = pulseOf failsafeHoldPct ∨ w.time + escPeriodMs ≤ t.tNow) ∧
  (Mixes (reached env history) t → ∀ i,
    (reached env history).asked t i ≠ (reached env history).esc.lastPct i →
      (reached env history).asked t i ≠ 0 → ∀ w ∈ lastOn i (pulseLog env history),
        (reached env history).esc.lastUpdateMs < w.time →
          w.value = pulseOf ((reached env history).asked t i) ∨ w.time + escPeriodMs ≤ t.tNow)

theorem pulseOf_eq_stop_iff (p : UInt8) : pulseOf p = pulseOf 0 ↔ p = 0 := by
  have hzero : (0 : UInt8).toNat = 0 := rfl
  rw [← UInt8.toNat_inj, pulseOf, pulseOf, hzero]
  omega

theorem HoldPass.not_mixes {s : Firmware} {t : Tick} (h : HoldPass s t) : ¬ Mixes s t := by
  intro hm
  rw [Mixes, h.2.1] at hm
  simp at hm

/-- **One pass.**  Behind a log that keeps the law, its writes keep it exactly when the
handover waits. -/
theorem waits_iff_handoverWaits {env : BootEnv} {ticks : List Tick} {t : Tick}
    (h : ClockRuns (ticks ++ [t])) (hlog : PeriodKept (pulseLog env ticks)) :
    (∀ a ∈ pulseLog env ticks, ∀ b ∈ pulseWrites (reached env ticks) t,
      a.Waits escPeriodMs (pulseOf 0) b) ↔ HandoverWaits env ticks t := by
  have hinv := logInv env (clockRuns_concat.mp h).1
  have hlast : (∀ a ∈ pulseLog env ticks, ∀ b ∈ pulseWrites (reached env ticks) t,
      a.Waits escPeriodMs (pulseOf 0) b) ↔ ∀ b ∈ pulseWrites (reached env ticks) t,
        ∀ a ∈ lastOn b.channel (pulseLog env ticks),
          b.value = pulseOf 0 ∨ a.value = b.value ∨ a.time + escPeriodMs ≤ b.time := by
    rw [forall₂_comm]
    refine forall₂_congr fun b hb => ?_
    rw [waits_iff_last hinv.sorted hlog fun a ha => by
      rw [time_of_mem_pulseWrites hb]
      exact le_of_mem_pulseLog h ha]
    exact forall₂_congr fun a ha => waits_iff_of_mem_lastOn ha
  rw [hlast, HandoverWaits]
  rcases pulseWrites_cases (reached env ticks) t with ⟨hp, hw⟩ | ⟨hp, hw⟩ | ⟨hp, hw⟩ | ⟨hh, hm, hw⟩
  · have hrun : pulseOf failsafeHoldPct ≠ pulseOf 0 := by decide
    rw [hw, sweepWrites]
    simp [hp, hp.not_mixes, hrun]
  · have hhold : ¬ HoldPass (reached env ticks) t := fun h => h.not_mixes hp
    rw [hw, mixWrites, List.forall_mem_map]
    simp only [hhold, hp, false_imp_iff, true_imp_iff, true_and, List.mem_filter,
      List.mem_finRange, decide_eq_true_iff, pulseOf_eq_stop_iff]
    refine forall₂_congr fun i hi => ?_
    constructor
    · exact fun hall hne w hlw _ => (hall w hlw).resolve_left hne
    · intro hall w hlw
      by_cases hstop : (reached env ticks).asked t i = 0
      · exact Or.inl hstop
      · by_cases hmixer : (reached env ticks).esc.lastUpdateMs < w.time
        · exact Or.inr (hall hstop w hlw hmixer)
        · -- a write of the mixer's own: its rate limit keeps the law
          have hlim := hp.2.2.2.2
          have hperiod : escPeriodMs = 20 := rfl
          exact Or.inr (Or.inr (by omega))
  · have hland := hinv.landing hp.2.1
    have hstep := hp.2.2.2
    have hperiod : escPeriodMs = 20 := rfl
    have hhold : ¬ HoldPass (reached env ticks) t := fun h => by simp [HoldPass, hp.2.1] at h
    have hmix : ¬ Mixes (reached env ticks) t := fun h => by simp [Mixes, hp.2.1] at h
    simp only [hhold, hmix, false_imp_iff, true_and, iff_true]
    intro b hb a ha
    have hle := hland a (mem_of_mem_lastOn ha).1
    rw [time_of_mem_pulseWrites hb]
    rw [landingStepMs] at hstep
    exact Or.inr (Or.inr (by omega))
  · simp only [hh, hm, false_imp_iff, true_and, iff_true]
    exact fun b hb a _ => Or.inl (hw b hb)

/-! ## Runs -/

/-- The law that no pulse is changed within one period: in every run of the loop whose clock
does not run backwards. -/
def PulsesKeepPeriod : Prop :=
  ∀ (env : BootEnv) (ticks : List Tick), ClockRuns ticks → PeriodKept (pulseLog env ticks)

/-- **The period is kept exactly when every handover waits.**  In a run of the loop whose clock
does not run backwards, every two `pwm_set` calls on one channel with different pulse widths,
the later not a stop, are a period apart if and only if in every pass that holds or mixes the
writer that had the motors before left them a period ago. -/
theorem period_kept_iff (env : BootEnv) (ticks : List Tick) (hclock : ClockRuns ticks) :
    PeriodKept (pulseLog env ticks) ↔ Throughout (HandoverWaits env) ticks := by
  induction ticks using List.reverseRecOn with
  | nil =>
    refine iff_of_true List.Pairwise.nil fun pre t post hs => ?_
    simp at hs
  | append_singleton ticks t ih =>
    have hbefore := ih (clockRuns_concat.mp hclock).1
    rw [pulseLog_concat, throughout_concat, ← hbefore, PeriodKept, List.pairwise_append]
    constructor
    · exact fun ⟨hlog, _, hnew⟩ => ⟨hlog, (waits_iff_handoverWaits hclock hlog).mp hnew⟩
    · exact fun ⟨hlog, hwaits⟩ => ⟨hlog, periodKept_pulseWrites _ _,
        (waits_iff_handoverWaits hclock hlog).mpr hwaits⟩

theorem period_kept_iff_heldRun :
    PeriodKept (pulseLog .calm heldRun) ↔ Throughout (HandoverWaits .calm) heldRun :=
  period_kept_iff .calm heldRun (by decide)

/-- Fly at 4 %, lose the signal, hold. -/
def signalLossRun : List Tick :=
  slowFlightRun ++ [.calm 5536 (.received 5536 .zero), .calm 5540 .silent]

/-- **The first hold does not wait.**  The mixer writes 4 % at 5532, FAILSAFE writes the hold
throttle at 5540. -/
theorem not_pulsesKeepPeriod : ¬ PulsesKeepPeriod := by
  intro h
  have hrun := h .calm signalLossRun (by decide)
  revert hrun
  decide +kernel

end DroneFirmware

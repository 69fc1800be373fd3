import DroneFirmware.FailsafeHold

/-!
# Arming

The machine leaves IDLE through ARMING only, and ARMING through ARMED only after the pilot
has held an active package with the throttle down for `ARM_CONFIRM_MS`.  Whatever happens
later --- flights, failsafes, landings --- that block lies behind every armed state, with no
IDLE in between.

* `exists_phase`: a machine in a state entered it in some pass, and has stayed since.
* `ArmingBlock`: the run so cut, with what is true of each part.
* `arming_safety`: every armed state has an arming block behind it, and FLYING is entered
  from ARMED with the throttle up, or from FAILSAFE.
-/

namespace DroneFirmware

open Reactive

/-! ## Phases -/

/-- INIT is left before the loop. -/
theorem reached_ne_init (env : BootEnv) (ticks : List Tick) :
    (reached env ticks).fsm.currentState ≠ .init := by
  refine run_invariant (fun s : Firmware => s.fsm.currentState ≠ .init) (fun s t h => ?_) ?_ ticks
  · obtain ⟨f, c, htr, hf, -⟩ := iterate_cases s t
    have hpolled : (s.fsm.polled t).currentState ≠ .init := by
      rw [Fsm.polled]
      split_ifs
      · simp
      · exact h
    rw [hf]
    cases htr with
    | rest | confirmArming | stayArmed | fly | hold | descend | wait | fault => exact hpolled
    | _ => simp
  · exact boot_currentState_ne env (by decide) (by decide)

section Phases

variable {q : DroneState} {P : Firmware → Tick → Prop}

/-- Passes that stay in `q` keep the entry time, and whatever such a pass knows. -/
theorem along_stay
    (hstay : ∀ s t, s.fsm.currentState = q → (iterate s t).fsm.currentState = q →
      P s t ∧ (iterate s t).fsm.stateEnterMs = s.fsm.stateEnterMs)
    {s : Firmware} {ticks : List Tick} (h : s.fsm.currentState = q)
    (hs : Along iterate (fun s t => (iterate s t).fsm.currentState = q) s ticks) :
    Along iterate (fun s t => (iterate s t).fsm.currentState = q ∧ P s t) s ticks ∧
      (run iterate s ticks).fsm.stateEnterMs = s.fsm.stateEnterMs := by
  induction ticks generalizing s with
  | nil => exact ⟨trivial, rfl⟩
  | cons t ticks ih =>
    obtain ⟨hnext, hrest⟩ := hs
    obtain ⟨hpass, henter⟩ := hstay s t h hnext
    obtain ⟨halong, hkeep⟩ := ih hnext hrest
    exact ⟨⟨⟨hnext, hpass⟩, halong⟩, by rw [run_cons, hkeep, henter]⟩

/-- **The phase behind a state.**  A machine in `q` entered it in some pass, has stayed since,
and remembers that pass's clock. -/
theorem exists_phase {env : BootEnv} {ticks : List Tick}
    (hboot : (boot env).fsm.currentState ≠ q)
    (henter : ∀ s t, s.fsm.currentState ≠ .init → s.fsm.currentState ≠ q →
      (iterate s t).fsm.currentState = q → P s t ∧ (iterate s t).fsm.stateEnterMs = t.tEnter)
    (hstay : ∀ s t, s.fsm.currentState = q → (iterate s t).fsm.currentState = q →
      P s t ∧ (iterate s t).fsm.stateEnterMs = s.fsm.stateEnterMs)
    (h : (reached env ticks).fsm.currentState = q) :
    ∃ before first middle, ticks = before ++ first :: middle ∧
      (reached env before).fsm.currentState ≠ q ∧
      Along iterate (fun s t => (iterate s t).fsm.currentState = q ∧ P s t) (reached env before)
        (first :: middle) ∧
      (reached env ticks).fsm.stateEnterMs = first.tEnter := by
  obtain ⟨before, first, middle, hentry⟩ :=
    exists_lastEntry (q := fun s : Firmware => s.fsm.currentState = q) hboot ticks h
  have hsplit : ticks = before ++ first :: middle := hentry.split
  have henters : (iterate (reached env before) first).fsm.currentState = q := hentry.enters
  obtain ⟨hfirst, henterMs⟩ := henter _ _ (reached_ne_init env before) hentry.outside henters
  obtain ⟨hmiddle, hkeep⟩ := along_stay hstay henters hentry.stays
  refine ⟨before, first, middle, hsplit, hentry.outside, ⟨⟨henters, hfirst⟩, hmiddle⟩, ?_⟩
  rw [hsplit, reached, run_append, run_cons]
  exact hkeep.trans henterMs

end Phases

/-! ## Entries -/

/-- ARMED and the states that are reached through it. -/
def DroneState.IsArmed (q : DroneState) : Prop :=
  q = .armed ∨ q = .flying ∨ q = .failsafe ∨ q = .landing

instance (q : DroneState) : Decidable q.IsArmed := inferInstanceAs (Decidable (_ ∨ _ ∨ _ ∨ _))

/-- `arm_condition` holds of the package of the pass. -/
def ArmingPass (s : Firmware) (t : Tick) : Prop :=
  (s.packet t).droneActive = true ∧ (s.packet t).yLeft.toInt ≤ 0

theorem armCondition_iff (rc : DataPackage) :
    armCondition rc = true ↔ rc.droneActive = true ∧ rc.yLeft.toInt ≤ 0 := by
  rw [armCondition, Bool.and_eq_true, decide_eq_true_iff]

/-- **Into the armed states** there is one way: from ARMING, under the arm condition, when the
confirmation time has passed. -/
theorem enter_armed {s : Firmware} {t : Tick} (h : ¬ s.fsm.currentState.IsArmed)
    (h' : (iterate s t).fsm.currentState.IsArmed) :
    s.fsm.currentState = .arming ∧ (iterate s t).fsm.currentState = .armed ∧ ArmingPass s t ∧
      armConfirmMs ≤ t.tNow - s.fsm.stateEnterMs := by
  have hne : (iterate s t).fsm.currentState ≠ .error := by
    rintro herr
    rw [herr] at h'
    exact absurd h' (by decide)
  obtain ⟨-, f, c, htr, hf, -⟩ := iterate_cases_of_ne_error hne
  rw [hf] at h' ⊢
  cases htr with
  | finishArming hs hrc ht => exact ⟨hs, rfl, (armCondition_iff _).mp hrc, ht⟩
  | rest | confirmArming | stayArmed | fly | hold | descend | wait | fault => exact absurd h' h
  | startArming | abortArming | disarm | landed => exact absurd h' (by simp [DroneState.IsArmed])
  | takeOff hs | loseSignal hs | touchDown hs | recover hs | giveUp hs =>
    exact absurd (by simp [hs, DroneState.IsArmed]) h

/-- **Into ARMING** there is one way: from IDLE, under the arm condition. -/
theorem enter_arming {s : Firmware} {t : Tick} (hinit : s.fsm.currentState ≠ .init)
    (h : s.fsm.currentState ≠ .arming) (h' : (iterate s t).fsm.currentState = .arming) :
    s.fsm.currentState = .idle ∧ ArmingPass s t ∧ (iterate s t).fsm.stateEnterMs = t.tEnter := by
  obtain ⟨-, f, c, htr, hf, -⟩ := iterate_cases_of_ne_error (by rw [h']; decide)
  rw [hf] at h' ⊢
  cases htr with
  | startArming hs hrc => exact ⟨hs.resolve_left hinit, (armCondition_iff _).mp hrc, rfl⟩
  | rest | confirmArming | stayArmed | fly | hold | descend | wait | fault => exact absurd h' h
  | _ => simp at h'

/-- A pass that stays in ARMING saw the arm condition and left the entry time alone. -/
theorem stay_arming {s : Firmware} {t : Tick} (h : s.fsm.currentState = .arming)
    (h' : (iterate s t).fsm.currentState = .arming) :
    ArmingPass s t ∧ (iterate s t).fsm.stateEnterMs = s.fsm.stateEnterMs := by
  obtain ⟨-, f, c, htr, hf, -⟩ := iterate_cases_of_ne_error (by rw [h']; decide)
  rw [hf] at h' ⊢
  cases htr with
  | confirmArming _ hrc => exact ⟨(armCondition_iff _).mp hrc, rfl⟩
  | rest hs | startArming hs => simp [h] at hs
  | abortArming | finishArming => simp at h'
  | disarm hs | stayArmed hs | takeOff hs | loseSignal hs | touchDown hs | fly hs | recover hs
  | hold hs | giveUp hs | descend hs | wait hs | landed hs | fault hs => simp [h] at hs

/-- **Into FLYING** there are two ways. -/
theorem enter_flying {s : Firmware} {t : Tick} (h : s.fsm.currentState ≠ .flying)
    (h' : (iterate s t).fsm.currentState = .flying) :
    (s.fsm.currentState = .armed ∧ (s.packet t).droneActive = true ∧
        throttleFlyThreshold < (s.packet t).yLeft.toInt) ∨
      (s.fsm.currentState = .failsafe ∧ (s.packet t).droneActive = true) := by
  obtain ⟨-, f, c, htr, hf, -⟩ := iterate_cases_of_ne_error (by rw [h']; decide)
  rw [hf] at h'
  cases htr with
  | takeOff hs hrc hy => exact Or.inl ⟨hs, hrc, hy⟩
  | recover hs hrc => exact Or.inr ⟨hs, hrc⟩
  | rest | confirmArming | stayArmed | fly | hold | descend | wait | fault => exact absurd h' h
  | _ => simp at h'

/-! ## The arming block -/

/-- The run `ticks` cut at its last arming: the machine is in IDLE after `before`, `first`
enters ARMING, `middle` stays there, `last` enters ARMED. -/
structure ArmingBlock (env : BootEnv) (ticks before : List Tick) (first : Tick)
    (middle : List Tick) (last : Tick) (after : List Tick) : Prop where
  split : ticks = before ++ first :: (middle ++ last :: after)
  idle : (reached env before).fsm.currentState = .idle
  enters : (reached env (before ++ [first])).fsm.currentState = .arming
  ends : (reached env (before ++ first :: (middle ++ [last]))).fsm.currentState = .armed
  /-- Every package of the block is active with the throttle down. -/
  held : Along iterate ArmingPass (reached env before) (first :: (middle ++ [last]))
  /-- The clock readings that the confirmation compares. -/
  confirmed : armConfirmMs ≤ last.tNow - first.tEnter
  /-- The block lies after the last pass that ended in IDLE. -/
  since : Along iterate (fun s t => (iterate s t).fsm.currentState ≠ .idle) (reached env before)
    (first :: (middle ++ last :: after))

/-- **An arming block lies behind every armed state.** -/
theorem exists_armingBlock {env : BootEnv} {ticks : List Tick}
    (h : (reached env ticks).fsm.currentState.IsArmed) :
    ∃ before first middle last after, ArmingBlock env ticks before first middle last after := by
  have hboot : ¬ (boot env).fsm.currentState.IsArmed := by
    rw [boot_currentState]
    split_ifs <;> decide
  obtain ⟨pre, last, after, hentry⟩ :=
    exists_lastEntry (q := fun s : Firmware => s.fsm.currentState.IsArmed) hboot ticks h
  obtain ⟨harming, hends, hlast, htime⟩ := enter_armed hentry.outside hentry.enters
  obtain ⟨before, first, middle, hpre, hout, hphase, henterMs⟩ :=
    exists_phase (P := ArmingPass) (boot_currentState_ne env (by decide) (by decide))
      (fun s t hi ho he => (enter_arming hi ho he).2) (fun s t => stay_arming) harming
  obtain ⟨hidle, -⟩ := enter_arming (reached_ne_init env before) hout hphase.1.1
  have hrun : run iterate (reached env before) (first :: middle) = reached env pre := by
    rw [hpre, reached, reached, run_append]
  have hne : ∀ q : DroneState, q.IsArmed → q ≠ .idle := by
    rintro q hq rfl
    exact absurd hq (by decide)
  refine ⟨before, first, middle, last, after, ?_, hidle, ?_, ?_, ?_, ?_, ?_⟩
  · rw [hentry.split, hpre, List.append_assoc, List.cons_append]
  · rw [reached_concat]
    exact hphase.1.1
  · have hsplit : before ++ first :: (middle ++ [last]) = pre ++ [last] := by
      rw [hpre, List.append_assoc, List.cons_append]
    rw [hsplit, reached_concat]
    exact hends
  · rw [← List.cons_append, along_append, hrun]
    exact ⟨hphase.mono fun s t hs => hs.2, hlast, trivial⟩
  · rw [← henterMs]
    exact htime
  · rw [← List.cons_append, along_append, hrun]
    exact ⟨hphase.mono fun s t hs => by simp [hs.1], hne _ hentry.enters,
      hentry.stays.mono fun s t hs => hne _ hs⟩

/-- What arming safety asks of the pass `t` after `history`. -/
structure ArmingSafe (env : BootEnv) (history : List Tick) (t : Tick) : Prop where
  armed : (reached env (history ++ [t])).fsm.currentState.IsArmed →
    ∃ before first middle last after,
      ArmingBlock env (history ++ [t]) before first middle last after
  flying : (reached env history).fsm.currentState ≠ .flying →
    (reached env (history ++ [t])).fsm.currentState = .flying →
      ((reached env history).fsm.currentState = .armed ∧
          ((reached env history).packet t).droneActive = true ∧
          throttleFlyThreshold < ((reached env history).packet t).yLeft.toInt) ∨
        ((reached env history).fsm.currentState = .failsafe ∧
          ((reached env history).packet t).droneActive = true)

/-- **Arming safety.**  In every pass of every run: an armed state has an arming block behind
it, and FLYING is entered from ARMED with the throttle up or from FAILSAFE, on an active
package.  Nothing is assumed of the clock. -/
theorem arming_safety (env : BootEnv) (ticks : List Tick) : Throughout (ArmingSafe env) ticks := by
  rintro history t post rfl
  refine ⟨exists_armingBlock, fun h h' => ?_⟩
  rw [reached_concat] at h'
  exact enter_flying h h'

end DroneFirmware

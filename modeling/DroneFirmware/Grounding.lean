import DroneFirmware.AutoLanding
import DroneFirmware.StateOutputs
import DroneFirmware.Reactive.Deadline

/-!
# A lost link ends on the ground

A flight that no link commands any more goes through FAILSAFE and LANDING to IDLE.  Each state
waits for a time to pass, and a pass of the main loop sees the time only as often as it comes;
so the time it takes in all depends on how far apart the passes are.

* `Paced`: the readings of the clock come in order, and no two passes are more than `δ` apart.
* `reached_of_paced`, `goal_of_paced`: the rules for runs of such passes.
* `Timely`: what the clock readings in the state have to do with the last pass.
* `due`: the reading by which a machine without a command is at rest; `meetsDeadline_due`.
* `silence_grounds`: without an active package the drone is at rest after 4600 ms and 18 `δ`.
* `groundedAfter_of_linksLost`: without an active arrival on either link, after 6600 ms and 19 `δ`.
-/

namespace DroneFirmware

open Reactive

/-! ## The clock of the passes -/

/-- The readings of a pass are in the order in which it takes them, and take no more than `δ`. -/
structure Tick.Orderly (δ : ℤ) (t : Tick) : Prop where
  web_le_now : t.tWeb ≤ t.tNow
  now_le_step : t.tNow ≤ t.tStep
  step_le_enter : t.tStep ≤ t.tEnter
  enter_le : t.tEnter ≤ t.tNow + δ

/-- The pass `u` comes after the pass `t`, and tests its clock no more than `δ` after `t` did. -/
structure Tick.Follows (δ : ℤ) (t u : Tick) : Prop where
  order : t.tEnter ≤ u.tWeb
  gap : u.tNow ≤ t.tNow + δ

/-- The passes are in order and no two are more than `δ` apart. -/
structure Paced (δ : ℤ) (ticks : List Tick) : Prop where
  orderly : ∀ t ∈ ticks, t.Orderly δ
  follows : ticks.IsChain (Tick.Follows δ)

instance (δ : ℤ) (t : Tick) : Decidable (t.Orderly δ) :=
  decidable_of_iff (t.tWeb ≤ t.tNow ∧ t.tNow ≤ t.tStep ∧ t.tStep ≤ t.tEnter ∧ t.tEnter ≤ t.tNow + δ)
    ⟨fun h => ⟨h.1, h.2.1, h.2.2.1, h.2.2.2⟩, fun h => ⟨h.1, h.2, h.3, h.4⟩⟩

instance (δ : ℤ) (t u : Tick) : Decidable (t.Follows δ u) :=
  decidable_of_iff (t.tEnter ≤ u.tWeb ∧ u.tNow ≤ t.tNow + δ)
    ⟨fun h => ⟨h.1, h.2⟩, fun h => ⟨h.1, h.2⟩⟩

instance (δ : ℤ) (ticks : List Tick) : Decidable (Paced δ ticks) :=
  decidable_of_iff ((∀ t ∈ ticks, t.Orderly δ) ∧ ticks.IsChain (Tick.Follows δ))
    ⟨fun h => ⟨h.1, h.2⟩, fun h => ⟨h.1, h.2⟩⟩

/-- A stretch of paced passes is paced. -/
theorem Paced.stretch {δ : ℤ} {ticks some : List Tick} (h : Paced δ ticks)
    (hi : some <:+: ticks) : Paced δ some := by
  refine ⟨fun t ht => h.orderly t (hi.subset ht), ?_⟩
  obtain ⟨pre, post, rfl⟩ := hi
  exact (List.isChain_append.mp (List.isChain_append.mp h.follows).1).2.1

/-! ## Runs of paced passes -/

/-- **The run rule for paced passes.**  What holds of the state and the last pass after each pass,
if it holds after the init steps and any pass before the first. -/
theorem reached_of_paced {env : BootEnv} {δ : ℤ} {J : Firmware → Tick → Prop}
    (hboot : ∀ b, J (boot env) b)
    (hstep : ∀ {s a t}, J s a → t.Orderly δ → a.Follows δ t → a.tNow ≤ t.tNow → J (iterate s t) t)
    {history : List Tick} {a : Tick} (h : Paced δ (history ++ [a])) :
    J (reached env (history ++ [a])) a := by
  have ha : a.Orderly δ := h.orderly a (by simp)
  have hweb := ha.web_le_now
  have hnow := ha.now_le_step
  have hstep' := ha.step_le_enter
  induction history using List.reverseRecOn generalizing a with
  | nil =>
    -- the init steps as a pass before the first one
    have henter := ha.enter_le
    rw [reached_concat]
    exact hstep (hboot { a with tEnter := a.tWeb }) ha
      ⟨le_rfl, by show a.tNow ≤ a.tNow + δ; omega⟩ le_rfl
  | append_singleton history b ih =>
    have hb : b.Orderly δ := h.orderly b (by simp)
    have hbefore := ih (h.stretch ⟨[], [a], by simp⟩) hb hb.web_le_now hb.now_le_step
      hb.step_le_enter
    have hfollows : b.Follows δ a := by
      have hchain := h.follows
      rw [List.append_assoc, List.isChain_append] at hchain
      exact (List.isChain_cons_cons.mp hchain.2.1).1
    have hb' := hb.now_le_step
    have hb'' := hb.step_le_enter
    have horder := hfollows.order
    rw [reached_concat]
    exact hstep hbefore ha hfollows (by omega)

/-- **A deadline that paced passes meet**, from a pass `a` on. -/
theorem goal_of_paced {env : BootEnv} {δ : ℤ} {P : Firmware → Tick → Prop}
    (goal : Firmware → Prop) {Inv : Firmware × Tick → Prop} {due : Firmware × Tick → ℤ}
    (h : MeetsDeadline (remember iterate)
      (fun x t => (t.Orderly δ ∧ P x.1 t) ∧ x.2.Follows δ t) (fun x => goal x.1) Inv Tick.tNow due)
    {history : List Tick} {a : Tick} {ts : List Tick} {t : Tick}
    (hpaced : Paced δ (history ++ a :: ts ++ [t]))
    (halong : Along iterate P (reached env (history ++ [a])) (ts ++ [t]))
    (h0 : goal (reached env (history ++ [a])) ∨ Inv (reached env (history ++ [a]), a))
    (hlate : due (reached env (history ++ [a]), a) < t.tNow) :
    goal (reached env (history ++ a :: ts ++ [t])) := by
  have htail : Paced δ (a :: (ts ++ [t])) := hpaced.stretch ⟨history, [], by simp⟩
  have hboth : Along iterate (fun s u => u.Orderly δ ∧ P s u) (reached env (history ++ [a]))
      (ts ++ [t]) := by
    rw [along_iff] at halong ⊢
    intro pre u post hs
    exact ⟨htail.orderly u (by rw [hs]; simp), halong pre u post hs⟩
  have hreached : reached env (history ++ a :: ts ++ [t]) =
      (run (remember iterate) (reached env (history ++ [a]), a) (ts ++ [t])).1 := by
    rw [run_remember, reached, reached, ← run_append]
    simp
  rw [hreached]
  exact h.goal_of_late h0 (along_remember hboth htail.follows) hlate

/-! ## The clock readings in the state -/

/-- The steps that a landing throttle takes down to 0. -/
def landingSteps (throttle : UInt8) : ℤ := (throttle.toNat + 1) / 2

theorem landingSteps_landingStep {throttle : UInt8} (h : throttle ≠ 0) :
    landingSteps (landingStep throttle) = landingSteps throttle - 1 := by
  have hpos : throttle.toNat ≠ 0 := fun hz => h (UInt8.toNat_inj.mp hz)
  rw [landingSteps, landingSteps, landingStep_toNat]
  omega

/-- After the last pass `a`: FAILSAFE and LANDING are entered no later than it, and the times
they wait for had not passed when it tested them. -/
structure Timely (s : Firmware) (a : Tick) : Prop where
  failsafe : s.fsm.currentState = .failsafe →
    s.fsm.stateEnterMs ≤ a.tEnter ∧ a.tNow < s.fsm.stateEnterMs + failsafeTimeoutMs
  landing : s.fsm.currentState = .landing →
    s.fsm.lastLandingStepMs ≤ a.tEnter ∧ a.tNow < s.fsm.lastLandingStepMs + landingStepMs ∧
      s.fsm.landingThrottle.toNat ≤ 25

theorem timely_of_ne {s : Firmware} {a : Tick} (h : s.fsm.currentState ≠ .failsafe)
    (h' : s.fsm.currentState ≠ .landing) : Timely s a :=
  ⟨fun hs => absurd hs h, fun hs => absurd hs h'⟩

/-- **One pass is timely**, whatever the package. -/
theorem Timely.step {δ : ℤ} {s : Firmware} {a t : Tick} (h : Timely s a) (ho : t.Orderly δ)
    (hf : a.Follows δ t) : Timely (iterate s t) t := by
  obtain ⟨hwn, hns, hse, -⟩ := ho
  obtain ⟨horder, -⟩ := hf
  have hms : failsafeTimeoutMs = 2000 := rfl
  have hstep : landingStepMs = 200 := rfl
  by_cases herr : (iterate s t).fsm.currentState = .error
  · exact timely_of_ne (by rw [herr]; decide) (by rw [herr]; decide)
  · obtain ⟨-, f, c, htr, hfsm, -⟩ := iterate_cases_of_ne_error herr
    have hsame : ∀ f : Fsm, f = s.fsm → (iterate s t).fsm = f → (f.currentState = .failsafe →
        t.tNow - f.stateEnterMs < failsafeTimeoutMs) → (f.currentState = .landing →
        t.tNow - f.lastLandingStepMs < landingStepMs) → Timely (iterate s t) t := by
      rintro f rfl heq hfail hland
      refine ⟨fun hs => ?_, fun hs => ?_⟩
      · rw [heq] at hs ⊢
        have hold := h.failsafe hs
        have hnow := hfail hs
        omega
      · rw [heq] at hs ⊢
        have hold := h.landing hs
        have hnow := hland hs
        omega
    cases htr with
    | rest hs | fault hs | stayArmed hs | fly hs | confirmArming hs =>
      refine hsame _ rfl hfsm (fun hc => ?_) fun hc => ?_
      · simp [hc] at hs
      · simp [hc] at hs
    | hold hs _ ht =>
      refine hsame _ rfl hfsm (fun _ => ht) fun hc => ?_
      rw [hs] at hc
      cases hc
    | wait hs _ ht =>
      refine hsame _ rfl hfsm (fun hc => ?_) fun _ => ht
      rw [hs] at hc
      cases hc
    | loseSignal =>
      refine ⟨fun _ => ?_, fun hs => ?_⟩
      · rw [hfsm, Fsm.enter_stateEnterMs]
        omega
      · rw [hfsm] at hs
        cases hs
    | giveUp =>
      refine ⟨fun hs => ?_, fun _ => ?_⟩
      · rw [hfsm] at hs
        cases hs
      · rw [hfsm]
        refine ⟨hse, ?_, ?_⟩
        · show t.tNow < t.tStep + landingStepMs
          omega
        · exact le_of_eq rfl
    | descend hs =>
      refine ⟨fun hs' => ?_, fun _ => ?_⟩
      · rw [hfsm] at hs'
        rw [show _ = DroneState.landing from hs] at hs'
        cases hs'
      · have hold := (h.landing hs).2.2
        rw [hfsm]
        refine ⟨?_, ?_, ?_⟩
        · show t.tNow ≤ t.tEnter
          omega
        · show t.tNow < t.tNow + landingStepMs
          omega
        · show (landingStep s.fsm.landingThrottle).toNat ≤ 25
          rw [landingStep_toNat]
          omega
    | startArming | abortArming | finishArming | disarm | takeOff | touchDown | recover | landed =>
      refine timely_of_ne ?_ ?_
      · rw [hfsm]
        simp
      · rw [hfsm]
        simp

/-! ## The deadline -/

/-- The drone waits on the ground, or is in ERROR. -/
def DroneState.OnGround (q : DroneState) : Prop := q = .init ∨ q = .idle ∨ q = .error

instance (q : DroneState) : Decidable q.OnGround := inferInstanceAs (Decidable (_ ∨ _ ∨ _))

/-- What is left of a landing at this throttle: the steps, and the pass that finds it at 0. -/
def landingLeftMs (δ : ℤ) (throttle : UInt8) : ℤ :=
  landingSteps throttle * (landingStepMs + δ) + δ

theorem landingLeftMs_nonneg {δ : ℤ} (h : 0 ≤ δ) (throttle : UInt8) :
    0 ≤ landingLeftMs δ throttle := by
  have hstep : landingStepMs = 200 := rfl
  exact add_nonneg (mul_nonneg (Int.ediv_nonneg (by omega) (by omega)) (by omega)) h

theorem landingLeftMs_landingStep (δ : ℤ) {throttle : UInt8} (h : throttle ≠ 0) :
    landingLeftMs δ (landingStep throttle) = landingLeftMs δ throttle - (landingStepMs + δ) := by
  rw [landingLeftMs, landingLeftMs, landingSteps_landingStep h]
  ring

theorem landingLeftMs_le {δ : ℤ} (h : 0 ≤ δ) {throttle : UInt8} (ht : throttle.toNat ≤ 25) :
    landingLeftMs δ throttle ≤ 2600 + 14 * δ := by
  have hsteps : landingSteps throttle ≤ 13 := by
    rw [landingSteps]
    omega
  have hstep : landingStepMs = 200 := rfl
  have hleft : landingLeftMs δ throttle ≤ 13 * (landingStepMs + δ) + δ :=
    add_le_add_left (mul_le_mul_of_nonneg_right hsteps (by omega)) δ
  omega

/-- What is left of a flight at the entry into FAILSAFE. -/
def failsafeLeftMs (δ : ℤ) : ℤ := failsafeTimeoutMs + 2 * δ + landingLeftMs δ failsafeHoldPct

theorem failsafeLeftMs_eq (δ : ℤ) : failsafeLeftMs δ = 4600 + 16 * δ := by
  have hsteps : landingSteps failsafeHoldPct = 13 := rfl
  have hms : failsafeTimeoutMs = 2000 := rfl
  have hstep : landingStepMs = 200 := rfl
  rw [failsafeLeftMs, landingLeftMs, hsteps, hms, hstep]
  ring

/-- The reading by which the machine is at rest, after the pass that is given with it, if no
package is active from there on. -/
def due (δ : ℤ) (x : Firmware × Tick) : ℤ :=
  match x.1.fsm.currentState with
  | .landing => x.1.fsm.lastLandingStepMs + landingLeftMs δ x.1.fsm.landingThrottle
  | .failsafe => x.1.fsm.stateEnterMs + failsafeLeftMs δ
  | .flying => x.2.tNow + 2 * δ + failsafeLeftMs δ
  | _ => x.2.tNow + δ

section Due

variable {δ : ℤ} {s : Firmware} {a : Tick}

theorem due_of_landing (h : s.fsm.currentState = .landing) :
    due δ (s, a) = s.fsm.lastLandingStepMs + landingLeftMs δ s.fsm.landingThrottle := by
  simp only [due, h]

theorem due_of_failsafe (h : s.fsm.currentState = .failsafe) :
    due δ (s, a) = s.fsm.stateEnterMs + failsafeLeftMs δ := by
  simp only [due, h]

theorem due_of_flying (h : s.fsm.currentState = .flying) :
    due δ (s, a) = a.tNow + 2 * δ + failsafeLeftMs δ := by
  simp only [due, h]

end Due

/-- From any state the deadline is this close. -/
theorem due_le {δ : ℤ} {s : Firmware} {a : Tick} (h : Timely s a) (ho : a.Orderly δ) :
    due δ (s, a) ≤ a.tNow + (4600 + 18 * δ) := by
  have henter := ho.enter_le
  have hδ : 0 ≤ δ := by
    have h1 := ho.now_le_step
    have h2 := ho.step_le_enter
    omega
  cases hs : s.fsm.currentState with
  | landing =>
    obtain ⟨hlast, -, hthrottle⟩ := h.landing hs
    have hleft := landingLeftMs_le hδ hthrottle
    rw [due_of_landing hs]
    omega
  | failsafe =>
    have hfail := (h.failsafe hs).1
    rw [due_of_failsafe hs, failsafeLeftMs_eq]
    omega
  | flying =>
    rw [due_of_flying hs, failsafeLeftMs_eq]
    omega
  | init | idle | arming | armed | error =>
    simp only [due, hs]
    omega

/-- An inactive package does not arm. -/
theorem armCondition_of_inactive {rc : DataPackage} (h : rc.droneActive = false) :
    armCondition rc = false := by
  rw [armCondition, h, Bool.false_and]

/-- **One pass without a command**, short of rest: it comes by the deadline, and leaves it where
it is or brings it nearer. -/
theorem due_step {δ : ℤ} {s : Firmware} {a t : Tick} (h : Timely s a) (ho : t.Orderly δ)
    (hf : a.Follows δ t) (hi : Inactive s t) (hrest : ¬ s.fsm.currentState.OnGround) :
    (iterate s t).fsm.currentState.OnGround ∨
      (due δ (iterate s t, t) ≤ due δ (s, a) ∧ t.tNow ≤ due δ (s, a)) := by
  obtain ⟨-, hns, hse, hen⟩ := ho
  obtain ⟨-, hgap⟩ := hf
  have hms : failsafeTimeoutMs = 2000 := rfl
  have hstep : landingStepMs = 200 := rfl
  have harm : armCondition (s.packet t) = false := armCondition_of_inactive hi
  have hinactive : (s.packet t).droneActive = false := hi
  by_cases herr : (iterate s t).fsm.currentState = .error
  · exact Or.inl (Or.inr (Or.inr herr))
  · obtain ⟨-, f, c, htr, hfsm, -⟩ := iterate_cases_of_ne_error herr
    cases htr with
    | rest hs => exact absurd (hs.imp id Or.inl) hrest
    | fault hs => exact absurd (Or.inr (Or.inr hs)) hrest
    | startArming _ hrc | confirmArming _ hrc | finishArming _ hrc =>
      rw [harm] at hrc
      cases hrc
    | stayArmed _ hrc | takeOff _ hrc | touchDown _ hrc | fly _ hrc | recover _ hrc =>
      rw [hinactive] at hrc
      cases hrc
    | abortArming | disarm | landed =>
      refine Or.inl (Or.inr (Or.inl ?_))
      rw [hfsm]
      rfl
    | loseSignal hs =>
      refine Or.inr ?_
      have hs' : (iterate s t).fsm.currentState = .failsafe := by rw [hfsm]; rfl
      have henter : (iterate s t).fsm.stateEnterMs = t.tEnter := by rw [hfsm]; rfl
      rw [due_of_failsafe hs', due_of_flying hs, henter, failsafeLeftMs_eq]
      omega
    | hold hs _ ht =>
      refine Or.inr ?_
      have hs' : (iterate s t).fsm.currentState = .failsafe := by rw [hfsm]; exact hs
      rw [due_of_failsafe hs', due_of_failsafe hs, hfsm, failsafeLeftMs_eq]
      omega
    | giveUp hs _ ht =>
      refine Or.inr ?_
      have hnow := (h.failsafe hs).2
      have hs' : (iterate s t).fsm.currentState = .landing := by rw [hfsm]; rfl
      have hlast : (iterate s t).fsm.lastLandingStepMs = t.tStep := by rw [hfsm]
      have hthrottle : (iterate s t).fsm.landingThrottle = failsafeHoldPct := by rw [hfsm]
      have hleft := landingLeftMs_nonneg (show 0 ≤ δ by omega) failsafeHoldPct
      rw [due_of_landing hs', due_of_failsafe hs, hlast, hthrottle, failsafeLeftMs]
      omega
    | descend hs hl ht =>
      refine Or.inr ?_
      have hnow := (h.landing hs).2.1
      have hs' : (iterate s t).fsm.currentState = .landing := by rw [hfsm]; exact hs
      have hlast : (iterate s t).fsm.lastLandingStepMs = t.tNow := by rw [hfsm]
      have hthrottle : (iterate s t).fsm.landingThrottle = landingStep s.fsm.landingThrottle := by
        rw [hfsm]
      have hpos := landingLeftMs_nonneg (show 0 ≤ δ by omega) (landingStep s.fsm.landingThrottle)
      have hleft := landingLeftMs_landingStep δ hl
      rw [due_of_landing hs', due_of_landing hs, hlast, hthrottle]
      omega
    | wait hs hl ht =>
      refine Or.inr ?_
      have hs' : (iterate s t).fsm.currentState = .landing := by rw [hfsm]; exact hs
      have hpos := landingLeftMs_nonneg (show 0 ≤ δ by omega) (landingStep s.fsm.landingThrottle)
      have hleft := landingLeftMs_landingStep δ hl
      rw [due_of_landing hs', due_of_landing hs, hfsm]
      refine ⟨le_rfl, ?_⟩
      omega

/-- Without a command the machine stays at rest. -/
theorem onGround_step {s : Firmware} {t : Tick} (hi : Inactive s t)
    (h : s.fsm.currentState.OnGround) : (iterate s t).fsm.currentState.OnGround := by
  have harm : armCondition (s.packet t) = false := armCondition_of_inactive hi
  by_cases herr : (iterate s t).fsm.currentState = .error
  · exact Or.inr (Or.inr herr)
  · obtain ⟨-, f, c, htr, hfsm, -⟩ := iterate_cases_of_ne_error herr
    rw [hfsm]
    cases htr with
    | rest | fault => exact h
    | startArming _ hrc =>
      rw [harm] at hrc
      cases hrc
    | abortArming hs | confirmArming hs | finishArming hs | disarm hs | stayArmed hs | takeOff hs
    | loseSignal hs | touchDown hs | fly hs | recover hs | hold hs | giveUp hs | descend hs
    | wait hs | landed hs =>
      rw [hs] at h
      exact absurd h (by decide)

/-- **The deadline is met**, by passes without a command that are no more than `δ` apart. -/
theorem meetsDeadline_due (δ : ℤ) :
    MeetsDeadline (remember iterate)
      (fun x t => (t.Orderly δ ∧ Inactive x.1 t) ∧ x.2.Follows δ t)
      (fun x => x.1.fsm.currentState.OnGround) (fun x => Timely x.1 x.2) Tick.tNow (due δ) where
  stays hP hg := onGround_step hP.1.2 hg
  moves hP hInv hg := (due_step hInv hP.1.1 hP.2 hP.1.2 hg).imp id fun ⟨hdue, htime⟩ =>
    ⟨hInv.step hP.1.1 hP.2, hdue, htime⟩

/-! ## Silence -/

/-- Paced passes are timely from the start. -/
theorem timely_reached (env : BootEnv) {δ : ℤ} {history : List Tick} {a : Tick}
    (h : Paced δ (history ++ [a])) : Timely (reached env (history ++ [a])) a :=
  reached_of_paced
    (fun _ => timely_of_ne (boot_currentState_ne env (by decide) (by decide))
      (boot_currentState_ne env (by decide) (by decide)))
    (fun hs ho hf _ => hs.step ho hf) h

/-- A pass that ends at rest has stopped the motors, if its `pwm_set` calls succeed. -/
theorem allAt_zero_of_onGround {s : Firmware} {t : Tick}
    (h : (iterate s t).fsm.currentState.OnGround) (hpwm : t.PwmOk) : (iterate s t).esc.AllAt 0 := by
  by_cases herr : (iterate s t).fsm.currentState = .error
  · rw [iterate_esc_of_error herr]
    exact motorsSetAll_allAt hpwm.1 0 _
  · obtain ⟨-, f, c, htr, hfsm, hesc⟩ := iterate_cases_of_ne_error herr
    rw [hfsm] at h
    rw [hesc]
    cases htr with
    | rest | abortArming | disarm | landed | fault => exact motorsSetAll_allAt hpwm.1 0 _
    | confirmArming hs | stayArmed hs | fly hs | hold hs | descend hs | wait hs =>
      rw [show _ = _ from hs] at h
      exact absurd h (by decide)
    | startArming | finishArming | takeOff | loseSignal | touchDown | recover | giveUp =>
      simp [DroneState.OnGround] at h

/-- The drone is at rest after these passes, with its motors stopped if the last pass could. -/
def GroundedAfter (env : BootEnv) (ticks : List Tick) (t : Tick) : Prop :=
  (reached env (ticks ++ [t])).fsm.currentState.OnGround ∧
    (t.PwmOk → (reached env (ticks ++ [t])).esc.AllAt 0)

/-- **Silence grounds the drone.**  After the pass `a`, whatever the state: if no package is
active any more and the passes are no more than `δ` apart, the drone is at rest from 4600 ms and
18 `δ` on. -/
theorem silence_grounds (env : BootEnv) (δ : ℤ) (history : List Tick) (a : Tick)
    (ts : List Tick) (t : Tick) (hpaced : Paced δ (history ++ a :: ts ++ [t]))
    (hsilent : Along iterate Inactive (reached env (history ++ [a])) (ts ++ [t]))
    (hlate : a.tNow + (4600 + 18 * δ) < t.tNow) :
    GroundedAfter env (history ++ a :: ts) t := by
  have ha : a.Orderly δ := hpaced.orderly a (by simp)
  have htimely := timely_reached env (hpaced.stretch ⟨[], ts ++ [t], by simp⟩ :
    Paced δ (history ++ [a]))
  have hrest : (reached env (history ++ a :: ts ++ [t])).fsm.currentState.OnGround :=
    goal_of_paced (fun s => s.fsm.currentState.OnGround) (meetsDeadline_due δ) hpaced
      hsilent (Or.inr htimely) ((due_le htimely ha).trans_lt hlate)
  refine ⟨hrest, fun hpwm => ?_⟩
  rw [reached_concat] at hrest ⊢
  exact allAt_zero_of_onGround hrest hpwm

/-! ## A lost link -/

/-- From the pass after `a` on no link commands: the last radio payload is inactive, and what
arrives is; the requests before it were stored before `a` tested its clock. -/
structure LinksLost (history : List Tick) (a : Tick) (ts : List Tick) : Prop where
  latched : (latched (history ++ [a])).droneActive = false
  radio : ∀ u ∈ ts, u.nrf.rxDr = true → u.nrf.package.droneActive = false
  web : ∀ u ∈ ts, ∀ p ∈ u.posts, p.active = false
  past : ∀ u ∈ history ++ [a], ∀ p ∈ u.posts, p.now ≤ a.tNow

instance (history : List Tick) (a : Tick) (ts : List Tick) : Decidable (LinksLost history a ts) :=
  decidable_of_iff ((latched (history ++ [a])).droneActive = false ∧
    (∀ u ∈ ts, u.nrf.rxDr = true → u.nrf.package.droneActive = false) ∧
    (∀ u ∈ ts, ∀ p ∈ u.posts, p.active = false) ∧
    ∀ u ∈ history ++ [a], ∀ p ∈ u.posts, p.now ≤ a.tNow)
    ⟨fun h => ⟨h.1, h.2.1, h.2.2.1, h.2.2.2⟩, fun h => ⟨h.1, h.2, h.3, h.4⟩⟩

/-- The radio's latch stays inactive. -/
theorem LinksLost.latched_append {history : List Tick} {a : Tick} {ts : List Tick}
    (h : LinksLost history a ts) (pre post : List Tick) (hs : ts = pre ++ post) :
    (DroneFirmware.latched (history ++ [a] ++ pre)).droneActive = false := by
  induction pre using List.reverseRecOn generalizing post with
  | nil =>
    rw [List.append_nil]
    exact h.latched
  | append_singleton pre u ih =>
    rw [← List.append_assoc, latched_concat, readData]
    split_ifs with hdr
    · exact h.radio u (by rw [hs]; simp) hdr
    · exact ih (u :: post) (by rw [hs]; simp)

/-- Once the last web package is stale, no package is active. -/
theorem LinksLost.inactive {history : List Tick} {a : Tick} {ts : List Tick}
    (h : LinksLost history a ts) (env : BootEnv) {pre post : List Tick} {u : Tick}
    (hs : ts = pre ++ u :: post) (hstale : a.tNow + rcStaleMs < u.tWeb) :
    Inactive (reached env (history ++ [a] ++ pre)) u := by
  rw [Inactive, ← Bool.not_eq_true, Firmware.packet_active_iff]
  rintro (hweb | hradio)
  · rw [droneWebserverGetRc_active_iff, ← iterate_web, ← reached_concat] at hweb
    obtain ⟨hactive, hfresh⟩ := hweb
    obtain ⟨v, hv, p, hp, hpactive, hnow⟩ := exists_post_of_web_active env _ hactive
    rw [← hnow] at hfresh
    have hsplit : v ∈ history ++ [a] ∨ v ∈ pre ++ [u] := by
      rw [List.append_assoc] at hv
      exact List.mem_append.mp hv
    rcases hsplit with hold | hnew
    · have hle := h.past v hold p hp
      omega
    · have hmem : v ∈ ts := by
        rw [hs, List.append_cons]
        exact List.mem_append_left _ hnew
      have hdown := h.web v hmem p hp
      rw [hpactive] at hdown
      cases hdown
  · rw [reached_data, ← latched_concat, List.append_assoc, List.append_assoc,
      ← List.append_assoc] at hradio
    rw [h.latched_append (pre ++ [u]) post (by rw [hs]; simp)] at hradio
    cases hradio

/-- Later passes read the package later. -/
theorem Paced.tWeb_le {δ : ℤ} {c : Tick} {l : List Tick} (h : Paced δ (c :: l)) :
    ∀ u ∈ l, c.tWeb ≤ u.tWeb := by
  induction l generalizing c with
  | nil => exact nofun
  | cons d l ih =>
    have hc := h.orderly c (by simp)
    have hcd := (List.isChain_cons_cons.mp h.follows).1
    have hle : c.tWeb ≤ d.tWeb := by
      have h1 := hc.web_le_now
      have h2 := hc.now_le_step
      have h3 := hc.step_le_enter
      have h4 := hcd.order
      omega
    intro u hu
    rcases List.mem_cons.mp hu with rfl | hu
    · exact hle
    · exact hle.trans (ih (h.stretch ⟨[c], [], by simp⟩) u hu)

/-- Paced passes pass the time `w`: there is a last one that may read the package by then. -/
theorem Paced.exists_after {δ w : ℤ} {l : List Tick} {a : Tick} (h : Paced δ (a :: l))
    (ha : a.tNow ≤ w + δ) :
    ∃ pre b post, a :: l = pre ++ b :: post ∧ b.tNow ≤ w + δ ∧ ∀ u ∈ post, w < u.tWeb := by
  induction l generalizing a with
  | nil => exact ⟨[], a, [], rfl, ha, nofun⟩
  | cons c l ih =>
    have htail : Paced δ (c :: l) := h.stretch ⟨[a], [], by simp⟩
    by_cases hc : w < c.tWeb
    · refine ⟨[], a, c :: l, rfl, ha, fun u hu => ?_⟩
      rcases List.mem_cons.mp hu with rfl | hu
      · exact hc
      · exact hc.trans_le (htail.tWeb_le u hu)
    · have hac := (List.isChain_cons_cons.mp h.follows).1
      have ho := h.orderly a (by simp)
      have hcn : c.tNow ≤ w + δ := by
        have h1 := ho.now_le_step
        have h2 := ho.step_le_enter
        have h3 := hac.order
        have h4 := hac.gap
        omega
      obtain ⟨pre, b, post, hs, hb, hpost⟩ := ih htail hcn
      exact ⟨a :: pre, b, post, by rw [hs]; rfl, hb, hpost⟩

/-- **Lost links ground the drone**, if the radio's last payload is inactive.  Whatever else
happened up to the pass `a`: if nothing active arrives after it on either link and the passes are
no more than `δ` apart, the drone is at rest from 6600 ms and 19 `δ` on. -/
theorem groundedAfter_of_linksLost (env : BootEnv) (δ : ℤ) (history : List Tick) (a : Tick)
    (ts : List Tick) (t : Tick) (hpaced : Paced δ (history ++ a :: ts ++ [t]))
    (hlost : LinksLost history a (ts ++ [t])) (hlate : a.tNow + (6600 + 19 * δ) < t.tNow) :
    GroundedAfter env (history ++ a :: ts) t := by
  have htail : Paced δ (a :: (ts ++ [t])) := hpaced.stretch ⟨history, [], by simp⟩
  have hms : rcStaleMs = 2000 := rfl
  have hδ : 0 ≤ δ := by
    have h1 := (htail.orderly a (by simp)).now_le_step
    have h2 := (htail.orderly a (by simp)).step_le_enter
    have h3 := (htail.orderly a (by simp)).enter_le
    omega
  obtain ⟨pre, b, post, hs, hb, hpost⟩ :=
    htail.exists_after (w := a.tNow + rcStaleMs) (by omega)
  rcases List.eq_nil_or_concat post with rfl | ⟨mid, t', rfl⟩
  · -- the last pass comes too late to read the package by then
    have hlast : b = t := by
      have h1 := congrArg List.getLast? hs
      rw [← List.cons_append, List.getLast?_concat, List.getLast?_concat] at h1
      exact (Option.some.inj h1).symm
    rw [hlast] at hb
    omega
  · rw [List.concat_eq_append] at hs hpost
    have hsplit : a :: ts ++ [t] = pre ++ b :: mid ++ [t'] := by rw [List.cons_append, hs]; simp
    obtain ⟨hinit, ht⟩ := List.append_inj' hsplit rfl
    obtain rfl := (List.cons.inj ht).1
    have hhistory : history ++ a :: ts = (history ++ pre) ++ b :: mid := by rw [hinit]; simp
    rw [hhistory]
    refine silence_grounds env δ (history ++ pre) b mid t ?_ ?_ (by omega)
    · rw [← hhistory]
      exact hpaced
    · rw [along_iff]
      intro between u rest hu
      rw [reached, ← run_append, ← reached]
      cases pre with
      | nil =>
        obtain ⟨rfl, rfl⟩ := List.cons.inj hinit
        rw [List.append_nil]
        exact hlost.inactive env hu (hpost u (by rw [hu]; simp))
      | cons a' pre =>
        obtain ⟨rfl, rfl⟩ := List.cons.inj hinit
        have hpath : history ++ a :: pre ++ [b] ++ between =
            history ++ [a] ++ (pre ++ b :: between) := by simp
        rw [hpath]
        have hts : pre ++ b :: mid ++ [t] = pre ++ b :: between ++ u :: rest := by
          rw [List.append_assoc, List.cons_append, hu]
          simp
        exact hlost.inactive env hts (hpost u (by rw [hu]; simp))

end DroneFirmware

import DroneFirmware.DeviceBinding

/-!
# The auto-landing protocol

LANDING is entered from a FAILSAFE that saw no active package from its first pass to its
last, for at least `FAILSAFE_TIMEOUT_MS`.  From there the package is ignored: the throttle
steps down from the hold throttle, `LANDING_STEP_MS` or more between two writes, and the
machine goes to IDLE in the pass after the write of 0.

The writes are those of the driver log, pass by pass; what `pwm_set` returns plays no part,
and nothing is assumed of the clock.

* `exists_landingEntry`: the FAILSAFE behind an entry into LANDING.
* `landing_pass`: what one pass in LANDING can do.
* `dueWrites`: what a pass of the descent has to write at its time.
* `Descending.step`: one pass writes what is due, or ends the descent in IDLE.
* `auto_landing`: the whole protocol, from any entry and under any packages.
-/

namespace DroneFirmware

open Reactive

/-! ## The entry -/

/-- The package of the pass does not carry the flag. -/
def Inactive (s : Firmware) (t : Tick) : Prop := (s.packet t).droneActive = false

instance (s : Firmware) (t : Tick) : Decidable (Inactive s t) :=
  inferInstanceAs (Decidable (_ = _))

/-- **Into FAILSAFE** there is one way: from FLYING, under an inactive package. -/
theorem enter_failsafe {s : Firmware} {t : Tick} (h : s.fsm.currentState ≠ .failsafe)
    (h' : (iterate s t).fsm.currentState = .failsafe) :
    s.fsm.currentState = .flying ∧ Inactive s t ∧ (iterate s t).fsm.stateEnterMs = t.tEnter := by
  obtain ⟨-, f, c, htr, hf, -⟩ := iterate_cases_of_ne_error (by rw [h']; decide)
  rw [hf] at h' ⊢
  cases htr with
  | loseSignal hs hrc => exact ⟨hs, hrc, rfl⟩
  | rest | confirmArming | stayArmed | fly | hold | descend | wait | fault => exact absurd h' h
  | _ => simp at h'

/-- A pass that stays in FAILSAFE saw an inactive package and left the entry time alone. -/
theorem stay_failsafe {s : Firmware} {t : Tick} (h : s.fsm.currentState = .failsafe)
    (h' : (iterate s t).fsm.currentState = .failsafe) :
    Inactive s t ∧ (iterate s t).fsm.stateEnterMs = s.fsm.stateEnterMs := by
  obtain ⟨-, f, c, htr, hf, -⟩ := iterate_cases_of_ne_error (by rw [h']; decide)
  rw [hf] at h' ⊢
  cases htr with
  | hold _ hrc => exact ⟨hrc, rfl⟩
  | recover | giveUp => simp at h'
  | rest hs | startArming hs => simp [h] at hs
  | abortArming hs | confirmArming hs | finishArming hs | disarm hs | stayArmed hs | takeOff hs
  | loseSignal hs | touchDown hs | fly hs | descend hs | wait hs | landed hs | fault hs =>
    simp [h] at hs

/-- **Into LANDING** there is one way: from FAILSAFE, under an inactive package, after the
timeout; the counter starts at the hold throttle, and no motor is written. -/
theorem enter_landing {s : Firmware} {t : Tick} (h : s.fsm.currentState ≠ .landing)
    (h' : (iterate s t).fsm.currentState = .landing) :
    s.fsm.currentState = .failsafe ∧ Inactive s t ∧
      failsafeTimeoutMs ≤ t.tNow - s.fsm.stateEnterMs ∧
      (iterate s t).fsm.landingThrottle = failsafeHoldPct ∧
      (iterate s t).fsm.lastLandingStepMs = t.tStep ∧ (iterate s t).esc.calls = [] := by
  obtain ⟨-, f, c, htr, hf, hesc⟩ := iterate_cases_of_ne_error (by rw [h']; decide)
  rw [hesc]
  rw [hf] at h' ⊢
  cases htr with
  | giveUp hs hrc ht => exact ⟨hs, hrc, ht, rfl, rfl, rfl⟩
  | rest | confirmArming | stayArmed | fly | hold | descend | wait | fault => exact absurd h' h
  | _ => simp at h'

/-- The FAILSAFE that the pass `t` after `history` leaves: `first` entered it from FLYING,
`middle` stayed in it. -/
structure LandingEntry (env : BootEnv) (history : List Tick) (t : Tick) (before : List Tick)
    (first : Tick) (middle : List Tick) : Prop where
  split : history = before ++ first :: middle
  flying : (reached env before).fsm.currentState = .flying
  /-- Every pass from the entry on ends in FAILSAFE, under an inactive package. -/
  held : Along iterate (fun s u => (iterate s u).fsm.currentState = .failsafe ∧ Inactive s u)
    (reached env before) (first :: middle)
  inactive : Inactive (reached env history) t
  /-- The clock readings that the timeout compares. -/
  timeout : failsafeTimeoutMs ≤ t.tNow - first.tEnter

/-- **The FAILSAFE behind an entry into LANDING.** -/
theorem exists_landingEntry {env : BootEnv} {history : List Tick} {t : Tick}
    (h : (reached env history).fsm.currentState ≠ .landing)
    (h' : (reached env (history ++ [t])).fsm.currentState = .landing) :
    ∃ before first middle, LandingEntry env history t before first middle := by
  rw [reached_concat] at h'
  obtain ⟨hfailsafe, hinactive, htimeout, -⟩ := enter_landing h h'
  obtain ⟨before, first, middle, hsplit, hout, hphase, henterMs⟩ :=
    exists_phase (P := Inactive) (boot_currentState_ne env (by decide) (by decide))
      (fun s t _ ho he => (enter_failsafe ho he).2) (fun s t => stay_failsafe) hfailsafe
  rw [henterMs] at htimeout
  exact ⟨before, first, middle, hsplit, (enter_failsafe hout hphase.1.1).1, hphase, hinactive,
    htimeout⟩

/-! ## One pass of the descent -/

/-- What a pass in LANDING can do: finish, step down, or wait. -/
theorem landing_pass {s : Firmware} {t : Tick} (hs : s.fsm.currentState = .landing)
    (hi : t.i2c = .ok) :
    (s.fsm.landingThrottle = 0 ∧ (iterate s t).fsm.currentState = .idle ∧
        (iterate s t).esc.calls = sweep s.esc.escPwm 0) ∨
      (s.fsm.landingThrottle ≠ 0 ∧ landingStepMs ≤ t.tNow - s.fsm.lastLandingStepMs ∧
        (iterate s t).fsm = { s.fsm with
          landingThrottle := landingStep s.fsm.landingThrottle
          lastLandingStepMs := t.tNow } ∧
        (iterate s t).esc.calls = sweep s.esc.escPwm (landingStep s.fsm.landingThrottle)) ∨
      (s.fsm.landingThrottle ≠ 0 ∧ t.tNow - s.fsm.lastLandingStepMs < landingStepMs ∧
        (iterate s t).fsm = s.fsm ∧ (iterate s t).esc.calls = []) := by
  have hcalls : ∀ percent, (motorsSetAll t.pwm percent { s.esc with calls := [] }).2.calls =
      sweep s.esc.escPwm percent := fun percent => by rw [motorsSetAll_esc]; rfl
  obtain ⟨f, c, htr, hf, hesc⟩ := iterate_cases_of_ok s hi
  rw [hf, hesc]
  cases htr with
  | landed _ hl => exact Or.inl ⟨hl, rfl, hcalls 0⟩
  | descend _ hl ht => exact Or.inr (Or.inl ⟨hl, ht, rfl, hcalls _⟩)
  | wait _ hl ht => exact Or.inr (Or.inr ⟨hl, ht, rfl, rfl⟩)
  | rest h | startArming h => simp [hs] at h
  | _ h => simp [hs] at h

/-! ## The descent -/

/-- The throttles of a descent, in order. -/
def descentThrottles : List UInt8 := [23, 21, 19, 17, 15, 13, 11, 9, 7, 5, 3, 1, 0]

/-- The writes of a pass: its clock reading and its `pwm_set` calls, if it made any. -/
def passWrites (s : Firmware) (t : Tick) : List (ℤ × List PwmCall) :=
  if (iterate s t).esc.calls = [] then [] else [(t.tNow, (iterate s t).esc.calls)]

/-- The writes of some passes from `s` on, in order. -/
def writesFrom : Firmware → List Tick → List (ℤ × List PwmCall)
  | _, [] => []
  | s, t :: ts => passWrites s t ++ writesFrom (iterate s t) ts

theorem writesFrom_concat (s : Firmware) (ts : List Tick) (t : Tick) :
    writesFrom s (ts ++ [t]) = writesFrom s ts ++ passWrites (run iterate s ts) t := by
  induction ts generalizing s with
  | nil => exact List.append_nil _
  | cons u ts ih =>
    rw [List.cons_append, writesFrom, writesFrom, ih, run_cons, List.append_assoc]

theorem sweep_ne_nil (dev : Option Device) (percent : UInt8) : sweep dev percent ≠ [] := by
  intro h
  have hlen := congrArg List.length h
  rw [sweep, List.length_map, List.length_finRange] at hlen
  cases hlen

/-- When the last of some writes was made; `start` if there are none. -/
def lastWriteMs (start : ℤ) (writes : List (ℤ × List PwmCall)) : ℤ :=
  (writes.map Prod.fst).getLast?.getD start

/-- What a pass at `now` has to write after these writes: the next throttle of the schedule once
`LANDING_STEP_MS` have passed since the last of them, and nothing before. -/
def dueWrites (start : ℤ) (writes : List (ℤ × List PwmCall)) (now : ℤ) :
    List (ℤ × List PwmCall) :=
  if landingStepMs ≤ now - lastWriteMs start writes then
    (descentThrottles[writes.length]?).toList.map fun throttle =>
      (now, sweep (some .mcpwm0) throttle)
  else []

/-- A descent after `n` writes: the machine is in `s`, it has written `writes` since the
counter was set at `start`. -/
structure Descending (s : Firmware) (start : ℤ) (writes : List (ℤ × List PwmCall)) (n : ℕ) :
    Prop where
  landing : s.fsm.currentState = .landing
  le : n ≤ 13
  /-- The counter: an odd number down to 1, then 0. -/
  counter : s.fsm.landingThrottle.toNat = 25 - 2 * n
  throttles : writes.map Prod.snd = (descentThrottles.take n).map (sweep (some .mcpwm0))
  spaced : (start :: writes.map Prod.fst).IsChain fun a b => landingStepMs ≤ b - a
  last : (start :: writes.map Prod.fst).getLast? = some s.fsm.lastLandingStepMs
  /-- The counter is at 0 only right after the write of 0. -/
  zero : s.fsm.landingThrottle = 0 → s.esc.calls = sweep (some .mcpwm0) 0

/-- The next throttle of the schedule is the counter, stepped down. -/
theorem descentThrottles_getElem? {throttle : UInt8} {n : ℕ} (hn : n < 13)
    (h : throttle.toNat = 25 - 2 * n) : descentThrottles[n]? = some (landingStep throttle) := by
  have hstep : landingStep throttle = UInt8.ofNat (25 - 2 * (n + 1)) := by
    rw [← UInt8.toNat_inj, landingStep_toNat, UInt8.toNat_ofNat']
    omega
  have hget : ∀ k < 13, descentThrottles[k]? = some (UInt8.ofNat (25 - 2 * (k + 1))) := by decide
  rw [hstep, hget n hn]

section Descent

variable {s s' : Firmware} {start : ℤ} {writes : List (ℤ × List PwmCall)} {n : ℕ}
  (h : Descending s start writes n)

include h

theorem Descending.length_writes : writes.length = n := by
  have hlen := congrArg List.length h.throttles
  have hle := h.le
  have hall : descentThrottles.length = 13 := rfl
  rw [List.length_map, List.length_map, List.length_take] at hlen
  omega

theorem Descending.throttle_eq_zero_iff : s.fsm.landingThrottle = 0 ↔ n = 13 := by
  have hcounter := h.counter
  have hle := h.le
  rw [← UInt8.toNat_inj]
  show s.fsm.landingThrottle.toNat = 0 ↔ _
  omega

/-- What is due, in the terms of `state_landing`: `last_landing_step_ms` is the time of the last
write, and the counter stepped down is the next throttle. -/
theorem Descending.dueWrites_eq (hn : n < 13) (now : ℤ) : dueWrites start writes now =
    if landingStepMs ≤ now - s.fsm.lastLandingStepMs then
      [(now, sweep (some .mcpwm0) (landingStep s.fsm.landingThrottle))]
    else [] := by
  have hlast : lastWriteMs start writes = s.fsm.lastLandingStepMs := by
    have hlast := h.last
    rw [List.getLast?_cons] at hlast
    exact Option.some.inj hlast
  rw [dueWrites, hlast, h.length_writes, descentThrottles_getElem? hn h.counter]
  rfl

/-- The next write. -/
theorem Descending.write (hn : n < 13) {now : ℤ}
    (ht : landingStepMs ≤ now - s.fsm.lastLandingStepMs)
    (hf : s'.fsm = { s.fsm with
      landingThrottle := landingStep s.fsm.landingThrottle
      lastLandingStepMs := now })
    (hcalls : s'.esc.calls = sweep (some .mcpwm0) (landingStep s.fsm.landingThrottle)) :
    Descending s' start
      (writes ++ [(now, sweep (some .mcpwm0) (landingStep s.fsm.landingThrottle))]) (n + 1) := by
  refine ⟨?_, hn, ?_, ?_, ?_, ?_, fun hl => ?_⟩
  · rw [hf]
    exact h.landing
  · rw [hf]
    show (landingStep s.fsm.landingThrottle).toNat = _
    rw [landingStep_toNat, h.counter]
    omega
  · rw [List.map_append, h.throttles, List.take_add_one, descentThrottles_getElem? hn h.counter,
      List.map_append]
    rfl
  · rw [List.map_append, ← List.cons_append, List.isChain_append]
    refine ⟨h.spaced, List.isChain_singleton _, fun a ha b hb => ?_⟩
    rw [h.last] at ha
    cases ha
    cases hb
    exact ht
  · rw [List.map_append, ← List.cons_append, hf]
    exact List.getLast?_concat ..
  · rw [hf] at hl
    have hlowered : landingStep s.fsm.landingThrottle = 0 := hl
    rw [hcalls, hlowered]

/-- No write: the state machine stays as it is. -/
theorem Descending.wait (hl : s.fsm.landingThrottle ≠ 0) (hf : s'.fsm = s.fsm) :
    Descending s' start writes n := by
  refine ⟨?_, h.le, ?_, h.throttles, h.spaced, ?_, fun hl' => ?_⟩
  · rw [hf]
    exact h.landing
  · rw [hf]
    exact h.counter
  · rw [hf]
    exact h.last
  · rw [hf] at hl'
    exact absurd hl' hl

/-- **One pass of the descent.**  With the counter at 0 it goes to IDLE; otherwise it stays in
LANDING, and has made the next write of the schedule if it was due, or none. -/
theorem Descending.step (hb : s.esc.Bound) {t : Tick} (hi : t.i2c = .ok) :
    (n = 13 ∧ (iterate s t).fsm.currentState = .idle ∧
        (iterate s t).esc.calls = sweep (some .mcpwm0) 0) ∨
      (passWrites s t = dueWrites start writes t.tNow ∧
        ∃ n', Descending (iterate s t) start (writes ++ passWrites s t) n') := by
  have hpass := landing_pass h.landing hi
  rw [hb.1] at hpass
  rcases hpass with ⟨hl, hidle, hcalls⟩ | ⟨hl, ht, hf, hcalls⟩ | ⟨hl, ht, hf, hcalls⟩
  · exact Or.inl ⟨h.throttle_eq_zero_iff.mp hl, hidle, hcalls⟩
  · have hn : n < 13 := lt_of_le_of_ne h.le (mt h.throttle_eq_zero_iff.mpr hl)
    have hwrites : passWrites s t =
        [(t.tNow, sweep (some .mcpwm0) (landingStep s.fsm.landingThrottle))] := by
      rw [passWrites, hcalls, if_neg (sweep_ne_nil _ _)]
    rw [hwrites, h.dueWrites_eq hn, if_pos ht]
    exact Or.inr ⟨rfl, n + 1, h.write hn ht hf hcalls⟩
  · have hn : n < 13 := lt_of_le_of_ne h.le (mt h.throttle_eq_zero_iff.mpr hl)
    have hwrites : passWrites s t = [] := if_pos hcalls
    rw [hwrites, h.dueWrites_eq hn, if_neg (not_le.mpr ht), List.append_nil]
    exact Or.inr ⟨rfl, n, h.wait hl hf⟩

end Descent

/-! ## The protocol -/

/-- The passes `cont` after an entry into LANDING at the end of `history`: the machine stays in
LANDING during `descent`, each pass of which writes what is due, `n` writes in all; if there are
more passes, the descent is complete, and the first of them, the one after the write of 0, goes
to IDLE. -/
structure Descent (env : BootEnv) (history : List Tick) (start : ℤ) (cont descent rest : List Tick)
    (n : ℕ) : Prop where
  split : cont = descent ++ rest
  stays : Along iterate (fun s u => (iterate s u).fsm.currentState = .landing)
    (reached env history) descent
  prompt : Throughout (fun done u => passWrites (run iterate (reached env history) done) u =
    dueWrites start (writesFrom (reached env history) done) u.tNow) descent
  descending : Descending (run iterate (reached env history) descent) start
    (writesFrom (reached env history) descent) n
  exits : ∀ u more, rest = u :: more →
    n = 13 ∧ (reached env (history ++ descent)).esc.calls = sweep (some .mcpwm0) 0 ∧
      (reached env (history ++ descent ++ [u])).fsm.currentState = .idle ∧
      (reached env (history ++ descent ++ [u])).esc.calls = sweep (some .mcpwm0) 0

/-- The landing that the pass `t` after `history` enters, writing nothing itself: the FAILSAFE
behind it, and the descent it begins. -/
def AutoLands (env : BootEnv) (history : List Tick) (t : Tick) (cont : List Tick) : Prop :=
  (∃ before first middle, LandingEntry env history t before first middle) ∧
    (reached env (history ++ [t])).esc.calls = [] ∧
    ∃ descent rest n, Descent env (history ++ [t]) t.tStep cont descent rest n

/-- The descent from an entry, pass by pass. -/
theorem exists_descent {env : BootEnv} {history : List Tick} {start : ℤ}
    (h : Descending (reached env history) start [] 0) (cont : List Tick)
    (hok : ∀ u ∈ cont, u.i2c = .ok) :
    ∃ descent rest n, Descent env history start cont descent rest n := by
  induction cont using List.reverseRecOn with
  | nil => exact ⟨[], [], 0, rfl, trivial, fun pre u post hs => by simp at hs, h, nofun⟩
  | append_singleton cont u ih =>
    obtain ⟨descent, rest, n, hd⟩ := ih fun v hv => hok v (by simp [hv])
    cases rest with
    | cons v more =>
      -- the descent was over before
      refine ⟨descent, v :: more ++ [u], n, by rw [hd.split]; simp, hd.stays, hd.prompt,
        hd.descending, ?_⟩
      intro w more' hw
      rw [List.cons_append, List.cons.injEq] at hw
      rw [← hw.1]
      exact hd.exits v more rfl
    | nil =>
      have hrun : run iterate (reached env history) descent = reached env (history ++ descent) := by
        rw [reached, reached, run_append]
      have hbound : (run iterate (reached env history) descent).esc.Bound := by
        rw [hrun]
        exact bound_reached env _
      rcases hd.descending.step hbound (hok u (by simp)) with
        ⟨hn, hidle, hcalls⟩ | ⟨hdue, n', hnext⟩
      · refine ⟨descent, [u], n, by rw [hd.split]; simp, hd.stays, hd.prompt, hd.descending, ?_⟩
        intro w more hw
        rw [List.cons.injEq] at hw
        rw [← hw.1, reached_concat, ← hrun]
        exact ⟨hn, hd.descending.zero (hd.descending.throttle_eq_zero_iff.mpr hn), hidle, hcalls⟩
      · refine ⟨descent ++ [u], [], n', by rw [hd.split]; simp, ?_, ?_, ?_, nofun⟩
        · rw [along_append]
          exact ⟨hd.stays, hnext.landing, trivial⟩
        · exact (throughout_concat _ _).mpr ⟨hd.prompt, hdue⟩
        · rw [run_append, writesFrom_concat]
          exact hnext

/-- **The auto-landing protocol.**  Whenever LANDING is entered, and for as long as the IMU
reads succeed, whatever the packages: the FAILSAFE behind it saw no active package for at
least `FAILSAFE_TIMEOUT_MS`, the writes are 23, 21, ..., 3, 1, 0 in this order, each by the first
pass that comes `LANDING_STEP_MS` or more after the one before it, nothing else is written, and
the machine leaves for IDLE in the pass after the write of 0. -/
theorem auto_landing (env : BootEnv) (history : List Tick) (t : Tick) (cont : List Tick)
    (hout : (reached env history).fsm.currentState ≠ .landing)
    (hin : (reached env (history ++ [t])).fsm.currentState = .landing)
    (hok : ∀ u ∈ cont, u.i2c = .ok) : AutoLands env history t cont := by
  have hin' := hin
  rw [reached_concat] at hin'
  obtain ⟨-, -, -, hthrottle, hlast, hcalls⟩ := enter_landing hout hin'
  rw [← reached_concat] at hthrottle hlast hcalls
  refine ⟨exists_landingEntry hout hin, hcalls, exists_descent ?_ cont hok⟩
  refine ⟨hin, by omega, ?_, rfl, List.isChain_singleton _, ?_, ?_⟩
  · rw [hthrottle]
    rfl
  · rw [hlast]
    rfl
  · intro hl
    rw [hthrottle] at hl
    exact absurd hl (by decide)

/-- Arm, take off, fly, lose the signal and hold. -/
def heldRun : List Tick :=
  [.throttle 5004 0, .throttle 5504 0, .throttle 5508 60, .throttle 5528 600,
    .calm 5548 (.received 5548 .zero), .calm 7544 .silent]

/-- Fourteen passes 200 ms apart, with the signal back. -/
def recoveredPasses : List Tick :=
  (List.range 14).map fun k => .throttle (7748 + 200 * k) 600

theorem auto_landing_heldRun : AutoLands .calm heldRun (.calm 7548 .silent) recoveredPasses :=
  auto_landing .calm heldRun (.calm 7548 .silent) recoveredPasses (by decide +kernel)
    (by decide +kernel) (by decide +kernel)

end DroneFirmware

import DroneFirmware.Reactive.Run

/-!
# Critical sections

Threads share a store and one mutex.  A thread asks for the mutex, takes it when it is free,
makes the micro-steps of its section one at a time, and gives it back; between any two
micro-steps any other thread may move.  Nothing but the mutex keeps two sections apart: a
micro-step does not ask who owns it.

The log is a history: it records the sections in the order in which they were left, and no
move reads it.

* `Effect`: what one move can do.
* `Serial`: the invariant, that the sections run one after another; `serial_run`: every
  schedule keeps it.
* `readings_sublist`: the sections read the clock in the order of the schedule.
-/

namespace DroneFirmware
namespace Concurrent

open Reactive

universe u v w x

/-! ## Sections that run alone -/

/-- A micro-step: at a reading of the clock, what it makes of the store and of the locals of
its thread. -/
abbrev Micro (σ : Type u) (ℓ : Type v) := ℤ → σ × ℓ → σ × ℓ

/-- The operations on a store: the micro-steps of the section of each, in program order, and
the locals it starts with. -/
structure Sections (op : Type w) (σ : Type u) (ℓ : Type v) where
  body : op → List (Micro σ ℓ)
  locals : op → ℓ

variable {τ : Type x} {op : Type w} {σ : Type u} {ℓ : Type v}

/-- Some micro-steps at some readings of the clock, without interruption. -/
def runMicros (ms : List (Micro σ ℓ)) (clocks : List ℤ) (x : σ × ℓ) : σ × ℓ :=
  (ms.zip clocks).foldl (fun x m => m.1 m.2 x) x

@[simp] theorem runMicros_nil (clocks : List ℤ) (x : σ × ℓ) : runMicros [] clocks x = x := rfl

@[simp] theorem runMicros_cons (f : Micro σ ℓ) (ms : List (Micro σ ℓ)) (t : ℤ) (clocks : List ℤ)
    (x : σ × ℓ) : runMicros (f :: ms) (t :: clocks) x = runMicros ms clocks (f t x) := rfl

theorem runMicros_append {ms : List (Micro σ ℓ)} {clocks : List ℤ}
    (h : clocks.length = ms.length) (ms' : List (Micro σ ℓ)) (clocks' : List ℤ) (x : σ × ℓ) :
    runMicros (ms ++ ms') (clocks ++ clocks') x =
      runMicros ms' clocks' (runMicros ms clocks x) := by
  rw [runMicros, List.zip_append h.symm, List.foldl_append]
  rfl

/-- A section that was left: whose it was, the clock readings of its micro-steps, and the
locals it left. -/
structure Visit (τ : Type x) (op : Type w) (ℓ : Type v) where
  thread : τ
  op : op
  clocks : List ℤ
  result : ℓ

variable (X : Sections op σ ℓ)

/-- An operation as one step. -/
def Sections.perform (o : op) (clocks : List ℤ) (store : σ) : σ × ℓ :=
  runMicros (X.body o) clocks (store, X.locals o)

/-- The store after some sections, one after another. -/
def Sections.replay (store : σ) (log : List (Visit τ op ℓ)) : σ :=
  log.foldl (fun store v => (X.perform v.op v.clocks store).1) store

@[simp] theorem Sections.replay_nil (store : σ) :
    X.replay store ([] : List (Visit τ op ℓ)) = store := rfl

@[simp] theorem Sections.replay_concat (store : σ) (log : List (Visit τ op ℓ))
    (v : Visit τ op ℓ) :
    X.replay store (log ++ [v]) = (X.perform v.op v.clocks (X.replay store log)).1 := by
  rw [replay, List.foldl_append]
  rfl

/-- The section left what it leaves when it runs alone, after those before it. -/
structure Atomic (store : σ) (before : List (Visit τ op ℓ)) (v : Visit τ op ℓ) : Prop where
  length : v.clocks.length = (X.body v.op).length
  result : v.result = (X.perform v.op v.clocks (X.replay store before)).2

/-- A section under way: `rest` of its micro-steps are to come, and the others were made without
interruption, on the store `before`. -/
def UnderWay (before store : σ) (o : op) (past : List ℤ) (rest : List (Micro σ ℓ)) (l : ℓ) :
    Prop :=
  ∃ ms, X.body o = ms ++ rest ∧ past.length = ms.length ∧
    (store, l) = runMicros ms past (before, X.locals o)

theorem underWay_start (store : σ) (o : op) :
    UnderWay X store store o [] (X.body o) (X.locals o) := ⟨[], rfl, rfl, rfl⟩

variable {X} in
theorem UnderWay.micro {before store : σ} {o : op} {past : List ℤ} {f : Micro σ ℓ}
    {rest : List (Micro σ ℓ)} {l : ℓ} (h : UnderWay X before store o past (f :: rest) l) (t : ℤ) :
    UnderWay X before (f t (store, l)).1 o (past ++ [t]) rest (f t (store, l)).2 := by
  obtain ⟨ms, hbody, hlen, hmade⟩ := h
  refine ⟨ms ++ [f], by rw [hbody]; simp, by simp [hlen], ?_⟩
  rw [runMicros_append hlen, ← hmade]
  rfl

variable {X} in
/-- A section with nothing to come has run as one step. -/
theorem UnderWay.done {before store : σ} {o : op} {past : List ℤ} {l : ℓ}
    (h : UnderWay X before store o past [] l) :
    past.length = (X.body o).length ∧ (store, l) = X.perform o past before := by
  obtain ⟨ms, hbody, hlen, hmade⟩ := h
  rw [List.append_nil] at hbody
  rw [Sections.perform, hbody]
  exact ⟨hlen, hmade⟩

/-! ## Threads -/

/-- Where a thread is: outside, at the lock of a section, or inside it, with the clock readings
of the micro-steps it has made and the micro-steps to come. -/
inductive Phase (op : Type w) (σ : Type u) (ℓ : Type v) where
  | out
  | waits (o : op)
  | inside (o : op) (past : List ℤ) (rest : List (Micro σ ℓ)) (l : ℓ)

/-- The threads, the mutex and the store. -/
structure System (τ : Type x) (op : Type w) (σ : Type u) (ℓ : Type v) where
  store : σ
  owner : Option τ
  phase : τ → Phase op σ ℓ
  log : List (Visit τ op ℓ)

/-- No thread has started, and the mutex is free. -/
def System.start (store : σ) : System τ op σ ℓ := ⟨store, none, fun _ => .out, []⟩

/-- **The sections run one after another.**  Whoever is inside owns the mutex; the log is a
sequence of atomic sections; and the store is what they left, but for the section under way. -/
structure Serial (store : σ) (s : System τ op σ ℓ) : Prop where
  owns : ∀ i o past rest l, s.phase i = .inside o past rest l → s.owner = some i
  inside : ∀ i, s.owner = some i → ∃ o past rest l, s.phase i = .inside o past rest l
  atomic : Throughout (Atomic X store) s.log
  free : s.owner = none → s.store = X.replay store s.log
  underWay : ∀ i o past rest l, s.phase i = .inside o past rest l →
    UnderWay X (X.replay store s.log) s.store o past rest l

theorem serial_start (store : σ) : Serial X store (System.start store : System τ op σ ℓ) where
  owns _ _ _ _ _ h := nomatch h
  inside _ h := nomatch h
  atomic pre i post h := by
    have hnil : ([] : List (Visit τ op ℓ)) = pre ++ i :: post := h
    simp at hnil
  free _ := rfl
  underWay _ _ _ _ _ h := nomatch h

variable {X} in
/-- Two threads are never inside at once. -/
theorem Serial.exclusive {store : σ} {s : System τ op σ ℓ} (h : Serial X store s) {i j : τ}
    {o o' : op} {past past' : List ℤ} {rest rest' : List (Micro σ ℓ)} {l l' : ℓ}
    (hi : s.phase i = .inside o past rest l) (hj : s.phase j = .inside o' past' rest' l') :
    i = j := by
  have hi' := h.owns _ _ _ _ _ hi
  rw [h.owns _ _ _ _ _ hj] at hi'
  exact (Option.some.inj hi').symm

/-- The clock readings of the section the thread is in. -/
def Phase.past : Phase op σ ℓ → List ℤ
  | .inside _ past _ _ => past
  | _ => []

/-- The clock readings of the sections, in their order; those of the section under way last. -/
def System.readings (s : System τ op σ ℓ) : List ℤ :=
  s.log.flatMap Visit.clocks ++ s.owner.elim [] fun i => (s.phase i).past

theorem System.readings_of_free {s : System τ op σ ℓ} (h : s.owner = none) :
    s.readings = s.log.flatMap Visit.clocks := by
  rw [readings, h]
  exact List.append_nil _

variable {X} in
theorem Serial.readings_of_inside {store : σ} {s : System τ op σ ℓ} (h : Serial X store s) {i : τ}
    {o : op} {past : List ℤ} {rest : List (Micro σ ℓ)} {l : ℓ}
    (hi : s.phase i = .inside o past rest l) :
    s.readings = s.log.flatMap Visit.clocks ++ past := by
  rw [System.readings, h.owns _ _ _ _ _ hi]
  show _ ++ (s.phase i).past = _
  rw [hi]
  rfl

/-! ## The scheduler -/

variable [DecidableEq τ]

/-- A move of the scheduler: which thread moves, when, and the section it turns to if it is
outside. -/
structure Move (τ : Type x) (op : Type w) where
  thread : τ
  next : op
  now : ℤ

/-- The thread moves on to `p`. -/
def System.goto (s : System τ op σ ℓ) (i : τ) (p : Phase op σ ℓ) : System τ op σ ℓ :=
  { s with phase := Function.update s.phase i p }

theorem System.goto_phase (s : System τ op σ ℓ) (i j : τ) (p : Phase op σ ℓ) :
    (s.goto i p).phase j = if j = i then p else s.phase j :=
  Function.update_apply _ _ _ _

/-- The thread inside after a thread moved on is the one that moved, or it was inside before. -/
theorem System.inside_of_goto {s : System τ op σ ℓ} {i j : τ} {p : Phase op σ ℓ} {o : op}
    {past : List ℤ} {rest : List (Micro σ ℓ)} {l : ℓ}
    (h : (s.goto i p).phase j = .inside o past rest l) :
    j = i ∧ p = .inside o past rest l ∨ j ≠ i ∧ s.phase j = .inside o past rest l := by
  rw [System.goto_phase] at h
  split_ifs at h with hc
  · exact Or.inl ⟨hc, h⟩
  · exact Or.inr ⟨hc, h⟩

/-- One move.  A thread at the lock of a mutex that is not free waits on. -/
def step (s : System τ op σ ℓ) (m : Move τ op) : System τ op σ ℓ :=
  match s.phase m.thread with
  | .out => s.goto m.thread (.waits m.next)
  | .waits o =>
      match s.owner with
      | none =>
          { s.goto m.thread (.inside o [] (X.body o) (X.locals o)) with owner := some m.thread }
      | some _ => s
  | .inside o past (f :: rest) l =>
      let r := f m.now (s.store, l)
      { s.goto m.thread (.inside o (past ++ [m.now]) rest r.2) with store := r.1 }
  | .inside o past [] l =>
      { s.goto m.thread .out with owner := none, log := s.log ++ [⟨m.thread, o, past, l⟩] }

/-- **What one move can do.** -/
inductive Effect (s : System τ op σ ℓ) (m : Move τ op) : System τ op σ ℓ → Prop where
  | ask (h : s.phase m.thread = .out) : Effect s m (s.goto m.thread (.waits m.next))
  | lock (o : op) (h : s.phase m.thread = .waits o) (hfree : s.owner = none) :
      Effect s m
        { s.goto m.thread (.inside o [] (X.body o) (X.locals o)) with owner := some m.thread }
  | wait (o : op) (h : s.phase m.thread = .waits o) (hheld : s.owner ≠ none) : Effect s m s
  | micro (o : op) (past : List ℤ) (f : Micro σ ℓ) (rest : List (Micro σ ℓ)) (l : ℓ)
      (h : s.phase m.thread = .inside o past (f :: rest) l) :
      Effect s m
        { s.goto m.thread (.inside o (past ++ [m.now]) rest (f m.now (s.store, l)).2) with
          store := (f m.now (s.store, l)).1 }
  | unlock (o : op) (past : List ℤ) (l : ℓ) (h : s.phase m.thread = .inside o past [] l) :
      Effect s m
        { s.goto m.thread .out with owner := none, log := s.log ++ [⟨m.thread, o, past, l⟩] }

theorem step_effect (s : System τ op σ ℓ) (m : Move τ op) : Effect X s m (step X s m) := by
  unfold step
  split
  · exact .ask ‹_›
  · split
    · exact .lock _ ‹_› ‹_›
    · exact .wait _ ‹_› (by simp [*])
  · exact .micro _ _ _ _ _ ‹_›
  · exact .unlock _ _ _ ‹_›

variable {X} {store : σ} {s s' : System τ op σ ℓ} {m : Move τ op}

/-- **One move keeps the sections apart.** -/
theorem Effect.serial (he : Effect X s m s') (h : Serial X store s) : Serial X store s' := by
  cases he with
  | ask hp =>
    refine ⟨fun i o past rest l hi => ?_, fun i hi => ?_, h.atomic, h.free,
      fun i o past rest l hi => ?_⟩
    · obtain ⟨-, ⟨⟩⟩ | ⟨-, hi⟩ := System.inside_of_goto hi
      exact h.owns _ _ _ _ _ hi
    · obtain ⟨o, past, rest, l, hin⟩ := h.inside i hi
      have hne : i ≠ m.thread := by
        rintro rfl
        rw [hp] at hin
        cases hin
      exact ⟨o, past, rest, l, by rw [System.goto_phase, if_neg hne, hin]⟩
    · obtain ⟨-, ⟨⟩⟩ | ⟨-, hi⟩ := System.inside_of_goto hi
      exact h.underWay _ _ _ _ _ hi
  | lock o hp hfree =>
    have hout : ∀ i o past rest l, s.phase i ≠ .inside o past rest l := by
      intro i o past rest l hi
      have howner := h.owns _ _ _ _ _ hi
      rw [hfree] at howner
      cases howner
    refine ⟨fun i o' past rest l hi => ?_, fun i hi => ?_, h.atomic, nofun,
      fun i o' past rest l hi => ?_⟩
    · obtain ⟨rfl, -⟩ | ⟨-, hi⟩ := System.inside_of_goto hi
      · rfl
      · exact absurd hi (hout _ _ _ _ _)
    · cases hi
      exact ⟨o, [], X.body o, X.locals o, by rw [System.goto_phase, if_pos rfl]⟩
    · obtain ⟨-, ⟨⟩⟩ | ⟨-, hi⟩ := System.inside_of_goto hi
      · show UnderWay X (X.replay store s.log) s.store _ _ _ _
        rw [h.free hfree]
        exact underWay_start X _ o
      · exact absurd hi (hout _ _ _ _ _)
  | wait => exact h
  | micro o past f rest l hp =>
    have howner := h.owns _ _ _ _ _ hp
    refine ⟨fun i o' past' rest' l' hi => ?_, fun i hi => ?_, h.atomic, fun hfree => ?_,
      fun i o' past' rest' l' hi => ?_⟩
    · obtain ⟨rfl, -⟩ | ⟨-, hi⟩ := System.inside_of_goto hi
      · exact howner
      · exact h.owns _ _ _ _ _ hi
    · have hi' : s.owner = some i := hi
      rw [howner] at hi'
      cases hi'
      exact ⟨_, _, _, _, by rw [System.goto_phase, if_pos rfl]⟩
    · have hfree' : s.owner = none := hfree
      rw [howner] at hfree'
      cases hfree'
    · obtain ⟨-, ⟨⟩⟩ | ⟨hne, hi⟩ := System.inside_of_goto hi
      · exact (h.underWay _ _ _ _ _ hp).micro m.now
      · exact absurd (h.exclusive hi hp) hne
  | unlock o past l hp =>
    obtain ⟨hlen, hdone⟩ := (h.underWay _ _ _ _ _ hp).done
    -- the mover was the one inside, and it left
    have hout : ∀ i o past rest l, (s.goto m.thread .out).phase i ≠ .inside o past rest l := by
      intro i o past rest l hi
      obtain ⟨-, ⟨⟩⟩ | ⟨hne, hi⟩ := System.inside_of_goto hi
      exact hne (h.exclusive hi hp)
    refine ⟨fun i o' past' rest' l' hi => absurd hi (hout _ _ _ _ _), nofun, ?_, fun _ => ?_,
      fun i o' past' rest' l' hi => absurd hi (hout _ _ _ _ _)⟩
    · exact (throughout_concat _ _).mpr ⟨h.atomic, hlen, congrArg Prod.snd hdone⟩
    · show s.store = X.replay store (s.log ++ [_])
      rw [Sections.replay_concat]
      exact congrArg Prod.fst hdone

/-- **Every schedule runs the sections one after another.** -/
theorem serial_run (X : Sections op σ ℓ) (store : σ) (moves : List (Move τ op)) :
    Serial X store (run (step X) (System.start store) moves) :=
  run_invariant (Serial X store) (fun s m h => (step_effect X s m).serial h)
    (serial_start X store) moves

/-! ## The clock -/

/-- A move takes one clock reading for the sections, or none. -/
theorem Effect.readings (he : Effect X s m s') (h : Serial X store s) :
    s'.readings = s.readings ∨ s'.readings = s.readings ++ [m.now] := by
  have h' := he.serial h
  cases he with
  | ask hp =>
    refine Or.inl ?_
    cases howner : s.owner with
    | none =>
      rw [System.readings_of_free howner]
      exact System.readings_of_free howner
    | some i =>
      obtain ⟨o, past, rest, l, hin⟩ := h.inside i howner
      obtain ⟨o', past', rest', l', hin'⟩ := h'.inside i howner
      rw [h.readings_of_inside hin, h'.readings_of_inside hin']
      obtain ⟨-, ⟨⟩⟩ | ⟨-, hsame⟩ := System.inside_of_goto hin'
      rw [hin] at hsame
      cases hsame
      rfl
  | lock o hp hfree =>
    refine Or.inl ?_
    rw [System.readings_of_free hfree, h'.readings_of_inside (i := m.thread)
      (by rw [System.goto_phase, if_pos rfl])]
    exact List.append_nil _
  | wait => exact Or.inl rfl
  | micro o past f rest l hp =>
    refine Or.inr ?_
    rw [h.readings_of_inside hp, h'.readings_of_inside (i := m.thread)
      (by rw [System.goto_phase, if_pos rfl]), List.append_assoc]
    rfl
  | unlock o past l hp =>
    refine Or.inl ?_
    rw [h.readings_of_inside hp, System.readings_of_free rfl, List.flatMap_append,
      List.flatMap_singleton]

/-- **The sections read the clock in the order of the schedule.** -/
theorem readings_sublist (X : Sections op σ ℓ) (store : σ) (moves : List (Move τ op)) :
    (run (step X) (System.start store) moves).readings.Sublist (moves.map Move.now) := by
  induction moves using List.reverseRecOn with
  | nil => exact List.Sublist.refl _
  | append_singleton moves m ih =>
    rw [run_append, List.map_append]
    rcases (step_effect X _ m).readings (serial_run X store moves) with hsame | hone
    · exact (hsame ▸ ih).trans (List.sublist_append_left _ _)
    · show (step X _ m).readings.Sublist _
      rw [hone]
      exact ih.append (List.Sublist.refl _)

end Concurrent
end DroneFirmware

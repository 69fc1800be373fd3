import DroneFirmware.Concurrent.Mutex
import DroneFirmware.Onlooker

/-!
# The shared package

`handle_rc` stores the package and the time while it holds `rc_mutex`;
`drone_webserver_get_rc` copies the package and tests its age while it holds it.  Both are
many machine steps: the struct is nine bytes, and how the compiler moves them --- in which
pieces and in which order --- is left open here.

The model of the main loop knows none of this: a pass serves the requests stored since the
pass before it, all at once, and then reads the package.  This file is why it may.

* `StructCopy`: any way of copying the nine bytes.
* `perform_store`, `perform_get`: the two sections, when nothing interrupts them.
* `shared_package_atomic`: in every schedule of the threads, the readings are those of the
  main loop's model.
* `shared_package_age`: with a clock that never goes back, no package has a negative age, and
  an active one is the last that was stored, whole.
-/

namespace DroneFirmware

open Reactive Concurrent

/-! ## The memory -/

/-- `wifi_rc`, byte by byte, and `rc_last_ms`. -/
structure RcMemory where
  wifiRc : Fin 9 → UInt8
  rcLastMs : ℤ

/-- The two globals before the first request. -/
def RcMemory.reset : RcMemory := ⟨fun _ => 0, 0⟩

/-- `rc.drone_active = false`, on the bytes. -/
theorem DataPackage.ofBytes_clear (b : Fin 9 → UInt8) :
    ofBytes (Function.update b 8 0) = { ofBytes b with droneActive := false } := rfl

/-- The globals as the rest of the model has them. -/
def RcMemory.web (m : RcMemory) : Web := ⟨.ofBytes m.wifiRc, m.rcLastMs⟩

theorem RcMemory.reset_web : RcMemory.reset.web = .reset := by decide

/-! ## The sections -/

/-- How the compiler copies a `struct DataPackage`: some pieces, one after another, that
together leave no byte out. -/
structure StructCopy where
  pieces : List (List (Fin 9))
  covers : ∀ i, ∃ piece ∈ pieces, i ∈ piece

/-- One piece of a copy. -/
def copyPiece (piece : List (Fin 9)) (src dst : Fin 9 → UInt8) : Fin 9 → UInt8 :=
  fun i => if i ∈ piece then src i else dst i

/-- Some pieces of a copy. -/
def copyPieces (pieces : List (List (Fin 9))) (src dst : Fin 9 → UInt8) : Fin 9 → UInt8 :=
  pieces.foldl (fun dst piece => copyPiece piece src dst) dst

theorem copyPieces_apply (pieces : List (List (Fin 9))) (src dst : Fin 9 → UInt8) (i : Fin 9) :
    copyPieces pieces src dst i = if ∃ piece ∈ pieces, i ∈ piece then src i else dst i := by
  induction pieces generalizing dst with
  | nil => simp [copyPieces]
  | cons piece pieces ih =>
    rw [copyPieces, List.foldl_cons, ← copyPieces, ih, copyPiece]
    by_cases hi : i ∈ piece
    · simp [hi]
    · simp [hi]

/-- A copy of the struct copies the struct. -/
theorem StructCopy.copies (c : StructCopy) (src dst : Fin 9 → UInt8) :
    copyPieces c.pieces src dst = src := by
  ext i
  rw [copyPieces_apply, if_pos (c.covers i)]

/-- The two operations on the shared package.  The struct that `drone_webserver_get_rc` fills is
not initialised: `junk` is what the stack held. -/
inductive RcOp where
  | store (cli : ℕ) (body : List UInt8)
  | get (junk : Fin 9 → UInt8)

/-- A micro-step on the globals and on the struct `rc` of its thread. -/
abbrev RcMicro := Micro RcMemory (Fin 9 → UInt8)

/-- `wifi_rc = rc`, one piece of it. -/
def storePiece (piece : List (Fin 9)) : RcMicro := fun _ x =>
  ({ x.1 with wifiRc := copyPiece piece x.2 x.1.wifiRc }, x.2)

/-- `rc_last_ms = k_uptime_get()`. -/
def storeTime : RcMicro := fun now x => ({ x.1 with rcLastMs := now }, x.2)

/-- `rc = wifi_rc`, one piece of it. -/
def getPiece (piece : List (Fin 9)) : RcMicro := fun _ x => (x.1, copyPiece piece x.1.wifiRc x.2)

/-- The test of the age, and `rc.drone_active = false`. -/
def clearStale : RcMicro := fun now x =>
  (x.1, if now - x.1.rcLastMs > rcStaleMs then Function.update x.2 8 0 else x.2)

/-- The sections under `rc_mutex`; `wr` and `rd` are the copies `wifi_rc = rc` and
`rc = wifi_rc`. -/
def rcSections (wr rd : StructCopy) : Sections RcOp RcMemory (Fin 9 → UInt8) where
  body
    | .store _ _ => wr.pieces.map storePiece ++ [storeTime]
    | .get _ => rd.pieces.map getPiece ++ [clearStale]
  locals
    | .store _ body => (packageOfBody body).bytes
    | .get junk => junk

/-- A section left by some thread. -/
abbrev RcVisit (τ : Type*) := Visit τ RcOp (Fin 9 → UInt8)

/-- The reading of `k_uptime_get` in a section: its last micro-step takes it. -/
def rcClock (clocks : List ℤ) : ℤ := clocks.getLast?.getD 0

theorem length_eq_succ {α : Type*} {l : List α} {n : ℕ} (h : l.length = n + 1) :
    ∃ l' a, l = l' ++ [a] ∧ l'.length = n := by
  rcases List.eq_nil_or_concat l with rfl | ⟨l', a, rfl⟩
  · cases h
  · refine ⟨l', a, List.concat_eq_append, ?_⟩
    rw [List.length_concat] at h
    omega

theorem runMicros_storePieces {pieces : List (List (Fin 9))} {clocks : List ℤ}
    (h : clocks.length = pieces.length) (m : RcMemory) (rc : Fin 9 → UInt8) :
    runMicros (pieces.map storePiece) clocks (m, rc) =
      ({ m with wifiRc := copyPieces pieces rc m.wifiRc }, rc) := by
  induction pieces generalizing clocks m with
  | nil => rfl
  | cons piece pieces ih =>
    cases clocks with
    | nil => cases h
    | cons t clocks =>
      rw [List.map_cons, runMicros_cons]
      exact ih (Nat.succ.inj h) _

theorem runMicros_getPieces {pieces : List (List (Fin 9))} {clocks : List ℤ}
    (h : clocks.length = pieces.length) (m : RcMemory) (rc : Fin 9 → UInt8) :
    runMicros (pieces.map getPiece) clocks (m, rc) = (m, copyPieces pieces m.wifiRc rc) := by
  induction pieces generalizing clocks rc with
  | nil => rfl
  | cons piece pieces ih =>
    cases clocks with
    | nil => cases h
    | cons t clocks =>
      rw [List.map_cons, runMicros_cons]
      exact ih (Nat.succ.inj h) _

section Perform

variable (wr rd : StructCopy)

/-- The section of `handle_rc`, alone. -/
theorem perform_store {cli : ℕ} {body : List UInt8} {clocks : List ℤ}
    (h : clocks.length = ((rcSections wr rd).body (.store cli body)).length) (m : RcMemory) :
    ((rcSections wr rd).perform (.store cli body) clocks m).1 =
      ⟨(packageOfBody body).bytes, rcClock clocks⟩ := by
  have hsplit : clocks.length = wr.pieces.length + 1 := by
    rw [h, rcSections, List.length_append, List.length_map, List.length_singleton]
  obtain ⟨clocks, now, rfl, hlen⟩ := length_eq_succ hsplit
  rw [Sections.perform, rcSections, runMicros_append (by rw [List.length_map, hlen]),
    runMicros_storePieces hlen, runMicros_cons, runMicros_nil, wr.copies, storeTime, rcClock,
    List.getLast?_concat]
  rfl

/-- The section of `drone_webserver_get_rc`, alone: it leaves the globals as they are. -/
theorem perform_get {junk : Fin 9 → UInt8} {clocks : List ℤ}
    (h : clocks.length = ((rcSections wr rd).body (.get junk)).length) (m : RcMemory) :
    ((rcSections wr rd).perform (.get junk) clocks m).1 = m ∧
      DataPackage.ofBytes ((rcSections wr rd).perform (.get junk) clocks m).2 =
        droneWebserverGetRc (rcClock clocks) m.web := by
  have hsplit : clocks.length = rd.pieces.length + 1 := by
    rw [h, rcSections, List.length_append, List.length_map, List.length_singleton]
  obtain ⟨clocks, now, rfl, hlen⟩ := length_eq_succ hsplit
  have hclock : rcClock (clocks ++ [now]) = now := by
    rw [rcClock, List.getLast?_concat]
    rfl
  rw [Sections.perform, rcSections, runMicros_append (by rw [List.length_map, hlen]),
    runMicros_getPieces hlen, runMicros_cons, runMicros_nil, rd.copies, hclock,
    droneWebserverGetRc]
  refine ⟨rfl, ?_⟩
  show DataPackage.ofBytes (if now - m.rcLastMs > rcStaleMs then _ else _) =
    if now - m.rcLastMs > rcStaleMs then _ else _
  split_ifs
  · exact DataPackage.ofBytes_clear m.wifiRc
  · rfl

end Perform

/-! ## Readings -/

variable {τ : Type*}

/-- The request whose package a section stored, if it stored one. -/
def storedPost (v : RcVisit τ) : Option Post :=
  match v.op with
  | .store cli body => some ⟨cli, rcClock v.clocks, body⟩
  | .get _ => none

/-- The requests whose packages some sections stored, oldest first. -/
def storedPosts (log : List (RcVisit τ)) : List Post := log.filterMap storedPost

theorem storedPosts_concat (log : List (RcVisit τ)) (v : RcVisit τ) :
    storedPosts (log ++ [v]) = storedPosts log ++ (storedPost v).toList := by
  rw [storedPosts, List.filterMap_append]
  cases hv : storedPost v with
  | none => rw [List.filterMap_cons_none hv]; rfl
  | some p => rw [List.filterMap_cons_some hv]; rfl

/-- The globals after some sections are those of the model after their requests. -/
theorem replay_web {wr rd : StructCopy} {log : List (RcVisit τ)}
    (h : Throughout (Atomic (rcSections wr rd) RcMemory.reset) log) :
    ((rcSections wr rd).replay RcMemory.reset log).web = servePosts (storedPosts log) .reset := by
  induction log using List.reverseRecOn with
  | nil => exact RcMemory.reset_web
  | append_singleton log v ih =>
    rw [throughout_concat] at h
    obtain ⟨hlog, hlen, -⟩ := h
    rw [Sections.replay_concat, storedPosts_concat]
    cases hop : v.op with
    | store cli body =>
      have hpost : storedPost v = some ⟨cli, rcClock v.clocks, body⟩ := by rw [storedPost, hop]
      rw [hop] at hlen
      rw [perform_store wr rd hlen, RcMemory.web, DataPackage.ofBytes_bytes, hpost,
        Option.toList_some, servePosts_concat, handleRc]
    | get junk =>
      have hpost : storedPost v = none := by rw [storedPost, hop]
      rw [hop] at hlen
      rw [(perform_get wr rd hlen _).1, ih hlog, hpost, Option.toList_none, List.append_nil]

/-- A call of `drone_webserver_get_rc`: the requests stored since the call before it, its
reading of the clock, and the package it returned. -/
structure RcReading where
  posts : List Post
  now : ℤ
  package : DataPackage

/-- The calls among some sections; `posts` were stored before these and read by none. -/
def rcReadingsFrom : List Post → List (RcVisit τ) → List RcReading
  | _, [] => []
  | posts, v :: log =>
      match v.op with
      | .store cli body => rcReadingsFrom (posts ++ [⟨cli, rcClock v.clocks, body⟩]) log
      | .get _ => ⟨posts, rcClock v.clocks, .ofBytes v.result⟩ :: rcReadingsFrom [] log

/-- The calls of `drone_webserver_get_rc` in a log. -/
def rcReadings (log : List (RcVisit τ)) : List RcReading := rcReadingsFrom [] log

/-- A call is a section of the log, and the calls up to it have been handed the requests stored
before it. -/
theorem exists_visit_of_reading {log : List (RcVisit τ)} :
    ∀ {posts : List Post} {pre post : List RcReading} {w : RcReading},
      rcReadingsFrom posts log = pre ++ w :: post →
      ∃ before v after junk, log = before ++ v :: after ∧ v.op = .get junk ∧
        w.now = rcClock v.clocks ∧ w.package = .ofBytes v.result ∧
        posts ++ storedPosts before = (pre ++ [w]).flatMap RcReading.posts := by
  induction log with
  | nil => exact fun h => absurd h (by simp [rcReadingsFrom])
  | cons v log ih =>
    intro posts pre post w h
    obtain ⟨i, o, clocks, result⟩ := v
    cases o with
    | store cli body =>
      obtain ⟨before, v, after, junk, rfl, hop, hnow, hpackage, hposts⟩ := ih h
      refine ⟨_ :: before, v, after, junk, rfl, hop, hnow, hpackage, ?_⟩
      rw [← hposts, List.append_assoc]
      rfl
    | get junk =>
      cases pre with
      | nil =>
        obtain ⟨rfl, -⟩ := List.cons.inj h
        exact ⟨[], _, log, junk, rfl, rfl, rfl, rfl, by simp [storedPosts]⟩
      | cons w' pre =>
        obtain ⟨rfl, hrest⟩ := List.cons.inj h
        obtain ⟨before, v, after, junk, rfl, hop, hnow, hpackage, hposts⟩ := ih hrest
        refine ⟨_ :: before, v, after, junk, rfl, hop, hnow, hpackage, ?_⟩
        rw [List.cons_append, List.flatMap_cons, ← hposts]
        rfl

/-- Every section reads the clock. -/
theorem clocks_ne_nil {wr rd : StructCopy} {m : RcMemory} {before : List (RcVisit τ)}
    {v : RcVisit τ} (h : Atomic (rcSections wr rd) m before v) : v.clocks ≠ [] := by
  intro hnil
  have hlen := h.length
  rw [hnil] at hlen
  cases hop : v.op with
  | store | get => simp [rcSections, hop] at hlen

theorem rcClock_mem {clocks : List ℤ} (h : clocks ≠ []) : rcClock clocks ∈ clocks := by
  rw [rcClock, List.getLast?_eq_some_getLast h]
  exact List.getLast_mem h

variable [DecidableEq τ]

/-- The threads after some moves. -/
def rcSystem (wr rd : StructCopy) (moves : List (Move τ RcOp)) :
    System τ RcOp RcMemory (Fin 9 → UInt8) :=
  run (step (rcSections wr rd)) (.start .reset) moves

theorem rcSystem_serial (wr rd : StructCopy) (moves : List (Move τ RcOp)) :
    Serial (rcSections wr rd) .reset (rcSystem wr rd moves) := serial_run _ _ moves

/-- A call returns the last package stored before it, without the flag if that is stale. -/
theorem reading_package (wr rd : StructCopy) (moves : List (Move τ RcOp)) :
    Throughout (fun pre w => w.package = droneWebserverGetRc w.now
      (servePosts ((pre ++ [w]).flatMap RcReading.posts) .reset))
      (rcReadings (rcSystem wr rd moves).log) := by
  intro pre w post hsplit
  obtain ⟨before, v, after, junk, hlog, hop, hnow, hpackage, hposts⟩ :=
    exists_visit_of_reading hsplit
  have hatomic := (rcSystem_serial wr rd moves).atomic
  have hbefore : Throughout (Atomic (rcSections wr rd) RcMemory.reset) before := by
    rintro pre' v' post' rfl
    exact hatomic pre' v' (post' ++ v :: after) (by rw [hlog]; simp)
  obtain ⟨hlen, hresult⟩ := hatomic before v after hlog
  rw [hop] at hlen hresult
  rw [hpackage, hresult, (perform_get wr rd hlen _).2, replay_web hbefore, hnow, ← hposts,
    List.nil_append]

/-- The pass of the main loop that serves the requests of the call `w`, after passes that served
those of the calls before it, reads the package that `w` returned. -/
def ReadAsModelled (pre : List RcReading) (w : RcReading) : Prop :=
  ∀ (env : BootEnv) (history : List Tick) (t : Tick),
    history.map Tick.posts = pre.map RcReading.posts → t.posts = w.posts → t.tWeb = w.now →
      w.package = droneWebserverGetRc t.tWeb (servePosts t.posts (reached env history).web)

/-- **The shared package is read as the main loop's model has it**, in every schedule of any
number of threads, whatever the pieces in which the struct is copied. -/
theorem shared_package_atomic (wr rd : StructCopy) (moves : List (Move τ RcOp)) :
    Throughout ReadAsModelled (rcReadings (rcSystem wr rd moves).log) := by
  intro pre w post hsplit env history t hhistory hposts hnow
  have hserved : served history = pre.flatMap RcReading.posts := by
    rw [served, List.flatMap_def, hhistory, ← List.flatMap_def]
  rw [reading_package wr rd moves pre w post hsplit, reached_web, ← servePosts_append, hserved,
    hposts, hnow, List.flatMap_append, List.flatMap_singleton]

/-! ## The age of a package -/

/-- The package that the call `w` returned is no older than `RC_STALE_MS` if it is active, and
then it is the last one stored before it; and nothing was stored in its future. -/
structure OfItsTime (pre : List RcReading) (w : RcReading) : Prop where
  past : ∀ p ∈ (pre ++ [w]).flatMap RcReading.posts, p.now ≤ w.now
  fresh : w.package.droneActive = true →
    ∃ p, ((pre ++ [w]).flatMap RcReading.posts).getLast? = some p ∧
      w.package = packageOfBody p.body ∧ 0 ≤ w.now - p.now ∧ w.now - p.now ≤ rcStaleMs

/-- **No package has a negative age, and an active one is the last that was stored, whole**, if
the clock never goes back. -/
theorem shared_package_age (wr rd : StructCopy) (moves : List (Move τ RcOp))
    (hclock : (moves.map Move.now).Pairwise (· ≤ ·)) :
    Throughout OfItsTime (rcReadings (rcSystem wr rd moves).log) := by
  intro pre w post hsplit
  obtain ⟨before, v, after, junk, hlog, -, hnow, -, hposts⟩ := exists_visit_of_reading hsplit
  rw [List.nil_append] at hposts
  have hatomic := (rcSystem_serial wr rd moves).atomic
  have hpast : ∀ p ∈ (pre ++ [w]).flatMap RcReading.posts, p.now ≤ w.now := by
    have hsorted : ((before ++ v :: after).flatMap Visit.clocks).Pairwise (· ≤ ·) := by
      rw [← hlog]
      exact ((hclock.sublist (readings_sublist (rcSections wr rd) .reset moves)).sublist
        (List.sublist_append_left _ _))
    rw [List.flatMap_append, List.flatMap_cons] at hsorted
    have hbefore := (List.pairwise_append.mp hsorted).2.2
    intro p hp
    rw [← hposts, storedPosts, List.mem_filterMap] at hp
    obtain ⟨u, hu, hup⟩ := hp
    obtain ⟨pre', post', hu'⟩ := List.append_of_mem hu
    have hclocks : u.clocks ≠ [] :=
      clocks_ne_nil (hatomic pre' u (post' ++ v :: after) (by rw [hlog, hu']; simp))
    have hpnow : p.now = rcClock u.clocks := by
      rw [storedPost] at hup
      split at hup
      · cases hup; rfl
      · cases hup
    rw [hpnow, hnow]
    refine hbefore _ (List.mem_flatMap.mpr ⟨u, hu, rcClock_mem hclocks⟩) _ ?_
    exact List.mem_append_left _ (rcClock_mem (clocks_ne_nil (hatomic before v after hlog)))
  refine ⟨hpast, fun hactive => ?_⟩
  have hpackage := reading_package wr rd moves pre w post hsplit
  rw [hpackage, droneWebserverGetRc_active_iff] at hactive
  have hwhole : w.package = (servePosts ((pre ++ [w]).flatMap RcReading.posts) .reset).wifiRc := by
    rw [hpackage, droneWebserverGetRc, if_neg (not_lt.mpr hactive.2)]
  rcases List.eq_nil_or_concat ((pre ++ [w]).flatMap RcReading.posts) with hnil | ⟨posts, p, hp⟩
  · rw [hnil] at hactive
    exact absurd hactive.1 (by decide)
  · rw [List.concat_eq_append] at hp
    rw [hp] at hactive hwhole hpast ⊢
    rw [servePosts_concat] at hactive hwhole
    have hle := hpast p (by simp)
    exact ⟨p, List.getLast?_concat, hwhole, by omega, hactive.2⟩

/-- The struct copied in two pieces, the last byte first. -/
def StructCopy.twoPieces : StructCopy := ⟨[[8], [0, 1, 2, 3, 4, 5, 6, 7]], by decide⟩

/-- The HTTP thread, `true`, stores a package while the main loop's thread, `false`, comes to the
lock, waits there and then reads. -/
def contendedMoves : List (Move Bool RcOp) :=
  [⟨true, .store 1 (pagePost 1 0 "40" "1").body, 6000⟩, ⟨true, .get fun _ => 0, 6000⟩,
    ⟨true, .get fun _ => 0, 6000⟩, ⟨false, .get fun _ => 0xAA, 6001⟩,
    ⟨false, .get fun _ => 0, 6001⟩, ⟨true, .get fun _ => 0, 6001⟩, ⟨true, .get fun _ => 0, 6002⟩,
    ⟨false, .get fun _ => 0, 6002⟩, ⟨true, .get fun _ => 0, 6002⟩, ⟨false, .get fun _ => 0, 6003⟩,
    ⟨false, .get fun _ => 0, 6003⟩, ⟨false, .get fun _ => 0, 6003⟩, ⟨false, .get fun _ => 0, 6004⟩,
    ⟨false, .get fun _ => 0, 6004⟩]

theorem shared_package_age_contendedMoves :
    Throughout OfItsTime (rcReadings (rcSystem .twoPieces .twoPieces contendedMoves).log) :=
  shared_package_age .twoPieces .twoPieces contendedMoves (by decide)

/-- The main loop has read the package that was being stored when it came to the lock. -/
example : (rcReadings (rcSystem .twoPieces .twoPieces contendedMoves).log).map
    (fun w => (w.now, w.package)) = [(6004, ⟨512, 512, 512, 409, true⟩)] := by decide +kernel

end DroneFirmware

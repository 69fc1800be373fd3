import Mathlib

/-!
# Partial sends

A stream socket that is offered some bytes takes as many of them as it has room for, from the
first on, or fails and takes none.  Handing over `len` bytes takes a run of calls: it is done
when the calls had room for all of them, and cut when a call fails before that.

* `SendReply`: what the socket does with a call; `exists_result_iff`: its results.
* `DoneAt`, `CutAt`: the two ends of a run of calls.
* `DoneAt.cons`, `CutAt.cons`: a first call that does not fail leaves the rest to the others.
-/

namespace DroneFirmware
namespace Net

/-! ## One call -/

/-- What the socket does with a call: it takes a byte and at most `more` others, or it fails. -/
inductive SendReply where
  | takes (more : ℕ)
  | fails (code : ℕ)
  deriving DecidableEq

/-- The result of a call that offers `len` bytes. -/
def SendReply.result (len : ℤ) : SendReply → ℤ
  | takes more => min (more + 1) len
  | fails code => -code

/-- The call takes nothing. -/
def SendReply.Fails : SendReply → Prop
  | takes _ => False
  | fails _ => True

/-- How many bytes the call takes, if so many are offered. -/
def SendReply.room : SendReply → ℕ
  | takes more => more + 1
  | fails _ => 0

/-- **The results of a call.**  Offered `len` bytes, the socket answers with any number up to
`len`, and with nothing else. -/
theorem exists_result_iff {len : ℤ} (hlen : 0 < len) (n : ℤ) :
    (∃ r : SendReply, r.result len = n) ↔ n ≤ len := by
  constructor
  · rintro ⟨more | code, rfl⟩
    · exact min_le_right _ _
    · rw [SendReply.result]
      omega
  · intro hn
    by_cases hpos : 0 < n
    · refine ⟨.takes (n.toNat - 1), ?_⟩
      rw [SendReply.result]
      omega
    · refine ⟨.fails n.natAbs, ?_⟩
      rw [SendReply.result]
      omega

theorem result_nonpos_iff {len : ℤ} (hlen : 0 < len) (r : SendReply) :
    r.result len ≤ 0 ↔ r.Fails := by
  cases r with
  | takes more => simp only [SendReply.result, SendReply.Fails, iff_false]; omega
  | fails code => simp only [SendReply.result, SendReply.Fails, iff_true]; omega

theorem result_eq_min {r : SendReply} (h : ¬ r.Fails) (len : ℤ) :
    r.result len = min (r.room : ℤ) len := by
  cases r with
  | takes more => rfl
  | fails code => exact absurd trivial h

theorem room_pos {r : SendReply} (h : ¬ r.Fails) : 0 < r.room := by
  cases r with
  | takes more => exact Nat.succ_pos more
  | fails code => exact absurd trivial h

/-! ## A run of calls -/

/-- The calls from number `k` on. -/
def laterCalls (net : ℕ → SendReply) (k : ℕ) : ℕ → SendReply := fun j => net (k + j)

theorem laterCalls_zero (net : ℕ → SendReply) : laterCalls net 0 = net := by
  ext j
  rw [laterCalls, Nat.zero_add]

theorem laterCalls_shift (net : ℕ → SendReply) (k : ℕ) :
    (fun j => laterCalls net k (j + 1)) = laterCalls net (k + 1) := by
  ext j
  rw [laterCalls, laterCalls, Nat.add_right_comm, Nat.add_assoc]

/-- The room of the first `n` calls. -/
def roomOf (net : ℕ → SendReply) (n : ℕ) : ℕ := ∑ j ∈ Finset.range n, (net j).room

theorem roomOf_succ' (net : ℕ → SendReply) (n : ℕ) :
    roomOf net (n + 1) = roomOf (fun j => net (j + 1)) n + (net 0).room :=
  Finset.sum_range_succ' _ n

theorem roomOf_mono (net : ℕ → SendReply) : Monotone (roomOf net) :=
  fun _ _ h => Finset.sum_le_sum_of_subset (Finset.range_mono h)

/-- The first `n` calls take `len` bytes. -/
structure DoneAt (net : ℕ → SendReply) (len n : ℕ) : Prop where
  before : ∀ j < n, ¬ (net j).Fails
  enough : len ≤ roomOf net n

/-- Call `k` is the first to fail, and the calls before it do not take `len` bytes. -/
structure CutAt (net : ℕ → SendReply) (len k : ℕ) : Prop where
  before : ∀ j < k, ¬ (net j).Fails
  short : roomOf net k < len
  fails : (net k).Fails

variable {net : ℕ → SendReply} {len : ℕ}

/-- **A run that is done is not cut.** -/
theorem DoneAt.not_cutAt {n : ℕ} (h : DoneAt net len n) (k : ℕ) : ¬ CutAt net len k := by
  intro hcut
  rcases lt_or_ge k n with hk | hk
  · exact h.before k hk hcut.fails
  · have hroom := roomOf_mono net hk
    have hshort := hcut.short
    have henough := h.enough
    omega

/-- A run is cut at one call only. -/
theorem CutAt.unique {k k' : ℕ} (h : CutAt net len k) (h' : CutAt net len k') : k = k' := by
  rcases lt_trichotomy k k' with hlt | heq | hlt
  · exact absurd h.fails (h'.before k hlt)
  · exact heq
  · exact absurd h'.fails (h.before k' hlt)

theorem doneAt_zero : DoneAt net 0 0 := ⟨fun _ hj => absurd hj (Nat.not_lt_zero _), Nat.zero_le _⟩

theorem cutAt_zero (hlen : 0 < len) (h : (net 0).Fails) : CutAt net len 0 :=
  ⟨fun _ hj => absurd hj (Nat.not_lt_zero _), hlen, h⟩

/-- The calls before a cut took nothing exactly when the first call is the one that fails. -/
theorem CutAt.roomOf_eq_zero_iff {k : ℕ} (h : CutAt net len k) :
    roomOf net k = 0 ↔ (net 0).Fails := by
  cases k with
  | zero => exact iff_of_true rfl h.fails
  | succ k =>
    have hfirst := h.before 0 (Nat.succ_pos k)
    have hroom := room_pos hfirst
    refine iff_of_false ?_ hfirst
    rw [roomOf_succ']
    omega

private theorem forall_lt_succ_not_fails {n : ℕ} (h : ¬ (net 0).Fails)
    (hrest : ∀ j < n, ¬ (net (j + 1)).Fails) : ∀ j < n + 1, ¬ (net j).Fails
  | 0, _ => h
  | j + 1, hj => hrest j (Nat.lt_of_succ_lt_succ hj)

/-- After a first call that does not fail, the others take the rest. -/
theorem DoneAt.cons {n : ℕ} (h : ¬ (net 0).Fails)
    (hrest : DoneAt (fun j => net (j + 1)) (len - (net 0).room) n) : DoneAt net len (n + 1) := by
  refine ⟨forall_lt_succ_not_fails h hrest.before, ?_⟩
  have henough := hrest.enough
  rw [roomOf_succ']
  omega

theorem CutAt.cons {k : ℕ} (h : ¬ (net 0).Fails)
    (hrest : CutAt (fun j => net (j + 1)) (len - (net 0).room) k) : CutAt net len (k + 1) := by
  refine ⟨forall_lt_succ_not_fails h hrest.before, ?_, hrest.fails⟩
  have hshort := hrest.short
  rw [roomOf_succ']
  omega

end Net
end DroneFirmware

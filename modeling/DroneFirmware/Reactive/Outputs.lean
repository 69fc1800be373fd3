import DroneFirmware.Reactive.Run

/-!
# What a run writes

A machine whose rounds write values to channels, each write at a time.  Nothing here knows
what the channels drive.

* `outputs`: the outputs of a run, round after round.
* `Write.Waits`: two writes of different values on one channel are a period apart, unless the
  later one brings the channel to rest.
* `waits_iff_last`: in a log that keeps this law, and whose times do not decrease, a new write
  need only look at the last one on its channel.
-/

namespace DroneFirmware
namespace Reactive

universe u v w

/-! ## Outputs -/

section Outputs

variable {σ : Type u} {ι : Type v} {ω : Type w}

/-- The outputs of the rounds of a run, in order. -/
def outputs (step : σ → ι → σ) (out : σ → ι → List ω) : σ → List ι → List ω
  | _, [] => []
  | s, i :: is => out s i ++ outputs step out (step s i) is

variable {step : σ → ι → σ} {out : σ → ι → List ω}

theorem outputs_concat (s : σ) (is : List ι) (i : ι) :
    outputs step out s (is ++ [i]) = outputs step out s is ++ out (run step s is) i := by
  induction is generalizing s with
  | nil => exact List.append_nil _
  | cons j is ih => rw [List.cons_append, outputs, outputs, ih, run_cons, List.append_assoc]

end Outputs

/-! ## Writes -/

section Writes

/-- A value written to a channel. -/
structure Write (κ : Type u) (ν : Type v) where
  time : ℤ
  channel : κ
  value : ν

variable {κ : Type u} {ν : Type v} {d : ℤ} {rest : ν}

/-- A write that changes the value `a` gave the channel to another than `rest` comes `d` after
`a`. -/
def Write.Waits (d : ℤ) (rest : ν) (a b : Write κ ν) : Prop :=
  a.channel = b.channel → a.value ≠ b.value → b.value ≠ rest → a.time + d ≤ b.time

instance [DecidableEq κ] [DecidableEq ν] (a b : Write κ ν) : Decidable (a.Waits d rest b) :=
  inferInstanceAs (Decidable (_ → _))

theorem Write.waits_of_rest {a b : Write κ ν} (h : b.value = rest) : a.Waits d rest b :=
  fun _ _ hb => absurd h hb

/-- Writes that all rest keep the law among themselves. -/
theorem pairwise_waits_of_rest {log : List (Write κ ν)} (h : ∀ b ∈ log, b.value = rest) :
    log.Pairwise (Write.Waits d rest) :=
  List.pairwise_of_forall_mem_list fun _ _ b hb => Write.waits_of_rest (h b hb)

/-- So do writes to different channels. -/
theorem pairwise_waits_of_nodup {log : List (Write κ ν)} (h : (log.map Write.channel).Nodup) :
    log.Pairwise (Write.Waits d rest) :=
  (List.pairwise_map.mp h).imp fun hne hc => absurd hc hne

variable [DecidableEq κ]

/-- The last write on a channel. -/
def lastOn (c : κ) (log : List (Write κ ν)) : Option (Write κ ν) :=
  (log.filter fun a => a.channel = c).getLast?

theorem mem_of_mem_lastOn {c : κ} {log : List (Write κ ν)} {a : Write κ ν}
    (h : a ∈ lastOn c log) : a ∈ log ∧ a.channel = c := by
  have hmem := List.mem_of_getLast? h
  rw [List.mem_filter, decide_eq_true_iff] at hmem
  exact hmem

/-- What the law asks of a new write after the last one on its channel. -/
theorem waits_iff_of_mem_lastOn {log : List (Write κ ν)} {a b : Write κ ν}
    (h : a ∈ lastOn b.channel log) :
    a.Waits d rest b ↔ b.value = rest ∨ a.value = b.value ∨ a.time + d ≤ b.time := by
  have hc := (mem_of_mem_lastOn h).2
  rw [Write.Waits]
  tauto

/-- **The last write decides.**  Whatever came before it on the channel either carries its
value, or was already a period older. -/
theorem waits_iff_last {log : List (Write κ ν)} {b : Write κ ν}
    (hsorted : log.Pairwise fun a a' => a.time ≤ a'.time)
    (hlog : log.Pairwise (Write.Waits d rest)) (hb : ∀ a ∈ log, a.time ≤ b.time) :
    (∀ a ∈ log, a.Waits d rest b) ↔ ∀ a ∈ lastOn b.channel log, a.Waits d rest b := by
  refine ⟨fun h a ha => h a (mem_of_mem_lastOn ha).1, fun h a ha hc hne hrest => ?_⟩
  have hfilter : a ∈ log.filter fun a => a.channel = b.channel := by
    rw [List.mem_filter]
    exact ⟨ha, decide_eq_true hc⟩
  obtain ⟨l, hl⟩ : ∃ l, lastOn b.channel log = some l := by
    rw [lastOn, ← Option.isSome_iff_exists, List.getLast?_isSome]
    exact List.ne_nil_of_mem hfilter
  obtain ⟨earlier, hsplit⟩ := List.getLast?_eq_some_iff.mp hl
  obtain ⟨hlmem, hlc⟩ := mem_of_mem_lastOn hl
  rw [hsplit, List.mem_append, List.mem_singleton] at hfilter
  rcases hfilter with hearlier | rfl
  · -- `a` comes before the last write `l`, and the log relates the two
    have hpair : (earlier ++ [l]).Pairwise fun a a' => a.time ≤ a'.time ∧ a.Waits d rest a' := by
      rw [← hsplit]
      exact (hsorted.and hlog).filter _
    obtain ⟨hle, hwaits⟩ := (List.pairwise_append.mp hpair).2.2 a hearlier l (by simp)
    by_cases hvalue : l.value = b.value
    · have hal := hwaits (hc.trans hlc.symm) (hvalue ▸ hne) (hvalue ▸ hrest)
      exact hal.trans (hb l hlmem)
    · have hlb := h l hl hlc hvalue hrest
      omega
  · exact h a hl hc hne hrest

end Writes

end Reactive
end DroneFirmware

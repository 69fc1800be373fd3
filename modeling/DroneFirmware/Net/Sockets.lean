import DroneFirmware.Reactive.Run

/-!
# Descriptors

A program gets descriptors from the system, uses them in calls, and gives them back.  A log of
such calls is disciplined if every descriptor is open whenever it is used or closed; what is
still open at the end has leaked, unless it is meant to stay.

* `openAfter`: the descriptors that a log leaves open.
* `Disciplined`: no call on a descriptor that is not open.
* `KeepsOpen`: a stretch of a log that is disciplined and leaves open what was open before;
  `KeepsOpen.append` and `keepsOpen_session` are the rules for it.
-/

namespace DroneFirmware
namespace Net

open Reactive

/-- A call, as far as its descriptor goes. -/
inductive SockCall where
  | opened (fd : ℕ)
  | used (fd : ℕ)
  | closed (fd : ℕ)
  deriving DecidableEq

/-- The open descriptors after a call. -/
def SockCall.step (held : Multiset ℕ) : SockCall → Multiset ℕ
  | opened fd => fd ::ₘ held
  | used _ => held
  | closed fd => held.erase fd

/-- The descriptor of the call is open. -/
def SockCall.Legal (held : Multiset ℕ) : SockCall → Prop
  | opened _ => True
  | used fd => fd ∈ held
  | closed fd => fd ∈ held

/-- The open descriptors after a log. -/
def openAfter (log : List SockCall) : Multiset ℕ := run SockCall.step 0 log

/-- Every descriptor is open when it is used or closed. -/
def Disciplined (log : List SockCall) : Prop := Along SockCall.step SockCall.Legal 0 log

/-- A stretch that starts with `held` open: its calls are legal, and `held` is open after it. -/
structure KeepsOpen (held : Multiset ℕ) (stretch : List SockCall) : Prop where
  legal : Along SockCall.step SockCall.Legal held stretch
  same : run SockCall.step held stretch = held

variable {held : Multiset ℕ} {fd : ℕ}

theorem keepsOpen_nil : KeepsOpen held [] := ⟨trivial, rfl⟩

theorem KeepsOpen.append {l l' : List SockCall} (h : KeepsOpen held l) (h' : KeepsOpen held l') :
    KeepsOpen held (l ++ l') := by
  refine ⟨?_, ?_⟩
  · rw [along_append, h.same]
    exact ⟨h.legal, h'.legal⟩
  · rw [run_append, h.same, h'.same]

/-- Calls on an open descriptor. -/
theorem keepsOpen_used (hfd : fd ∈ held) {uses : List SockCall} (h : ∀ c ∈ uses, c = .used fd) :
    KeepsOpen held uses := by
  induction uses with
  | nil => exact keepsOpen_nil
  | cons c uses ih =>
    obtain ⟨hlegal, hsame⟩ := ih fun c' hc' => h c' (List.mem_cons_of_mem c hc')
    obtain rfl := h c (by simp)
    exact ⟨⟨hfd, hlegal⟩, hsame⟩

/-- **A session**: a descriptor is opened, used and closed. -/
theorem keepsOpen_session {uses : List SockCall} (h : ∀ c ∈ uses, c = .used fd) :
    KeepsOpen held (.opened fd :: uses ++ [.closed fd]) := by
  have hopen : fd ∈ fd ::ₘ held := Multiset.mem_cons_self fd held
  obtain ⟨hlegal, hsame⟩ := keepsOpen_used hopen h
  refine ⟨?_, ?_⟩
  · rw [List.cons_append, along_cons, along_append]
    refine ⟨trivial, hlegal, ?_, trivial⟩
    rw [SockCall.step, hsame]
    exact hopen
  · rw [List.cons_append, run_cons, run_append, SockCall.step, hsame]
    exact Multiset.erase_cons_head fd held

/-- **A log that goes on.**  What was disciplined stays so, and leaves the same open. -/
theorem KeepsOpen.after {log stretch : List SockCall} (hlog : Disciplined log)
    (h : KeepsOpen (openAfter log) stretch) :
    Disciplined (log ++ stretch) ∧ openAfter (log ++ stretch) = openAfter log := by
  refine ⟨?_, ?_⟩
  · rw [Disciplined, along_append]
    exact ⟨hlog, h.legal⟩
  · rw [openAfter, run_append]
    exact h.same

end Net
end DroneFirmware

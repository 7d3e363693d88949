import Mathlib.Data.List.Infix

namespace IotMedia.Framework

variable {α κ : Type}

/-- The place from which a reader reads, and how much had ever been written when it came. -/
structure LogReader (κ : Type) where
  label : κ
  start : Nat
  since : Nat
  deriving DecidableEq

/-- A log with readers that index it; `history` is all that was ever written. -/
structure SharedLog (α κ : Type) where
  entries : List α
  readers : List (LogReader κ)
  history : List α

namespace SharedLog

def write (l : SharedLog α κ) (a : α) : SharedLog α κ :=
  { l with
    entries := l.entries++[a]
    history := l.history++[a] }

/-- A reader that comes to a log without readers empties it. -/
def enter (l : SharedLog α κ) (label : κ) : SharedLog α κ :=
  if l.readers=[] then
    { l with
      entries := []
      readers := [⟨label,0,l.history.length⟩] }
  else { l with readers := l.readers++[⟨label,l.entries.length,l.history.length⟩] }

def leave (l : SharedLog α κ) (i : Nat) : SharedLog α κ :=
  { l with readers := l.readers.eraseIdx i }

/-- Each reader finds, from its place on, what has been written since it came. -/
structure Sound (l : SharedLog α κ) : Prop where
  start : ∀ r∈l.readers,r.start ≤ l.entries.length
  since : ∀ r∈l.readers,r.since ≤ l.history.length
  unread : ∀ r∈l.readers,l.entries.drop r.start=l.history.drop r.since

variable {l : SharedLog α κ}

theorem Sound.unused (h : l.readers=[]) : l.Sound := by
  constructor
  all_goals simp [h]

theorem Sound.write (h : l.Sound) (a : α) : (l.write a).Sound := by
  refine ⟨?_,?_,?_⟩
  · intro r hr
    have start := h.start r hr
    simp only [SharedLog.write,List.length_append]
    omega
  · intro r hr
    have since := h.since r hr
    simp only [SharedLog.write,List.length_append]
    omega
  · intro r hr
    simp only [SharedLog.write]
    rw [List.drop_append_of_le_length (h.start r hr),List.drop_append_of_le_length (h.since r hr),
      h.unread r hr]

theorem Sound.enter (h : l.Sound) (label : κ) : (l.enter label).Sound := by
  unfold SharedLog.enter
  split_ifs with empty
  · refine ⟨?_,?_,?_⟩
    all_goals
      intro r hr
      obtain rfl : r=_ := List.mem_singleton.mp hr
      simp
  · refine ⟨?_,?_,?_⟩
    all_goals
      intro r hr
      rcases List.mem_append.mp hr with old|new
    · exact h.start r old
    · obtain rfl : r=_ := List.mem_singleton.mp new
      exact le_rfl
    · exact h.since r old
    · obtain rfl : r=_ := List.mem_singleton.mp new
      exact le_rfl
    · exact h.unread r old
    · obtain rfl : r=_ := List.mem_singleton.mp new
      simp

theorem Sound.leave (h : l.Sound) (i : Nat) : (l.leave i).Sound := by
  have stays : ∀ r∈(l.leave i).readers,r∈l.readers := fun r hr => List.mem_of_mem_eraseIdx hr
  exact ⟨fun r hr => h.start r (stays r hr),fun r hr => h.since r (stays r hr),
    fun r hr => h.unread r (stays r hr)⟩

end SharedLog
end IotMedia.Framework

import Mathlib.Data.List.Basic
import Mathlib.Tactic.SplitIfs

namespace IotMedia.Framework

variable {α β : Type}

/-- A first-in-first-out line whose items are turned into outputs: all that was appended is the
items taken, in order one for each output, and then the items still waiting. `out k a b` says
that `b` may be the output for `a` as the `k`-th item. -/
def Conserves (out : Nat → α → β → Prop) (appended waiting : List α) (consumed : List β) : Prop :=
  ∃ taken,appended=taken++waiting ∧ taken.length=consumed.length ∧
    ∀ (k : Nat) (a : α) (b : β),taken[k]?=some a → consumed[k]?=some b → out k a b

variable {out : Nat → α → β → Prop} {appended waiting as : List α} {consumed bs : List β}

theorem Conserves.empty : Conserves out [] [] [] := ⟨[],rfl,rfl,fun k a b h => by simp at h⟩

theorem Conserves.append (h : Conserves out appended waiting consumed) (as : List α) :
    Conserves out (appended++as) (waiting++as) consumed := by
  obtain ⟨taken,split,length,outs⟩ := h
  refine ⟨taken,?_,length,outs⟩
  rw [split,List.append_assoc]

/-- The first items leave the line, each with its output. -/
theorem Conserves.drain (h : Conserves out appended (as++waiting) consumed)
    (hl : as.length=bs.length)
    (ho : ∀ (k : Nat) (a : α) (b : β),as[k]?=some a → bs[k]?=some b →
      out (consumed.length+k) a b) :
    Conserves out appended waiting (consumed++bs) := by
  obtain ⟨taken,split,length,outs⟩ := h
  refine ⟨taken++as,?_,?_,?_⟩
  · rw [split,List.append_assoc]
  · simp only [List.length_append,length,hl]
  · intro k a b ha hb
    by_cases hk : k < consumed.length
    · rw [List.getElem?_append_left (by omega)] at ha
      rw [List.getElem?_append_left hk] at hb
      exact outs k a b ha hb
    · rw [List.getElem?_append_right (by omega)] at ha
      rw [List.getElem?_append_right (by omega)] at hb
      rw [length] at ha
      have index : k=consumed.length+(k-consumed.length) := by omega
      rw [index]
      exact ho (k-consumed.length) a b ha hb

theorem Conserves.consume {a : α} {b : β} (h : Conserves out appended (a::waiting) consumed)
    (ho : out consumed.length a b) : Conserves out appended waiting (consumed++[b]) := by
  have first : Conserves out appended ([a]++waiting) consumed := h
  apply first.drain rfl
  intro k x y hx hy
  cases k with
  | zero =>
    cases Option.some.inj hx
    cases Option.some.inj hy
    exact ho
  | succ k => simp at hx

/-- The length of the line is what was appended and did not leave. -/
theorem Conserves.length (h : Conserves out appended waiting consumed) :
    appended.length=consumed.length+waiting.length := by
  obtain ⟨taken,split,length,-⟩ := h
  rw [split,List.length_append,length]

/-- The item that an output is for. -/
theorem Conserves.output {k : Nat} {b : β} (h : Conserves out appended waiting consumed)
    (hb : consumed[k]?=some b) : ∃ a,appended[k]?=some a ∧ out k a b := by
  obtain ⟨taken,split,length,outs⟩ := h
  have bound : k < taken.length := by
    rw [length]
    exact (List.getElem?_eq_some_iff.mp hb).1
  refine ⟨taken[k],?_,outs k taken[k] b (List.getElem?_eq_getElem bound) hb⟩
  rw [split,List.getElem?_append_left bound]
  exact List.getElem?_eq_getElem bound

/-- What goes on with a prefix. -/
theorem prefix_snoc_iff {b : α} {written sequence : List α} (h : written <+: sequence) :
    written++[b] <+: sequence ↔ sequence[written.length]?=some b := by
  obtain ⟨rest,rfl⟩ := h
  rw [List.prefix_append_right_inj,List.getElem?_append_right (Nat.le_refl _),Nat.sub_self]
  cases rest with
  | nil => simp
  | cons c rest => simpa [List.cons_prefix_cons] using eq_comm

section Places

/-! Items of several origins in one line: the last place of an origin. -/

variable {origins : List α} {a origin : α} {k n : Nat}

def LastAt (origins : List α) (a : α) (k : Nat) : Prop :=
  origins[k]?=some a ∧ ∀ j : Nat,origins[j]?=some a → j ≤ k

theorem getElem?_append_replicate :
    (origins++List.replicate n origin)[k]?=some a ↔
      origins[k]?=some a ∨ origin=a ∧ origins.length ≤ k ∧ k < origins.length+n := by
  by_cases hk : k < origins.length
  · rw [List.getElem?_append_left hk]
    simp [Nat.not_le.mpr hk]
  · have outside : origins[k]?=none := List.getElem?_eq_none (by omega)
    rw [List.getElem?_append_right (by omega),List.getElem?_replicate,outside]
    split_ifs with hn
    · have inside : origins.length ≤ k ∧ k < origins.length+n := by omega
      simp [inside]
    · have outer : ¬(origins.length ≤ k ∧ k < origins.length+n) := by omega
      simp [outer]

/-- Items of another origin do not move it. -/
theorem LastAt.append (h : LastAt origins a k) (hne : origin≠a) :
    LastAt (origins++List.replicate n origin) a k := by
  constructor
  · exact getElem?_append_replicate.mpr (Or.inl h.1)
  · intro j hj
    rcases getElem?_append_replicate.mp hj with old|⟨same,-⟩
    · exact h.2 j old
    · exact absurd same hne

/-- New items of the origin: the last of them is. -/
theorem lastAt_replicate (hn : 0 < n) :
    LastAt (origins++List.replicate n a) a (origins.length+n-1) := by
  constructor
  · exact getElem?_append_replicate.mpr (Or.inr ⟨rfl,by omega,by omega⟩)
  · intro j hj
    rcases getElem?_append_replicate.mp hj with old|⟨-,-,bound⟩
    · have inside := (List.getElem?_eq_some_iff.mp old).1
      omega
    · omega

end Places

end IotMedia.Framework

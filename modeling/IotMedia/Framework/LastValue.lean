import Mathlib.Data.List.Forall2

namespace IotMedia.Framework

variable {α β κ ν : Type} {holds : α → κ → ν → Prop} {holds' : β → κ → ν → Prop}

/-- The value of a key in the last item of a history that has the key. -/
def LastValue (holds : α → κ → ν → Prop) : List α → κ → ν → Prop
  | [],_,_ => False
  | a::as,k,v => LastValue holds as k v ∨ holds a k v ∧ ∀ b∈as,∀ u,¬holds b k u

variable {as : List α} {bs : List β} {k : κ} {v c : ν}

theorem absent_iff (same : List.Forall₂ (fun a b => ∀ v,holds a k v ↔ holds' b k v) as bs) :
    (∀ a∈as,∀ u,¬holds a k u) ↔ ∀ b∈bs,∀ u,¬holds' b k u := by
  induction same with
  | nil => simp
  | cons first _ ih => simp only [List.forall_mem_cons,ih,first]

/-- Histories that agree on a key, item by item, have the same last value. -/
theorem lastValue_congr (same : List.Forall₂ (fun a b => ∀ v,holds a k v ↔ holds' b k v) as bs) :
    LastValue holds as k v ↔ LastValue holds' bs k v := by
  induction same with
  | nil => exact Iff.rfl
  | cons first rest ih => rw [LastValue,LastValue,ih,first,absent_iff rest]

/-- A key that every item has with the same one value. -/
theorem lastValue_const (same : ∀ a∈as,∀ u,holds a k u ↔ u=c) :
    LastValue holds as k v ↔ as≠[] ∧ v=c := by
  induction as with
  | nil => simp [LastValue]
  | cons a as ih =>
    obtain ⟨first,rest⟩ := List.forall_mem_cons.mp same
    rw [LastValue,ih rest,first]
    cases as with
    | nil => simp
    | cons b as =>
      constructor
      · rintro (⟨-,eq⟩|⟨eq,-⟩) <;> exact ⟨List.cons_ne_nil _ _,eq⟩
      · rintro ⟨-,eq⟩
        exact .inl ⟨List.cons_ne_nil _ _,eq⟩

end IotMedia.Framework

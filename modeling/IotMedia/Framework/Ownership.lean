import Mathlib.Data.Set.Insert
import Mathlib.Data.List.Basic

namespace IotMedia.Framework

/-- What happens to a resource: it is handed to a holder, given back, or destroyed. -/
inductive OwnEvent (R : Type)
  | acquire (r : R)
  | release (r : R)
  | destroy (r : R)

variable {R : Type}

/-- No resource is handed out again or destroyed between a hand-out and its release. -/
def Exclusive (tr : List (OwnEvent R)) : Prop :=
  ∀ pre mid post r e,tr=pre++.acquire r::(mid++e::post) →
    (e=.acquire r ∨ e=.destroy r) → .release r∈mid

/-- The pool: a resource is acquired or destroyed only while nobody holds it. -/
inductive Pool : Set R → List (OwnEvent R) → Set R → Prop
  | nil (S : Set R) : Pool S [] S
  | acquire {S T : Set R} {tr : List (OwnEvent R)} {r : R} :
      Pool S tr T → r∉T → Pool S (tr++[.acquire r]) (insert r T)
  | release {S T : Set R} {tr : List (OwnEvent R)} {r : R} :
      Pool S tr T → Pool S (tr++[.release r]) (T \ {r})
  | destroy {S T : Set R} {tr : List (OwnEvent R)} {r : R} :
      Pool S tr T → r∉T → Pool S (tr++[.destroy r]) T

/-- An entry of an extended trace is the new one, or an entry of the old trace. -/
theorem snoc_split {A : Type} {tr pre mid : List A} {a e : A} (h : tr++[e]=pre++a::mid) :
    (mid=[] ∧ tr=pre ∧ e=a) ∨ ∃ mid',mid=mid'++[e] ∧ tr=pre++a::mid' := by
  rcases List.eq_nil_or_concat mid with rfl|⟨mid',f,rfl⟩
  · have last := List.append_inj' h rfl
    exact Or.inl ⟨rfl,last.1,by simpa using last.2⟩
  · have hs : tr++[e]=(pre++a::mid')++[f] := by simpa using h
    have last := List.append_inj' hs rfl
    have hf : e=f := by simpa using last.2
    exact Or.inr ⟨mid',by simp [hf],last.1⟩

/-- A resource handed out and not given back since is held. -/
theorem Pool.held {S T : Set R} {tr pre mid : List (OwnEvent R)} {r : R}
    (h : Pool S tr T) (he : tr=pre++.acquire r::mid) (hn : .release r∉mid) : r∈T := by
  induction h generalizing mid with
  | nil => simp at he
  | @acquire T tr q hp hq ih =>
    rcases snoc_split he with ⟨-,-,last⟩|⟨mid',rfl,htr⟩
    · obtain rfl : q=r := by simpa using last
      exact Set.mem_insert q T
    · exact Set.mem_insert_of_mem q (ih htr (fun hm => hn (List.mem_append_left _ hm)))
  | @release T tr q hp ih =>
    rcases snoc_split he with ⟨-,-,last⟩|⟨mid',rfl,htr⟩
    · cases last
    · refine ⟨ih htr (fun hm => hn (List.mem_append_left _ hm)),?_⟩
      intro hr
      obtain rfl : r=q := hr
      exact hn (by simp)
  | @destroy T tr q hp hq ih =>
    rcases snoc_split he with ⟨-,-,last⟩|⟨mid',rfl,htr⟩
    · cases last
    · exact ih htr (fun hm => hn (List.mem_append_left _ hm))

theorem exclusive_snoc {tr : List (OwnEvent R)} {e : OwnEvent R} (h : Exclusive tr)
    (hl : ∀ pre mid r,tr=pre++.acquire r::mid → (e=.acquire r ∨ e=.destroy r) →
      .release r∈mid) : Exclusive (tr++[e]) := by
  intro pre mid post r f he hf
  have hs : tr++[e]=(pre++.acquire r::mid)++f::post := by simpa using he
  rcases snoc_split hs with ⟨-,htr,rfl⟩|⟨post',-,htr⟩
  · exact hl pre mid r htr hf
  · exact h pre mid post' r f (by simpa using htr) hf

/-- Every history of the pool is exclusive. -/
theorem Pool.exclusive {S T : Set R} {tr : List (OwnEvent R)} (h : Pool S tr T) :
    Exclusive tr := by
  induction h with
  | nil =>
    intro pre mid post r e he
    simp at he
  | @acquire T tr q hp hq ih =>
    refine exclusive_snoc ih ?_
    intro pre mid r he hr
    obtain rfl : q=r := by simpa using hr
    by_contra hn
    exact hq (hp.held he hn)
  | release hp ih =>
    refine exclusive_snoc ih ?_
    intro pre mid r he hr
    simp at hr
  | @destroy T tr q hp hq ih =>
    refine exclusive_snoc ih ?_
    intro pre mid r he hr
    obtain rfl : q=r := by simpa using hr
    by_contra hn
    exact hq (hp.held he hn)

/-- A resource held at the end was held at the start, or handed out and not given back. -/
theorem Pool.outstanding {S T : Set R} {tr : List (OwnEvent R)} {r : R} (h : Pool S tr T)
    (hr : r∈T) : r∈S ∨ ∃ pre mid,tr=pre++.acquire r::mid ∧ .release r∉mid := by
  induction h with
  | nil => exact Or.inl hr
  | @acquire T tr q hp hq ih =>
    rcases Set.mem_insert_iff.mp hr with rfl|hr
    · exact Or.inr ⟨tr,[],rfl,by simp⟩
    · rcases ih hr with hs|⟨pre,mid,rfl,hm⟩
      · exact Or.inl hs
      · exact Or.inr ⟨pre,mid++[.acquire q],by simp,by simpa using hm⟩
  | @release T tr q hp ih =>
    have hne : r≠q := hr.2
    rcases ih hr.1 with hs|⟨pre,mid,rfl,hm⟩
    · exact Or.inl hs
    · exact Or.inr ⟨pre,mid++[.release q],by simp,by simp [hm,hne]⟩
  | @destroy T tr q hp hq ih =>
    rcases ih hr with hs|⟨pre,mid,rfl,hm⟩
    · exact Or.inl hs
    · exact Or.inr ⟨pre,mid++[.destroy q],by simp,by simpa using hm⟩

theorem Pool.trans {S T U : Set R} {tr tr' : List (OwnEvent R)} (h : Pool S tr T)
    (h' : Pool T tr' U) : Pool S (tr++tr') U := by
  induction h' with
  | nil => simpa using h
  | acquire _ hr ih => rw [← List.append_assoc]; exact .acquire ih hr
  | release _ ih => rw [← List.append_assoc]; exact .release ih
  | destroy _ hr ih => rw [← List.append_assoc]; exact .destroy ih hr

/-- While nothing is held, any resources may be destroyed. -/
theorem Pool.destroyAll {S : Set R} (rs : List R) (hs : ∀ r∈rs,r∉S) :
    Pool S (rs.map .destroy) S := by
  induction rs with
  | nil => exact .nil S
  | cons r rs ih =>
    have first : Pool S ([]++[OwnEvent.destroy r]) S := .destroy (.nil S) (hs r (by simp))
    exact first.trans (ih (fun q hq => hs q (by simp [hq])))

end IotMedia.Framework

import Mathlib.Data.List.Basic
import Mathlib.Data.List.Pairwise
import Mathlib.Data.List.Perm.Basic
import Mathlib.Tactic.SplitIfs

namespace IotMedia.Framework

/-! Two sets of flags in two words, and a table that pairs flags of the one with flags of the
other. A word is translated by the join of the partners of the flags that it meets. -/

variable {n m : Nat}

/-- The two words have a bit in common. -/
def Meets (a x : BitVec n) : Prop := a &&& x≠0#n

instance (a x : BitVec n) : Decidable (Meets a x) := inferInstanceAs (Decidable (_≠_))

theorem exists_bit {a : BitVec n} (h : a≠0#n) : ∃ i,a.getLsbD i=true := by
  by_contra none_
  refine h (BitVec.eq_of_getLsbD_eq fun i _ => ?_)
  rw [BitVec.getLsbD_zero]
  by_contra bit
  exact none_ ⟨i,by simpa using bit⟩

theorem meets_iff {a x : BitVec n} :
    Meets a x ↔ ∃ i,a.getLsbD i=true ∧ x.getLsbD i=true := by
  unfold Meets
  constructor
  · intro h
    obtain ⟨i,both⟩ := exists_bit h
    exact ⟨i,by simpa using both⟩
  · rintro ⟨i,ha,hx⟩ zero
    have bit := congrArg (BitVec.getLsbD · i) zero
    simp [ha,hx] at bit

abbrev FlagMap (n m : Nat) := List (BitVec n × BitVec m)

namespace FlagMap

def translate (map : FlagMap n m) (x : BitVec n) : BitVec m :=
  map.foldl (fun acc it => if it.1 &&& x≠0#n then acc ||| it.2 else acc) 0#m

/-- The table read the other way. -/
def back (map : FlagMap n m) : FlagMap m n := map.map Prod.swap

/-- No two entries share a bit on the right, and each has one. -/
structure Separated (map : FlagMap n m) : Prop where
  disjoint : (map.map Prod.snd).Pairwise fun a b => ¬Meets a b
  nonzero : ∀ a∈map.map Prod.snd,a≠0#m

variable {map : FlagMap n m} {x y : BitVec n} {p : BitVec n × BitVec m}

theorem getLsbD_translate (map : FlagMap n m) (x : BitVec n) (i : Nat) :
    (map.translate x).getLsbD i=true ↔ ∃ p∈map,Meets p.1 x ∧ p.2.getLsbD i=true := by
  have fold (acc : BitVec m) :
      (map.foldl (fun acc it => if it.1 &&& x≠0#n then acc ||| it.2 else acc) acc).getLsbD i=true ↔
        acc.getLsbD i=true ∨ ∃ p∈map,Meets p.1 x ∧ p.2.getLsbD i=true := by
    induction map generalizing acc with
    | nil => simp
    | cons q map ih =>
      rw [List.foldl_cons,ih]
      by_cases meets : Meets q.1 x
      · rw [if_pos (show q.1 &&& x≠0#n from meets)]
        simp [meets,or_assoc]
      · rw [if_neg (show ¬q.1 &&& x≠0#n from meets)]
        simp [meets]
  rw [translate,fold,BitVec.getLsbD_zero]
  simp

/-- The order of the entries does not matter. -/
theorem translate_perm {map' : FlagMap n m} (h : map.Perm map') (x : BitVec n) :
    map.translate x=map'.translate x := by
  refine BitVec.eq_of_getLsbD_eq fun i _ => ?_
  rw [Bool.eq_iff_iff,getLsbD_translate,getLsbD_translate]
  simp [h.mem_iff]

/-- Words that touch the same flags are translated alike. -/
theorem translate_congr (h : ∀ p∈map,Meets p.1 x ↔ Meets p.1 y) :
    map.translate x=map.translate y := by
  refine BitVec.eq_of_getLsbD_eq fun i _ => ?_
  rw [Bool.eq_iff_iff,getLsbD_translate,getLsbD_translate]
  constructor
  · rintro ⟨p,hp,meets,bit⟩
    exact ⟨p,hp,(h p hp).mp meets,bit⟩
  · rintro ⟨p,hp,meets,bit⟩
    exact ⟨p,hp,(h p hp).mpr meets,bit⟩

/-- The full word touches every flag. -/
theorem translate_allOnes (h : ∀ a∈map.map Prod.fst,a≠0#n) :
    map.translate (BitVec.allOnes n)=(map.map Prod.snd).foldl (·|||·) 0#m := by
  unfold translate
  generalize 0#m=acc
  induction map generalizing acc with
  | nil => rfl
  | cons p map ih =>
    have first : p.1≠0#n := h p.1 List.mem_cons_self
    rw [List.foldl_cons,List.map_cons,List.foldl_cons,BitVec.and_allOnes,if_pos first]
    exact ih (fun a ha => h a (List.mem_cons_of_mem _ ha)) _

theorem Separated.apart (h : map.Separated) {q : BitVec n × BitVec m} (hp : p∈map) (hq : q∈map)
    (meets : Meets p.2 q.2) : p=q := by
  by_contra differ
  have symmetric : Std.Symm fun p q : BitVec n × BitVec m => ¬Meets p.2 q.2 := by
    refine ⟨fun a b none_ => ?_⟩
    rwa [Meets,BitVec.and_comm]
  exact (List.pairwise_map.mp h.disjoint).forall hp hq differ meets

/-- The translation shows which flags a word meets. -/
theorem Separated.meets (h : map.Separated) (hp : p∈map) :
    Meets p.2 (map.translate x) ↔ Meets p.1 x := by
  constructor
  · intro meets
    obtain ⟨i,hi,bit⟩ := meets_iff.mp meets
    obtain ⟨q,hq,hx,hqi⟩ := (getLsbD_translate map x i).mp bit
    obtain rfl := h.apart hp hq (meets_iff.mpr ⟨i,hi,hqi⟩)
    exact hx
  · intro meets
    obtain ⟨i,hi⟩ := exists_bit (h.nonzero p.2 (List.mem_map_of_mem hp))
    exact meets_iff.mpr ⟨i,hi,(getLsbD_translate map x i).mpr ⟨p,hp,meets,hi⟩⟩

theorem mem_back {p : BitVec m × BitVec n} : p∈map.back ↔ p.swap∈map := by
  constructor
  · intro h
    obtain ⟨q,hq,rfl⟩ := List.mem_map.mp h
    exact hq
  · intro h
    exact List.mem_map.mpr ⟨p.swap,h,rfl⟩

/-- There and back: the flags that the word meets. -/
theorem Separated.there_back (h : map.Separated) (x : BitVec n) (i : Nat) :
    (map.back.translate (map.translate x)).getLsbD i=true ↔
      ∃ p∈map,Meets p.1 x ∧ p.1.getLsbD i=true := by
  rw [getLsbD_translate]
  constructor
  · rintro ⟨p,hp,meets,bit⟩
    exact ⟨p.swap,mem_back.mp hp,(h.meets (mem_back.mp hp)).mp meets,bit⟩
  · rintro ⟨p,hp,meets,bit⟩
    exact ⟨p.swap,mem_back.mpr hp,(h.meets hp).mpr meets,bit⟩

/-- With flags of one bit each, these are the bits of the word that the table knows. -/
theorem Separated.there_back_mask (h : map.Separated)
    (single : ∀ a∈map.map Prod.fst,∃ k : Fin n,a=BitVec.twoPow n k) (x : BitVec n) :
    map.back.translate (map.translate x)=
      x &&& map.back.translate (BitVec.allOnes m) := by
  have one {p : BitVec n × BitVec m} (hp : p∈map) : ∃ k,∀ j,p.1.getLsbD j=true → j=k := by
    obtain ⟨k,power⟩ := single p.1 (List.mem_map_of_mem hp)
    refine ⟨k,fun j bit => ?_⟩
    rw [power,BitVec.getLsbD_twoPow] at bit
    have both : k.val<n ∧ k.val=j := by simpa using bit
    exact both.2.symm
  refine BitVec.eq_of_getLsbD_eq fun i inside => ?_
  rw [Bool.eq_iff_iff,h.there_back,BitVec.getLsbD_and,Bool.and_eq_true,getLsbD_translate]
  constructor
  · rintro ⟨p,hp,meets,bit⟩
    obtain ⟨k,only⟩ := one hp
    obtain ⟨j,hj,hx⟩ := meets_iff.mp meets
    rw [only i bit]
    rw [only j hj] at hx
    refine ⟨hx,p.swap,mem_back.mpr hp,?_,by rw [← only i bit]; exact bit⟩
    obtain ⟨l,hl⟩ := exists_bit (h.nonzero p.2 (List.mem_map_of_mem hp))
    have bound := BitVec.lt_of_getLsbD hl
    exact meets_iff.mpr ⟨l,hl,by simp [bound]⟩
  · rintro ⟨hx,p,hp,-,bit⟩
    exact ⟨p.swap,mem_back.mp hp,meets_iff.mpr ⟨i,bit,hx⟩,bit⟩

/-- Once translated there and back, nothing more is lost. -/
theorem Separated.stable (h : map.Separated) (back : map.back.Separated) (x : BitVec n) :
    map.translate (map.back.translate (map.translate x))=map.translate x := by
  refine translate_congr fun p hp => ?_
  have here : p.swap∈map.back := mem_back.mpr hp
  rw [show Meets p.1 (map.back.translate (map.translate x)) ↔ _ from back.meets here]
  exact h.meets hp

end FlagMap
end IotMedia.Framework

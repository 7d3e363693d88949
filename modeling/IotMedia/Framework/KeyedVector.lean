import Mathlib.Order.Lattice
import Mathlib.Data.List.Basic
import Mathlib.Tactic.SplitIfs

namespace IotMedia.Framework

variable {K V : Type} [LinearOrder K]

/-- A vector of pairs kept in strictly increasing key order. -/
@[ext] structure KeyedVector (K V : Type) [LinearOrder K] where
  items : List (K×V)
  sorted : (items.map Prod.fst).Pairwise (· < ·)

namespace KeyedVector

instance [DecidableEq V] : DecidableEq (KeyedVector K V) := fun a b =>
  decidable_of_iff (a.items=b.items) ⟨fun h => KeyedVector.ext h,fun h => h ▸ rfl⟩

def empty : KeyedVector K V := ⟨[],List.Pairwise.nil⟩

def keys (m : KeyedVector K V) : List K := m.items.map Prod.fst

def lookupItem (k : K) : List (K×V) → Option V
  | [] => none
  | p::ps => if p.1=k then some p.2 else lookupItem k ps

def valueFor (m : KeyedVector K V) (k : K) : Option V := lookupItem k m.items

def insertItem (k : K) (v : V) : List (K×V) → List (K×V)
  | [] => [(k,v)]
  | p::ps => if k<p.1 then (k,v)::p::ps
      else if k=p.1 then (k,v)::ps
      else p::insertItem k v ps

def replaceItem (k : K) (v : V) : List (K×V) → List (K×V)
  | [] => []
  | p::ps => (if p.1=k then (k,v) else p)::replaceItem k v ps

def dropItem (k : K) (ps : List (K×V)) : List (K×V) := ps.filter fun p => p.1≠k

theorem mem_insertItem_keys (k : K) (v : V) (ps : List (K×V)) (q : K) :
    q∈(insertItem k v ps).map Prod.fst ↔ q=k ∨ q∈ps.map Prod.fst := by
  induction ps with
  | nil => simp [insertItem]
  | cons p ps ih =>
    rw [insertItem]
    split_ifs with hlt heq
    · simp
    · simp [heq]
    · simp only [List.map_cons,List.mem_cons,ih]
      tauto

theorem insertItem_sorted (k : K) (v : V) (ps : List (K×V))
    (h : (ps.map Prod.fst).Pairwise (· < ·)) :
    ((insertItem k v ps).map Prod.fst).Pairwise (· < ·) := by
  induction ps with
  | nil => simp [insertItem]
  | cons p ps ih =>
    obtain ⟨hp,hps⟩ := List.pairwise_cons.mp h
    rw [insertItem]
    split_ifs with hlt heq
    · refine List.pairwise_cons.mpr ⟨?_,h⟩
      intro q hq
      rcases List.mem_cons.mp hq with rfl|hq
      · exact hlt
      · exact hlt.trans (hp q hq)
    · refine List.pairwise_cons.mpr ⟨?_,hps⟩
      rw [heq]
      exact hp
    · refine List.pairwise_cons.mpr ⟨?_,ih hps⟩
      intro q hq
      rcases (mem_insertItem_keys k v ps q).mp hq with rfl|hq
      · exact lt_of_le_of_ne (le_of_not_gt hlt) (Ne.symm heq)
      · exact hp q hq

theorem replaceItem_keys (k : K) (v : V) (ps : List (K×V)) :
    (replaceItem k v ps).map Prod.fst=ps.map Prod.fst := by
  induction ps with
  | nil => rfl
  | cons p ps ih =>
    simp only [replaceItem,List.map_cons,ih]
    split_ifs with h <;> simp [h]

/-- Insertion at the key's place; an existing entry of the key is replaced. -/
def add (m : KeyedVector K V) (k : K) (v : V) : KeyedVector K V :=
  ⟨insertItem k v m.items,insertItem_sorted k v m.items m.sorted⟩

/-- Overwrites the value of a key that is present; any other key changes nothing. -/
def replaceValueFor (m : KeyedVector K V) (k : K) (v : V) : KeyedVector K V :=
  ⟨replaceItem k v m.items,by rw [replaceItem_keys]; exact m.sorted⟩

def removeItem (m : KeyedVector K V) (k : K) : KeyedVector K V :=
  ⟨dropItem k m.items,m.sorted.sublist (List.filter_sublist.map Prod.fst)⟩

def mapValues (m : KeyedVector K V) (f : K → V → V) : KeyedVector K V :=
  ⟨m.items.map fun p => (p.1,f p.1 p.2),by
    have same : (m.items.map fun p => (p.1,f p.1 p.2)).map Prod.fst=m.items.map Prod.fst := by
      rw [List.map_map]
      rfl
    rw [same]
    exact m.sorted⟩

/-- The first key, in key order, whose value meets `p`. -/
def firstKeyWhere (m : KeyedVector K V) (p : V → Bool) : Option K :=
  (m.items.find? fun e => p e.2).map Prod.fst

def countWhere (m : KeyedVector K V) (p : V → Bool) : Nat := m.items.countP fun e => p e.2

@[simp] theorem valueFor_empty (k : K) : (empty : KeyedVector K V).valueFor k=none := rfl
@[simp] theorem countWhere_empty (p : V → Bool) : (empty : KeyedVector K V).countWhere p=0 := rfl
@[simp] theorem keys_empty : (empty : KeyedVector K V).keys=[] := rfl

theorem keys_nodup (m : KeyedVector K V) : m.keys.Nodup :=
  m.sorted.imp ne_of_lt

@[simp] theorem keys_replaceValueFor (m : KeyedVector K V) (k : K) (v : V) :
    (m.replaceValueFor k v).keys=m.keys := replaceItem_keys k v m.items

@[simp] theorem mem_keys_add (m : KeyedVector K V) (k : K) (v : V) (q : K) :
    q∈(m.add k v).keys ↔ q=k ∨ q∈m.keys := mem_insertItem_keys k v m.items q

@[simp] theorem mem_keys_removeItem (m : KeyedVector K V) (k q : K) :
    q∈(m.removeItem k).keys ↔ q≠k ∧ q∈m.keys := by
  simp only [keys,removeItem,dropItem,List.mem_map,List.mem_filter,decide_not]
  constructor
  · rintro ⟨p,⟨hp,hk⟩,rfl⟩
    exact ⟨by simpa using hk,p,hp,rfl⟩
  · rintro ⟨hk,p,hp,rfl⟩
    exact ⟨p,⟨hp,by simpa using hk⟩,rfl⟩

theorem lookupItem_none (k : K) (ps : List (K×V)) :
    lookupItem k ps=none ↔ k∉ps.map Prod.fst := by
  induction ps with
  | nil => simp [lookupItem]
  | cons p ps ih =>
    rw [lookupItem]
    split_ifs with h
    · simp [h]
    · simp only [ih,List.map_cons,List.mem_cons,not_or]
      exact ⟨fun hn => ⟨Ne.symm h,hn⟩,And.right⟩

theorem valueFor_none (m : KeyedVector K V) (k : K) : m.valueFor k=none ↔ k∉m.keys :=
  lookupItem_none k m.items

theorem mem_keys_iff (m : KeyedVector K V) (k : K) : k∈m.keys ↔ ∃ v,m.valueFor k=some v := by
  rw [← not_iff_not,← valueFor_none,← Option.not_isSome_iff_eq_none,Option.isSome_iff_exists]

theorem lookupItem_insertItem (k : K) (v : V) (ps : List (K×V)) (q : K) :
    lookupItem q (insertItem k v ps)=if q=k then some v else lookupItem q ps := by
  induction ps with
  | nil => simp [insertItem,lookupItem,eq_comm]
  | cons p ps ih =>
    rw [insertItem]
    by_cases hlt : k<p.1
    · by_cases hq : q=k
      · simp [hlt,lookupItem,hq]
      · simp [hlt,lookupItem,hq,Ne.symm hq]
    by_cases heq : k=p.1
    · by_cases hq : q=k
      · simp [← heq,lookupItem,hq]
      · simp [← heq,lookupItem,hq,Ne.symm hq]
    rw [if_neg hlt,if_neg heq,lookupItem,lookupItem,ih]
    by_cases hq : q=k
    · simp [hq,Ne.symm heq]
    · simp [hq]

@[simp] theorem valueFor_add (m : KeyedVector K V) (k : K) (v : V) (q : K) :
    (m.add k v).valueFor q=if q=k then some v else m.valueFor q :=
  lookupItem_insertItem k v m.items q

theorem lookupItem_replaceItem (k : K) (v : V) (ps : List (K×V)) (q : K) :
    lookupItem q (replaceItem k v ps)=
      if q=k then (lookupItem k ps).map fun _ => v else lookupItem q ps := by
  induction ps with
  | nil => simp [replaceItem,lookupItem]
  | cons p ps ih =>
    rw [replaceItem,lookupItem,ih]
    by_cases hq : q=k
    · subst q
      by_cases hp : p.1=k <;> simp [hp,lookupItem]
    · by_cases hp : p.1=k
      · simp [hp,hq,Ne.symm hq,lookupItem]
      · simp [hp,hq,lookupItem]

@[simp] theorem valueFor_replaceValueFor (m : KeyedVector K V) (k : K) (v : V) (q : K) :
    (m.replaceValueFor k v).valueFor q=
      if q=k then (m.valueFor k).map fun _ => v else m.valueFor q :=
  lookupItem_replaceItem k v m.items q

theorem lookupItem_dropItem (k : K) (ps : List (K×V)) (q : K) :
    lookupItem q (dropItem k ps)=if q=k then none else lookupItem q ps := by
  induction ps with
  | nil => simp [dropItem,lookupItem]
  | cons p ps ih =>
    rw [dropItem,List.filter_cons]
    by_cases hp : p.1=k
    · simp only [hp,ne_eq,not_true_eq_false,decide_false,Bool.false_eq_true,if_false]
      change lookupItem q (dropItem k ps)=_
      rw [ih,lookupItem]
      by_cases hq : q=k
      · simp [hq]
      · simp [hq,Ne.symm hq,hp]
    · simp only [hp,ne_eq,not_false_eq_true,decide_true,if_true]
      change lookupItem q (p::dropItem k ps)=_
      rw [lookupItem,lookupItem,ih]
      by_cases hq : q=k
      · simp [hq,hp]
      · simp [hq]

@[simp] theorem valueFor_removeItem (m : KeyedVector K V) (k q : K) :
    (m.removeItem k).valueFor q=if q=k then none else m.valueFor q :=
  lookupItem_dropItem k m.items q

theorem lookupItem_mem {k : K} {v : V} {ps : List (K×V)} (h : lookupItem k ps=some v) :
    (k,v)∈ps := by
  induction ps with
  | nil => simp [lookupItem] at h
  | cons p ps ih =>
    rw [lookupItem] at h
    split_ifs at h with hp
    · obtain rfl : p.2=v := by simpa using h
      simp [← hp]
    · exact List.mem_cons_of_mem _ (ih h)

theorem lookupItem_of_mem {k : K} {v : V} {ps : List (K×V)}
    (hs : (ps.map Prod.fst).Pairwise (· < ·)) (h : (k,v)∈ps) : lookupItem k ps=some v := by
  induction ps with
  | nil => simp at h
  | cons p ps ih =>
    obtain ⟨hp,hps⟩ := List.pairwise_cons.mp hs
    rw [lookupItem]
    rcases List.mem_cons.mp h with rfl|hm
    · simp
    · have hk : p.1<k := hp k (List.mem_map.mpr ⟨(k,v),hm,rfl⟩)
      rw [if_neg hk.ne]
      exact ih hps hm

theorem valueFor_eq_some (m : KeyedVector K V) (k : K) (v : V) :
    m.valueFor k=some v ↔ (k,v)∈m.items :=
  ⟨lookupItem_mem,lookupItem_of_mem m.sorted⟩

theorem firstKeyWhere_some {m : KeyedVector K V} {p : V → Bool} {k : K}
    (h : m.firstKeyWhere p=some k) : ∃ v,m.valueFor k=some v ∧ p v=true := by
  obtain ⟨e,he,rfl⟩ := Option.map_eq_some_iff.mp h
  exact ⟨e.2,(m.valueFor_eq_some e.1 e.2).mpr (List.mem_of_find?_eq_some he),
    by simpa using List.find?_some he⟩

theorem firstKeyWhere_none {m : KeyedVector K V} {p : V → Bool}
    (h : m.firstKeyWhere p=none) (k : K) (v : V) (hk : m.valueFor k=some v) : p v=false := by
  have hn := List.find?_eq_none.mp (Option.map_eq_none_iff.mp h) (k,v)
    ((m.valueFor_eq_some k v).mp hk)
  simpa using hn

theorem countP_insertItem (k : K) (v : V) (p : V → Bool) (ps : List (K×V))
    (hk : lookupItem k ps=none) :
    (insertItem k v ps).countP (fun e => p e.2)=ps.countP (fun e => p e.2)+(p v).toNat := by
  induction ps with
  | nil => cases hp : p v <;> simp [insertItem,hp]
  | cons q ps ih =>
    rw [lookupItem] at hk
    split_ifs at hk with hq
    rw [insertItem]
    split_ifs with hlt heq
    · cases hp : p v <;> simp [List.countP_cons,hp]
    · exact absurd heq.symm hq
    · rw [List.countP_cons,ih hk,List.countP_cons]
      omega

theorem countWhere_add (m : KeyedVector K V) (k : K) (v : V) (p : V → Bool)
    (hk : m.valueFor k=none) : (m.add k v).countWhere p=m.countWhere p+(p v).toNat :=
  countP_insertItem k v p m.items hk

theorem replaceItem_absent (k : K) (w : V) (ps : List (K×V)) (h : k∉ps.map Prod.fst) :
    replaceItem k w ps=ps := by
  induction ps with
  | nil => rfl
  | cons q ps ih =>
    simp only [List.map_cons,List.mem_cons,not_or] at h
    rw [replaceItem,ih h.2,if_neg (Ne.symm h.1)]

/-- The entry of a key is replaced where it stands. -/
theorem replaceItem_split {k : K} {v : V} (w : V) {before after : List (K×V)}
    (hs : ((before++(k,v)::after).map Prod.fst).Pairwise (· < ·)) :
    replaceItem k w (before++(k,v)::after)=before++(k,w)::after := by
  induction before with
  | nil =>
    have absent : k∉after.map Prod.fst := fun hm => ((List.pairwise_cons.mp hs).1 k hm).ne rfl
    show replaceItem k w ((k,v)::after)=(k,w)::after
    rw [replaceItem,if_pos rfl,replaceItem_absent k w after absent]
  | cons p before ih =>
    obtain ⟨hp,hps⟩ := List.pairwise_cons.mp hs
    have apart : p.1≠k := (hp k (by simp)).ne
    show replaceItem k w (p::(before++(k,v)::after))=p::(before++(k,w)::after)
    rw [replaceItem,if_neg apart,ih hps]

theorem countP_replaceItem (k : K) (v w : V) (p : V → Bool) (ps : List (K×V))
    (hs : (ps.map Prod.fst).Pairwise (· < ·)) (hk : lookupItem k ps=some v) :
    (replaceItem k w ps).countP (fun e => p e.2)+(p v).toNat=
      ps.countP (fun e => p e.2)+(p w).toNat := by
  induction ps with
  | nil => simp [lookupItem] at hk
  | cons q ps ih =>
    obtain ⟨hq,hps⟩ := List.pairwise_cons.mp hs
    rw [lookupItem] at hk
    rw [replaceItem,List.countP_cons,List.countP_cons]
    split_ifs at hk with he
    · obtain rfl : q.2=v := by simpa using hk
      have absent : k∉ps.map Prod.fst := fun hm => (hq k hm).ne he
      rw [replaceItem_absent k w ps absent,if_pos he]
      cases hv : p q.2 <;> cases hw : p w <;> simp
    · have h := ih hps hk
      rw [if_neg he]
      omega

theorem countWhere_replaceValueFor (m : KeyedVector K V) (k : K) (v w : V) (p : V → Bool)
    (hk : m.valueFor k=some v) :
    (m.replaceValueFor k w).countWhere p+(p v).toNat=m.countWhere p+(p w).toNat :=
  countP_replaceItem k v w p m.items m.sorted hk

/-- A key is given a new value as if it had been removed first. -/
theorem insertItem_dropItem (k : K) (v : V) (ps : List (K×V))
    (hs : (ps.map Prod.fst).Pairwise (· < ·)) :
    insertItem k v (dropItem k ps)=insertItem k v ps := by
  have above (ps : List (K×V)) (h : ∀ q∈ps.map Prod.fst,k<q) : dropItem k ps=ps := by
    refine List.filter_eq_self.mpr fun e hm => ?_
    have apart := (h e.1 (List.mem_map_of_mem hm)).ne'
    simpa using apart
  induction ps with
  | nil => rfl
  | cons p ps ih =>
    obtain ⟨hp,hps⟩ := List.pairwise_cons.mp hs
    rcases lt_trichotomy k p.1 with less|same|more
    · rw [above (p::ps)]
      intro q hq
      rcases List.mem_cons.mp hq with rfl|later
      · exact less
      · exact less.trans (hp q later)
    · have dropped : dropItem k (p::ps)=ps := by
        rw [dropItem,List.filter_cons_of_neg (by simp [same])]
        exact above ps fun q hq => same ▸ hp q hq
      rw [dropped,insertItem,if_neg (same ▸ lt_irrefl _),if_pos same]
      cases ps with
      | nil => rfl
      | cons q ps =>
        have next : k<q.1 := same ▸ hp q.1 (by simp)
        rw [insertItem,if_pos next]
    · have kept : dropItem k (p::ps)=p::dropItem k ps :=
        List.filter_cons_of_pos (by simpa using more.ne)
      rw [kept,insertItem,insertItem,if_neg more.not_gt,if_neg more.ne',ih hps,
        if_neg more.not_gt,if_neg more.ne']

theorem add_removeItem (m : KeyedVector K V) (k : K) (v : V) :
    (m.removeItem k).add k v=m.add k v :=
  KeyedVector.ext (insertItem_dropItem k v m.items m.sorted)

theorem countP_dropItem (k : K) (v : V) (p : V → Bool) (ps : List (K×V))
    (hs : (ps.map Prod.fst).Pairwise (· < ·)) (hk : lookupItem k ps=some v) :
    (dropItem k ps).countP (fun e => p e.2)+(p v).toNat=ps.countP (fun e => p e.2) := by
  induction ps with
  | nil => simp [lookupItem] at hk
  | cons q ps ih =>
    obtain ⟨hq,hps⟩ := List.pairwise_cons.mp hs
    rw [lookupItem] at hk
    split_ifs at hk with he
    · obtain rfl : q.2=v := by simpa using hk
      have others : dropItem k ps=ps := by
        refine List.filter_eq_self.mpr fun e hm => ?_
        have apart := (hq e.1 (List.mem_map_of_mem hm)).ne'
        simpa [← he] using apart
      have dropped : dropItem k (q::ps)=ps := by
        rw [dropItem,List.filter_cons_of_neg (by simpa using he)]
        exact others
      rw [dropped,List.countP_cons]
      cases p q.2 <;> simp
    · have kept : dropItem k (q::ps)=q::dropItem k ps :=
        List.filter_cons_of_pos (by simpa using he)
      rw [kept,List.countP_cons,List.countP_cons]
      have rest := ih hps hk
      omega

theorem countWhere_removeItem (m : KeyedVector K V) (k : K) (v : V) (p : V → Bool)
    (hk : m.valueFor k=some v) :
    (m.removeItem k).countWhere p+(p v).toNat=m.countWhere p :=
  countP_dropItem k v p m.items m.sorted hk

theorem countWhere_eq_zero {m : KeyedVector K V} {p : V → Bool} :
    m.countWhere p=0 ↔ ∀ k v,m.valueFor k=some v → p v=false := by
  simp only [countWhere,List.countP_eq_zero]
  constructor
  · intro h k v hk
    simpa using h (k,v) ((m.valueFor_eq_some k v).mp hk)
  · intro h e he
    simpa using h e.1 e.2 ((m.valueFor_eq_some e.1 e.2).mpr he)

theorem countWhere_eq_length {m : KeyedVector K V} {p : V → Bool}
    (all : ∀ k v,m.valueFor k=some v → p v=true) : m.countWhere p=m.keys.length := by
  rw [keys,List.length_map,countWhere,List.countP_eq_length]
  intro e he
  exact all e.1 e.2 ((m.valueFor_eq_some e.1 e.2).mpr he)

theorem countWhere_pos {m : KeyedVector K V} {p : V → Bool} {k : K} {v : V}
    (hk : m.valueFor k=some v) (hp : p v=true) : 0 < m.countWhere p := by
  rcases Nat.eq_zero_or_pos (m.countWhere p) with h|h
  · rw [countWhere_eq_zero.mp h k v hk] at hp
    exact absurd hp (by decide)
  · exact h

@[simp] theorem keys_mapValues (m : KeyedVector K V) (f : K → V → V) :
    (m.mapValues f).keys=m.keys := by
  simp only [keys,mapValues,List.map_map]
  rfl

section Each

/-- Every entry meets `Q`. -/
def Each (Q : K → V → Prop) (m : KeyedVector K V) : Prop := ∀ p∈m.items,Q p.1 p.2

variable {Q : K → V → Prop} {m : KeyedVector K V}

theorem each_iff : m.Each Q ↔ ∀ k v,m.valueFor k=some v → Q k v := by
  constructor
  · intro h k v hk
    exact h (k,v) ((m.valueFor_eq_some k v).mp hk)
  · intro h p hp
    exact h p.1 p.2 ((m.valueFor_eq_some p.1 p.2).mpr hp)

theorem Each.add (h : m.Each Q) {k : K} {v : V} (hv : Q k v) : (m.add k v).Each Q := by
  rw [each_iff] at h ⊢
  intro q w hq
  rw [valueFor_add] at hq
  split_ifs at hq with same
  · cases Option.some.inj hq
    rw [same]
    exact hv
  · exact h q w hq

theorem Each.replaceValueFor (h : m.Each Q) {k : K} {v : V}
    (hv : ∀ w,m.valueFor k=some w → Q k v) : (m.replaceValueFor k v).Each Q := by
  rw [each_iff] at h ⊢
  intro q w hq
  rw [valueFor_replaceValueFor] at hq
  split_ifs at hq with same
  · obtain ⟨old,found,rfl⟩ := Option.map_eq_some_iff.mp hq
    rw [same]
    exact hv old found
  · exact h q w hq

theorem Each.removeItem (h : m.Each Q) (k : K) : (m.removeItem k).Each Q :=
  fun p hp => h p (List.mem_of_mem_filter hp)

theorem Each.mapValues (h : m.Each Q) {f : K → V → V}
    (hf : ∀ k v,m.valueFor k=some v → Q k v → Q k (f k v)) : (m.mapValues f).Each Q := by
  intro p hp
  obtain ⟨q,hq,rfl⟩ := List.mem_map.mp hp
  exact hf q.1 q.2 ((m.valueFor_eq_some q.1 q.2).mpr hq) (h q hq)

end Each

section TryEach

/-! A loop over the values in key order that stops at the first failure; `f` answers with a
code, zero for success, the new value and what it emits. -/

variable {E : Type}

def tryItems (f : K → V → Int × V × List E) : List (K×V) → Int × List (K×V) × List E
  | [] => (0,[],[])
  | p::ps =>
    let r := f p.1 p.2
    if r.1≠0 then (r.1,(p.1,r.2.1)::ps,r.2.2)
    else
      let rest := tryItems f ps
      (rest.1,(p.1,r.2.1)::rest.2.1,r.2.2++rest.2.2)

omit [LinearOrder K] in
theorem tryItems_keys (f : K → V → Int × V × List E) (ps : List (K×V)) :
    (tryItems f ps).2.1.map Prod.fst=ps.map Prod.fst := by
  induction ps with
  | nil => rfl
  | cons p ps ih =>
    rw [tryItems]
    split_ifs
    · rfl
    · simp only [List.map_cons,ih]

def tryEach (m : KeyedVector K V) (f : K → V → Int × V × List E) :
    Int × KeyedVector K V × List E :=
  ((tryItems f m.items).1,
    ⟨(tryItems f m.items).2.1,by rw [tryItems_keys]; exact m.sorted⟩,(tryItems f m.items).2.2)

@[simp] theorem keys_tryEach (m : KeyedVector K V) (f : K → V → Int × V × List E) :
    (m.tryEach f).2.1.keys=m.keys := tryItems_keys f m.items

omit [LinearOrder K] in
theorem tryItems_ok (f : K → V → Int × V × List E) (ps : List (K×V)) :
    (tryItems f ps).1=0 ↔ ∀ p∈ps,(f p.1 p.2).1=0 := by
  induction ps with
  | nil => exact ⟨fun _ p h => by simp at h,fun _ => rfl⟩
  | cons p ps ih =>
    rw [tryItems]
    by_cases h : (f p.1 p.2).1=0
    · rw [if_neg (not_not.mpr h)]
      simp [ih,h]
    · rw [if_pos h]
      simp [h]

/-- The first entry of a loop whose round fails, with what stands before and after it. -/
def StopsAt (fails : K → V → Prop) (ps before : List (K×V)) (k : K) (v : V)
    (after : List (K×V)) : Prop :=
  ps=before++(k,v)::after ∧ (∀ p∈before,¬fails p.1 p.2) ∧ fails k v

omit [LinearOrder K] in
theorem StopsAt.mem {fails : K → V → Prop} {ps before after : List (K×V)} {k : K} {v : V}
    (h : StopsAt fails ps before k v after) : (k,v)∈ps := by
  rw [h.1]
  simp

omit [LinearOrder K] in
theorem exists_stopsAt (fails : K → V → Prop) {ps : List (K×V)}
    (h : ∃ p∈ps,fails p.1 p.2) : ∃ before k v after,StopsAt fails ps before k v after := by
  classical
  induction ps with
  | nil => simp at h
  | cons p ps ih =>
    by_cases first : fails p.1 p.2
    · exact ⟨[],p.1,p.2,ps,rfl,by simp,first⟩
    · obtain ⟨q,hq,later⟩ := h
      have rest : ∃ q∈ps,fails q.1 q.2 := by
        rcases List.mem_cons.mp hq with rfl|hq
        · exact absurd later first
        · exact ⟨q,hq,later⟩
      obtain ⟨before,k,v,after,split,fine,stop⟩ := ih rest
      refine ⟨p::before,k,v,after,by rw [split]; rfl,?_,stop⟩
      intro q hq
      rcases List.mem_cons.mp hq with rfl|hq
      · exact first
      · exact fine q hq

omit [LinearOrder K] in
theorem tryItems_done {f : K → V → Int × V × List E} {ps : List (K×V)}
    (h : ∀ p∈ps,(f p.1 p.2).1=0) :
    (tryItems f ps).2.1=ps.map fun p => (p.1,(f p.1 p.2).2.1) := by
  induction ps with
  | nil => rfl
  | cons p ps ih =>
    have fine := h p List.mem_cons_self
    have rest := ih fun q hq => h q (List.mem_cons_of_mem p hq)
    rw [tryItems,if_neg (not_not.mpr fine)]
    simp only [List.map_cons,rest]

omit [LinearOrder K] in
/-- A loop that stops has changed the entries up to the one at which it does. -/
theorem tryItems_stops {f : K → V → Int × V × List E} {ps before after : List (K×V)} {k : K}
    {v : V} (h : StopsAt (fun k v => (f k v).1≠0) ps before k v after) :
    (tryItems f ps).1=(f k v).1 ∧
    (tryItems f ps).2.1=(before.map fun p => (p.1,(f p.1 p.2).2.1))++(k,(f k v).2.1)::after := by
  obtain ⟨rfl,fine,stop⟩ := h
  induction before with
  | nil =>
    show (tryItems f ((k,v)::after)).1=_ ∧ _
    rw [List.nil_append,tryItems,if_pos stop]
    exact ⟨rfl,rfl⟩
  | cons p before ih =>
    have first := fine p List.mem_cons_self
    have rest := ih fun q hq => fine q (List.mem_cons_of_mem p hq)
    rw [List.cons_append,tryItems,if_neg first]
    refine ⟨rest.1,?_⟩
    simp only [List.map_cons,List.cons_append,rest.2]

theorem tryItems_lookup (f : K → V → Int × V × List E) (ps : List (K×V)) (k : K)
    (h : (tryItems f ps).1=0) :
    lookupItem k (tryItems f ps).2.1=(lookupItem k ps).map fun v => (f k v).2.1 := by
  induction ps with
  | nil => rfl
  | cons p ps ih =>
    have fine : (f p.1 p.2).1=0 := (tryItems_ok f (p::ps)).mp h p List.mem_cons_self
    have rest : (tryItems f ps).1=0 :=
      (tryItems_ok f ps).mpr fun q hq =>
        (tryItems_ok f (p::ps)).mp h q (List.mem_cons_of_mem p hq)
    rw [tryItems,if_neg (not_not.mpr fine)]
    simp only [lookupItem]
    by_cases hk : p.1=k
    · rw [if_pos hk,if_pos hk,← hk]
      rfl
    · rw [if_neg hk,if_neg hk]
      exact ih rest

/-- What each round keeps of its entry holds of all entries, wherever the loop stops. -/
theorem Each.tryEach {Q : K → V → Prop} {m : KeyedVector K V} (h : m.Each Q)
    {f : K → V → Int × V × List E} (hf : ∀ k v,Q k v → Q k (f k v).2.1) :
    (m.tryEach f).2.1.Each Q := by
  have loop (ps : List (K×V)) (hp : ∀ p∈ps,Q p.1 p.2) : ∀ p∈(tryItems f ps).2.1,Q p.1 p.2 := by
    induction ps with
    | nil => exact fun p hp => by cases hp
    | cons p ps ih =>
      have first := hf p.1 p.2 (hp p List.mem_cons_self)
      have others := fun q hq => hp q (List.mem_cons_of_mem p hq)
      rw [tryItems]
      split_ifs
      · exact List.forall_mem_cons.mpr ⟨first,others⟩
      · exact List.forall_mem_cons.mpr ⟨first,ih others⟩
  exact loop m.items h

/-- The loop succeeds when each value does. -/
theorem tryEach_ok (m : KeyedVector K V) (f : K → V → Int × V × List E) :
    (m.tryEach f).1=0 ↔ ∀ k v,m.valueFor k=some v → (f k v).1=0 := by
  show (tryItems f m.items).1=0 ↔ _
  rw [tryItems_ok]
  constructor
  · intro h k v hk
    exact h (k,v) ((m.valueFor_eq_some k v).mp hk)
  · intro h p hp
    exact h p.1 p.2 ((m.valueFor_eq_some p.1 p.2).mpr hp)

theorem tryEach_valueFor (m : KeyedVector K V) (f : K → V → Int × V × List E)
    (h : (m.tryEach f).1=0) (k : K) :
    (m.tryEach f).2.1.valueFor k=(m.valueFor k).map fun v => (f k v).2.1 :=
  tryItems_lookup f m.items k h

/-- The loop rule at the entries still to come. -/
theorem tryItems_rule {m : KeyedVector K V} {f : K → V → Int × V × List E}
    {P : List K → KeyedVector K V → Prop}
    (next : ∀ k todo n v,P (k::todo) n → n.valueFor k=some v → m.valueFor k=some v →
      (f k v).1=0 → P todo (n.replaceValueFor k (f k v).2.1))
    {n : KeyedVector K V} {before after : List (K×V)} (split : n.items=before++after)
    (old : ∀ p∈after,m.valueFor p.1=some p.2) (h : P (after.map Prod.fst) n) :
    (tryItems f after).1=0 ∧
      (∃ t : KeyedVector K V,t.items=before++(tryItems f after).2.1 ∧ P [] t) ∨
    ∃ k todo t v,P (k::todo) t ∧ t.valueFor k=some v ∧ m.valueFor k=some v ∧ (f k v).1≠0 ∧
      (tryItems f after).1=(f k v).1 ∧
      (t.replaceValueFor k (f k v).2.1).items=before++(tryItems f after).2.1 := by
  induction after generalizing n before with
  | nil => exact Or.inl ⟨rfl,n,split,h⟩
  | cons p ps ih =>
    have found : n.valueFor p.1=some p.2 := by
      rw [valueFor_eq_some,split]
      simp
    have replaced : (n.replaceValueFor p.1 (f p.1 p.2).2.1).items=
        before++(p.1,(f p.1 p.2).2.1)::ps := by
      have sorted := n.sorted
      rw [split] at sorted
      show replaceItem p.1 _ n.items=_
      rw [split]
      exact replaceItem_split _ sorted
    by_cases fine : (f p.1 p.2).1=0
    · have kept := next p.1 (ps.map Prod.fst) n p.2 h found (old p List.mem_cons_self) fine
      have moved : (n.replaceValueFor p.1 (f p.1 p.2).2.1).items=
          (before++[(p.1,(f p.1 p.2).2.1)])++ps := by rw [replaced]; simp
      have rest := ih moved (fun q hq => old q (List.mem_cons_of_mem _ hq)) kept
      rw [tryItems,if_neg (not_not.mpr fine)]
      simpa using rest
    · rw [tryItems,if_pos fine]
      exact Or.inr ⟨p.1,ps.map Prod.fst,n,p.2,h,found,old p List.mem_cons_self,fine,rfl,replaced⟩

/-- What each round keeps holds where the loop stops: after the last key, or at the key whose
round fails. -/
theorem tryEach_rule {m : KeyedVector K V} {f : K → V → Int × V × List E}
    {P : List K → KeyedVector K V → Prop}
    (next : ∀ k todo n v,P (k::todo) n → n.valueFor k=some v → m.valueFor k=some v →
      (f k v).1=0 → P todo (n.replaceValueFor k (f k v).2.1)) (start : P m.keys m) :
    (m.tryEach f).1=0 ∧ P [] (m.tryEach f).2.1 ∨
    ∃ k todo n v,P (k::todo) n ∧ n.valueFor k=some v ∧ m.valueFor k=some v ∧ (f k v).1≠0 ∧
      (m.tryEach f).1=(f k v).1 ∧ (m.tryEach f).2.1=n.replaceValueFor k (f k v).2.1 := by
  have old : ∀ p∈m.items,m.valueFor p.1=some p.2 :=
    fun p hp => (m.valueFor_eq_some p.1 p.2).mpr hp
  have split : m.items=[]++m.items := rfl
  rcases tryItems_rule next split old start with
    ⟨fine,t,items,kept⟩|⟨k,todo,t,v,kept,found,first,failed,code,items⟩
  · have same : t=(m.tryEach f).2.1 := KeyedVector.ext items
    exact Or.inl ⟨fine,same ▸ kept⟩
  · exact Or.inr ⟨k,todo,t,v,kept,found,first,failed,code,(KeyedVector.ext items).symm⟩

end TryEach

end KeyedVector
end IotMedia.Framework

import IotMedia.Framework.KeyedVector

namespace IotMedia.Framework

variable {K : Type} [LinearOrder K]

/-- Objects, numbered as they are allocated, that are registered under keys until they retire, and
retired until they are destroyed. -/
structure Registry (K : Type) [LinearOrder K] where
  registered : KeyedVector K Nat
  retired : List Nat
  allocated : Nat
  destroyed : List Nat

namespace Registry

def empty : Registry K := ⟨KeyedVector.empty,[],0,[]⟩

/-- A new object; whatever the key named before is no longer registered. -/
def add (t : Registry K) (k : K) : Registry K :=
  { t with registered := t.registered.add k t.allocated,allocated := t.allocated+1 }

/-- A new object that is registered nowhere. -/
def lose (t : Registry K) : Registry K := { t with allocated := t.allocated+1 }

def drop (t : Registry K) (k : K) : Registry K :=
  { t with registered := t.registered.removeItem k }

def retire (t : Registry K) (k : K) : Registry K :=
  { t with
    registered := t.registered.removeItem k
    retired := t.retired++(t.registered.valueFor k).toList }

def reclaim (t : Registry K) : Registry K :=
  { t with retired := [],destroyed := t.destroyed++t.retired }

def places (t : Registry K) (o : Nat) : Nat :=
  t.registered.countWhere (fun p => p=o)+t.retired.count o

/-- An object is in one place at most, and then not destroyed. -/
structure Sound (t : Registry K) : Prop where
  single : ∀ o,t.places o ≤ 1
  live : ∀ o,0 < t.places o → o<t.allocated ∧ o∉t.destroyed
  bound : ∀ o∈t.destroyed,o<t.allocated

/-- Every object that is not destroyed is registered or retired, and in one place only. -/
def Owned (t : Registry K) : Prop := ∀ o,o<t.allocated → o∉t.destroyed → t.places o=1

/-- The object is nowhere, and never destroyed. -/
structure Lost (t : Registry K) (o : Nat) : Prop where
  allocated : o<t.allocated
  alive : o∉t.destroyed
  nowhere : t.places o=0

variable {t : Registry K} {k : K} {o : Nat}

theorem Lost.not_owned (h : t.Lost o) : ¬t.Owned := by
  intro owned
  have one := owned o h.allocated h.alive
  have none := h.nowhere
  omega

theorem places_of_registered (h : t.registered.valueFor k=some o) : 0 < t.places o := by
  have pos := KeyedVector.countWhere_pos (p := fun p => p=o) h (by simp)
  unfold places
  omega

theorem places_of_retired (h : o∈t.retired) : 0 < t.places o := by
  have pos := List.count_pos_iff.mpr h
  unfold places
  omega

section Places

theorem places_add (fresh : k∉t.registered.keys) (o : Nat) :
    (t.add k).places o=t.places o+if t.allocated=o then 1 else 0 := by
  have none := (t.registered.valueFor_none k).mpr fresh
  have count := t.registered.countWhere_add k t.allocated (fun p => p=o) none
  unfold places add
  by_cases new : t.allocated=o
  · rw [if_pos new]
    simp only [new,decide_true,Bool.toNat_true] at count
    simp only [new]
    omega
  · rw [if_neg new]
    simp only [new,decide_false,Bool.toNat_false] at count
    dsimp only
    omega

theorem places_drop {v : Nat} (h : t.registered.valueFor k=some v) (o : Nat) :
    (t.drop k).places o+(if v=o then 1 else 0)=t.places o := by
  have count := t.registered.countWhere_removeItem k v (fun p => p=o) h
  unfold places drop
  by_cases same : v=o
  · rw [if_pos same]
    simp only [same,decide_true,Bool.toNat_true] at count
    dsimp only
    omega
  · rw [if_neg same]
    simp only [same,decide_false,Bool.toNat_false] at count
    dsimp only
    omega

theorem drop_absent (h : t.registered.valueFor k=none) : t.drop k=t := by
  have absent : t.registered.removeItem k=t.registered :=
    KeyedVector.ext (List.filter_eq_self.mpr fun e he => by
      have other : e.1≠k := fun same =>
        (t.registered.valueFor_none k).mp h (same ▸ List.mem_map_of_mem he)
      simpa using other)
  rw [drop,absent]

theorem places_drop_le (k : K) (o : Nat) : (t.drop k).places o ≤ t.places o := by
  cases found : t.registered.valueFor k with
  | none => rw [drop_absent found]
  | some v =>
    have count := places_drop found o
    omega

theorem places_retire (k : K) (o : Nat) : (t.retire k).places o=t.places o := by
  cases found : t.registered.valueFor k with
  | none =>
    have absent : t.registered.removeItem k=t.registered := congrArg registered (drop_absent found)
    simp [places,retire,found,absent]
  | some v =>
    have count := places_drop found o
    have split : (t.retire k).places o=(t.drop k).places o+if v=o then 1 else 0 := by
      simp [places,retire,drop,found,List.count_append,List.count_singleton,Nat.add_assoc]
    omega

theorem places_reclaim (o : Nat) :
    t.reclaim.places o+t.retired.count o=t.places o := by
  simp [places,reclaim]

/-- A key that is taken over is free once its object has been dropped. -/
theorem add_drop (t : Registry K) (k : K) : (t.drop k).add k=t.add k := by
  unfold add drop
  rw [KeyedVector.add_removeItem]

theorem drop_free (t : Registry K) (k : K) : k∉(t.drop k).registered.keys := by
  simp [drop]

end Places

section Sound

theorem sound_empty : (empty : Registry K).Sound := by
  refine ⟨fun _ => Nat.zero_le 1,?_,?_⟩
  · intro o pos
    exact absurd pos (lt_irrefl 0)
  · intro o gone
    cases gone

theorem Sound.fewer {t' : Registry K} (h : t.Sound) (places : ∀ o,t'.places o ≤ t.places o)
    (allocated : t.allocated ≤ t'.allocated) (destroyed : t'.destroyed=t.destroyed) : t'.Sound := by
  refine ⟨fun o => (places o).trans (h.single o),?_,?_⟩
  · intro o pos
    obtain ⟨bound,alive⟩ := h.live o (pos.trans_le (places o))
    exact ⟨bound.trans_le allocated,destroyed ▸ alive⟩
  · intro o gone
    exact (h.bound o (destroyed ▸ gone)).trans_le allocated

theorem Sound.drop (h : t.Sound) (k : K) : (t.drop k).Sound :=
  h.fewer (places_drop_le k) le_rfl rfl

theorem Sound.lose (h : t.Sound) : t.lose.Sound :=
  h.fewer (fun _ => le_rfl) (Nat.le_succ _) rfl

theorem Sound.retire (h : t.Sound) (k : K) : (t.retire k).Sound :=
  h.fewer (fun o => (places_retire k o).le) le_rfl rfl

theorem Sound.unborn (h : t.Sound) (beyond : t.allocated ≤ o) : t.places o=0 := by
  by_contra somewhere
  have bound := (h.live o (by omega)).1
  omega

theorem Sound.add_free (h : t.Sound) (free : k∉t.registered.keys) : (t.add k).Sound := by
  have grown : (t.add k).allocated=t.allocated+1 := rfl
  refine ⟨?_,?_,?_⟩
  · intro o
    have single := h.single o
    rw [places_add free]
    by_cases new : t.allocated=o
    · rw [if_pos new,h.unborn (by omega)]
    · rw [if_neg new]
      exact single
  · intro o pos
    rw [places_add free] at pos
    by_cases new : t.allocated=o
    · refine ⟨by omega,fun gone => ?_⟩
      have bound := h.bound o gone
      omega
    · rw [if_neg new] at pos
      obtain ⟨bound,alive⟩ := h.live o pos
      exact ⟨by omega,alive⟩
  · intro o gone
    have bound := h.bound o gone
    omega

theorem Sound.add (h : t.Sound) (k : K) : (t.add k).Sound := by
  rw [← add_drop]
  exact (h.drop k).add_free (t.drop_free k)

theorem Sound.reclaim (h : t.Sound) : t.reclaim.Sound := by
  refine ⟨?_,?_,?_⟩
  · intro o
    have single := h.single o
    have count := places_reclaim (t := t) o
    omega
  · intro o pos
    have single := h.single o
    have count := places_reclaim (t := t) o
    obtain ⟨bound,alive⟩ := h.live o (by omega)
    refine ⟨bound,fun gone => ?_⟩
    rcases List.mem_append.mp gone with before|now
    · exact alive before
    · have old := List.count_pos_iff.mpr now
      omega
  · intro o gone
    rcases List.mem_append.mp gone with before|now
    · exact h.bound o before
    · exact (h.live o (places_of_retired now)).1

end Sound

section Owned

theorem owned_empty : (empty : Registry K).Owned := by
  intro o ho
  exact absurd ho (Nat.not_lt_zero o)

theorem Owned.add (h : t.Owned) (sound : t.Sound) (free : k∉t.registered.keys) :
    (t.add k).Owned := by
  intro o ho alive
  rw [places_add free]
  by_cases new : t.allocated=o
  · rw [if_pos new,sound.unborn (by omega)]
  · have grown : (t.add k).allocated=t.allocated+1 := rfl
    rw [if_neg new,h o (by omega) alive]

theorem Owned.retire (h : t.Owned) (k : K) : (t.retire k).Owned := by
  intro o ho alive
  rw [places_retire]
  exact h o ho alive

theorem Owned.reclaim (h : t.Owned) : t.reclaim.Owned := by
  intro o ho alive
  have apart := not_or.mp fun gone => alive (List.mem_append.mpr gone)
  have count := places_reclaim (t := t) o
  rw [List.count_eq_zero.mpr apart.2,h o ho apart.1] at count
  exact count

end Owned

section Lost

/-! What is lost stays lost. -/

theorem lost_lose (h : t.Sound) : t.lose.Lost t.allocated :=
  ⟨Nat.lt_succ_self _,fun gone => (h.bound _ gone).ne rfl,h.unborn le_rfl⟩

theorem lost_drop (h : t.Sound) (hk : t.registered.valueFor k=some o) : (t.drop k).Lost o := by
  obtain ⟨bound,alive⟩ := h.live o (places_of_registered hk)
  have single := h.single o
  have count := places_drop hk o
  rw [if_pos rfl] at count
  exact ⟨bound,alive,by omega⟩

theorem Lost.drop (h : t.Lost o) (k : K) : (t.drop k).Lost o :=
  ⟨h.allocated,h.alive,Nat.le_zero.mp ((places_drop_le k o).trans h.nowhere.le)⟩

theorem Lost.lose (h : t.Lost o) : t.lose.Lost o :=
  ⟨Nat.lt_succ_of_lt h.allocated,h.alive,h.nowhere⟩

theorem Lost.retire (h : t.Lost o) (k : K) : (t.retire k).Lost o :=
  ⟨h.allocated,h.alive,(places_retire k o).trans h.nowhere⟩

theorem Lost.add (h : t.Lost o) (k : K) : (t.add k).Lost o := by
  have dropped := h.drop k
  rw [← add_drop]
  refine ⟨Nat.lt_succ_of_lt dropped.allocated,dropped.alive,?_⟩
  have older : (t.drop k).allocated≠o := dropped.allocated.ne'
  rw [places_add (t.drop_free k),if_neg older]
  exact dropped.nowhere

/-- A key that is given away loses the object it named. -/
theorem lost_add (h : t.Sound) (ho : t.registered.valueFor k=some o) : (t.add k).Lost o := by
  rw [← add_drop]
  exact (lost_drop h ho).add k

theorem Lost.reclaim (h : t.Lost o) : t.reclaim.Lost o := by
  have nowhere := h.nowhere
  have count := places_reclaim (t := t) o
  refine ⟨h.allocated,fun gone => ?_,by omega⟩
  rcases List.mem_append.mp gone with before|now
  · exact h.alive before
  · have pos := places_of_retired now
    omega

end Lost
end Registry
end IotMedia.Framework

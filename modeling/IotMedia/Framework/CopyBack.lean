import IotMedia.Framework.Run
import Mathlib.Logic.Function.Basic

namespace IotMedia.Framework

variable {ι S K V : Type} [DecidableEq ι] [DecidableEq K]

/-- The value that is written last under the key. -/
def lastWrite (k : K) : List (K×V) → Option V
  | [] => none
  | p::ws => (lastWrite k ws).or (if p.1=k then some p.2 else none)

/-- The keys that are written. -/
def keysOf (ws : List (K×V)) : List K := ws.map Prod.fst

theorem lastWrite_eq_none_iff {k : K} {ws : List (K×V)} : lastWrite k ws=none ↔ k∉keysOf ws := by
  induction ws with
  | nil => simp [lastWrite,keysOf]
  | cons p ws ih =>
    rw [keysOf] at ih
    simp only [lastWrite,Option.or_eq_none_iff,ih,keysOf,List.map_cons,List.mem_cons,not_or]
    split_ifs with h
    · simp [h]
    · simp [Ne.symm h]

/-- A store whose entries are found under keys. -/
structure Store (S K V : Type) where
  find : S → K → Option V
  copy : S → S
  update : S → K → V → S
  find_copy : ∀ s k,find (copy s) k=find s k
  find_update : ∀ s k v,find (update s k v) k=some v
  find_update_ne : ∀ s k v k',k'≠k → find (update s k v) k'=find s k'

namespace Store

variable (store : Store S K V)

def write (s : S) (ws : List (K×V)) : S := ws.foldl (fun s p => store.update s p.1 p.2) s

theorem find_write (s : S) (ws : List (K×V)) (k : K) :
    store.find (store.write s ws) k=(lastWrite k ws).or (store.find s k) := by
  induction ws generalizing s with
  | nil => rfl
  | cons p ws ih =>
    refine (ih (store.update s p.1 p.2)).trans ?_
    rw [lastWrite,Option.or_assoc]
    congr 1
    split_ifs with h
    · rw [← h]
      exact store.find_update s p.1 p.2
    · exact store.find_update_ne s p.1 p.2 k (Ne.symm h)

end Store

/-- How far an update has come: its copy is taken, or changed; with the number of updates that were
completed when it was taken. -/
inductive CopyStage (S K V : Type)
  | copied (s : S) (seen : Nat)
  | changed (s : S) (seen : Nat) (writes : List (K×V))

/-- Updates that take a copy of a shared store, change it, and put it back as a whole, each of the
three on its own; and the writes of the updates that are completed. -/
structure CopyWorld (ι S K V : Type) where
  shared : S
  stage : ι → Option (CopyStage S K V) := fun _ => none
  completed : List (List (K×V)) := []

/-- A step of an update, or a whole update in one section. -/
inductive CopyLabel (ι K V : Type)
  | take (i : ι)
  | change (i : ι) (writes : List (K×V))
  | putBack (i : ι)
  | atOnce (writes : List (K×V))

namespace CopyWorld

variable (store : Store S K V)

inductive Step : CopyWorld ι S K V → CopyLabel ι K V → CopyWorld ι S K V → Prop
  | take {w : CopyWorld ι S K V} {i : ι} (idle : w.stage i=none) :
    Step w (.take i)
      { w with
        stage := Function.update w.stage i
          (some (.copied (store.copy w.shared) w.completed.length)) }
  | change {w : CopyWorld ι S K V} {i : ι} {s : S} {seen : Nat} (writes : List (K×V))
      (copied : w.stage i=some (.copied s seen)) :
    Step w (.change i writes)
      { w with
        stage := Function.update w.stage i
          (some (.changed (store.write s writes) seen writes)) }
  | putBack {w : CopyWorld ι S K V} {i : ι} {s : S} {seen : Nat} {writes : List (K×V)}
      (changed : w.stage i=some (.changed s seen writes)) :
    Step w (.putBack i)
      { shared := store.copy s
        stage := Function.update w.stage i none
        completed := w.completed++[writes] }
  | atOnce {w : CopyWorld ι S K V} (writes : List (K×V)) :
    Step w (.atOnce writes)
      { w with
        shared := store.copy (store.write (store.copy w.shared) writes)
        completed := w.completed++[writes] }

/-- The store has, under the key, the value of a completed update that writes it. -/
def Held (completed : List (List (K×V))) (s : S) (k : K) : Prop :=
  ∃ ws∈completed,k∈keysOf ws ∧ store.find s k=lastWrite k ws

/-- No completed update is lost: each key written has the value of one of the updates that wrote it,
and of the only one if it is one. -/
structure NoneLost (w : CopyWorld ι S K V) : Prop where
  held : ∀ ws∈w.completed,∀ k∈keysOf ws,Held store w.completed w.shared k
  only : ∀ before ws after,w.completed=before++ws::after → ∀ k∈keysOf ws,
    (∀ other∈before++after,k∉keysOf other) → store.find w.shared k=lastWrite k ws

/-- Each key that an update completed since the copy was taken has written is written by the copy's
own update too, or by an update completed before, or had the value of an update that writes it from
the start on. -/
def Undisturbed (initial : S) (completed : List (List (K×V))) : CopyStage S K V → Prop
  | .changed _ seen own => ∀ ws∈completed.drop seen,∀ k∈keysOf ws,k∉keysOf own →
      (∃ earlier∈completed.take seen,k∈keysOf earlier) ∨ Held store completed initial k
  | .copied _ _ => True

/-- What is put back has not been disturbed. -/
def InOrder (initial : S) (w : CopyWorld ι S K V) : CopyLabel ι K V → Prop
  | .putBack i => ∀ stage∈w.stage i,Undisturbed store initial w.completed stage
  | .take _ | .change _ _ | .atOnce _ => True

section Decidable

variable [DecidableEq V]

instance (completed : List (List (K×V))) (s : S) (k : K) : Decidable (Held store completed s k) :=
  inferInstanceAs (Decidable (∃ ws∈completed,k∈keysOf ws ∧ _=_))

instance (initial : S) (completed : List (List (K×V))) :
    DecidablePred (Undisturbed store initial completed)
  | .changed _ _ _ => inferInstanceAs (Decidable (∀ ws∈_,∀ k∈keysOf ws,k∉keysOf _ → (∃ _∈_,_) ∨ _))
  | .copied _ _ => isTrue trivial

instance (initial : S) (w : CopyWorld ι S K V) : DecidablePred (InOrder store initial w)
  | .putBack i =>
    inferInstanceAs (Decidable (∀ stage∈w.stage i,Undisturbed store initial w.completed stage))
  | .take _ | .change _ _ | .atOnce _ => isTrue trivial

end Decidable

variable {store} {w w' : CopyWorld ι S K V}

omit [DecidableEq ι] in
theorem NoneLost.of_held (h : ∀ ws∈w.completed,∀ k∈keysOf ws,Held store w.completed w.shared k) :
    NoneLost store w := by
  refine ⟨h,?_⟩
  intro before ws after split k written none
  have here : ws∈w.completed := by simp [split]
  obtain ⟨writer,present,wrote,found⟩ := h ws here k written
  rw [split,List.mem_append,List.mem_cons] at present
  have same : writer=ws := by
    rcases present with earlier|rfl|later
    · exact absurd wrote (none writer (List.mem_append_left _ earlier))
    · rfl
    · exact absurd wrote (none writer (List.mem_append_right _ later))
  rw [found,same]

omit [DecidableEq ι] in
theorem noneLost_iff : NoneLost store w ↔
    ∀ ws∈w.completed,∀ k∈keysOf ws,Held store w.completed w.shared k :=
  ⟨NoneLost.held,.of_held⟩

instance [DecidableEq V] (w : CopyWorld ι S K V) : Decidable (NoneLost store w) :=
  decidable_of_iff (∀ ws∈w.completed,∀ k∈keysOf ws,Held store w.completed w.shared k)
    noneLost_iff.symm

theorem find_write_own {s : S} {ws : List (K×V)} {k : K} (h : k∈keysOf ws) :
    store.find (store.write s ws) k=lastWrite k ws := by
  rw [store.find_write]
  cases written : lastWrite k ws with
  | none => exact absurd h (lastWrite_eq_none_iff.mp written)
  | some v => rfl

theorem find_write_other {s : S} {ws : List (K×V)} {k : K} (h : k∉keysOf ws) :
    store.find (store.write s ws) k=store.find s k := by
  rw [store.find_write,lastWrite_eq_none_iff.mpr h]
  rfl

/-- What a store has under a key that some updates have written, or none of them. -/
structure HeldOrInitial (store : Store S K V) (initial : S) (completed : List (List (K×V))) (s : S)
    (k : K) : Prop where
  held : (∃ ws∈completed,k∈keysOf ws) → Held store completed s k
  initial : (∀ ws∈completed,k∉keysOf ws) → store.find s k=store.find initial k

/-- A copy has what its update writes, and else what was in the store when it was taken. -/
def Taken (store : Store S K V) (initial : S) (completed : List (List (K×V))) :
    CopyStage S K V → Prop
  | .copied s seen => seen ≤ completed.length ∧
      ∀ k,HeldOrInitial store initial (completed.take seen) s k
  | .changed s seen own => seen ≤ completed.length ∧
      (∀ k∈keysOf own,store.find s k=lastWrite k own) ∧
      ∀ k,k∉keysOf own → HeldOrInitial store initial (completed.take seen) s k

/-- The store and the copies of it. -/
structure Copies (store : Store S K V) (initial : S) (w : CopyWorld ι S K V) : Prop where
  shared : ∀ k,(∀ ws∈w.completed,k∉keysOf ws) → store.find w.shared k=store.find initial k
  taken : ∀ i stage,w.stage i=some stage → Taken store initial w.completed stage

variable {initial : S} {completed : List (List (K×V))}

theorem HeldOrInitial.of_find {s s' : S} {k : K} (h : HeldOrInitial store initial completed s k)
    (same : store.find s' k=store.find s k) : HeldOrInitial store initial completed s' k := by
  refine ⟨?_,fun none => same.trans (h.initial none)⟩
  intro written
  obtain ⟨writer,present,wrote,found⟩ := h.held written
  exact ⟨writer,present,wrote,same.trans found⟩

omit [DecidableEq ι] in
theorem Copies.heldOrInitial (h : Copies store initial w) (kept : NoneLost store w) (k : K) :
    HeldOrInitial store initial w.completed w.shared k := by
  refine ⟨?_,h.shared k⟩
  rintro ⟨ws,present,written⟩
  exact kept.held ws present k written

/-- What was completed when a copy was taken stays so. -/
theorem Taken.append {stage : CopyStage S K V} (h : Taken store initial completed stage)
    (ws : List (K×V)) : Taken store initial (completed++[ws]) stage := by
  cases stage with
  | copied s seen =>
    obtain ⟨within,copy⟩ := h
    refine ⟨by simp only [List.length_append]; omega,?_⟩
    rwa [List.take_append_of_le_length within]
  | changed s seen own =>
    obtain ⟨within,mine,copy⟩ := h
    refine ⟨by simp only [List.length_append]; omega,mine,?_⟩
    rwa [List.take_append_of_le_length within]

theorem Taken.change {s : S} {seen : Nat} (h : Taken store initial completed (.copied s seen))
    (writes : List (K×V)) :
    Taken store initial completed (.changed (store.write s writes) seen writes) :=
  ⟨h.1,fun _ => find_write_own,fun k foreign => (h.2 k).of_find (find_write_other foreign)⟩

/-- A key that no update has written is as it was. -/
theorem Taken.unwritten {s : S} {seen : Nat} {own : List (K×V)} {k : K}
    (h : Taken store initial completed (.changed s seen own))
    (none : ∀ ws∈completed++[own],k∉keysOf ws) : store.find s k=store.find initial k := by
  refine (h.2.2 k (none own (by simp))).initial ?_
  intro ws earlier
  exact none ws (List.mem_append_left _ (List.mem_of_mem_take earlier))

theorem copies_step {l : CopyLabel ι K V} (h : Copies store initial w) (kept : NoneLost store w)
    (step : Step store w l w') : Copies store initial w' := by
  cases step with
  | @take i idle =>
    refine ⟨h.shared,?_⟩
    intro j stage staged
    by_cases same : j=i
    · obtain rfl : _=stage := by simpa [same] using staged
      refine ⟨Nat.le_refl _,fun k => ?_⟩
      rw [List.take_length]
      exact (h.heldOrInitial kept k).of_find (store.find_copy _ _)
    · exact h.taken j stage (by simpa [same] using staged)
  | @change i _ _ writes copied =>
    refine ⟨h.shared,?_⟩
    intro j stage staged
    by_cases same : j=i
    · obtain rfl : _=stage := by simpa [same] using staged
      exact (h.taken i _ copied).change writes
    · exact h.taken j stage (by simpa [same] using staged)
  | @putBack i s seen writes changed =>
    constructor
    · intro k none
      rw [store.find_copy]
      exact (h.taken i _ changed).unwritten none
    · intro j stage staged
      by_cases same : j=i
      · simp [same] at staged
      · exact (h.taken j stage (by simpa [same] using staged)).append writes
  | atOnce writes =>
    constructor
    · intro k none
      rw [store.find_copy,find_write_other (none writes (by simp)),store.find_copy]
      exact h.shared k fun ws earlier => none ws (List.mem_append_left _ earlier)
    · intro j stage staged
      exact (h.taken j stage staged).append writes

/-- The updates that a store holds once it has become the shared one with its own update's writes. -/
theorem held_append_iff {completed : List (List (K×V))} {own : List (K×V)} {s : S}
    (mine : ∀ k∈keysOf own,store.find s k=lastWrite k own) :
    (∀ ws∈completed++[own],∀ k∈keysOf ws,Held store (completed++[own]) s k) ↔
      ∀ ws∈completed,∀ k∈keysOf ws,k∉keysOf own → Held store completed s k := by
  constructor
  · intro all ws earlier k written foreign
    obtain ⟨writer,present,wrote,found⟩ := all ws (List.mem_append_left _ earlier) k written
    rcases List.mem_append.mp present with earlier|last
    · exact ⟨writer,earlier,wrote,found⟩
    · rw [List.mem_singleton.mp last] at wrote
      exact absurd wrote foreign
  · intro others ws present k written
    by_cases own_key : k∈keysOf own
    · exact ⟨own,List.mem_append_right _ List.mem_cons_self,own_key,mine k own_key⟩
    · rcases List.mem_append.mp present with earlier|last
      · obtain ⟨writer,present,rest⟩ := others ws earlier k written own_key
        exact ⟨writer,List.mem_append_left _ present,rest⟩
      · rw [List.mem_singleton.mp last] at written
        exact absurd written own_key

/-- A copy has the values of completed updates where its own update writes nothing if and only if
it has not been disturbed. -/
theorem Taken.held_iff {s : S} {seen : Nat} {own : List (K×V)}
    (h : Taken store initial completed (.changed s seen own)) :
    (∀ ws∈completed,∀ k∈keysOf ws,k∉keysOf own → Held store completed s k) ↔
      Undisturbed store initial completed (.changed s seen own) := by
  obtain ⟨within,-,copy⟩ := h
  -- a key of an update that was completed before is in the copy, any other as it was at the start
  have same_start {k : K} (foreign : k∉keysOf own)
      (none : ¬∃ earlier∈completed.take seen,k∈keysOf earlier) :
      store.find s k=store.find initial k :=
    (copy k foreign).initial fun ws earlier written => none ⟨ws,earlier,written⟩
  constructor
  · intro all ws since k written foreign
    by_cases before : ∃ earlier∈completed.take seen,k∈keysOf earlier
    · exact .inl before
    · obtain ⟨writer,present,wrote,found⟩ := all ws (List.mem_of_mem_drop since) k written foreign
      exact .inr ⟨writer,present,wrote,(same_start foreign before).symm.trans found⟩
  · intro undisturbed ws present k written foreign
    by_cases before : ∃ earlier∈completed.take seen,k∈keysOf earlier
    · obtain ⟨writer,earlier,wrote,found⟩ := (copy k foreign).held before
      exact ⟨writer,List.mem_of_mem_take earlier,wrote,found⟩
    · rw [← List.take_append_drop seen completed,List.mem_append] at present
      have since : ws∈completed.drop seen :=
        present.resolve_left fun earlier => before ⟨ws,earlier,written⟩
      obtain ⟨writer,present,wrote,found⟩ :=
        (undisturbed ws since k written foreign).resolve_left before
      exact ⟨writer,present,wrote,(same_start foreign before).trans found⟩

/-- A step loses no completed update if and only if what it puts back has not been disturbed. -/
theorem noneLost_step_iff {l : CopyLabel ι K V} (h : NoneLost store w)
    (copies : Copies store initial w) (step : Step store w l w') :
    NoneLost store w' ↔ InOrder store initial w l := by
  cases step with
  | take idle => exact iff_of_true (.of_held h.held) trivial
  | change writes copied => exact iff_of_true (.of_held h.held) trivial
  | @putBack i s seen writes stage =>
    have taken := copies.taken i _ stage
    have mine : ∀ k∈keysOf writes,store.find (store.copy s) k=lastWrite k writes := by
      intro k written
      rw [store.find_copy,taken.2.1 k written]
    rw [noneLost_iff,held_append_iff mine]
    simp only [InOrder,Option.mem_def,stage,Option.some.injEq,forall_eq',Held,store.find_copy]
    exact taken.held_iff
  | atOnce writes =>
    refine iff_of_true (.of_held ((held_append_iff ?_).mpr ?_)) trivial
    · intro k written
      rw [store.find_copy,find_write_own written]
    · intro ws earlier k written foreign
      obtain ⟨writer,present,wrote,found⟩ := h.held ws earlier k written
      refine ⟨writer,present,wrote,?_⟩
      rw [store.find_copy,find_write_other foreign,store.find_copy,found]

/-- In a run that puts back only copies that have not been disturbed no completed update is lost,
and a further step loses none if and only if it does so, too. -/
theorem noneLost_of_inOrder (start : CopyWorld ι S K V) {labels : List (CopyLabel ι K V)}
    (idle : ∀ i,start.stage i=none) (none : start.completed=[])
    (hr : Run (Guarded (InOrder store start.shared) (Step store)) start labels w) :
    NoneLost store w ∧
      ∀ l w',Step store w l w' → (NoneLost store w' ↔ InOrder store start.shared w l) := by
  refine hr.kept_iff_guard (I := Copies store start.shared) ?_ ?_ ⟨fun _ _ => rfl,?_⟩ (.of_held ?_)
  · intro w l w' copies kept step _
    exact copies_step copies kept step
  · intro w l w' copies kept step
    exact noneLost_step_iff kept copies step
  · intro i stage staged
    simp [idle] at staged
  · simp [none]

end CopyWorld

end IotMedia.Framework

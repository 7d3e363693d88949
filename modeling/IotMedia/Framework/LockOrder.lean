import IotMedia.Framework.Run
import Mathlib.Logic.Function.Basic
import Mathlib.Tactic.ByContra

namespace IotMedia.Framework

inductive LockOp (L : Type)
  | acquire (m : L)
  | release (m : L)
  deriving DecidableEq

variable {ι L : Type} [DecidableEq ι] [DecidableEq L]

namespace LockOp

/-- What a thread holds after one more operation. -/
def apply (held : List L) : LockOp L → List L
  | .acquire m => m::held
  | .release m => held.erase m

/-- What it holds after a script. -/
def heldAfter (held : List L) (ops : List (LockOp L)) : List L := ops.foldl apply held

@[simp] theorem heldAfter_nil (held : List L) : heldAfter held []=held := rfl

@[simp] theorem heldAfter_cons (held : List L) (op : LockOp L) (ops : List (LockOp L)) :
    heldAfter held (op::ops)=heldAfter (op.apply held) ops := rfl

@[simp] theorem heldAfter_append (held : List L) (ops more : List (LockOp L)) :
    heldAfter held (ops++more)=heldAfter (heldAfter held ops) more := List.foldl_append

/-- Somewhere in the script `b` is acquired with `a` held. -/
def Nests (held : List L) (ops : List (LockOp L)) (a b : L) : Prop :=
  ∃ before after,ops=before++.acquire b::after ∧ a∈heldAfter held before

/-- Somewhere in the script `a` and then `b` is acquired, with nothing held before. -/
def Opens (ops : List (LockOp L)) (a b : L) : Prop :=
  ∃ before after,ops=before++.acquire a::.acquire b::after ∧ heldAfter [] before=[]

/-- No mutex is acquired by a thread that holds it. -/
def Clean : List L → List (LockOp L) → Prop
  | _,[] => True
  | held,op::ops => (∀ m,op=.acquire m → m∉held) ∧ Clean (op.apply held) ops

section Scripts

variable {held : List L} {ops more : List (LockOp L)} {a b m : L}

@[simp] theorem not_nests_nil : ¬Nests held [] a b := by
  intro h
  obtain ⟨before,after,split,-⟩ := h
  simp at split

/-- The first operation nests, or a later one does. -/
theorem nests_cons (op : LockOp L) :
    Nests held (op::ops) a b ↔ op=.acquire b ∧ a∈held ∨ Nests (op.apply held) ops a b := by
  constructor
  · intro h
    obtain ⟨before,after,split,ha⟩ := h
    cases before with
    | nil =>
      have first : op=.acquire b ∧ ops=after := by simpa using split
      exact Or.inl ⟨first.1,ha⟩
    | cons first before =>
      have same : op=first ∧ ops=before++.acquire b::after := by simpa using split
      rw [same.1]
      exact Or.inr ⟨before,after,same.2,ha⟩
  · intro h
    cases h with
    | inl h => exact ⟨[],ops,by simp [h.1],h.2⟩
    | inr h =>
      obtain ⟨before,after,split,ha⟩ := h
      exact ⟨op::before,after,by simp [split],ha⟩

theorem nests_append : Nests held (ops++more) a b ↔
    Nests held ops a b ∨ Nests (heldAfter held ops) more a b := by
  induction ops generalizing held with
  | nil => simp
  | cons op ops ih =>
    rw [List.cons_append,nests_cons,nests_cons,ih,heldAfter_cons,or_assoc]

/-- Blocks that leave the thread holding what it held nest one by one. -/
theorem nests_flatten {blocks : List (List (LockOp L))}
    (hb : ∀ block∈blocks,heldAfter held block=held) :
    Nests held blocks.flatten a b ↔ ∃ block∈blocks,Nests held block a b := by
  induction blocks with
  | nil => simp
  | cons block blocks ih =>
    have rest := ih fun c hc => hb c (List.mem_cons_of_mem _ hc)
    rw [List.flatten_cons,nests_append,hb block List.mem_cons_self,rest]
    simp

theorem heldAfter_flatten {blocks : List (List (LockOp L))}
    (hb : ∀ block∈blocks,heldAfter held block=held) : heldAfter held blocks.flatten=held := by
  induction blocks with
  | nil => rfl
  | cons block blocks ih =>
    rw [List.flatten_cons,heldAfter_append,hb block List.mem_cons_self]
    exact ih fun c hc => hb c (List.mem_cons_of_mem _ hc)

omit [DecidableEq L] in
/-- Blocks that are empty or start with `op` make a script that is, too. -/
theorem starts_flatten {op : LockOp L} {blocks : List (List (LockOp L))}
    (hb : ∀ block∈blocks,block=[] ∨ ∃ rest,block=op::rest) :
    blocks.flatten=[] ∨ ∃ rest,blocks.flatten=op::rest := by
  induction blocks with
  | nil => exact Or.inl rfl
  | cons block blocks ih =>
    cases hb block List.mem_cons_self with
    | inl empty =>
      rw [List.flatten_cons,empty,List.nil_append]
      exact ih fun c hc => hb c (List.mem_cons_of_mem _ hc)
    | inr starts =>
      obtain ⟨rest,same⟩ := starts
      right
      exact ⟨rest++blocks.flatten,by rw [List.flatten_cons,same,List.cons_append]⟩

theorem opens_flatten {blocks : List (List (LockOp L))}
    (hb : ∀ block∈blocks,heldAfter [] block=[]) {block : List (LockOp L)} (hm : block∈blocks)
    (ho : Opens block a b) : Opens blocks.flatten a b := by
  obtain ⟨first,last,rfl⟩ := List.append_of_mem hm
  obtain ⟨before,after,split,nothing⟩ := ho
  refine ⟨first.flatten++before,after++last.flatten,by simp [split],?_⟩
  have idle : heldAfter [] first.flatten=[] :=
    heldAfter_flatten fun c hc => hb c (List.mem_append_left _ hc)
  rw [heldAfter_append,idle,nothing]

/-- A script is clean, or clean up to the first acquisition of a mutex that is held. -/
theorem clean_or_nests (held : List L) (ops : List (LockOp L)) : Clean held ops ∨
    ∃ before m after,ops=before++.acquire m::after ∧ Clean held before ∧
      m∈heldAfter held before := by
  induction ops generalizing held with
  | nil => exact Or.inl trivial
  | cons op ops ih =>
    by_cases hop : ∀ m,op=.acquire m → m∉held
    · cases ih (op.apply held) with
      | inl clean => exact Or.inl ⟨hop,clean⟩
      | inr first =>
        obtain ⟨before,m,after,split,clean,hm⟩ := first
        exact Or.inr ⟨op::before,m,after,by simp [split],⟨hop,clean⟩,hm⟩
    · right
      push Not at hop
      obtain ⟨m,rfl,hm⟩ := hop
      exact ⟨[],m,ops,rfl,trivial,hm⟩

theorem not_nests_clean (hc : Clean held ops) : ¬Nests held ops m m := by
  induction ops generalizing held with
  | nil => exact not_nests_nil
  | cons op ops ih =>
    rw [nests_cons]
    intro h
    cases h with
    | inl h => exact hc.1 m h.1 h.2
    | inr h => exact ih hc.2 h

theorem clean_of_not_nests (hn : ∀ m,¬Nests held ops m m) : Clean held ops := by
  cases clean_or_nests held ops with
  | inl clean => exact clean
  | inr first =>
    obtain ⟨before,m,after,split,-,hm⟩ := first
    exact absurd ⟨before,after,split,hm⟩ (hn m)

theorem Clean.left (hc : Clean held (ops++more)) : Clean held ops := by
  induction ops generalizing held with
  | nil => trivial
  | cons op ops ih => exact ⟨hc.1,ih hc.2⟩

end Scripts
end LockOp

open LockOp

/-- Threads that run scripts of acquisitions and releases. -/
structure LockState (ι L : Type) where
  held : ι → List L
  rest : ι → List (LockOp L)

namespace LockState

def start (scripts : ι → List (LockOp L)) : LockState ι L := ⟨fun _ => [],scripts⟩

def Free (s : LockState ι L) (m : L) : Prop := ∀ i,m∉s.held i

def advance (s : LockState ι L) (i : ι) (op : LockOp L) (ops : List (LockOp L)) :
    LockState ι L :=
  ⟨Function.update s.held i (op.apply (s.held i)),Function.update s.rest i ops⟩

/-- A thread makes its next operation; an acquisition only when nobody holds the mutex. -/
inductive Step (s : LockState ι L) (i : ι) : LockState ι L → Prop
  | run {op : LockOp L} {ops : List (LockOp L)} (next : s.rest i=op::ops)
      (free : ∀ m,op=.acquire m → s.Free m) : Step s i (s.advance i op ops)

def Waits (s : LockState ι L) (i : ι) (m : L) : Prop := ∃ ops,s.rest i=.acquire m::ops

/-- A thread waits for a mutex it holds. -/
def SelfWait (s : LockState ι L) : Prop := ∃ i m,s.Waits i m ∧ m∈s.held i

/-- Two threads each hold what the other waits for. -/
def CircularWait (s : LockState ι L) : Prop :=
  ∃ i j a b,a≠b ∧ a∈s.held i ∧ s.Waits i b ∧ b∈s.held j ∧ s.Waits j a

/-- Each thread is somewhere in its script and holds what it acquired so far. -/
def Traced (scripts : ι → List (LockOp L)) (s : LockState ι L) : Prop :=
  ∀ i,∃ done,scripts i=done++s.rest i ∧ s.held i=heldAfter [] done

variable {scripts : ι → List (LockOp L)} {s t : LockState ι L} {is : List ι} {i j : ι} {a b m : L}

theorem Step.traced (ht : Traced scripts s) (h : Step s i t) : Traced scripts t := by
  cases h with
  | run next free =>
    intro j
    obtain ⟨done,split,held⟩ := ht j
    by_cases hj : j=i
    · subst hj
      rename_i op ops
      refine ⟨done++[op],?_,?_⟩
      · rw [split,next]
        simp [advance]
      · rw [heldAfter_append,← held]
        simp [advance]
    · refine ⟨done,?_,?_⟩
      · simpa [advance,hj] using split
      · simpa [advance,hj] using held

theorem run_traced (hr : Run Step (start scripts) is s) : Traced scripts s := by
  apply hr.invariant (P := Traced scripts) (fun _ _ _ ht h => h.traced ht)
  intro i
  exact ⟨[],rfl,rfl⟩

omit [DecidableEq ι] in
/-- A thread that waits with a mutex in hand nests them in its script. -/
theorem Traced.nests (ht : Traced scripts s) (hw : s.Waits i b) (ha : a∈s.held i) :
    Nests [] (scripts i) a b := by
  obtain ⟨done,split,held⟩ := ht i
  obtain ⟨ops,next⟩ := hw
  refine ⟨done,ops,?_,?_⟩
  · rw [split,next]
  · rw [← held]
    exact ha

/-- Without nesting in opposite orders nobody waits for ever. -/
theorem run_no_wait (self : ∀ i m,¬Nests [] (scripts i) m m)
    (opposite : ∀ i j a b,i≠j → a≠b → Nests [] (scripts i) a b → ¬Nests [] (scripts j) b a)
    (hr : Run Step (start scripts) is s) : ¬s.SelfWait ∧ ¬s.CircularWait := by
  have traced := run_traced hr
  constructor
  · intro h
    obtain ⟨i,m,waits,held⟩ := h
    exact self i m (traced.nests waits held)
  · intro h
    obtain ⟨i,j,a,b,hab,hi,wi,hj,wj⟩ := h
    have distinct : i≠j := by
      intro same
      subst same
      obtain ⟨ops,first⟩ := wi
      obtain ⟨ops',second⟩ := wj
      rw [first] at second
      have equal : b=a := by simpa using (List.cons.inj second).1
      exact hab equal.symm
    exact opposite i j a b distinct hab (traced.nests wi hi) (traced.nests wj hj)

/-- A clean script runs to its end while the others hold nothing. -/
theorem run_alone (ops after : List (LockOp L)) (next : s.rest i=ops++after)
    (clean : Clean (s.held i) ops) (alone : ∀ j,j≠i → s.held j=[]) :
    ∃ is t,Run Step s is t ∧ t.rest i=after ∧ t.held i=heldAfter (s.held i) ops ∧
      ∀ j,j≠i → t.rest j=s.rest j ∧ t.held j=[] := by
  induction ops generalizing s with
  | nil => exact ⟨[],s,.nil,next,rfl,fun j hj => ⟨rfl,alone j hj⟩⟩
  | cons op ops ih =>
    have free : ∀ m,op=.acquire m → s.Free m := by
      intro m hop j
      by_cases hj : j=i
      · rw [hj]
        exact clean.1 m hop
      · rw [alone j hj]
        exact List.not_mem_nil
    have step : Step s i (s.advance i op (ops++after)) := .run next free
    have rest : (s.advance i op (ops++after)).rest i=ops++after := by simp [advance]
    have held : (s.advance i op (ops++after)).held i=op.apply (s.held i) := by simp [advance]
    have others : ∀ j,j≠i → (s.advance i op (ops++after)).rest j=s.rest j ∧
        (s.advance i op (ops++after)).held j=[] := by
      intro j hj
      simp [advance,hj,alone j hj]
    obtain ⟨is,t,run,restT,heldT,othersT⟩ := ih rest (by rw [held]; exact clean.2)
      (fun j hj => (others j hj).2)
    refine ⟨i::is,t,Run.cons step run,restT,?_,?_⟩
    · rw [heldT,held]
      rfl
    · intro j hj
      exact ⟨(othersT j hj).1.trans (others j hj).1,(othersT j hj).2⟩

variable (scripts) in
theorem reach_selfWait (h : Nests [] (scripts i) m m) :
    ∃ is s,Run Step (start scripts) is s ∧ s.SelfWait := by
  cases clean_or_nests [] (scripts i) with
  | inl clean => exact absurd h (not_nests_clean clean)
  | inr first =>
    obtain ⟨before,n,after,split,clean,hn⟩ := first
    obtain ⟨is,t,run,rest,held,-⟩ := run_alone (s := start scripts) before _ split clean
      (fun _ _ => rfl)
    exact ⟨is,t,run,i,n,⟨after,rest⟩,by rw [held]; exact hn⟩

variable (scripts) in
/-- Two threads that open two mutexes in opposite orders come to wait for each other. -/
theorem reach_circularWait (hij : i≠j) (hab : a≠b) (self : ∀ i m,¬Nests [] (scripts i) m m)
    (hi : Opens (scripts i) a b) (hj : Opens (scripts j) b a) :
    ∃ is s,Run Step (start scripts) is s ∧ s.CircularWait := by
  obtain ⟨beforeI,afterI,splitI,nothingI⟩ := hi
  obtain ⟨beforeJ,afterJ,splitJ,nothingJ⟩ := hj
  have cleanI : Clean [] beforeI := by
    have whole := clean_of_not_nests (self i)
    rw [splitI] at whole
    exact whole.left
  have cleanJ : Clean [] beforeJ := by
    have whole := clean_of_not_nests (self j)
    rw [splitJ] at whole
    exact whole.left
  -- first each runs alone to where it holds nothing
  obtain ⟨is,s,runI,restI,heldI,othersI⟩ := run_alone (s := start scripts) beforeI _ splitI
    cleanI (fun _ _ => rfl)
  have nothing : ∀ k,s.held k=[] := by
    intro k
    by_cases hk : k=i
    · rw [hk,heldI]
      exact nothingI
    · exact (othersI k hk).2
  have restJ : s.rest j=beforeJ++.acquire b::.acquire a::afterJ :=
    (othersI j hij.symm).1.trans splitJ
  obtain ⟨js,t,runJ,restJ',heldJ,othersJ⟩ := run_alone beforeJ _ restJ
    (by rw [nothing j]; exact cleanJ) (fun k _ => nothing k)
  have nothing' : ∀ k,t.held k=[] := by
    intro k
    by_cases hk : k=j
    · rw [hk,heldJ,nothing j]
      exact nothingJ
    · exact (othersJ k hk).2
  -- then each takes its first mutex
  have restI' : t.rest i=.acquire a::.acquire b::afterI := (othersJ i hij).1.trans restI
  have stepI : Step t i (t.advance i (.acquire a) (.acquire b::afterI)) := by
    refine .run restI' fun m _ k => ?_
    rw [nothing' k]
    exact List.not_mem_nil
  generalize hu : t.advance i (.acquire a) (.acquire b::afterI)=u at stepI
  have heldU : ∀ k,u.held k=if k=i then [a] else [] := by
    intro k
    rw [← hu]
    by_cases hk : k=i
    · subst hk
      simp [advance,nothing',apply]
    · simp [advance,hk,nothing']
  have nextI : u.rest i=.acquire b::afterI := by simp [← hu,advance]
  have nextJ : u.rest j=.acquire b::.acquire a::afterJ := by
    simp [← hu,advance,hij.symm,restJ']
  have stepJ : Step u j (u.advance j (.acquire b) (.acquire a::afterJ)) := by
    refine .run nextJ fun m hm k => ?_
    have same : b=m := by simpa using hm
    rw [heldU k]
    split_ifs
    · simpa [← same] using hab.symm
    · exact List.not_mem_nil
  refine ⟨_,_,.snoc (.snoc (runI.append runJ) stepI) stepJ,i,j,a,b,hab,?_,?_,?_,?_⟩
  · simp [advance,hij,heldU]
  · exact ⟨afterI,by simpa [advance,hij] using nextI⟩
  · simp [advance,apply]
  · exact ⟨afterJ,by simp [advance]⟩

section Blocks

/-! Threads that run blocks of which each ends with nothing held and opens the mutexes it
nests. -/

variable {blocks : ι → List (List (LockOp L))}

/-- Exactly the blocks that nest a mutex in itself, or that two threads nest in opposite
orders, lead to such waits. -/
theorem no_wait_iff (balanced : ∀ i,∀ p∈blocks i,heldAfter [] p=[])
    (opens : ∀ i,∀ p∈blocks i,(∀ m,¬Nests [] p m m) → ∀ a b,Nests [] p a b → Opens p a b) :
    (∀ is s,Run Step (start fun i => (blocks i).flatten) is s →
      ¬s.SelfWait ∧ ¬s.CircularWait) ↔
    (∀ i,∀ p∈blocks i,∀ m,¬Nests [] p m m) ∧
    ∀ i j,i≠j → ∀ p∈blocks i,∀ q∈blocks j,∀ a b,a≠b → Nests [] p a b → ¬Nests [] q b a := by
  constructor
  · intro never
    have self : ∀ i,∀ p∈blocks i,∀ m,¬Nests [] p m m := by
      intro i p hp m nested
      have whole : Nests [] (blocks i).flatten m m :=
        (nests_flatten (balanced i)).mpr ⟨p,hp,nested⟩
      obtain ⟨is,s,run,wait⟩ := reach_selfWait (fun i => (blocks i).flatten) whole
      exact (never is s run).1 wait
    refine ⟨self,?_⟩
    intro i j hij p hp q hq a b hab first second
    have openI := opens_flatten (balanced i) hp (opens i p hp (self i p hp) a b first)
    have openJ := opens_flatten (balanced j) hq (opens j q hq (self j q hq) b a second)
    have whole : ∀ i m,¬Nests [] (blocks i).flatten m m := by
      intro k m nested
      obtain ⟨r,hr,inner⟩ := (nests_flatten (balanced k)).mp nested
      exact self k r hr m inner
    obtain ⟨is,s,run,wait⟩ := reach_circularWait (fun i => (blocks i).flatten)
      hij hab whole openI openJ
    exact (never is s run).2 wait
  · intro h is s run
    refine run_no_wait ?_ ?_ run
    · intro i m nested
      obtain ⟨p,hp,inner⟩ := (nests_flatten (balanced i)).mp nested
      exact h.1 i p hp m inner
    · intro i j a b hij hab first second
      obtain ⟨p,hp,innerP⟩ := (nests_flatten (balanced i)).mp first
      obtain ⟨q,hq,innerQ⟩ := (nests_flatten (balanced j)).mp second
      exact h.2 i j hij p hp q hq a b hab innerP innerQ

end Blocks
end LockState
end IotMedia.Framework

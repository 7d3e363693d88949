import IotMedia.Framework.Run
import Mathlib.Logic.Function.Basic
import Mathlib.Tactic.SplitIfs

namespace IotMedia.Framework

/-! An object behind a mutex and a condition variable. An operation waits until its guard holds, or
until its deadline if it has one; one that may make a guard true notifies all waiting threads
before it lets the mutex go. -/

structure WaitedObject (σ ω ρ : Type) where
  guard : ω → σ → Bool
  effect : ω → σ → σ × ρ
  notifies : ω → Bool
  /-- The answer when the deadline has passed and the guard does not hold. -/
  timedOut : ω → Option ρ
  quiet : ∀ op s,notifies op=false → guard op s=true → ∀ op',
    guard op' (effect op s).1=true → guard op' s=true

inductive WaitPhase (ω ρ : Type)
  | outside
  | entering (op : ω)
  | testing (op : ω)
  | passed (op : ω)
  | changed (r : ρ)
  | leaving (r : ρ)
  | asleep (op : ω)
  | woken (op : ω)

/-- The thread is inside the mutex. -/
def WaitPhase.holds {ω ρ : Type} : WaitPhase ω ρ → Bool
  | .testing _ | .passed _ | .changed _ | .leaving _ => true
  | .outside | .entering _ | .asleep _ | .woken _ => false

def WaitPhase.notified {ω ρ : Type} : WaitPhase ω ρ → WaitPhase ω ρ
  | .asleep op => .woken op
  | p => p

inductive WaitLabel (ι ω ρ : Type)
  | call (i : ι) (op : ω)
  | lock (i : ι)
  | pass (i : ι)
  | sleep (i : ι)
  | finish (i : ι)
  | notify (i : ι)
  | wake (i : ι)
  | ret (i : ι) (r : ρ)

namespace WaitLabel

variable {ι ω ρ : Type}

def thread : WaitLabel ι ω ρ → ι
  | .call i _ | .lock i | .pass i | .sleep i | .finish i | .notify i | .wake i | .ret i _ => i

/-- The step shows neither a call nor a return, and no operation takes effect in it. -/
def hidden : WaitLabel ι ω ρ → Bool
  | .lock _ | .pass _ | .sleep _ | .notify _ | .wake _ => true
  | .call .. | .finish _ | .ret .. => false

variable [DecidableEq ι]

def callBy (i : ι) : WaitLabel ι ω ρ → Option ω
  | .call j op => if j=i then some op else none
  | _ => none

def retBy (i : ι) : WaitLabel ι ω ρ → Option ρ
  | .ret j r => if j=i then some r else none
  | _ => none

end WaitLabel

/-- `log` records the operations and their answers in the order in which they took effect. -/
structure WaitWorld (ι σ ω ρ : Type) where
  data : σ
  owner : Option ι := none
  phase : ι → WaitPhase ω ρ := fun _ => .outside
  log : List (ι × ω × ρ) := []

variable {ι σ ω ρ : Type} [DecidableEq ι]

namespace WaitedObject

variable (O : WaitedObject σ ω ρ)

/-- What the thread answers that leaves its waiting loop: a guard that does not hold means that the
deadline has passed. -/
def answer (op : ω) (d : σ) : σ × ρ :=
  match O.timedOut op with
  | some r => if O.guard op d then O.effect op d else (d,r)
  | none => O.effect op d

/-- The answer of an operation that takes effect at once. -/
def Answers (d : σ) (op : ω) (r : ρ) (d' : σ) : Prop :=
  O.guard op d=true ∧ O.effect op d=(d',r) ∨
    O.guard op d=false ∧ O.timedOut op=some r ∧ d'=d

end WaitedObject

namespace WaitWorld

def move (s : WaitWorld ι σ ω ρ) (i : ι) (p : WaitPhase ω ρ) : WaitWorld ι σ ω ρ :=
  { s with phase := Function.update s.phase i p }

/-- The answered operation, with the threads that sleep still to be notified if it has to. -/
def finish (O : WaitedObject σ ω ρ) (s : WaitWorld ι σ ω ρ) (i : ι) (op : ω) :
    WaitWorld ι σ ω ρ :=
  let answered := O.answer op s.data
  { s with
    data := answered.1
    phase := Function.update s.phase i
      (if O.notifies op then .changed answered.2 else .leaving answered.2)
    log := s.log++[(i,op,answered.2)] }

/-- The thread wakes all that sleep. -/
def notifyAll (s : WaitWorld ι σ ω ρ) (i : ι) (r : ρ) : WaitWorld ι σ ω ρ :=
  { s with phase := Function.update (fun j => (s.phase j).notified) i (.leaving r) }

inductive Step (O : WaitedObject σ ω ρ) :
    WaitWorld ι σ ω ρ → WaitLabel ι ω ρ → WaitWorld ι σ ω ρ → Prop
  | call {s : WaitWorld ι σ ω ρ} {i : ι} {op : ω} (idle : s.phase i=.outside) :
    Step O s (.call i op) (s.move i (.entering op))
  | lock {s : WaitWorld ι σ ω ρ} {i : ι} {op : ω}
    (wants : s.phase i=.entering op ∨ s.phase i=.woken op) (free : s.owner=none) :
    Step O s (.lock i) { s.move i (.testing op) with owner := some i }
  | pass {s : WaitWorld ι σ ω ρ} {i : ι} {op : ω} (tests : s.phase i=.testing op)
    (ready : O.guard op s.data=true ∨ (O.timedOut op).isSome) :
    Step O s (.pass i) (s.move i (.passed op))
  | sleep {s : WaitWorld ι σ ω ρ} {i : ι} {op : ω} (tests : s.phase i=.testing op)
    (closed : O.guard op s.data=false) :
    Step O s (.sleep i) { s.move i (.asleep op) with owner := none }
  | finish {s : WaitWorld ι σ ω ρ} {i : ι} {op : ω} (ready : s.phase i=.passed op) :
    Step O s (.finish i) (s.finish O i op)
  | notify {s : WaitWorld ι σ ω ρ} {i : ι} {r : ρ} (changed : s.phase i=.changed r) :
    Step O s (.notify i) (s.notifyAll i r)
  /-- The deadline passes, or the thread wakes for no reason. -/
  | wake {s : WaitWorld ι σ ω ρ} {i : ι} {op : ω} (sleeps : s.phase i=.asleep op) :
    Step O s (.wake i) (s.move i (.woken op))
  | ret {s : WaitWorld ι σ ω ρ} {i : ι} {r : ρ} (leaves : s.phase i=.leaving r) :
    Step O s (.ret i r) { s.move i .outside with owner := none }

/-- Exactly the owner is inside the mutex, a thread that has left its loop may answer, and a thread
sleeps on a guard that holds only until the thread that made it true notifies. -/
structure Inv (O : WaitedObject σ ω ρ) (s : WaitWorld ι σ ω ρ) : Prop where
  owner : ∀ i,(s.phase i).holds=true ↔ s.owner=some i
  ready : ∀ i op,s.phase i=.passed op → O.guard op s.data=true ∨ (O.timedOut op).isSome
  awake : ∀ i op,s.phase i=.asleep op → O.guard op s.data=true → ∃ j r,s.phase j=.changed r

variable {O : WaitedObject σ ω ρ} {s t : WaitWorld ι σ ω ρ} {i j : ι} {l : WaitLabel ι ω ρ}

omit [DecidableEq ι] in
theorem start_inv (d : σ) : Inv O ({ data := d } : WaitWorld ι σ ω ρ) where
  owner := fun i => by simp [WaitPhase.holds]
  ready := fun i op h => by cases h
  awake := fun i op h => by cases h

omit [DecidableEq ι] in
/-- Two threads are not inside the mutex at once. -/
theorem Inv.alone (h : Inv O s) (hi : (s.phase i).holds=true) (hj : (s.phase j).holds=true) :
    j=i := by
  have owner := (h.owner i).mp hi
  rw [(h.owner j).mp hj] at owner
  exact Option.some.inj owner

/-- One thread has moved. What is told of it and of the others makes the invariant. -/
theorem inv_update {p : WaitPhase ω ρ} {owner : Option ι} {data : σ}
    {log : List (ι × ω × ρ)} (mine : p.holds=true ↔ owner=some i)
    (others : ∀ j,j≠i → ((s.phase j).holds=true ↔ owner=some j))
    (passes : ∀ op,p=.passed op → O.guard op data=true ∨ (O.timedOut op).isSome)
    (ready : ∀ j op,j≠i → s.phase j=.passed op →
      O.guard op data=true ∨ (O.timedOut op).isSome)
    (closed : ∀ op,p=.asleep op → O.guard op data=false)
    (awake : ∀ j op,j≠i → s.phase j=.asleep op → O.guard op data=true →
      (∃ r,p=.changed r) ∨ ∃ k r,k≠i ∧ s.phase k=.changed r) :
    Inv O ⟨data,owner,Function.update s.phase i p,log⟩ := by
  refine ⟨?_,?_,?_⟩
  · intro j
    by_cases same : j=i
    · subst same
      simpa only [Function.update_self] using mine
    · simpa only [Function.update_of_ne same] using others j same
  · intro j op hj
    by_cases same : j=i
    · subst same
      simp only [Function.update_self] at hj
      exact passes op hj
    · simp only [Function.update_of_ne same] at hj
      exact ready j op same hj
  · intro j op hj open_
    by_cases same : j=i
    · subst same
      simp only [Function.update_self] at hj
      rw [closed op hj] at open_
      cases open_
    · simp only [Function.update_of_ne same] at hj
      rcases awake j op same hj open_ with ⟨r,hp⟩|⟨k,r,other,hk⟩
      · exact ⟨i,r,by simpa only [Function.update_self] using hp⟩
      · exact ⟨k,r,by simpa only [Function.update_of_ne other] using hk⟩

/-- A thread moves that stays on its side of the mutex, without touching the data. -/
theorem Inv.moved (h : Inv O s) {p : WaitPhase ω ρ} (side : p.holds=(s.phase i).holds)
    (passes : ∀ op,p=.passed op → O.guard op s.data=true ∨ (O.timedOut op).isSome)
    (stays : ∀ op,p≠.asleep op) (owes : ∀ r,s.phase i≠.changed r) : Inv O (s.move i p) := by
  refine inv_update ?_ (fun j _ => h.owner j) passes (fun j op _ => h.ready j op)
    (fun op asleep => absurd asleep (stays op)) ?_
  · rw [side]
    exact h.owner i
  · intro j op _ sleeps open_
    obtain ⟨k,r,hk⟩ := h.awake j op sleeps open_
    refine Or.inr ⟨k,r,?_,hk⟩
    rintro rfl
    exact owes r hk

/-- The owner leaves the mutex. -/
theorem Inv.left (h : Inv O s) {p : WaitPhase ω ρ} (inside : (s.phase i).holds=true)
    (out : p.holds=false) (closed : ∀ op,p=.asleep op → O.guard op s.data=false)
    (owes : ∀ r,s.phase i≠.changed r) : Inv O { s.move i p with owner := none } := by
  refine inv_update ?_ ?_ ?_ (fun j op _ => h.ready j op) closed ?_
  · rw [out]
    simp
  · intro j other
    have outside : (s.phase j).holds=false := by
      by_contra holds
      exact other (h.alone inside (by simpa using holds))
    rw [outside]
    simp
  · intro op passed
    rw [passed] at out
    cases out
  · intro j op _ sleeps open_
    obtain ⟨k,r,hk⟩ := h.awake j op sleeps open_
    refine Or.inr ⟨k,r,?_,hk⟩
    rintro rfl
    exact owes r hk

theorem Inv.lock (h : Inv O s) {op : ω} (free : s.owner=none)
    (outside : ∀ r,s.phase i≠.changed r) : Inv O { s.move i (.testing op) with owner := some i } := by
  refine inv_update ?_ ?_ (fun op passed => by cases passed) (fun j op _ => h.ready j op)
    (fun op asleep => by cases asleep) ?_
  · simp [WaitPhase.holds]
  · intro j other
    rw [h.owner j,free]
    simp [Ne.symm other]
  · intro j op _ sleeps open_
    obtain ⟨k,r,hk⟩ := h.awake j op sleeps open_
    refine Or.inr ⟨k,r,?_,hk⟩
    rintro rfl
    exact outside r hk

/-- An answer with nothing to notify of makes no guard true. -/
theorem answer_quiet {op op' : ω} {d : σ} (quiet : O.notifies op=false)
    (ready : O.guard op d=true ∨ (O.timedOut op).isSome)
    (open_ : O.guard op' (O.answer op d).1=true) : O.guard op' d=true := by
  unfold WaitedObject.answer at open_
  split at open_
  · split_ifs at open_ with holds
    · exact O.quiet op d quiet holds op' open_
    · exact open_
  · have holds : O.guard op d=true := by
      rcases ready with holds|timed
      · exact holds
      · simp_all
    exact O.quiet op d quiet holds op' open_

theorem Inv.finish (h : Inv O s) {op : ω} (hi : s.phase i=.passed op) : Inv O (s.finish O i op) := by
  have inside : (s.phase i).holds=true := by rw [hi]; rfl
  have alone (j : ι) (hj : (s.phase j).holds=true) : j=i := h.alone inside hj
  refine inv_update ?_ (fun j _ => h.owner j) ?_ ?_ ?_ ?_
  · have both : (if O.notifies op=true then .changed (O.answer op s.data).2
        else .leaving (O.answer op s.data).2 : WaitPhase ω ρ).holds=true := by
      split_ifs <;> rfl
    rw [both,← h.owner i,inside]
  · intro op' passed
    split_ifs at passed
  · intro j op' other passed
    exact absurd (alone j (by rw [passed]; rfl)) other
  · intro op' asleep
    split_ifs at asleep
  · intro j op' _ sleeps open_
    by_cases notifies : O.notifies op=true
    · exact Or.inl ⟨(O.answer op s.data).2,by rw [if_pos notifies]⟩
    · have before := answer_quiet (by simpa using notifies) (h.ready i op hi) open_
      obtain ⟨k,r,hk⟩ := h.awake j op' sleeps before
      have same := alone k (by rw [hk]; rfl)
      rw [same,hi] at hk
      cases hk

theorem notified_holds (p : WaitPhase ω ρ) : p.notified.holds=p.holds := by
  cases p <;> rfl

theorem notified_asleep (p : WaitPhase ω ρ) (op : ω) : p.notified≠.asleep op := by
  cases p <;> simp [WaitPhase.notified]

theorem notified_passed {p : WaitPhase ω ρ} {op : ω} (h : p.notified=.passed op) :
    p=.passed op := by
  cases p <;> simp_all [WaitPhase.notified]

theorem Inv.notify (h : Inv O s) {r : ρ} (hi : s.phase i=.changed r) :
    Inv O (s.notifyAll i r) := by
  have owner := h.owner i
  rw [hi] at owner
  refine inv_update (s := { s with phase := fun j => (s.phase j).notified }) owner ?_
    (fun op passed => by cases passed) ?_ (fun op asleep => by cases asleep) ?_
  · intro j _
    simp only [notified_holds]
    exact h.owner j
  · intro j op _ passed
    exact h.ready j op (notified_passed passed)
  · intro j op _ sleeps
    exact absurd sleeps (notified_asleep _ op)

theorem Inv.step (h : Inv O s) (step : Step O s l t) : Inv O t := by
  cases step with
  | @call i op idle =>
    refine h.moved ?_ (fun op passed => by cases passed) (fun op asleep => by cases asleep) ?_
    · rw [idle]
      rfl
    · rw [idle]
      exact fun r changed => by cases changed
  | @lock i op wants free =>
    refine h.lock free fun r changed => ?_
    rw [changed] at wants
    rcases wants with wants|wants <;> cases wants
  | @pass i op tests ready =>
    refine h.moved ?_ ?_ (fun op asleep => by cases asleep) ?_
    · rw [tests]
      rfl
    · intro op' passed
      cases passed
      exact ready
    · rw [tests]
      exact fun r changed => by cases changed
  | @sleep i op tests closed =>
    refine h.left ?_ rfl ?_ ?_
    · rw [tests]
      rfl
    · intro op' asleep
      cases asleep
      exact closed
    · rw [tests]
      exact fun r changed => by cases changed
  | finish ready => exact h.finish ready
  | notify changed => exact h.notify changed
  | @wake i op sleeps =>
    refine h.moved ?_ (fun op passed => by cases passed) (fun op asleep => by cases asleep) ?_
    · rw [sleeps]
      rfl
    · rw [sleeps]
      exact fun r changed => by cases changed
  | @ret i r leaves =>
    refine h.left ?_ rfl (fun op asleep => by cases asleep) ?_
    · rw [leaves]
      rfl
    · rw [leaves]
      exact fun r changed => by cases changed

theorem run_inv {d : σ} {ls : List (WaitLabel ι ω ρ)} (hr : Run (Step O) { data := d } ls s) :
    Inv O s :=
  hr.invariant (fun _ _ _ h step => h.step step) (start_inv d)

omit [DecidableEq ι] in
/-- No wake-up is lost: while the mutex is free no thread sleeps on a guard that holds. -/
theorem Inv.closed (h : Inv O s) (free : s.owner=none) {op : ω} (sleeps : s.phase i=.asleep op) :
    O.guard op s.data=false := by
  by_contra open_
  obtain ⟨j,r,hj⟩ := h.awake i op sleeps (by simpa using open_)
  have owner := (h.owner j).mp (by rw [hj]; rfl)
  rw [free] at owner
  cases owner

/-- The thread is in a call and does not sleep without a deadline. -/
def Active (O : WaitedObject σ ω ρ) (s : WaitWorld ι σ ω ρ) (i : ι) : Prop :=
  s.phase i≠.outside ∧ ∀ op,s.phase i=.asleep op → (O.timedOut op).isSome

/-- The owner can always go on. -/
theorem owner_steps (hi : (s.phase i).holds=true) :
    Active O s i ∧ ∃ l t,l.thread=i ∧ Step O s l t := by
  refine ⟨⟨?_,?_⟩,?_⟩
  · intro outside
    rw [outside] at hi
    cases hi
  · intro op asleep
    rw [asleep] at hi
    cases hi
  · cases hp : s.phase i with
    | testing op =>
      cases open_ : O.guard op s.data with
      | true => exact ⟨.pass i,_,rfl,.pass hp (Or.inl open_)⟩
      | false => exact ⟨.sleep i,_,rfl,.sleep hp open_⟩
    | passed op => exact ⟨.finish i,_,rfl,.finish hp⟩
    | changed r => exact ⟨.notify i,_,rfl,.notify hp⟩
    | leaving r => exact ⟨.ret i r,_,rfl,.ret hp⟩
    | outside | entering | asleep | woken =>
      rw [hp] at hi
      cases hi

/-- Some active thread can go on, unless every thread is outside or sleeps without a deadline on a
guard that does not hold. -/
theorem Inv.goes_on (h : Inv O s) : (∃ i,Active O s i ∧ ∃ l t,l.thread=i ∧ Step O s l t) ∨
    ∀ i,s.phase i=.outside ∨
      ∃ op,s.phase i=.asleep op ∧ O.timedOut op=none ∧ O.guard op s.data=false := by
  cases owned : s.owner with
  | some i => exact Or.inl ⟨i,owner_steps ((h.owner i).mpr owned)⟩
  | none =>
    by_cases moves : ∃ i,Active O s i
    · obtain ⟨i,active⟩ := moves
      refine Or.inl ⟨i,active,?_⟩
      cases hp : s.phase i with
      | outside => exact absurd hp active.1
      | entering op => exact ⟨.lock i,_,rfl,.lock (Or.inl hp) owned⟩
      | woken op => exact ⟨.lock i,_,rfl,.lock (Or.inr hp) owned⟩
      | asleep op => exact ⟨.wake i,_,rfl,.wake hp⟩
      | testing | passed | changed | leaving =>
        have inside := (h.owner i).mp (by rw [hp]; rfl)
        rw [owned] at inside
        cases inside
    · refine Or.inr fun i => ?_
      by_contra neither
      rw [not_or] at neither
      refine moves ⟨i,neither.1,?_⟩
      intro op sleeps
      by_contra untimed
      refine neither.2 ⟨op,sleeps,?_,h.closed owned sleeps⟩
      simpa using untimed

end WaitWorld

/-! The same object without the mutex: an operation takes effect in one step between its call and
its return. -/

inductive CallPhase (ω ρ : Type)
  | outside
  | called (op : ω)
  | done (r : ρ)

structure CallWorld (ι σ ω ρ : Type) where
  data : σ
  phase : ι → CallPhase ω ρ
  log : List (ι × ω × ρ)

/-- The operation that has been called and did not take effect. -/
def CallPhase.pending {ω ρ : Type} : CallPhase ω ρ → List ω
  | .called op => [op]
  | .outside | .done _ => []

/-- The answer that has not been returned. -/
def CallPhase.ready {ω ρ : Type} : CallPhase ω ρ → List ρ
  | .done r => [r]
  | .outside | .called _ => []

/-- A thread's part of the log. -/
def opsOf (i : ι) (log : List (ι × ω × ρ)) : List ω :=
  log.filterMap fun e => if e.1=i then some e.2.1 else none

def answersOf (i : ι) (log : List (ι × ω × ρ)) : List ρ :=
  log.filterMap fun e => if e.1=i then some e.2.2 else none

namespace CallWorld

inductive Step (O : WaitedObject σ ω ρ) :
    CallWorld ι σ ω ρ → WaitLabel ι ω ρ → CallWorld ι σ ω ρ → Prop
  | call {s : CallWorld ι σ ω ρ} {i : ι} {op : ω} (idle : s.phase i=.outside) :
    Step O s (.call i op) { s with phase := Function.update s.phase i (.called op) }
  | perform {s : CallWorld ι σ ω ρ} {i : ι} {op : ω} {r : ρ} {d : σ}
    (called : s.phase i=.called op) (answers : O.Answers s.data op r d) :
    Step O s (.finish i) ⟨d,Function.update s.phase i (.done r),s.log++[(i,op,r)]⟩
  | ret {s : CallWorld ι σ ω ρ} {i : ι} {r : ρ} (done : s.phase i=.done r) :
    Step O s (.ret i r) { s with phase := Function.update s.phase i .outside }
  | skip {s : CallWorld ι σ ω ρ} {l : WaitLabel ι ω ρ} (hidden : l.hidden=true) : Step O s l s

/-- The log is a run of the object by itself, and each thread's part of it is the thread's calls
but for one that is pending, and the thread's returns with one that is ready. -/
structure History (O : WaitedObject σ ω ρ) (d : σ) (ls : List (WaitLabel ι ω ρ))
    (s : CallWorld ι σ ω ρ) : Prop where
  legal : Run (fun d (e : ι × ω × ρ) d' => O.Answers d e.2.1 e.2.2 d') d s.log s.data
  calls : ∀ i,ls.filterMap (WaitLabel.callBy i)=opsOf i s.log++(s.phase i).pending
  returns : ∀ i,ls.filterMap (WaitLabel.retBy i)++(s.phase i).ready=answersOf i s.log

variable {O : WaitedObject σ ω ρ} {d : σ} {ls : List (WaitLabel ι ω ρ)} {s t : CallWorld ι σ ω ρ}
  {l : WaitLabel ι ω ρ}

omit [DecidableEq ι] in
theorem filterMap_snoc {α β : Type} (f : α → Option β) (as : List α) (a : α) :
    (as++[a]).filterMap f=as.filterMap f++(f a).toList := by
  cases h : f a <;> simp [h]

theorem opsOf_snoc (i j : ι) (log : List (ι × ω × ρ)) (op : ω) (r : ρ) :
    opsOf j (log++[(i,op,r)])=opsOf j log++if i=j then [op] else [] := by
  by_cases same : i=j
  · simp [opsOf,same]
  · simp [opsOf,same]

theorem answersOf_snoc (i j : ι) (log : List (ι × ω × ρ)) (op : ω) (r : ρ) :
    answersOf j (log++[(i,op,r)])=answersOf j log++if i=j then [r] else [] := by
  by_cases same : i=j
  · simp [answersOf,same]
  · simp [answersOf,same]

theorem History.step (h : History O d ls s) (step : Step O s l t) : History O d (ls++[l]) t := by
  have calls (i : ι) := filterMap_snoc (WaitLabel.callBy i) ls l
  have returns (i : ι) := filterMap_snoc (WaitLabel.retBy i) ls l
  cases step with
  | @call i op idle =>
    refine ⟨h.legal,?_,?_⟩
    · intro j
      rw [calls j,h.calls j]
      by_cases same : i=j
      · subst same
        simp [WaitLabel.callBy,idle,CallPhase.pending]
      · simp [WaitLabel.callBy,same,Function.update_of_ne (Ne.symm same)]
    · intro j
      rw [returns j,← h.returns j]
      by_cases same : i=j
      · subst same
        simp [WaitLabel.retBy,idle,CallPhase.ready]
      · simp [WaitLabel.retBy,Function.update_of_ne (Ne.symm same)]
  | @perform i op r d' called answers =>
    refine ⟨.snoc h.legal answers,?_,?_⟩
    · intro j
      rw [calls j,h.calls j,opsOf_snoc]
      by_cases same : i=j
      · subst same
        simp [WaitLabel.callBy,called,CallPhase.pending]
      · simp [WaitLabel.callBy,same,Function.update_of_ne (Ne.symm same)]
    · intro j
      rw [returns j,answersOf_snoc,← h.returns j]
      by_cases same : i=j
      · subst same
        simp [WaitLabel.retBy,called,CallPhase.ready]
      · simp [WaitLabel.retBy,same,Function.update_of_ne (Ne.symm same)]
  | @ret i r done =>
    refine ⟨h.legal,?_,?_⟩
    · intro j
      rw [calls j,h.calls j]
      by_cases same : i=j
      · subst same
        simp [WaitLabel.callBy,done,CallPhase.pending]
      · simp [WaitLabel.callBy,Function.update_of_ne (Ne.symm same)]
    · intro j
      rw [returns j,← h.returns j]
      by_cases same : i=j
      · subst same
        simp [WaitLabel.retBy,done,CallPhase.ready]
      · simp [WaitLabel.retBy,same,Function.update_of_ne (Ne.symm same)]
  | skip hidden =>
    refine ⟨h.legal,?_,?_⟩
    · intro j
      have none_called : WaitLabel.callBy j l=none := by cases l <;> first | rfl | cases hidden
      rw [calls j,none_called,h.calls j]
      simp
    · intro j
      have none_returned : WaitLabel.retBy j l=none := by cases l <;> first | rfl | cases hidden
      rw [returns j,none_returned,← h.returns j]
      simp

theorem run_history {start : CallWorld ι σ ω ρ} (fresh : start.log=[])
    (outside : ∀ i,start.phase i=.outside) (hr : Run (Step O) start ls s) :
    History O start.data ls s := by
  induction hr with
  | nil =>
    refine ⟨?_,?_,?_⟩
    · rw [fresh]
      exact .nil
    · intro i
      rw [fresh,outside]
      rfl
    · intro i
      rw [fresh,outside]
      rfl
  | snoc _ step ih => exact ih.step step

end CallWorld

def WaitPhase.seen : WaitPhase ω ρ → CallPhase ω ρ
  | .outside => .outside
  | .entering op | .testing op | .passed op | .asleep op | .woken op => .called op
  | .changed r | .leaving r => .done r

/-- What a caller sees of the object. -/
def WaitWorld.seen (s : WaitWorld ι σ ω ρ) : CallWorld ι σ ω ρ :=
  ⟨s.data,fun i => (s.phase i).seen,s.log⟩

namespace WaitWorld

variable {O : WaitedObject σ ω ρ} {s t : WaitWorld ι σ ω ρ} {i j : ι} {l : WaitLabel ι ω ρ}

theorem seen_update (phase : ι → WaitPhase ω ρ) (i : ι) (p : WaitPhase ω ρ) :
    (fun j => (Function.update phase i p j).seen)=
      Function.update (fun j => (phase j).seen) i p.seen := by
  funext j
  by_cases same : j=i
  · subst same
    rw [Function.update_self,Function.update_self]
  · rw [Function.update_of_ne same,Function.update_of_ne same]

/-- A move that a caller does not see. -/
theorem seen_move {p : WaitPhase ω ρ} (same : p.seen=(s.phase i).seen) (owner : Option ι) :
    ({ s.move i p with owner := owner } : WaitWorld ι σ ω ρ).seen=s.seen := by
  show CallWorld.mk s.data (fun j => (Function.update s.phase i p j).seen) s.log=_
  rw [seen_update,same,Function.update_eq_self]
  rfl

theorem notified_seen (p : WaitPhase ω ρ) : p.notified.seen=p.seen := by
  cases p <;> rfl

omit [DecidableEq ι] in
theorem Inv.answers (h : Inv O s) {op : ω} (hi : s.phase i=.passed op) :
    O.Answers s.data op (O.answer op s.data).2 (O.answer op s.data).1 := by
  have ready := h.ready i op hi
  unfold WaitedObject.answer
  cases open_ : O.guard op s.data with
  | true => cases O.timedOut op <;> exact Or.inl ⟨open_,rfl⟩
  | false =>
    cases timed : O.timedOut op with
    | some r => exact Or.inr ⟨open_,timed,rfl⟩
    | none => simp [open_,timed] at ready

/-- Every step is one of the object without the mutex, or changes nothing there. -/
theorem Inv.seen_step (h : Inv O s) (step : Step O s l t) : CallWorld.Step O s.seen l t.seen := by
  cases step with
  | @call i op idle =>
    have called : CallWorld.Step O s.seen (.call i op) _ :=
      .call (by simp [WaitWorld.seen,idle,WaitPhase.seen])
    rw [show (s.move i (.entering op)).seen=_ from
      congrArg (CallWorld.mk s.data · s.log) (seen_update s.phase i (.entering op))]
    exact called
  | @lock i op wants free =>
    rw [seen_move (by rcases wants with wants|wants <;> rw [wants] <;> rfl)]
    exact .skip rfl
  | @pass i op tests ready =>
    have same := seen_move (s := s) (i := i) (p := .passed op) (by rw [tests]; rfl) s.owner
    rw [show (s.move i (.passed op)).seen=s.seen from same]
    exact .skip rfl
  | @sleep i op tests closed =>
    rw [seen_move (by rw [tests]; rfl)]
    exact .skip rfl
  | @finish i op ready =>
    have performed : CallWorld.Step O s.seen (.finish i) _ :=
      .perform (by simp [WaitWorld.seen,ready,WaitPhase.seen]) (h.answers ready)
    have done : (if O.notifies op=true then .changed (O.answer op s.data).2
        else .leaving (O.answer op s.data).2 : WaitPhase ω ρ).seen=.done (O.answer op s.data).2 := by
      split_ifs <;> rfl
    have after : (s.finish O i op).seen=⟨(O.answer op s.data).1,
        Function.update s.seen.phase i (.done (O.answer op s.data).2),
        s.log++[(i,op,(O.answer op s.data).2)]⟩ := by
      show CallWorld.mk _ _ _=_
      rw [← done]
      congr 1
      exact seen_update s.phase i _
    rw [after]
    exact performed
  | @notify i r changed =>
    have same : (s.notifyAll i r).seen=s.seen := by
      show CallWorld.mk s.data (fun j =>
        (Function.update (fun j => (s.phase j).notified) i (.leaving r) j).seen) s.log=_
      rw [seen_update]
      simp only [notified_seen]
      have here : (WaitPhase.leaving r : WaitPhase ω ρ).seen=(s.phase i).seen := by
        rw [changed]
        rfl
      rw [here,Function.update_eq_self (f := fun j => (s.phase j).seen)]
      rfl
    rw [same]
    exact .skip rfl
  | @wake i op sleeps =>
    have same := seen_move (s := s) (i := i) (p := .woken op) (by rw [sleeps]; rfl) s.owner
    rw [show (s.move i (.woken op)).seen=s.seen from same]
    exact .skip rfl
  | @ret i r leaves =>
    have returned : CallWorld.Step O s.seen (.ret i r) _ :=
      .ret (by simp [WaitWorld.seen,leaves,WaitPhase.seen])
    rw [show ({ s.move i .outside with owner := none } : WaitWorld ι σ ω ρ).seen=_ from
      congrArg (CallWorld.mk s.data · s.log) (seen_update s.phase i .outside)]
    exact returned

/-- A run is one of the object without the mutex, with the same calls and returns. -/
theorem run_seen {d : σ} {ls : List (WaitLabel ι ω ρ)} (hr : Run (Step O) { data := d } ls s) :
    Run (CallWorld.Step O) (WaitWorld.seen { data := d }) ls s.seen :=
  hr.refines WaitWorld.seen (fun _ _ _ h step => h.step step) (fun _ _ _ h step => h.seen_step step)
    (start_inv d)

theorem run_history {d : σ} {ls : List (WaitLabel ι ω ρ)} (hr : Run (Step O) { data := d } ls s) :
    CallWorld.History O d ls s.seen :=
  CallWorld.run_history rfl (fun _ => rfl) (run_seen hr)

end WaitWorld
end IotMedia.Framework

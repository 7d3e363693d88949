import IotMedia.Framework.WaitedObject
import IotMedia.Framework.MachineInt
import Mathlib.Data.List.Basic

namespace IotMedia.Daemon

open IotMedia.Framework IotMedia.Framework.IntType

inductive QueueCall (T : Type)
  | push (obj : T)
  | pop
  | size

/-- `undefined` is what front() of an empty queue gives. -/
inductive QueueAnswer (T : Type)
  | pushed
  | popped (obj : T)
  | timedOut
  | sized (n : Int)
  | undefined

def QueueCall.message {T : Type} : QueueCall T → Option T
  | .push obj => some obj
  | .pop | .size => none

def QueueAnswer.message {T : Type} : QueueAnswer T → Option T
  | .popped obj => some obj
  | .pushed | .timedOut | .sized _ | .undefined => none

namespace MessageQ

variable {ι T : Type} [DecidableEq ι]

/-- The template MessageQ: pop with a timeout gives up when the queue is still empty then. -/
def messageQ (T : Type) (mTimeout : Int) : WaitedObject (List T) (QueueCall T) (QueueAnswer T) where
  guard
    | .pop,mQueue => decide (0 < mQueue.length)
    | .push _,_ | .size,_ => true
  effect
    | .push obj,mQueue => (mQueue++[obj],.pushed)
    | .pop,obj::mQueue => (mQueue,.popped obj)
    | .pop,[] => ([],.undefined)
    | .size,mQueue => (mQueue,.sized (i32.cast mQueue.length))
  notifies
    | .push _ => true
    | .pop | .size => false
  timedOut
    | .pop => if mTimeout=0 then none else some .timedOut
    | .push _ | .size => none
  quiet := by
    intro op mQueue silent ready op' open_
    cases op with
    | push obj => cases silent
    | size => exact open_
    | pop =>
      cases op' with
      | pop => exact ready
      | push | size => rfl

/-- The messages pushed, and those popped, in the order in which this took effect. -/
def pushedIn (log : List (ι × QueueCall T × QueueAnswer T)) : List T :=
  log.filterMap fun e => e.2.1.message

def poppedIn (log : List (ι × QueueCall T × QueueAnswer T)) : List T :=
  log.filterMap fun e => e.2.2.message

/-- What thread `i` has called push with, and what its calls of pop have returned. -/
def sent (i : ι) (ls : List (WaitLabel ι (QueueCall T) (QueueAnswer T))) : List T :=
  (ls.filterMap (WaitLabel.callBy i)).filterMap QueueCall.message

def received (i : ι) (ls : List (WaitLabel ι (QueueCall T) (QueueAnswer T))) : List T :=
  (ls.filterMap (WaitLabel.retBy i)).filterMap QueueAnswer.message

variable {mTimeout : Int} {q q' : List T} {op : QueueCall T} {r : QueueAnswer T}
  {log : List (ι × QueueCall T × QueueAnswer T)}

/-- An answer adds what is pushed and takes what is popped, always at the front. -/
theorem answers_cases (h : (messageQ T mTimeout).Answers q op r q') :
    q++op.message.toList=r.message.toList++q' ∧ r≠.undefined ∧
      (r=.timedOut → q=[]) ∧ (r.message.isSome → op=.pop) := by
  rcases h with ⟨open_,effect⟩|⟨closed,timed,rfl⟩
  · cases op with
    | push obj =>
      cases effect
      exact ⟨rfl,by simp,by simp,by simp [QueueAnswer.message]⟩
    | size =>
      cases effect
      exact ⟨by simp [QueueCall.message,QueueAnswer.message],by simp,by simp,
        by simp [QueueAnswer.message]⟩
    | pop =>
      cases q with
      | nil => cases open_
      | cons obj q =>
        cases effect
        exact ⟨by simp [QueueCall.message,QueueAnswer.message],by simp,by simp,fun _ => rfl⟩
  · cases op with
    | push | size => cases closed
    | pop =>
      have empty : q'=[] := by simpa [messageQ] using closed
      simp only [messageQ] at timed
      split_ifs at timed
      cases timed
      exact ⟨by simp [QueueCall.message,QueueAnswer.message],by simp,fun _ => empty,fun _ => rfl⟩

/-- The log of a queue that was empty at first. -/
structure Orderly (log : List (ι × QueueCall T × QueueAnswer T)) (mQueue : List T) : Prop where
  order : pushedIn log=poppedIn log++mQueue
  defined : ∀ e∈log,e.2.2≠.undefined
  popped : ∀ e∈log,e.2.2.message.isSome → e.2.1=.pop
  timeouts : ∀ before e after,log=before++e::after → e.2.2=.timedOut →
    pushedIn before=poppedIn before

omit [DecidableEq ι] in
theorem pushedIn_snoc (log : List (ι × QueueCall T × QueueAnswer T))
    (e : ι × QueueCall T × QueueAnswer T) :
    pushedIn (log++[e])=pushedIn log++e.2.1.message.toList := CallWorld.filterMap_snoc _ _ _

omit [DecidableEq ι] in
theorem poppedIn_snoc (log : List (ι × QueueCall T × QueueAnswer T))
    (e : ι × QueueCall T × QueueAnswer T) :
    poppedIn (log++[e])=poppedIn log++e.2.2.message.toList := CallWorld.filterMap_snoc _ _ _

omit [DecidableEq ι] in
theorem Orderly.snoc (h : Orderly log q) {e : ι × QueueCall T × QueueAnswer T}
    (answers : (messageQ T mTimeout).Answers q e.2.1 e.2.2 q') : Orderly (log++[e]) q' := by
  obtain ⟨moves,defined,empty,pops⟩ := answers_cases answers
  refine ⟨?_,?_,?_,?_⟩
  · rw [pushedIn_snoc,poppedIn_snoc,h.order,List.append_assoc,moves,List.append_assoc]
  · intro x hx
    rcases List.mem_append.mp hx with old|new
    · exact h.defined x old
    · cases List.mem_singleton.mp new
      exact defined
  · intro x hx some_
    rcases List.mem_append.mp hx with old|new
    · exact h.popped x old some_
    · cases List.mem_singleton.mp new
      exact pops some_
  · intro before x after split late
    rcases List.eq_nil_or_concat after with rfl|⟨rest,last,rfl⟩
    · obtain ⟨rfl,same⟩ := List.append_inj' split rfl
      cases same
      rw [h.order,empty late,List.append_nil]
    · have split : log++[e]=(before++x::rest)++[last] := by simpa using split
      obtain ⟨same,-⟩ := List.append_inj' split rfl
      exact h.timeouts before x rest same late

omit [DecidableEq ι] in
theorem legal_orderly (hr : Run (fun q (e : ι × QueueCall T × QueueAnswer T) q' =>
    (messageQ T mTimeout).Answers q e.2.1 e.2.2 q') [] log q) : Orderly log q := by
  induction hr with
  | nil =>
    refine ⟨rfl,by simp,by simp,?_⟩
    intro before e after split
    simp at split
  | snoc _ answers ih => exact ih.snoc answers

variable {s : WaitWorld ι (List T) (QueueCall T) (QueueAnswer T)}
  {ls : List (WaitLabel ι (QueueCall T) (QueueAnswer T))}

theorem run_orderly (hr : Run (WaitWorld.Step (messageQ T mTimeout)) { data := [] } ls s) :
    Orderly s.log s.data :=
  legal_orderly (WaitWorld.run_history hr).legal

omit [DecidableEq ι] in
theorem mem_opsOf [DecidableEq ι] {e : ι × QueueCall T × QueueAnswer T} (h : e∈log) :
    e.2.1∈opsOf e.1 log := by
  refine List.mem_filterMap.mpr ⟨e,h,?_⟩
  simp

/-- With one thread that pops, what it has received is a first part of what was popped. -/
theorem received_of_popped (hr : Run (WaitWorld.Step (messageQ T mTimeout)) { data := [] } ls s)
    {c : ι} (only : ∀ i,WaitLabel.call i .pop∈ls → i=c) : received c ls <+: poppedIn s.log := by
  have orderly := run_orderly hr
  have history := WaitWorld.run_history hr
  have by_c : ∀ e∈s.log,e.2.2.message.isSome → e.1=c := by
    intro e he some_
    have pop := orderly.popped e he some_
    have op := mem_opsOf he
    have called : e.2.1∈ls.filterMap (WaitLabel.callBy e.1) := by
      rw [history.calls e.1]
      exact List.mem_append_left _ op
    obtain ⟨l,hl,label⟩ := List.mem_filterMap.mp called
    cases l with
    | call j op' =>
      simp only [WaitLabel.callBy] at label
      split_ifs at label with same
      cases label
      rw [pop,same] at hl
      exact only _ hl
    | lock | pass | sleep | finish | notify | wake | ret => cases label
  have answers : (answersOf c s.log).filterMap QueueAnswer.message=poppedIn s.log := by
    rw [answersOf,List.filterMap_filterMap,poppedIn]
    refine List.filterMap_congr fun e he => ?_
    by_cases mine : e.1=c
    · simp [mine]
    · have none_ : e.2.2.message=none := by
        by_contra some_
        exact mine (by_c e he (Option.isSome_iff_ne_none.mpr some_))
      simp [mine,none_]
  have returned : ls.filterMap (WaitLabel.retBy c)++_=answersOf c s.log := history.returns c
  rw [← answers,← returned,List.filterMap_append]
  exact List.prefix_append _ _

theorem pushed_of_sent (hr : Run (WaitWorld.Step (messageQ T mTimeout)) { data := [] } ls s)
    (i : ι) : (opsOf i s.log).filterMap QueueCall.message <+: sent i ls := by
  rw [sent,(WaitWorld.run_history hr).calls i,List.filterMap_append]
  exact List.prefix_append _ _

/-- However the threads that use a queue interleave inside push, pop and size, with deadlines and
wake-ups for no reason: the calls and returns are those of a queue whose operations take effect at
once. Every message pushed is popped once, in order, or still queued, front() is never called on an
empty queue, and pop gives up only when nothing is queued. A thread that alone pops receives a first
part of what was pushed, and of each thread's messages a first part is pushed, in order. -/
theorem messages_in_order (hr : Run (WaitWorld.Step (messageQ T mTimeout)) { data := [] } ls s) :
    Run (CallWorld.Step (messageQ T mTimeout)) ⟨[],fun _ => .outside,[]⟩ ls s.seen ∧
    Orderly s.log s.data ∧
    (∀ c,(∀ i,WaitLabel.call i .pop∈ls → i=c) → received c ls <+: pushedIn s.log) ∧
    ∀ i,(opsOf i s.log).filterMap QueueCall.message <+: sent i ls := by
  have orderly := run_orderly hr
  refine ⟨WaitWorld.run_seen hr,orderly,?_,pushed_of_sent hr⟩
  intro c only
  refine (received_of_popped hr only).trans ?_
  rw [orderly.order]
  exact List.prefix_append _ _

/-- Some thread that is in a call can go on, unless every thread in a call sleeps in a pop without a
timeout and everything pushed has been popped: no message waits with nobody on the way to it. -/
theorem pop_waits_for_messages
    (hr : Run (WaitWorld.Step (messageQ T mTimeout)) { data := [] } ls s) :
    (∃ i,WaitWorld.Active (messageQ T mTimeout) s i ∧
      ∃ l t,l.thread=i ∧ WaitWorld.Step (messageQ T mTimeout) s l t) ∨
    ∀ i,s.phase i=.outside ∨
      s.phase i=.asleep .pop ∧ mTimeout=0 ∧ pushedIn s.log=poppedIn s.log := by
  rcases (WaitWorld.run_inv hr).goes_on with moves|rest
  · exact Or.inl moves
  · refine Or.inr fun i => ?_
    rcases rest i with outside|⟨op,sleeps,untimed,closed⟩
    · exact Or.inl outside
    · cases op with
      | push | size => cases closed
      | pop =>
        have empty : s.data=[] := by simpa [messageQ] using closed
        refine Or.inr ⟨sleeps,?_,?_⟩
        · simp only [messageQ] at untimed
          by_contra timed
          simp [timed] at untimed
        · rw [(run_orderly hr).order,empty,List.append_nil]

/-- The consumer sleeps, the producer pushes and wakes it. -/
def handOver : List (WaitLabel Bool (QueueCall Nat) (QueueAnswer Nat)) :=
  [.call true .pop,.lock true,.sleep true,.call false (.push 7),.lock false,.pass false,
    .finish false,.notify false,.ret false .pushed,.lock true,.pass true,.finish true,
    .ret true (.popped 7)]

theorem handOver_run : ∃ s,Run (WaitWorld.Step (messageQ Nat 0)) { data := [] } handOver s := by
  refine ⟨_,Run.cons (.call rfl) <| Run.cons (.lock (Or.inl rfl) rfl) <|
    Run.cons (.sleep rfl rfl) <| Run.cons (.call rfl) <| Run.cons (.lock (Or.inl rfl) rfl) <|
    Run.cons (.pass rfl (Or.inl rfl)) <| Run.cons (.finish rfl) <| Run.cons (.notify rfl) <|
    Run.cons (.ret rfl) <| Run.cons (.lock (Or.inr rfl) rfl) <|
    Run.cons (.pass rfl (Or.inl rfl)) <| Run.cons (.finish rfl) <| Run.cons (.ret rfl) .nil⟩

theorem messages_in_order_handOver : ∃ s,
    Run (WaitWorld.Step (messageQ Nat 0)) { data := [] } handOver s ∧
    Orderly s.log s.data ∧ received true handOver <+: pushedIn s.log ∧
    received true handOver=[7] := by
  obtain ⟨s,hr⟩ := handOver_run
  obtain ⟨-,orderly,prefix_,-⟩ := messages_in_order hr
  refine ⟨s,hr,orderly,prefix_ true ?_,rfl⟩
  intro i popped
  simpa [handOver] using popped

theorem pop_waits_for_messages_handOver : ∃ s,
    Run (WaitWorld.Step (messageQ Nat 0)) { data := [] } handOver s ∧
    ((∃ i,WaitWorld.Active (messageQ Nat 0) s i ∧
      ∃ l t,l.thread=i ∧ WaitWorld.Step (messageQ Nat 0) s l t) ∨
    ∀ i,s.phase i=.outside ∨
      s.phase i=.asleep .pop ∧ (0 : Int)=0 ∧ pushedIn s.log=poppedIn s.log) := by
  obtain ⟨s,hr⟩ := handOver_run
  exact ⟨s,hr,pop_waits_for_messages hr⟩

end MessageQ
end IotMedia.Daemon

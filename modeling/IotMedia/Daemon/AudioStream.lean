import IotMedia.Framework.MachineInt
import IotMedia.Framework.Ownership
import IotMedia.Framework.Run
import Mathlib.Algebra.GroupWithZero.Nat
import Mathlib.Data.Finset.Card

namespace IotMedia.Daemon

open IotMedia.Framework

/-- A message of the recorder or of the destructor; a buffer is its index in mBuffers. -/
inductive AudioCallbackMsg
  | SUBMIT (buffer : Nat)
  | RETURN (buffer : Nat)
  | END
  deriving DecidableEq

namespace AudioCallbackMsg

@[simp] def buffer : AudioCallbackMsg → Option Nat
  | .SUBMIT i | .RETURN i => some i
  | .END => none

@[simp] def submission : AudioCallbackMsg → Option Nat
  | .SUBMIT i => some i
  | .RETURN _ | .END => none

/-- The steps of the loop that the message takes. -/
@[simp] def remaining : AudioCallbackMsg → Nat
  | .SUBMIT _ => 4
  | .RETURN _ => 3
  | .END => 2

end AudioCallbackMsg

/-- What StreamLoopHandler does next. -/
inductive StreamLoopPoint
  | test
  | pop
  | onAudioBuffer (buffer : Nat)
  | erase (buffer : Nat)
  | ended
  deriving DecidableEq

/-- The recorder thread: between two calls, or in GetBuffer before its test of the map's size or in
the wait for a notification. -/
inductive RecorderPoint
  | outside
  | getBuffer
  | waiting
  deriving DecidableEq

namespace StreamLoopPoint

@[simp] def buffer : StreamLoopPoint → List Nat
  | .onAudioBuffer i | .erase i => [i]
  | .test | .pop | .ended => []

@[simp] def submission : StreamLoopPoint → List Nat
  | .onAudioBuffer i => [i]
  | .erase _ | .test | .pop | .ended => []

/-- The steps of the loop when no message is left. -/
@[simp] def remaining : StreamLoopPoint → Nat
  | .onAudioBuffer _ => 3
  | .erase _ => 2
  | .test => 1
  | .pop | .ended => 0

end StreamLoopPoint

structure AudioStream where
  mBuffersCount : Nat
  mBuffersMap : Finset Nat := ∅
  mMsg : List AudioCallbackMsg := []
  running : Bool := true
  loop : StreamLoopPoint := .test
  recorder : RecorderPoint := .outside
  /-- What GetBuffer has given to the recorder and the recorder has not passed on. -/
  obtained : List Nat := []
  destroyed : Bool := false

/-- The step of one of the two threads, or the destructor's push. -/
inductive AudioLabel
  | callGetBuffer
  | wait
  | wake
  | getBuffer (buffer : Nat)
  | getBufferFails
  | submitBuffer (buffer : Nat)
  | returnBuffer (buffer : Nat)
  | destroy
  | test
  | pop
  | onAudioBuffer (buffer : Nat)
  | erase (buffer : Nat)

namespace AudioLabel

/-- A buffer is handed out by GetBuffer, and given back where its message is fully processed. -/
@[simp] def ownership : AudioLabel → Option (OwnEvent Nat)
  | .getBuffer i => some (.acquire i)
  | .erase i => some (.release i)
  | _ => none

@[simp] def submitted : AudioLabel → Option Nat
  | .submitBuffer i => some i
  | _ => none

@[simp] def delivered : AudioLabel → Option Nat
  | .onAudioBuffer i => some i
  | _ => none

end AudioLabel

namespace AudioStream

/-- The first buffer that is not in the map. -/
def findBuffer (s : AudioStream) : Option Nat :=
  (List.range s.mBuffersCount).find? fun i => i∉s.mBuffersMap

/-- MessageQ::size, an int32_t. -/
def size (s : AudioStream) : Int := IntType.i32.cast s.mMsg.length

/-- The critical sections of mMutex and of the queue's mutex are one step each. A wait on the
condition variable may also end without a notification. -/
inductive Step : AudioStream → AudioLabel → AudioStream → Prop
  | callGetBuffer {s : AudioStream} (alive : s.destroyed=false) (outside : s.recorder=.outside) :
    Step s .callGetBuffer { s with recorder := .getBuffer }
  | wait {s : AudioStream} (called : s.recorder=.getBuffer)
      (full : s.mBuffersMap.card=s.mBuffersCount) : Step s .wait { s with recorder := .waiting }
  | wake {s : AudioStream} (waiting : s.recorder=.waiting) :
    Step s .wake { s with recorder := .getBuffer }
  | getBuffer {s : AudioStream} {i : Nat} (called : s.recorder=.getBuffer)
      (room : s.mBuffersMap.card≠s.mBuffersCount) (found : s.findBuffer=some i) :
    Step s (.getBuffer i)
      { s with
        mBuffersMap := insert i s.mBuffersMap
        recorder := .outside
        obtained := i::s.obtained }
  | getBufferFails {s : AudioStream} (called : s.recorder=.getBuffer)
      (room : s.mBuffersMap.card≠s.mBuffersCount) (found : s.findBuffer=none) :
    Step s .getBufferFails { s with recorder := .outside }
  | submitBuffer {s : AudioStream} {i : Nat} (alive : s.destroyed=false)
      (outside : s.recorder=.outside) (has : i∈s.obtained) :
    Step s (.submitBuffer i)
      { s with
        obtained := s.obtained.erase i
        mMsg := s.mMsg++[.SUBMIT i] }
  | returnBuffer {s : AudioStream} {i : Nat} (alive : s.destroyed=false)
      (outside : s.recorder=.outside) (has : i∈s.obtained) :
    Step s (.returnBuffer i)
      { s with
        obtained := s.obtained.erase i
        mMsg := s.mMsg++[.RETURN i] }
  | destroy {s : AudioStream} (alive : s.destroyed=false) (outside : s.recorder=.outside) :
    Step s .destroy
      { s with
        mMsg := s.mMsg++[.END]
        destroyed := true }
  | test {s : AudioStream} (at_ : s.loop=.test) :
    Step s .test { s with loop := if s.running=true ∨ s.size≠0 then .pop else .ended }
  | popSubmit {s : AudioStream} {i : Nat} {msgs : List AudioCallbackMsg} (at_ : s.loop=.pop)
      (front : s.mMsg=.SUBMIT i::msgs) :
    Step s .pop
      { s with
        mMsg := msgs
        loop := .onAudioBuffer i }
  | popReturn {s : AudioStream} {i : Nat} {msgs : List AudioCallbackMsg} (at_ : s.loop=.pop)
      (front : s.mMsg=.RETURN i::msgs) :
    Step s .pop
      { s with
        mMsg := msgs
        loop := .erase i }
  | popEnd {s : AudioStream} {msgs : List AudioCallbackMsg} (at_ : s.loop=.pop)
      (front : s.mMsg=.END::msgs) :
    Step s .pop
      { s with
        mMsg := msgs
        running := false
        loop := .test }
  | onAudioBuffer {s : AudioStream} {i : Nat} (at_ : s.loop=.onAudioBuffer i) :
    Step s (.onAudioBuffer i) { s with loop := .erase i }
  | erase {s : AudioStream} {i : Nat} (at_ : s.loop=.erase i) :
    Step s (.erase i)
      { s with
        mBuffersMap := s.mBuffersMap.erase i
        loop := .test }

/-- The stream that Init has set up. -/
def start (buffers_count : Nat) : AudioStream := { mBuffersCount := buffers_count }

section History

/-! What a sequence of steps says about the buffers: who has which, and what is delivered. -/

variable (labels : List AudioLabel)

def ownership : List (OwnEvent Nat) := labels.filterMap AudioLabel.ownership

def submitted : List Nat := labels.filterMap AudioLabel.submitted

def delivered : List Nat := labels.filterMap AudioLabel.delivered

/-- The buffer has been obtained, and its message has not been fully processed since. -/
def Unprocessed (i : Nat) : Prop :=
  ∃ before after,ownership labels=before++.acquire i::after ∧ .release i∉after

theorem filterMap_snoc {α β : Type} (f : α → Option β) (xs : List α) (x : α) :
    (xs++[x]).filterMap f=xs.filterMap f++(f x).toList := by
  rw [List.filterMap_append,List.filterMap_cons]
  cases f x <;> rfl

end History

/-- The submissions whose callback is still to come. -/
def undelivered (s : AudioStream) : List Nat :=
  s.loop.submission++s.mMsg.filterMap AudioCallbackMsg.submission

/-- The buffers that the loop, the queue and the recorder have. -/
def outstanding (s : AudioStream) : List Nat :=
  s.loop.buffer++(s.mMsg.filterMap AudioCallbackMsg.buffer++s.obtained)

/-- The map has each buffer that is with someone, once. -/
structure Accounted (s : AudioStream) : Prop where
  owned : s.mBuffersMap.val=s.outstanding
  within : ∀ i∈s.mBuffersMap,i < s.mBuffersCount

/-- The destructor's message, as long as the loop has not taken it. -/
def closing (s : AudioStream) : List AudioCallbackMsg :=
  if s.destroyed=true then [.END] else []

/-- END is the last message, and after it nothing is left to the loop. -/
structure Closing (s : AudioStream) : Prop where
  outside : s.destroyed=true → s.recorder=.outside
  alive : s.destroyed=false → s.running=true
  ends : s.running=true → ∃ msgs,s.mMsg=msgs++s.closing ∧ .END∉msgs
  closed : s.running=false → s.mMsg=[] ∧ (s.loop=.test ∨ s.loop=.ended)
  ended : s.loop=.ended → s.running=false

variable {s t : AudioStream} {l : AudioLabel} {i : Nat}

theorem findBuffer_spec (found : s.findBuffer=some i) : i < s.mBuffersCount ∧ i∉s.mBuffersMap := by
  have free := List.find?_some found
  have inside := List.mem_of_find?_eq_some found
  exact ⟨List.mem_range.mp inside,by simpa using free⟩

theorem accounted_step (h : s.Accounted) (step : Step s l t) : t.Accounted := by
  obtain ⟨owned,within⟩ := h
  cases step with
  | callGetBuffer | wait | wake | getBufferFails => exact ⟨owned,within⟩
  | destroy =>
    refine ⟨?_,within⟩
    rw [owned,outstanding,outstanding,List.filterMap_append]
    simp [List.filterMap_cons]
  | @getBuffer i called room found =>
    obtain ⟨inside,free⟩ := findBuffer_spec found
    refine ⟨?_,?_⟩
    · have moved : (i::s.outstanding).Perm
          (s.loop.buffer++(s.mMsg.filterMap AudioCallbackMsg.buffer++i::s.obtained)) := by
        rw [outstanding,← List.append_assoc,← List.append_assoc]
        exact List.perm_middle.symm
      rw [Finset.insert_val_of_notMem free,owned]
      exact Multiset.coe_eq_coe.mpr moved
    · intro j hj
      rcases Finset.mem_insert.mp hj with rfl|old
      · exact inside
      · exact within j old
  | @submitBuffer i alive outside has | @returnBuffer i alive outside has =>
    refine ⟨?_,within⟩
    have moved : (s.mMsg.filterMap AudioCallbackMsg.buffer++s.obtained).Perm
        (s.mMsg.filterMap AudioCallbackMsg.buffer++[i]++s.obtained.erase i) := by
      rw [List.append_assoc]
      exact (List.perm_cons_erase has).append_left _
    rw [owned]
    simpa [outstanding] using moved.append_left s.loop.buffer
  | test at_ =>
    refine ⟨?_,within⟩
    rw [owned,outstanding,outstanding,at_]
    split_ifs <;> rfl
  | popSubmit at_ front | popReturn at_ front | popEnd at_ front =>
    refine ⟨?_,within⟩
    rw [owned,outstanding,outstanding,at_,front]
    rfl
  | onAudioBuffer at_ =>
    refine ⟨?_,within⟩
    rw [owned,outstanding,outstanding,at_]
    rfl
  | @erase i at_ =>
    refine ⟨?_,fun j hj => within j (Finset.mem_of_mem_erase hj)⟩
    rw [Finset.erase_val,owned,outstanding,outstanding,at_]
    simp

theorem Closing.running_of_front {m : AudioCallbackMsg} {rest : List AudioCallbackMsg}
    (h : s.Closing) (front : s.mMsg=m::rest) : s.running=true := by
  by_contra stopped
  obtain ⟨empty,-⟩ := h.closed (by simpa using stopped)
  simp [empty] at front

/-- The message at the front is the last one, or it is not END. -/
theorem Closing.front {m : AudioCallbackMsg} {rest : List AudioCallbackMsg} (h : s.Closing)
    (front : s.mMsg=m::rest) : (m=.END ∧ rest=[] ∧ s.destroyed=true) ∨
      (m≠.END ∧ ∃ msgs,rest=msgs++s.closing ∧ .END∉msgs) := by
  obtain ⟨msgs,queue,noEnd⟩ := h.ends (h.running_of_front front)
  rw [front] at queue
  cases msgs with
  | nil =>
    rw [List.nil_append,closing] at queue
    split_ifs at queue with destroyed
    obtain ⟨rfl,rfl⟩ := List.cons_eq_cons.mp queue
    exact .inl ⟨rfl,rfl,destroyed⟩
  | cons m' msgs =>
    obtain ⟨rfl,rfl⟩ := List.cons_eq_cons.mp queue
    rw [List.mem_cons,not_or] at noEnd
    exact .inr ⟨Ne.symm noEnd.1,msgs,rfl,noEnd.2⟩

theorem Closing.running (h : s.Closing) (going : s.loop≠.test) (on : s.loop≠.ended) :
    s.running=true := by
  by_contra stopped
  rcases (h.closed (by simpa using stopped)).2 with test|ended
  · exact going test
  · exact on ended

theorem Closing.push {m : AudioCallbackMsg} (h : s.Closing) (lives : s.destroyed=false)
    (other : m≠.END) : ∃ msgs,s.mMsg++[m]=msgs++s.closing ∧ .END∉msgs := by
  obtain ⟨msgs,queue,noEnd⟩ := h.ends (h.alive lives)
  refine ⟨msgs++[m],?_,?_⟩
  · simp [queue,closing,lives]
  · simp [noEnd,other.symm]

theorem closing_step (h : s.Closing) (step : Step s l t) : t.Closing := by
  have now := h
  obtain ⟨outside,alive,ends,closed,ended⟩ := h
  cases step with
  | callGetBuffer lives free | wait called full | wake waiting | getBuffer called room found
  | getBufferFails called room found =>
    exact ⟨by simp_all,alive,ends,closed,ended⟩
  | submitBuffer lives free has | returnBuffer lives free has =>
    refine ⟨outside,alive,fun _ => now.push lives (by simp),?_,ended⟩
    simp [alive lives]
  | destroy lives free =>
    have running := alive lives
    obtain ⟨msgs,queue,noEnd⟩ := ends running
    refine ⟨fun _ => free,by simp,fun _ => ⟨msgs,?_,noEnd⟩,by simp [running],ended⟩
    simp [queue,closing,lives]
  | test _ =>
    refine ⟨outside,alive,ends,?_,?_⟩
    · intro stopped
      have empty := (closed stopped).1
      simp [show s.running=false from stopped,empty,size,IntType.cast]
    · intro ended
      by_contra running
      simp [show s.running=true by simpa using running] at ended
  | popSubmit at_ front | popReturn at_ front =>
    have running := now.running_of_front front
    obtain ⟨final,-⟩|⟨-,rest⟩ := now.front front
    · cases final
    · exact ⟨outside,alive,fun _ => rest,by simp [running],by simp⟩
  | popEnd at_ front =>
    obtain ⟨-,empty,destroyed⟩|⟨other,-⟩ := now.front front
    · exact ⟨outside,by simp [destroyed],by simp,fun _ => ⟨empty,.inl rfl⟩,by simp⟩
    · exact absurd rfl other
  | onAudioBuffer at_ | erase at_ =>
    have running := now.running (by simp [at_]) (by simp [at_])
    exact ⟨outside,alive,ends,by simp [running],by simp⟩

/-- A submission joins the undelivered ones at their end, a callback takes the first of them. -/
theorem undelivered_step (step : Step s l t) :
    l.delivered.toList++t.undelivered=s.undelivered++l.submitted.toList := by
  cases step with
  | callGetBuffer | wait | wake | getBuffer | getBufferFails => simp [undelivered]
  | submitBuffer | returnBuffer | destroy =>
    simp [undelivered]
  | test at_ =>
    simp only [undelivered,at_]
    split_ifs <;> simp
  | popSubmit at_ front | popReturn at_ front | popEnd at_ front =>
    simp [undelivered,at_,front,List.filterMap_cons]
  | onAudioBuffer at_ | erase at_ =>
    simp [undelivered,at_]

theorem pool_step {events : List (OwnEvent Nat)} (h : Pool ∅ events s.mBuffersMap)
    (step : Step s l t) : Pool ∅ (events++l.ownership.toList) t.mBuffersMap := by
  cases step with
  | @getBuffer i called room found =>
    rw [Finset.coe_insert]
    exact h.acquire (findBuffer_spec found).2
  | @erase i at_ =>
    rw [Finset.coe_erase]
    exact h.release
  | _ => simpa using h

/-- The history fits the state. -/
structure Recorded (labels : List AudioLabel) (s : AudioStream) : Prop where
  pool : Pool ∅ (ownership labels) s.mBuffersMap
  order : delivered labels++s.undelivered=submitted labels

theorem recorded_step {labels : List AudioLabel} (h : Recorded labels s) (step : Step s l t) :
    Recorded (labels++[l]) t := by
  refine ⟨?_,?_⟩
  · rw [ownership,filterMap_snoc]
    exact pool_step h.pool step
  · rw [delivered,submitted,filterMap_snoc,filterMap_snoc,List.append_assoc,undelivered_step step,
      ← List.append_assoc]
    exact congrArg (·++l.submitted.toList) h.order

/-- The steps that are left after the destructor's push. -/
def remaining (s : AudioStream) : Nat :=
  s.loop.remaining+(s.mMsg.map AudioCallbackMsg.remaining).sum

theorem remaining_step (h : s.Closing) (destroyed : s.destroyed=true) (step : Step s l t) :
    t.destroyed=true ∧ t.remaining+1=s.remaining := by
  have outside := h.outside destroyed
  cases step with
  | callGetBuffer lives | submitBuffer lives | returnBuffer lives | destroy lives =>
    exact absurd (lives.symm.trans destroyed) Bool.false_ne_true
  | wait called | getBuffer called | getBufferFails called | wake called =>
    exact absurd (called.symm.trans outside) nofun
  | test at_ =>
    refine ⟨destroyed,?_⟩
    simp only [remaining,at_]
    split_ifs <;> simp [StreamLoopPoint.remaining] <;> omega
  | popSubmit at_ front | popReturn at_ front | popEnd at_ front =>
    refine ⟨destroyed,?_⟩
    simp only [remaining,at_,front,List.map_cons,List.sum_cons,StreamLoopPoint.remaining,
      AudioCallbackMsg.remaining]
    omega
  | onAudioBuffer at_ | erase at_ =>
    refine ⟨destroyed,?_⟩
    simp only [remaining,at_,StreamLoopPoint.remaining]
    omega

/-- Until the loop has ended the destroyed stream has a step: the queue is not empty where the loop
pops from it. -/
theorem destroyed_progress (h : s.Closing) (destroyed : s.destroyed=true)
    (going : s.loop≠.ended) : ∃ l t,Step s l t := by
  cases at_ : s.loop with
  | test => exact ⟨_,_,.test at_⟩
  | onAudioBuffer i => exact ⟨_,_,.onAudioBuffer at_⟩
  | erase i => exact ⟨_,_,.erase at_⟩
  | ended => exact absurd at_ going
  | pop =>
    have running := h.running (by simp [at_]) going
    obtain ⟨msgs,queue,-⟩ := h.ends running
    cases front : s.mMsg with
    | nil => simp [front,closing,destroyed] at queue
    | cons m rest =>
      cases m with
      | SUBMIT i => exact ⟨_,_,.popSubmit at_ front⟩
      | RETURN i => exact ⟨_,_,.popReturn at_ front⟩
      | END => exact ⟨_,_,.popEnd at_ front⟩

theorem destroyed_bounded {more : List AudioLabel} (h : s.Closing) (destroyed : s.destroyed=true)
    (hr : Run Step s more t) : more.length ≤ s.remaining := by
  have kept : t.Closing ∧ t.destroyed=true ∧ more.length+t.remaining=s.remaining := by
    induction hr with
    | nil => exact ⟨h,destroyed,by simp⟩
    | snoc _ step ih =>
      obtain ⟨closes,gone,count⟩ := ih
      obtain ⟨still,less⟩ := remaining_step closes gone step
      refine ⟨closing_step closes step,still,?_⟩
      rw [List.length_append,List.length_singleton]
      omega
  omega

structure Sound (n : Nat) (labels : List AudioLabel) (s : AudioStream) : Prop where
  count : s.mBuffersCount=n
  accounted : s.Accounted
  closing : s.Closing
  recorded : Recorded labels s

theorem sound_of_run {n : Nat} {labels : List AudioLabel} (hr : Run Step (start n) labels s) :
    Sound n labels s := by
  induction hr with
  | nil =>
    refine ⟨rfl,⟨rfl,by simp [start]⟩,?_,by simpa [start,ownership] using Pool.nil ∅,rfl⟩
    exact ⟨nofun,fun _ => rfl,fun _ => ⟨[],rfl,by simp⟩,nofun,nofun⟩
  | snoc _ step ih =>
    refine ⟨?_,accounted_step ih.accounted step,closing_step ih.closing step,
      recorded_step ih.recorded step⟩
    rw [← ih.count]
    cases step <;> rfl

theorem mem_mBuffersMap_iff {labels : List AudioLabel} (h : Recorded labels s) :
    i∈s.mBuffersMap ↔ Unprocessed labels i := by
  constructor
  · intro mem
    rcases h.pool.outstanding (Finset.mem_coe.mpr mem) with none|obtained
    · exact absurd none (Set.notMem_empty i)
    · exact obtained
  · rintro ⟨before,after,history,unreleased⟩
    exact Finset.mem_coe.mp (h.pool.held history unreleased)

theorem card_le {n : Nat} (h : s.Accounted) (count : s.mBuffersCount=n) :
    s.mBuffersMap.card≤n := by
  have sub : s.mBuffersMap⊆Finset.range n := by
    intro i mem
    rw [Finset.mem_range,← count]
    exact h.within i mem
  exact (Finset.card_le_card sub).trans_eq (Finset.card_range n)

/-- GetBuffer finds a buffer whenever the map's size is not mBuffersCount. -/
theorem findBuffer_isSome (h : s.Accounted) (room : s.mBuffersMap.card≠s.mBuffersCount) :
    ∃ i,s.findBuffer=some i := by
  refine Option.isSome_iff_exists.mp (List.find?_isSome.mpr ?_)
  by_contra none
  have all : Finset.range s.mBuffersCount⊆s.mBuffersMap := by
    intro i inside
    by_contra free
    exact none ⟨i,by simpa using inside,by simpa using free⟩
  have full := (Finset.card_le_card all).trans_eq' (Finset.card_range _)
  exact room ((card_le h rfl).antisymm full)

/-- GetBuffer never returns -ENOMEM. -/
theorem getBuffer_succeeds {n : Nat} {labels : List AudioLabel}
    (hr : Run Step (start n) labels s) : ¬Step s .getBufferFails t := by
  intro step
  cases step with
  | getBufferFails called room found =>
    obtain ⟨i,some⟩ := findBuffer_isSome (sound_of_run hr).accounted room
    exact Option.some_ne_none i (some.symm.trans found)

/-- In every interleaving of the recorder's calls with StreamLoopHandler and the destructor's push
the map has exactly the buffers obtained and not fully processed, each of them once with the loop,
in the queue or with the recorder, and GetBuffer gives none of them. The callbacks are the
submissions in their order, up to those still to come. After the push every run is finite, and it
stops only where the loop has ended and nothing is still to come. -/
theorem pool_and_delivery {n : Nat} {labels : List AudioLabel}
    (hr : Run Step (start n) labels s) :
    (∀ i,i∈s.mBuffersMap ↔ Unprocessed labels i) ∧ s.mBuffersMap.val=s.outstanding ∧
      s.mBuffersMap.card≤n ∧ (∀ i t,Step s (.getBuffer i) t → ¬Unprocessed labels i) ∧
      delivered labels++s.undelivered=submitted labels ∧
      (s.loop=.ended → delivered labels=submitted labels) ∧
      (s.destroyed=true → (s.loop≠.ended → ∃ l t,Step s l t) ∧
        ∃ bound,∀ more t,Run Step s more t → more.length≤bound) := by
  obtain ⟨count,accounted,closing,recorded⟩ := sound_of_run hr
  refine ⟨fun i => mem_mBuffersMap_iff recorded,accounted.owned,card_le accounted count,?_,
    recorded.order,?_,?_⟩
  · intro i t step unprocessed
    cases step with
    | getBuffer called room found =>
      exact (findBuffer_spec found).2 ((mem_mBuffersMap_iff recorded).mpr unprocessed)
  · intro ended
    have empty := (closing.closed (closing.ended ended)).1
    have order := recorded.order
    rw [undelivered,ended,empty] at order
    simpa using order
  · intro destroyed
    exact ⟨destroyed_progress closing destroyed,
      s.remaining,fun more t hr => destroyed_bounded closing destroyed hr⟩

/-- A buffer is submitted, and the stream destroyed while it is still in the queue. -/
def queuedAtEnd : List AudioLabel :=
  [.callGetBuffer,.getBuffer 0,.submitBuffer 0,.destroy,.test,.pop,.onAudioBuffer 0,.erase 0,.test,
    .pop,.test]

theorem pool_and_delivery_queued : submitted queuedAtEnd=[0] ∧
    delivered queuedAtEnd=submitted queuedAtEnd := by
  have obtained : Run Step (start 1) [.callGetBuffer,.getBuffer 0,.submitBuffer 0,.destroy]
      ⟨1,{0},[.SUBMIT 0,.END],true,.test,.outside,[],true⟩ :=
    (((Run.nil.snoc (.callGetBuffer rfl rfl)).snoc (.getBuffer rfl (by decide) rfl)).snoc
      (.submitBuffer rfl rfl (by decide))).snoc (.destroy rfl rfl)
  have called : Run Step ⟨1,{0},[.SUBMIT 0,.END],true,.test,.outside,[],true⟩
      [.test,.pop,.onAudioBuffer 0,.erase 0] ⟨1,∅,[.END],true,.test,.outside,[],true⟩ :=
    (((Run.nil.snoc (.test rfl)).snoc (.popSubmit rfl rfl)).snoc (.onAudioBuffer rfl)).snoc
      (.erase rfl)
  have ended : Run Step ⟨1,∅,[.END],true,.test,.outside,[],true⟩ [.test,.pop,.test]
      ⟨1,∅,[],false,.ended,.outside,[],true⟩ :=
    ((Run.nil.snoc (.test rfl)).snoc (.popEnd rfl rfl)).snoc (.test rfl)
  have whole := (obtained.append called).append ended
  obtain ⟨-,-,-,-,-,drained,-⟩ := pool_and_delivery whole
  exact ⟨rfl,drained rfl⟩

end AudioStream

end IotMedia.Daemon

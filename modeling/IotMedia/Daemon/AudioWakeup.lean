import IotMedia.Daemon.AudioStream

namespace IotMedia.Daemon

open IotMedia.Framework

inductive PoolThread
  | recorder
  | loop
  deriving DecidableEq

/-- What the recorder thread does next; `test`, `find` and `returning` are inside mMutex. -/
inductive GetBufferPoint
  | outside
  | lock
  | test
  | unlock
  | startWait
  | waiting
  | find
  | returning
  deriving DecidableEq

/-- What StreamLoopHandler does next; `erase` and `unlock` are inside mMutex. -/
inductive HandlerPoint
  | test
  | pop
  | onAudioBuffer (buffer : Nat)
  | lock (buffer : Nat)
  | erase (buffer : Nat)
  | unlock
  | notifyAll
  | ended
  deriving DecidableEq

namespace GetBufferPoint

/-- The point of the call where the critical sections are single steps. -/
@[simp] def coarse : GetBufferPoint → RecorderPoint
  | .outside | .returning => .outside
  | .lock | .test | .find => .getBuffer
  | .unlock | .startWait | .waiting => .waiting

end GetBufferPoint

namespace HandlerPoint

@[simp] def coarse : HandlerPoint → StreamLoopPoint
  | .test | .unlock | .notifyAll => .test
  | .pop => .pop
  | .onAudioBuffer i => .onAudioBuffer i
  | .lock i | .erase i => .erase i
  | .ended => .ended

/-- A notify_all is still to come before the next message. -/
@[simp] def notifies : HandlerPoint → Bool
  | .onAudioBuffer _ | .lock _ | .erase _ | .unlock | .notifyAll => true
  | .test | .pop | .ended => false

end HandlerPoint

/-- The stream of `AudioStream`, with the mutex and the condition variable told apart. -/
structure AudioPool where
  mBuffersCount : Nat
  mBuffersMap : Finset Nat := ∅
  mMsg : List AudioCallbackMsg := []
  running : Bool := true
  mMutex : Option PoolThread := none
  loop : HandlerPoint := .test
  recorder : GetBufferPoint := .outside
  obtained : List Nat := []
  destroyed : Bool := false

inductive PoolLabel
  | callGetBuffer
  | lock
  | test
  | unlock
  | startWait
  | wake
  | find
  | submitBuffer (buffer : Nat)
  | returnBuffer (buffer : Nat)
  | destroy
  | loopTest
  | pop
  | onAudioBuffer
  | loopLock
  | erase
  | loopUnlock
  | notifyAll
  deriving DecidableEq

namespace AudioPool

/-- The state as the larger steps of `AudioStream` see it. -/
def toStream (s : AudioPool) : AudioStream where
  mBuffersCount := s.mBuffersCount
  mBuffersMap := s.mBuffersMap
  mMsg := s.mMsg
  running := s.running
  loop := s.loop.coarse
  recorder := s.recorder.coarse
  obtained := s.obtained
  destroyed := s.destroyed

/-- GetBuffer leaves mMutex before it starts to wait, the wait has a mutex of its own, which no
other thread takes. A wait may end without a notification. -/
inductive Step : AudioPool → PoolLabel → AudioPool → Prop
  | callGetBuffer {s : AudioPool} (alive : s.destroyed=false) (outside : s.recorder=.outside) :
    Step s .callGetBuffer { s with recorder := .lock }
  | lock {s : AudioPool} (at_ : s.recorder=.lock) (free : s.mMutex=none) :
    Step s .lock
      { s with
        mMutex := some .recorder
        recorder := .test }
  | test {s : AudioPool} (at_ : s.recorder=.test) :
    Step s .test
      { s with recorder := if s.mBuffersMap.card=s.mBuffersCount then .unlock else .find }
  | unlock {s : AudioPool} (at_ : s.recorder=.unlock) :
    Step s .unlock
      { s with
        mMutex := none
        recorder := .startWait }
  | startWait {s : AudioPool} (at_ : s.recorder=.startWait) :
    Step s .startWait { s with recorder := .waiting }
  | wake {s : AudioPool} (at_ : s.recorder=.waiting) : Step s .wake { s with recorder := .lock }
  | find {s : AudioPool} {i : Nat} (at_ : s.recorder=.find) (found : s.toStream.findBuffer=some i) :
    Step s .find
      { s with
        mBuffersMap := insert i s.mBuffersMap
        recorder := .returning
        obtained := i::s.obtained }
  | findFails {s : AudioPool} (at_ : s.recorder=.find) (found : s.toStream.findBuffer=none) :
    Step s .find { s with recorder := .returning }
  | returning {s : AudioPool} (at_ : s.recorder=.returning) :
    Step s .unlock
      { s with
        mMutex := none
        recorder := .outside }
  | submitBuffer {s : AudioPool} {i : Nat} (alive : s.destroyed=false)
      (outside : s.recorder=.outside) (has : i∈s.obtained) :
    Step s (.submitBuffer i)
      { s with
        obtained := s.obtained.erase i
        mMsg := s.mMsg++[.SUBMIT i] }
  | returnBuffer {s : AudioPool} {i : Nat} (alive : s.destroyed=false)
      (outside : s.recorder=.outside) (has : i∈s.obtained) :
    Step s (.returnBuffer i)
      { s with
        obtained := s.obtained.erase i
        mMsg := s.mMsg++[.RETURN i] }
  | destroy {s : AudioPool} (alive : s.destroyed=false) (outside : s.recorder=.outside) :
    Step s .destroy
      { s with
        mMsg := s.mMsg++[.END]
        destroyed := true }
  | loopTest {s : AudioPool} (at_ : s.loop=.test) :
    Step s .loopTest
      { s with loop := if s.running=true ∨ s.toStream.size≠0 then .pop else .ended }
  | popSubmit {s : AudioPool} {i : Nat} {msgs : List AudioCallbackMsg} (at_ : s.loop=.pop)
      (front : s.mMsg=.SUBMIT i::msgs) :
    Step s .pop
      { s with
        mMsg := msgs
        loop := .onAudioBuffer i }
  | popReturn {s : AudioPool} {i : Nat} {msgs : List AudioCallbackMsg} (at_ : s.loop=.pop)
      (front : s.mMsg=.RETURN i::msgs) :
    Step s .pop
      { s with
        mMsg := msgs
        loop := .lock i }
  | popEnd {s : AudioPool} {msgs : List AudioCallbackMsg} (at_ : s.loop=.pop)
      (front : s.mMsg=.END::msgs) :
    Step s .pop
      { s with
        mMsg := msgs
        running := false
        loop := .test }
  | onAudioBuffer {s : AudioPool} {i : Nat} (at_ : s.loop=.onAudioBuffer i) :
    Step s .onAudioBuffer { s with loop := .lock i }
  | loopLock {s : AudioPool} {i : Nat} (at_ : s.loop=.lock i) (free : s.mMutex=none) :
    Step s .loopLock
      { s with
        mMutex := some .loop
        loop := .erase i }
  | erase {s : AudioPool} {i : Nat} (at_ : s.loop=.erase i) :
    Step s .erase
      { s with
        mBuffersMap := s.mBuffersMap.erase i
        loop := .unlock }
  | loopUnlock {s : AudioPool} (at_ : s.loop=.unlock) :
    Step s .loopUnlock
      { s with
        mMutex := none
        loop := .notifyAll }
  | notifyAll {s : AudioPool} (at_ : s.loop=.notifyAll) :
    Step s .notifyAll
      { s with
        loop := .test
        recorder := if s.recorder=.waiting then .lock else s.recorder }

/-- The stream that Init has set up. -/
def start (buffers_count : Nat) : AudioPool := { mBuffersCount := buffers_count }

/-- The recorder waits, there is room, and no thread is left to notify it. -/
structure Stuck (s : AudioPool) : Prop where
  waiting : s.recorder=.waiting
  room : s.mBuffersMap.card < s.mBuffersCount
  empty : s.mMsg=[]
  blocked : s.loop=.pop

/-- The map is full, or a message is queued, or a notify_all is to come. -/
def Awaited (s : AudioPool) : Prop :=
  s.mBuffersMap.card=s.mBuffersCount ∨ s.mMsg≠[] ∨ s.loop.notifies=true

/-- GetBuffer's wait starts only in such a state. -/
def Timely (s : AudioPool) (l : PoolLabel) : Prop := l=.startWait → s.Awaited

variable {s t : AudioPool} {l : PoolLabel}

/-- GetBuffer looks for a buffer only where there is one. -/
def Room (s : AudioPool) : Prop := s.recorder=.find → s.mBuffersMap.card < s.mBuffersCount

theorem step_room (within : s.mBuffersMap.card ≤ s.mBuffersCount) (h : s.Room)
    (step : Step s l t) : t.Room := by
  cases step with
  | callGetBuffer | lock | unlock | startWait | wake | find | findFails | returning =>
    simp [Room]
  | test at_ =>
    intro finds
    dsimp only at finds ⊢
    split_ifs at finds with full
    exact lt_of_le_of_ne within full
  | @erase i at_ =>
    intro finds
    exact (Finset.card_le_card (Finset.erase_subset i s.mBuffersMap)).trans_lt (h finds)
  | notifyAll at_ =>
    intro finds
    dsimp only at finds ⊢
    split_ifs at finds
    exact h finds
  | _ => exact h

/-- Each step is one of the larger steps, or they do not see it. -/
theorem step_toStream (room : s.Room) (step : Step s l t) :
    t.toStream=s.toStream ∨ ∃ l',AudioStream.Step s.toStream l' t.toStream := by
  cases step with
  | callGetBuffer alive outside =>
    exact .inr ⟨_,.callGetBuffer alive (by simp [toStream,outside])⟩
  | lock at_ | unlock at_ | startWait at_ | returning at_ | loopLock at_ | loopUnlock at_ =>
    exact .inl (by simp [toStream,at_])
  | test at_ =>
    by_cases full : s.mBuffersMap.card=s.mBuffersCount
    · have waits := AudioStream.Step.wait (s := s.toStream) (by simp [toStream,at_]) full
      exact .inr ⟨_,by simpa [toStream,full] using waits⟩
    · exact .inl (by simp [toStream,at_,full])
  | wake at_ => exact .inr ⟨_,.wake (by simp [toStream,at_])⟩
  | find at_ found =>
    exact .inr ⟨_,.getBuffer (by simp [toStream,at_]) (room at_).ne found⟩
  | findFails at_ found =>
    exact .inr ⟨_,.getBufferFails (by simp [toStream,at_]) (room at_).ne found⟩
  | submitBuffer alive outside has =>
    exact .inr ⟨_,.submitBuffer alive (by simp [toStream,outside]) has⟩
  | returnBuffer alive outside has =>
    exact .inr ⟨_,.returnBuffer alive (by simp [toStream,outside]) has⟩
  | destroy alive outside => exact .inr ⟨_,.destroy alive (by simp [toStream,outside])⟩
  | loopTest at_ =>
    have tests := AudioStream.Step.test (s := s.toStream) (by simp [toStream,at_])
    have point := apply_ite HandlerPoint.coarse (s.running=true ∨ s.toStream.size≠0) .pop .ended
    refine .inr ⟨.test,?_⟩
    change AudioStream.Step s.toStream .test { s.toStream with loop := HandlerPoint.coarse _ }
    rw [point]
    exact tests
  | popSubmit at_ front => exact .inr ⟨_,.popSubmit (by simp [toStream,at_]) front⟩
  | popReturn at_ front => exact .inr ⟨_,.popReturn (by simp [toStream,at_]) front⟩
  | popEnd at_ front => exact .inr ⟨_,.popEnd (by simp [toStream,at_]) front⟩
  | onAudioBuffer at_ => exact .inr ⟨_,.onAudioBuffer (by simp [toStream,at_])⟩
  | erase at_ => exact .inr ⟨_,.erase (by simp [toStream,at_])⟩
  | notifyAll at_ =>
    by_cases waiting : s.recorder=.waiting
    · have wakes := AudioStream.Step.wake (s := s.toStream) (by simp [toStream,waiting])
      exact .inr ⟨_,by simpa [toStream,at_,waiting] using wakes⟩
    · exact .inl (by simp [toStream,at_,waiting])

/-- Seen from afar the state is one of `AudioStream`. -/
structure Seen (n : Nat) (s : AudioPool) : Prop where
  room : s.Room
  reached : ∃ labels,Run AudioStream.Step (AudioStream.start n) labels s.toStream

theorem start_seen (n : Nat) : Seen n (start n) := ⟨by simp [Room,start],[],.nil⟩

theorem Seen.closing {n : Nat} (h : Seen n s) : s.toStream.Closing := by
  obtain ⟨labels,before⟩ := h.reached
  exact (AudioStream.sound_of_run before).closing

theorem Seen.within {n : Nat} (h : Seen n s) : s.mBuffersMap.card ≤ s.mBuffersCount := by
  obtain ⟨labels,before⟩ := h.reached
  exact AudioStream.card_le (AudioStream.sound_of_run before).accounted rfl

theorem step_seen {n : Nat} (h : Seen n s) (step : Step s l t) : Seen n t := by
  refine ⟨step_room h.within h.room step,?_⟩
  obtain ⟨labels,before⟩ := h.reached
  rcases step_toStream h.room step with same|⟨l',seen⟩
  · exact ⟨labels,same ▸ before⟩
  · exact ⟨_,before.snoc seen⟩

/-- Nobody calls GetBuffer on a destroyed stream. -/
theorem not_destroyed (h : s.toStream.Closing) (inside : s.recorder.coarse≠.outside) :
    s.destroyed=false := by
  by_contra destroyed
  exact inside (h.outside (eq_true_of_ne_false destroyed))

theorem awaited_step (closing : s.toStream.Closing) (h : s.recorder=.waiting → s.Awaited)
    (timely : Timely s l) (step : Step s l t) : t.recorder=.waiting → t.Awaited := by
  cases step with
  | callGetBuffer | lock | unlock | wake | find | findFails | returning =>
    intro waits
    simp at waits
  | test at_ =>
    intro waits
    dsimp only at waits
    split_ifs at waits
  | startWait at_ => exact fun _ => timely rfl
  | submitBuffer alive outside | returnBuffer alive outside | destroy alive outside =>
    intro waits
    simp [outside] at waits
  | loopTest at_ =>
    intro waits
    rcases h waits with full|queued|ahead
    · exact .inl full
    · exact .inr (.inl queued)
    · simp [at_] at ahead
  | popSubmit | popReturn | onAudioBuffer | loopLock | erase | loopUnlock =>
    exact fun _ => .inr (.inr rfl)
  | popEnd at_ front =>
    intro waits
    dsimp only at waits
    -- END is pushed when the recorder calls no more
    have alive := not_destroyed closing (by simp [waits])
    rcases closing.front front with ⟨-,-,destroyed⟩|⟨other,-⟩
    · exact absurd (alive.symm.trans destroyed) Bool.false_ne_true
    · exact absurd rfl other
  | notifyAll at_ =>
    intro waits
    dsimp only at waits
    split_ifs at waits with waiting
    exact absurd waits waiting

theorem Awaited.not_stuck (h : s.recorder=.waiting → s.Awaited) : ¬s.Stuck := by
  rintro ⟨waiting,room,empty,blocked⟩
  rcases h waiting with full|queued|ahead
  · exact room.ne full
  · exact queued empty
  · simp [blocked] at ahead

/-- Only a wait that ends by itself leads out of a stuck state. -/
theorem Stuck.step (h : s.Stuck) (step : Step s l t) : l=.wake := by
  obtain ⟨waiting,-,empty,blocked⟩ := h
  cases step <;> simp_all

theorem silent_loop (silent : s.loop.notifies≠true) :
    s.loop=.test ∨ s.loop=.pop ∨ s.loop=.ended := by
  cases loop : s.loop <;> simp_all

/-- Where the wait starts too late the loop has at most its own test before it blocks. -/
theorem untimely_stuck {n : Nat} (h : Seen n s) (untimely : ¬Timely s l) (step : Step s l t) :
    ∃ more u,Run Step t more u ∧ u.Stuck := by
  obtain ⟨rfl,late⟩ := Classical.not_imp.mp untimely
  simp only [Awaited,not_or,not_not] at late
  obtain ⟨partly,empty,silent⟩ := late
  have room := lt_of_le_of_ne h.within partly
  cases step with
  | startWait at_ =>
    have alive := not_destroyed h.closing (by simp [at_])
    have running : s.running=true := h.closing.alive alive
    rcases silent_loop silent with loop|loop|loop
    · have tests := Step.loopTest (s := { s with recorder := .waiting }) loop
      exact ⟨[.loopTest],_,Run.nil.snoc tests,rfl,room,empty,if_pos (.inl running)⟩
    · exact ⟨[],_,.nil,rfl,room,empty,loop⟩
    · have ended := h.closing.ended (by simp [toStream,loop])
      exact absurd (ended.symm.trans running) Bool.false_ne_true

/-- In a run in which no wait starts too late the recorder is never left waiting for a buffer that
is there; after a wait that starts too late it can be. -/
theorem no_lost_wakeup {n : Nat} {labels : List PoolLabel}
    (hr : Run (Guarded Timely Step) (start n) labels s) :
    ¬s.Stuck ∧ ∀ l t,Step s l t → ¬Timely s l → ∃ more u,Run Step t more u ∧ u.Stuck := by
  have kept : Seen n s ∧ (s.recorder=.waiting → s.Awaited) := by
    refine hr.invariant (P := fun s => Seen n s ∧ (s.recorder=.waiting → s.Awaited)) ?_
      ⟨start_seen n,by simp [start]⟩
    rintro s l t ⟨seen,awaited⟩ ⟨timely,step⟩
    exact ⟨step_seen seen step,awaited_step seen.closing awaited timely step⟩
  obtain ⟨seen,awaited⟩ := kept
  exact ⟨Awaited.not_stuck awaited,fun l t step late => untimely_stuck seen late step⟩

/-- The buffer of a stream with one is submitted, and GetBuffer is called again. -/
def submittedFull : AudioPool where
  mBuffersCount := 1
  mBuffersMap := {0}
  mMsg := [.SUBMIT 0]
  loop := .pop
  recorder := .startWait

theorem submittedFull_reached : Run Step (start 1)
    [.callGetBuffer,.lock,.test,.find,.unlock,.submitBuffer 0,.loopTest,.callGetBuffer,.lock,.test,
      .unlock] submittedFull := by
  have held : Run Step (start 1) [.callGetBuffer,.lock,.test,.find,.unlock]
      { start 1 with
        mBuffersMap := {0}
        obtained := [0] } :=
    ((((Run.nil.snoc (.callGetBuffer rfl rfl)).snoc (.lock rfl rfl)).snoc (.test rfl)).snoc
      (.find rfl rfl)).snoc (.returning rfl)
  have has : 0∈[0] := List.mem_singleton_self 0
  have submitted := (held.snoc (.submitBuffer (i := 0) rfl rfl has)).snoc (.loopTest rfl)
  exact (((submitted.snoc (.callGetBuffer rfl rfl)).snoc (.lock rfl rfl)).snoc (.test rfl)).snoc
    (.unlock rfl)

theorem no_lost_wakeup_queued : ∃ labels s,Run (Guarded Timely Step) (start 1) labels s ∧
    s.recorder=.waiting ∧ s.mBuffersMap=∅ ∧ ¬s.Stuck := by
  have full : Run (Guarded Timely Step) (start 1) _ submittedFull :=
    submittedFull_reached.guard (by simp [Timely])
  have waits := full.snoc ⟨fun _ => .inr (.inl (by decide)),Step.startWait rfl⟩
  have locked : Run Step { submittedFull with recorder := .waiting } [.pop,.onAudioBuffer,.loopLock]
      { submittedFull with
        mMsg := []
        mMutex := some .loop
        loop := .erase 0
        recorder := .waiting } :=
    ((Run.nil.snoc (.popSubmit rfl rfl)).snoc (.onAudioBuffer rfl)).snoc (.loopLock rfl rfl)
  have erased := locked.snoc (Step.erase rfl)
  have whole := waits.append (erased.guard (by simp [Timely]))
  exact ⟨_,_,whole,rfl,by decide,(no_lost_wakeup whole).1⟩

/-- The loop goes through the only message between the recorder's test and its wait. -/
theorem wakeup_lost : ¬∀ n labels s,Run Step (start n) labels s → ¬s.Stuck := by
  intro supposed
  have locked : Run Step submittedFull [.pop,.onAudioBuffer,.loopLock]
      { submittedFull with
        mMsg := []
        mMutex := some .loop
        loop := .erase 0 } :=
    ((Run.nil.snoc (.popSubmit rfl rfl)).snoc (.onAudioBuffer rfl)).snoc (.loopLock rfl rfl)
  have notified := ((locked.snoc (Step.erase rfl)).snoc (.loopUnlock rfl)).snoc (.notifyAll rfl)
  have blocked := submittedFull_reached.append (notified.snoc (.loopTest rfl))
  exact supposed _ _ _ (blocked.snoc (.startWait rfl)) ⟨rfl,by decide,rfl,rfl⟩

end AudioPool

end IotMedia.Daemon

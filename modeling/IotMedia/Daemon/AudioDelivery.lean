import IotMedia.Daemon.AudioRecorder
import IotMedia.Daemon.AudioStream
import Mathlib.Data.List.Sublists
import Mathlib.Logic.Function.Basic

namespace IotMedia.Daemon

open IotMedia.Framework

structure AudioBuffer where
  data : List UInt8
  size : Nat
  timestamp : Int
  deriving DecidableEq

/-- Where AudioThreadHandler is: at its test of mRecording, in GetBuffer, in pcm_read, or before the
call that passes the buffer on. -/
inductive CapturePoint
  | test
  | getBuffer
  | pcmRead (buffer : Nat)
  | submitBuffer (buffer : Nat)
  | returnBuffer (buffer : Nat) (res : Int)
  | ended
  deriving DecidableEq

/-- The buffer that the thread has read into and not submitted. -/
@[simp] def CapturePoint.unsubmitted : CapturePoint → List Nat
  | .submitBuffer i => [i]
  | .test | .getBuffer | .pcmRead _ | .returnBuffer _ _ | .ended => []

/-- The buffer that the thread has. -/
@[simp] def CapturePoint.buffer : CapturePoint → List Nat
  | .pcmRead i | .submitBuffer i | .returnBuffer i _ => [i]
  | .test | .getBuffer | .ended => []

/-- A started recorder with its stream: the memory of mBuffers, the thread, and what the callback is
called with and passes to the gadget. -/
structure AudioCapture where
  stream : AudioStream
  mBuffers : Nat → AudioBuffer
  mBufSize : Nat
  mRecording : Bool := true
  mErrorCode : Int := 0
  mActive : Bool := false
  point : CapturePoint := .test
  heard : List AudioBuffer := []
  gadget : List AudioBuffer := []

/-- A step of the recorder thread, of the stream's loop, of Stop, or of the camera's switch. -/
inductive CaptureLabel
  | stop
  | setActive (mActive : Bool)
  | test
  | waits (l : AudioLabel)
  | getBuffer (buffer : Nat)
  | getBufferFails
  | pcmReadPart (data : List UInt8)
  | pcmRead (data : List UInt8) (timestamp : Int)
  | pcmReadFails (res : Int)
  | submitBuffer (buffer : Nat)
  | returnBuffer (buffer : Nat)
  | destroy
  | loop (l : AudioLabel)
  | onAudioBuffer (buffer : Nat)

namespace CaptureLabel

/-- The step of the stream. -/
@[simp] def audio : CaptureLabel → List AudioLabel
  | .test => []
  | .waits l | .loop l => [l]
  | .getBuffer i => [.getBuffer i]
  | .getBufferFails => [.getBufferFails]
  | .submitBuffer i => [.submitBuffer i]
  | .returnBuffer i => [.returnBuffer i]
  | .destroy => [.destroy]
  | .onAudioBuffer i => [.onAudioBuffer i]
  | .stop | .setActive _ | .pcmReadPart _ | .pcmRead _ _ | .pcmReadFails _ => []

/-- What a successful pcm_read delivers. -/
@[simp] def period (mBufSize : Nat) : CaptureLabel → Option AudioBuffer
  | .pcmRead data timestamp => some ⟨data,mBufSize,timestamp⟩
  | _ => none

end CaptureLabel

/-- What the device has delivered. -/
def periods (mBufSize : Nat) (labels : List CaptureLabel) : List AudioBuffer :=
  labels.filterMap (CaptureLabel.period mBufSize)

namespace AudioCapture

/-- The calls of the recorder's loop on its stream, in the order in which the loop makes them; while
it is in pcm_read the device writes what it likes into the buffer. -/
inductive Step : AudioCapture → CaptureLabel → AudioCapture → Prop
  | stop {c : AudioCapture} : Step c .stop { c with mRecording := false }
  | setActive {c : AudioCapture} (mActive : Bool) : Step c (.setActive mActive) { c with mActive }
  | test {c : AudioCapture} (at_ : c.point=.test) (stopped : c.mRecording=false) :
    Step c .test { c with point := .ended }
  | callGetBuffer {c : AudioCapture} {stream : AudioStream} (at_ : c.point=.test)
      (recording : c.mRecording=true) (step : AudioStream.Step c.stream .callGetBuffer stream) :
    Step c (.waits .callGetBuffer) { c with stream,point := .getBuffer }
  | wait {c : AudioCapture} {stream : AudioStream} (at_ : c.point=.getBuffer)
      (step : AudioStream.Step c.stream .wait stream) : Step c (.waits .wait) { c with stream }
  | wake {c : AudioCapture} {stream : AudioStream} (at_ : c.point=.getBuffer)
      (step : AudioStream.Step c.stream .wake stream) : Step c (.waits .wake) { c with stream }
  | getBuffer {c : AudioCapture} {stream : AudioStream} {i : Nat} (at_ : c.point=.getBuffer)
      (step : AudioStream.Step c.stream (.getBuffer i) stream) :
    Step c (.getBuffer i) { c with stream,point := .pcmRead i }
  | getBufferFails {c : AudioCapture} {stream : AudioStream} (at_ : c.point=.getBuffer)
      (step : AudioStream.Step c.stream .getBufferFails stream) :
    Step c .getBufferFails { c with stream,mErrorCode := -ENOMEM,point := .ended }
  | pcmReadPart {c : AudioCapture} {i : Nat} (data : List UInt8) (at_ : c.point=.pcmRead i) :
    Step c (.pcmReadPart data)
      { c with mBuffers := Function.update c.mBuffers i { c.mBuffers i with data } }
  | pcmRead {c : AudioCapture} {i : Nat} (data : List UInt8) (timestamp : Int)
      (at_ : c.point=.pcmRead i) :
    Step c (.pcmRead data timestamp)
      { c with
        mBuffers := Function.update c.mBuffers i ⟨data,c.mBufSize,timestamp⟩
        point := .submitBuffer i }
  | pcmReadFails {c : AudioCapture} {i : Nat} (res : Int) (at_ : c.point=.pcmRead i)
      (fails : res≠0) :
    Step c (.pcmReadFails res) { c with point := .returnBuffer i res }
  | submitBuffer {c : AudioCapture} {stream : AudioStream} {i : Nat} (at_ : c.point=.submitBuffer i)
      (step : AudioStream.Step c.stream (.submitBuffer i) stream) :
    Step c (.submitBuffer i) { c with stream,point := .test }
  | returnBuffer {c : AudioCapture} {stream : AudioStream} {i : Nat} {res : Int}
      (at_ : c.point=.returnBuffer i res)
      (step : AudioStream.Step c.stream (.returnBuffer i) stream) :
    Step c (.returnBuffer i) { c with stream,mErrorCode := res,point := .ended }
  | destroy {c : AudioCapture} {stream : AudioStream} (joined : c.point=.ended)
      (step : AudioStream.Step c.stream .destroy stream) : Step c .destroy { c with stream }
  | loop {c : AudioCapture} {stream : AudioStream} {l : AudioLabel}
      (own : l=.test ∨ l=.pop ∨ ∃ i,l=.erase i) (step : AudioStream.Step c.stream l stream) :
    Step c (.loop l) { c with stream }
  | onAudioBuffer {c : AudioCapture} {stream : AudioStream} {i : Nat}
      (step : AudioStream.Step c.stream (.onAudioBuffer i) stream) :
    Step c (.onAudioBuffer i)
      { c with
        stream
        heard := c.heard++[c.mBuffers i]
        gadget := if c.mActive then c.gadget++[c.mBuffers i] else c.gadget }

/-- The stream that Start has set up; Init leaves mBuffersCount as the size of each buffer. -/
def started (mBufSize buffers_count : Nat) (data : Nat → List UInt8) : AudioCapture where
  stream := .start buffers_count
  mBuffers i := ⟨data i,buffers_count,0⟩
  mBufSize := mBufSize

/-- The buffers whose periods have been read and not been heard, in the order of the reads. -/
def unheard (c : AudioCapture) : List Nat := c.stream.undelivered++c.point.unsubmitted

/-- The recorder has the buffer its thread works on, and what it has read is heard or still to be
found in the buffers that are on their way. -/
structure Inv (labels : List CaptureLabel) (c : AudioCapture) : Prop where
  obtained : c.stream.obtained=c.point.buffer
  joined : c.stream.destroyed=true → c.point=.ended
  delivered : c.heard++c.unheard.map c.mBuffers=periods c.mBufSize labels
  submitted : c.gadget.Sublist c.heard

variable {c d : AudioCapture} {l : CaptureLabel} {labels : List CaptureLabel} {i : Nat}

/-- A step of the capture is at most one of the stream. -/
theorem Step.audio (step : Step c l d) : Run AudioStream.Step c.stream l.audio d.stream := by
  cases step with
  | stop | setActive | test | pcmReadPart | pcmRead | pcmReadFails => exact .nil
  | callGetBuffer _ _ step | wait _ step | wake _ step | getBuffer _ step | getBufferFails _ step
  | submitBuffer _ step | returnBuffer _ step | destroy _ step | loop _ step
  | onAudioBuffer step => exact .snoc .nil step

theorem audio_run (hr : Run Step c labels d) :
    Run AudioStream.Step c.stream (labels.flatMap CaptureLabel.audio) d.stream := by
  induction hr with
  | nil => exact .nil
  | snoc _ step ih =>
    rw [List.flatMap_append,List.flatMap_singleton]
    exact ih.append step.audio

/-- Who has buffers from GetBuffer: the recorder gives away only what it has. -/
theorem obtained_step {s t : AudioStream} {l : AudioLabel} (step : AudioStream.Step s l t) :
    t.obtained=match l with
      | .getBuffer i => i::s.obtained
      | .submitBuffer i | .returnBuffer i => s.obtained.erase i
      | _ => s.obtained := by
  cases step <;> rfl

theorem destroyed_step {s t : AudioStream} {l : AudioLabel} (step : AudioStream.Step s l t)
    (other : l≠.destroy) : t.destroyed=s.destroyed := by
  cases step
  case destroy => exact absurd rfl other
  all_goals rfl

/-- A buffer on its way to the callback is not with the recorder. -/
theorem obtained_heard {s : AudioStream} (accounted : s.Accounted) (on : i∈s.undelivered) :
    i∉s.obtained := by
  have once : s.outstanding.Nodup := by
    have nodup := s.mBuffersMap.nodup
    rw [accounted.owned] at nodup
    exact Multiset.coe_nodup.mp nodup
  rw [AudioStream.outstanding,← List.append_assoc] at once
  have apart := (List.nodup_append'.mp once).2.2
  refine apart ?_
  rcases List.mem_append.mp on with loop|queue
  · refine List.mem_append_left _ ?_
    cases at_ : s.loop <;> simp_all
  · refine List.mem_append_right _ ?_
    obtain ⟨m,mem,submits⟩ := List.mem_filterMap.mp queue
    refine List.mem_filterMap.mpr ⟨m,mem,?_⟩
    cases m <;> simp_all

/-- A buffer that the recorder writes to is not on its way. -/
theorem map_written {b : AudioBuffer} (accounted : c.stream.Accounted)
    (obtained : i∈c.stream.obtained) :
    c.stream.undelivered.map (Function.update c.mBuffers i b)=
      c.stream.undelivered.map c.mBuffers := by
  refine List.map_congr_left fun j on => ?_
  have other : j≠i := by
    rintro rfl
    exact obtained_heard accounted on obtained
  exact Function.update_of_ne other b c.mBuffers

theorem periods_snoc (mBufSize : Nat) (labels : List CaptureLabel) (l : CaptureLabel) :
    periods mBufSize (labels++[l])=periods mBufSize labels++(l.period mBufSize).toList :=
  AudioStream.filterMap_snoc _ labels l

/-- A step that neither reads nor hears a period. -/
theorem Inv.silent (inv : Inv labels c) {stream : AudioStream} {point : CapturePoint}
    (mRecording mActive : Bool) (mErrorCode : Int) (quiet : ∀ n,l.period n=none)
    (obtained : stream.obtained=point.buffer)
    (joined : stream.destroyed=true → point=.ended)
    (unheard : stream.undelivered++point.unsubmitted=c.unheard) :
    Inv (labels++[l]) { c with stream,point,mRecording,mActive,mErrorCode } := by
  refine ⟨obtained,joined,?_,inv.submitted⟩
  rw [periods_snoc,quiet,Option.toList_none,List.append_nil]
  show c.heard++(stream.undelivered++point.unsubmitted).map c.mBuffers=_
  rw [unheard]
  exact inv.delivered

theorem Inv.step {n : Nat} {audio : List AudioLabel} (sound : AudioStream.Sound n audio c.stream)
    (inv : Inv labels c) (step : Step c l d) : Inv (labels++[l]) d := by
  have obtained := inv.obtained
  have alive {point : CapturePoint} (at_ : c.point=point) (other : point≠.ended) :
      c.stream.destroyed=true → False := fun gone => other (at_.symm.trans (inv.joined gone))
  cases step with
  | stop => exact inv.silent _ _ _ (fun _ => rfl) obtained inv.joined rfl
  | setActive => exact inv.silent _ _ _ (fun _ => rfl) obtained inv.joined rfl
  | test at_ stopped =>
    refine inv.silent _ _ _ (fun _ => rfl) ?_ (fun _ => rfl) ?_
    · simpa [at_] using obtained
    · simp [unheard,at_]
  | callGetBuffer at_ recording step | wait at_ step | wake at_ step | getBufferFails at_ step =>
    have moved := AudioStream.undelivered_step step
    refine inv.silent _ _ _ (fun _ => rfl) ?_ ?_ ?_
    · simpa [obtained_step step,at_] using obtained
    · rw [destroyed_step step (by simp)]
      exact fun gone => (alive at_ (by simp) gone).elim
    · simpa [unheard,at_] using moved
  | @getBuffer stream i at_ step =>
    have moved := AudioStream.undelivered_step step
    refine inv.silent _ _ _ (fun _ => rfl) ?_ ?_ ?_
    · simpa [obtained_step step,at_] using obtained
    · rw [destroyed_step step (by simp)]
      exact fun gone => (alive at_ (by simp) gone).elim
    · simpa [unheard,at_] using moved
  | @submitBuffer stream i at_ step =>
    have moved := AudioStream.undelivered_step step
    refine inv.silent _ _ _ (fun _ => rfl) ?_ ?_ ?_
    · simp [obtained_step step,obtained,at_]
    · rw [destroyed_step step (by simp)]
      exact fun gone => (alive at_ (by simp) gone).elim
    · simpa [unheard,at_] using moved
  | @returnBuffer stream i res at_ step =>
    have moved := AudioStream.undelivered_step step
    refine inv.silent _ _ _ (fun _ => rfl) ?_ (fun _ => rfl) ?_
    · simp [obtained_step step,obtained,at_]
    · simpa [unheard,at_] using moved
  | destroy joined step =>
    have moved := AudioStream.undelivered_step step
    refine inv.silent _ _ _ (fun _ => rfl) ?_ (fun _ => joined) ?_
    · simpa [obtained_step step] using obtained
    · simpa [unheard,joined] using moved
  | @loop stream l own step =>
    have moved := AudioStream.undelivered_step step
    rcases own with rfl|rfl|⟨i,rfl⟩
    all_goals
      refine inv.silent _ _ _ (fun _ => rfl) ?_ ?_ ?_
      · simpa [obtained_step step] using obtained
      · rw [destroyed_step step (by simp)]
        exact inv.joined
      · simpa [unheard] using moved
  | @pcmReadPart i data at_ =>
    have has : i∈c.stream.obtained := by simp [obtained,at_]
    refine ⟨obtained,inv.joined,?_,inv.submitted⟩
    have delivered := inv.delivered
    simp only [unheard,at_,CapturePoint.unsubmitted,List.append_nil] at delivered ⊢
    rw [map_written sound.accounted has,delivered]
    simp [periods_snoc]
  | @pcmRead i data timestamp at_ =>
    have has : i∈c.stream.obtained := by simp [obtained,at_]
    refine ⟨by simpa [at_] using obtained,fun gone => (alive at_ (by simp) gone).elim,?_,
      inv.submitted⟩
    have delivered := inv.delivered
    simp only [unheard,at_,CapturePoint.unsubmitted,List.append_nil] at delivered
    simp only [unheard,CapturePoint.unsubmitted,List.map_append,map_written sound.accounted has]
    rw [← List.append_assoc,delivered,periods_snoc]
    simp
  | @pcmReadFails i res at_ fails =>
    refine inv.silent _ _ _ (fun _ => rfl) ?_ ?_ ?_
    · simpa [at_] using obtained
    · exact fun gone => (alive at_ (by simp) gone).elim
    · simp [unheard,at_]
  | @onAudioBuffer stream i step =>
    have moved : i::stream.undelivered=c.stream.undelivered := by
      simpa using AudioStream.undelivered_step step
    refine ⟨?_,?_,?_,?_⟩
    · simpa [obtained_step step] using obtained
    · rw [destroyed_step step (by simp)]
      exact inv.joined
    · have delivered := inv.delivered
      rw [unheard,← moved] at delivered
      simpa [unheard,periods_snoc] using delivered
    · show List.Sublist (if c.mActive then c.gadget++[c.mBuffers i] else c.gadget) _
      split_ifs
      · exact inv.submitted.append_right [c.mBuffers i]
      · exact inv.submitted.trans (List.sublist_append_left c.heard _)

theorem undelivered_length (s : AudioStream) : s.undelivered.length ≤
    s.loop.buffer.length+(s.mMsg.filterMap AudioCallbackMsg.buffer).length := by
  have queue : (s.mMsg.filterMap AudioCallbackMsg.submission).length ≤
      (s.mMsg.filterMap AudioCallbackMsg.buffer).length := by
    induction s.mMsg with
    | nil => rfl
    | cons m msgs ih => cases m <;> simp [List.filterMap_cons] <;> omega
  have loop : s.loop.submission.length ≤ s.loop.buffer.length := by
    cases s.loop <;> simp
  rw [AudioStream.undelivered,List.length_append]
  omega

/-- No more periods wait than there are buffers. -/
theorem unheard_length {n : Nat} {audio : List AudioLabel}
    (sound : AudioStream.Sound n audio c.stream) (inv : Inv labels c) : c.unheard.length ≤ n := by
  have held : c.stream.mBuffersMap.card=c.stream.outstanding.length := by
    rw [← Finset.card_val,sound.accounted.owned,Multiset.coe_card]
  have bound := AudioStream.card_le sound.accounted sound.count
  have waiting := undelivered_length c.stream
  have thread : c.point.unsubmitted.length ≤ c.stream.obtained.length := by
    rw [inv.obtained]
    cases c.point <;> simp
  rw [held,AudioStream.outstanding,List.length_append,List.length_append] at bound
  rw [unheard,List.length_append]
  omega

theorem inv_of_run {mBufSize n : Nat} {data : Nat → List UInt8}
    (hr : Run Step (started mBufSize n data) labels c) :
    (∃ audio,AudioStream.Sound n audio c.stream) ∧ Inv labels c ∧ c.mBufSize=mBufSize := by
  induction hr with
  | nil => exact ⟨⟨[],AudioStream.sound_of_run .nil⟩,⟨rfl,nofun,rfl,.slnil⟩,rfl⟩
  | snoc before step ih =>
    obtain ⟨⟨audio,sound⟩,inv,size⟩ := ih
    have after := AudioStream.sound_of_run (audio_run (before.snoc step))
    refine ⟨⟨_,after⟩,inv.step sound step,?_⟩
    rw [← size]
    cases step <;> rfl

/-- However the recorder thread, the stream's loop, Stop and the camera interleave, the callback is
given what the device has delivered, in its order and unchanged, except for the periods that are
still in the buffers on their way, at most one for each buffer; the gadget gets some of them, in
order. Once the loop has ended nothing is left out. -/
theorem audio_delivered {mBufSize n : Nat} {data : Nat → List UInt8}
    (hr : Run Step (started mBufSize n data) labels c) :
    c.heard++c.unheard.map c.mBuffers=periods mBufSize labels ∧ c.unheard.length ≤ n ∧
      c.gadget.Sublist c.heard ∧ (c.stream.loop=.ended → c.heard=periods mBufSize labels) := by
  obtain ⟨⟨audio,sound⟩,inv,size⟩ := inv_of_run hr
  have delivered := inv.delivered
  rw [size] at delivered
  refine ⟨delivered,unheard_length sound inv,inv.submitted,fun ended => ?_⟩
  have stopped := sound.closing.ended ended
  have destroyed : c.stream.destroyed=true := by
    by_contra lives
    have running := sound.closing.alive (Bool.eq_false_of_not_eq_true lives)
    exact absurd (running.symm.trans stopped) (by decide)
  have empty := (sound.closing.closed stopped).1
  rw [← delivered]
  simp [unheard,inv.joined destroyed,AudioStream.undelivered,ended,empty]

/-- One buffer for two periods; the recorder is stopped while the second is in the queue. -/
def twoPeriods : List CaptureLabel :=
  [.waits .callGetBuffer,.getBuffer 0,.pcmReadPart [7],.pcmRead [1,2] 5,.submitBuffer 0,
    .loop .test,.loop .pop,.onAudioBuffer 0,.loop (.erase 0),
    .waits .callGetBuffer,.getBuffer 0,.pcmRead [3,4] 6,.stop,.submitBuffer 0,.test,.destroy,
    .loop .test,.loop .pop,.onAudioBuffer 0,.loop (.erase 0),.loop .test,.loop .pop,.loop .test]

theorem audio_delivered_twoPeriods : ∃ c,Run Step (started 2 1 fun _ => []) twoPeriods c ∧
    c.heard=[⟨[1,2],2,5⟩,⟨[3,4],2,6⟩] := by
  have first := (((((Run.nil : Run Step (started 2 1 fun _ => []) [] _).snoc
    (.callGetBuffer rfl rfl (.callGetBuffer rfl rfl))).snoc
    (.getBuffer rfl (.getBuffer rfl (by decide) rfl))).snoc (.pcmReadPart [7] rfl)).snoc
    (.pcmRead [1,2] 5 rfl)).snoc (.submitBuffer rfl (.submitBuffer rfl rfl (by decide)))
  have heard := (((first.snoc (.loop (.inl rfl) (.test rfl))).snoc
    (.loop (.inr (.inl rfl)) (.popSubmit rfl rfl))).snoc
    (.onAudioBuffer (.onAudioBuffer rfl))).snoc (.loop (.inr (.inr ⟨0,rfl⟩)) (.erase rfl))
  have second := ((((heard.snoc (.callGetBuffer rfl rfl (.callGetBuffer rfl rfl))).snoc
    (.getBuffer rfl (.getBuffer rfl (by decide) rfl))).snoc (.pcmRead [3,4] 6 rfl)).snoc
    .stop).snoc (.submitBuffer rfl (.submitBuffer rfl rfl (by decide)))
  have stopped := (second.snoc (.test rfl rfl)).snoc (.destroy rfl (.destroy rfl rfl))
  have last := (((stopped.snoc (.loop (.inl rfl) (.test rfl))).snoc
    (.loop (.inr (.inl rfl)) (.popSubmit rfl rfl))).snoc
    (.onAudioBuffer (.onAudioBuffer rfl))).snoc (.loop (.inr (.inr ⟨0,rfl⟩)) (.erase rfl))
  have ended := ((last.snoc (.loop (.inl rfl) (.test rfl))).snoc
    (.loop (.inr (.inl rfl)) (.popEnd rfl rfl))).snoc (.loop (.inl rfl) (.test rfl))
  exact ⟨_,ended,(audio_delivered ended).2.2.2 rfl⟩

end AudioCapture

end IotMedia.Daemon

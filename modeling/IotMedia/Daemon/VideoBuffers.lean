import IotMedia.Camera.Types
import IotMedia.Framework.Run
import Mathlib.Data.List.Basic
import Mathlib.Data.List.Nodup

namespace IotMedia.Daemon

open IotMedia.Framework IotMedia.Camera

inductive UmdCameraMessage
  | CAMERA_START
  | CAMERA_STOP
  | CAMERA_SUBMIT_REQUEST
  | CAMERA_TERMINATE
  deriving DecidableEq

/-- A buffer as a call of StreamCb gets it; the camera passes the same handle again and again, and
`number` tells the calls apart. -/
structure VideoBuffer where
  number : Nat
  handle : Option Handle
  deriving DecidableEq

/-- How far a call of StreamCb has come. -/
inductive StreamCbStage
  | active
  | mapped
  | sized
  | submitted (bufidx : BitVec 32)
  | failUnmap
  | failReturn
  deriving DecidableEq

structure StreamCbCall where
  buffer : VideoBuffer
  stage : StreamCbStage

/-- videoBufferLoop; `unstarted` before the first one. -/
inductive LoopStage
  | unstarted
  | testActive
  | testSize
  | popping
  | popped (buffer : VideoBuffer) (bufidx : BitVec 32)
  | unmapped (buffer : VideoBuffer)
  | exited
  deriving DecidableEq

/-- The gadget's thread: between enableVideoStream and disableVideoStream, or in one of them with
the message pushed and mActive still to be written. -/
inductive GadgetStage
  | off
  | enabling
  | on
  | disabling
  deriving DecidableEq

/-- cameraThreadHandler: at its pop, in CameraStop at the join of the loop, or ended. -/
inductive CameraThreadStage
  | popping
  | joining (terminate : Bool)
  | ended
  deriving DecidableEq

/-- The destructor writes mActive, then pushes its message. -/
inductive DestructorStage
  | alive
  | inactive
  | terminating
  deriving DecidableEq

/-- The members of UmdCamera that video buffers go by, its threads, and the buffers that have been
passed to StreamCb and to ReturnStreamBuffer. -/
structure UmdCamera where
  mActive : Bool
  mMsg : List UmdCameraMessage := []
  mVideoBufferQueue : List (VideoBuffer × BitVec 32) := []
  mVideoBufferThread : Bool := false
  gadget : GadgetStage := .off
  destructor : DestructorStage := .alive
  cameraThread : CameraThreadStage := .popping
  loop : LoopStage := .unstarted
  calls : List StreamCbCall := []
  passed : List VideoBuffer := []
  returned : List VideoBuffer := []

inductive VideoStep
  | enableVideoStream
  | enabled
  | disableVideoStream
  | disabled
  | setCameraMetadata
  | destroy
  | destroyed
  | cameraThreadHandler
  | join
  | testActive
  | testSize
  | pop
  | waitBuffer
  | loopReturn
  | streamCb (handle : Option Handle)
  | mapBuffer (i : Nat) (mapped : Bool)
  | findSize (i : Nat) (supported : Bool)
  | submitBuffer (i : Nat) (bufidx : BitVec 32)
  | push (i : Nat)
  | unmapBuffer (i : Nat)
  | returnStreamBuffer (i : Nat)

namespace LoopStage

/-- What the loop has popped and not yet returned. -/
def held : LoopStage → List VideoBuffer
  | .popped buffer _ => [buffer]
  | .unmapped buffer => [buffer]
  | _ => []

end LoopStage

namespace GadgetStage

/-- The last message was a start. -/
def started : GadgetStage → Bool
  | .enabling => true
  | .on => true
  | _ => false

end GadgetStage

namespace UmdCamera

def pushMsg (w : UmdCamera) (msg : UmdCameraMessage) : UmdCamera :=
  { w with mMsg := w.mMsg++[msg] }

/-- CameraStart spawns the loop before anything that can fail. Where another loop's thread is not
joined yet its destruction ends the process. -/
def cameraStart (w : UmdCamera) : Option UmdCamera :=
  if w.mVideoBufferThread then none
  else some { w with mVideoBufferThread := true,loop := .testActive }

/-- CameraStop up to the join, whatever cancelling and the wait for idleness bring. -/
def cameraStop (w : UmdCamera) (terminate : Bool) : UmdCamera :=
  if w.mVideoBufferThread=false then
    { w with cameraThread := if terminate then .ended else .popping }
  else { w with cameraThread := .joining terminate }

/-- The call at this place goes on. -/
def advance (w : UmdCamera) (i : Nat) (call : StreamCbCall) (stage : StreamCbStage) : UmdCamera :=
  { w with calls := w.calls.set i ⟨call.buffer,stage⟩ }

def perform (w : UmdCamera) : VideoStep → Option UmdCamera
  | .enableVideoStream =>
    if w.gadget=.off then some { w.pushMsg .CAMERA_START with gadget := .enabling } else none
  | .enabled =>
    if w.gadget=.enabling then some { w with mActive := true,gadget := .on } else none
  | .disableVideoStream =>
    if w.gadget=.on then some { w.pushMsg .CAMERA_STOP with gadget := .disabling } else none
  | .disabled =>
    if w.gadget=.disabling then some { w with mActive := false,gadget := .off } else none
  | .setCameraMetadata => some (w.pushMsg .CAMERA_SUBMIT_REQUEST)
  | .destroy =>
    if w.destructor=.alive then some { w with mActive := false,destructor := .inactive } else none
  | .destroyed =>
    if w.destructor=.inactive then
      some { w.pushMsg .CAMERA_TERMINATE with destructor := .terminating } else none
  | .cameraThreadHandler =>
    match w.cameraThread,w.mMsg with
    | .popping,event::rest =>
      let w := { w with mMsg := rest }
      match event with
      | .CAMERA_START => w.cameraStart
      | .CAMERA_STOP => some (w.cameraStop false)
      | .CAMERA_SUBMIT_REQUEST => some w
      | .CAMERA_TERMINATE => some (w.cameraStop true)
    | _,_ => none
  | .join =>
    match w.cameraThread,w.loop with
    | .joining terminate,.exited => some { w with
        mVideoBufferThread := false
        cameraThread := if terminate then .ended else .popping }
    | _,_ => none
  | .testActive =>
    if w.loop=.testActive then
      some { w with loop := if w.mActive then .popping else .testSize } else none
  | .testSize =>
    if w.loop=.testSize then
      some { w with loop := if w.mVideoBufferQueue=[] then .exited else .popping } else none
  | .pop =>
    if w.loop=.popping then
      match w.mVideoBufferQueue with
      -- the timeout of the queue
      | [] => some { w with loop := .testActive }
      | p::rest => some { w with mVideoBufferQueue := rest,loop := .popped p.1 p.2 }
    else none
  | .waitBuffer =>
    match w.loop with
    | .popped buffer _ =>
      some { w with loop := if buffer.handle.isNone then .testActive else .unmapped buffer }
    | _ => none
  | .loopReturn =>
    match w.loop with
    | .unmapped buffer =>
      some { w with loop := .testActive,returned := w.returned++[buffer] }
    | _ => none
  | .streamCb handle =>
    -- both MapBuffer and UnmapBuffer assert that there is a handle
    if handle.isNone then none
    else
      let buffer : VideoBuffer := ⟨w.passed.length,handle⟩
      some { w with
        passed := w.passed++[buffer]
        calls := w.calls++[⟨buffer,if w.mActive then .active else .failUnmap⟩] }
  | .mapBuffer i mapped =>
    match w.calls[i]? with
    | some call =>
      if call.stage=.active then
        some (w.advance i call (if mapped then .mapped else .failReturn)) else none
    | none => none
  | .findSize i supported =>
    match w.calls[i]? with
    | some call =>
      if call.stage=.mapped then
        some (w.advance i call (if supported then .sized else .failUnmap)) else none
    | none => none
  | .submitBuffer i bufidx =>
    match w.calls[i]? with
    | some call =>
      if call.stage=.sized then
        some (w.advance i call (if bufidx < 0 then .failUnmap else .submitted bufidx)) else none
    | none => none
  | .push i =>
    match w.calls[i]? with
    | some ⟨buffer,.submitted bufidx⟩ => some { w with
        mVideoBufferQueue := w.mVideoBufferQueue++[(buffer,bufidx)]
        calls := w.calls.eraseIdx i }
    | _ => none
  | .unmapBuffer i =>
    match w.calls[i]? with
    | some call =>
      if call.stage=.failUnmap then some (w.advance i call .failReturn) else none
    | none => none
  | .returnStreamBuffer i =>
    match w.calls[i]? with
    | some call =>
      if call.stage=.failReturn then some { w with
        returned := w.returned++[call.buffer]
        calls := w.calls.eraseIdx i } else none
    | none => none

def Step (w : UmdCamera) (step : VideoStep) (w' : UmdCamera) : Prop := w.perform step=some w'

/-- The constructor leaves mActive unwritten. -/
def construct (mActive : Bool) : UmdCamera := { mActive := mActive }

/-- Each buffer is back once and none is queued, as soon as the loop is over and no call is in
progress. -/
def Delivered (w : UmdCamera) : Prop :=
  w.loop=.exited → w.calls=[] →
    w.mVideoBufferQueue=[] ∧ ∀ b∈w.passed,w.returned.count b=1

/-- StreamCb queues no buffer once videoBufferLoop is over. -/
def Timely (w : UmdCamera) : VideoStep → Prop
  | .push _ => w.loop≠.exited
  | _ => True

variable {w w' : UmdCamera} {steps : List VideoStep}

/-- What a step does, one case for each of its ends. -/
inductive Moved (w : UmdCamera) : VideoStep → UmdCamera → Prop
  | enableVideoStream (at_ : w.gadget=.off) :
    Moved w .enableVideoStream { w.pushMsg .CAMERA_START with gadget := .enabling }
  | enabled (at_ : w.gadget=.enabling) :
    Moved w .enabled { w with mActive := true,gadget := .on }
  | disableVideoStream (at_ : w.gadget=.on) :
    Moved w .disableVideoStream { w.pushMsg .CAMERA_STOP with gadget := .disabling }
  | disabled (at_ : w.gadget=.disabling) :
    Moved w .disabled { w with mActive := false,gadget := .off }
  | setCameraMetadata : Moved w .setCameraMetadata (w.pushMsg .CAMERA_SUBMIT_REQUEST)
  | destroy (at_ : w.destructor=.alive) :
    Moved w .destroy { w with mActive := false,destructor := .inactive }
  | destroyed (at_ : w.destructor=.inactive) :
    Moved w .destroyed { w.pushMsg .CAMERA_TERMINATE with destructor := .terminating }
  | start {rest : List UmdCameraMessage} (at_ : w.cameraThread=.popping)
      (pending : w.mMsg=.CAMERA_START::rest) (missing : w.mVideoBufferThread=false) :
    Moved w .cameraThreadHandler
      { w with mMsg := rest,mVideoBufferThread := true,loop := .testActive }
  | stop {rest : List UmdCameraMessage} (at_ : w.cameraThread=.popping)
      (pending : w.mMsg=.CAMERA_STOP::rest) :
    Moved w .cameraThreadHandler (cameraStop { w with mMsg := rest } false)
  | submitRequest {rest : List UmdCameraMessage} (at_ : w.cameraThread=.popping)
      (pending : w.mMsg=.CAMERA_SUBMIT_REQUEST::rest) :
    Moved w .cameraThreadHandler { w with mMsg := rest }
  | terminate {rest : List UmdCameraMessage} (at_ : w.cameraThread=.popping)
      (pending : w.mMsg=.CAMERA_TERMINATE::rest) :
    Moved w .cameraThreadHandler (cameraStop { w with mMsg := rest } true)
  | join {terminate : Bool} (at_ : w.cameraThread=.joining terminate) (ended : w.loop=.exited) :
    Moved w .join { w with
      mVideoBufferThread := false
      cameraThread := if terminate then .ended else .popping }
  | testActive (at_ : w.loop=.testActive) :
    Moved w .testActive { w with loop := if w.mActive then .popping else .testSize }
  | testSize (at_ : w.loop=.testSize) :
    Moved w .testSize
      { w with loop := if w.mVideoBufferQueue=[] then .exited else .popping }
  | timeout (at_ : w.loop=.popping) (empty : w.mVideoBufferQueue=[]) :
    Moved w .pop { w with loop := .testActive }
  | popped {p : VideoBuffer × BitVec 32} {rest : List (VideoBuffer × BitVec 32)}
      (at_ : w.loop=.popping) (front : w.mVideoBufferQueue=p::rest) :
    Moved w .pop { w with mVideoBufferQueue := rest,loop := .popped p.1 p.2 }
  | waitBuffer {buffer : VideoBuffer} {bufidx : BitVec 32} (at_ : w.loop=.popped buffer bufidx) :
    Moved w .waitBuffer
      { w with loop := if buffer.handle.isNone then .testActive else .unmapped buffer }
  | loopReturn {buffer : VideoBuffer} (at_ : w.loop=.unmapped buffer) :
    Moved w .loopReturn { w with loop := .testActive,returned := w.returned++[buffer] }
  | streamCb {handle : Option Handle} (given : handle.isSome) :
    Moved w (.streamCb handle) { w with
      passed := w.passed++[⟨w.passed.length,handle⟩]
      calls := w.calls++[⟨⟨w.passed.length,handle⟩,if w.mActive then .active else .failUnmap⟩] }
  | mapBuffer {i : Nat} {mapped : Bool} {call : StreamCbCall} (here : w.calls[i]?=some call)
      (at_ : call.stage=.active) :
    Moved w (.mapBuffer i mapped) (w.advance i call (if mapped then .mapped else .failReturn))
  | findSize {i : Nat} {supported : Bool} {call : StreamCbCall} (here : w.calls[i]?=some call)
      (at_ : call.stage=.mapped) :
    Moved w (.findSize i supported) (w.advance i call (if supported then .sized else .failUnmap))
  | submitBuffer {i : Nat} {bufidx : BitVec 32} {call : StreamCbCall}
      (here : w.calls[i]?=some call) (at_ : call.stage=.sized) :
    Moved w (.submitBuffer i bufidx)
      (w.advance i call (if bufidx < 0 then .failUnmap else .submitted bufidx))
  | push {i : Nat} {buffer : VideoBuffer} {bufidx : BitVec 32}
      (here : w.calls[i]?=some ⟨buffer,.submitted bufidx⟩) :
    Moved w (.push i) { w with
      mVideoBufferQueue := w.mVideoBufferQueue++[(buffer,bufidx)]
      calls := w.calls.eraseIdx i }
  | unmapBuffer {i : Nat} {call : StreamCbCall} (here : w.calls[i]?=some call)
      (at_ : call.stage=.failUnmap) : Moved w (.unmapBuffer i) (w.advance i call .failReturn)
  | returnStreamBuffer {i : Nat} {call : StreamCbCall} (here : w.calls[i]?=some call)
      (at_ : call.stage=.failReturn) :
    Moved w (.returnStreamBuffer i) { w with
      returned := w.returned++[call.buffer]
      calls := w.calls.eraseIdx i }

theorem Step.moved {step : VideoStep} (h : Step w step w') : Moved w step w' := by
  unfold Step perform at h
  cases step with
  | enableVideoStream | enabled | disableVideoStream | disabled | destroy | destroyed | testActive
  | testSize =>
    dsimp only at h
    split at h
    next at_ =>
      cases Option.some.inj h
      constructor
      exact at_
    · cases h
  | setCameraMetadata =>
    cases Option.some.inj h
    exact .setCameraMetadata
  | cameraThreadHandler =>
    dsimp only at h
    split at h
    next event rest at_ pending =>
      cases event with
      | CAMERA_START =>
        dsimp only [cameraStart] at h
        split at h
        · cases h
        next missing =>
          cases Option.some.inj h
          exact .start at_ pending (by simpa using missing)
      | CAMERA_STOP =>
        cases Option.some.inj h
        exact .stop at_ pending
      | CAMERA_SUBMIT_REQUEST =>
        cases Option.some.inj h
        exact .submitRequest at_ pending
      | CAMERA_TERMINATE =>
        cases Option.some.inj h
        exact .terminate at_ pending
    · cases h
  | join =>
    dsimp only at h
    split at h
    next at_ ended =>
      cases Option.some.inj h
      exact .join at_ ended
    · cases h
  | pop =>
    dsimp only at h
    split at h
    next at_ =>
      split at h
      next empty =>
        cases Option.some.inj h
        exact .timeout at_ empty
      next front =>
        cases Option.some.inj h
        exact .popped at_ front
    · cases h
  | waitBuffer | loopReturn =>
    dsimp only at h
    split at h
    next at_ =>
      cases Option.some.inj h
      constructor
      exact at_
    · cases h
  | streamCb handle =>
    dsimp only at h
    split at h
    · cases h
    next given =>
      cases Option.some.inj h
      exact .streamCb (Option.isSome_iff_ne_none.mpr (by simpa using given))
  | push i =>
    dsimp only at h
    split at h
    next here =>
      cases Option.some.inj h
      exact .push here
    · cases h
  | mapBuffer i | findSize i | submitBuffer i | unmapBuffer i | returnStreamBuffer i =>
    dsimp only at h
    split at h
    next here =>
      split at h
      next at_ =>
        cases Option.some.inj h
        constructor
        · exact here
        · exact at_
      · cases h
    · cases h

/-- How often a buffer lies between StreamCb and ReturnStreamBuffer. -/
def inFlight (w : UmdCamera) (b : VideoBuffer) : Nat :=
  (w.mVideoBufferQueue.map Prod.fst).count b+w.loop.held.count b+
    (w.calls.map StreamCbCall.buffer).count b

structure Inv (w : UmdCamera) : Prop where
  places : ∀ b,w.passed.count b=w.returned.count b+w.inFlight b
  handles : ∀ b∈w.passed,b.handle.isSome
  numbers : w.passed.map VideoBuffer.number=List.range w.passed.length
  thread : w.mVideoBufferThread=false → w.loop=.unstarted ∨ w.loop=.exited
  drained : w.loop=.exited → w.mVideoBufferQueue=[]

/-- What every run keeps; StreamCb may be late. -/
structure Placed (w : UmdCamera) : Prop where
  places : ∀ b,w.passed.count b=w.returned.count b+w.inFlight b
  handles : ∀ b∈w.passed,b.handle.isSome
  numbers : w.passed.map VideoBuffer.number=List.range w.passed.length
  thread : w.mVideoBufferThread=false → w.loop=.unstarted ∨ w.loop=.exited

theorem Inv.placed (hi : Inv w) : Placed w := ⟨hi.places,hi.handles,hi.numbers,hi.thread⟩

section Calls

variable {i : Nat} {call : StreamCbCall}

theorem advance_buffers (hc : w.calls[i]?=some call) (stage : StreamCbStage) :
    (w.advance i call stage).calls.map StreamCbCall.buffer=w.calls.map StreamCbCall.buffer := by
  obtain ⟨bound,found⟩ := List.getElem?_eq_some_iff.mp hc
  have within : i<(w.calls.map StreamCbCall.buffer).length := by
    rw [List.length_map]
    exact bound
  have same : (w.calls.map StreamCbCall.buffer)[i]=call.buffer := by
    rw [List.getElem_map,found]
  show (w.calls.set i ⟨call.buffer,stage⟩).map StreamCbCall.buffer=_
  rw [List.map_set]
  show (w.calls.map StreamCbCall.buffer).set i call.buffer=_
  rw [← same,List.set_getElem_self]

theorem erase_count (hc : w.calls[i]?=some call) (b : VideoBuffer) :
    (w.calls.map StreamCbCall.buffer).count b=
      [call.buffer].count b+((w.calls.eraseIdx i).map StreamCbCall.buffer).count b := by
  obtain ⟨bound,found⟩ := List.getElem?_eq_some_iff.mp hc
  have parts := (List.getElem_cons_eraseIdx_perm bound).map StreamCbCall.buffer
  rw [found,List.map_cons] at parts
  rw [← parts.count_eq b,← List.count_append,List.singleton_append]

end Calls

section Steps

/-- A step that moves no buffer. -/
theorem Placed.still (hi : Placed w) (passed : w'.passed=w.passed)
    (returned : w'.returned=w.returned) (moved : ∀ b,w'.inFlight b=w.inFlight b)
    (thread : w'.mVideoBufferThread=false → w'.loop=.unstarted ∨ w'.loop=.exited) : Placed w' := by
  refine ⟨?_,?_,?_,thread⟩
  · intro b
    rw [passed,returned,moved,hi.places b]
  · rw [passed]
    exact hi.handles
  · rw [passed]
    exact hi.numbers

/-- A buffer in flight is one that was passed. -/
theorem Placed.passed (hi : Placed w) {b : VideoBuffer} (h : 0 < w.inFlight b) : b∈w.passed := by
  have places := hi.places b
  exact List.count_pos_iff.mp (by omega)

/-- Each call of StreamCb has a buffer of its own. -/
theorem Placed.nodup (hi : Placed w) : w.passed.Nodup := by
  have numbered : (w.passed.map VideoBuffer.number).Nodup := by
    rw [hi.numbers]
    exact List.nodup_range
  exact List.Nodup.of_map _ numbered

/-- The loop is running, so its thread is there and not over. -/
theorem Placed.running (hi : Placed w) (hu : w.loop≠.unstarted) (he : w.loop≠.exited) :
    w.mVideoBufferThread≠false :=
  fun missing => (hi.thread missing).elim hu he

/-- Where there is no thread the loop holds nothing. -/
theorem Placed.idle (hi : Placed w) (missing : w.mVideoBufferThread=false) : w.loop.held=[] := by
  rcases hi.thread missing with ended|ended
  · rw [ended]
    rfl
  · rw [ended]
    rfl

theorem cameraStart_placed (hi : Placed w) (h : w.cameraStart=some w') : Placed w' := by
  unfold cameraStart at h
  split_ifs at h with running
  cases Option.some.inj h
  have nothing := hi.idle (by simpa using running)
  refine hi.still rfl rfl ?_ (fun h => by cases h)
  intro b
  unfold inFlight
  rw [nothing]
  rfl

theorem cameraStop_placed (hi : Placed w) (terminate : Bool) : Placed (w.cameraStop terminate) := by
  unfold cameraStop
  by_cases missing : w.mVideoBufferThread=false
  · rw [if_pos missing]
    exact hi.still rfl rfl (fun _ => rfl) hi.thread
  · rw [if_neg missing]
    exact hi.still rfl rfl (fun _ => rfl) hi.thread

theorem advance_placed (hi : Placed w) {i : Nat} {call : StreamCbCall} (hc : w.calls[i]?=some call)
    (stage : StreamCbStage) : Placed (w.advance i call stage) := by
  refine hi.still rfl rfl ?_ hi.thread
  intro b
  unfold inFlight
  rw [advance_buffers hc stage]
  rfl

/-- The loop gets another step further, moving no buffer. -/
theorem Placed.goesOn (hi : Placed w) {loop : LoopStage} (hu : w.loop≠.unstarted)
    (he : w.loop≠.exited) (held : loop.held=w.loop.held) : Placed { w with loop := loop } := by
  refine hi.still rfl rfl ?_ (fun missing => absurd missing (hi.running hu he))
  intro b
  unfold inFlight
  rw [held]

theorem popped_placed (hi : Placed w) {p : VideoBuffer × BitVec 32}
    {rest : List (VideoBuffer × BitVec 32)} (at_ : w.loop=.popping)
    (front : w.mVideoBufferQueue=p::rest) :
    Placed { w with mVideoBufferQueue := rest,loop := .popped p.1 p.2 } := by
  have running := hi.running (by simp [at_]) (by simp [at_])
  refine hi.still rfl rfl ?_ (fun missing => absurd missing running)
  intro b
  simp only [inFlight,at_,front,LoopStage.held,List.map_cons,List.count_cons,List.count_nil]
  omega

/-- A popped buffer has the handle that StreamCb asked for. -/
theorem Placed.handle (hi : Placed w) {buffer : VideoBuffer} {bufidx : BitVec 32}
    (at_ : w.loop=.popped buffer bufidx) : buffer.handle.isNone=false := by
  have flying : 0 < w.inFlight buffer := by
    have here : [buffer].count buffer=1 := List.count_singleton_self
    unfold inFlight
    rw [at_]
    show 0 < _+[buffer].count buffer+_
    omega
  have handle := hi.handles buffer (hi.passed flying)
  cases hb : buffer.handle with
  | none => simp [hb] at handle
  | some h => rfl

theorem waitBuffer_placed (hi : Placed w) {buffer : VideoBuffer} {bufidx : BitVec 32}
    (at_ : w.loop=.popped buffer bufidx) :
    Placed { w with loop := if buffer.handle.isNone then .testActive else .unmapped buffer } := by
  apply hi.goesOn (by simp [at_]) (by simp [at_])
  simp [hi.handle at_,at_,LoopStage.held]

theorem loopReturn_placed (hi : Placed w) {buffer : VideoBuffer} (at_ : w.loop=.unmapped buffer) :
    Placed { w with loop := .testActive,returned := w.returned++[buffer] } := by
  have running := hi.running (by simp [at_]) (by simp [at_])
  refine ⟨?_,hi.handles,hi.numbers,fun missing => absurd missing running⟩
  intro b
  have places := hi.places b
  simp only [inFlight,at_,LoopStage.held,List.count_append,List.count_nil] at places ⊢
  omega

theorem streamCb_placed (hi : Placed w) {handle : Option Handle} (given : handle.isSome)
    (stage : StreamCbStage) : Placed { w with
      passed := w.passed++[⟨w.passed.length,handle⟩]
      calls := w.calls++[⟨⟨w.passed.length,handle⟩,stage⟩] } := by
  refine ⟨?_,?_,?_,hi.thread⟩
  · intro b
    have places := hi.places b
    simp only [inFlight,List.count_append,List.map_append,List.map_cons,List.map_nil] at places ⊢
    omega
  · intro b hb
    rcases List.mem_append.mp hb with old|new
    · exact hi.handles b old
    · rw [List.mem_singleton.mp new]
      exact given
  · show (w.passed++[_]).map VideoBuffer.number=List.range (w.passed++[_]).length
    rw [List.map_append,hi.numbers,List.length_append]
    exact (List.range_succ (n := w.passed.length)).symm

theorem push_placed (hi : Placed w) {i : Nat} {buffer : VideoBuffer} {bufidx : BitVec 32}
    (here : w.calls[i]?=some ⟨buffer,.submitted bufidx⟩) : Placed { w with
      mVideoBufferQueue := w.mVideoBufferQueue++[(buffer,bufidx)]
      calls := w.calls.eraseIdx i } := by
  refine hi.still rfl rfl ?_ hi.thread
  intro b
  have erased := erase_count here b
  simp only [inFlight,erased,List.map_append,List.map_cons,List.map_nil,List.count_append]
  omega

theorem returnStreamBuffer_placed (hi : Placed w) {i : Nat} {call : StreamCbCall}
    (here : w.calls[i]?=some call) : Placed { w with
      returned := w.returned++[call.buffer]
      calls := w.calls.eraseIdx i } := by
  refine ⟨?_,hi.handles,hi.numbers,hi.thread⟩
  intro b
  have erased := erase_count here b
  have places := hi.places b
  simp only [inFlight,erased,List.count_append] at places ⊢
  omega

theorem step_placed (hi : Placed w) {step : VideoStep} (h : Step w step w') : Placed w' := by
  have quiet : ∀ {w' : UmdCamera},w'.passed=w.passed → w'.returned=w.returned →
      w'.mVideoBufferQueue=w.mVideoBufferQueue → w'.loop=w.loop → w'.calls=w.calls →
      w'.mVideoBufferThread=w.mVideoBufferThread → Placed w' := by
    intro w' passed returned queue loop calls thread
    refine hi.still passed returned ?_ (by rw [thread,loop]; exact hi.thread)
    intro b
    rw [inFlight,queue,loop,calls,inFlight]
  cases h.moved with
  | enableVideoStream | enabled | disableVideoStream | disabled | destroy | destroyed
  | setCameraMetadata | submitRequest => exact quiet rfl rfl rfl rfl rfl rfl
  | @start rest at_ pending missing =>
    have popped : Placed { w with mMsg := rest } := quiet rfl rfl rfl rfl rfl rfl
    exact cameraStart_placed popped (by simp [cameraStart,missing])
  | @stop rest | @terminate rest =>
    have popped : Placed { w with mMsg := rest } := quiet rfl rfl rfl rfl rfl rfl
    exact cameraStop_placed popped _
  | join at_ ended => exact hi.still rfl rfl (fun _ => rfl) (fun _ => Or.inr ended)
  | testActive at_ | testSize at_ =>
    apply hi.goesOn (by simp [at_]) (by simp [at_])
    rw [at_]
    split_ifs <;> rfl
  | timeout at_ empty =>
    apply hi.goesOn (by simp [at_]) (by simp [at_])
    rw [at_]
    rfl
  | popped at_ front => exact popped_placed hi at_ front
  | waitBuffer at_ => exact waitBuffer_placed hi at_
  | loopReturn at_ => exact loopReturn_placed hi at_
  | streamCb given => exact streamCb_placed hi given _
  | mapBuffer here | findSize here | submitBuffer here | unmapBuffer here =>
    exact advance_placed hi here _
  | push here => exact push_placed hi here
  | returnStreamBuffer here => exact returnStreamBuffer_placed hi here

theorem cameraStop_loop (terminate : Bool) : (w.cameraStop terminate).loop=w.loop ∧
    (w.cameraStop terminate).mVideoBufferQueue=w.mVideoBufferQueue := by
  unfold cameraStop
  split
  · exact ⟨rfl,rfl⟩
  · exact ⟨rfl,rfl⟩

/-- Whatever else happens, a loop that ends has emptied the queue. -/
theorem step_drained (hd : w.loop=.exited → w.mVideoBufferQueue=[]) {step : VideoStep}
    (ht : w.Timely step) (h : Step w step w') : w'.loop=.exited → w'.mVideoBufferQueue=[] := by
  cases h.moved with
  | start | timeout | popped | loopReturn =>
    intro ended
    cases ended
  | testActive =>
    intro ended
    split_ifs at ended
  | testSize =>
    intro ended
    split_ifs at ended with drained
    exact drained
  | waitBuffer =>
    intro ended
    split_ifs at ended
  | stop | terminate =>
    rw [(cameraStop_loop _).1,(cameraStop_loop _).2]
    exact hd
  | push => exact fun ended => absurd ended ht
  | enableVideoStream | enabled | disableVideoStream | disabled | destroy | destroyed
  | setCameraMetadata | submitRequest | join | streamCb | mapBuffer | findSize | submitBuffer
  | unmapBuffer | returnStreamBuffer => exact hd

theorem step_inv (hi : Inv w) {step : VideoStep} (ht : w.Timely step) (h : Step w step w') :
    Inv w' := by
  have placed := step_placed hi.placed h
  exact ⟨placed.places,placed.handles,placed.numbers,placed.thread,step_drained hi.drained ht h⟩

end Steps

section Stranded

/-! Once a buffer is queued behind the loop's back, the calls in progress may end with it there. -/

/-- The loop is over and a buffer is queued. -/
def Stranded (w : UmdCamera) : Prop := w.loop=.exited ∧ w.mVideoBufferQueue≠[]

/-- The first of the calls in progress can come to its end. -/
def Ends (w : UmdCamera) (cs : List StreamCbCall) : Prop :=
  ∃ steps w',Run Step w steps w' ∧ w'.Stranded ∧ w'.calls=cs

theorem Ends.step {cs : List StreamCbCall} {step : VideoStep} (h : Step w step w')
    (he : w'.Ends cs) : w.Ends cs := by
  obtain ⟨steps,last,run,stranded,calls⟩ := he
  exact ⟨step::steps,last,.cons h run,stranded,calls⟩

variable {call : StreamCbCall} {cs : List StreamCbCall}

theorem ends_failReturn (hs : w.Stranded) (hc : w.calls=call::cs) (stage : call.stage=.failReturn) :
    w.Ends cs := by
  have done : Step w (.returnStreamBuffer 0)
      { w with returned := w.returned++[call.buffer],calls := cs } := by
    simp [Step,perform,hc,stage]
  exact Ends.step done ⟨[],_,.nil,hs,rfl⟩

/-- A step of the first call that leads to a stage from which it can end. -/
theorem ends_advance (step : VideoStep) (stage : StreamCbStage) (hc : w.calls=call::cs)
    (h : w.perform step=some (w.advance 0 call stage))
    (later : ∀ w : UmdCamera,w.loop=.exited ∧ w.mVideoBufferQueue≠[] →
      w.calls=⟨call.buffer,stage⟩::cs → w.Ends cs) (hs : w.Stranded) : w.Ends cs :=
  Ends.step h (later _ hs (by rw [advance,hc]; rfl))

theorem ends_failUnmap (hs : w.Stranded) (hc : w.calls=call::cs) (stage : call.stage=.failUnmap) :
    w.Ends cs :=
  ends_advance (.unmapBuffer 0) .failReturn hc
    (by simp [perform,hc,stage]) (fun _ hs hc => ends_failReturn hs hc rfl) hs

theorem ends_submitted (hs : w.Stranded) {bufidx : BitVec 32} (hc : w.calls=call::cs)
    (stage : call.stage=.submitted bufidx) : w.Ends cs := by
  obtain ⟨buffer,_⟩ := call
  cases stage
  have pushed : Step w (.push 0) { w with
      mVideoBufferQueue := w.mVideoBufferQueue++[(buffer,bufidx)],calls := cs } := by
    simp [Step,perform,hc]
  exact Ends.step pushed ⟨[],_,.nil,⟨hs.1,by simp⟩,rfl⟩

theorem ends_call (hs : w.Stranded) (hc : w.calls=call::cs) : w.Ends cs := by
  cases stage : call.stage with
  | failReturn => exact ends_failReturn hs hc stage
  | failUnmap => exact ends_failUnmap hs hc stage
  | submitted bufidx => exact ends_submitted hs hc stage
  | active =>
    exact ends_advance (.mapBuffer 0 false) .failReturn hc
      (by simp [perform,hc,stage]) (fun _ hs hc => ends_failReturn hs hc rfl) hs
  | mapped =>
    exact ends_advance (.findSize 0 false) .failUnmap hc
      (by simp [perform,hc,stage]) (fun _ hs hc => ends_failUnmap hs hc rfl) hs
  | sized =>
    exact ends_advance (.submitBuffer 0 0) (.submitted 0) hc
      (by simp [perform,hc,stage]) (fun _ hs hc => ends_submitted hs hc rfl) hs

theorem ends_all (cs : List StreamCbCall) (w : UmdCamera) (hs : w.Stranded) (hc : w.calls=cs) :
    w.Ends [] := by
  induction cs generalizing w with
  | nil => exact ⟨[],w,.nil,hs,hc⟩
  | cons call cs ih =>
    obtain ⟨steps,w',run,stranded,calls⟩ := ends_call hs hc
    obtain ⟨later,last,rest,ended,none⟩ := ih w' stranded calls
    exact ⟨steps++later,last,run.append rest,ended,none⟩

/-- What such a push leads to. -/
theorem untimely_push {step : VideoStep} (h : Step w step w') (ht : ¬w.Timely step) :
    ∃ later w'',Run Step w' later w'' ∧ ¬w''.Delivered := by
  cases step with
  | push i =>
    have ended : w.loop=.exited := not_not.mp ht
    have stranded : w'.Stranded := by
      cases h.moved with
      | push here => exact ⟨ended,by simp⟩
    obtain ⟨later,last,run,left,none⟩ := ends_all w'.calls w' stranded rfl
    exact ⟨later,last,run,fun delivered => left.2 (delivered left.1 none).1⟩
  | _ => exact absurd trivial ht

end Stranded

theorem construct_inv (mActive : Bool) : Inv (construct mActive) :=
  ⟨fun _ => rfl,(fun _ hb => by cases hb),rfl,fun _ => Or.inl rfl,(fun h => by cases h)⟩

theorem Inv.delivered (hi : Inv w) : w.Delivered := by
  intro ended none
  have drained := hi.drained ended
  refine ⟨drained,?_⟩
  intro b hb
  have places := hi.places b
  have once : w.passed.count b=1 := List.count_eq_one_of_mem hi.placed.nodup hb
  have nowhere : w.inFlight b=0 := by
    simp [inFlight,drained,ended,none,LoopStage.held]
  omega

section Alternation

/-! A gadget that alternates never makes CameraStart replace a loop's thread. -/

/-- Starts and stops alternate, beginning with a stop if the video is started. -/
def Alternates : Bool → List UmdCameraMessage → Prop
  | _,[] => True
  | started,.CAMERA_START::rest => started=false ∧ Alternates true rest
  | started,.CAMERA_STOP::rest => started=true ∧ Alternates false rest
  | started,_::rest => Alternates started rest

/-- Whether the video is started once these messages are handled. -/
def startedAfter : Bool → List UmdCameraMessage → Bool
  | started,[] => started
  | _,.CAMERA_START::rest => startedAfter true rest
  | _,.CAMERA_STOP::rest => startedAfter false rest
  | started,_::rest => startedAfter started rest

theorem alternates_snoc (started : Bool) (msgs : List UmdCameraMessage) (msg : UmdCameraMessage) :
    (Alternates started (msgs++[msg]) ↔
      Alternates started msgs ∧ Alternates (startedAfter started msgs) [msg]) ∧
    startedAfter started (msgs++[msg])=startedAfter (startedAfter started msgs) [msg] := by
  induction msgs generalizing started with
  | nil => simp [Alternates,startedAfter]
  | cons head rest ih =>
    cases head <;> simp [Alternates,startedAfter,ih,and_assoc]

/-- The camera's thread has handled a start and no stop since. -/
def started (w : UmdCamera) : Bool := w.mVideoBufferThread && w.cameraThread=.popping

structure Ordered (w : UmdCamera) : Prop where
  messages : Alternates w.started w.mMsg
  gadget : startedAfter w.started w.mMsg=w.gadget.started

/-- The camera's thread has not handled CAMERA_TERMINATE. -/
def Serves (w : UmdCamera) : Prop := w.cameraThread=.popping ∨ w.cameraThread=.joining false

theorem Ordered.push (ho : Ordered w) {msg : UmdCameraMessage} {gadget : GadgetStage}
    (fits : Alternates w.gadget.started [msg])
    (after : startedAfter w.gadget.started [msg]=gadget.started) :
    Ordered { w.pushMsg msg with gadget := gadget } := by
  obtain ⟨alternates,ends⟩ := alternates_snoc w.started w.mMsg msg
  rw [ho.gadget] at alternates ends
  exact ⟨alternates.mpr ⟨ho.messages,fits⟩,ends.trans after⟩

theorem step_ordered {step : VideoStep} (hi : w.Serves → Ordered w) (h : Step w step w')
    (hs : w'.Serves) : Ordered w' := by
  have quiet : ∀ {w' : UmdCamera},w'.mMsg=w.mMsg → w'.gadget.started=w.gadget.started →
      w'.mVideoBufferThread=w.mVideoBufferThread → w'.cameraThread=w.cameraThread → w'.Serves →
      Ordered w' := by
    intro w' msgs gadget thread serving hs
    obtain ⟨messages,ends⟩ := hi (by rw [Serves,← serving]; exact hs)
    have same : w'.started=w.started := by rw [started,thread,serving,started]
    exact ⟨by rw [same,msgs]; exact messages,by rw [same,msgs,ends,gadget]⟩
  cases h.moved with
  | enableVideoStream at_ | disableVideoStream at_ =>
    refine (hi hs).push ?_ ?_ <;> simp [at_,GadgetStage.started,Alternates,startedAfter]
  | setCameraMetadata =>
    have pushed : Ordered { w.pushMsg .CAMERA_SUBMIT_REQUEST with gadget := w.gadget } :=
      (hi hs).push trivial rfl
    exact pushed
  | destroyed at_ =>
    have pushed : Ordered { w.pushMsg .CAMERA_TERMINATE with gadget := w.gadget } :=
      (hi hs).push trivial rfl
    exact ⟨pushed.messages,pushed.gadget⟩
  | enabled at_ | disabled at_ => exact quiet rfl (by simp [at_,GadgetStage.started]) rfl rfl hs
  | @start rest at_ pending missing =>
    obtain ⟨messages,gadget⟩ := hi (Or.inl at_)
    rw [pending] at messages gadget
    have after : startedAfter true rest=w.gadget.started := gadget
    exact ⟨by simpa [started,at_] using messages.2,by simpa [started,at_] using after⟩
  | @stop rest at_ pending =>
    obtain ⟨messages,gadget⟩ := hi (Or.inl at_)
    rw [pending] at messages gadget
    have running : w.mVideoBufferThread=true := by simpa [started,at_] using messages.1
    have after : startedAfter false rest=w.gadget.started := gadget
    exact ⟨by simpa [cameraStop,running,started] using messages.2,
      by simpa [cameraStop,running,started] using after⟩
  | submitRequest at_ pending =>
    obtain ⟨messages,gadget⟩ := hi (Or.inl at_)
    rw [pending] at messages gadget
    exact ⟨messages,gadget⟩
  | terminate at_ pending =>
    cases missing : w.mVideoBufferThread <;> simp [Serves,cameraStop,missing] at hs
  | @join terminate joining ended =>
    cases terminate with
    | true => simp [Serves] at hs
    | false =>
      obtain ⟨messages,gadget⟩ := hi (Or.inr joining)
      have before : w.started=false := by simp [started,joining]
      rw [before] at messages gadget
      exact ⟨messages,gadget⟩
  | destroy | testActive | testSize | timeout | popped | waitBuffer | loopReturn | streamCb
  | mapBuffer | findSize | submitBuffer | push | unmapBuffer | returnStreamBuffer =>
    exact quiet rfl rfl rfl rfl hs

/-- Whenever CAMERA_START comes to its turn there is no loop's thread to replace. -/
theorem start_finds_no_thread {mActive : Bool} {rest : List UmdCameraMessage}
    (hr : Run Step (construct mActive) steps w) (hc : w.cameraThread=.popping)
    (hm : w.mMsg=.CAMERA_START::rest) : w.mVideoBufferThread=false := by
  have ordered : w.Serves → Ordered w :=
    hr.invariant (fun _ _ _ hi h hs => step_ordered hi h hs) fun _ => ⟨trivial,rfl⟩
  have messages := (ordered (Or.inl hc)).messages
  rw [hm] at messages
  simpa [started,hc] using messages.1

end Alternation

/-- In every run in which StreamCb queues no buffer behind the back of a loop that is over, every
buffer comes back once; a step that does queue one can be followed by a run after which not. -/
theorem buffers_returned_once {mActive : Bool}
    (hr : Run (Guarded Timely Step) (construct mActive) steps w) :
    w.Delivered ∧ ∀ step w',Step w step w' → ¬w.Timely step →
      ∃ later w'',Run Step w' later w'' ∧ ¬w''.Delivered := by
  have inv : Inv w := hr.invariant (fun _ _ _ hi h => step_inv hi h.1 h.2) (construct_inv mActive)
  exact ⟨inv.delivered,fun _ _ h ht => untimely_push h ht⟩

instance (w : UmdCamera) (step : VideoStep) : Decidable (w.Timely step) := by
  cases step <;> unfold Timely <;> infer_instance

/-- One buffer, from enableVideoStream to the end of the loop. -/
def servedSteps : List VideoStep :=
  [.enableVideoStream,.cameraThreadHandler,.enabled,.testActive,.streamCb (some 5),.mapBuffer 0 true,
    .findSize 0 true,.submitBuffer 0 3,.push 0,.pop,.waitBuffer,.loopReturn,.disableVideoStream,
    .disabled,.testActive,.testSize]

theorem buffers_returned_once_served : ∃ w,
    Run (Guarded Timely Step) (construct false) servedSteps w ∧ w.returned=[⟨0,some 5⟩] ∧
    w.Delivered := by
  obtain ⟨w,run,returned⟩ := Run.of_exec_guarded (f := perform) (G := Timely)
    (p := fun w => w.returned=[⟨0,some 5⟩]) (construct false) servedSteps
    (fun _ _ _ performed => performed) rfl
  exact ⟨w,run,by simpa using returned,(buffers_returned_once run).1⟩

/-- The loop ends before enableVideoStream has written mActive; the first buffer stays queued. -/
def lostSteps : List VideoStep :=
  [.enableVideoStream,.cameraThreadHandler,.testActive,.testSize,.enabled,.streamCb (some 5),
    .mapBuffer 0 true,.findSize 0 true,.submitBuffer 0 3,.push 0]

theorem buffer_queued_behind_loop : ¬∀ mActive steps w,Run Step (construct mActive) steps w →
    w.Delivered := by
  intro all
  have run : Run Step (construct false) lostSteps _ :=
    Run.of_exec (f := perform) (fun _ _ _ h => h) rfl
  have drained := (all false lostSteps _ run rfl rfl).1
  cases drained

end UmdCamera
end IotMedia.Daemon

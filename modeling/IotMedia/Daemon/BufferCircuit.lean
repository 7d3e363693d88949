import IotMedia.Camera.BufferAccounts
import IotMedia.Camera.DeviceClient
import IotMedia.Camera.Submit
import IotMedia.Daemon.VideoBuffers
import IotMedia.Framework.Custody

namespace IotMedia.Daemon

open IotMedia.Framework IotMedia.Camera PendingRequests

/-- How far the request handler's thread is with a request for one buffer. -/
inductive RequestPoint
  | idle
  | waiting (frameNumber : Nat)
  | acquired (frameNumber : Nat) (handle : Handle)
  | marked (frameNumber : Nat) (handle : Handle)
  | failed (frameNumber : Nat) (handle : Handle)
  deriving DecidableEq

/-- The buffer that the request handler's thread has and the HAL has not taken yet. -/
def RequestPoint.held : RequestPoint → Option (Nat × Handle)
  | .idle | .waiting _ => none
  | .acquired f h | .marked f h | .failed f h => some (f,h)

/-- The way of a stream's buffers: GetBuffer of the request handler's thread, the HAL, the device
client, StreamCb and the loop of the daemon, and ReturnStreamBuffer. Of the HAL, the frames whose
buffers it has. -/
structure BufferCircuit (M : Type) where
  id : Int
  stream : Camera3Stream
  client : PendingRequests M
  daemon : UmdCamera
  state : State := .RUNNING
  point : RequestPoint := .idle
  hal : List (Nat × Handle) := []
  asked : List Nat := []
  log : List StreamEffect := []

inductive CircuitStep
  | getBuffer (frameNumber : Nat) (alloc : Option Handle)
  | wakeGetBuffer (waitRes : Int) (alloc : Option Handle)
  | markPendingRequest (registered : Bool) (resultExtras : CaptureResultExtras)
  | processCaptureRequest (accepted : Bool)
  | handleErrorRequest
  | message (msg : HalMessage)
  | changeState (state : State)
  | daemon (step : VideoStep)

/-- The handle of a call of the stream's callback. -/
def calledBack : StreamEffect → Option Handle
  | .callback h _ _ => some h
  | _ => none

/-- The arguments of a call of ReturnBufferToClient. -/
def deliveryOf {M : Type} : ResultEvent M → Option (StreamBuffer × Int × Nat)
  | .returnBufferToClient b ts f => some (b,ts,f)
  | _ => none

namespace BufferCircuit

variable {M : Type}

/-- The stream after one of its calls. -/
def after {α : Type} (w : BufferCircuit M) (r : StreamResult α) : BufferCircuit M :=
  { w with stream := r.stream,log := w.log++r.effects }

/-- SubmitRequest after GetBuffer; where that failed HandleErrorRequest has nothing to return. -/
def got (w : BufferCircuit M) (f : Nat) (r : StreamResult (Int × Option StreamBuffer)) :
    BufferCircuit M :=
  { w.after r with point := if r.ret.1≠0 then .idle else
      ((r.ret.2.bind StreamBuffer.buffer).map (RequestPoint.acquired f)).getD .idle }

/-- ReturnStreamBuffer, for a buffer of this stream. -/
def returnStreamBuffer (w : BufferCircuit M) (handle : Option Handle) : BufferCircuit M :=
  match w.state with
  | .ERROR | .NOT_INITIALIZED | .CLOSED | .NOT_CONFIGURED => w
  | .CONFIGURED | .RUNNING => w.after (w.stream.returnBuffer handle)

/-- SET_ERR of a handler: the state after it. -/
def errorState : State → State
  | .NOT_INITIALIZED => .NOT_INITIALIZED
  | .CLOSED => .CLOSED
  | _ => .ERROR

/-- ReturnBufferToClient of the stream that the buffer names; its callback is StreamCb. -/
def returnBufferToClient (w : BufferCircuit M) (delivery : StreamBuffer × Int × Nat) :
    Option (BufferCircuit M) :=
  if delivery.1.streamId=w.id then do
    let r ← w.stream.returnBufferToClient delivery.1.status delivery.2.1 delivery.2.2
    let daemon ← (r.effects.filterMap calledBack).foldlM
      (fun d h => d.perform (.streamCb (some h))) w.daemon
    some { w.after r with daemon := daemon }
  else none

def perform [CameraMetadata M] (u : BufferUsage) (w : BufferCircuit M) :
    CircuitStep → Option (BufferCircuit M)
  | .getBuffer f alloc =>
    if w.point=.idle then
      let w := { w with asked := f::w.asked }
      if w.stream.status=.configured ∧ w.stream.mustWait then
        some { w with point := .waiting f }
      else some (w.got f (w.stream.getBuffer u f 0 alloc))
    else none
  | .wakeGetBuffer waitRes alloc =>
    match w.point with
    | .waiting f => some (w.got f (w.stream.getBufferWoken u f waitRes alloc))
    | _ => none
  | .markPendingRequest registered resultExtras =>
    match w.point with
    | .acquired f h =>
      if registered then some { w with
        client := w.client.markPendingRequest f 1 resultExtras,point := .marked f h }
      else some { w with point := .failed f h }
    | _ => none
  | .processCaptureRequest accepted =>
    match w.point with
    | .marked f h =>
      if accepted then some { w with hal := w.hal++[(f,h)],point := .idle }
      else some { w with point := .failed f h }
    | _ => none
  | .handleErrorRequest =>
    match w.point with
    | .failed f _ => some { w.after (Submission.returnMapped f w.stream) with point := .idle }
    | _ => none
  | .message msg =>
    let received := w.client.receive msg
    (received.2.filterMap deliveryOf).foldlM returnBufferToClient { w with
      client := received.1
      state := if setErrors received.2=[] then w.state else errorState w.state
      hal := w.hal.filter fun e => (reportedFor e.1 msg).isEmpty }
  | .changeState state => some { w with state := state }
  | .daemon step =>
    match step with
    | .streamCb _ => none
    | step => (w.daemon.perform step).map fun daemon =>
      (daemon.returned.drop w.daemon.returned.length).foldl
        (fun w b => w.returnStreamBuffer b.handle) { w with daemon := daemon }

/-- The HAL registers nothing, and reports for a frame the one buffer that it has for it. -/
def Honest (w : BufferCircuit M) : HalMessage → Prop
  | .markPendingRequest _ _ _ => False
  | .captureResult result => result.outputBuffers=[] ∨
    result.outputBuffers.map StreamBuffer.streamId=[w.id] ∧ result.frameNumber∈w.hal.map Prod.fst
  | _ => True

/-- GetBuffer is asked for new frames, AllocBuffer gives a buffer that is not allocated, and the HAL
is honest. -/
def Allowed (w : BufferCircuit M) : CircuitStep → Prop
  | .getBuffer f alloc => f∉w.asked ∧ ∀ h∈alloc,h∉w.stream.memAllocBuffers.keys
  | .wakeGetBuffer _ alloc => ∀ h∈alloc,h∉w.stream.memAllocBuffers.keys
  | .message msg => w.Honest msg
  | _ => True

instance (w : BufferCircuit M) (msg : HalMessage) : Decidable (w.Honest msg) := by
  cases msg <;> unfold Honest <;> infer_instance

instance (w : BufferCircuit M) (step : CircuitStep) : Decidable (w.Allowed step) := by
  cases step <;> unfold Allowed <;> infer_instance

def Step [CameraMetadata M] (u : BufferUsage) (w : BufferCircuit M) (step : CircuitStep)
    (w' : BufferCircuit M) : Prop := w.Allowed step ∧ w.perform u step=some w'

/-- Before the first request of a stream that is configured. -/
structure Start (w : BufferCircuit M) : Prop where
  owned : w.stream.Owned
  status : w.stream.status=.configured
  pending : w.stream.pendingBufferCount=0
  entries : w.client.pendingRequests=KeyedVector.empty
  placed : w.daemon.Placed
  quiet : ∀ b,w.daemon.inFlight b=0
  point : w.point=.idle
  hal : w.hal=[]
  log : w.log=[]

/-- Who has a buffer: by its frame, or in the daemon by the call of StreamCb. -/
inductive BufferHolder
  | requestThread (frameNumber : Nat)
  | hal (frameNumber : Nat)
  | deviceClient (frameNumber : Nat)
  | daemon (buffer : VideoBuffer)

def Holds (w : BufferCircuit M) (h : Handle) : BufferHolder → Prop
  | .requestThread f => w.point.held=some (f,h)
  | .hal f => (f,h)∈w.hal
  | .deviceClient f => w.client.heldFor f≠[] ∧ w.stream.buffersMap f=some h
  | .daemon b => 0 < w.daemon.inFlight b ∧ b.handle=some h

/-- The buffers in use, with their holders. -/
abbrev custody (w : BufferCircuit M) : Custody Handle BufferHolder := ⟨w.stream.held,w.Holds⟩

/-- The steps of the daemon that call ReturnStreamBuffer. -/
def CallsBack (step : VideoStep) : Prop := step=.loopReturn ∨ ∃ i,step=.returnStreamBuffer i

/-- The step drops no buffer: a result that brings one is taken, and so is what comes back from the
daemon. -/
def Kept [CameraMetadata M] (w : BufferCircuit M) : CircuitStep → Prop
  | .message msg => w.client.TakesReport msg
  | .daemon step => CallsBack step → w.state=.CONFIGURED ∨ w.state=.RUNNING
  | _ => True

def BufferHolder.frame : BufferHolder → Option Nat
  | .requestThread f | .hal f | .deviceClient f => some f
  | .daemon _ => none

/-- The buffers that were handed out and not returned are those in use, none has two holders, and
buffers_map has the buffer of each frame that is under way. -/
structure Inv (w : BufferCircuit M) : Prop where
  owned : w.stream.Owned
  status : w.stream.status=.configured
  pool : Pool ∅ (ownEvents w.log) w.stream.held
  single : w.custody.Single
  mapped : ∀ {h o f},w.Holds h o → o.frame=some f → w.stream.buffersMap f=some h
  asked : ∀ {h o f},w.Holds h o → o.frame=some f → f∈w.asked
  waiting : ∀ {f},w.point=.waiting f → f∈w.asked ∧ ∀ h o,w.Holds h o → o.frame≠some f
  entries : ∀ f,w.client.heldFor f≠[] → ∃ h,w.stream.buffersMap f=some h
  one : ∀ f,(w.client.heldFor f).length ≤ 1
  timed : ∀ f r,w.client.pendingRequests.valueFor f=some r → r.shutterTS≠0 → r.pendingBuffers=[]
  within : w.client.Within {w.id}
  placed : w.daemon.Placed

variable {w w' : BufferCircuit M} {h : Handle} {f : Nat} {o : BufferHolder}

/-- A holder has one buffer. -/
theorem Inv.only (hi : Inv w) (held : w.Holds h o) {q : Handle} (other : w.Holds q o) : q=h := by
  cases frame : o.frame with
  | some f =>
    have mapped := hi.mapped held frame
    rw [hi.mapped other frame] at mapped
    exact Option.some.inj mapped
  | none =>
    cases o with
    | requestThread | hal | deviceClient => cases frame
    | daemon b =>
      have same := other.2
      rw [held.2] at same
      exact (Option.some.inj same).symm

theorem Inv.away (hi : Inv w) (held : w.Holds h o) (q : Handle) (p : BufferHolder) :
    w.Holds q p ∧ p≠o ↔ w.Holds q p ∧ q≠h :=
  hi.single.away (p := o) held (fun {q} (other : w.Holds q o) => hi.only held other) q p

theorem Inv.inUse (hi : Inv w) (held : w.Holds h o) : w.stream.InUse h := hi.single.used held

section Stream

/-! What the stream does with a buffer that goes back. -/

/-- The stream has taken its buffer back. -/
structure TakenBack {α : Type} (s : Camera3Stream) (h : Handle) (r : StreamResult α) : Prop where
  keeps : s.Keeps r
  held : r.stream.held=s.held \ {h}
  status : r.stream.status=s.status
  uncalled : r.effects.filterMap calledBack=[]

variable {s : Camera3Stream}

theorem returnBuffer_uncalled (s : Camera3Stream) (handle : Option Handle) :
    (s.returnBuffer handle).effects.filterMap calledBack=[] := by
  unfold Camera3Stream.returnBuffer Camera3Stream.returnBufferLocked
  split_ifs
  · rfl
  · rfl
  · cases handle with
    | none => rfl
    | some h =>
      dsimp only
      split
      · rfl
      · dsimp only
        split_ifs <;> rfl

theorem returnBuffer_map (s : Camera3Stream) (handle : Option Handle) :
    (s.returnBuffer handle).stream.buffersMap=s.buffersMap := by
  unfold Camera3Stream.returnBuffer
  rcases s.returnBufferLocked_cases handle with ⟨same,-⟩|⟨h,v,l,-,-,-,-,-,eq⟩
  · rw [same]
  · rw [eq]

/-- A buffer in use of a configured stream is taken back. -/
theorem returnBuffer_takenBack (ho : s.Owned) (hs : s.status=.configured) (used : s.InUse h) :
    (s.returnBuffer (some h)).ret=0 ∧ TakenBack s h (s.returnBuffer (some h)) := by
  have value : s.memAllocBuffers.valueFor h=some false := used
  have pending := ho.pending_pos used
  have keeps : s.Keeps (s.returnBuffer (some h)) := by
    refine Camera3Stream.returnBufferLocked_keeps ho _ fun free => ?_
    have marked := free.2.2
    rw [Option.bind_some,value] at marked
    cases marked
  have uncalled := returnBuffer_uncalled s (some h)
  unfold Camera3Stream.returnBuffer at keeps uncalled ⊢
  rcases s.returnBufferLocked_cases (some h) with ⟨-,-,refused,-⟩|⟨q,v,l,hq,-,-,hv,-,eq⟩
  · refine absurd ?_ refused
    simp [Camera3Stream.returnBufferLocked,hs,value,Nat.ne_of_gt pending]
  · cases hq
    rw [eq] at keeps uncalled ⊢
    refine ⟨rfl,keeps,?_,rfl,uncalled⟩
    ext q
    by_cases same : q=h
    · simp [Camera3Stream.held,Camera3Stream.InUse,same,value]
    · simp [Camera3Stream.held,Camera3Stream.InUse,same]

/-- GetBuffer has failed, or it has a buffer for the frame. -/
def Acquires (s : Camera3Stream) (f : Nat) (r : StreamResult (Int × Option StreamBuffer)) : Prop :=
  r.ret.1≠0 ∧ r.stream=s ∨
  r.ret.1=0 ∧ ∃ h,r.ret.2.bind StreamBuffer.buffer=some h ∧ Submission.HandedFrom f s r.stream h

theorem handOut_acquires {t : Camera3Stream} {idx : Nat} {h : Handle} {f : Nat}
    {l : List StreamEffect} (hm : s.Marked t h) (hs : s.status=.configured)
    (hst : t.status=s.status) (hb : t.buffersMap=s.buffersMap) :
    Acquires s f ⟨(t.handOut idx h f).ret,(t.handOut idx h f).stream,
      l++(t.handOut idx h f).effects⟩ := by
  refine .inr ⟨rfl,h,rfl,hm.free,hm.held,?_,?_,hst.trans hs⟩
  · show t.pendingBufferCount+1=s.pendingBufferCount+1
    rw [hm.pending]
  · show Function.update t.buffersMap f (some h)=_
    rw [hb]

theorem getBuffer_acquires (u : BufferUsage) (ho : s.Owned) (f : Nat) (waitRes : Int)
    (alloc : Option Handle) (hn : ∀ h,alloc=some h → h∉s.memAllocBuffers.keys) :
    Acquires s f (s.getBuffer u f waitRes alloc) := by
  rcases Camera3Stream.getBuffer_cases u ho.table f waitRes alloc hn with
    ⟨e,l,he,eq⟩|⟨t,idx,h,l,hm,hs,hst,hb,eq⟩
  · rw [eq]
    exact .inl ⟨he,rfl⟩
  · rw [eq]
    exact handOut_acquires hm hs hst hb

theorem getBufferWoken_acquires (u : BufferUsage) (ho : s.Owned) (hs : s.status=.configured)
    (f : Nat) (waitRes : Int) (alloc : Option Handle)
    (hn : ∀ h,alloc=some h → h∉s.memAllocBuffers.keys) :
    Acquires s f (s.getBufferWoken u f waitRes alloc) := by
  unfold Camera3Stream.getBufferWoken
  split_ifs with failed
  · exact .inl ⟨failed,rfl⟩
  rcases Camera3Stream.getBufferLocked_cases u ho.table f alloc hn with
    ⟨e,l,he,-,eq⟩|⟨t,idx,h,l,hm,hst,hb,-,eq⟩
  · rw [eq]
    exact .inl ⟨he,rfl⟩
  · rw [eq]
    exact handOut_acquires hm hs hst hb

/-- The account of the buffers after a call of the stream. -/
theorem Inv.pool_after {α : Type} {r : StreamResult α} (hi : Inv w) (keeps : w.stream.Keeps r) :
    Pool ∅ (ownEvents (w.log++r.effects)) r.stream.held := by
  rw [ownEvents_append]
  exact hi.pool.trans keeps.pool

/-- The stream takes back a buffer that nobody has any more; before that only its fields other than
the buffers have changed, and in buffers_map only entries of this buffer. -/
theorem Inv.returned (hi : Inv w) (used : w.stream.InUse h) (nobody : ∀ o,¬w.Holds h o)
    (same : w.stream.SameBuffers s) (status : s.status=w.stream.status)
    (map : ∀ (f : Nat) q,w.stream.buffersMap f=some q → q≠h → s.buffersMap f=some q) :
    Inv (w.after (s.returnBuffer (some h))) ∧
    (∀ q o,(w.after (s.returnBuffer (some h))).Holds q o ↔ w.Holds q o) ∧
    (s.returnBuffer (some h)).stream.held=w.stream.held \ {h} := by
  have marked : s.InUse h := by
    rw [Camera3Stream.InUse,same.buffers]
    exact used
  obtain ⟨-,back⟩ := returnBuffer_takenBack (same.owned hi.owned) (status.trans hi.status) marked
  have kept := returnBuffer_map s (some h)
  have entry : ∀ (f : Nat) q,w.stream.buffersMap f=some q → q≠h →
      (s.returnBuffer (some h)).stream.buffersMap f=some q := by
    intro f q mapped other
    rw [kept]
    exact map f q mapped other
  have holds : ∀ q o,(w.after (s.returnBuffer (some h))).Holds q o ↔ w.Holds q o := by
    intro q o
    cases o with
    | deviceClient f =>
      refine and_congr_right fun some_ => ?_
      obtain ⟨p,mapped⟩ := hi.entries f some_
      have other : p≠h := by
        rintro rfl
        exact nobody (.deviceClient f) ⟨some_,mapped⟩
      rw [show (w.after (s.returnBuffer (some h))).stream.buffersMap f=some p from
        entry f p mapped other,mapped]
    | requestThread | hal | daemon => exact Iff.rfl
  have away : ∀ {q o},w.Holds q o → q≠h := by
    rintro q o held rfl
    exact nobody o held
  have held : (s.returnBuffer (some h)).stream.held=w.stream.held \ {h} := by
    rw [back.held,same.held]
  refine ⟨{ hi with
    owned := back.keeps.owned
    status := back.status.trans (status.trans hi.status)
    pool := ?_
    single := ?_
    mapped := ?_
    asked := fun held frame => hi.asked ((holds _ _).mp held) frame
    waiting := fun at_ => ⟨(hi.waiting at_).1,
      fun q o held => (hi.waiting at_).2 q o ((holds q o).mp held)⟩
    entries := ?_ },holds,held⟩
  · show Pool ∅ (ownEvents (w.log++_)) _
    have pool := back.keeps.pool
    rw [same.held] at pool
    rw [ownEvents_append]
    exact hi.pool.trans pool
  · refine ⟨fun one other => ?_,fun {q o} one => ?_⟩
    · exact hi.single.single ((holds _ _).mp one) ((holds _ _).mp other)
    · have before : w.Holds q o := (holds q o).mp one
      show q∈(s.returnBuffer (some h)).stream.held
      rw [held]
      exact ⟨hi.inUse before,away before⟩
  · intro q o f held frame
    have before : w.Holds q o := (holds q o).mp held
    exact entry f q (hi.mapped before frame) (away before)
  · intro f some_
    obtain ⟨q,mapped⟩ := hi.entries f some_
    have here : w.Holds q (.deviceClient f) := ⟨some_,mapped⟩
    exact ⟨q,entry f q mapped (away here)⟩

end Stream

end BufferCircuit
end IotMedia.Daemon

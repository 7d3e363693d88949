import IotMedia.Camera.DeviceClient
import IotMedia.Camera.Monitor

namespace IotMedia.Camera

open IotMedia.Framework

/-- Where ConfigureStreamsLocked is, with the streams its loop has yet to come to. -/
inductive ConfigurePhase
  | done
  | beginning (todo : List Int)
  | ending (todo : List Int)
  | aborting (todo : List Int)
  deriving DecidableEq

/-- The stream that the first loop comes to next. -/
def ConfigurePhase.begins : ConfigurePhase → Option Int
  | .beginning (id::_) => some id
  | _ => none

/-- The client, the monitor, the configuration in progress, and the GetBuffer calls that wait,
by stream and frame. -/
structure IdleWorld (M : Type) where
  client : DeviceClient M
  monitor : Camera3Monitor
  phase : ConfigurePhase := .done
  waiting : List (Int × Int) := []

/-- The calls on the handler and the steps of its thread, the calls on the streams, the steps of
the calls that hold lock_, and those of the monitor's thread. -/
inductive IdleStep (M : Type)
  | queueRequestList (requests : List (CaptureRequest M))
  | queueReprocRequestList
  | setRepeatingRequests (requests : List (CaptureRequest M))
  | clearRepeatingRequests
  | clear
  | togglePause (pause : Bool)
  | waitOnPause
  | getRequest
  | getRequestWoken (exitPending : Bool)
  | finishRequest
  | getBuffer (id frameNumber : Int) (alloc : Option Handle)
  | wakeGetBuffer (id frameNumber waitRes : Int) (alloc : Option Handle)
  | returnBuffer (id : Int) (handle : Option Handle)
  | createStream (params : CameraStreamParameters) (counted : Bool)
  | deleteStream (id : Int) (cache : Bool)
  | configureStreams
  | beginConfigure
  | configured (accepted : Bool)
  | endConfigure (added : Bool)
  | abortConfigure
  | finishConfigure
  | endConfigureStream (id : Int) (added : Bool)
  | setErrorState
  | threadLoop
  | notify

namespace Camera3Monitor

def streamEffect (m : Camera3Monitor) : StreamEffect → Camera3Monitor
  | .releaseMonitor id => m.releaseMonitor id
  | .changeStateToIdle id => m.changeStateToIdle id
  | .changeStateToActive id => m.changeStateToActive id
  | .allocBuffer _ _ | .freeBuffer _ | .handedOut _ | .returned _ | .callback _ _ _ => m

def handlerEffect (m : Camera3Monitor) : HandlerEffect → Camera3Monitor
  | .changeStateToIdle id => m.changeStateToIdle id
  | .changeStateToActive id => m.changeStateToActive id
  | .errorCb _ _ => m

/-- The destructors of the streams. -/
def releaseAll (m : Camera3Monitor) (streams : List Camera3Stream) : Camera3Monitor :=
  streams.foldl (fun m s => s.destroyed.foldl streamEffect m) m

end Camera3Monitor

namespace IdleWorld

variable {M : Type} [CameraMetadata M]

def onHandler (w : IdleWorld M) (handler : RequestHandler M) (effects : List HandlerEffect) :
    IdleWorld M :=
  { w with
    client := { w.client with handler := handler }
    monitor := effects.foldl Camera3Monitor.handlerEffect w.monitor }

def onStream (w : IdleWorld M) (id : Int) (s : Camera3Stream) (effects : List StreamEffect) :
    IdleWorld M :=
  { w with
    client := { w.client with streams := w.client.streams.replaceValueFor id s }
    monitor := effects.foldl Camera3Monitor.streamEffect w.monitor }

/-- A call that holds lock_ finds it free. -/
def unlocked (w : IdleWorld M) (next : IdleWorld M) : Option (IdleWorld M) :=
  if w.phase=.done then some next else none

/-- EndConfigure of a stream, with a monitor from AcquireMonitor. -/
def endStream (u : BufferUsage) (w : IdleWorld M) (id : Int) (s : Camera3Stream)
    (added : Bool) : Int × IdleWorld M :=
  let acquired := w.monitor.acquireMonitor added
  let r := s.endConfigure u acquired.1
  (r.ret,({ w with monitor := acquired.2 } : IdleWorld M).onStream id r.stream r.effects)

/-- CreateStream and DeleteStream are here without their pause and reconfiguration, which are
steps of their own; `counted` says whether CreateStream gets to the end. -/
def perform (u : BufferUsage) (w : IdleWorld M) : IdleStep M → Option (IdleWorld M)
  | .queueRequestList requests =>
    let r := w.client.handler.queueRequestList requests
    w.unlocked (w.onHandler r.1 r.2.2)
  | .queueReprocRequestList =>
    let r := w.client.handler.resume
    w.unlocked (w.onHandler r.1 r.2)
  | .setRepeatingRequests requests =>
    let r := w.client.handler.setRepeatingRequests requests
    w.unlocked (w.onHandler r.1 r.2.2)
  | .clearRepeatingRequests =>
    w.unlocked (w.onHandler w.client.handler.clearRepeatingRequests.1 [])
  | .clear =>
    let r := w.client.handler.clear
    some (w.onHandler r.1 r.2.2)
  | .togglePause pause => w.unlocked (w.onHandler (w.client.handler.togglePause pause).1 [])
  | .waitOnPause =>
    let r := w.client.handler.waitOnPause
    some (w.onHandler r.1 r.2.1)
  | .getRequest => w.client.handler.getRequest.map fun r => w.onHandler r.1 r.2.2
  | .getRequestWoken exitPending =>
    let r := w.client.handler.getRequestWoken exitPending
    some (w.onHandler r.1 r.2.2)
  | .finishRequest => some (w.onHandler w.client.handler.finishRequest [])
  | .getBuffer id frame alloc =>
    (w.client.streams.valueFor id).map fun s =>
      if s.status=.configured ∧ s.mustWait then { w with waiting := (id,frame)::w.waiting }
      else
        let r := s.getBuffer u frame 0 alloc
        w.onStream id r.stream r.effects
  | .wakeGetBuffer id frame waitRes alloc =>
    if (id,frame)∈w.waiting then
      (w.client.streams.valueFor id).map fun s =>
        let r := s.getBufferWoken u frame waitRes alloc
        ({ w with waiting := w.waiting.erase (id,frame) } : IdleWorld M).onStream id r.stream
          r.effects
    else none
  | .returnBuffer id handle =>
    (w.client.streams.valueFor id).map fun s =>
      let r := s.returnBuffer handle
      w.onStream id r.stream r.effects
  | .createStream params counted =>
    let c := w.client.withStream u params
    w.unlocked { w with
      client := if counted then { c with nextStreamId := c.nextStreamId+1 } else c }
  | .deleteStream id cache =>
    (w.client.streams.valueFor id).bind fun s =>
      if w.client.handler.isStreamActive s.id then none
      else w.unlocked { w with client := w.client.withoutStream s id cache }
  | .configureStreams =>
    if (w.client.state=.NOT_CONFIGURED ∨ w.client.state=.CONFIGURED) ∧ w.client.reconfig then
      w.unlocked { w with phase := .beginning w.client.streams.keys }
    else none
  | .beginConfigure =>
    match w.phase with
    | .beginning (id::todo) => (w.client.streams.valueFor id).map fun s =>
      let r := s.beginConfigure u
      { w.onStream id r.stream r.effects with
        phase := if r.ret.isNone then .done else .beginning todo }
    | _ => none
  | .configured accepted =>
    match w.phase with
    | .beginning [] => some { w with
      phase := if accepted then .ending w.client.streams.keys
        else .aborting w.client.streams.keys }
    | _ => none
  | .endConfigure added =>
    match w.phase with
    | .ending (id::todo) => (w.client.streams.valueFor id).map fun s =>
      if s.isConfigureActive then
        let r := w.endStream u id s added
        { r.2 with phase := if r.1≠0 then .done else .ending todo }
      else { w with phase := .ending todo }
    | _ => none
  | .abortConfigure =>
    match w.phase with
    | .aborting (id::todo) => (w.client.streams.valueFor id).map fun s =>
      if s.isConfigureActive then
        let r := s.abortConfigure u
        { w.onStream id r.stream r.effects with
          phase := if r.ret≠0 then .done else .aborting todo }
      else { w with phase := .aborting todo }
    | _ => none
  | .finishConfigure =>
    match w.phase with
    | .ending [] => some { w with
      client := { w.client.internalUpdateStatusLocked .CONFIGURED with
        handler := w.client.handler.finishConfiguration w.client.batchSize
        reconfig := false
        frameNumber := 0
        deletedStreams := [] }
      monitor := w.monitor.releaseAll w.client.deletedStreams
      phase := .done }
    | .aborting [] => some { w with
      client := { w.client.internalUpdateStatusLocked .NOT_CONFIGURED with reconfig := true }
      phase := .done }
    | _ => none
  | .endConfigureStream id added =>
    (w.client.streams.valueFor id).bind fun s =>
      if s.isConfigureActive then w.unlocked (w.endStream u id s added).2 else none
  | .setErrorState => w.unlocked { w with client := w.client.setErrorStateLocked.1 }
  | .threadLoop =>
    if w.monitor.updatedStates=[] then some { w with monitor := w.monitor.threadLoop } else none
  | .notify =>
    w.monitor.notify.bind fun n =>
      w.unlocked { w with client := (w.client.notifyStatus n.1).1,monitor := n.2 }

def Step (u : BufferUsage) (w : IdleWorld M) (step : IdleStep M) (w' : IdleWorld M) : Prop :=
  w.perform u step=some w'

/-- OpenCamera succeeded: the handler has its monitor, and nothing was submitted yet. -/
structure Opened (w : IdleWorld M) : Prop where
  state : w.client.state=.NOT_CONFIGURED
  streams : w.client.streams=KeyedVector.empty
  deleted : w.client.deletedStreams=[]
  handler : ∃ errorCb markCb,w.client.handler=RequestHandler.construct 0 errorCb markCb
  monitor : w.monitor=(Camera3Monitor.construct.acquireMonitor true).2
  phase : w.phase=.done

def Quiescent (w : IdleWorld M) : Prop := w.monitor.inputQueue=[] ∧ w.monitor.updatedStates=[]

/-- When everything is delivered and the client is STATE_CONFIGURED, nothing is outstanding. -/
def IdleSound (w : IdleWorld M) : Prop :=
  w.Quiescent → w.client.state=.CONFIGURED →
    (∀ id s,w.client.streams.valueFor id=some s → s.pendingBufferCount=0) ∧
    w.client.handler.pausedState=true

/-- The client takes part in the monitor's notifications. -/
def Notified (w : IdleWorld M) : Prop := w.client.state=.CONFIGURED ∨ w.client.state=.RUNNING

/-- The monitor knows of the buffers that a stream has out. -/
def Known (w : IdleWorld M) (s : Camera3Stream) : Prop :=
  0 < s.pendingBufferCount → 0 ≤ s.monitorId ∧ w.monitor.KnownActive s.monitorId

/-- No monitor is released, or missing, under buffers that are out, and no configuration of an
unconfigured device ends with an activity that the client was not told. -/
def Expected (w : IdleWorld M) : IdleStep M → Prop
  | .beginConfigure => ∀ id∈w.phase.begins,∀ s∈w.client.streams.valueFor id,
    w.client.state=.CONFIGURED → s.pendingBufferCount=0
  | .getBuffer id _ _ => ∀ s∈w.client.streams.valueFor id,w.Notified → s.status=.configured →
    0 ≤ s.monitorId
  | .wakeGetBuffer id _ waitRes _ => ∀ s∈w.client.streams.valueFor id,w.Notified → waitRes=0 →
    s.status≠.error → s.status≠.initialized → 0 ≤ s.monitorId
  | .finishConfigure => w.phase=.ending [] → w.client.state=.NOT_CONFIGURED →
    (w.monitor.compositeState=.IDLE ∨ w.monitor.updatedStates≠[]) ∧
      ∀ e∈w.client.streams.items,w.Known e.2
  | _ => True

instance (w : IdleWorld M) : Decidable w.Notified := inferInstanceAs (Decidable (_ ∨ _))

instance (w : IdleWorld M) (s : Camera3Stream) : Decidable (w.Known s) :=
  inferInstanceAs (Decidable (_ → _))

instance (w : IdleWorld M) : (step : IdleStep M) → Decidable (w.Expected step)
  | .beginConfigure => inferInstanceAs (Decidable (∀ id∈w.phase.begins,∀ s∈_,_ → _))
  | .getBuffer id _ _ =>
    inferInstanceAs (Decidable (∀ s∈w.client.streams.valueFor id,_ → _ → _))
  | .wakeGetBuffer id _ _ _ =>
    inferInstanceAs (Decidable (∀ s∈w.client.streams.valueFor id,_ → _ → _ → _ → _))
  | .finishConfigure => inferInstanceAs (Decidable (_ → _ → _))
  | .queueRequestList _ | .queueReprocRequestList | .setRepeatingRequests _
  | .clearRepeatingRequests | .clear | .togglePause _ | .waitOnPause | .getRequest
  | .getRequestWoken _ | .finishRequest | .returnBuffer _ _ | .createStream _ _
  | .deleteStream _ _ | .configureStreams | .configured _ | .endConfigure _ | .abortConfigure
  | .endConfigureStream _ _ | .setErrorState | .threadLoop | .notify =>
    inferInstanceAs (Decidable True)

section Cases

/-! What the steps of ConfigureStreamsLocked find, and what they leave. -/

variable {u : BufferUsage} {w w' : IdleWorld M}

omit [CameraMetadata M] in
theorem unlocked_some {next w' : IdleWorld M} (h : w.unlocked next=some w') :
    w.phase=.done ∧ w'=next := by
  unfold unlocked at h
  split_ifs at h with hd
  exact ⟨hd,(Option.some.inj h).symm⟩

theorem beginConfigure_cases (h : Step u w .beginConfigure w') : ∃ id todo s,
    w.phase=.beginning (id::todo) ∧ w.client.streams.valueFor id=some s ∧
    w'={ w.onStream id (s.beginConfigure u).stream (s.beginConfigure u).effects with
      phase := if (s.beginConfigure u).ret.isNone then .done else .beginning todo } := by
  simp only [Step,perform] at h
  cases hph : w.phase with
  | beginning todo =>
    cases todo with
    | nil => simp [hph] at h
    | cons id todo =>
      rw [hph] at h
      obtain ⟨s,hv,rfl⟩ := Option.map_eq_some_iff.mp h
      exact ⟨id,todo,s,rfl,hv,rfl⟩
  | done | ending | aborting => simp [hph] at h

theorem configured_cases {accepted : Bool} (h : Step u w (.configured accepted) w') :
    w.phase=.beginning [] ∧ w'={ w with
      phase := if accepted then .ending w.client.streams.keys
        else .aborting w.client.streams.keys } := by
  simp only [Step,perform] at h
  cases hph : w.phase with
  | beginning todo =>
    cases todo with
    | nil =>
      rw [hph] at h
      exact ⟨rfl,(Option.some.inj h).symm⟩
    | cons id todo => simp [hph] at h
  | done | ending | aborting => simp [hph] at h

theorem endConfigure_cases {added : Bool} (h : Step u w (.endConfigure added) w') :
    ∃ id todo s,w.phase=.ending (id::todo) ∧ w.client.streams.valueFor id=some s ∧
    w'=if s.isConfigureActive then { (w.endStream u id s added).2 with
        phase := if (w.endStream u id s added).1≠0 then .done else .ending todo }
      else { w with phase := .ending todo } := by
  simp only [Step,perform] at h
  cases hph : w.phase with
  | ending todo =>
    cases todo with
    | nil => simp [hph] at h
    | cons id todo =>
      rw [hph] at h
      obtain ⟨s,hv,rfl⟩ := Option.map_eq_some_iff.mp h
      exact ⟨id,todo,s,rfl,hv,rfl⟩
  | done | beginning | aborting => simp [hph] at h

theorem abortConfigure_cases (h : Step u w .abortConfigure w') : ∃ id todo s,
    w.phase=.aborting (id::todo) ∧ w.client.streams.valueFor id=some s ∧
    w'=if s.isConfigureActive then
        { w.onStream id (s.abortConfigure u).stream (s.abortConfigure u).effects with
          phase := if (s.abortConfigure u).ret≠0 then .done else .aborting todo }
      else { w with phase := .aborting todo } := by
  simp only [Step,perform] at h
  cases hph : w.phase with
  | aborting todo =>
    cases todo with
    | nil => simp [hph] at h
    | cons id todo =>
      rw [hph] at h
      obtain ⟨s,hv,rfl⟩ := Option.map_eq_some_iff.mp h
      exact ⟨id,todo,s,rfl,hv,rfl⟩
  | done | beginning | ending => simp [hph] at h

theorem finishConfigure_cases (h : Step u w .finishConfigure w') :
    w.phase=.ending [] ∧ w'={ w with
      client := { w.client.internalUpdateStatusLocked .CONFIGURED with
        handler := w.client.handler.finishConfiguration w.client.batchSize
        reconfig := false
        frameNumber := 0
        deletedStreams := [] }
      monitor := w.monitor.releaseAll w.client.deletedStreams
      phase := .done } ∨
    w.phase=.aborting [] ∧ w'={ w with
      client := { w.client.internalUpdateStatusLocked .NOT_CONFIGURED with reconfig := true }
      phase := .done } := by
  simp only [Step,perform] at h
  cases hph : w.phase with
  | ending todo =>
    cases todo with
    | nil =>
      rw [hph] at h
      exact Or.inl ⟨rfl,(Option.some.inj h).symm⟩
    | cons id todo => simp [hph] at h
  | aborting todo =>
    cases todo with
    | nil =>
      rw [hph] at h
      exact Or.inr ⟨rfl,(Option.some.inj h).symm⟩
    | cons id todo => simp [hph] at h
  | done | beginning => simp [hph] at h

end Cases
end IdleWorld
end IotMedia.Camera

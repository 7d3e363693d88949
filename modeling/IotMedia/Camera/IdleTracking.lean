import IotMedia.Camera.IdleClient
import IotMedia.Framework.Run

namespace IotMedia.Camera

open IotMedia.Framework

namespace IdleWorld

variable {M : Type} {w w' : IdleWorld M}

section Steps

variable [CameraMetadata M]

variable {u : BufferUsage} {id frame : Int} {alloc : Option Nat}

/-- GetBuffer waits, or takes a buffer that its monitor knows of. -/
theorem getBuffer_step (hi : Inv w) (he : w.Expected (.getBuffer id frame alloc))
    (h : Step u w (.getBuffer id frame alloc) w') : Inv w' := by
  obtain ⟨s,hv,rfl⟩ := Option.map_eq_some_iff.mp h
  split_ifs
  · exact hi.retell rfl (fun _ h => h) rfl rfl (fun _ _ h => h) (fun _ _ h => h) rfl hi.composed
      hi.known hi.told hi.locked
  · have lends := s.getBuffer_lends u frame 0 alloc
    refine lend_inv hi hv (lends.imp_right And.left) ?_ rfl rfl rfl
    intro notified lent
    cases lends with
    | inl silent => exact absurd (lent.2.2.1.symm.trans silent.2.2.1) (by omega)
    | inr lent => exact he s hv notified lent.2

theorem wakeGetBuffer_step {waitRes : Int} (hi : Inv w)
    (he : w.Expected (.wakeGetBuffer id frame waitRes alloc))
    (h : Step u w (.wakeGetBuffer id frame waitRes alloc) w') : Inv w' := by
  simp only [Step,perform] at h
  split_ifs at h
  obtain ⟨s,hv,rfl⟩ := Option.map_eq_some_iff.mp h
  have lends := s.getBufferWoken_lends u frame waitRes alloc
  refine lend_inv hi hv (lends.imp_right And.left) ?_ rfl rfl rfl
  intro notified lent
  cases lends with
  | inl silent => exact absurd (lent.2.2.1.symm.trans silent.2.2.1) (by omega)
  | inr lent => exact he s hv notified lent.2.1 lent.2.2.1 lent.2.2.2

theorem deleteStream_step {cache : Bool} (hi : Inv w) (h : Step u w (.deleteStream id cache) w') :
    Inv w' := by
  obtain ⟨s,hv,h⟩ := Option.bind_eq_some_iff.mp h
  by_cases active : w.client.handler.isStreamActive s.id=true
  · rw [if_pos active] at h
    cases h
  · rw [if_neg active] at h
    obtain ⟨-,rfl⟩ := unlocked_some h
    exact deleteStream_inv hi hv cache

theorem endConfigure_step {added : Bool} (hi : Inv w) (h : Step u w (.endConfigure added) w') :
    Inv w' := by
  obtain ⟨id,todo,s,hph,hv,rfl⟩ := endConfigure_cases h
  have busy : w.phase≠.done := by simp [hph]
  split_ifs with active
  all_goals
    first
    | exact endStream_inv hi hv active added _ fun _ => busy
    | exact phase_inv hi fun _ => hi.locked busy

theorem abortConfigure_step (hi : Inv w) (h : Step u w .abortConfigure w') : Inv w' := by
  obtain ⟨id,todo,s,hph,hv,rfl⟩ := abortConfigure_cases h
  have busy : w.phase≠.done := by simp [hph]
  split_ifs with active
  all_goals
    first
    | exact abortConfigure_inv hi hv active busy _
    | exact phase_inv hi fun _ => hi.locked busy

theorem finishConfigure_step (hi : Inv w) (he : w.Expected .finishConfigure)
    (h : Step u w .finishConfigure w') : Inv w' := by
  rcases finishConfigure_cases h with ⟨hph,rfl⟩|⟨-,rfl⟩
  · refine finishConfigure_inv hi hph fun never => ⟨(he hph never).1,?_⟩
    intro id s hv
    exact (he hph never).2 (id,s) ((KeyedVector.valueFor_eq_some _ _ _).mp hv)
  · exact abortDone_inv hi

theorem configureStreams_step (hi : Inv w) (h : Step u w .configureStreams w') : Inv w' := by
  simp only [Step,perform] at h
  split_ifs at h with hs
  obtain ⟨-,rfl⟩ := unlocked_some h
  exact phase_inv hi fun _ => hs.1

theorem beginConfigure_step (hi : Inv w) (he : w.Expected .beginConfigure)
    (h : Step u w .beginConfigure w') : Inv w' := by
  obtain ⟨id,todo,s,hph,hv,rfl⟩ := beginConfigure_cases h
  exact beginConfigure_inv hi hv hph (he id (by rw [hph]; rfl) s hv) _

theorem configured_step {accepted : Bool} (hi : Inv w) (h : Step u w (.configured accepted) w') :
    Inv w' := by
  obtain ⟨hph,rfl⟩ := configured_cases h
  exact phase_inv hi fun _ => hi.locked (by simp [hph])

theorem endConfigureStream_step {added : Bool} (hi : Inv w)
    (h : Step u w (.endConfigureStream id added) w') : Inv w' := by
  obtain ⟨s,hv,h⟩ := Option.bind_eq_some_iff.mp h
  split_ifs at h with active
  obtain ⟨hd,rfl⟩ := unlocked_some h
  exact endStream_inv hi hv active added (w.endStream u id s added).2.phase fun busy => busy

/-- Every expected step keeps the monitor's account. -/
theorem step_inv {step : IdleStep M} (hi : Inv w) (he : w.Expected step) (h : Step u w step w') :
    Inv w' := by
  cases step with
  | queueRequestList requests =>
    obtain ⟨-,rfl⟩ := unlocked_some h
    exact onHandler_inv hi (resume_announces { w.client.handler with requests := _ })
  | queueReprocRequestList =>
    obtain ⟨-,rfl⟩ := unlocked_some h
    exact onHandler_inv hi (resume_announces _)
  | setRepeatingRequests requests =>
    obtain ⟨-,rfl⟩ := unlocked_some h
    exact onHandler_inv hi (resume_announces { w.client.handler with streamingRequests := _ })
  | clearRepeatingRequests | togglePause =>
    obtain ⟨-,rfl⟩ := unlocked_some h
    exact onHandler_inv hi (silent_announces rfl rfl)
  | clear =>
    cases Option.some.inj h
    exact onHandler_inv hi (clear_announces _)
  | waitOnPause =>
    cases Option.some.inj h
    exact onHandler_inv hi (waitOnPause_announces _)
  | getRequest =>
    obtain ⟨got,hg,rfl⟩ := Option.map_eq_some_iff.mp h
    exact onHandler_inv hi (getRequest_announces hg)
  | getRequestWoken exitPending =>
    cases Option.some.inj h
    exact onHandler_inv hi (getRequestWoken_announces _ exitPending)
  | finishRequest =>
    cases Option.some.inj h
    exact onHandler_inv hi (silent_announces rfl rfl)
  | getBuffer => exact getBuffer_step hi he h
  | wakeGetBuffer => exact wakeGetBuffer_step hi he h
  | returnBuffer id handle =>
    obtain ⟨s,hv,rfl⟩ := Option.map_eq_some_iff.mp h
    exact returnBuffer_inv hi hv handle
  | createStream params counted =>
    obtain ⟨-,rfl⟩ := unlocked_some h
    exact createStream_inv u hi params counted
  | deleteStream => exact deleteStream_step hi h
  | configureStreams => exact configureStreams_step hi h
  | beginConfigure => exact beginConfigure_step hi he h
  | configured => exact configured_step hi h
  | endConfigure => exact endConfigure_step hi h
  | abortConfigure => exact abortConfigure_step hi h
  | finishConfigure => exact finishConfigure_step hi he h
  | endConfigureStream => exact endConfigureStream_step hi h
  | setErrorState =>
    obtain ⟨hd,rfl⟩ := unlocked_some h
    exact setErrorState_inv hi hd
  | threadLoop =>
    simp only [Step,perform] at h
    split_ifs at h with hu
    cases Option.some.inj h
    exact threadLoop_inv hi hu
  | notify =>
    obtain ⟨n,hn,h⟩ := Option.bind_eq_some_iff.mp h
    obtain ⟨hd,rfl⟩ := unlocked_some h
    exact notify_inv hi hd hn

theorem opened_inv (ho : Opened w) : Inv w := by
  obtain ⟨errorCb,markCb,handler⟩ := ho.handler
  have none : ∀ id s,w.client.streams.valueFor id≠some s := by
    intro id s
    simp [ho.streams]
  have id : w.client.handler.monitorId=0 := by
    rw [handler]
    rfl
  refine ⟨?_,?_,?_,?_,?_,?_,?_,?_,?_,?_⟩
  · intro id s hv
    exact absurd hv (none id s)
  · intro id other s t _ hv
    exact absurd hv (none id s)
  · intro d hd
    rw [ho.deleted] at hd
    cases hd
  · intro id s hv
    exact absurd hv (none id s)
  · rw [id,ho.monitor]
    decide
  · intro h
    rw [handler] at h
    cases h
  · intro _ id s hv
    exact absurd hv (none id s)
  · rw [ho.monitor]
    exact Camera3Monitor.acquireMonitor_composed Camera3Monitor.construct_composed true
  · intro _ active
    rw [ho.monitor] at active
    cases active
  · intro h
    exact absurd ho.phase h

/-- In every run of expected steps after OpenCamera, whenever the queue and the notifications are
empty and the client is STATE_CONFIGURED, no stream has a buffer out and the handler is paused. -/
theorem idle_tracking_sound {u : BufferUsage} {steps : List (IdleStep M)} (ho : Opened w)
    (hr : Run (Guarded Expected (Step u)) w steps w') : w'.IdleSound := by
  have kept : Inv w' := hr.invariant (fun _ _ _ hi h => step_inv hi h.1 h.2) (opened_inv ho)
  exact kept.sound

end Steps

section Traces

/-- OpenCamera of a client with every callback. -/
def opened : IdleWorld PlainMetadata where
  client :=
    { state := .NOT_CONFIGURED
      streams := KeyedVector.empty
      deletedStreams := []
      nextStreamId := 0
      reconfig := true
      inputStream := ⟨-1,0,0,.other 0⟩
      camFeatureFlags := 0
      batchSize := 1
      frameNumber := 0
      pauseStateNotify := false
      handler := RequestHandler.construct 0 true true
      availableStreamConfigs := []
      jpegMaxSize := []
      errorCb := true
      idleCb := true }
  monitor := (Camera3Monitor.construct.acquireMonitor true).2

theorem opened_opened : Opened opened := ⟨rfl,rfl,rfl,⟨true,true,rfl⟩,rfl,rfl⟩

def previewParams : CameraStreamParameters := ⟨640,480,.YCBCR_420_888,⟨0⟩,2⟩

def previewRequest : CaptureRequest PlainMetadata := ⟨CameraMetadata.empty,[0],⟨0,0,0,0,false⟩,false⟩

/-- One stream is created and configured. -/
def setUp : List (IdleStep PlainMetadata) :=
  [.createStream previewParams true,.configureStreams,.beginConfigure,.configured true,
    .endConfigure true,.finishConfigure]

/-- A request is submitted, and its buffer taken. -/
def submit : List (IdleStep PlainMetadata) :=
  [.queueRequestList [previewRequest],.getRequest,.getBuffer 0 0 (some 7),.finishRequest]

def next (w : IdleWorld PlainMetadata) (step : IdleStep PlainMetadata) :
    Option (IdleWorld PlainMetadata) :=
  if w.Expected step then w.perform .android step else none

/-- A request and its buffer come and go; the device is idle again. -/
theorem idle_tracking_sound_request : ∃ steps w',
    Run (Guarded Expected (Step .android)) opened steps w' ∧ w'.Quiescent ∧
      w'.client.state=.CONFIGURED ∧ w'.client.streams.items≠[] ∧ w'.IdleSound := by
  obtain ⟨w',hr,hp⟩ := Run.of_exec_any (r := Guarded Expected (Step .android)) (f := next)
    (p := fun w => decide ((w.monitor.inputQueue=[] ∧ w.monitor.updatedStates=[]) ∧
      w.client.state=.CONFIGURED ∧ w.client.streams.keys≠[]))
    opened (setUp++submit++[.threadLoop,.notify,.returnBuffer 0 (some 7),
      .getRequestWoken false,.threadLoop,.notify])
    (by
      intro w step w' h
      unfold next at h
      split_ifs at h with he
      exact ⟨he,h⟩)
    (by decide)
  obtain ⟨quiet,configured,streams⟩ := of_decide_eq_true hp
  refine ⟨_,w',hr,quiet,configured,?_,idle_tracking_sound opened_opened hr⟩
  intro none
  exact streams (by rw [KeyedVector.keys,none]; rfl)

/-- While the monitor's thread has not run, a second stream is created and everything configured
anew: the first stream gets a new monitor, which does not know of the buffer that is out. -/
theorem reconfigured_buffer_unknown : ¬∀ (u : BufferUsage) (w w' : IdleWorld PlainMetadata) steps,
    Opened w → Run (Step u) w steps w' → w'.IdleSound := by
  intro all
  obtain ⟨w',hr,hp⟩ := Run.of_exec_any (r := Step .android) (f := perform .android)
    (p := fun w => decide ((w.monitor.inputQueue=[] ∧ w.monitor.updatedStates=[]) ∧
      w.client.state=.CONFIGURED ∧
      (w.client.streams.valueFor 0).map (fun s => s.pendingBufferCount)=some 1))
    opened (setUp++submit++[.createStream previewParams true,.configureStreams,
      .beginConfigure,.beginConfigure,.configured true,.endConfigure true,.endConfigure true,
      .finishConfigure,.getRequestWoken false,.threadLoop,.notify,.notify])
    (fun _ _ _ h => h) (by decide)
  obtain ⟨quiet,configured,pending⟩ := of_decide_eq_true hp
  obtain ⟨s,hv,out⟩ := Option.map_eq_some_iff.mp pending
  have none := (all .android opened w' _ opened_opened hr quiet configured).1 0 s hv
  omega

end Traces
end IdleWorld
end IotMedia.Camera

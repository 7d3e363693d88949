import IotMedia.Camera.BufferOwnership
import IotMedia.Camera.ConfigureTransaction

namespace IotMedia.Camera

open IotMedia.Framework

namespace Camera3Stream

/-- What a configuration of the stream goes by is the same. -/
structure SameSettings (s t : Camera3Stream) : Prop where
  usage : t.cameraStream.usage=s.cameraStream.usage
  streamMaxBuffers : t.streamMaxBuffers=s.streamMaxBuffers
  totalBufferCount : t.totalBufferCount=s.totalBufferCount
  oldUsage : t.oldUsage=s.oldUsage
  clientUsage : t.clientUsage=s.clientUsage
  oldMaxBuffers : t.oldMaxBuffers=s.oldMaxBuffers
  clientMaxBuffers : t.clientMaxBuffers=s.clientMaxBuffers

def hasBuffers (s : Camera3Stream) : Bool :=
  s.status=.configured || s.status=.reconfigActive || s.status=.prepareActive

/-- A stream with buffers has those that its client asks for, and one that is being configured is
given what its client asks for. -/
structure ConfiguredAs (u : BufferUsage) (s : Camera3Stream) : Prop where
  oldUsage : s.hasBuffers=true → s.oldUsage=u.toCommon (u.toLocal s.clientUsage)
  oldMaxBuffers : s.hasBuffers=true → s.oldMaxBuffers=s.clientMaxBuffers
  totalBufferCount : s.hasBuffers=true → s.totalBufferCount=s.clientMaxBuffers
  usage : s.isConfigureActive=true → s.cameraStream.usage=u.toLocal s.clientUsage
  streamMaxBuffers : s.isConfigureActive=true → s.streamMaxBuffers=s.clientMaxBuffers

variable {u : BufferUsage} {s t : Camera3Stream}

theorem SameSettings.refl (s : Camera3Stream) : SameSettings s s := ⟨rfl,rfl,rfl,rfl,rfl,rfl,rfl⟩

/-- A call that leaves the settings alone may take the stream into a status that asks no more. -/
theorem ConfiguredAs.same (hs : ConfiguredAs u s) (same : SameSettings s t)
    (buffers : t.hasBuffers=true → s.hasBuffers=true)
    (active : t.isConfigureActive=true → s.isConfigureActive=true) : ConfiguredAs u t where
  oldUsage h := by
    rw [same.oldUsage,same.clientUsage]
    exact hs.oldUsage (buffers h)
  oldMaxBuffers h := by
    rw [same.oldMaxBuffers,same.clientMaxBuffers]
    exact hs.oldMaxBuffers (buffers h)
  totalBufferCount h := by
    rw [same.totalBufferCount,same.clientMaxBuffers]
    exact hs.totalBufferCount (buffers h)
  usage h := by
    rw [same.usage,same.clientUsage]
    exact hs.usage (active h)
  streamMaxBuffers h := by
    rw [same.streamMaxBuffers,same.clientMaxBuffers]
    exact hs.streamMaxBuffers (active h)

theorem ConfiguredAs.still (hs : ConfiguredAs u s) (same : SameSettings s t)
    (status : t.status=s.status) : ConfiguredAs u t := by
  refine hs.same same ?_ ?_
  · unfold hasBuffers
    rw [status]
    exact fun h => h
  · unfold isConfigureActive
    rw [status]
    exact fun h => h

/-- A stream without buffers that is not being configured. -/
theorem ConfiguredAs.idle (u : BufferUsage) (none_ : s.hasBuffers=false)
    (idle : s.isConfigureActive=false) : ConfiguredAs u s := by
  constructor
  all_goals
    intro h
    simp [none_,idle] at h

theorem construct_configuredAs (u : BufferUsage) (id : Int) (maxSize : Nat)
    (params : CameraStreamParameters) (device : Bool) :
    ConfiguredAs u (construct u id maxSize params device) := by
  have new : (construct u id maxSize params device).status=.error ∨
      (construct u id maxSize params device).status=.initialized := by
    unfold construct
    dsimp only
    split_ifs
    · exact Or.inl rfl
    · exact Or.inr rfl
  apply ConfiguredAs.idle
  · rcases new with h|h <;> simp [hasBuffers,h]
  · rcases new with h|h <;> simp [isConfigureActive,h]

theorem getBufferLocked_settings (u : BufferUsage) (s : Camera3Stream) (frame : Option Int)
    (alloc : Option Handle) : SameSettings s (s.getBufferLocked u frame alloc).stream ∧
      (s.getBufferLocked u frame alloc).stream.status=s.status := by
  have outcome := s.getBufferLocked_outcome u frame alloc
  generalize s.getBufferLocked u frame alloc=r at outcome ⊢
  cases outcome with
  | refused | unplaced | reuses | unanswered | preallocates | full =>
    exact ⟨⟨rfl,rfl,rfl,rfl,rfl,rfl,rfl⟩,rfl⟩
  | allocates active answer room handed =>
    subst handed
    exact ⟨⟨rfl,rfl,rfl,rfl,rfl,rfl,rfl⟩,rfl⟩

theorem returnBufferLocked_settings (s : Camera3Stream) (handle : Option Handle) :
    SameSettings s (s.returnBufferLocked handle).stream ∧
      (s.returnBufferLocked handle).stream.status=s.status := by
  rcases s.returnBufferLocked_cases handle with ⟨same,-⟩|⟨h,v,l,-,-,-,-,-,same⟩
  · rw [same]
    exact ⟨.refl s,rfl⟩
  · rw [same]
    exact ⟨⟨rfl,rfl,rfl,rfl,rfl,rfl,rfl⟩,rfl⟩

theorem returnBufferLocked_configuredAs (hs : ConfiguredAs u s) (handle : Option Handle) :
    ConfiguredAs u (s.returnBufferLocked handle).stream := by
  have returned := s.returnBufferLocked_settings handle
  exact hs.still returned.1 returned.2

theorem returnBufferToClient_configuredAs (hs : ConfiguredAs u s) {status : BufferStatus}
    {timestamp frame : Int} {r : StreamResult Unit}
    (h : s.returnBufferToClient status timestamp frame=some r) : ConfiguredAs u r.stream := by
  have active : ConfiguredAs u { s with isStreamActive := true } :=
    hs.still ⟨rfl,rfl,rfl,rfl,rfl,rfl,rfl⟩ rfl
  obtain ⟨handle,-,⟨-,rfl⟩|⟨-,rfl⟩⟩ := returnBufferToClient_cases h
  · exact active
  · exact returnBufferLocked_configuredAs active (some handle)

theorem getBufferWoken_configuredAs (hs : ConfiguredAs u s) (frame waitRes : Int)
    (alloc : Option Handle) : ConfiguredAs u (s.getBufferWoken u frame waitRes alloc).stream := by
  have locked := getBufferLocked_settings u s (some frame) alloc
  unfold getBufferWoken
  split_ifs
  · exact hs
  · exact hs.still locked.1 locked.2

theorem getBuffer_configuredAs (hs : ConfiguredAs u s) (frame waitRes : Int)
    (alloc : Option Handle) : ConfiguredAs u (s.getBuffer u frame waitRes alloc).stream := by
  have locked := getBufferLocked_settings u s (some frame) alloc
  unfold getBuffer
  split_ifs
  · exact hs
  · exact getBufferWoken_configuredAs hs frame waitRes alloc
  · exact hs.still locked.1 locked.2

theorem beginPrepare_configuredAs (hs : ConfiguredAs u s) : ConfiguredAs u s.beginPrepare.stream := by
  unfold beginPrepare
  by_cases away : s.status≠.configured
  · rw [if_pos away]
    exact hs
  rw [if_neg away]
  split_ifs
  · exact hs
  · exact hs
  · refine hs.same ⟨rfl,rfl,rfl,rfl,rfl,rfl,rfl⟩ (fun _ => ?_) fun h => by cases h
    simp [hasBuffers,not_not.mp away]

theorem tearDown_configuredAs (hs : ConfiguredAs u s) : ConfiguredAs u s.tearDown.stream := by
  unfold tearDown
  dsimp only
  split_ifs
  · exact hs
  · exact hs
  · exact hs.still ⟨rfl,rfl,rfl,rfl,rfl,rfl,rfl⟩ rfl
  · exact hs.still ⟨rfl,rfl,rfl,rfl,rfl,rfl,rfl⟩ rfl

theorem endPrepare_configuredAs (hs : ConfiguredAs u s) : ConfiguredAs u s.endPrepareLocked.stream := by
  unfold endPrepareLocked
  by_cases away : s.status≠.prepareActive
  · rw [if_pos away]
    exact hs
  · rw [if_neg away]
    refine hs.same ⟨rfl,rfl,rfl,rfl,rfl,rfl,rfl⟩ (fun _ => ?_) fun h => by cases h
    simp [hasBuffers,not_not.mp away]

theorem prepareBuffer_configuredAs (hs : ConfiguredAs u s) (alloc : Option Handle) :
    ConfiguredAs u (s.prepareBuffer u alloc).stream := by
  have locked := getBufferLocked_settings u s none alloc
  have got : ConfiguredAs u (s.getBufferLocked u none alloc).stream := hs.still locked.1 locked.2
  have counted (n : Nat) : ConfiguredAs u
      { (s.getBufferLocked u none alloc).stream with preparedBuffersCount := n } :=
    got.still ⟨rfl,rfl,rfl,rfl,rfl,rfl,rfl⟩ rfl
  unfold prepareBuffer
  dsimp only
  split_ifs
  · exact hs
  · exact got
  · exact counted _
  · exact endPrepare_configuredAs (counted _)

theorem beginConfigure_configuredAs (hs : ConfiguredAs u s) :
    ConfiguredAs u (s.beginConfigure u).stream := by
  unfold beginConfigure
  cases status : s.status with
  | configActive | reconfigActive | error | prepareActive => exact hs
  | initialized =>
    refine ⟨fun h => ?_,fun h => ?_,fun h => ?_,fun _ => rfl,fun _ => rfl⟩
    all_goals simp [hasBuffers] at h
  | configured =>
    have buffers : s.hasBuffers=true := by simp [hasBuffers,status]
    exact ⟨fun _ => hs.oldUsage buffers,fun _ => hs.oldMaxBuffers buffers,
      fun _ => hs.totalBufferCount buffers,fun _ => rfl,fun _ => rfl⟩

theorem abortConfigure_configuredAs (hs : ConfiguredAs u s) :
    ConfiguredAs u (s.abortConfigure u).stream := by
  unfold abortConfigure
  by_cases active : s.isConfigureActive=true
  swap
  · rw [if_neg active]
    exact hs
  rw [if_pos active]
  by_cases again : s.status=.reconfigActive
  · have buffers : s.hasBuffers=true := by simp [hasBuffers,again]
    refine ⟨fun _ => hs.oldUsage buffers,fun _ => hs.oldMaxBuffers buffers,
      fun _ => hs.totalBufferCount buffers,fun h => ?_,fun h => ?_⟩
    all_goals simp [isConfigureActive,again] at h
  · rw [if_neg again]
    exact .idle u (by simp [hasBuffers]) (by simp [isConfigureActive])

theorem closeLocked_configuredAs (hs : ConfiguredAs u s) : ConfiguredAs u s.closeLocked.stream := by
  unfold closeLocked
  cases status : s.status with
  | error | initialized | configActive | prepareActive => exact hs
  | reconfigActive =>
    have active : s.isConfigureActive=true := by simp [isConfigureActive,status]
    by_cases out : 0 < s.pendingBufferCount
    · simp only [if_pos out]
      exact hs
    · simp only [if_neg out,if_true]
      refine ⟨fun h => ?_,fun h => ?_,fun h => ?_,fun _ => hs.usage active,
        fun _ => hs.streamMaxBuffers active⟩
      all_goals simp [hasBuffers] at h
  | configured =>
    by_cases out : 0 < s.pendingBufferCount
    · simp only [if_pos out]
      exact hs
    · simp only [if_neg out]
      exact .idle u (by simp [hasBuffers]) (by simp [isConfigureActive])

/-- The buffers are made anew, for what the client asks for. -/
theorem configureLocked_configures (hs : ConfiguredAs u s) (active : s.isConfigureActive=true)
    (ok : s.configureLocked.ret=0) : s.configureLocked.stream.totalBufferCount=s.clientMaxBuffers ∧
      s.configureLocked.stream.cameraStream.usage=u.toLocal s.clientUsage ∧
      s.configureLocked.stream.streamMaxBuffers=s.clientMaxBuffers ∧
      s.configureLocked.stream.clientUsage=s.clientUsage ∧
      s.configureLocked.stream.clientMaxBuffers=s.clientMaxBuffers := by
  have max_ := hs.streamMaxBuffers active
  have usage := hs.usage active
  have total : max s.clientMaxBuffers s.streamMaxBuffers=s.clientMaxBuffers := by
    rw [max_,max_self]
  unfold configureLocked at ok ⊢
  cases status : s.status with
  | configActive => exact ⟨total,usage,max_,rfl,rfl⟩
  | reconfigActive =>
    simp only [status] at ok
    have fine : s.closeLocked.ret=0 := by
      by_contra failed
      rw [if_pos failed] at ok
      exact failed ok
    have closed : s.closeLocked.stream={ s with
        memAllocBuffers := KeyedVector.empty
        status := .configActive } := by
      by_cases out : 0 < s.pendingBufferCount
      · simp [closeLocked,status,out,ENOSYS] at fine
      · simp [closeLocked,status,out]
    dsimp only
    rw [if_neg (not_not.mpr fine),closed]
    exact ⟨total,usage,max_,rfl,rfl⟩
  | error | initialized | configured | prepareActive =>
    simp [isConfigureActive,status] at active

theorem endConfigure_configuredAs (hs : ConfiguredAs u s) (acquired : Int) :
    ConfiguredAs u (s.endConfigure u acquired).stream := by
  have monitored : ConfiguredAs u { s with monitorId := acquired } :=
    hs.still ⟨rfl,rfl,rfl,rfl,rfl,rfl,rfl⟩ rfl
  unfold endConfigure
  by_cases active : s.isConfigureActive=true
  swap
  · rw [if_neg active]
    exact hs
  rw [if_pos active]
  dsimp only
  by_cases missing : acquired<0
  · rw [if_pos missing]
    exact monitored
  rw [if_neg missing]
  by_cases same : s.status=.reconfigActive ∧ u.toCommon s.cameraStream.usage=s.oldUsage ∧
      s.oldMaxBuffers=s.streamMaxBuffers
  · rw [if_pos same]
    refine hs.same ⟨rfl,rfl,rfl,rfl,rfl,rfl,rfl⟩ (fun _ => ?_) fun h => by cases h
    simp [hasBuffers,same.1]
  rw [if_neg same]
  by_cases failed : (configureLocked { s with monitorId := acquired }).ret≠0
  · rw [if_pos failed]
    exact .idle u rfl rfl
  · rw [if_neg failed]
    obtain ⟨total,usage,max_,clientUsage,clientMax⟩ :=
      configureLocked_configures monitored active (not_not.mp failed)
    refine ⟨fun _ => ?_,fun _ => ?_,fun _ => ?_,fun h => ?_,fun h => ?_⟩
    · dsimp only
      rw [usage,clientUsage]
    · exact max_.trans clientMax.symm
    · exact total.trans clientMax.symm
    · simp [isConfigureActive] at h
    · simp [isConfigureActive] at h

end Camera3Stream

namespace StreamWorld

variable {u : BufferUsage} {w w' : StreamWorld} {c : StreamCall}

/-- One of the public calls of the stream, whatever the allocator answers. -/
def Performs (u : BufferUsage) (w : StreamWorld) (c : StreamCall) (w' : StreamWorld) : Prop :=
  w.perform u c=some w'

theorem performs_configuredAs (hs : w.stream.ConfiguredAs u) (h : Performs u w c w') :
    w'.stream.ConfiguredAs u := by
  unfold Performs at h
  cases c with
  | getBuffer frame alloc =>
    simp only [perform] at h
    split_ifs at h
    · cases h
      exact hs
    · cases h
      exact Camera3Stream.getBuffer_configuredAs hs frame 0 alloc
  | wakeGetBuffer frame waitRes alloc =>
    simp only [perform] at h
    split_ifs at h
    cases h
    exact Camera3Stream.getBufferWoken_configuredAs hs frame waitRes alloc
  | returnBuffer handle =>
    cases h
    exact Camera3Stream.returnBufferLocked_configuredAs hs handle
  | returnBufferToClient status timestamp frame =>
    obtain ⟨r,hr,rfl⟩ := Option.map_eq_some_iff.mp h
    exact Camera3Stream.returnBufferToClient_configuredAs hs hr
  | beginConfigure =>
    cases h
    exact Camera3Stream.beginConfigure_configuredAs hs
  | endConfigure acquired =>
    cases h
    exact Camera3Stream.endConfigure_configuredAs hs acquired
  | abortConfigure =>
    cases h
    exact Camera3Stream.abortConfigure_configuredAs hs
  | beginPrepare =>
    cases h
    exact Camera3Stream.beginPrepare_configuredAs hs
  | prepareBuffer alloc =>
    cases h
    exact Camera3Stream.prepareBuffer_configuredAs hs alloc
  | endPrepare =>
    cases h
    exact Camera3Stream.endPrepare_configuredAs hs
  | tearDown =>
    cases h
    exact Camera3Stream.tearDown_configuredAs hs
  | close =>
    cases h
    exact Camera3Stream.closeLocked_configuredAs hs

end StreamWorld

namespace Camera3Stream

variable {u : BufferUsage} {s : Camera3Stream}

/-- Any public calls in any order have led from a new stream to this one. -/
def Reachable (u : BufferUsage) (s : Camera3Stream) : Prop :=
  ∃ id maxSize params device calls w,
    Run (StreamWorld.Performs u) { stream := construct u id maxSize params device } calls w ∧
      w.stream=s

theorem Reachable.configuredAs (h : Reachable u s) : ConfiguredAs u s := by
  obtain ⟨id,maxSize,params,device,calls,w,run,rfl⟩ := h
  exact run.invariant (P := fun w => w.stream.ConfiguredAs u)
    (fun _ _ _ hs h => StreamWorld.performs_configuredAs hs h)
    (construct_configuredAs u id maxSize params device)

/-- A reconfiguration that leaves the buffers to the stream. -/
structure KeepsBuffers (s : Camera3Stream) (began : StreamResult (Option CameraStream))
    (ended : StreamResult Int) : Prop where
  accepted : began.ret≠none
  ret : ended.ret=0
  status : ended.stream.status=.configured
  buffers : SameBuffers s ended.stream
  active : ended.stream.isStreamActive=s.isStreamActive
  allocates : ∀ request handle,.allocBuffer request handle∉began.effects++ended.effects
  frees : ∀ handle,.freeBuffer handle∉began.effects++ended.effects

theorem reconfigure_keeps_buffers (h : Reachable u s) (configured : s.status=.configured)
    {acquired : Int} (ok : 0 ≤ acquired) : KeepsBuffers s (s.beginConfigure u)
      ((s.beginConfigure u).stream.endConfigure u acquired) := by
  have asked := h.configuredAs
  have buffers : s.hasBuffers=true := by simp [hasBuffers,configured]
  let t : Camera3Stream := { s with
    cameraStream := { s.cameraStream with usage := u.toLocal s.clientUsage }
    streamMaxBuffers := s.clientMaxBuffers
    monitorId := INVALID_ID
    status := .reconfigActive }
  have begun : s.beginConfigure u=⟨some t.cameraStream,t,
      if s.monitorId≠INVALID_ID then [.releaseMonitor s.monitorId] else []⟩ := by
    simp [beginConfigure,configured,t]
  have unchanged : t.status=.reconfigActive ∧ u.toCommon t.cameraStream.usage=t.oldUsage ∧
      t.oldMaxBuffers=t.streamMaxBuffers :=
    ⟨rfl,(asked.oldUsage buffers).symm,asked.oldMaxBuffers buffers⟩
  have ended : t.endConfigure u acquired=⟨0,{ t with monitorId := acquired,status := .configured },[]⟩ := by
    unfold endConfigure
    rw [if_pos (show t.isConfigureActive=true from rfl)]
    dsimp only
    rw [if_neg (not_lt.mpr ok),if_pos unchanged]
  rw [begun,ended]
  refine ⟨Option.some_ne_none _,rfl,rfl,⟨rfl,rfl,rfl,rfl,rfl⟩,rfl,?_,?_⟩
  · intro request handle
    dsimp only
    split_ifs <;> simp
  · intro handle
    dsimp only
    split_ifs <;> simp

def outstandingCalls : List StreamCall :=
  [.beginConfigure,.endConfigure 0,.getBuffer 0 (some 7)]

def newStream : Camera3Stream :=
  construct .android 0 0 ⟨640,480,.YCBCR_420_888,⟨kHwCameraWrite⟩,2⟩ true

theorem reconfigure_keeps_outstanding : ∃ s : Camera3Stream,s.pendingBufferCount=1 ∧
    KeepsBuffers s (s.beginConfigure .android)
      ((s.beginConfigure .android).stream.endConfigure .android 1) := by
  obtain ⟨w,run,reached⟩ := Run.of_exec_any (r := StreamWorld.Performs .android)
    (f := StreamWorld.perform .android)
    (p := fun w => decide (w.stream.status=.configured ∧ w.stream.pendingBufferCount=1))
    { stream := newStream } outstandingCalls (fun _ _ _ h => h) (by decide)
  obtain ⟨configured,out⟩ := of_decide_eq_true reached
  exact ⟨w.stream,out,reconfigure_keeps_buffers ⟨0,0,_,true,_,w,run,rfl⟩ configured (by decide)⟩

/-- What a stream is made with stays. -/
structure SameParameters (s t : Camera3Stream) : Prop where
  maxSize : t.maxSize=s.maxSize
  clientMaxBuffers : t.clientMaxBuffers=s.clientMaxBuffers

theorem SameParameters.trans {r : Camera3Stream} (h : SameParameters r s)
    (h' : SameParameters s t) : SameParameters r t :=
  ⟨h'.maxSize.trans h.maxSize,h'.clientMaxBuffers.trans h.clientMaxBuffers⟩

theorem beginConfigure_parameters (u : BufferUsage) (s : Camera3Stream) :
    SameParameters s (s.beginConfigure u).stream := by
  unfold beginConfigure
  cases s.status <;> exact ⟨rfl,rfl⟩

theorem closeLocked_parameters (s : Camera3Stream) : SameParameters s s.closeLocked.stream := by
  unfold closeLocked
  cases s.status with
  | reconfigActive | configured =>
    dsimp only
    split_ifs <;> exact ⟨rfl,rfl⟩
  | error | initialized | configActive | prepareActive => exact ⟨rfl,rfl⟩

theorem configureLocked_parameters (s : Camera3Stream) :
    SameParameters s s.configureLocked.stream := by
  have closed := closeLocked_parameters s
  unfold configureLocked
  cases s.status with
  | reconfigActive =>
    dsimp only
    split_ifs
    · exact closed
    · exact closed.trans ⟨rfl,rfl⟩
  | configActive | error | initialized | configured | prepareActive => exact ⟨rfl,rfl⟩

theorem endConfigure_parameters (u : BufferUsage) (s : Camera3Stream) (acquired : Int) :
    SameParameters s (s.endConfigure u acquired).stream := by
  have monitored : SameParameters s { s with monitorId := acquired } := ⟨rfl,rfl⟩
  have made := monitored.trans (configureLocked_parameters _)
  unfold endConfigure
  dsimp only
  split_ifs
  · exact ⟨rfl,rfl⟩
  · exact ⟨rfl,rfl⟩
  · exact made.trans ⟨rfl,rfl⟩
  · exact made.trans ⟨rfl,rfl⟩
  · exact ⟨rfl,rfl⟩

end Camera3Stream

/-- What the HAL says of one stream. -/
structure HalStream where
  id : Int
  maxBuffers : Nat

/-- The answer to configureStreams. -/
structure HalStreamConfiguration where
  isOk : Bool
  statusOk : Bool
  streams : List HalStream

namespace DeviceClient

variable {M : Type} {u : BufferUsage} {c : DeviceClient M} {env : ClientEnv M}
  {answer : HalStreamConfiguration}

/-- ConfigureStreamsLocked with the whole answer: hal_stream_config is stored, and nothing reads
it. -/
def configureStreamsAnswered (u : BufferUsage) (c : DeviceClient M) (env : ClientEnv M)
    (answer : HalStreamConfiguration) : ClientResult M :=
  configureStreamsLocked u c { env with configured := answer.isOk && answer.statusOk }

/-- Every stream has as many buffers as its client and the HAL ask for. -/
def Honours (c : DeviceClient M) (answer : HalStreamConfiguration) : Prop :=
  ∀ p∈c.streams.items,p.2.clientMaxBuffers ≤ p.2.totalBufferCount ∧
    ∀ h∈answer.streams,h.id=p.1 → h.maxBuffers ≤ p.2.totalBufferCount

/-- A call that returns 0 after it has asked the HAL has begun and ended every stream. -/
theorem configured_items (ok : (configureStreamsLocked u c env).ret=0)
    (called : halCalled (configureStreamsLocked u c env).effects=true) :
    (∀ p∈c.streams.items,¬Unready p.2 ∧ ¬Stuck u (env.acquired p.1) p.2) ∧
      (configureStreamsLocked u c env).client.streams.items=
        c.streams.items.map (ended u env.acquired) := by
  by_cases hs : c.state≠.NOT_CONFIGURED ∧ c.state≠.CONFIGURED
  · rw [busy_call u env hs] at ok
    simp [ENOSYS] at ok
  cases hr : c.reconfig with
  | false =>
    rw [skipped_call u env hs hr] at called
    cases called
  | true =>
    by_cases ready : ∀ p∈c.streams.items,¬Unready p.2
    swap
    · push Not at ready
      obtain ⟨before,id,s,after,stop⟩ :=
        KeyedVector.exists_stopsAt (fun _ s => Unready s) ready
      exact absurd ok (unready_call u env hs hr stop).1
    cases hc : env.configured with
    | false => exact absurd ok (refused_call hs hr ready hc).1
    | true =>
      by_cases free : ∀ p∈c.streams.items,¬Stuck u (env.acquired p.1) p.2
      · exact ⟨fun p hp => ⟨ready p hp,free p hp⟩,(configured_call hs hr ready hc free).2.1⟩
      · push Not at free
        obtain ⟨before,id,s,after,stop⟩ :=
          KeyedVector.exists_stopsAt (fun id s => Stuck u (env.acquired id) s) free
        exact absurd ok (stuck_call hs hr ready hc stop).1

/-- The stream ends up with the number of buffers that its client asks for. -/
theorem ended_buffers {p : Int × Camera3Stream} (reached : p.2.Reachable u) (ready : ¬Unready p.2)
    {acquired : Int → Int} (free : ¬Stuck u (acquired p.1) p.2) :
    (ended u acquired p).2.clientMaxBuffers=p.2.clientMaxBuffers ∧
      (ended u acquired p).2.totalBufferCount=p.2.clientMaxBuffers := by
  have begun_ := Camera3Stream.beginConfigure_configuredAs reached.configuredAs
  have configured := Camera3Stream.endConfigure_configuredAs begun_ (acquired p.1)
  have status := (ended_status acquired p.1 ready free).1
  rw [endStream_active acquired p.1 ready] at status
  have same : (ended u acquired p).2.clientMaxBuffers=p.2.clientMaxBuffers := by
    rw [ended,begun,endStream_active acquired p.1 ready]
    exact ((Camera3Stream.beginConfigure_parameters u p.2).trans
      (Camera3Stream.endConfigure_parameters u _ _)).clientMaxBuffers
  refine ⟨same,?_⟩
  rw [← same,ended,begun,endStream_active acquired p.1 ready]
  exact configured.totalBufferCount (by
    rw [Camera3Stream.hasBuffers]
    simp only [beginStream] at status
    simp [status])

/-- The number of buffers is the client's alone. -/
theorem hal_buffers_honoured_iff (reached : ∀ p∈c.streams.items,p.2.Reachable u)
    (ok : (configureStreamsAnswered u c env answer).ret=0)
    (called : halCalled (configureStreamsAnswered u c env answer).effects=true) :
    Honours (configureStreamsAnswered u c env answer).client answer ↔
      ∀ p∈c.streams.items,∀ h∈answer.streams,h.id=p.1 → h.maxBuffers ≤ p.2.clientMaxBuffers := by
  obtain ⟨free,items⟩ := configured_items ok called
  unfold Honours configureStreamsAnswered
  rw [items,List.forall_mem_map]
  refine forall₂_congr fun p hp => ?_
  obtain ⟨client,total⟩ := ended_buffers (reached p hp) (free p hp).1 (free p hp).2
  rw [client,total]
  exact ⟨fun honoured => honoured.2,fun within => ⟨le_rfl,within⟩⟩

/-- A client whose only stream is new and asks for two buffers. -/
def freshClient : DeviceClient Unit :=
  { sampleClient .NOT_CONFIGURED (KeyedVector.empty.add 0 Camera3Stream.newStream) [] with
    reconfig := true }

theorem freshClient_reached : ∀ p∈freshClient.streams.items,p.2.Reachable .android := by
  intro p hp
  have fresh : p=(0,Camera3Stream.newStream) := by
    simpa [freshClient,sampleClient,KeyedVector.add,KeyedVector.empty,KeyedVector.insertItem]
      using hp
  subst fresh
  exact ⟨0,0,_,true,[],_,.nil,rfl⟩

/-- The HAL answers that it needs so many buffers for stream 0. -/
def asksFor (maxBuffers : Nat) : HalStreamConfiguration := ⟨true,true,[⟨0,maxBuffers⟩]⟩

theorem hal_buffers_honoured_fewer :
    Honours (configureStreamsAnswered .android freshClient (calm []) (asksFor 1)).client
      (asksFor 1) := by
  apply (hal_buffers_honoured_iff freshClient_reached rfl rfl).mpr
  decide

theorem hal_buffers_dropped : ¬∀ (u : BufferUsage) (c : DeviceClient Unit) env answer,
    (∀ p∈c.streams.items,p.2.Reachable u) → (configureStreamsAnswered u c env answer).ret=0 →
    halCalled (configureStreamsAnswered u c env answer).effects=true →
    Honours (configureStreamsAnswered u c env answer).client answer := by
  intro all
  have honoured := all .android freshClient (calm []) (asksFor 4) freshClient_reached rfl rfl
  obtain ⟨-,hal⟩ := honoured (0,_) List.mem_cons_self
  exact absurd (hal ⟨0,4⟩ List.mem_cons_self rfl) (by decide)

end DeviceClient
end IotMedia.Camera

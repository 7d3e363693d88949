import IotMedia.Camera.RequestHandler
import IotMedia.Camera.Stream
import IotMedia.Framework.MachineInt

namespace IotMedia.Camera

open IotMedia.Framework

/-- The states of the client, without their prefix STATE_. -/
inductive State
  | ERROR
  | NOT_INITIALIZED
  | CLOSED
  | NOT_CONFIGURED
  | CONFIGURED
  | RUNNING
  deriving DecidableEq

/-- The fields of CameraInputStreamParameters; of the callbacks, whether both are valid. -/
structure CameraInputStreamParameters where
  width : Nat
  height : Nat
  format : PixelFormat
  callbacks : Bool

structure CameraInputStream where
  streamId : Int
  width : Nat
  height : Nat
  format : PixelFormat

/-- The fields of Camera3DeviceClient that its stream calls read and write; of deviceInfo the
two entries that blob sizes are taken from. -/
structure DeviceClient (M : Type) where
  state : State
  streams : KeyedVector Int Camera3Stream
  deletedStreams : List Camera3Stream
  nextStreamId : Int
  reconfig : Bool
  inputStream : CameraInputStream
  camFeatureFlags : Nat
  batchSize : Nat
  frameNumber : Nat
  pauseStateNotify : Bool
  handler : RequestHandler M
  availableStreamConfigs : List Int
  jpegMaxSize : List Int
  errorCb : Bool
  idleCb : Bool

/-- What the client calls, the streams' own calls included. -/
inductive ClientEffect
  | stream (id : Int) (effect : StreamEffect)
  | configureStreams (streams : List CameraStream)
  | errorCb (errorCode : CameraErrorCode)
  | idleCb

/-- The end of a wait for a state: its result, and what the calls that ran meanwhile left. -/
structure Waited (M : Type) where
  res : Int
  state : State
  streams : KeyedVector Int Camera3Stream
  requests : List (CaptureRequest M)
  streamingRequests : List (CaptureRequest M)
  currentRequest : CaptureRequest M

/-- What a call meets: its two waits, the result of adding to streams_, the answers of
AcquireMonitor by stream id, and whether the HAL accepts the configuration. -/
structure ClientEnv (M : Type) where
  idle : Waited M
  running : Waited M
  added : Int
  acquired : Int → Int
  configured : Bool

structure ClientResult (M : Type) where
  ret : Int
  client : DeviceClient M
  effects : List ClientEffect := []

namespace DeviceClient

variable {M : Type}

def HAL_PIXEL_FORMAT_BLOB : Int := 0x21
def ANDROID_SCALER_AVAILABLE_STREAM_CONFIGURATIONS_OUTPUT : Int := 0

def internalUpdateStatusLocked (c : DeviceClient M) (state : State) : DeviceClient M :=
  { c with state := state }

/-- SET_ERR_L: the handler is paused and the device fails for good. -/
def setErrorStateLocked (c : DeviceClient M) : DeviceClient M × List ClientEffect :=
  if c.state=.ERROR ∨ c.state=.NOT_INITIALIZED ∨ c.state=.CLOSED then (c,[])
  else ({ c with handler := (c.handler.togglePause true).1,state := .ERROR },
    if c.errorCb then [.errorCb .ERROR_CAMERA_DEVICE] else [])

/-- NotifyStatus, with the callback after the lock is released. -/
def notifyStatus (c : DeviceClient M) (idle : Bool) : DeviceClient M × List ClientEffect :=
  if c.state≠.RUNNING ∧ c.state≠.CONFIGURED then (c,[])
  else
    let c := c.internalUpdateStatusLocked (if idle then .CONFIGURED else .RUNNING)
    (c,if c.pauseStateNotify=false ∧ idle ∧ c.idleCb then [.idleCb] else [])

/-- WaitUntilStateThenRelock: without a wait if the state is there already. -/
def waitUntilStateThenRelock (c : DeviceClient M) (active : Bool) (w : Waited M) :
    Int × DeviceClient M :=
  if active=decide (c.state=.RUNNING) then (0,c)
  else (w.res,{ c with
    state := w.state
    streams := w.streams
    handler := { c.handler with
      requests := w.requests
      streamingRequests := w.streamingRequests
      currentRequest := w.currentRequest } })

def internalPauseAndWaitLocked (c : DeviceClient M) (env : ClientEnv M) : ClientResult M :=
  let waited := { c with
    handler := (c.handler.togglePause true).1
    pauseStateNotify := true }.waitUntilStateThenRelock false env.idle
  if waited.1≠0 then ⟨waited.1,waited.2.setErrorStateLocked.1,waited.2.setErrorStateLocked.2⟩
  else ⟨waited.1,waited.2,[]⟩

def internalResumeLocked (c : DeviceClient M) (env : ClientEnv M) : ClientResult M :=
  let resumed := { c with handler := (c.handler.togglePause false).1 }
  if (c.handler.togglePause false).2=false then ⟨0,resumed,[]⟩
  else
    let waited := resumed.waitUntilStateThenRelock true env.running
    let failed := if waited.1≠0 then waited.2.setErrorStateLocked else (waited.2,[])
    ⟨waited.1,{ failed.1 with pauseStateNotify := false },failed.2⟩

section Configure

variable (u : BufferUsage)

/-- The round of the first loop of ConfigureStreamsLocked. -/
def beginStream (id : Int) (s : Camera3Stream) : Int × Camera3Stream × List ClientEffect :=
  let r := s.beginConfigure u
  (if r.ret.isNone then -ENOSYS else 0,r.stream,r.effects.map (.stream id))

def abortStream (id : Int) (s : Camera3Stream) : Int × Camera3Stream × List ClientEffect :=
  if s.isConfigureActive then
    let r := s.abortConfigure u
    (r.ret,r.stream,r.effects.map (.stream id))
  else (0,s,[])

def endStream (acquired : Int → Int) (id : Int) (s : Camera3Stream) :
    Int × Camera3Stream × List ClientEffect :=
  if s.isConfigureActive then
    let r := s.endConfigure u (acquired id)
    (r.ret,r.stream,r.effects.map (.stream id))
  else (0,s,[])

/-- ConfigureStreamsLocked; the HAL gets the streams as their BeginConfigure describes them. -/
def configureStreamsLocked (c : DeviceClient M) (env : ClientEnv M) : ClientResult M :=
  if c.state≠.NOT_CONFIGURED ∧ c.state≠.CONFIGURED then ⟨-ENOSYS,c,[]⟩
  else if c.reconfig=false then ⟨0,c,[]⟩
  else
    let begun := c.streams.tryEach (beginStream u)
    let c := { c with streams := begun.2.1 }
    if begun.1≠0 then ⟨-ENOSYS,c,begun.2.2⟩
    else
      let asked := begun.2.2++
        [.configureStreams (begun.2.1.items.map fun e => e.2.cameraStream)]
      if env.configured=false then
        let aborted := c.streams.tryEach (abortStream u)
        let c := { c with streams := aborted.2.1 }
        if aborted.1≠0 then ⟨aborted.1,c,asked++aborted.2.2⟩
        else ⟨-EINVAL,{ c.internalUpdateStatusLocked .NOT_CONFIGURED with reconfig := true },
          asked++aborted.2.2⟩
      else
        let ended := c.streams.tryEach (endStream u env.acquired)
        let c := { c with streams := ended.2.1 }
        if ended.1≠0 then ⟨ended.1,c,asked++ended.2.2⟩
        else ⟨0,{ c.internalUpdateStatusLocked .CONFIGURED with
          handler := c.handler.finishConfiguration c.batchSize
          reconfig := false
          frameNumber := 0
          deletedStreams := [] },
          asked++ended.2.2++c.deletedStreams.flatMap fun s => s.destroyed.map (.stream s.id)⟩

/-- width * height of int32_t values, wrapped around. -/
def int32Area (size : Int × Int) : Int := IntType.i32.cast (size.1*size.2)

/-- The largest output size for blobs; later ones of the same area do not replace it. -/
def maxBlobSize : List Int → Int × Int → Int × Int
  | format::width::height::isInput::rest,best =>
    maxBlobSize rest
      (if isInput=ANDROID_SCALER_AVAILABLE_STREAM_CONFIGURATIONS_OUTPUT ∧
          format=HAL_PIXEL_FORMAT_BLOB ∧ int32Area best < int32Area (width,height) then
        (width,height)
        else best)
  | _,best => best

def queryMaxBlobSize (c : DeviceClient M) : Int × Int :=
  if c.availableStreamConfigs.length=0 ∨ c.availableStreamConfigs.length%4≠0 then (0,0)
  else maxBlobSize c.availableStreamConfigs (0,0)

def caclulateBlobSize (c : DeviceClient M) (width height : Int) : Int :=
  if c.queryMaxBlobSize.1=0 then -EINVAL
  else
    match c.jpegMaxSize with
    | [] => -EINVAL
    | maxJpegBufferSize::_ =>
      if maxJpegBufferSize < int32Area (width,height) then maxJpegBufferSize
      else int32Area (width,height)

/-- The lines that end each of the calls below while captures are paused. -/
def reconfigureAndResume (c : DeviceClient M) (env : ClientEnv M) : ClientResult M :=
  let configured := configureStreamsLocked u c env
  if configured.ret≠0 then configured
  else
    let resumed := configured.client.internalResumeLocked env
    ⟨0,resumed.client,configured.effects++resumed.effects⟩

def blobBufferSize (c : DeviceClient M) (p : CameraStreamParameters) : Int :=
  if p.format=.BLOB then c.caclulateBlobSize (asInt32 p.width) (asInt32 p.height) else 0

/-- The new stream is in streams_ and a reconfiguration due. -/
def withStream (c : DeviceClient M) (p : CameraStreamParameters) : DeviceClient M :=
  { c with
    streams := c.streams.add c.nextStreamId
      (Camera3Stream.construct u c.nextStreamId (c.blobBufferSize p).toNat p true)
    reconfig := true }

/-- CreateStream after its checks of the state. -/
def addStream (c : DeviceClient M) (env : ClientEnv M)
    (outputConfiguration : CameraStreamParameters) (wasActive : Bool)
    (before : List ClientEffect) : ClientResult M :=
  if outputConfiguration.format=.BLOB ∧ c.blobBufferSize outputConfiguration≤0 then
    ⟨-EINVAL,c,before⟩
  else if env.added<0 then ⟨env.added,c,before⟩
  else
    let c := withStream u c outputConfiguration
    let continued := if wasActive then reconfigureAndResume u c env else ⟨0,c,[]⟩
    if continued.ret≠0 then ⟨continued.ret,continued.client,before++continued.effects⟩
    else
      let c := continued.client
      ⟨c.nextStreamId,{ c with nextStreamId := c.nextStreamId+1 },before++continued.effects⟩

/-- `callback` says whether outputConfiguration.cb is set. -/
def createStream (c : DeviceClient M) (env : ClientEnv M)
    (outputConfiguration : CameraStreamParameters) (callback : Bool) : ClientResult M :=
  if callback=false then ⟨-EINVAL,c,[]⟩
  else
    match c.state with
    | .ERROR | .NOT_INITIALIZED | .CLOSED => ⟨-ENOSYS,c,[]⟩
    | .NOT_CONFIGURED | .CONFIGURED => addStream u c env outputConfiguration false []
    | .RUNNING =>
      let paused := c.internalPauseAndWaitLocked env
      if paused.ret≠0 then
        let failed := paused.client.setErrorStateLocked
        ⟨paused.ret,failed.1,paused.effects++failed.2⟩
      else addStream u paused.client env outputConfiguration true paused.effects

/-- CreateInputStream after its checks of the state. -/
def addInputStream (c : DeviceClient M) (env : ClientEnv M)
    (inputConfiguration : CameraInputStreamParameters) (wasActive : Bool)
    (before : List ClientEffect) : ClientResult M :=
  let id := c.nextStreamId
  let c := { c with
    reconfig := true
    inputStream := ⟨id,inputConfiguration.width,inputConfiguration.height,
      inputConfiguration.format⟩
    nextStreamId := id+1 }
  let continued := if wasActive then reconfigureAndResume u c env else ⟨0,c,[]⟩
  ⟨if continued.ret≠0 then continued.ret else id,continued.client,before++continued.effects⟩

def createInputStream (c : DeviceClient M) (env : ClientEnv M)
    (inputConfiguration : CameraInputStreamParameters) : ClientResult M :=
  if inputConfiguration.callbacks=false then ⟨-EINVAL,c,[]⟩
  else if 0 ≤ c.inputStream.streamId then ⟨-ENOSYS,c,[]⟩
  else
    match c.state with
    | .ERROR | .NOT_INITIALIZED | .CLOSED => ⟨-ENOSYS,c,[]⟩
    | .NOT_CONFIGURED | .CONFIGURED => addInputStream u c env inputConfiguration false []
    | .RUNNING =>
      let paused := c.internalPauseAndWaitLocked env
      if paused.ret≠0 then
        let failed := paused.client.setErrorStateLocked
        ⟨paused.ret,failed.1,paused.effects++failed.2⟩
      else addInputStream u paused.client env inputConfiguration true paused.effects

/-- The stream is closed and out of streams_; deleted_streams_ keeps one that is cached. -/
def withoutStream (c : DeviceClient M) (stream : Camera3Stream) (id : Int) (cache : Bool) :
    DeviceClient M :=
  let streams := c.streams.removeItem id
  { c with
    streams := streams
    camFeatureFlags := if streams.items=[] then 0 else c.camFeatureFlags
    reconfig := if cache then (if c.state≠.RUNNING then true else c.reconfig)
      else if streams.items=[] then c.reconfig else true
    deletedStreams := if cache then c.deletedStreams++[stream.close.stream]
      else c.deletedStreams }

/-- DeleteStream once its stream is known to be an idle output stream. -/
def removeStream (c : DeviceClient M) (env : ClientEnv M) (stream : Camera3Stream) (id : Int)
    (cache : Bool) (before : List ClientEffect) : ClientResult M :=
  let closed := stream.close
  let effects := before++closed.effects.map (.stream id)
  let c := c.withoutStream stream id cache
  if cache then ⟨closed.ret,c,effects⟩
  else if c.streams.items=[] then
    let resumed := c.internalResumeLocked env
    ⟨closed.ret,resumed.client,effects++resumed.effects⟩
  else
    let continued := reconfigureAndResume u c env
    ⟨continued.ret,continued.client,effects++continued.effects⟩

/-- DeleteStream after its checks of the state. -/
def dropStream (c : DeviceClient M) (env : ClientEnv M) (streamId : Int) (cache : Bool)
    (before : List ClientEffect) : ClientResult M :=
  if streamId=c.inputStream.streamId then
    ⟨0,{ c with inputStream := { c.inputStream with streamId := -1 } },before⟩
  else
    match c.streams.valueFor streamId with
    | none => ⟨-EINVAL,c,before⟩
    | some stream =>
      if c.handler.isStreamActive stream.id then ⟨-ENOSYS,c,before⟩
      else removeStream u c env stream streamId cache before

def deleteStream (c : DeviceClient M) (env : ClientEnv M) (streamId : Int) (cache : Bool) :
    ClientResult M :=
  match c.state with
  | .ERROR | .NOT_INITIALIZED | .CLOSED => ⟨-ENOSYS,c,[]⟩
  | .NOT_CONFIGURED | .CONFIGURED | .RUNNING =>
    if cache then dropStream u c env streamId cache []
    else
      let paused := c.internalPauseAndWaitLocked env
      if paused.ret≠0 then
        let failed := paused.client.setErrorStateLocked
        ⟨paused.ret,failed.1,paused.effects++failed.2⟩
      else dropStream u paused.client env streamId cache paused.effects

end Configure

/-- SET_ERR_L changes the state and the pause at most. -/
theorem setErrorState_eq (c : DeviceClient M) : ∃ state pause,
    (pause=true ∨ pause=c.handler.togglePauseState) ∧ c.setErrorStateLocked.1={ c with
      state := state
      handler := { c.handler with togglePauseState := pause } } := by
  unfold setErrorStateLocked
  by_cases gone : c.state=.ERROR ∨ c.state=.NOT_INITIALIZED ∨ c.state=.CLOSED
  · rw [if_pos gone]
    exact ⟨c.state,c.handler.togglePauseState,Or.inr rfl,rfl⟩
  · rw [if_neg gone]
    exact ⟨.ERROR,true,Or.inl rfl,rfl⟩

end DeviceClient
end IotMedia.Camera

import IotMedia.Camera.Types
import IotMedia.Framework.KeyedVector

namespace IotMedia.Camera

open IotMedia.Framework

inductive StreamStatus
  | error
  | initialized
  | configActive
  | reconfigActive
  | configured
  | prepareActive
  deriving DecidableEq

/-- The HIDL stream description handed to configureStreams. -/
structure CameraStream where
  width : Nat
  height : Nat
  format : PixelFormat
  usage : BitVec 64
  deriving DecidableEq

structure Camera3Stream where
  id : Int
  maxSize : Nat
  cameraStream : CameraStream
  streamMaxBuffers : Nat
  status : StreamStatus
  totalBufferCount : Nat
  pendingBufferCount : Nat
  oldUsage : MemAllocFlags
  clientUsage : MemAllocFlags
  oldMaxBuffers : Nat
  clientMaxBuffers : Nat
  /-- `true` marks a free buffer, `false` one in use. -/
  memAllocBuffers : KeyedVector Handle Bool
  memAllocSlots : List (Option Handle)
  hwBufferAllocated : Nat
  monitorId : Int
  isStreamActive : Bool
  preparedBuffersCount : Nat
  buffersMap : Int → Option Handle

/-- What AllocBuffer is asked for. -/
structure AllocRequest where
  width : Int
  height : Int
  format : PixelFormat
  usage : MemAllocFlags
  deriving DecidableEq

/-- The calls a stream makes on its allocator, its monitor and its client, with the
buffers it hands out and takes back. -/
inductive StreamEffect
  | allocBuffer (request : AllocRequest) (handle : Option Handle)
  | freeBuffer (handle : Handle)
  | releaseMonitor (id : Int)
  | changeStateToIdle (id : Int)
  | changeStateToActive (id : Int)
  | handedOut (handle : Handle)
  | returned (handle : Handle)
  | callback (handle : Handle) (timestamp frameNumber : Int)
  deriving DecidableEq

structure StreamResult (α : Type) where
  ret : α
  stream : Camera3Stream
  effects : List StreamEffect := []

def INVALID_ID : Int := -1

/-- The fields of CameraStreamParameters that the stream reads. -/
structure CameraStreamParameters where
  width : Nat
  height : Nat
  format : PixelFormat
  allocFlags : MemAllocFlags
  bufferCount : Nat

namespace Camera3Stream

def construct (u : BufferUsage) (id : Int) (maxSize : Nat) (params : CameraStreamParameters)
    (device : Bool) : Camera3Stream where
  id := id
  maxSize := maxSize
  cameraStream := ⟨params.width,params.height,params.format,u.toLocal params.allocFlags⟩
  streamMaxBuffers := params.bufferCount
  status := if (params.format=.BLOB ∧ maxSize=0) ∨ device=false then .error else .initialized
  totalBufferCount := 0
  pendingBufferCount := 0
  oldUsage := ⟨0⟩
  clientUsage := params.allocFlags
  oldMaxBuffers := 0
  clientMaxBuffers := params.bufferCount
  memAllocBuffers := KeyedVector.empty
  memAllocSlots := []
  hwBufferAllocated := 0
  monitorId := INVALID_ID
  isStreamActive := false
  preparedBuffersCount := 0
  buffersMap := fun _ => none

def freeAll (s : Camera3Stream) : List StreamEffect :=
  s.memAllocBuffers.keys.map .freeBuffer

def closeLocked (s : Camera3Stream) : StreamResult Int :=
  match s.status with
  | .reconfigActive | .configured =>
    if 0 < s.pendingBufferCount then ⟨-ENOSYS,s,[]⟩
    else ⟨0,{ s with
        memAllocBuffers := KeyedVector.empty
        status := if s.status=.reconfigActive then .configActive else .initialized },s.freeAll⟩
  | _ => ⟨-ENOTCONN,s,[]⟩

def close (s : Camera3Stream) : StreamResult Int :=
  let r := s.closeLocked
  ⟨if r.ret= -ENOTCONN then 0 else r.ret,r.stream,r.effects⟩

/-- The calls of the destructor. -/
def destroyed (s : Camera3Stream) : List StreamEffect :=
  (if 0 ≤ s.monitorId then [.releaseMonitor s.monitorId] else [])++s.closeLocked.effects

/-- The part of ConfigureLocked after the old buffers are gone. -/
def resetBuffers (s : Camera3Stream) : StreamResult Int :=
  let total := max s.clientMaxBuffers s.streamMaxBuffers
  ⟨0,{ s with
      totalBufferCount := total
      pendingBufferCount := 0
      hwBufferAllocated := 0
      isStreamActive := false
      memAllocBuffers := KeyedVector.empty
      memAllocSlots := List.replicate total none },s.freeAll⟩

def configureLocked (s : Camera3Stream) : StreamResult Int :=
  match s.status with
  | .reconfigActive =>
    let closed := s.closeLocked
    if closed.ret≠0 then closed
    else
      let r := closed.stream.resetBuffers
      ⟨r.ret,r.stream,closed.effects++r.effects⟩
  | .configActive => s.resetBuffers
  | _ => ⟨-ENOSYS,s,[]⟩

def beginConfigure (u : BufferUsage) (s : Camera3Stream) : StreamResult (Option CameraStream) :=
  match s.status with
  | .configActive | .reconfigActive => ⟨some s.cameraStream,s,[]⟩
  | .initialized | .configured =>
    let s' := { s with
      cameraStream := { s.cameraStream with usage := u.toLocal s.clientUsage }
      streamMaxBuffers := s.clientMaxBuffers
      monitorId := INVALID_ID
      status := if s.status=.initialized then .configActive else .reconfigActive }
    ⟨some s'.cameraStream,s',
      if s.monitorId≠INVALID_ID then [.releaseMonitor s.monitorId] else []⟩
  | _ => ⟨none,s,[]⟩

def isConfigureActive (s : Camera3Stream) : Bool :=
  s.status=.configActive || s.status=.reconfigActive

/-- `acquired` is what AcquireMonitor answers: an id, or a negative error. -/
def endConfigure (u : BufferUsage) (s : Camera3Stream) (acquired : Int) : StreamResult Int :=
  if s.isConfigureActive then
    let s := { s with monitorId := acquired }
    if acquired<0 then ⟨acquired,s,[]⟩
    else if s.status=.reconfigActive ∧ u.toCommon s.cameraStream.usage=s.oldUsage ∧
        s.oldMaxBuffers=s.streamMaxBuffers then
      ⟨0,{ s with status := .configured },[]⟩
    else
      let r := s.configureLocked
      if r.ret≠0 then ⟨r.ret,{ r.stream with status := .error },r.effects⟩
      else ⟨0,{ r.stream with
          status := .configured
          oldUsage := u.toCommon r.stream.cameraStream.usage
          oldMaxBuffers := r.stream.streamMaxBuffers },r.effects⟩
  else ⟨-ENOSYS,s,[]⟩

def abortConfigure (u : BufferUsage) (s : Camera3Stream) : StreamResult Int :=
  if s.isConfigureActive then
    ⟨0,{ s with
      cameraStream := { s.cameraStream with usage := u.toLocal s.oldUsage }
      streamMaxBuffers := s.oldMaxBuffers
      status := if s.status=.reconfigActive then .configured else .initialized },[]⟩
  else ⟨-ENOSYS,s,[]⟩

def beginPrepare (s : Camera3Stream) : StreamResult Int :=
  if s.status≠.configured then ⟨-ENOSYS,s,[]⟩
  else if s.isStreamActive then ⟨-ENOSYS,s,[]⟩
  else if 0 < s.pendingBufferCount then ⟨-ENOSYS,s,[]⟩
  else ⟨-ENODATA,{ s with preparedBuffersCount := 0,status := .prepareActive },[]⟩

def endPrepareLocked (s : Camera3Stream) : StreamResult Int :=
  if s.status≠.prepareActive then ⟨-ENOSYS,s,[]⟩
  else ⟨0,{ s with preparedBuffersCount := 0,status := .configured },[]⟩

/-- The allocator flags of GetBufferLocked: with the UBWC flag set the camera
read and write flags are dropped. -/
def allocUsage (u : BufferUsage) (s : Camera3Stream) : MemAllocFlags :=
  let memusage := u.toCommon s.cameraStream.usage
  if memusage.flags &&& kPrivateAllocUbwc≠0 then
    ⟨memusage.flags &&& ~~~(kHwCameraRead ||| kHwCameraWrite)⟩
  else memusage

def allocRequest (u : BufferUsage) (s : Camera3Stream) : AllocRequest :=
  if s.cameraStream.format=.BLOB then
    ⟨(BitVec.ofNat 32 s.maxSize).toInt,1,s.cameraStream.format,s.allocUsage u⟩
  else
    ⟨(BitVec.ofNat 32 s.cameraStream.width).toInt,(BitVec.ofNat 32 s.cameraStream.height).toInt,
      s.cameraStream.format,s.allocUsage u⟩

/-- The slot of an allocated handle, searched among the first hw_buffer_allocated_. -/
def slotIndex (s : Camera3Stream) (handle : Handle) : Option Nat :=
  (s.memAllocSlots.take s.hwBufferAllocated).findIdx? fun slot => decide (slot=some handle)

/-- The last block of GetBufferLocked, for a caller that passed a stream buffer. -/
def handOut (s : Camera3Stream) (idx : Nat) (handle : Handle) (frameNumber : Int) :
    StreamResult (Int × Option StreamBuffer) :=
  ⟨(0,some ⟨s.id,idx,.OK,some handle⟩),{ s with
      buffersMap := Function.update s.buffersMap frameNumber (some handle)
      pendingBufferCount := s.pendingBufferCount+1 },
    (if s.pendingBufferCount=0 ∧ s.isConfigureActive=false then
      [.changeStateToActive s.monitorId] else [])++[.handedOut handle]⟩

/-- `alloc` is AllocBuffer's answer, should it be asked; without a frame number no stream
buffer is passed and the call only pre-allocates. -/
def getBufferLocked (u : BufferUsage) (s : Camera3Stream) (frameNumber : Option Int)
    (alloc : Option Handle) : StreamResult (Int × Option StreamBuffer) :=
  if s.status=.error ∨ s.status=.initialized then ⟨(-ENOSYS,none),s,[]⟩
  else
    match frameNumber.bind fun _ => s.memAllocBuffers.firstKeyWhere fun free => free with
    | some handle =>
      let s := { s with memAllocBuffers := s.memAllocBuffers.replaceValueFor handle false }
      match s.slotIndex handle,frameNumber with
      | some idx,some frame => s.handOut idx handle frame
      | _,_ => ⟨(-ENOSYS,none),s,[]⟩
    | none =>
      if s.hwBufferAllocated < s.totalBufferCount then
        match alloc with
        | none => ⟨(-ENOMEM,none),s,[.allocBuffer (s.allocRequest u) none]⟩
        | some handle =>
          let idx := s.hwBufferAllocated
          let s' := { s with
            memAllocSlots := s.memAllocSlots.set idx (some handle)
            memAllocBuffers := s.memAllocBuffers.add handle frameNumber.isNone
            hwBufferAllocated := idx+1 }
          match frameNumber with
          | none => ⟨(0,none),s',[.allocBuffer (s.allocRequest u) (some handle)]⟩
          | some frame =>
            let r := s'.handOut idx handle frame
            ⟨r.ret,r.stream,.allocBuffer (s.allocRequest u) (some handle)::r.effects⟩
      else ⟨(-ENOSYS,none),s,[]⟩

def mustWait (s : Camera3Stream) : Bool := s.pendingBufferCount=s.totalBufferCount

/-- GetBuffer from where its wait for a returned buffer ends: `waitRes` is the result of
cond_wait_relative. -/
def getBufferWoken (u : BufferUsage) (s : Camera3Stream) (frameNumber : Int) (waitRes : Int)
    (alloc : Option Handle) : StreamResult (Int × Option StreamBuffer) :=
  if waitRes≠0 then ⟨(waitRes,none),s,[]⟩
  else s.getBufferLocked u (some frameNumber) alloc

/-- GetBuffer with no other call taking the lock while it waits. -/
def getBuffer (u : BufferUsage) (s : Camera3Stream) (frameNumber : Int) (waitRes : Int)
    (alloc : Option Handle) : StreamResult (Int × Option StreamBuffer) :=
  if s.status≠.configured then ⟨(-ENOSYS,none),s,[]⟩
  else if s.mustWait then s.getBufferWoken u frameNumber waitRes alloc
  else s.getBufferLocked u (some frameNumber) alloc

def prepareBuffer (u : BufferUsage) (s : Camera3Stream) (alloc : Option Handle) :
    StreamResult Int :=
  if s.status≠.prepareActive then ⟨-ENOSYS,s,[]⟩
  else
    let r := s.getBufferLocked u none alloc
    if r.ret.1≠0 then ⟨-ENODEV,r.stream,r.effects⟩
    else
      let s := { r.stream with preparedBuffersCount := r.stream.preparedBuffersCount+1 }
      if s.preparedBuffersCount < s.totalBufferCount then ⟨-ENODATA,s,r.effects⟩
      else
        let e := s.endPrepareLocked
        ⟨e.ret,e.stream,r.effects++e.effects⟩

def tearDown (s : Camera3Stream) : StreamResult Int :=
  if s.status≠.configured then ⟨-ENOSYS,s,[]⟩
  else if 0 < s.pendingBufferCount then ⟨-ENOSYS,s,[]⟩
  else
    let freed := if 0 < s.hwBufferAllocated then
        ({ s with memAllocBuffers := KeyedVector.empty,hwBufferAllocated := 0 },s.freeAll)
      else (s,[])
    ⟨0,{ freed.1 with
      memAllocSlots := freed.1.memAllocSlots.mapIdx fun i slot =>
        if i < s.totalBufferCount then none else slot
      isStreamActive := false },freed.2⟩

def returnBufferLocked (s : Camera3Stream) (handle : Option Handle) : StreamResult Int :=
  if s.status=.initialized then ⟨-ENOSYS,s,[]⟩
  else if s.pendingBufferCount=0 then ⟨-ENOSYS,s,[]⟩
  else
    match handle with
    | none => ⟨-EINVAL,s,[]⟩
    | some h =>
      match s.memAllocBuffers.valueFor h with
      | none => ⟨-EINVAL,s,[]⟩
      | some _ =>
        let s' := { s with
          memAllocBuffers := s.memAllocBuffers.replaceValueFor h true
          pendingBufferCount := s.pendingBufferCount-1 }
        ⟨0,s',.returned h::
          if s'.pendingBufferCount=0 ∧ s.isConfigureActive=false then
            [.changeStateToIdle s.monitorId] else []⟩

def returnBuffer (s : Camera3Stream) (handle : Option Handle) : StreamResult Int :=
  s.returnBufferLocked handle

/-- A frame without an entry in buffers_map makes the call read a null handle: `none`. -/
def returnBufferToClient (s : Camera3Stream) (status : BufferStatus) (timestamp : Int)
    (frameNumber : Int) : Option (StreamResult Unit) :=
  match s.buffersMap frameNumber with
  | none => none
  | some handle =>
    let s := { s with isStreamActive := true }
    match status with
    | .OK => some ⟨(),s,[.callback handle timestamp frameNumber]⟩
    | .ERROR =>
      let r := s.returnBuffer (some handle)
      some ⟨(),r.stream,r.effects⟩

/-- The number of entries of mem_alloc_buffers_ marked in use. -/
def inUseCount (s : Camera3Stream) : Nat := s.memAllocBuffers.countWhere fun free => !free

/-- The handle is allocated and marked in use. -/
def InUse (s : Camera3Stream) (handle : Handle) : Prop :=
  s.memAllocBuffers.valueFor handle=some false

end Camera3Stream
end IotMedia.Camera

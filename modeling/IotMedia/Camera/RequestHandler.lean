import IotMedia.Camera.PendingRequests

namespace IotMedia.Camera

/-- The streams of a request are given by their ids; of the input, whether there is one. -/
structure CaptureRequest (M : Type) where
  metadata : M
  streams : List Int
  resultExtras : CaptureResultExtras
  input : Bool

/-- What the handler tells its client and its monitor. -/
inductive HandlerEffect
  | errorCb (errorCode : CameraErrorCode) (resultExtras : CaptureResultExtras)
  | changeStateToIdle (id : Int)
  | changeStateToActive (id : Int)
  deriving DecidableEq

/-- Of the callbacks, whether they are installed. -/
structure RequestHandler (M : Type) where
  requests : List (CaptureRequest M)
  streamingRequests : List (CaptureRequest M)
  currentRequest : CaptureRequest M
  oldRequest : CaptureRequest M
  configurationUpdate : Bool
  togglePauseState : Bool
  pausedState : Bool
  currentFrameNumber : Nat
  currentInputFrameNumber : Nat
  streamingLastFrameNumber : Int
  monitorId : Int
  batchSize : Nat
  errorCb : Bool
  markCb : Bool

/-- Where SubmitRequest ends: GetBuffer failed, mark_cb_ was missing or failed, or the answer of
processCaptureRequest. -/
inductive SubmitOutcome
  | bufferFailed
  | markFailed
  | halFailed
  | accepted
  deriving DecidableEq

def NO_IN_FLIGHT_REPEATING_FRAMES : Int := -1

namespace CaptureRequest

variable {M : Type}

def number (r : CaptureRequest M) (frameNumber : Nat) : CaptureRequest M :=
  { r with resultExtras := { r.resultExtras with frameNumber := frameNumber } }

/-- ClearCaptureRequest; the input stays. -/
def clear [CameraMetadata M] (r : CaptureRequest M) : CaptureRequest M :=
  { r with
    streams := []
    metadata := CameraMetadata.empty
    resultExtras := ⟨-1,0,0,0,false⟩ }

end CaptureRequest

namespace RequestHandler

variable {M : Type} [CameraMetadata M]

def construct (monitorId : Int) (errorCb markCb : Bool) : RequestHandler M where
  requests := []
  streamingRequests := []
  currentRequest := ⟨CameraMetadata.empty,[],⟨-1,0,0,0,false⟩,false⟩
  oldRequest := ⟨CameraMetadata.empty,[],⟨-1,0,0,0,false⟩,false⟩
  configurationUpdate := false
  togglePauseState := false
  pausedState := true
  currentFrameNumber := 0
  currentInputFrameNumber := 0
  streamingLastFrameNumber := NO_IN_FLIGHT_REPEATING_FRAMES
  monitorId := monitorId
  batchSize := 1
  errorCb := errorCb
  markCb := markCb

def finishConfiguration (s : RequestHandler M) (batchSize : Nat) : RequestHandler M :=
  { s with configurationUpdate := true,batchSize := batchSize }

def resume (s : RequestHandler M) : RequestHandler M × List HandlerEffect :=
  if s.togglePauseState then (s,[])
  else ({ s with pausedState := false },[.changeStateToActive s.monitorId])

/-- With the value stored through lastFrameNumber. -/
def queueRequestList (s : RequestHandler M) (requests : List (CaptureRequest M)) :
    RequestHandler M × Int × List HandlerEffect :=
  let queued := { s with requests := s.requests++requests }
  let last : Int := queued.currentFrameNumber+queued.requests.length-1
  (queued.resume.1,last,queued.resume.2)

def setRepeatingRequests (s : RequestHandler M) (requests : List (CaptureRequest M)) :
    RequestHandler M × Int × List HandlerEffect :=
  let resumed := { s with streamingRequests := requests }.resume
  ({ resumed.1 with streamingLastFrameNumber := NO_IN_FLIGHT_REPEATING_FRAMES },
    s.streamingLastFrameNumber,resumed.2)

def clearRepeatingRequests (s : RequestHandler M) : RequestHandler M × Int :=
  ({ s with
      streamingRequests := []
      streamingLastFrameNumber := NO_IN_FLIGHT_REPEATING_FRAMES },s.streamingLastFrameNumber)

/-- The loop of Clear over requests_: the counter after it, and the reports. -/
def reportAll (counter : Nat) : List (CaptureRequest M) → Nat × List HandlerEffect
  | [] => (counter,[])
  | r::rs =>
    let rest := reportAll (frameAfter counter) rs
    (rest.1,.errorCb .ERROR_CAMERA_REQUEST (r.number counter).resultExtras::rest.2)

/-- Clear up to its wait for the request in flight, which changes nothing. -/
def clear (s : RequestHandler M) : RequestHandler M × Int × List HandlerEffect :=
  let reported := if s.errorCb then reportAll s.currentFrameNumber s.requests
    else (s.currentFrameNumber,[])
  ({ s with
      streamingRequests := []
      requests := []
      currentFrameNumber := reported.1
      streamingLastFrameNumber := NO_IN_FLIGHT_REPEATING_FRAMES },
    s.streamingLastFrameNumber,reported.2)

/-- With the value stored through pending_request. -/
def togglePause (s : RequestHandler M) (pause : Bool) : RequestHandler M × Bool :=
  ({ s with togglePauseState := pause },!(s.requests.isEmpty && s.streamingRequests.isEmpty))

/-- One round of WaitOnPause, and whether it pauses; the wait itself changes nothing. -/
def waitOnPause (s : RequestHandler M) : RequestHandler M × List HandlerEffect × Bool :=
  if s.currentFrameNumber%s.batchSize≠0 then (s,[],false)
  else if s.togglePauseState then
    if s.pausedState then (s,[],true)
    else ({ s with pausedState := true },[.changeStateToIdle s.monitorId],true)
  else (s,[],false)

/-- The next request, with its frame number: the first of the repeating burst if the queue is
empty, else an input request if there is one, else the first. `none`: there is nothing. -/
def nextRequest (s : RequestHandler M) : Option (RequestHandler M × CaptureRequest M) :=
  match s.requests with
  | [] =>
    match s.streamingRequests with
    | [] => none
    | r::rs => some ({ s with
        requests := rs
        streamingLastFrameNumber := s.currentFrameNumber+(r::rs).length-1
        currentFrameNumber := frameAfter s.currentFrameNumber },r.number s.currentFrameNumber)
  | r::rs =>
    match (r::rs).find? fun q => q.input with
    | some q => some ({ s with
        requests := (r::rs).eraseP fun q => q.input
        currentInputFrameNumber := frameAfter s.currentInputFrameNumber },
        q.number s.currentInputFrameNumber)
    | none => some ({ s with
        requests := rs
        currentFrameNumber := frameAfter s.currentFrameNumber },r.number s.currentFrameNumber)

/-- The end of GetRequest, from where it holds a request. -/
def takeRequest (s : RequestHandler M) (request : CaptureRequest M) :
    RequestHandler M × List HandlerEffect :=
  ({ s with
      pausedState := false
      oldRequest := if s.configurationUpdate then s.oldRequest.clear else s.oldRequest
      configurationUpdate := false
      currentRequest := request },
    if s.pausedState then [.changeStateToActive s.monitorId] else [])

/-- GetRequest from the head of its loop; `none` when it starts to wait. -/
def getRequest (s : RequestHandler M) :
    Option (RequestHandler M × CaptureRequest M × List HandlerEffect) :=
  s.nextRequest.map fun next =>
    ((next.1.takeRequest next.2).1,next.2,(next.1.takeRequest next.2).2)

/-- GetRequest from the end of its wait; without a request it returned -ETIMEDOUT. -/
def getRequestWoken (s : RequestHandler M) (exitPending : Bool) :
    RequestHandler M × Option (CaptureRequest M) × List HandlerEffect :=
  match if exitPending then none else s.getRequest with
  | some got => (got.1,some got.2.1,got.2.2)
  | none =>
    if s.pausedState then (s,none,[])
    else ({ s with pausedState := true },none,[.changeStateToIdle s.monitorId])

/-- The first block of SubmitRequest: the settings of the HAL request, `none` when they stay
empty, and the request as it goes on. -/
def chooseSettings (s : RequestHandler M) (next : CaptureRequest M) :
    RequestHandler M × CaptureRequest M × Option M :=
  if s.oldRequest.resultExtras.requestId≠next.resultExtras.requestId then
    let sorted := { next with metadata := CameraMetadata.sort next.metadata }
    ({ s with oldRequest := sorted },sorted,some sorted.metadata)
  else (s,next,none)

/-- The last lines of SubmitRequest and of HandleErrorRequest. -/
def finishRequest (s : RequestHandler M) : RequestHandler M :=
  { s with currentRequest := s.currentRequest.clear }

def isStreamActive (s : RequestHandler M) (id : Int) : Bool :=
  s.currentRequest.streams.contains id ||
    s.requests.any (fun r => r.streams.contains id) ||
    s.streamingRequests.any fun r => r.streams.contains id

omit [CameraMetadata M] in
/-- Resume changes at most the pause. -/
theorem resume_eq (s : RequestHandler M) : ∃ paused,s.resume.1={ s with pausedState := paused } := by
  unfold resume
  split_ifs
  · exact ⟨s.pausedState,rfl⟩
  · exact ⟨false,rfl⟩

omit [CameraMetadata M] in
/-- So does WaitOnPause, and it lets the thread go where no pause is asked for. -/
theorem waitOnPause_eq (s : RequestHandler M) :
    (∃ paused,s.waitOnPause.1={ s with pausedState := paused }) ∧
      (s.togglePauseState=false → s.waitOnPause=(s,[],false)) := by
  unfold waitOnPause
  split_ifs with inside toggle paused
  · exact ⟨⟨s.pausedState,rfl⟩,fun _ => rfl⟩
  · exact ⟨⟨s.pausedState,rfl⟩,fun off => by simp [toggle] at off⟩
  · exact ⟨⟨true,rfl⟩,fun off => by simp [toggle] at off⟩
  · exact ⟨⟨s.pausedState,rfl⟩,fun _ => rfl⟩

/-- After its wait GetRequest pauses the handler, or goes on like one that never waited. -/
theorem getRequestWoken_cases (s : RequestHandler M) (exitPending : Bool) :
    (∃ paused l,s.getRequestWoken exitPending=({ s with pausedState := paused },none,l)) ∨
    ∃ got,s.getRequest=some got ∧
      s.getRequestWoken exitPending=(got.1,some got.2.1,got.2.2) := by
  unfold getRequestWoken
  cases hg : (if exitPending=true then none else s.getRequest) with
  | none =>
    left
    dsimp only
    split_ifs
    · exact ⟨s.pausedState,_,rfl⟩
    · exact ⟨true,_,rfl⟩
  | some got =>
    right
    split_ifs at hg
    exact ⟨got,hg,rfl⟩

end RequestHandler
end IotMedia.Camera

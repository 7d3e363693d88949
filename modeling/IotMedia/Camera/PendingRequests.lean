import IotMedia.Camera.Types
import IotMedia.Framework.KeyedVector

namespace IotMedia.Camera

open IotMedia.Framework

inductive MetadataTag
  | ANDROID_REQUEST_FRAME_COUNT
  | ANDROID_REQUEST_ID
  | ANDROID_SENSOR_TIMESTAMP
  | other (tag : Nat)
  deriving DecidableEq

/-- The CameraMetadata class and the camera_metadata functions, which the tree does not
contain. A search answers with the values of the entry, none when it has no entry; the raw
search also fails on a null buffer. -/
class CameraMetadata (M : Type) where
  empty : M
  isEmpty : M → Bool
  ofRaw : List UInt8 → M
  append : M → M → M
  appendRaw : M → List UInt8 → M
  update : M → MetadataTag → Int → Option M
  sort : M → M
  find : M → MetadataTag → List Int
  findRaw : List UInt8 → MetadataTag → Option (List Int)

/-- The error codes a HAL message may carry. -/
inductive ErrorCode
  | ERROR_DEVICE
  | ERROR_REQUEST
  | ERROR_RESULT
  | ERROR_BUFFER
  | other (code : Nat)
  deriving DecidableEq

/-- The calls of SET_ERR, with what their texts print. -/
inductive SetError
  | partialResultUnsupported (frameNumber partialResult : Nat)
  | resultMetadataQueueNull
  | readOperationFailed
  | invalidFrameNumber (frameNumber : Nat)
  | partialResultOutOfRange (frameNumber partialResult partialResultCount : Nat)
  | calledSeveralTimesWithMeta (frameNumber : Nat)
  | tooManyBuffers (frameNumber : Nat)
  | seriousDeviceError
  | unknownErrorMessage (code : ErrorCode)
  | shutterOutOfOrder (expected got : Nat)
  | shutterInvalidFrameNumber (frameNumber : Nat)
  | outOfOrderResult (arriving expecting : Nat)
  | unableToUpdateFrameNumber (frameNumber : Nat)
  | noTimestamp (frameNumber : Nat)
  | timestampMismatch (sensorTS : Int) (frameNumber : Nat) (shutterTS : Int)
  deriving DecidableEq

/-- A HIDL capture result; of the input buffer only its presence is read. -/
structure CaptureResult where
  frameNumber : Nat
  fmqResultSize : Nat
  result : List UInt8
  outputBuffers : List StreamBuffer
  inputBuffer : Bool
  partialResult : Nat
  deriving DecidableEq

/-- `status` is `none` for OK. -/
structure PendingRequest (M : Type) where
  shutterTS : Int
  sensorTS : Int
  resultExtras : CaptureResultExtras
  status : Option ErrorCode
  isMetaPresent : Bool
  buffersRemaining : Int
  pendingMetadata : M
  pendingBuffers : List StreamBuffer
  partial3AReceived : Bool
  composedResult : M

/-- What the handlers of HAL messages call. -/
inductive ResultEvent (M : Type)
  | shutterCb (resultExtras : CaptureResultExtras) (timestamp : Int)
  | resultCb (resultExtras : CaptureResultExtras) (metadata : M)
  | errorCb (errorCode : CameraErrorCode) (resultExtras : CaptureResultExtras)
  | returnBufferToClient (buffer : StreamBuffer) (timestamp : Int) (frameNumber : Nat)
  | setErr (error : SetError)

/-- The fields of the device client that the handlers of HAL messages use; of the client's
callbacks, whether they are installed. -/
structure PendingRequests (M : Type) where
  pendingRequests : KeyedVector Nat (PendingRequest M)
  pendingErrorRequests : KeyedVector Nat (PendingRequest M)
  nextShutterFrameNumber : Nat
  nextShutterInputFrameNumber : Nat
  nextResultFrameNumber : Nat
  nextResultInputFrameNumber : Nat
  partialResultCount : Nat
  isPartialResultSupported : Bool
  flushOnGoing : Bool
  resultMetadataQueue : Option (List UInt8)
  shutterCb : Bool
  resultCb : Bool
  errorCb : Bool

/-- A uint32_t read as an int32_t. -/
def asInt32 (n : Nat) : Int := (BitVec.ofNat 32 n).toInt

/-- A uint32_t counter after a frame number. -/
def frameAfter (frameNumber : Nat) : Nat := (frameNumber+1)%2^32

/-- The extras of a frame without an entry; the fields the source leaves unset are zero here. -/
def bareExtras (frameNumber : Nat) : CaptureResultExtras := ⟨0,0,frameNumber,0,false⟩

variable {M : Type} [CameraMetadata M]

namespace PendingRequest

def construct (numBuffers : Int) (extras : CaptureResultExtras) : PendingRequest M where
  shutterTS := 0
  sensorTS := 0
  resultExtras := extras
  status := none
  isMetaPresent := false
  buffersRemaining := numBuffers
  pendingMetadata := CameraMetadata.empty
  pendingBuffers := []
  partial3AReceived := false
  composedResult := CameraMetadata.empty

/-- The test of RemovePendingRequestLocked. -/
def complete (r : PendingRequest M) : Bool :=
  r.buffersRemaining=0 && (r.status≠none || (r.isMetaPresent && r.shutterTS≠0))

def notePartialCount (r : PendingRequest M) (result : CaptureResult) : PendingRequest M :=
  if result.partialResult≠0 then
    { r with resultExtras := { r.resultExtras with
        partialResultCount := asInt32 result.partialResult } }
  else r

def countBuffers (r : PendingRequest M) (result : CaptureResult) : PendingRequest M :=
  { r with buffersRemaining :=
      r.buffersRemaining-result.outputBuffers.length-(if result.inputBuffer then 1 else 0) }

def noteSensorTimestamp (r : PendingRequest M) (result : CaptureResult) : PendingRequest M :=
  match CameraMetadata.findRaw M result.result .ANDROID_SENSOR_TIMESTAMP with
  | some [timestamp] => { r with sensorTS := timestamp }
  | _ => r

/-- Until the shutter is known the buffers and the final metadata wait in the entry. -/
def hold (r : PendingRequest M) (result : CaptureResult) (resultMetadata : List UInt8)
    (isFinal : Bool) (collected : M) : PendingRequest M :=
  if r.shutterTS=0 then
    let r := { r with pendingBuffers := r.pendingBuffers++result.outputBuffers }
    if isFinal then
      { r with
        pendingMetadata := CameraMetadata.appendRaw CameraMetadata.empty resultMetadata
        composedResult := collected }
    else r
  else r

end PendingRequest

namespace PendingRequests

/-- A change of an entry through the reference that the handlers hold. -/
def store (s : PendingRequests M) (frameNumber : Nat) (r : PendingRequest M) :
    PendingRequests M :=
  { s with pendingRequests := s.pendingRequests.replaceValueFor frameNumber r }

/-- Map insertion that keeps an existing entry. -/
def emplace (m : KeyedVector Nat (PendingRequest M)) (frameNumber : Nat)
    (r : PendingRequest M) : KeyedVector Nat (PendingRequest M) :=
  if (m.valueFor frameNumber).isSome then m else m.add frameNumber r

def markPendingRequest (s : PendingRequests M) (frameNumber : Nat) (numBuffers : Int)
    (resultExtras : CaptureResultExtras) : PendingRequests M :=
  { s with pendingRequests :=
      emplace s.pendingRequests frameNumber (.construct numBuffers resultExtras) }

def returnOutputBuffer (s : PendingRequests M) (b : StreamBuffer) (timestamp : Int)
    (frameNumber : Nat) : PendingRequests M × List (ResultEvent M) :=
  if b.status=.ERROR ∧ s.flushOnGoing=false then
    -- unlike the other callers this one does not test that errorCb is installed
    match s.pendingRequests.valueFor frameNumber with
    | some r => (s.store frameNumber { r with status := some .ERROR_BUFFER },
        [.returnBufferToClient b timestamp frameNumber,
          .errorCb .ERROR_CAMERA_BUFFER r.resultExtras])
    | none => (s,[.returnBufferToClient b timestamp frameNumber,
        .errorCb .ERROR_CAMERA_BUFFER (bareExtras frameNumber)])
  else (s,[.returnBufferToClient b timestamp frameNumber])

def returnOutputBuffers (s : PendingRequests M) (outputBuffers : List StreamBuffer)
    (timestamp : Int) (frameNumber : Nat) : PendingRequests M × List (ResultEvent M) :=
  match outputBuffers with
  | [] => (s,[])
  | b::bs =>
    let first := s.returnOutputBuffer b timestamp frameNumber
    let rest := first.1.returnOutputBuffers bs timestamp frameNumber
    (rest.1,first.2++rest.2)

def removePendingRequestLocked (s : PendingRequests M) (frameNumber : Nat) :
    PendingRequests M × List (ResultEvent M) :=
  match s.pendingRequests.valueFor frameNumber with
  | none => (s,[])
  | some r =>
    if r.complete then
      let mismatch := if r.status=none ∧ r.sensorTS≠r.shutterTS then
        [.setErr (.timestampMismatch r.sensorTS frameNumber r.shutterTS)] else []
      let out := s.returnOutputBuffers r.pendingBuffers 0 frameNumber
      -- the loop may have set the status of the entry
      let r := (out.1.pendingRequests.valueFor frameNumber).getD r
      ({ out.1 with
        pendingErrorRequests :=
          if r.status≠none ∧ (r.isMetaPresent=false ∨ r.shutterTS=0) then
            emplace out.1.pendingErrorRequests frameNumber r
          else out.1.pendingErrorRequests
        pendingRequests := out.1.pendingRequests.removeItem frameNumber },mismatch++out.2)
    else (s,[])

def handlePartialResult (s : PendingRequests M) (frameNumber : Nat) (partialMetadata : M)
    (resultExtras : CaptureResultExtras) : Bool × List (ResultEvent M) :=
  if s.resultCb then
    match CameraMetadata.update partialMetadata .ANDROID_REQUEST_FRAME_COUNT
        (asInt32 frameNumber) with
    | none => (false,[])
    | some metadata =>
      match CameraMetadata.update metadata .ANDROID_REQUEST_ID resultExtras.requestId with
      | none => (false,[])
      | some metadata => (true,[.resultCb resultExtras metadata])
  else (true,[])

/-- The order check of SendCaptureResult: the counters after it, or the error. -/
def resultInOrder (s : PendingRequests M) (input : Bool) (frameNumber : Nat) :
    Except SetError (PendingRequests M) :=
  if input then
    if frameNumber < s.nextResultInputFrameNumber then
      .error (.outOfOrderResult frameNumber s.nextResultInputFrameNumber)
    else .ok { s with nextResultInputFrameNumber := frameAfter frameNumber }
  else
    if frameNumber < s.nextResultFrameNumber then
      .error (.outOfOrderResult frameNumber s.nextResultFrameNumber)
    else .ok { s with nextResultFrameNumber := frameAfter frameNumber }

def sendCaptureResult (s : PendingRequests M) (pendingMetadata : M)
    (resultExtras : CaptureResultExtras) (collectedPartialResult : M) (frameNumber : Nat) :
    PendingRequests M × List (ResultEvent M) :=
  if CameraMetadata.isEmpty pendingMetadata then (s,[])
  else if s.resultCb=false then (s,[])
  else
    match s.resultInOrder resultExtras.input frameNumber with
    | .error e => (s,[.setErr e])
    | .ok s =>
      match CameraMetadata.update pendingMetadata .ANDROID_REQUEST_FRAME_COUNT
          (asInt32 frameNumber) with
      | none => (s,[.setErr (.unableToUpdateFrameNumber frameNumber)])
      | some metadata =>
        let metadata := if s.isPartialResultSupported ∧
            CameraMetadata.isEmpty collectedPartialResult=false then
          CameraMetadata.append metadata collectedPartialResult else metadata
        let metadata := CameraMetadata.sort metadata
        if CameraMetadata.find metadata .ANDROID_SENSOR_TIMESTAMP=[] then
          (s,[.setErr (.noTimestamp frameNumber)])
        else (s,[.resultCb resultExtras metadata])

/-- The order check of NotifyShutter. -/
def shutterInOrder (s : PendingRequests M) (input : Bool) (frameNumber : Nat) :
    Except SetError (PendingRequests M) :=
  if input then
    if frameNumber < s.nextShutterInputFrameNumber then
      .error (.shutterOutOfOrder s.nextShutterInputFrameNumber frameNumber)
    else .ok { s with nextShutterInputFrameNumber := frameAfter frameNumber }
  else
    if frameNumber < s.nextShutterFrameNumber then
      .error (.shutterOutOfOrder s.nextShutterFrameNumber frameNumber)
    else .ok { s with nextShutterFrameNumber := frameAfter frameNumber }

def notifyShutter (s : PendingRequests M) (frameNumber : Nat) (timestamp : Int) :
    PendingRequests M × List (ResultEvent M) :=
  match s.pendingRequests.valueFor frameNumber with
  | none => (s,[.setErr (.shutterInvalidFrameNumber frameNumber)])
  | some r =>
    let called := if s.shutterCb then [.shutterCb r.resultExtras timestamp] else []
    match s.shutterInOrder r.resultExtras.input frameNumber with
    | .error e => (s,called++[.setErr e])
    | .ok s =>
      let s := s.store frameNumber { r with shutterTS := timestamp }
      let sent := s.sendCaptureResult r.pendingMetadata r.resultExtras r.composedResult
        frameNumber
      let out := sent.1.returnOutputBuffers r.pendingBuffers timestamp frameNumber
      let r := (out.1.pendingRequests.valueFor frameNumber).getD r
      let removed := (out.1.store frameNumber { r with pendingBuffers := [] })
        |>.removePendingRequestLocked frameNumber
      (removed.1,called++sent.2++out.2++removed.2)

def notifyError (s : PendingRequests M) (errorCode : ErrorCode) (frameNumber : Nat) :
    PendingRequests M × List (ResultEvent M) :=
  let perFrame (code : CameraErrorCode) : PendingRequests M × List (ResultEvent M) :=
    let marked := match s.pendingRequests.valueFor frameNumber with
      | some r => (s.store frameNumber { r with status := some errorCode },r.resultExtras)
      | none => (s,bareExtras frameNumber)
    (marked.1,if s.flushOnGoing=false ∧ s.errorCb then [.errorCb code marked.2] else [])
  match errorCode with
  | .ERROR_DEVICE => (s,[.setErr .seriousDeviceError])
  | .ERROR_REQUEST => perFrame .ERROR_CAMERA_REQUEST
  | .ERROR_RESULT => perFrame .ERROR_CAMERA_RESULT
  | .ERROR_BUFFER => perFrame .ERROR_CAMERA_BUFFER
  | .other code => (s,[.setErr (.unknownErrorMessage (.other code))])

/-- The read of the result's bytes from the metadata queue. -/
def readResultMetadata (s : PendingRequests M) (size : Nat) :
    Except SetError (PendingRequests M × List UInt8) :=
  if size=0 then .ok (s,[])
  else
    match s.resultMetadataQueue with
    | none => .error .resultMetadataQueueNull
    | some bytes =>
      if bytes.length < size then .error .readOperationFailed
      else .ok ({ s with resultMetadataQueue := some (bytes.drop size) },bytes.take size)

/-- The block of HandleCaptureResult on partial metadata: the entry, whether the result is a
partial one, and the callback. -/
def composePartial (s : PendingRequests M) (r : PendingRequest M) (result : CaptureResult) :
    Except SetError (PendingRequest M × Bool × List (ResultEvent M)) :=
  if s.isPartialResultSupported ∧ result.result≠[] then
    if s.partialResultCount < result.partialResult ∨ result.partialResult<1 then
      .error (.partialResultOutOfRange result.frameNumber result.partialResult
        s.partialResultCount)
    else if result.partialResult < s.partialResultCount then
      let composed := CameraMetadata.appendRaw CameraMetadata.empty result.result
      let told := s.handlePartialResult result.frameNumber composed r.resultExtras
      .ok ({ r with composedResult := composed,partial3AReceived := told.1 },true,told.2)
    else .ok (r,false,[])
  else .ok (r,false,[])

/-- The final metadata arrives: the partial results collected so far leave the entry. -/
def acceptMetadata (s : PendingRequests M) (r : PendingRequest M) : PendingRequest M × M :=
  if s.isPartialResultSupported ∧ CameraMetadata.isEmpty r.composedResult=false then
    ({ r with isMetaPresent := true,composedResult := CameraMetadata.empty },r.composedResult)
  else ({ r with isMetaPresent := true },CameraMetadata.empty)

/-- From the buffer count on: hold or send, return the buffers, try to remove the entry. -/
def deliverResult (s : PendingRequests M) (r : PendingRequest M) (collected : M)
    (result : CaptureResult) (resultMetadata : List UInt8) (isFinal : Bool) :
    PendingRequests M × List (ResultEvent M) :=
  let frameNumber := result.frameNumber
  let stored := s.store frameNumber
    ((r.noteSensorTimestamp result).hold result resultMetadata isFinal collected)
  let sent := if isFinal ∧ r.shutterTS≠0 then
      stored.sendCaptureResult (CameraMetadata.ofRaw resultMetadata) r.resultExtras collected
        frameNumber
    else (stored,[])
  let out := if 0 < r.shutterTS then
      sent.1.returnOutputBuffers result.outputBuffers r.shutterTS frameNumber
    else (sent.1,[])
  let removed := out.1.removePendingRequestLocked frameNumber
  (removed.1,sent.2++out.2++removed.2)

/-- HandleCaptureResult for a frame with an entry. -/
def processResult (s : PendingRequests M) (request : PendingRequest M) (result : CaptureResult)
    (resultMetadata : List UInt8) : PendingRequests M × List (ResultEvent M) :=
  let frameNumber := result.frameNumber
  let r := request.notePartialCount result
  match s.composePartial r result with
  | .error e => (s.store frameNumber r,[.setErr e])
  | .ok (r,isPartialResult,told) =>
    let isFinal := decide (result.result≠[]) && !isPartialResult
    if isFinal ∧ r.isMetaPresent then
      (s.store frameNumber r,told++[.setErr (.calledSeveralTimesWithMeta frameNumber)])
    else
      let accepted := if isFinal then s.acceptMetadata r else (r,CameraMetadata.empty)
      let r := accepted.1.countBuffers result
      if r.buffersRemaining<0 then
        (s.store frameNumber r,told++[.setErr (.tooManyBuffers frameNumber)])
      else
        let delivered := s.deliverResult r accepted.2 result resultMetadata isFinal
        (delivered.1,told++delivered.2)

def handleCaptureResult (s : PendingRequests M) (result : CaptureResult) :
    PendingRequests M × List (ResultEvent M) :=
  if result.result=[] ∧ result.outputBuffers=[] then (s,[])
  else if s.isPartialResultSupported=false ∧ result.result≠[] ∧ result.partialResult≠1 then
    (s,[.setErr (.partialResultUnsupported result.frameNumber result.partialResult)])
  else
    match s.readResultMetadata result.fmqResultSize with
    | .error e => (s,[.setErr e])
    | .ok (s,resultMetadata) =>
      match s.pendingRequests.valueFor result.frameNumber with
      | some request => s.processResult request result resultMetadata
      | none =>
        if (s.pendingErrorRequests.valueFor result.frameNumber).isSome then
          ({ s with pendingErrorRequests :=
              s.pendingErrorRequests.removeItem result.frameNumber },[])
        else (s,[.setErr (.invalidFrameNumber result.frameNumber)])

end PendingRequests
/-- A metadata pack small enough to evaluate: one value a tag, and a raw buffer holds a sensor
timestamp. -/
structure PlainMetadata where
  entries : List (MetadataTag × Int)
  deriving DecidableEq

namespace PlainMetadata

def ofRaw : List UInt8 → List (MetadataTag × Int)
  | [] => []
  | b::_ => [(.ANDROID_SENSOR_TIMESTAMP,b.toNat)]

def values (entries : List (MetadataTag × Int)) (tag : MetadataTag) : List Int :=
  (entries.filter fun e => e.1=tag).map Prod.snd

instance : CameraMetadata PlainMetadata where
  empty := ⟨[]⟩
  isEmpty m := m.entries.isEmpty
  ofRaw raw := ⟨ofRaw raw⟩
  append m n := ⟨m.entries++n.entries⟩
  appendRaw m raw := ⟨m.entries++ofRaw raw⟩
  update m tag value := some ⟨m.entries.filter (fun e => e.1≠tag)++[(tag,value)]⟩
  sort m := m
  find m tag := values m.entries tag
  findRaw raw tag := if raw=[] then none else
    match values (ofRaw raw) tag with
    | [] => none
    | v => some v

end PlainMetadata

/-- A client with every callback installed and no partial results, before any request. -/
def PendingRequests.plain : PendingRequests PlainMetadata where
  pendingRequests := KeyedVector.empty
  pendingErrorRequests := KeyedVector.empty
  nextShutterFrameNumber := 0
  nextShutterInputFrameNumber := 0
  nextResultFrameNumber := 0
  nextResultInputFrameNumber := 0
  partialResultCount := 1
  isPartialResultSupported := false
  flushOnGoing := false
  resultMetadataQueue := some []
  shutterCb := true
  resultCb := true
  errorCb := true

end IotMedia.Camera

import IotMedia.Camera.DeviceClient
import Mathlib.Data.List.Sort

namespace IotMedia.Camera

open IotMedia.Framework

def EINTR : Int := 4

/-- The entries of a request's metadata that SubmitRequestList writes and reads back. -/
inductive RequestTag
  | ANDROID_REQUEST_INPUT_STREAMS
  | ANDROID_REQUEST_OUTPUT_STREAMS
  | ANDROID_REQUEST_ID
  deriving DecidableEq

/-- What of the metadata library these entries go by; a search for an entry that is missing answers
`none`. -/
class RequestMetadata (M : Type) extends CameraMetadata M where
  updateEntry : M → RequestTag → List Int → M
  findEntry : M → RequestTag → Option (List Int)
  erase : M → RequestTag → M

/-- As documented: what is updated is found, and the entries do not disturb each other. -/
class LawfulRequestMetadata (M : Type) [RequestMetadata M] : Prop where
  find_update : ∀ (m : M) tag vs,
    RequestMetadata.findEntry (RequestMetadata.updateEntry m tag vs) tag=some vs
  find_update_ne : ∀ (m : M) tag vs other,other≠tag →
    RequestMetadata.findEntry (RequestMetadata.updateEntry m tag vs) other=
      RequestMetadata.findEntry m other
  find_erase_ne : ∀ (m : M) tag other,other≠tag →
    RequestMetadata.findEntry (RequestMetadata.erase m tag) other=RequestMetadata.findEntry m other

open RequestMetadata

structure Camera3Request (M : Type) where
  metadata : M
  streamIds : List Int

/-- A call ends before its time: with an error, or with the process, where KeyedVector::valueFor
has no such key or editValueAt a negative index. -/
inductive Stop
  | fault
  | error (res : Int)
  deriving DecidableEq

/-- The client with the fields of its submissions. -/
structure SubmitClient (M : Type) where
  client : DeviceClient M
  reprocRequests : List (CaptureRequest M)
  nextRequestId : Int
  repeatingRequests : List Int

/-- What a submission meets; `worker` says whether the reprocess thread is there or can be started. -/
structure SubmitListEnv (M : Type) extends ClientEnv M where
  worker : Bool

/-- GenerateCaptureRequestLocked, GetRequestListLocked: the result, the client, and what was
generated. -/
structure Generated (M α : Type) where
  res : Int
  client : DeviceClient M
  value : α

namespace DeviceClient

variable {M : Type} [RequestMetadata M]

/-- The inner loop of SubmitRequestList, from the `i`-th of the sorted ids on. -/
def checkStreamIds (c : DeviceClient M) (metadata : M) (inputStreamIdx : Option Nat) (prevId : Int) :
    Nat → List Int → Except Stop (M × Option Nat)
  | _,[] => .ok (metadata,inputStreamIdx)
  | i,id::ids =>
    if c.inputStream.streamId=id then
      checkStreamIds c (updateEntry metadata .ANDROID_REQUEST_INPUT_STREAMS [id]) (some i) prevId
        (i+1) ids
    else
      match c.streams.valueFor id with
      | none => .error .fault
      | some _ =>
        if prevId=id then .error (.error (-EINVAL))
        else checkStreamIds c metadata inputStreamIdx id (i+1) ids

/-- The sorted ids without the place at which the input stream was found last. -/
def outputIds (sorted : List Int) : Option Nat → List Int
  | some k => sorted.eraseIdx k
  | none => sorted

/-- One round of the loop of SubmitRequestList: the metadata that goes into metadataRequestList. -/
def checkRequest (c : DeviceClient M) (request : Camera3Request M) (tempRequestId : Int) :
    Except Stop M :=
  if CameraMetadata.isEmpty request.metadata then .error (.error (-EINVAL))
  else if request.streamIds=[] then .error (.error (-EINVAL))
  else
    let sorted := request.streamIds.insertionSort (· ≤ ·)
    match c.checkStreamIds request.metadata none (-1) 0 sorted with
    | .error stop => .error stop
    | .ok (metadata,inputStreamIdx) =>
      .ok (updateEntry (updateEntry metadata .ANDROID_REQUEST_OUTPUT_STREAMS
        (outputIds sorted inputStreamIdx)) .ANDROID_REQUEST_ID [tempRequestId])

def checkRequests (c : DeviceClient M) : Int → List (Camera3Request M) → Except Stop (List M)
  | _,[] => .ok []
  | tempRequestId,request::requests =>
    match c.checkRequest request tempRequestId with
    | .error stop => .error stop
    | .ok metadata =>
      match c.checkRequests (tempRequestId+1) requests with
      | .error stop => .error stop
      | .ok rest => .ok (metadata::rest)

section Generate

variable (u : BufferUsage)

/-- The first block of GenerateCaptureRequestLocked. -/
def configureIfDue (c : DeviceClient M) (env : ClientEnv M) : Int × DeviceClient M :=
  if c.state=.NOT_CONFIGURED ∨ c.reconfig then
    let configured := configureStreamsLocked u c env
    if configured.ret= -EINVAL ∧ configured.client.state=.NOT_CONFIGURED then
      (-EINVAL,configured.client)
    else if configured.ret≠0 then (configured.ret,configured.client)
    else if configured.client.state=.NOT_CONFIGURED then (-ENODEV,configured.client)
    else (0,configured.client)
  else (0,c)

/-- The loop of GenerateCaptureRequestLocked over the output streams, with those it pushed. -/
def pushStreams (acquired : Int → Int) : DeviceClient M → List Int → Generated M (List Int)
  | c,[] => ⟨0,c,[]⟩
  | c,id::ids =>
    match c.streams.valueFor id with
    | none => ⟨-EINVAL,c,[]⟩
    | some s =>
      let ended := endStream u acquired id s
      let c := { c with streams := c.streams.replaceValueFor id ended.2.1 }
      if ended.1≠0 then ⟨-ENODEV,c,[]⟩
      else if ended.2.1.status=.prepareActive then ⟨-ENOSYS,c,[]⟩
      else
        let rest := pushStreams acquired c ids
        ⟨rest.res,rest.client,id::rest.value⟩

/-- The last block of GenerateCaptureRequestLocked: whether the request has the input stream. -/
def inputOf (c : DeviceClient M) (metadata : M) : Except Int Bool :=
  match findEntry metadata .ANDROID_REQUEST_INPUT_STREAMS with
  | none => .ok false
  | some [id] => if c.inputStream.streamId=id then .ok true else .error (-ENOSYS)
  | some _ => .error (-ENOSYS)

def generateCaptureRequestLocked (c : DeviceClient M) (env : ClientEnv M) (request : M) :
    Generated M (Option (CaptureRequest M)) :=
  let due := configureIfDue u c env
  if due.1≠0 then ⟨due.1,due.2,none⟩
  else
    match findEntry request .ANDROID_REQUEST_OUTPUT_STREAMS with
    | none | some [] => ⟨-EINVAL,due.2,none⟩
    | some (id::ids) =>
      let pushed := pushStreams u env.acquired due.2 (id::ids)
      if pushed.res≠0 then ⟨pushed.res,pushed.client,none⟩
      else
        let metadata := erase request .ANDROID_REQUEST_OUTPUT_STREAMS
        match pushed.client.inputOf metadata with
        | .error res => ⟨res,pushed.client,none⟩
        | .ok input => ⟨0,pushed.client,some
          ⟨if input then erase metadata .ANDROID_REQUEST_INPUT_STREAMS else metadata,
            pushed.value,⟨-1,0,0,0,input⟩,input⟩⟩

/-- GetRequestListLocked, with the requests of requestList and requestListReproc in one list. -/
def getRequestListLocked (env : ClientEnv M) :
    DeviceClient M → Nat → List M → Generated M (List (CaptureRequest M))
  | c,_,[] => ⟨0,c,[]⟩
  | c,burstId,metadata::metadataList =>
    let generated := generateCaptureRequestLocked u c env metadata
    match generated.value with
    | none => ⟨-EINVAL,generated.client,[]⟩
    | some newRequest =>
      match findEntry metadata .ANDROID_REQUEST_ID with
      | none | some [] => ⟨-EINVAL,generated.client,[]⟩
      | some (requestId::_) =>
        let rest := getRequestListLocked env generated.client (burstId+1) metadataList
        ⟨rest.res,rest.client,{ newRequest with
          resultExtras := { newRequest.resultExtras with
            requestId := requestId
            burstId := burstId } }::rest.value⟩

section Rule

/-! GetRequestListLocked changes the client by configurations and by EndConfigure of a stream. -/

variable {u} {env : ClientEnv M} {P : DeviceClient M → Prop}
  (configure : ∀ c : DeviceClient M,P c → P (configureStreamsLocked u c env).client)
  (finish : ∀ (c : DeviceClient M) id s,P c → c.streams.valueFor id=some s →
    P { c with streams := c.streams.replaceValueFor id (endStream u env.acquired id s).2.1 })
include configure

omit [RequestMetadata M] in
theorem configureIfDue_rule {c : DeviceClient M} (h : P c) : P (configureIfDue u c env).2 := by
  have configured := configure c h
  unfold configureIfDue
  dsimp only
  split_ifs
  · exact configured
  · exact configured
  · exact configured
  · exact configured
  · exact h

include finish

omit [RequestMetadata M] configure in
theorem pushStreams_rule (ids : List Int) {c : DeviceClient M} (h : P c) :
    P (pushStreams u env.acquired c ids).client := by
  induction ids generalizing c with
  | nil => exact h
  | cons id ids ih =>
    rw [pushStreams]
    split
    · exact h
    next s found =>
      have ended := finish c id s h found
      dsimp only
      split_ifs
      · exact ended
      · exact ended
      · exact ih ended

theorem generate_rule {c : DeviceClient M} (h : P c) (m : M) :
    P (generateCaptureRequestLocked u c env m).client := by
  have due := configureIfDue_rule configure h
  unfold generateCaptureRequestLocked
  dsimp only
  split_ifs
  · exact due
  split
  · exact due
  · exact due
  next k ids _ =>
    have pushed := pushStreams_rule finish (k::ids) due
    split_ifs
    · exact pushed
    · split
      · exact pushed
      · exact pushed

theorem getRequestList_rule (ms : List M) {c : DeviceClient M} (h : P c) (burstId : Nat) :
    P (getRequestListLocked u env c burstId ms).client := by
  induction ms generalizing c burstId with
  | nil => exact h
  | cons m ms ih =>
    have first := generate_rule configure finish h m
    rw [getRequestListLocked]
    dsimp only
    split
    · exact first
    · split
      · exact first
      · exact first
      · exact ih first _

end Rule

section Named

/-! A request names only streams of streams_. -/

variable {u} {env : ClientEnv M} {acquired : Int → Int} {c : DeviceClient M}

omit [RequestMetadata M] in
theorem pushStreams_named (ids : List Int) {id : Int}
    (h : id∈(pushStreams u acquired c ids).value) : id∈c.streams.keys := by
  induction ids generalizing c with
  | nil => cases h
  | cons k ids ih =>
    rw [pushStreams] at h
    split at h
    · cases h
    next s found =>
      dsimp only at h
      split_ifs at h
      · cases h
      · cases h
      · rcases List.mem_cons.mp h with rfl|later
        · exact (KeyedVector.mem_keys_iff _ _).mpr ⟨s,found⟩
        · simpa using ih later

end Named

end Generate
end DeviceClient

namespace SubmitClient

variable {M : Type} [RequestMetadata M] (u : BufferUsage)

/-- QueueReprocRequestList. -/
def queueReprocRequestList (s : SubmitClient M) (requests : List (CaptureRequest M)) :
    SubmitClient M :=
  { s with
    client := { s.client with handler := s.client.handler.resume.1 }
    reprocRequests := s.reprocRequests++requests }

/-- AddRequestListLocked; its wait for STATE_RUNNING has no result. -/
def addRequestListLocked (s : SubmitClient M) (env : SubmitListEnv M) (requests : List M)
    (streaming : Bool) : Int × SubmitClient M :=
  let got := DeviceClient.getRequestListLocked u env.toClientEnv s.client 0 requests
  let s := { s with client := got.client }
  if got.res≠0 then (got.res,s)
  else
    let requestList := got.value.filter fun r => !r.input
    let requestListReproc := got.value.filter fun r => r.input
    if requestList.isEmpty=requestListReproc.isEmpty then (-EINVAL,s)
    else if requestListReproc≠[] ∧ env.worker=false then (-EINTR,s)
    else
      let s := if requestListReproc≠[] then s.queueReprocRequestList requestListReproc
        else { s with client := { s.client with
          handler := if streaming then (s.client.handler.setRepeatingRequests requestList).1
            else (s.client.handler.queueRequestList requestList).1 } }
      (0,{ s with client := (s.client.waitUntilStateThenRelock true env.running).2 })

/-- SubmitRequestList. -/
def submitRequestList (s : SubmitClient M) (env : SubmitListEnv M)
    (requests : List (Camera3Request M)) (streaming : Bool) : Except Stop Int × SubmitClient M :=
  if requests=[] then (.ok (-EINVAL),s)
  else
    match s.client.state with
    | .ERROR | .NOT_INITIALIZED | .CLOSED => (.ok (-ENOSYS),s)
    | .NOT_CONFIGURED | .CONFIGURED | .RUNNING =>
      let requestId := s.nextRequestId
      match s.client.checkRequests requestId requests with
      | .error .fault => (.error .fault,s)
      | .error (.error res) => (.ok res,s)
      | .ok metadataRequestList =>
        let s := { s with nextRequestId := requestId+requests.length }
        let added := s.addRequestListLocked u env metadataRequestList streaming
        if added.1≠(0 : Int) then (.ok added.1,added.2)
        else (.ok requestId,{ added.2 with
          repeatingRequests := if streaming then added.2.repeatingRequests++[requestId]
            else added.2.repeatingRequests })

end SubmitClient
end IotMedia.Camera

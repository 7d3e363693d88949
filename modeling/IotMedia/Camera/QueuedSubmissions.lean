import IotMedia.Camera.StreamRemovals
import IotMedia.Camera.UnknownStreams

namespace IotMedia.Camera

open IotMedia.Framework RequestMetadata

/-- SubmitRequestList up to its wait for STATE_RUNNING, and whether it gets there. -/
structure QueuedSubmission (M : Type) where
  ret : Except Stop Int
  submit : SubmitClient M
  waits : Bool

namespace SubmitClient

variable {M : Type} [RequestMetadata M] (u : BufferUsage)

/-- AddRequestListLocked up to its wait. -/
def queueRequests (s : SubmitClient M) (env : SubmitListEnv M) (requests : List M)
    (streaming : Bool) : Int × SubmitClient M :=
  let got := DeviceClient.getRequestListLocked u env.toClientEnv s.client 0 requests
  let s := { s with client := got.client }
  if got.res≠0 then (got.res,s)
  else
    let requestList := got.value.filter fun r => !r.input
    let requestListReproc := got.value.filter fun r => r.input
    if requestList.isEmpty=requestListReproc.isEmpty then (-EINVAL,s)
    else if requestListReproc≠[] ∧ env.worker=false then (-EINTR,s)
    else (0,if requestListReproc≠[] then s.queueReprocRequestList requestListReproc
      else { s with client := { s.client with
        handler := if streaming then (s.client.handler.setRepeatingRequests requestList).1
          else (s.client.handler.queueRequestList requestList).1 } })

def queueSubmission (s : SubmitClient M) (env : SubmitListEnv M)
    (requests : List (Camera3Request M)) (streaming : Bool) : QueuedSubmission M :=
  if requests=[] then ⟨.ok (-EINVAL),s,false⟩
  else
    match s.client.state with
    | .ERROR | .NOT_INITIALIZED | .CLOSED => ⟨.ok (-ENOSYS),s,false⟩
    | .NOT_CONFIGURED | .CONFIGURED | .RUNNING =>
      match s.client.checkRequests s.nextRequestId requests with
      | .error .fault => ⟨.error .fault,s,false⟩
      | .error (.error res) => ⟨.ok res,s,false⟩
      | .ok metadataRequestList =>
        let numbered := { s with nextRequestId := s.nextRequestId+requests.length }
        let queued := numbered.queueRequests u env metadataRequestList streaming
        if queued.1≠(0 : Int) then ⟨.ok queued.1,queued.2,false⟩
        else ⟨.ok s.nextRequestId,{ queued.2 with
          repeatingRequests := if streaming then queued.2.repeatingRequests++[s.nextRequestId]
            else queued.2.repeatingRequests },true⟩

/-- The client at the end of the wait. -/
def running (s : SubmitClient M) (env : SubmitListEnv M) : SubmitClient M :=
  { s with client := (s.client.waitUntilStateThenRelock true env.running).2 }

theorem addRequestListLocked_queued (s : SubmitClient M) (env : SubmitListEnv M)
    (requests : List M) (streaming : Bool) : s.addRequestListLocked u env requests streaming=
      if (s.queueRequests u env requests streaming).1=0
      then (0,(s.queueRequests u env requests streaming).2.running env)
      else s.queueRequests u env requests streaming := by
  have negative : ¬(-EINVAL : Int)=0 ∧ ¬(-EINTR : Int)=0 := by decide
  unfold addRequestListLocked queueRequests
  generalize DeviceClient.getRequestListLocked u env.toClientEnv s.client 0 requests=got
  dsimp only
  by_cases failed : got.res≠0
  · rw [if_pos failed,if_pos failed,if_neg failed]
  rw [if_neg failed,if_neg failed]
  by_cases invalid : (got.value.filter fun r => !r.input).isEmpty=
      (got.value.filter fun r => r.input).isEmpty
  · rw [if_pos invalid,if_pos invalid,if_neg negative.1]
  rw [if_neg invalid,if_neg invalid]
  by_cases stopped : (got.value.filter fun r => r.input)≠[] ∧ env.worker=false
  · rw [if_pos stopped,if_pos stopped,if_neg negative.2]
  · rw [if_neg stopped,if_neg stopped,if_pos rfl,running]

theorem submitRequestList_queued (s : SubmitClient M) (env : SubmitListEnv M)
    (requests : List (Camera3Request M)) (streaming : Bool) :
    s.submitRequestList u env requests streaming=
      ((s.queueSubmission u env requests streaming).ret,
        if (s.queueSubmission u env requests streaming).waits
        then (s.queueSubmission u env requests streaming).submit.running env
        else (s.queueSubmission u env requests streaming).submit) := by
  unfold submitRequestList queueSubmission
  by_cases none : requests=[]
  · simp [none]
  rw [if_neg none,if_neg none]
  cases s.client.state with
  | ERROR | NOT_INITIALIZED | CLOSED => rfl
  | NOT_CONFIGURED | CONFIGURED | RUNNING =>
    dsimp only
    cases s.client.checkRequests s.nextRequestId requests with
    | error stop => cases stop <;> rfl
    | ok metadataRequestList =>
      dsimp only
      rw [addRequestListLocked_queued]
      by_cases queued : (({ s with nextRequestId := s.nextRequestId+requests.length } :
          SubmitClient M).queueRequests u env metadataRequestList streaming).1=0
      · simp [queued,running]
      · simp [queued]

end SubmitClient

namespace DeviceClient

variable {M : Type} [RequestMetadata M] {u : BufferUsage} {env : ClientEnv M} {c : DeviceClient M}
  {q : CaptureRequest M}

/-- A request that is generated names only streams of streams_. -/
theorem generate_named {m : M}
    (h : (generateCaptureRequestLocked u c env m).value=some q) :
    ∀ id∈q.streams,id∈c.streams.keys := by
  have due := (configureIfDue_kept u c env).streams
  unfold generateCaptureRequestLocked at h
  dsimp only at h
  split_ifs at h
  split at h
  · cases h
  · cases h
  next k ids _ =>
    split_ifs at h
    split at h
    · cases h
    · cases Option.some.inj h
      intro id hid
      rw [← due]
      exact pushStreams_named (k::ids) hid

theorem getRequestList_named (ms : List M) (burstId : Nat)
    (h : q∈(getRequestListLocked u env c burstId ms).value) : ∀ id∈q.streams,id∈c.streams.keys := by
  induction ms generalizing c burstId with
  | nil => cases h
  | cons m ms ih =>
    have kept := (generate_kept u env c m).streams
    rw [getRequestListLocked] at h
    dsimp only at h
    split at h
    · cases h
    next r value =>
      split at h
      · cases h
      · cases h
      · rcases List.mem_cons.mp h with rfl|later
        · exact generate_named (q := r) value
        · rw [← kept]
          exact ih (burstId+1) later

omit [RequestMetadata M] in
theorem Consistent.configure (h : c.Consistent) (u : BufferUsage) (env : ClientEnv M) :
    (c.configureStreamsLocked u env).client.Consistent := by
  have kept := (configure_kept u c env).streams
  exact h.congr (h.keyed.configure u env) (by rw [kept]; exact fun _ found => found)
    (configure_work u c env)

theorem getRequestList_consistent (u : BufferUsage) (env : ClientEnv M) (c : DeviceClient M)
    (ms : List M) (burstId : Nat) :
    (c.Consistent → (getRequestListLocked u env c burstId ms).client.Consistent) ∧
    (getRequestListLocked u env c burstId ms).client.handler.work=c.handler.work := by
  constructor
  · intro h
    refine getRequestList_rule (fun c h => h.configure u env) ?_ ms h burstId
    intro c id s h found
    have own : s.id=id := KeyedVector.each_iff.mp h.keyed id s found
    have keyed := KeyedVector.Each.replaceValueFor h.keyed
      (v := (endStream u env.acquired id s).2.1) fun _ _ => (endStream_id u env.acquired id s).trans own
    exact h.congr keyed (by simp) rfl
  · refine getRequestList_rule (P := fun d => d.handler.work=c.handler.work) ?_ ?_ ms rfl burstId
    · exact fun d h => (configure_work u d env).trans h
    · exact fun _ _ _ h _ => h

end DeviceClient

namespace SubmitClient

variable {M : Type} [RequestMetadata M] {u : BufferUsage} {s : SubmitClient M}

/-- What a submission leaves: streams_ has the same keys, and what is queued names only these. -/
structure Submits (c c' : DeviceClient M) : Prop where
  keys : c'.streams.keys=c.streams.keys
  current : c'.handler.currentRequest=c.handler.currentRequest
  consistent : c.Consistent → c'.Consistent

omit [RequestMetadata M] in
theorem Submits.handler {c d : DeviceClient M} (h : Submits c d) {handler : RequestHandler M}
    (current : handler.currentRequest=d.handler.currentRequest)
    (named : ∀ id∉d.streams.keys,GuardWorld.Unnamed id d.handler →
      GuardWorld.Unnamed id handler) : Submits c { d with handler := handler } :=
  ⟨h.keys,current.trans h.current,fun hc => ⟨(h.consistent hc).keyed,
    fun id missing => named id missing ((h.consistent hc).named id missing)⟩⟩

theorem queueRequests_submits (s : SubmitClient M) (env : SubmitListEnv M) (ms : List M)
    (streaming : Bool) : Submits s.client (s.queueRequests u env ms streaming).2.client := by
  have kept := (DeviceClient.getRequestList_kept u env.toClientEnv ms s.client 0).streams
  obtain ⟨consistent,work⟩ :=
    DeviceClient.getRequestList_consistent u env.toClientEnv s.client ms 0
  have named : ∀ q∈(DeviceClient.getRequestListLocked u env.toClientEnv s.client 0 ms).value,
      ∀ id∈q.streams,id∈s.client.streams.keys :=
    fun q hq => DeviceClient.getRequestList_named ms 0 hq
  unfold queueRequests
  revert kept consistent work named
  generalize DeviceClient.getRequestListLocked u env.toClientEnv s.client 0 ms=got
  intro kept consistent work named
  have generated : Submits s.client got.client :=
    ⟨kept,congrArg Prod.fst work,consistent⟩
  have spares (id : Int) (missing : id∉got.client.streams.keys) :
      ∀ q∈got.value.filter (fun r => !r.input),id∉q.streams := by
    intro q hq hid
    rw [kept] at missing
    exact missing (named q (List.mem_of_mem_filter hq) id hid)
  dsimp only
  split_ifs
  · exact generated
  · exact generated
  · exact generated
  · obtain ⟨paused,same⟩ := RequestHandler.resume_eq got.client.handler
    refine generated.handler ?_ ?_
    · rw [same]
    · intro id _ unnamed
      rw [same]
      exact unnamed
  · obtain ⟨paused,same⟩ := RequestHandler.resume_eq { got.client.handler with
      streamingRequests := got.value.filter fun r => !r.input }
    refine generated.handler ?_ ?_
    · rw [RequestHandler.setRepeatingRequests,same]
    · intro id missing unnamed
      rw [RequestHandler.setRepeatingRequests,same]
      exact ⟨unnamed.1,unnamed.2.1,spares id missing⟩
  · obtain ⟨paused,same⟩ := RequestHandler.resume_eq { got.client.handler with
      requests := got.client.handler.requests++got.value.filter fun r => !r.input }
    refine generated.handler ?_ ?_
    · rw [RequestHandler.queueRequestList,same]
    · intro id missing unnamed
      rw [RequestHandler.queueRequestList,same]
      refine ⟨unnamed.1,?_,unnamed.2.2⟩
      intro q hq
      rcases List.mem_append.mp hq with old|new
      · exact unnamed.2.1 q old
      · exact spares id missing q new

theorem queueSubmission_submits (s : SubmitClient M) (env : SubmitListEnv M)
    (requests : List (Camera3Request M)) (streaming : Bool) :
    Submits s.client (s.queueSubmission u env requests streaming).submit.client := by
  have same : Submits s.client s.client := ⟨rfl,rfl,fun h => h⟩
  unfold queueSubmission
  by_cases none : requests=[]
  · rw [if_pos none]
    exact same
  rw [if_neg none]
  cases s.client.state with
  | ERROR | NOT_INITIALIZED | CLOSED => exact same
  | NOT_CONFIGURED | CONFIGURED | RUNNING =>
    dsimp only
    cases s.client.checkRequests s.nextRequestId requests with
    | error stop =>
      cases stop with
      | fault => exact same
      | error res => exact same
    | ok ms =>
      have queued := queueRequests_submits (u := u)
        { s with nextRequestId := s.nextRequestId+requests.length } env ms streaming
      dsimp only
      split_ifs
      · exact queued
      · exact queued
      · exact queued

end SubmitClient
end IotMedia.Camera

import IotMedia.Camera.RequestIds

namespace IotMedia.Camera

open IotMedia.Framework RequestMetadata

/-- As documented besides: an entry that is erased is gone, with all that was written to it. -/
class ErasableMetadata (M : Type) [RequestMetadata M] : Prop extends LawfulRequestMetadata M where
  find_erase : ∀ (m : M) tag,findEntry (erase m tag) tag=none
  erase_update : ∀ (m : M) tag vs other ws,other≠tag →
    erase (updateEntry (updateEntry m tag vs) other ws) tag=erase (updateEntry m other ws) tag

section Sorted

/-! Sorted ids are distinct if neighbours are. -/

theorem notMem_of_head {id : Int} {ids : List Int} (sorted : (id::ids).Pairwise (· ≤ ·))
    (head : ids.head?≠some id) : id∉ids := by
  intro named
  obtain ⟨le,rest⟩ := List.pairwise_cons.mp sorted
  cases ids with
  | nil => cases named
  | cons k ids =>
    have first := le k List.mem_cons_self
    have above : k ≤ id := by
      rcases List.mem_cons.mp named with same|later
      · exact same.ge
      · exact (List.pairwise_cons.mp rest).1 id later
    exact head (by rw [List.head?_cons,le_antisymm above first])

end Sorted

namespace DeviceClient

variable {M : Type} [RequestMetadata M] {u : BufferUsage} {env : ClientEnv M} {c : DeviceClient M}

/-- The request names output streams of the client only, and has no entry for an input stream. -/
structure OutputRequest (c : DeviceClient M) (r : Camera3Request M) : Prop where
  registered : ∀ id∈r.streamIds,id∈c.streams.keys ∧ id≠c.inputStream.streamId
  untagged : findEntry r.metadata .ANDROID_REQUEST_INPUT_STREAMS=none

/-- The ids of output streams are accepted as they are, or two neighbours are the same. -/
theorem checkStreamIds_outputs (m : M) (prev : Int) (i : Nat) {ids : List Int}
    (sorted : ids.Pairwise (· ≤ ·))
    (registered : ∀ id∈ids,id∈c.streams.keys ∧ id≠c.inputStream.streamId) :
    c.checkStreamIds m none prev i ids=.ok (m,none) ∧ ids.head?≠some prev ∧ ids.Nodup ∨
    c.checkStreamIds m none prev i ids=.error (.error (-EINVAL)) := by
  induction ids generalizing prev i with
  | nil => exact Or.inl ⟨rfl,by simp,List.nodup_nil⟩
  | cons id ids ih =>
    obtain ⟨key,output⟩ := registered id List.mem_cons_self
    obtain ⟨stream,found⟩ := (KeyedVector.mem_keys_iff _ _).mp key
    rw [checkStreamIds,if_neg (Ne.symm output),found]
    dsimp only
    by_cases twice : prev=id
    · rw [if_pos twice]
      exact Or.inr rfl
    rw [if_neg twice]
    rcases ih id (i+1) (List.pairwise_cons.mp sorted).2
      (fun k hk => registered k (List.mem_cons_of_mem id hk)) with ⟨fine,head,distinct⟩|bad
    · refine Or.inl ⟨fine,?_,List.nodup_cons.mpr ⟨notMem_of_head sorted head,distinct⟩⟩
      rw [List.head?_cons]
      exact fun same => twice (Option.some.inj same).symm
    · exact Or.inr bad

/-- What metadataRequestList gets for the request. -/
def listed (r : Camera3Request M) (requestId : Int) : M :=
  updateEntry (updateEntry r.metadata .ANDROID_REQUEST_OUTPUT_STREAMS
    (r.streamIds.insertionSort (· ≤ ·))) .ANDROID_REQUEST_ID [requestId]

theorem checkRequest_outputs {r : Camera3Request M} (hr : c.OutputRequest r) (k : Int) :
    c.checkRequest r k=.ok (listed r k) ∧ r.streamIds.Nodup ∧ r.streamIds≠[] ∨
    c.checkRequest r k=.error (.error (-EINVAL)) := by
  have order := List.perm_insertionSort (· ≤ ·) r.streamIds
  have registered : ∀ id∈r.streamIds.insertionSort (· ≤ ·),
      id∈c.streams.keys ∧ id≠c.inputStream.streamId :=
    fun id hid => hr.registered id (order.mem_iff.mp hid)
  unfold checkRequest
  by_cases empty : CameraMetadata.isEmpty r.metadata=true
  · rw [if_pos empty]
    exact Or.inr rfl
  rw [if_neg empty]
  by_cases none_ : r.streamIds=[]
  · rw [if_pos none_]
    exact Or.inr rfl
  rw [if_neg none_]
  dsimp only
  rcases checkStreamIds_outputs r.metadata (-1) 0 (List.pairwise_insertionSort _ _) registered with
    ⟨fine,-,distinct⟩|bad
  · rw [fine]
    exact Or.inl ⟨rfl,order.nodup_iff.mp distinct,none_⟩
  · rw [bad]
    exact Or.inr rfl

/-- The metadata of a list that begins with the id `k`. -/
def listedFrom (k : Int) : List (Camera3Request M) → List M
  | [] => []
  | r::rs => listed r k::listedFrom (k+1) rs

theorem checkRequests_outputs {requests : List (Camera3Request M)}
    (hr : ∀ r∈requests,c.OutputRequest r) (k : Int) :
    c.checkRequests k requests=.ok (listedFrom k requests) ∧
      (∀ r∈requests,r.streamIds.Nodup ∧ r.streamIds≠[]) ∨
    c.checkRequests k requests=.error (.error (-EINVAL)) := by
  induction requests generalizing k with
  | nil => exact Or.inl ⟨rfl,by simp⟩
  | cons r requests ih =>
    rw [checkRequests]
    rcases checkRequest_outputs (hr r List.mem_cons_self) k with ⟨fine,distinct⟩|bad
    · rw [fine]
      dsimp only
      rcases ih (fun q hq => hr q (List.mem_cons_of_mem r hq)) (k+1) with ⟨rest,others⟩|bad
      · rw [rest]
        refine Or.inl ⟨rfl,?_⟩
        intro q hq
        rcases List.mem_cons.mp hq with rfl|later
        · exact distinct
        · exact others q later
      · rw [bad]
        exact Or.inr rfl
    · rw [bad]
      exact Or.inr rfl

omit [RequestMetadata M] in
/-- Unless it fails the loop pushes every stream. -/
theorem pushStreams_all {acquired : Int → Int} (ids : List Int) {c : DeviceClient M}
    (fine : (pushStreams u acquired c ids).res=0) : (pushStreams u acquired c ids).value=ids := by
  have codes : ¬(-EINVAL : Int)=0 ∧ ¬(-ENODEV : Int)=0 ∧ ¬(-ENOSYS : Int)=0 := by decide
  induction ids generalizing c with
  | nil => rfl
  | cons id ids ih =>
    rw [pushStreams] at fine ⊢
    cases found : c.streams.valueFor id with
    | none =>
      rw [found] at fine
      exact absurd fine codes.1
    | some s =>
      rw [found] at fine
      dsimp only at fine ⊢
      split_ifs at fine ⊢
      · exact absurd fine codes.2.1
      · exact absurd fine codes.2.2
      · rw [ih fine]

/-- The capture request that stands for the `k`-th element of a list with the first id `id`. -/
structure StandsFor (id : Int) (r : Camera3Request M) (k : Nat) (q : CaptureRequest M) : Prop where
  requestId : q.resultExtras.requestId=id+k
  burstId : q.resultExtras.burstId=k
  output : q.input=false
  streams : q.streams.Perm r.streamIds
  metadata : q.metadata=
    erase (updateEntry r.metadata .ANDROID_REQUEST_ID [id+k]) .ANDROID_REQUEST_OUTPUT_STREAMS
  tagged : findEntry q.metadata .ANDROID_REQUEST_ID=some [id+k]
  erased : findEntry q.metadata .ANDROID_REQUEST_OUTPUT_STREAMS=none

variable [ErasableMetadata M]

omit [ErasableMetadata M] in
theorem StandsFor.outputs {id : Int} {ps : List (Camera3Request M × Nat)}
    {list : List (CaptureRequest M)}
    (h : List.Forall₂ (fun p q => StandsFor id p.1 p.2 q) ps list) : ∀ q∈list,q.input=false := by
  induction h with
  | nil => simp
  | cons first _ ih =>
    intro q hq
    rcases List.mem_cons.mp hq with rfl|later
    · exact first.output
    · exact ih q later

/-- The entries that GenerateCaptureRequestLocked and GetRequestListLocked read back. -/
theorem listed_entries (r : Camera3Request M) (k : Int)
    (untagged : findEntry r.metadata .ANDROID_REQUEST_INPUT_STREAMS=none) :
    findEntry (listed r k) .ANDROID_REQUEST_OUTPUT_STREAMS=
      some (r.streamIds.insertionSort (· ≤ ·)) ∧
    findEntry (listed r k) .ANDROID_REQUEST_ID=some [k] ∧
    findEntry (erase (listed r k) .ANDROID_REQUEST_OUTPUT_STREAMS)
      .ANDROID_REQUEST_INPUT_STREAMS=none := by
  unfold listed
  refine ⟨?_,LawfulRequestMetadata.find_update _ _ _,?_⟩
  · rw [LawfulRequestMetadata.find_update_ne _ _ _ _ (by decide),LawfulRequestMetadata.find_update]
  · rw [LawfulRequestMetadata.find_erase_ne _ _ _ (by decide),
      LawfulRequestMetadata.find_update_ne _ _ _ _ (by decide),
      LawfulRequestMetadata.find_update_ne _ _ _ _ (by decide),untagged]

/-- A request that is generated has all its streams and is for output. -/
theorem generate_listed {r : Camera3Request M} {k : Int} {q : CaptureRequest M}
    (untagged : findEntry r.metadata .ANDROID_REQUEST_INPUT_STREAMS=none)
    (done : (generateCaptureRequestLocked u c env (listed r k)).value=some q) :
    q.streams=r.streamIds.insertionSort (· ≤ ·) ∧ q.input=false ∧
      q.metadata=erase (listed r k) .ANDROID_REQUEST_OUTPUT_STREAMS := by
  obtain ⟨outputs,-,inputs⟩ := listed_entries r k untagged
  unfold generateCaptureRequestLocked at done
  dsimp only at done
  split_ifs at done
  rw [outputs] at done
  cases sorted : r.streamIds.insertionSort (· ≤ ·) with
  | nil =>
    rw [sorted] at done
    cases done
  | cons id ids =>
    rw [sorted] at done
    dsimp only at done
    split_ifs at done with failed
    have all := pushStreams_all (id::ids) (not_not.mp failed)
    rw [inputOf,inputs] at done
    dsimp only at done
    cases Option.some.inj done
    exact ⟨all,rfl,rfl⟩

/-- GetRequestListLocked makes one capture request of each element. -/
theorem getRequestList_listed {requests : List (Camera3Request M)} (id : Int) (k : Nat)
    {c : DeviceClient M}
    (untagged : ∀ r∈requests,findEntry r.metadata .ANDROID_REQUEST_INPUT_STREAMS=none)
    (fine : (getRequestListLocked u env c k (listedFrom (id+k) requests)).res=0) :
    List.Forall₂ (fun p q => StandsFor id p.1 p.2 q) (requests.zipIdx k)
      (getRequestListLocked u env c k (listedFrom (id+k) requests)).value := by
  induction requests generalizing k c with
  | nil => exact .nil
  | cons r requests ih =>
    have first := untagged r List.mem_cons_self
    rw [listedFrom,getRequestListLocked] at fine ⊢
    dsimp only at fine ⊢
    cases done : (generateCaptureRequestLocked u c env (listed r (id+k))).value with
    | none =>
      rw [done] at fine
      have failed : (-EINVAL : Int)=0 := fine
      exact absurd failed (by decide)
    | some q =>
      obtain ⟨streams,output,metadata⟩ := generate_listed first done
      have next : id+(k : Int)+1=id+(k+1 : Nat) := by omega
      rw [done] at fine
      rw [(listed_entries r (id+k) first).2.1,next] at fine ⊢
      dsimp only at fine ⊢
      rw [List.zipIdx_cons]
      have own : q.metadata=erase (updateEntry r.metadata .ANDROID_REQUEST_ID [id+k])
          .ANDROID_REQUEST_OUTPUT_STREAMS := by
        rw [metadata,listed,ErasableMetadata.erase_update _ _ _ _ _ (by decide)]
      refine .cons ⟨rfl,rfl,output,?_,own,?_,?_⟩
        (ih (k+1) (fun q hq => untagged q (List.mem_cons_of_mem r hq)) fine)
      · show q.streams.Perm r.streamIds
        rw [streams]
        exact List.perm_insertionSort _ _
      · show findEntry q.metadata _=_
        rw [own,LawfulRequestMetadata.find_erase_ne _ _ _ (by decide),
          LawfulRequestMetadata.find_update]
      · show findEntry q.metadata _=_
        rw [own,ErasableMetadata.find_erase]

end DeviceClient

namespace SubmitClient

variable {M : Type} [RequestMetadata M] {u : BufferUsage} {s t : SubmitClient M}
  {env : SubmitListEnv M} {requests : List (Camera3Request M)} {streaming : Bool}

/-- An id is returned for distinct streams, and where the call queues one capture request stands
for each element; with an error neither the queue nor the repeating list has changed. -/
structure AllOrNothing (u : BufferUsage) (s : SubmitClient M) (env : SubmitListEnv M)
    (requests : List (Camera3Request M)) (streaming : Bool) : Prop where
  accepted : ∀ id : Int,0 ≤ id → (s.submitRequestList u env requests streaming).1=.ok id →
    (∀ r∈requests,r.streamIds.Nodup) ∧
    ∃ queued : SubmitClient M,(s.submitRequestList u env requests streaming).2=queued.running env ∧
    ∃ list,List.Forall₂ (fun p q => DeviceClient.StandsFor id p.1 p.2 q) requests.zipIdx list ∧
      queued.client.handler.requests=
        s.client.handler.requests++(if streaming then [] else list) ∧
      queued.client.handler.streamingRequests=
        if streaming then list else s.client.handler.streamingRequests
  refused : ∀ res : Int,res<0 → (s.submitRequestList u env requests streaming).1=.ok res →
    (s.submitRequestList u env requests streaming).2.client.handler.requests=
      s.client.handler.requests ∧
    (s.submitRequestList u env requests streaming).2.client.handler.streamingRequests=
      s.client.handler.streamingRequests

theorem queueRequests_res (s : SubmitClient M) (env : SubmitListEnv M) (ms : List M)
    (streaming : Bool) (failed : (s.queueRequests u env ms streaming).1≠0) :
    (s.queueRequests u env ms streaming).1<0 := by
  have got : (DeviceClient.getRequestListLocked u env.toClientEnv s.client 0 ms).res=0 ∨
      (DeviceClient.getRequestListLocked u env.toClientEnv s.client 0 ms).res= -EINVAL :=
    DeviceClient.getRequestList_res ms s.client 0
  have codes : (-EINVAL : Int)<0 ∧ (-EINTR : Int)<0 := by decide
  unfold queueRequests at failed ⊢
  revert got failed
  generalize DeviceClient.getRequestListLocked u env.toClientEnv s.client 0 ms=made
  intro failed got
  dsimp only at failed ⊢
  split_ifs at failed ⊢ with unfit
  · rcases got with zero|invalid
    · exact absurd zero unfit
    · rw [invalid]
      exact codes.1
  · exact codes.1
  · exact codes.2
  all_goals exact absurd rfl failed

/-- A submission of output requests that queues nothing returns an error. -/
theorem queueSubmissionFrom_refused (outputs : ∀ r∈requests,s.client.OutputRequest r)
    (requestId : Int)
    (refused : (s.queueSubmissionFrom u env requestId requests streaming).waits=false) :
    ∃ res : Int,res<0 ∧ (s.queueSubmissionFrom u env requestId requests streaming).ret=.ok res := by
  have codes : (-ENOSYS : Int)<0 ∧ (-EINVAL : Int)<0 := by decide
  unfold queueSubmissionFrom at refused ⊢
  revert refused
  cases s.client.state with
  | ERROR | NOT_INITIALIZED | CLOSED => exact fun _ => ⟨-ENOSYS,codes.1,rfl⟩
  | NOT_CONFIGURED | CONFIGURED | RUNNING =>
    intro refused
    dsimp only at refused ⊢
    rcases DeviceClient.checkRequests_outputs outputs requestId with ⟨fine,-⟩|bad
    · rw [fine] at refused ⊢
      dsimp only at refused ⊢
      split_ifs at refused ⊢ with failed
      exact ⟨_,queueRequests_res _ _ _ _ failed,rfl⟩
    · rw [bad]
      exact ⟨-EINVAL,codes.2,rfl⟩

/-- Where the requests of a list of output requests go. -/
theorem queued_outputs [ErasableMetadata M] (outputs : ∀ r∈requests,s.client.OutputRequest r)
    (requestId : Int)
    (waits : (s.queueSubmissionFrom u env requestId requests streaming).waits=true) :
    (∀ r∈requests,r.streamIds.Nodup) ∧ ∃ list,
      List.Forall₂ (fun p q => DeviceClient.StandsFor requestId p.1 p.2 q) requests.zipIdx list ∧
      (s.queueSubmissionFrom u env requestId requests streaming).submit.client.handler.requests=
        s.client.handler.requests++(if streaming then [] else list) ∧
      (s.queueSubmissionFrom u env requestId requests
          streaming).submit.client.handler.streamingRequests=
        if streaming then list else s.client.handler.streamingRequests := by
  rcases queueSubmissionFrom_cases (u := u) s env requestId requests streaming with
    ⟨refused,-⟩|⟨-,-,-,-,places,ms,checked,fine,made⟩
  · rw [refused] at waits
    cases waits
  rcases DeviceClient.checkRequests_outputs outputs requestId with ⟨listed,distinct⟩|bad
  swap
  · rw [bad] at checked
    cases checked
  rw [listed] at checked
  cases checked
  have first : requestId+((0 : Nat) : Int)=requestId := by omega
  have stand := @DeviceClient.getRequestList_listed M _ u env.toClientEnv _ requests requestId 0
    s.client (fun r hr => (outputs r hr).untagged) (by rw [first]; exact fine)
  rw [first,← made] at stand
  have forOutput := DeviceClient.StandsFor.outputs stand
  have all : (s.captureRequests u env requestId requests).all (fun r => !r.input)=true := by
    simpa using forOutput
  have whole : (s.captureRequests u env requestId requests).filter (fun r => !r.input)=
      s.captureRequests u env requestId requests :=
    List.filter_eq_self.mpr fun r hr => by simp [forOutput r hr]
  have work := places.work
  simp only [RequestHandler.work,whole,all,and_true,Prod.mk.injEq] at work
  exact ⟨fun r hr => (distinct r hr).1,_,stand,work.2.1,work.2.2⟩

end SubmitClient

/-- One call after the other; `elsewhere` is all that happens to the client besides, which leaves
next_request_id_ alone. -/
inductive SubmissionStep (M : Type)
  | submitRequestList (requests : List (Camera3Request M)) (streaming : Bool)
      (env : SubmitListEnv M)
  | elsewhere (submit : SubmitClient M)

namespace SubmissionStep

open SubmitClient

variable {M : Type} [RequestMetadata M] {u : BufferUsage} {s t : SubmitClient M}

def Step (u : BufferUsage) (s : SubmitClient M) : SubmissionStep M → SubmitClient M → Prop
  | .submitRequestList requests streaming env,t =>
    t=(s.submitRequestList u env requests streaming).2
  | .elsewhere submit,t => t=submit ∧ submit.nextRequestId=s.nextRequestId

/-- The ids count up. -/
theorem step_next {step : SubmissionStep M} (h : Step u s step t) :
    s.nextRequestId ≤ t.nextRequestId := by
  cases step with
  | elsewhere submit =>
    obtain ⟨rfl,same⟩ := h
    exact same.ge
  | submitRequestList requests streaming env =>
    have next : t.nextRequestId=(s.queueSubmission u env requests streaming).submit.nextRequestId := by
      rw [h,submitRequestList_queued]
      dsimp only
      split_ifs
      · rfl
      · rfl
    rw [next,queueSubmission_from]
    split_ifs
    · exact le_rfl
    · rcases queueSubmissionFrom_next (u := u) s env s.nextRequestId requests streaming with
        same|counted
      · exact same.ge
      · rw [counted]
        omega

section Tests

open StreamCalls (RequestPack previewCalls calmCalls strayRequest)

instance : ErasableMetadata RequestPack where
  find_erase _ _ := if_pos rfl
  erase_update m tag vs other ws distinct := by
    have same : ∀ k,(if k=tag then none else if k=other then some ws
        else if k=tag then some vs else m.request k)=
        (if k=tag then none else if k=other then some ws else m.request k) := by
      intro k
      split_ifs <;> rfl
    exact congrArg (RequestPack.mk m.plain) (funext same)

end Tests

end SubmissionStep
end IotMedia.Camera

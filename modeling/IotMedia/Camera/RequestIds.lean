import IotMedia.Camera.QueuedSubmissions

namespace IotMedia.Camera

open IotMedia.Framework RequestMetadata

/-- The ids of `n` requests from `k` on. -/
def idsFrom (k : Int) : Nat → List Int
  | 0 => []
  | n+1 => k::idsFrom (k+1) n

theorem mem_idsFrom {k id : Int} {n : Nat} : id∈idsFrom k n ↔ k ≤ id ∧ id<k+n := by
  induction n generalizing k with
  | zero =>
    simp only [idsFrom,List.not_mem_nil,false_iff,not_and,not_lt]
    intro above
    omega
  | succ n ih =>
    rw [idsFrom,List.mem_cons,ih]
    push_cast
    omega

theorem idsFrom_nodup (k : Int) (n : Nat) : (idsFrom k n).Nodup := by
  induction n generalizing k with
  | zero => exact List.nodup_nil
  | succ n ih =>
    rw [idsFrom,List.nodup_cons]
    refine ⟨?_,ih (k+1)⟩
    intro again
    have above := (mem_idsFrom.mp again).1
    omega

namespace RequestHandler

variable {M : Type}

theorem resume_work (h : RequestHandler M) : h.resume.1.work=h.work := by
  obtain ⟨paused,same⟩ := h.resume_eq
  rw [same]
  rfl

theorem setRepeatingRequests_work (h : RequestHandler M) (rs : List (CaptureRequest M)) :
    (h.setRepeatingRequests rs).1.work=(h.currentRequest,h.requests,rs) :=
  resume_work { h with streamingRequests := rs }

theorem queueRequestList_work (h : RequestHandler M) (rs : List (CaptureRequest M)) :
    (h.queueRequestList rs).1.work=(h.currentRequest,h.requests++rs,h.streamingRequests) :=
  resume_work { h with requests := h.requests++rs }

end RequestHandler

namespace DeviceClient

variable {M : Type} [RequestMetadata M] {u : BufferUsage} {env : ClientEnv M} {c : DeviceClient M}

/-- The metadata that the loop of SubmitRequestList accepts carries the ids from the first on. -/
theorem checkRequests_ids [LawfulRequestMetadata M] {requests : List (Camera3Request M)} {k : Int}
    {ms : List M} (h : c.checkRequests k requests=.ok ms) :
    ms.map (fun m => findEntry m .ANDROID_REQUEST_ID)=
      (idsFrom k requests.length).map fun id => some [id] := by
  induction requests generalizing k ms with
  | nil =>
    cases h
    rfl
  | cons request requests ih =>
    rw [checkRequests] at h
    split at h
    · cases h
    next m first =>
      split at h
      · cases h
      next rest later =>
        cases h
        have numbered : findEntry m .ANDROID_REQUEST_ID=some [k] := by
          unfold checkRequest at first
          split_ifs at first
          dsimp only at first
          split at first
          · cases first
          · cases first
            exact LawfulRequestMetadata.find_update _ _ _
        simp only [List.map_cons,List.length_cons,idsFrom,numbered,ih later]

/-- GetRequestListLocked gives each request the id in its metadata. -/
theorem getRequestList_ids {ms : List M} {ids : List Int} {burstId : Nat}
    (h : ms.map (fun m => findEntry m .ANDROID_REQUEST_ID)=ids.map fun id => some [id])
    (fine : (getRequestListLocked u env c burstId ms).res=0) :
    (getRequestListLocked u env c burstId ms).value.map (fun r => r.resultExtras.requestId)=ids := by
  induction ms generalizing c ids burstId with
  | nil =>
    cases ids with
    | nil => rfl
    | cons id ids => cases h
  | cons m ms ih =>
    cases ids with
    | nil => cases h
    | cons id ids =>
      obtain ⟨first,rest⟩ := List.cons.inj h
      change findEntry m .ANDROID_REQUEST_ID=some [id] at first
      rw [getRequestListLocked] at fine ⊢
      dsimp only at fine ⊢
      split at fine
      · cases fine
      · rw [first] at fine ⊢
        dsimp only at fine ⊢
        rw [List.map_cons,ih rest fine]

end DeviceClient

namespace SubmitClient

variable {M : Type} [RequestMetadata M] (u : BufferUsage)

/-- SubmitRequestList from where it takes lock_ up to its wait, with the id that it has read from
next_request_id_ before. -/
def queueSubmissionFrom (s : SubmitClient M) (env : SubmitListEnv M) (requestId : Int)
    (requests : List (Camera3Request M)) (streaming : Bool) : QueuedSubmission M :=
  match s.client.state with
  | .ERROR | .NOT_INITIALIZED | .CLOSED => ⟨.ok (-ENOSYS),s,false⟩
  | .NOT_CONFIGURED | .CONFIGURED | .RUNNING =>
    match s.client.checkRequests requestId requests with
    | .error .fault => ⟨.error .fault,s,false⟩
    | .error (.error res) => ⟨.ok res,s,false⟩
    | .ok metadataRequestList =>
      let numbered := { s with nextRequestId := requestId+requests.length }
      let queued := numbered.queueRequests u env metadataRequestList streaming
      if queued.1≠(0 : Int) then ⟨.ok queued.1,queued.2,false⟩
      else ⟨.ok requestId,{ queued.2 with
        repeatingRequests := if streaming then queued.2.repeatingRequests++[requestId]
          else queued.2.repeatingRequests },true⟩

/-- Without another submission in between it goes on with the next id. -/
theorem queueSubmission_from (s : SubmitClient M) (env : SubmitListEnv M)
    (requests : List (Camera3Request M)) (streaming : Bool) :
    s.queueSubmission u env requests streaming=
      if requests=[] then ⟨.ok (-EINVAL),s,false⟩
      else s.queueSubmissionFrom u env s.nextRequestId requests streaming := rfl

/-- The capture requests made of the list, in one list with those for the reprocess thread. -/
def captureRequests (s : SubmitClient M) (env : SubmitListEnv M) (requestId : Int)
    (requests : List (Camera3Request M)) : List (CaptureRequest M) :=
  match s.client.checkRequests requestId requests with
  | .ok metadataRequestList =>
    (DeviceClient.getRequestListLocked u env.toClientEnv s.client 0 metadataRequestList).value
  | .error _ => []

/-- Where the capture requests of a list go. -/
structure Places (s t : SubmitClient M) (list : List (CaptureRequest M)) (streaming : Bool) :
    Prop where
  nonempty : list≠[]
  reproc : t.reprocRequests=s.reprocRequests++list.filter fun r => r.input
  work : t.client.handler.work=(s.client.handler.currentRequest,
    s.client.handler.requests++(if streaming then [] else list.filter fun r => !r.input),
    if streaming=true ∧ list.all (fun r => !r.input)=true then list
      else s.client.handler.streamingRequests)
  apart : list.all (fun r => r.input)=true ∨ list.all (fun r => !r.input)=true

variable {u} {s : SubmitClient M} {env : SubmitListEnv M}

omit [RequestMetadata M] in
/-- Where just one of two filters leaves nothing, all of the list is of one kind. -/
theorem one_kind {α : Type} (p : α → Bool) (l : List α)
    (h : ¬(l.filter fun r => !p r).isEmpty=(l.filter fun r => p r).isEmpty) : l≠[] ∧
    ((l.filter fun r => p r)=[] ∧ (l.filter fun r => !p r)=l ∧ l.all (fun r => !p r)=true ∨
      (l.filter fun r => p r)≠[] ∧ (l.filter fun r => !p r)=[] ∧ (∀ r∈l,p r=true) ∧
        l.all (fun r => !p r)=false) := by
  have some_ : l≠[] := by
    rintro rfl
    simp at h
  refine ⟨some_,?_⟩
  by_cases none : (l.filter fun r => p r)=[]
  · have outside : ∀ r∈l,p r=false := by simpa using none
    have whole : (l.filter fun r => !p r)=l :=
      List.filter_eq_self.mpr fun r hr => by simp [outside r hr]
    exact .inl ⟨none,whole,by simpa using outside⟩
  · have others : (l.filter fun r => !p r)=[] := by
      by_contra others
      exact h (by rw [List.isEmpty_eq_false_iff.mpr others,List.isEmpty_eq_false_iff.mpr none])
    have inside : ∀ r∈l,p r=true := by simpa using others
    obtain ⟨r,rest,rfl⟩ := List.exists_cons_of_ne_nil some_
    exact .inr ⟨none,others,inside,by simp [inside r List.mem_cons_self]⟩

/-- AddRequestListLocked up to its wait: nothing is queued, or every request goes to its queue. -/
theorem queueRequests_cases (s : SubmitClient M) (env : SubmitListEnv M) (ms : List M)
    (streaming : Bool) :
    (s.queueRequests u env ms streaming).2.nextRequestId=s.nextRequestId ∧
    (s.queueRequests u env ms streaming).2.repeatingRequests=s.repeatingRequests ∧
    ((s.queueRequests u env ms streaming).1≠0 ∧
      (s.queueRequests u env ms streaming).2.reprocRequests=s.reprocRequests ∧
      (s.queueRequests u env ms streaming).2.client.handler.work=s.client.handler.work ∨
    (s.queueRequests u env ms streaming).1=0 ∧
      (DeviceClient.getRequestListLocked u env.toClientEnv s.client 0 ms).res=0 ∧
      Places s (s.queueRequests u env ms streaming).2
        (DeviceClient.getRequestListLocked u env.toClientEnv s.client 0 ms).value streaming) := by
  have work := (DeviceClient.getRequestList_consistent u env.toClientEnv s.client ms 0).2
  have negative : (-EINVAL : Int)≠0 ∧ (-EINTR : Int)≠0 := by decide
  unfold queueRequests
  revert work
  generalize DeviceClient.getRequestListLocked u env.toClientEnv s.client 0 ms=got
  intro work
  dsimp only
  by_cases failed : got.res≠0
  · rw [if_pos failed]
    exact ⟨rfl,rfl,Or.inl ⟨failed,rfl,work⟩⟩
  rw [if_neg failed]
  by_cases invalid : (got.value.filter fun r => !r.input).isEmpty=
      (got.value.filter fun r => r.input).isEmpty
  · rw [if_pos invalid]
    exact ⟨rfl,rfl,Or.inl ⟨negative.1,rfl,work⟩⟩
  rw [if_neg invalid]
  by_cases stopped : (got.value.filter fun r => r.input)≠[] ∧ env.worker=false
  · rw [if_pos stopped]
    exact ⟨rfl,rfl,Or.inl ⟨negative.2,rfl,work⟩⟩
  rw [if_neg stopped]
  refine ⟨?_,?_,Or.inr ⟨rfl,not_not.mp failed,?_⟩⟩
  · split_ifs <;> rfl
  · split_ifs <;> rfl
  simp only [RequestHandler.work,Prod.mk.injEq] at work
  obtain ⟨current,requests,streamingRequests⟩ := work
  obtain ⟨some_,⟨reproc,whole,all⟩|⟨reproc,none_out,inputs,mixed⟩⟩ :=
    one_kind (fun r => r.input) got.value invalid
  · rw [if_neg (not_not.mpr reproc),whole]
    refine ⟨some_,by simp [reproc],?_,Or.inr all⟩
    cases streaming with
    | true =>
      have work := RequestHandler.setRepeatingRequests_work got.client.handler got.value
      rw [current,requests] at work
      simpa [all] using work
    | false =>
      have work := RequestHandler.queueRequestList_work got.client.handler got.value
      rw [current,requests,streamingRequests] at work
      simpa [whole] using work
  · have work : got.client.handler.resume.1.work=_ := RequestHandler.resume_work _
    rw [if_pos reproc]
    refine ⟨some_,rfl,?_,Or.inl (by simpa using inputs)⟩
    rw [mixed,none_out]
    simpa [queueReprocRequestList,RequestHandler.work,current,requests,streamingRequests] using work

/-- The two ends of a submission: nothing is queued and the handler has the same work, or every
request has its place, and the ids count on from the one that was read. -/
theorem queueSubmissionFrom_cases (s : SubmitClient M) (env : SubmitListEnv M) (requestId : Int)
    (requests : List (Camera3Request M)) (streaming : Bool) :
    (s.queueSubmissionFrom u env requestId requests streaming).waits=false ∧
      (s.queueSubmissionFrom u env requestId requests streaming).submit.repeatingRequests=
        s.repeatingRequests ∧
      (s.queueSubmissionFrom u env requestId requests streaming).submit.reprocRequests=
        s.reprocRequests ∧
      (s.queueSubmissionFrom u env requestId requests streaming).submit.client.handler.work=
        s.client.handler.work ∨
    (s.queueSubmissionFrom u env requestId requests streaming).waits=true ∧
      (s.queueSubmissionFrom u env requestId requests streaming).ret=.ok requestId ∧
      (s.queueSubmissionFrom u env requestId requests streaming).submit.nextRequestId=
        requestId+requests.length ∧
      (s.queueSubmissionFrom u env requestId requests streaming).submit.repeatingRequests=
        (if streaming then s.repeatingRequests++[requestId] else s.repeatingRequests) ∧
      Places s (s.queueSubmissionFrom u env requestId requests streaming).submit
        (s.captureRequests u env requestId requests) streaming ∧
      ∃ ms,s.client.checkRequests requestId requests=.ok ms ∧
        (DeviceClient.getRequestListLocked u env.toClientEnv s.client 0 ms).res=0 ∧
        s.captureRequests u env requestId requests=
          (DeviceClient.getRequestListLocked u env.toClientEnv s.client 0 ms).value := by
  unfold queueSubmissionFrom captureRequests
  cases s.client.state with
  | ERROR | NOT_INITIALIZED | CLOSED => exact Or.inl ⟨rfl,rfl,rfl,rfl⟩
  | NOT_CONFIGURED | CONFIGURED | RUNNING =>
    dsimp only
    cases checked : s.client.checkRequests requestId requests with
    | error stop => cases stop <;> exact Or.inl ⟨rfl,rfl,rfl,rfl⟩
    | ok ms =>
      obtain ⟨next,repeating,ends⟩ := queueRequests_cases (u := u)
        { s with nextRequestId := requestId+requests.length } env ms streaming
      dsimp only
      rcases ends with ⟨failed,reproc,work⟩|⟨fine,got,places⟩
      · rw [if_pos failed]
        exact Or.inl ⟨rfl,repeating,reproc,work⟩
      · rw [if_neg (not_not.mpr fine)]
        refine Or.inr ⟨rfl,rfl,next,?_,?_,ms,rfl,got,rfl⟩
        · rw [repeating]
        · exact ⟨places.nonempty,places.reproc,places.work,places.apart⟩

/-- The requests of a submission that is queued have the ids from the one read on. -/
theorem captureRequests_ids [LawfulRequestMetadata M] {requestId : Int}
    {requests : List (Camera3Request M)} {streaming : Bool}
    (h : (s.queueSubmissionFrom u env requestId requests streaming).waits=true) :
    (s.captureRequests u env requestId requests).map (fun r => r.resultExtras.requestId)=
      idsFrom requestId requests.length := by
  rcases queueSubmissionFrom_cases (u := u) s env requestId requests streaming with
    ⟨refused,-⟩|⟨-,-,-,-,-,ms,checked,fine,list⟩
  · rw [refused] at h
    cases h
  · rw [list]
    exact DeviceClient.getRequestList_ids (DeviceClient.checkRequests_ids checked) fine

/-- The counter stays, or counts on from the id that was read. -/
theorem queueSubmissionFrom_next (s : SubmitClient M) (env : SubmitListEnv M) (requestId : Int)
    (requests : List (Camera3Request M)) (streaming : Bool) :
    (s.queueSubmissionFrom u env requestId requests streaming).submit.nextRequestId=
      s.nextRequestId ∨
    (s.queueSubmissionFrom u env requestId requests streaming).submit.nextRequestId=
      requestId+requests.length := by
  unfold queueSubmissionFrom
  cases s.client.state with
  | ERROR | NOT_INITIALIZED | CLOSED => exact Or.inl rfl
  | NOT_CONFIGURED | CONFIGURED | RUNNING =>
    dsimp only
    cases s.client.checkRequests requestId requests with
    | error stop => cases stop <;> exact Or.inl rfl
    | ok ms =>
      have next := (queueRequests_cases (u := u)
        { s with nextRequestId := requestId+requests.length } env ms streaming).1
      right
      dsimp only
      split_ifs
      all_goals exact next

end SubmitClient

/-- A call of SubmitRequestList that has read next_request_id_ and waits for lock_. -/
structure Submitter (M : Type) where
  requestId : Int
  requests : List (Camera3Request M)
  streaming : Bool

/-- The client, the calls between their two steps, and the ids of all requests that have been
placed. -/
structure IdWorld (M : Type) where
  submit : SubmitClient M
  submitters : List (Submitter M) := []
  placed : List Int := []

inductive IdStep (M : Type)
  | read (requests : List (Camera3Request M)) (streaming : Bool)
  | enter (i : Nat) (env : SubmitListEnv M)
  | elsewhere (submit : SubmitClient M)

namespace IdWorld

variable {M : Type} [RequestMetadata M]

omit [RequestMetadata M] in
/-- The requests that are placed. -/
def queued (s : SubmitClient M) : List (CaptureRequest M) :=
  s.client.handler.requests++s.client.handler.streamingRequests++s.reprocRequests

/-- The section of a call under lock_. -/
def submission (u : BufferUsage) (w : IdWorld M) (env : SubmitListEnv M) (call : Submitter M) :
    QueuedSubmission M :=
  w.submit.queueSubmissionFrom u env call.requestId call.requests call.streaming

/-- Behind the section of a call. -/
def entered (u : BufferUsage) (w : IdWorld M) (env : SubmitListEnv M) (i : Nat)
    (call : Submitter M) : IdWorld M where
  submit := (w.submission u env call).submit
  submitters := w.submitters.eraseIdx i
  placed := if (w.submission u env call).waits then w.placed++
      (w.submit.captureRequests u env call.requestId call.requests).map fun r =>
        r.resultExtras.requestId
    else w.placed

/-- An empty list is refused before the counter is read; a call that aborts the process is no
step. -/
def perform (u : BufferUsage) (w : IdWorld M) : IdStep M → Option (IdWorld M)
  | .read requests streaming =>
    if requests=[] then none
    else some { w with submitters :=
      w.submitters++[⟨w.submit.nextRequestId,requests,streaming⟩] }
  | .enter i env =>
    match w.submitters[i]? with
    | none => none
    | some call =>
      match (w.submission u env call).ret with
      | .error .fault => none
      | _ => some (w.entered u env i call)
  | .elsewhere submit => some { w with submit := submit }

omit [RequestMetadata M] in
/-- What else happens leaves the counter alone and places no request. -/
def Allowed (w : IdWorld M) : IdStep M → Prop
  | .elsewhere submit => submit.nextRequestId=w.submit.nextRequestId ∧
      ∀ r∈queued submit,r∈queued w.submit
  | _ => True

def Step (u : BufferUsage) (w : IdWorld M) (step : IdStep M) (w' : IdWorld M) : Prop :=
  w.Allowed step ∧ w.perform u step=some w'

/-- No id is placed from the one on that a call which queues its requests has read, as many as its
list is long. -/
def FindsFree (u : BufferUsage) (w : IdWorld M) : IdStep M → Prop
  | .enter i env => ∀ call,w.submitters[i]?=some call → (w.submission u env call).waits=true →
      ∀ id∈w.placed,id<call.requestId ∨ call.requestId+call.requests.length ≤ id
  | _ => True

omit [RequestMetadata M] in
/-- The counter stands where the call that takes lock_ has read it. -/
def Current (w : IdWorld M) : IdStep M → Prop
  | .enter i _ => ∀ call,w.submitters[i]?=some call → call.requestId=w.submit.nextRequestId
  | _ => True

variable {u : BufferUsage} {w w' : IdWorld M} {step : IdStep M} {steps : List (IdStep M)} {i : Nat}
  {env : SubmitListEnv M}

theorem entered_of (h : Step u w (.enter i env) w') :
    ∃ call,w.submitters[i]?=some call ∧ w'=w.entered u env i call := by
  obtain ⟨-,done⟩ := h
  rw [perform] at done
  split at done
  · cases done
  next call found =>
    split at done
    · cases done
    · exact ⟨call,found,(Option.some.inj done).symm⟩

/-- Only a call that is queued places ids. -/
theorem step_cases [LawfulRequestMetadata M] (h : Step u w step w') :
    (w'.placed=w.placed ∧ ∀ i env call,step=.enter i env → w.submitters[i]?=some call →
      (w.submission u env call).waits=false) ∨
    ∃ i env call,step=.enter i env ∧ w.submitters[i]?=some call ∧
      (w.submission u env call).waits=true ∧
      w'.placed=w.placed++idsFrom call.requestId call.requests.length := by
  cases step with
  | read requests streaming =>
    obtain ⟨-,done⟩ := h
    rw [perform] at done
    split_ifs at done
    cases Option.some.inj done
    exact Or.inl ⟨rfl,fun _ _ _ other => (by cases other)⟩
  | elsewhere submit =>
    cases Option.some.inj h.2
    exact Or.inl ⟨rfl,fun _ _ _ other => (by cases other)⟩
  | enter i env =>
    obtain ⟨call,found,rfl⟩ := entered_of h
    cases waits : (w.submission u env call).waits with
    | false =>
      refine Or.inl ⟨by simp [entered,waits],?_⟩
      intro j env' call' same found'
      cases same
      cases Option.some.inj (found.symm.trans found')
      exact waits
    | true =>
      have ids := SubmitClient.captureRequests_ids waits
      refine Or.inr ⟨i,env,call,rfl,found,waits,?_⟩
      rw [entered,if_pos waits,ids]

/-- A step repeats no id if the ids that it places are free. -/
theorem step_nodup_iff [LawfulRequestMetadata M] (hn : w.placed.Nodup) (h : Step u w step w') :
    w'.placed.Nodup ↔ w.FindsFree u step := by
  rcases step_cases h with ⟨same,refused⟩|⟨i,env,call,rfl,found,waits,placed⟩
  · rw [same]
    refine iff_of_true hn ?_
    cases step with
    | enter i env =>
      intro call found waits
      rw [refused i env call rfl found] at waits
      cases waits
    | read | elsewhere => trivial
  · rw [placed,List.nodup_append]
    constructor
    · rintro ⟨-,-,apart⟩ call' found' - id hid
      cases Option.some.inj (found.symm.trans found')
      by_contra taken
      push Not at taken
      exact apart id hid id (mem_idsFrom.mpr taken) rfl
    · intro free
      refine ⟨hn,idsFrom_nodup _ _,?_⟩
      rintro id hid _ new rfl
      have range := mem_idsFrom.mp new
      rcases free call found waits id hid with below|above
      · exact absurd range.1 (by omega)
      · exact absurd range.2 (by omega)

/-- The requests in the handler's lists are among those placed. -/
def Recorded (w : IdWorld M) : Prop := ∀ r∈queued w.submit,r.resultExtras.requestId∈w.placed

theorem step_recorded (hw : w.Recorded) (h : Step u w step w') : w'.Recorded := by
  cases step with
  | read requests streaming =>
    obtain ⟨-,done⟩ := h
    rw [perform] at done
    split_ifs at done
    cases Option.some.inj done
    exact hw
  | elsewhere submit =>
    obtain ⟨⟨-,kept⟩,done⟩ := h
    cases Option.some.inj done
    exact fun r hr => hw r (kept r hr)
  | enter i env =>
    obtain ⟨call,found,rfl⟩ := entered_of h
    intro r hr
    change r∈queued (w.submission u env call).submit at hr
    unfold submission queued at hr
    rcases SubmitClient.queueSubmissionFrom_cases (u := u) w.submit env call.requestId
      call.requests call.streaming with ⟨refused,-,reproc,work⟩|⟨waits,-,-,-,places,-⟩
    · simp only [RequestHandler.work,Prod.mk.injEq] at work
      rw [work.2.1,work.2.2,reproc] at hr
      simp only [entered,submission,refused,Bool.false_eq_true,if_false]
      exact hw r hr
    · have work := places.work
      simp only [RequestHandler.work,Prod.mk.injEq] at work
      rw [work.2.1,work.2.2,places.reproc] at hr
      simp only [entered,submission,waits,if_true,List.mem_append]
      have known : r∈queued w.submit ∨
          r∈w.submit.captureRequests u env call.requestId call.requests := by
        simp only [queued,List.mem_append] at hr ⊢
        rcases hr with ((old|queued)|streaming)|(old|reproc)
        · exact Or.inl (Or.inl (Or.inl old))
        · split_ifs at queued
          · cases queued
          · exact Or.inr (List.mem_of_mem_filter queued)
        · split_ifs at streaming
          · exact Or.inr streaming
          · exact Or.inl (Or.inl (Or.inr streaming))
        · exact Or.inl (Or.inr old)
        · exact Or.inr (List.mem_of_mem_filter reproc)
      rcases known with old|new
      · exact Or.inl (hw r old)
      · exact Or.inr (List.mem_map.mpr ⟨r,new,rfl⟩)

theorem queued_recorded {s : SubmitClient M} (empty : queued s=[])
    (hr : Run (Step u) { submit := s } steps w) : w.Recorded := by
  refine hr.invariant (P := Recorded) (fun t step t' ht h => step_recorded ht h) ?_
  intro r hr
  rw [empty] at hr
  cases hr

section Current

/-- As long as no call comes between the two steps of another, the counter is above all ids. -/
theorem step_below [LawfulRequestMetadata M] (hb : ∀ id∈w.placed,id<w.submit.nextRequestId)
    (current : w.Current step) (h : Step u w step w') :
    ∀ id∈w'.placed,id<w'.submit.nextRequestId := by
  cases step with
  | read requests streaming =>
    obtain ⟨-,done⟩ := h
    rw [perform] at done
    split_ifs at done
    cases Option.some.inj done
    exact hb
  | elsewhere submit =>
    obtain ⟨⟨same,-⟩,done⟩ := h
    cases Option.some.inj done
    intro id hid
    rw [same]
    exact hb id hid
  | enter i env =>
    obtain ⟨call,found,rfl⟩ := entered_of h
    have read := current call found
    intro id hid
    show id<(w.submission u env call).submit.nextRequestId
    cases waits : (w.submission u env call).waits with
    | false =>
      simp only [entered,waits,Bool.false_eq_true,if_false] at hid
      have before := hb id hid
      rcases SubmitClient.queueSubmissionFrom_next (u := u) w.submit env call.requestId
        call.requests call.streaming with next|next
      · rw [submission,next]
        exact before
      · rw [submission,next]
        omega
    | true =>
      simp only [entered,waits,if_true,SubmitClient.captureRequests_ids waits] at hid
      have next : (w.submission u env call).submit.nextRequestId=
          call.requestId+call.requests.length := by
        rcases SubmitClient.queueSubmissionFrom_cases (u := u) w.submit env call.requestId
          call.requests call.streaming with ⟨refused,-⟩|⟨-,-,next,-⟩
        · exact absurd (waits.symm.trans refused) (by decide)
        · exact next
      rw [next]
      rcases List.mem_append.mp hid with old|new
      · have before := hb id old
        omega
      · exact (mem_idsFrom.mp new).2

/-- Calls that are not interleaved find their ids free. -/
theorem Current.findsFree (hb : ∀ id∈w.placed,id<w.submit.nextRequestId)
    (current : w.Current step) : w.FindsFree u step := by
  cases step with
  | enter i env =>
    intro call found _ id hid
    have before := hb id hid
    rw [← current call found] at before
    exact Or.inl before
  | read | elsewhere => trivial

/-- The ids of all requests ever placed are distinct as long as next_request_id_ still has the value
that a call has read when the call takes lock_. -/
theorem request_ids_current [LawfulRequestMetadata M] {s : SubmitClient M}
    (hr : Run (Guarded Current (Step u)) { submit := s } steps w) : w.placed.Nodup := by
  have both : w.placed.Nodup ∧ ∀ id∈w.placed,id<w.submit.nextRequestId := by
    refine hr.invariant (P := fun w : IdWorld M => w.placed.Nodup ∧
      ∀ id∈w.placed,id<w.submit.nextRequestId) ?_ ⟨List.nodup_nil,fun _ hid => (by cases hid)⟩
    rintro t step t' ⟨distinct,below⟩ ⟨current,stepped⟩
    exact ⟨(step_nodup_iff distinct stepped).mpr (current.findsFree below),
      step_below below current stepped⟩
  exact both.1

end Current

section Tests

open StreamCalls (RequestPack previewCalls calmCalls strayRequest)

/-- A step but `elsewhere`, for runs that are evaluated. -/
def next (u : BufferUsage) (w : IdWorld M) : IdStep M → Option (IdWorld M)
  | .elsewhere _ => none
  | step => w.perform u step

theorem Step.of_next (u : BufferUsage) (w : IdWorld M) (step : IdStep M) (w' : IdWorld M)
    (h : w.next u step=some w') : Step u w step w' := by
  cases step with
  | elsewhere => cases h
  | read | enter => exact ⟨trivial,h⟩

/-- One call after the other. -/
def oneByOne : List (IdStep RequestPack) :=
  [.read [strayRequest [],strayRequest []] false,.enter 0 calmCalls,
    .read [strayRequest []] true,.enter 0 calmCalls]

omit [RequestMetadata M] in
theorem current_enter_iff (w : IdWorld M) (i : Nat) (env : SubmitListEnv M) :
    w.Current (.enter i env) ↔
      (w.submitters[i]?.map Submitter.requestId).getD w.submit.nextRequestId=
        w.submit.nextRequestId := by
  cases found : w.submitters[i]? with
  | none => simp [Current,found]
  | some call => simp [Current,found]

instance (w : IdWorld M) : (step : IdStep M) → Decidable (w.Current step)
  | .enter i env => decidable_of_iff _ (current_enter_iff w i env).symm
  | .read _ _ | .elsewhere _ => isTrue trivial

theorem request_ids_current_oneByOne : ∃ w,
    Run (Guarded Current (Step .android)) { submit := previewCalls.submit } oneByOne w ∧
      w.placed=[0,1,2] ∧ w.placed.Nodup := by
  obtain ⟨w,run,placed⟩ := Run.of_exec_guarded (G := Current)
    (p := fun w : IdWorld RequestPack => decide (w.placed=[0,1,2]))
    { submit := previewCalls.submit } oneByOne (Step.of_next .android) (by decide)
  exact ⟨w,run,of_decide_eq_true placed,request_ids_current run⟩

/-- Two calls read the counter, then both enter. -/
theorem request_ids_repeated : ¬∀ (u : BufferUsage) (s : SubmitClient RequestPack) steps w,
    Run (Step u) { submit := s } steps w → w.placed.Nodup := by
  intro all
  obtain ⟨w,run,twice⟩ := Run.of_exec_any (p := fun w : IdWorld RequestPack =>
      decide (w.placed=[0,0])) { submit := previewCalls.submit }
    [.read [strayRequest []] false,.read [strayRequest []] false,.enter 0 calmCalls,
      .enter 0 calmCalls] (Step.of_next .android) (by decide)
  have distinct := all .android _ _ w run
  rw [of_decide_eq_true twice] at distinct
  exact absurd distinct (by decide)

end Tests

end IdWorld
end IotMedia.Camera

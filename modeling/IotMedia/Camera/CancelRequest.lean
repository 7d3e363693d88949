import IotMedia.Camera.RequestIds

namespace IotMedia.Camera

open IotMedia.Framework

namespace DeviceClient

variable {M : Type}

/-- The states in which the client takes requests. -/
def Works (c : DeviceClient M) : Prop :=
  c.state=.NOT_CONFIGURED ∨ c.state=.CONFIGURED ∨ c.state=.RUNNING

theorem configure_worksOn (u : BufferUsage) {c : DeviceClient M} (h : c.Works) (env : ClientEnv M) :
    (c.configureStreamsLocked u env).client.Works := by
  unfold configureStreamsLocked
  dsimp only
  split_ifs
  all_goals first
    | exact h
    | exact Or.inl rfl
    | exact Or.inr (Or.inl rfl)

theorem getRequestList_works [RequestMetadata M] (u : BufferUsage) (env : ClientEnv M)
    {c : DeviceClient M} (h : c.Works) (ms : List M) (burstId : Nat) :
    (getRequestListLocked u env c burstId ms).client.Works :=
  getRequestList_rule (P := Works) (fun _ h => configure_worksOn u h env) (fun _ _ _ h _ => h) ms h
    burstId

end DeviceClient

namespace SubmitClient

variable {M : Type}

/-- CancelRequest. -/
def cancelRequest (s : SubmitClient M) (requestId : Int) : Int × SubmitClient M :=
  match s.client.state with
  | .ERROR | .NOT_INITIALIZED | .CLOSED => (-ENOSYS,s)
  | .NOT_CONFIGURED | .CONFIGURED | .RUNNING =>
    if requestId∈s.repeatingRequests then
      (0,{ s with
        client := { s.client with handler := s.client.handler.clearRepeatingRequests.1 }
        repeatingRequests := [] })
    else (-EINVAL,s)

/-- Flush, as far as requests go; `res` is the result of Clear's wait for the request in flight. -/
def flush (s : SubmitClient M) (res : Int) : Int × SubmitClient M :=
  let cleared := { s with client := { s.client with handler := s.client.handler.clear.1 } }
  if res≠0 then (res,cleared) else (0,{ cleared with repeatingRequests := [] })

theorem cancelRequest_works {s : SubmitClient M} (h : s.client.Works) (id : Int) :
    s.cancelRequest id=if id∈s.repeatingRequests then
        (0,{ s with
          client := { s.client with handler := s.client.handler.clearRepeatingRequests.1 }
          repeatingRequests := [] })
      else (-EINVAL,s) := by
  unfold cancelRequest
  rcases h with state|state|state
  all_goals rw [state]

/-- Without a working client CancelRequest changes nothing. -/
theorem cancelRequest_away {s : SubmitClient M} (h : ¬s.client.Works) (id : Int) :
    s.cancelRequest id=(-ENOSYS,s) := by
  unfold cancelRequest
  unfold DeviceClient.Works at h
  cases state : s.client.state with
  | ERROR | NOT_INITIALIZED | CLOSED => rfl
  | NOT_CONFIGURED | CONFIGURED | RUNNING => simp [state] at h

variable [RequestMetadata M]

theorem queueSubmissionFrom_works (u : BufferUsage) {s : SubmitClient M} (h : s.client.Works)
    (env : SubmitListEnv M) (requestId : Int) (requests : List (Camera3Request M))
    (streaming : Bool) :
    (s.queueSubmissionFrom u env requestId requests streaming).submit.client.Works := by
  have queued (ms : List M) (t : SubmitClient M) (ht : t.client.Works) :
      (t.queueRequests u env ms streaming).2.client.Works := by
    have got := DeviceClient.getRequestList_works u env.toClientEnv ht ms 0
    unfold queueRequests
    dsimp only
    split_ifs
    all_goals exact got
  unfold queueSubmissionFrom
  cases s.client.state with
  | ERROR | NOT_INITIALIZED | CLOSED => exact h
  | NOT_CONFIGURED | CONFIGURED | RUNNING =>
    dsimp only
    cases s.client.checkRequests requestId requests with
    | error stop => cases stop <;> exact h
    | ok ms =>
      have after := queued ms { s with nextRequestId := requestId+requests.length } h
      dsimp only
      split_ifs
      all_goals exact after

end SubmitClient

/-- The client, and the repeating requests that the handler has: the id that SubmitRequestList
returned for them, and the list. -/
structure CancelWorld (M : Type) where
  submit : SubmitClient M
  installed : Option (Int × List (CaptureRequest M)) := none

/-- The calls, one after the other; `elsewhere` is what happens to a working client otherwise. -/
inductive CancelStep (M : Type)
  | submitRequestList (requests : List (Camera3Request M)) (streaming : Bool)
      (env : SubmitListEnv M)
  | cancelRequest (requestId : Int)
  | flush (res : Int)
  | elsewhere (client : DeviceClient M) (reprocRequests : List (CaptureRequest M))

namespace CancelWorld

variable {M : Type} [RequestMetadata M]

/-- The capture requests of a list that is submitted. -/
def submitted (u : BufferUsage) (w : CancelWorld M) (requests : List (Camera3Request M))
    (env : SubmitListEnv M) : List (CaptureRequest M) :=
  w.submit.captureRequests u env w.submit.nextRequestId requests

/-- The submission installs its list as the repeating one: it is queued, and no request of it is
one for the reprocess thread. -/
def Installs (u : BufferUsage) (w : CancelWorld M) (requests : List (Camera3Request M))
    (streaming : Bool) (env : SubmitListEnv M) : Prop :=
  (w.submit.queueSubmission u env requests streaming).waits=true ∧ streaming=true ∧
    (w.submitted u requests env).all (fun r => !r.input)=true

instance (u : BufferUsage) (w : CancelWorld M) (requests : List (Camera3Request M))
    (streaming : Bool) (env : SubmitListEnv M) : Decidable (w.Installs u requests streaming env) :=
  inferInstanceAs (Decidable (_∧_))

/-- A submission that aborts the process is no step. -/
def perform (u : BufferUsage) (w : CancelWorld M) : CancelStep M → Option (CancelWorld M)
  | .submitRequestList requests streaming env =>
    let queued := w.submit.queueSubmission u env requests streaming
    match queued.ret with
    | .error .fault => none
    | _ => some {
        submit := queued.submit
        installed := if w.Installs u requests streaming env
          then some (w.submit.nextRequestId,w.submitted u requests env) else w.installed }
  | .cancelRequest requestId =>
    let cancelled := w.submit.cancelRequest requestId
    some {
      submit := cancelled.2
      installed := if cancelled.1=0 then none else w.installed }
  | .flush res => some { submit := (w.submit.flush res).2 }
  | .elsewhere client reprocRequests => some { w with submit := { w.submit with
      client := client
      reprocRequests := reprocRequests } }

omit [RequestMetadata M] in
/-- The handler's repeating list changes by the calls alone, and the device has no error. -/
def Allowed (w : CancelWorld M) : CancelStep M → Prop
  | .elsewhere client _ => client.Works ∧
      client.handler.streamingRequests=w.submit.client.handler.streamingRequests
  | _ => True

def Step (u : BufferUsage) (w : CancelWorld M) (step : CancelStep M) (w' : CancelWorld M) : Prop :=
  w.Allowed step ∧ w.perform u step=some w'

omit [RequestMetadata M] in
/-- CancelRequest cancels what it names: the id of the installed list clears it, every other id is
refused and leaves everything, and there is at most one id. -/
structure CancelsNamed (w : CancelWorld M) : Prop where
  named : ∀ id list,w.installed=some (id,list) → (w.submit.cancelRequest id).1=0 ∧
    (w.submit.cancelRequest id).2.client.handler.streamingRequests=[] ∧
    (w.submit.cancelRequest id).2.repeatingRequests=[]
  others : ∀ id,(∀ list,w.installed≠some (id,list)) → w.submit.cancelRequest id=(-EINVAL,w.submit)
  single : w.submit.repeatingRequests.length≤1

/-- A streaming submission that is queued finds no id of a repeating list and is not for the
reprocess thread; a Flush that finds one does not fail. -/
def Replaces (u : BufferUsage) (w : CancelWorld M) : CancelStep M → Prop
  | .submitRequestList requests streaming env => streaming=true →
      (w.submit.queueSubmission u env requests streaming).waits=true →
      w.submit.repeatingRequests=[] ∧ (w.submitted u requests env).all (fun r => !r.input)=true
  | .flush res => w.submit.repeatingRequests=[] ∨ res=0
  | _ => True

omit [RequestMetadata M] in
/-- The client works, and the handler's repeating list is the installed one. -/
structure Inv (w : CancelWorld M) : Prop where
  works : w.submit.client.Works
  list : w.submit.client.handler.streamingRequests=(w.installed.map Prod.snd).getD []
  nonempty : ∀ id list,w.installed=some (id,list) → list≠[]

variable {u : BufferUsage} {w w' : CancelWorld M} {step : CancelStep M}

omit [RequestMetadata M] in
theorem cancelsNamed_iff (h : w.Inv) :
    w.CancelsNamed ↔ w.submit.repeatingRequests=(w.installed.map Prod.fst).toList := by
  have negative : (-EINVAL : Int)≠0 := by decide
  have found (id : Int) : (w.submit.cancelRequest id).1=0 ↔ id∈w.submit.repeatingRequests := by
    rw [SubmitClient.cancelRequest_works h.works]
    split_ifs with here
    · simp [here]
    · simp [here,negative]
  constructor
  · intro named
    cases hi : w.installed with
    | none =>
      refine List.eq_nil_iff_forall_not_mem.mpr fun id here => ?_
      have refused := named.others id (by simp [hi])
      have cleared := (found id).mpr here
      rw [refused] at cleared
      exact negative cleared
    | some p =>
      have here := (found p.1).mp (named.named p.1 p.2 hi).1
      obtain ⟨id,one⟩ := List.length_eq_one_iff.mp
        (le_antisymm named.single (List.length_pos_of_mem here))
      rw [one,List.mem_singleton] at here
      rw [one,← here]
      rfl
  · intro same
    refine ⟨?_,?_,?_⟩
    · intro id list hi
      have here : id∈w.submit.repeatingRequests := by simp [same,hi]
      rw [SubmitClient.cancelRequest_works h.works,if_pos here]
      exact ⟨rfl,rfl,rfl⟩
    · intro id other
      have away : id∉w.submit.repeatingRequests := by
        intro here
        rw [same] at here
        cases hi : w.installed with
        | none => simp [hi] at here
        | some p =>
          refine other p.2 ?_
          simp only [hi,Option.map_some,Option.mem_toList,Option.some.injEq] at here
          rw [hi,← here]
      rw [SubmitClient.cancelRequest_works h.works,if_neg away]
    · rw [same]
      cases w.installed <;> simp

/-- The two ends of a submission, seen from the ids of repeating lists. -/
theorem submission_cases (u : BufferUsage) (w : CancelWorld M)
    (requests : List (Camera3Request M)) (streaming : Bool) (env : SubmitListEnv M) :
    let queued := w.submit.queueSubmission u env requests streaming
    (w.submit.client.Works → queued.submit.client.Works) ∧
    (queued.waits=false ∧ queued.submit.repeatingRequests=w.submit.repeatingRequests ∧
      queued.submit.client.handler.streamingRequests=
        w.submit.client.handler.streamingRequests ∨
    queued.waits=true ∧ queued.submit.repeatingRequests=
        (if streaming then w.submit.repeatingRequests++[w.submit.nextRequestId]
          else w.submit.repeatingRequests) ∧
      w.submitted u requests env≠[] ∧ queued.submit.client.handler.streamingRequests=
        if streaming=true ∧ (w.submitted u requests env).all (fun r => !r.input)=true
        then w.submitted u requests env else w.submit.client.handler.streamingRequests) := by
  dsimp only
  by_cases none : requests=[]
  · rw [SubmitClient.queueSubmission_from,if_pos none]
    exact ⟨id,Or.inl ⟨rfl,rfl,rfl⟩⟩
  unfold submitted
  rw [SubmitClient.queueSubmission_from,if_neg none]
  refine ⟨fun works => SubmitClient.queueSubmissionFrom_works u works env _ _ _,?_⟩
  rcases SubmitClient.queueSubmissionFrom_cases (u := u) w.submit env w.submit.nextRequestId
    requests streaming with ⟨refused,repeating,-,work⟩|⟨waits,-,-,repeating,places,-⟩
  · exact Or.inl ⟨refused,repeating,congrArg (·.2.2) work⟩
  · exact Or.inr ⟨waits,repeating,places.nonempty,congrArg (·.2.2) places.work⟩

/-- A submission keeps the invariant, and the ids agree with the installed list after it exactly if
it replaces none of them. -/
theorem submission_agrees (hi : w.Inv)
    (agree : w.submit.repeatingRequests=(w.installed.map Prod.fst).toList)
    {requests : List (Camera3Request M)} {streaming : Bool} {env : SubmitListEnv M}
    (h : Step u w (.submitRequestList requests streaming env) w') : w'.Inv ∧
      (w'.submit.repeatingRequests=(w'.installed.map Prod.fst).toList ↔
        w.Replaces u (.submitRequestList requests streaming env)) := by
  obtain ⟨-,done⟩ := h
  obtain ⟨works,ends⟩ := w.submission_cases u requests streaming env
  obtain rfl : w'={
      submit := (w.submit.queueSubmission u env requests streaming).submit
      installed := if w.Installs u requests streaming env
        then some (w.submit.nextRequestId,w.submitted u requests env) else w.installed } := by
    rw [perform] at done
    split at done
    · cases done
    · exact (Option.some.inj done).symm
  rcases ends with ⟨refused,repeating,same⟩|⟨waits,repeating,some_,list⟩
  · have uninstalled : ¬w.Installs u requests streaming env := by
      rintro ⟨waits,-⟩
      rw [refused] at waits
      cases waits
    rw [if_neg uninstalled]
    refine ⟨⟨works hi.works,same.trans hi.list,hi.nonempty⟩,?_⟩
    refine iff_of_true (repeating.trans agree) fun _ waits => ?_
    rw [refused] at waits
    cases waits
  · by_cases installs : w.Installs u requests streaming env
    · obtain ⟨-,streaming,outputs⟩ := installs
      subst streaming
      rw [if_pos rfl] at repeating
      rw [if_pos ⟨rfl,outputs⟩] at list
      rw [if_pos ⟨waits,rfl,outputs⟩]
      refine ⟨⟨works hi.works,list,?_⟩,?_⟩
      · rintro id _ same
        cases Option.some.inj same
        exact some_
      · show _=[w.submit.nextRequestId] ↔ _
        rw [repeating]
        constructor
        · intro one _ _
          exact ⟨List.append_left_eq_self.mp one,outputs⟩
        · intro replaces
          rw [(replaces rfl waits).1]
          rfl
    · have same : ¬(streaming=true ∧
          (w.submitted u requests env).all (fun r => !r.input)=true) :=
        fun streamed => installs ⟨waits,streamed⟩
      rw [if_neg same] at list
      rw [if_neg installs]
      refine ⟨⟨works hi.works,list.trans hi.list,hi.nonempty⟩,?_⟩
      show (w.submit.queueSubmission u env requests streaming).submit.repeatingRequests=_ ↔ _
      rw [repeating,← agree]
      cases streaming with
      | false => exact iff_of_true rfl fun streaming => (by cases streaming)
      | true =>
        refine iff_of_false ?_ fun replaces => installs ⟨waits,rfl,(replaces rfl waits).2⟩
        simp

/-- So does every step. -/
theorem step_agrees (hi : w.Inv)
    (agree : w.submit.repeatingRequests=(w.installed.map Prod.fst).toList)
    (h : Step u w step w') : w'.Inv ∧
      (w'.submit.repeatingRequests=(w'.installed.map Prod.fst).toList ↔ w.Replaces u step) := by
  obtain ⟨allowed,done⟩ := id h
  cases step with
  | submitRequestList requests streaming env => exact submission_agrees hi agree h
  | cancelRequest requestId =>
    cases Option.some.inj done
    rw [SubmitClient.cancelRequest_works hi.works]
    by_cases here : requestId∈w.submit.repeatingRequests
    · rw [if_pos here]
      exact ⟨⟨hi.works,rfl,fun _ _ none => (by cases none)⟩,iff_of_true rfl trivial⟩
    · rw [if_neg here]
      exact ⟨hi,iff_of_true agree trivial⟩
  | flush res =>
    cases Option.some.inj done
    unfold SubmitClient.flush
    by_cases failed : res≠0
    · rw [if_pos failed]
      refine ⟨⟨hi.works,rfl,fun _ _ none => (by cases none)⟩,?_⟩
      exact ⟨Or.inl,fun replaces => replaces.resolve_right failed⟩
    · rw [if_neg failed]
      refine ⟨⟨hi.works,rfl,fun _ _ none => (by cases none)⟩,?_⟩
      exact iff_of_true rfl (Or.inr (not_not.mp failed))
  | elsewhere client reprocRequests =>
    cases Option.some.inj done
    exact ⟨⟨allowed.1,allowed.2.trans hi.list,hi.nonempty⟩,iff_of_true agree trivial⟩

omit [RequestMetadata M] in
/-- A client without repeating requests. -/
structure Start (s : SubmitClient M) : Prop where
  works : s.client.Works
  list : s.client.handler.streamingRequests=[]
  ids : s.repeatingRequests=[]

/-- CancelRequest cancels what it names as long as repeating lists do not replace one another, are
not for the reprocess thread, and no Flush fails while one is there; the step that breaks this
leaves a CancelRequest that does not. -/
theorem cancels_named {s : SubmitClient M} (hs : Start s) {steps : List (CancelStep M)}
    (hr : Run (Guarded (Replaces u) (Step u)) { submit := s } steps w) :
    w.CancelsNamed ∧ ∀ step w',Step u w step w' → (w'.CancelsNamed ↔ w.Replaces u step) := by
  have start : Inv { submit := s } := ⟨hs.works,hs.list,fun _ _ none => (by cases none)⟩
  refine hr.kept_iff_guard (I := Inv) ?_ ?_ start ((cancelsNamed_iff start).mpr hs.ids)
  · intro t step t' inv named stepped _
    exact (step_agrees inv ((cancelsNamed_iff inv).mp named) stepped).1
  · intro t step t' inv named stepped
    obtain ⟨kept,agrees⟩ := step_agrees inv ((cancelsNamed_iff inv).mp named) stepped
    exact (cancelsNamed_iff kept).trans agrees

section Tests

open StreamCalls (RequestPack previewCalls calmCalls strayRequest)

/-- A step but `elsewhere`, for runs that are evaluated. -/
def next (u : BufferUsage) (w : CancelWorld M) : CancelStep M → Option (CancelWorld M)
  | .elsewhere _ _ => none
  | step => w.perform u step

theorem Step.of_next (u : BufferUsage) (w : CancelWorld M) (step : CancelStep M)
    (w' : CancelWorld M) (h : w.next u step=some w') : Step u w step w' := by
  cases step with
  | elsewhere => cases h
  | submitRequestList | cancelRequest | flush => exact ⟨trivial,h⟩

instance (u : BufferUsage) (w : CancelWorld M) (step : CancelStep M) :
    Decidable (w.Replaces u step) :=
  match step with
  | .submitRequestList _ _ _ => inferInstanceAs (Decidable (_ → _ → _∧_))
  | .flush _ => inferInstanceAs (Decidable (_∨_))
  | .cancelRequest _ | .elsewhere _ _ => isTrue trivial

theorem preview_start : Start previewCalls.submit := ⟨Or.inr (Or.inl rfl),rfl,rfl⟩

/-- Every repeating list is cancelled before the next. -/
def cancelledSteps : List (CancelStep RequestPack) :=
  [.submitRequestList [strayRequest []] true calmCalls,.cancelRequest 3,.cancelRequest 0,
    .submitRequestList [strayRequest []] false calmCalls,
    .submitRequestList [strayRequest [],strayRequest []] true calmCalls]

theorem cancels_named_cancelled : ∃ w,Run (Guarded (Replaces .android) (Step .android))
    { submit := previewCalls.submit } cancelledSteps w ∧ (w.submit.cancelRequest 2).1=0 ∧
      w.CancelsNamed := by
  obtain ⟨w,run,cancelled⟩ := Run.of_exec_guarded (G := Replaces .android)
    (p := fun w : CancelWorld RequestPack => decide ((w.submit.cancelRequest 2).1=0))
    { submit := previewCalls.submit } cancelledSteps (Step.of_next .android) (by decide)
  exact ⟨w,run,of_decide_eq_true cancelled,(cancels_named preview_start run).1⟩

/-- A second repeating list replaces the first; the id of the first clears it. -/
theorem replaced_id_cancels : ¬∀ (u : BufferUsage) (s : SubmitClient RequestPack) steps w,Start s →
    Run (Step u) { submit := s } steps w → w.CancelsNamed := by
  intro all
  obtain ⟨w,run,replaced⟩ := Run.of_exec_any (p := fun w : CancelWorld RequestPack =>
      decide (w.installed.map Prod.fst=some 1 ∧ (w.submit.cancelRequest 0).1=0))
    { submit := previewCalls.submit } [.submitRequestList [strayRequest []] true calmCalls,
      .submitRequestList [strayRequest []] true calmCalls] (Step.of_next .android) (by decide)
  obtain ⟨installed,cancelled⟩ := of_decide_eq_true replaced
  have others := (all .android _ _ w preview_start run).others 0 fun list zero => by
    rw [zero] at installed
    cases installed
  rw [others] at cancelled
  exact absurd cancelled (show (-EINVAL : Int)≠0 by decide)

end Tests

end CancelWorld
end IotMedia.Camera

import IotMedia.Camera.ReturnedBuffers
import IotMedia.Camera.QueuedSubmissions

namespace IotMedia.Camera

open IotMedia.Framework

namespace DeviceClient

variable {M : Type}

/-- Initialize; `ready` says whether the camera provider is there and has answered. -/
def initializeClient (c : DeviceClient M) (ready : Bool) : DeviceClient M :=
  if c.state≠.NOT_INITIALIZED ∨ ready=false then c
  else { c with
    state := .CLOSED
    nextStreamId := 0
    reconfig := true }

/-- OpenCamera, as far as the state goes; `opened` says whether the device is open and described,
`handlerRuns` whether the request handler could be started. -/
def openCamera (c : DeviceClient M) (opened handlerRuns : Bool) : DeviceClient M :=
  if c.state≠.CLOSED ∨ opened=false then c
  else
    let c := { c with state := .NOT_CONFIGURED }
    if handlerRuns then c else c.setErrorStateLocked.1

/-- WaitUntilDrainedLocked from the end of its wait, with the result of the wait. -/
def drained (c : DeviceClient M) (res : Int) : DeviceClient M :=
  if res≠0 then c.setErrorStateLocked.1 else c

/-- Where SET_ERR leads from a state: errors stay, and no error comes up without a pause. -/
structure Halts (c c' : DeviceClient M) : Prop where
  absorbs : c.state=.ERROR → c'.state=.ERROR
  pauses : c'.state=.ERROR → c'.handler.togglePauseState=true ∨
    c.state=.ERROR ∧ c'.handler.togglePauseState=c.handler.togglePauseState

/-- STATE_ERROR, and the request handler paused with it. -/
def Halted (c : DeviceClient M) : Prop := c.state=.ERROR → c.handler.togglePauseState=true

variable {c d e : DeviceClient M} {u : BufferUsage} {env : ClientEnv M}

theorem Halts.refl (c : DeviceClient M) : Halts c c := ⟨id,fun h => Or.inr ⟨h,rfl⟩⟩

theorem Halts.trans (h : Halts c d) (h' : Halts d e) : Halts c e := by
  refine ⟨fun hc => h'.absorbs (h.absorbs hc),fun he => ?_⟩
  rcases h'.pauses he with paused|⟨hd,same⟩
  · exact Or.inl paused
  · rw [same]
    exact h.pauses hd

theorem Halts.halted (h : Halts c d) (hc : c.Halted) : d.Halted := by
  intro hd
  rcases h.pauses hd with paused|⟨error,same⟩
  · exact paused
  · rw [same]
    exact hc error

/-- Neither the state nor the pause changes. -/
theorem Halts.of_same (state : d.state=c.state)
    (pause : d.handler.togglePauseState=c.handler.togglePauseState) : Halts c d :=
  ⟨fun h => state.trans h,fun h => Or.inr ⟨state.symm.trans h,pause⟩⟩

/-- A working client goes to a state that is no error. -/
theorem Halts.of_working (before : c.state≠.ERROR) (after : d.state≠.ERROR) : Halts c d :=
  ⟨fun h => absurd h before,fun h => absurd h after⟩

theorem setErrorState_halts (c : DeviceClient M) : Halts c c.setErrorStateLocked.1 := by
  unfold setErrorStateLocked
  by_cases gone : c.state=.ERROR ∨ c.state=.NOT_INITIALIZED ∨ c.state=.CLOSED
  · rw [if_pos gone]
    exact .refl c
  · rw [if_neg gone]
    exact ⟨fun _ => rfl,fun _ => Or.inl rfl⟩

theorem notifyStatus_halts (c : DeviceClient M) (idle : Bool) :
    Halts c (c.notifyStatus idle).1 := by
  unfold notifyStatus
  by_cases away : c.state≠.RUNNING ∧ c.state≠.CONFIGURED
  · rw [if_pos away]
    exact .refl c
  · rw [if_neg away]
    have works : c.state≠.ERROR := by
      intro error
      exact away ⟨by simp [error],by simp [error]⟩
    refine .of_working works ?_
    cases idle <;> simp [internalUpdateStatusLocked]

theorem drained_halts (c : DeviceClient M) (res : Int) : Halts c (c.drained res) := by
  unfold drained
  split_ifs
  · exact setErrorState_halts c
  · exact .refl c

theorem initializeClient_halts (c : DeviceClient M) (ready : Bool) : Halts c (c.initializeClient ready) := by
  unfold initializeClient
  split_ifs with done
  · exact .refl c
  · push Not at done
    exact .of_working (by simp [done.1]) (by simp)

theorem openCamera_halts (c : DeviceClient M) (opened handlerRuns : Bool) :
    Halts c (c.openCamera opened handlerRuns) := by
  unfold openCamera
  split_ifs with done runs
  · exact .refl c
  all_goals
    push Not at done
    have closed : c.state≠.ERROR := by simp [done.1]
    have opening : Halts c { c with state := .NOT_CONFIGURED } := .of_working closed (by simp)
  · exact opening
  · exact opening.trans (setErrorState_halts _)

/-- A configuration finds a state other than STATE_ERROR, and leaves such a one. -/
theorem configure_halts (u : BufferUsage) (c : DeviceClient M) (env : ClientEnv M) :
    Halts c (c.configureStreamsLocked u env).client := by
  unfold configureStreamsLocked
  split_ifs with away
  · exact .refl c
  · exact .refl c
  all_goals
    have works : c.state≠.ERROR := by
      intro error
      exact away ⟨by simp [error],by simp [error]⟩
    dsimp only
    split_ifs
    all_goals exact .of_working works (by simp [internalUpdateStatusLocked,works])

/-- A configuration that succeeds is none of a client with an error. -/
theorem configure_works (h : (c.configureStreamsLocked u env).ret=0) :
    (c.configureStreamsLocked u env).client.state≠.ERROR := by
  have works : c.state≠.ERROR := by
    intro error
    simp [configureStreamsLocked,error,ENOSYS] at h
  intro error
  unfold configureStreamsLocked at error
  dsimp only at error
  split_ifs at error
  all_goals first
    | exact works error
    | cases error

theorem getRequestList_halts [RequestMetadata M] (u : BufferUsage) (env : ClientEnv M)
    (c : DeviceClient M) (ms : List M) (burstId : Nat) :
    Halts c (getRequestListLocked u env c burstId ms).client := by
  refine getRequestList_rule (P := Halts c) ?_ ?_ ms (.refl c) burstId
  · exact fun d h => h.trans (configure_halts u d env)
  · exact fun d id s h _ => h.trans (.of_same rfl rfl)

end DeviceClient

namespace SubmitClient

variable {M : Type} [RequestMetadata M] {u : BufferUsage}

omit [RequestMetadata M] in
theorem resume_pause (s : RequestHandler M) : s.resume.1.togglePauseState=s.togglePauseState := by
  obtain ⟨paused,same⟩ := s.resume_eq
  rw [same]

theorem queueRequests_halts (s : SubmitClient M) (env : SubmitListEnv M) (ms : List M)
    (streaming : Bool) :
    DeviceClient.Halts s.client (s.queueRequests u env ms streaming).2.client := by
  have got := DeviceClient.getRequestList_halts u env.toClientEnv s.client ms 0
  unfold queueRequests
  revert got
  generalize DeviceClient.getRequestListLocked u env.toClientEnv s.client 0 ms=listed
  intro got
  dsimp only
  split_ifs
  · exact got
  · exact got
  · exact got
  all_goals
    refine got.trans (.of_same rfl ?_)
    exact resume_pause _

theorem queueSubmission_halts (s : SubmitClient M) (env : SubmitListEnv M)
    (requests : List (Camera3Request M)) (streaming : Bool) :
    DeviceClient.Halts s.client (s.queueSubmission u env requests streaming).submit.client := by
  unfold queueSubmission
  by_cases none : requests=[]
  · rw [if_pos none]
    exact .refl s.client
  rw [if_neg none]
  cases s.client.state with
  | ERROR | NOT_INITIALIZED | CLOSED => exact .refl s.client
  | NOT_CONFIGURED | CONFIGURED | RUNNING =>
    dsimp only
    cases s.client.checkRequests s.nextRequestId requests with
    | error stop => cases stop <;> exact .refl s.client
    | ok metadataRequestList =>
      have queued := queueRequests_halts (u := u)
        { s with nextRequestId := s.nextRequestId+requests.length } env metadataRequestList streaming
      dsimp only
      split_ifs
      all_goals exact queued

end SubmitClient

namespace ClientWorld

open DeviceClient

variable {M : Type} {u : BufferUsage} {w w' : ClientWorld M} {env : ClientEnv M}
  {step : ClientStep M}

theorem finish_halts (w : ClientWorld M) (call : ResumedCall) :
    Halts w.client (w.finish call).1.client := by
  cases call <;> exact .of_same rfl rfl

/-- InternalResumeLocked ends the pause, which only a client without an error may do. -/
theorem resume_state (w : ClientWorld M) (call : ResumedCall) :
    (w.internalResumeLocked call).1.client.state=w.client.state ∧
    (w.internalResumeLocked call).1.client.handler.togglePauseState=false := by
  unfold internalResumeLocked
  dsimp only
  split_ifs
  · cases call <;> exact ⟨rfl,rfl⟩
  · cases call <;> exact ⟨rfl,rfl⟩
  · exact ⟨rfl,rfl⟩

theorem resume_halts {call : ResumedCall} (works : w.client.state≠.ERROR) :
    Halts w.client (w.internalResumeLocked call).1.client := by
  refine .of_working works ?_
  rw [(w.resume_state call).1]
  exact works

/-- With an error the call resumes at once. -/
def Resumes (s : Segment M) : Prop :=
  s.world.client.state=.ERROR ∧ ∃ call,s.onward=.resume call

theorem goOn_halts {s : Segment M} (h : ¬Resumes s) :
    Halts s.world.client (goOn u env s).1.client := by
  unfold goOn
  cases hs : s.onward with
  | done res => exact .refl _
  | resume call =>
    have works : s.world.client.state≠.ERROR := fun error => h ⟨error,call,hs⟩
    exact resume_halts works
  | reconfigure call =>
    have configured := configure_halts u s.world.client env
    dsimp only
    by_cases failed : (s.world.configureStreamsLocked u env).1≠0
    · rw [if_pos failed]
      exact configured
    · rw [if_neg failed]
      have ret : (s.world.client.configureStreamsLocked u env).ret=0 := not_not.mp failed
      exact configured.trans
        (resume_halts (w := (s.world.configureStreamsLocked u env).2) (configure_works ret))

/-- A call that resumes with an error leaves the error, and the handler without its pause. -/
theorem goOn_resumes {s : Segment M} (h : Resumes s) :
    (goOn u env s).1.client.state=.ERROR ∧
    (goOn u env s).1.client.handler.togglePauseState=false := by
  obtain ⟨error,call,hs⟩ := h
  obtain ⟨state,pause⟩ := s.world.resume_state call
  unfold goOn
  rw [hs]
  exact ⟨state.trans error,pause⟩

/-- The body of a call changes neither the state nor the handler. -/
theorem body_same (w : ClientWorld M) (env : ClientEnv M) (active : Bool) (call : ClientCall) :
    (w.body u env active call).world.client.state=w.client.state ∧
    (w.body u env active call).world.client.handler=w.client.handler := by
  cases call with
  | createStream p callback =>
    rcases addStream_cases u w env p active with ⟨-,equal⟩|⟨-,-,equal⟩|⟨-,-,equal⟩
    · rw [body,equal]
      exact ⟨rfl,rfl⟩
    · rw [body,equal]
      exact ⟨rfl,rfl⟩
    · rw [body,equal]
      cases active <;> exact ⟨rfl,rfl⟩
  | createInputStream p => cases active <;> exact ⟨rfl,rfl⟩
  | deleteStream id cache =>
    rcases w.dropStream_cases id cache with ⟨-,equal⟩|⟨-,-,res,-,equal⟩|⟨-,stream,-,equal⟩
    all_goals
      rw [body,equal]
      exact ⟨rfl,rfl⟩

/-- DeleteStream takes the last stream out of streams_, and resumes without a configuration. -/
def Empties (w : ClientWorld M) (id : Int) : Prop :=
  w.Removes id ∧ (w.client.streams.removeItem id).items=[]

theorem body_resumes {active : Bool} {call : ClientCall} :
    Resumes (w.body u env active call) ↔
      w.client.state=.ERROR ∧ ∃ id,call=.deleteStream id false ∧ w.Empties id := by
  have same := (body_same (u := u) w env active call).1
  unfold Resumes
  rw [same]
  refine and_congr_right fun _ => ?_
  cases call with
  | createStream p callback =>
    constructor
    · rintro ⟨call,resumes⟩
      rcases addStream_cases u w env p active with ⟨-,equal⟩|⟨-,-,equal⟩|⟨-,-,equal⟩
      all_goals
        rw [body,equal] at resumes
        try cases active
        all_goals cases resumes
    · rintro ⟨id,equal,-⟩
      cases equal
  | createInputStream p =>
    constructor
    · rintro ⟨call,resumes⟩
      cases active <;> cases resumes
    · rintro ⟨id,equal,-⟩
      cases equal
  | deleteStream id cache =>
    rcases w.dropStream_cases id cache with ⟨input,equal⟩|⟨-,stays,res,-,equal⟩|⟨removes,stream,-,equal⟩
    · rw [body,equal]
      constructor
      · rintro ⟨call,resumes⟩
        cases resumes
      · rintro ⟨id',same,⟨output,-⟩,-⟩
        cases same
        exact absurd input output
    · rw [body,equal]
      constructor
      · rintro ⟨call,resumes⟩
        cases resumes
      · rintro ⟨id',same,removes,-⟩
        cases same
        exact absurd removes stays
    · rw [body,equal]
      cases cache with
      | true =>
        constructor
        · rintro ⟨call,resumes⟩
          cases resumes
        · rintro ⟨id',same,-⟩
          cases same
      | false =>
        dsimp only
        rw [if_neg Bool.false_ne_true]
        constructor
        · rintro ⟨call,resumes⟩
          split_ifs at resumes with last
          exact ⟨id,rfl,removes,last⟩
        · rintro ⟨id',same,-,last⟩
          cases same
          exact ⟨_,if_pos last⟩

/-- A body that is entered with an error is that of a call that has waited. -/
theorem Enters.with_error {call : ClientCall} {w₁ : ClientWorld M} {active : Bool}
    (h : Enters w step call w₁ env active) : Halts w.client w₁.client ∧
      (w₁.client.state=.ERROR → ∃ i,step=.wake i 0 env ∧ w.waiting[i]?=some (.idle call) ∧
        w₁={ w with waiting := w.waiting.eraseIdx i }) := by
  cases h with
  | createStream hc | createInputStream _ _ hc | deleteCached hc =>
    exact ⟨.refl _,fun error => by simp [error] at hc⟩
  | deleteIdle hc =>
    refine ⟨⟨id,fun _ => Or.inl rfl⟩,fun error => ?_⟩
    have error : w.client.state=.ERROR := error
    simp [error] at hc
  | @awake i call env hi => exact ⟨.refl _,fun _ => ⟨i,rfl,hi,rfl⟩⟩

/-- The step wakes a DeleteStream from its wait for the idle state, in STATE_ERROR, and it takes
the last stream. -/
def Reopens (w : ClientWorld M) (step : ClientStep M) : Prop :=
  ∃ i id env,step=.wake i 0 env ∧ w.waiting[i]?=some (.idle (.deleteStream id false)) ∧
    w.client.state=.ERROR ∧ w.Empties id

/-- A step ends the pause of an error exactly if it reopens the handler. -/
def Treats (w : ClientWorld M) (step : ClientStep M) (w' : ClientWorld M) : Prop :=
  ¬w.Reopens step ∧ Halts w.client w'.client ∨
  w.Reopens step ∧ w'.client.state=.ERROR ∧ w'.client.handler.togglePauseState=false

theorem entered_treats {call : ClientCall} {w₁ : ClientWorld M} {active : Bool}
    (h : Enters w step call w₁ env active) :
    w.Treats step (goOn u env (w₁.body u env active call)).1 := by
  obtain ⟨halts,waited⟩ := h.with_error
  obtain ⟨state,handler⟩ := body_same (u := u) w₁ env active call
  have bodied : Halts w.client (w₁.body u env active call).world.client :=
    halts.trans (.of_same state (by rw [handler]))
  by_cases resumes : Resumes (w₁.body u env active call)
  · obtain ⟨error,id,rfl,empties⟩ := body_resumes.mp resumes
    obtain ⟨i,rfl,hi,rfl⟩ := waited error
    exact Or.inr ⟨⟨i,id,env,rfl,hi,error,empties⟩,goOn_resumes resumes⟩
  · refine Or.inl ⟨?_,bodied.trans (goOn_halts resumes)⟩
    rintro ⟨i,id,env',rfl,hi,error,empties⟩
    cases h with
    | awake hi' =>
      cases Option.some.inj (hi.symm.trans hi')
      exact resumes (body_resumes.mpr ⟨error,id,rfl,empties⟩)

/-- A step that wakes no call from its wait for the idle state. -/
theorem Treats.of_halts (halts : Halts w.client w'.client)
    (asleep : ∀ i env call,step=.wake i 0 env → w.waiting[i]?≠some (.idle call)) :
    w.Treats step w' := by
  refine Or.inl ⟨?_,halts⟩
  rintro ⟨i,id,env,rfl,hi,-⟩
  exact asleep i env _ rfl hi

theorem step_treats (h : Step u w step w')
    (same : ∀ c,step=.elsewhere c → Halts w.client c) : w.Treats step w' := by
  obtain ⟨ret,done,outcome⟩ := h.outcome
  cases outcome with
  | refused negative => exact .of_halts (.refl _) (by simp)
  | waits => exact .of_halts ⟨id,fun _ => Or.inl rfl⟩ (by simp)
  | entered enters => exact entered_treats enters
  | timedOut hi negative =>
    have halts := (setErrorState_halts w.client).trans (setErrorState_halts _)
    refine .of_halts halts ?_
    rintro j env' call' woken
    cases woken
    exact absurd negative (lt_irrefl 0)
  | @resumed i res env call hi client apart =>
    obtain ⟨wait,found,woken⟩ := Option.map_eq_some_iff.mp done
    cases Option.some.inj (hi.symm.trans found)
    let waited := if res≠0 then w.client.setErrorStateLocked.1 else w.client
    have halts : Halts w.client waited := by
      dsimp only [waited]
      split_ifs
      · exact setErrorState_halts w.client
      · exact .refl w.client
    let after : ClientWorld M := { w with
      client := { waited with pauseStateNotify := false }
      waiting := w.waiting.eraseIdx i }
    have noted : Halts waited after.client := .of_same rfl rfl
    refine .of_halts ?_ ?_
    · rw [← (Prod.mk.inj woken).1]
      exact halts.trans (noted.trans (finish_halts after call))
    · rintro j env' call' woken hj
      cases woken
      cases Option.some.inj (hi.symm.trans hj)
  | @configured batchSize camFeatureFlags env =>
    let flagged : DeviceClient M := { w.client with
      batchSize := batchSize
      camFeatureFlags := w.client.camFeatureFlags ||| camFeatureFlags }
    have due : Halts w.client flagged := .of_same rfl rfl
    exact .of_halts (due.trans (configure_halts u flagged env)) (by simp)
  | generated due => exact .of_halts (configure_halts u _ _) (by simp)
  | undue none => exact .of_halts (.refl _) (by simp)
  | @elsewhere client apart => exact .of_halts (same client rfl) (by simp)

end ClientWorld

/-- The client with its submissions and its frames; `raised` counts the calls of SET_ERR by the
handlers of messages that still have to take lock_. -/
structure ErrorWorld (M : Type) where
  world : ClientWorld M
  reprocRequests : List (CaptureRequest M)
  nextRequestId : Int
  repeatingRequests : List Int
  pending : PendingRequests M
  raised : Nat

/-- What a thread does that holds lock_, or the lock of the pending requests. SET_ERR comes from a
message, or with `setError` from the request handler and from notifications of no known type;
`drained` is the end of WaitUntilDrainedLocked, with the result of its wait. -/
inductive ErrorStep (M : Type)
  | initializeClient (ready : Bool)
  | openCamera (opened handlerRuns : Bool)
  | client (step : ClientStep M)
  | submitRequestList (requests : List (Camera3Request M)) (streaming : Bool)
      (env : SubmitListEnv M)
  | message (msg : HalMessage)
  | raise
  | setError
  | notifyStatus (idle : Bool)
  | drained (res : Int)

namespace ErrorWorld

open DeviceClient

variable {M : Type}

def client (w : ErrorWorld M) : DeviceClient M := w.world.client

def submit (w : ErrorWorld M) : SubmitClient M :=
  ⟨w.client,w.reprocRequests,w.nextRequestId,w.repeatingRequests⟩

def onClient (w : ErrorWorld M) (client : DeviceClient M) : ErrorWorld M :=
  { w with world := { w.world with client := client } }

def onSubmit (w : ErrorWorld M) (s : SubmitClient M) : ErrorWorld M :=
  { w.onClient s.client with
    reprocRequests := s.reprocRequests
    nextRequestId := s.nextRequestId
    repeatingRequests := s.repeatingRequests }

/-- A client that is constructed. -/
def construct [CameraMetadata M] (c : DeviceClient M) (monitorId : Int) (errorCb markCb : Bool)
    (s : PendingRequests M) : ErrorWorld M where
  world := .construct { c with
    state := .NOT_INITIALIZED
    handler := RequestHandler.construct monitorId errorCb markCb }
  reprocRequests := []
  nextRequestId := 0
  repeatingRequests := []
  pending := s
  raised := 0

variable [RequestMetadata M]

/-- A submission that aborts the process is no step. -/
def perform (u : BufferUsage) (w : ErrorWorld M) : ErrorStep M → Option (ErrorWorld M)
  | .initializeClient ready => some (w.onClient (w.client.initializeClient ready))
  | .openCamera opened handlerRuns => some (w.onClient (w.client.openCamera opened handlerRuns))
  | .client step => (w.world.perform u step).map fun r => { w with world := r.1 }
  | .submitRequestList requests streaming env =>
    let queued := w.submit.queueSubmission u env requests streaming
    match queued.ret with
    | .error .fault => none
    | _ => some (w.onSubmit queued.submit)
  | .message msg =>
    let received := w.pending.receive msg
    some { w with
      pending := received.1
      raised := w.raised+(setErrors received.2).length }
  | .raise =>
    if w.raised=0 then none
    else some { w.onClient w.client.setErrorStateLocked.1 with raised := w.raised-1 }
  | .setError => some (w.onClient w.client.setErrorStateLocked.1)
  | .notifyStatus idle => some (w.onClient (w.client.notifyStatus idle).1)
  | .drained res => some (w.onClient (w.client.drained res))

omit [RequestMetadata M] in
/-- What else happens to the client leaves its state and the pause of the handler alone. -/
def Allowed (w : ErrorWorld M) : ErrorStep M → Prop
  | .client (.elsewhere c) => ClientWorld.Apart w.client c ∧ c.state=w.client.state ∧
      c.handler.togglePauseState=w.client.handler.togglePauseState
  | .client step => w.world.Allowed step
  | _ => True

def Step (u : BufferUsage) (w : ErrorWorld M) (step : ErrorStep M) (w' : ErrorWorld M) : Prop :=
  w.Allowed step ∧ w.perform u step=some w'

omit [RequestMetadata M] in
/-- A DeleteStream without `cache` that goes on in STATE_ERROR leaves a stream in streams_, if it
takes one out. -/
def KeepsOne (w : ErrorWorld M) : ErrorStep M → Prop
  | .client step => ¬w.world.Reopens step
  | _ => True

variable {u : BufferUsage} {w w' : ErrorWorld M} {step : ErrorStep M} {steps : List (ErrorStep M)}

theorem step_cases (h : Step u w step w') :
    w.KeepsOne step ∧ Halts w.client w'.client ∨
    ¬w.KeepsOne step ∧ w'.client.state=.ERROR ∧ w'.client.handler.togglePauseState=false := by
  obtain ⟨allowed,done⟩ := h
  cases step with
  | client step =>
    obtain ⟨⟨after,ret⟩,performed,rfl⟩ := Option.map_eq_some_iff.mp done
    have treats : w.world.Treats step after := by
      refine ClientWorld.step_treats (u := u) ⟨?_,ret,performed⟩ ?_
      · cases step with
        | elsewhere c => exact allowed.1
        | call | configureStreams | generateCaptureRequest | wake => exact allowed
      · rintro c rfl
        exact .of_same allowed.2.1 allowed.2.2
    exact treats.imp_right fun reopens => ⟨not_not.mpr reopens.1,reopens.2⟩
  | submitRequestList requests streaming env =>
    have halts := SubmitClient.queueSubmission_halts (u := u) w.submit env requests streaming
    refine Or.inl ⟨trivial,?_⟩
    rw [perform] at done
    split at done
    · cases done
    · cases Option.some.inj done
      exact halts
  | raise =>
    rw [perform] at done
    split_ifs at done
    cases Option.some.inj done
    exact Or.inl ⟨trivial,setErrorState_halts w.client⟩
  | initializeClient ready =>
    cases Option.some.inj done
    exact Or.inl ⟨trivial,initializeClient_halts w.client ready⟩
  | openCamera opened handlerRuns =>
    cases Option.some.inj done
    exact Or.inl ⟨trivial,openCamera_halts w.client opened handlerRuns⟩
  | message msg =>
    cases Option.some.inj done
    exact Or.inl ⟨trivial,.refl w.client⟩
  | setError =>
    cases Option.some.inj done
    exact Or.inl ⟨trivial,setErrorState_halts w.client⟩
  | notifyStatus idle =>
    cases Option.some.inj done
    exact Or.inl ⟨trivial,notifyStatus_halts w.client idle⟩
  | drained res =>
    cases Option.some.inj done
    exact Or.inl ⟨trivial,drained_halts w.client res⟩

/-- STATE_ERROR is kept, whatever the steps. -/
theorem step_absorbs (h : Step u w step w') (error : w.client.state=.ERROR) :
    w'.client.state=.ERROR := by
  rcases step_cases h with ⟨-,halts⟩|⟨-,still,-⟩
  · exact halts.absorbs error
  · exact still

theorem step_halted_iff (halted : w.client.Halted) (h : Step u w step w') :
    w'.client.Halted ↔ w.KeepsOne step := by
  rcases step_cases h with ⟨keeps,halts⟩|⟨reopens,error,paused⟩
  · exact iff_of_true (halts.halted halted) keeps
  · refine iff_of_false (fun stays => ?_) reopens
    have stopped := stays error
    rw [paused] at stopped
    cases stopped

/-- STATE_ERROR is never left, and the handler is paused in it as long as no DeleteStream that goes
on in it takes the last stream out of streams_; the step that does ends the pause. -/
theorem error_halts {c : DeviceClient M} {monitorId : Int} {errorCb markCb : Bool}
    {s : PendingRequests M}
    (hr : Run (Guarded KeepsOne (Step u)) (construct c monitorId errorCb markCb s) steps w) :
    (∀ (v v' : ErrorWorld M) steps',Run (Step u) v steps' v' → v.client.state=.ERROR →
      v'.client.state=.ERROR) ∧
    w.client.Halted ∧ ∀ step w',Step u w step w' → (w'.client.Halted ↔ w.KeepsOne step) := by
  refine ⟨?_,hr.kept_iff_guard (I := fun _ => True) (P := fun w => w.client.Halted)
    (fun _ _ _ _ _ _ _ => trivial) ?_ trivial (fun error => (by cases error))⟩
  · intro v v' steps' hr'
    exact hr'.invariant (P := fun w : ErrorWorld M => w.client.state=.ERROR)
      fun t step t' ht stepped => step_absorbs stepped ht
  · intro t step t' _ halted stepped
    exact step_halted_iff halted stepped

section Tests

open StreamCalls (RequestPack previewCalls calmCalls)

/-- A step but `elsewhere`, for runs that are evaluated. -/
def next (u : BufferUsage) (w : ErrorWorld M) (step : ErrorStep M) : Option (ErrorWorld M) :=
  match step with
  | .client (.elsewhere _) => none
  | .client (.wake _ res _) => if res ≤ 0 then w.perform u step else none
  | _ => w.perform u step

theorem Step.of_next (u : BufferUsage) (w : ErrorWorld M) (step : ErrorStep M) (w' : ErrorWorld M)
    (h : w.next u step=some w') : Step u w step w' := by
  cases step with
  | client step =>
    cases step with
    | elsewhere => cases h
    | wake i res env =>
      rw [next] at h
      split_ifs at h with fine
      exact ⟨fine,h⟩
    | call | configureStreams | generateCaptureRequest => exact ⟨trivial,h⟩
  | _ => exact ⟨trivial,h⟩

def constructedWorld : ErrorWorld RequestPack :=
  construct previewCalls.client 0 true true { PendingRequests.plain with
    pendingRequests := KeyedVector.empty
    pendingErrorRequests := KeyedVector.empty
    resultMetadataQueue := some [] }

/-- The only stream is to be deleted while captures run, and the HAL reports ERROR_DEVICE. -/
def failingSteps : List (ErrorStep RequestPack) :=
  [.initializeClient true,.openCamera true true,
    .client (.call (.createStream ClientWorld.previewParameters true) calmCalls.toClientEnv),
    .client (.configureStreams 1 0 calmCalls.toClientEnv),.notifyStatus false,
    .client (.call (.deleteStream 0 false) calmCalls.toClientEnv),
    .message (.error .ERROR_DEVICE 0),.raise]

theorem error_halts_failing : ∃ w,Run (Step .android) constructedWorld failingSteps w ∧
    w.client.state=.ERROR ∧ w.client.handler.togglePauseState=true := by
  obtain ⟨w,run,error⟩ := Run.of_exec_any (p := fun w : ErrorWorld RequestPack =>
    decide (w.client.state=.ERROR)) constructedWorld failingSteps (Step.of_next .android) (by decide)
  have kept : Run (Guarded KeepsOne (Step .android)) constructedWorld failingSteps w := by
    refine run.guard fun step hstep t => ?_
    cases step with
    | client step =>
      rintro ⟨i,id,env,rfl,-⟩
      simp [failingSteps] at hstep
    | _ => trivial
  exact ⟨w,run,of_decide_eq_true error,(error_halts kept).2.1 (of_decide_eq_true error)⟩

/-- The DeleteStream goes on, takes the stream, and ends the pause. -/
theorem error_reopened : ¬∀ (u : BufferUsage) (c : DeviceClient RequestPack) monitorId errorCb
    markCb s steps w,Run (Step u) (construct c monitorId errorCb markCb s) steps w →
      w.client.Halted := by
  intro all
  obtain ⟨w,run,reopened⟩ := Run.of_exec_any (p := fun w : ErrorWorld RequestPack =>
      decide (w.client.state=.ERROR ∧ w.client.handler.togglePauseState=false)) constructedWorld
    (failingSteps++[.client (.wake 0 0 calmCalls.toClientEnv)]) (Step.of_next .android) (by decide)
  obtain ⟨error,pause⟩ := of_decide_eq_true reopened
  have halted := all .android _ 0 true true _ _ w run error
  rw [pause] at halted
  cases halted

end Tests

end ErrorWorld
end IotMedia.Camera

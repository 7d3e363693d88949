import IotMedia.Camera.RequestHandler
import IotMedia.Framework.Run

namespace IotMedia.Camera

open IotMedia.Framework RequestHandler

/-- Where the handler's thread is: at WaitOnPause or in its wait, at GetRequest or in its wait, with
a request from GetRequest, or past the first block of SubmitRequest with the settings it chose. -/
inductive Stage (M : Type)
  | waitOnPause
  | paused
  | getRequest
  | waiting
  | got (request : CaptureRequest M)
  | prepared (request : CaptureRequest M) (settings : Option M)

/-- The thread has no request. -/
def Stage.resting {M : Type} : Stage M → Bool
  | .waitOnPause | .paused | .getRequest | .waiting => true
  | .got _ | .prepared _ _ => false

/-- A request as processCaptureRequest got it, and the settings the HAL would reuse. -/
structure Handed (M : Type) where
  request : CaptureRequest M
  settings : Option M
  reused : Option M

/-- The handler and its HAL, and whether the client is in STATE_ERROR; `halSettings` are the last
settings accepted since the last FinishConfiguration. -/
structure SettingsWorld (M : Type) where
  handler : RequestHandler M
  errorState : Bool := false
  stage : Stage M := .waitOnPause
  halSettings : Option M := none
  handed : List (Handed M) := []

inductive SettingsStep (M : Type)
  | queueRequestList (requests : List (CaptureRequest M))
  | setRepeatingRequests (requests : List (CaptureRequest M))
  | clearRepeatingRequests
  | clear
  | togglePause (pause : Bool)
  | finishConfiguration (batchSize : Nat)
  | setErrorState
  | waitOnPause
  | pauseWoken (timedOut exitPending : Bool)
  | getRequest
  | getRequestWoken (exitPending : Bool)
  | chooseSettings
  | submit (outcome : SubmitOutcome)

/-- The outcomes with which the request reached processCaptureRequest. -/
def SubmitOutcome.handed (outcome : SubmitOutcome) : Bool :=
  outcome=.halFailed || outcome=.accepted

/-- The outcomes for which SubmitRequest raises SIG_ERROR; for a missing mark_cb_ it does not. -/
def SubmitOutcome.signals (outcome : SubmitOutcome) (markCb : Bool) : Bool :=
  outcome=.halFailed || (outcome=.markFailed && markCb)

namespace SettingsWorld

variable {M : Type} [CameraMetadata M]

omit [CameraMetadata M] in
/-- SetErrorStateLockedV of the client, which set_error_ leads to as well. -/
def setErrorState (w : SettingsWorld M) : SettingsWorld M :=
  if w.errorState then w
  else { w with handler := (w.handler.togglePause true).1,errorState := true }

/-- The rest of SubmitRequest, which ends as the outcome says. -/
def submit (w : SettingsWorld M) (r : CaptureRequest M) (settings : Option M)
    (outcome : SubmitOutcome) : SettingsWorld M :=
  let signalled := if outcome.signals w.handler.markCb then w.setErrorState else w
  { signalled with
    handler := signalled.handler.finishRequest
    stage := .waitOnPause
    halSettings := if outcome=.accepted ∧ settings.isSome then settings else w.halSettings
    handed := if outcome.handed then w.handed++[⟨r,settings,w.halSettings⟩] else w.handed }

def perform (w : SettingsWorld M) : SettingsStep M → SettingsWorld M
  | .queueRequestList requests => { w with handler := (w.handler.queueRequestList requests).1 }
  | .setRepeatingRequests requests =>
    { w with handler := (w.handler.setRepeatingRequests requests).1 }
  | .clearRepeatingRequests => { w with handler := w.handler.clearRepeatingRequests.1 }
  | .clear => { w with handler := w.handler.clear.1 }
  | .togglePause pause => { w with handler := (w.handler.togglePause pause).1 }
  | .finishConfiguration batchSize =>
    { w with handler := w.handler.finishConfiguration batchSize,halSettings := none }
  | .setErrorState => w.setErrorState
  | .waitOnPause =>
    { w with
      handler := w.handler.waitOnPause.1
      stage := if w.handler.waitOnPause.2.2 then .paused else .getRequest }
  | .pauseWoken timedOut exitPending =>
    -- ThreadLoop returns true and comes back; else the frame counter is not tested again
    if timedOut ∨ exitPending then { w with stage := .waitOnPause }
    else if w.handler.togglePauseState then
      { w with handler := { w.handler with pausedState := true },stage := .paused }
    else { w with stage := .getRequest }
  | .getRequest =>
    match w.handler.getRequest with
    | some got => { w with handler := got.1,stage := .got got.2.1 }
    | none => { w with stage := .waiting }
  | .getRequestWoken exitPending =>
    let woken := w.handler.getRequestWoken exitPending
    { w with
      handler := woken.1
      stage := match woken.2.1 with
        | some request => .got request
        | none => .waitOnPause }
  | .chooseSettings =>
    match w.stage with
    | .got r =>
      let chosen := w.handler.chooseSettings r
      { w with handler := chosen.1,stage := .prepared chosen.2.1 chosen.2.2 }
    | _ => w
  | .submit outcome =>
    match w.stage with
    | .prepared r settings => w.submit r settings outcome
    | _ => w

/-- Requests of one id carry one metadata, and the client counts its ids from zero. -/
def Carries (metadataOf : Int → M) (r : CaptureRequest M) : Prop :=
  0 ≤ r.resultExtras.requestId ∧ r.metadata=metadataOf r.resultExtras.requestId

/-- The thread takes its steps in order, WaitOnPause does not divide by zero, processCaptureRequest
comes after mark_cb_, and what the client queues carries its metadata. -/
def Allowed (metadataOf : Int → M) (w : SettingsWorld M) : SettingsStep M → Prop
  | .queueRequestList requests => ∀ r∈requests,Carries metadataOf r
  | .setRepeatingRequests requests => ∀ r∈requests,Carries metadataOf r
  | .waitOnPause => w.stage=.waitOnPause ∧ w.handler.batchSize≠0
  | .pauseWoken _ _ => w.stage=.paused
  | .getRequest => w.stage=.getRequest
  | .getRequestWoken _ => w.stage=.waiting
  | .chooseSettings => ∃ r,w.stage=.got r
  | .submit outcome => (∃ r settings,w.stage=.prepared r settings) ∧
    (outcome.handed=true → w.handler.markCb=true)
  | _ => True

def Step (metadataOf : Int → M) (w : SettingsWorld M) (step : SettingsStep M)
    (w' : SettingsWorld M) : Prop :=
  w.Allowed metadataOf step ∧ w'=w.perform step

/-- An initialized handler, and a HAL without settings. -/
structure Start (w : SettingsWorld M) : Prop where
  handler : ∃ monitorId errorCb markCb,w.handler=RequestHandler.construct monitorId errorCb markCb
  errorState : w.errorState=false
  stage : w.stage=.waitOnPause
  halSettings : w.halSettings=none
  handed : w.handed=[]

/-- Whatever was handed over with empty settings reuses its own metadata. -/
def Reused (metadataOf : Int → M) (w : SettingsWorld M) : Prop :=
  ∀ h∈w.handed,h.settings=none →
    h.reused=some (CameraMetadata.sort (metadataOf h.request.resultExtras.requestId))

/-- A request that goes with its settings is accepted, unless the cached request is dropped anyway
or the HAL has these settings already; and no configuration ends before a request that goes
without settings has been handed over. -/
def Settles (w : SettingsWorld M) : SettingsStep M → Prop
  | .submit outcome => ∀ r m,w.stage=.prepared r (some m) →
    outcome=.accepted ∨ w.handler.configurationUpdate=true ∨ w.halSettings=some m
  | .finishConfiguration _ =>
    (∀ r,w.stage=.got r →
      w.handler.oldRequest.resultExtras.requestId≠r.resultExtras.requestId) ∧
    ∀ r,w.stage≠.prepared r none
  | _ => True

/-- The client is not in STATE_ERROR, in which it refuses to queue requests; WaitOnPause has a batch
to count by, and there is a mark_cb_. -/
structure Serving (w : SettingsWorld M) : Prop where
  noError : w.errorState=false
  batch : w.handler.batchSize≠0
  markCb : w.handler.markCb=true

/-- The HAL has the settings of the cached request. -/
def Cached (metadataOf : Int → M) (w : SettingsWorld M) : Prop :=
  w.handler.oldRequest.resultExtras.requestId=-1 ∨
  w.halSettings=some (CameraMetadata.sort
    (metadataOf w.handler.oldRequest.resultExtras.requestId))

/-- What holds of the cache at each stage of the thread. -/
def StageOk (metadataOf : Int → M) (w : SettingsWorld M) : Prop :=
  match w.stage with
  | .waitOnPause | .paused | .getRequest | .waiting =>
    w.handler.configurationUpdate=true ∨ w.Cached metadataOf
  | .got r => Carries metadataOf r ∧
    (w.handler.configurationUpdate=true ∨ w.Cached metadataOf) ∧
    (w.handler.oldRequest.resultExtras.requestId=r.resultExtras.requestId →
      w.Cached metadataOf)
  | .prepared r none => 0 ≤ r.resultExtras.requestId ∧
    w.handler.oldRequest.resultExtras.requestId=r.resultExtras.requestId ∧
    w.Cached metadataOf
  | .prepared r (some m) => 0 ≤ r.resultExtras.requestId ∧
    m=CameraMetadata.sort (metadataOf r.resultExtras.requestId) ∧
    w.handler.oldRequest.resultExtras.requestId=r.resultExtras.requestId

structure Inv (metadataOf : Int → M) (w : SettingsWorld M) : Prop where
  queued : ∀ r∈w.handler.requests,Carries metadataOf r
  repeating : ∀ r∈w.handler.streamingRequests,Carries metadataOf r
  stage : w.StageOk metadataOf
  reused : w.Reused metadataOf

variable {metadataOf : Int → M} {w w' : SettingsWorld M} {s t : RequestHandler M}
  {r : CaptureRequest M}

omit [CameraMetadata M] in
/-- The next request was queued or repeats, and what stays did too. -/
theorem nextRequest_from (h : s.nextRequest=some (t,r)) :
    (∃ a∈s.requests++s.streamingRequests,∃ k,r=a.number k) ∧
    (∀ q∈t.requests,q∈s.requests++s.streamingRequests) ∧
    t.streamingRequests=s.streamingRequests ∧ t.oldRequest=s.oldRequest ∧
    t.configurationUpdate=s.configurationUpdate := by
  unfold nextRequest at h
  cases hr : s.requests with
  | nil =>
    cases hs : s.streamingRequests with
    | nil => simp [hr,hs] at h
    | cons a rest =>
      simp only [hr,hs,Option.some.injEq,Prod.mk.injEq] at h
      obtain ⟨rfl,rfl⟩ := h
      refine ⟨⟨a,by simp,_,rfl⟩,?_,rfl,rfl,rfl⟩
      intro q hq
      exact List.mem_cons_of_mem a hq
  | cons a rest =>
    cases hf : (a::rest).find? (fun q => q.input) with
    | none =>
      simp only [hr,hf,Option.some.injEq,Prod.mk.injEq] at h
      obtain ⟨rfl,rfl⟩ := h
      refine ⟨⟨a,by simp,_,rfl⟩,?_,rfl,rfl,rfl⟩
      intro q hq
      exact List.mem_append_left _ (List.mem_cons_of_mem a hq)
    | some b =>
      simp only [hr,hf,Option.some.injEq,Prod.mk.injEq] at h
      obtain ⟨rfl,rfl⟩ := h
      refine ⟨⟨b,List.mem_append_left _ (List.mem_of_find?_eq_some hf),_,rfl⟩,?_,rfl,rfl,rfl⟩
      intro q hq
      exact List.mem_append_left _ (List.mem_of_mem_eraseP hq)

omit [CameraMetadata M] in
/-- An error may ask for a pause, and does no more. -/
theorem setErrorState_eq (w : SettingsWorld M) : ∃ toggle errorState,w.setErrorState={ w with
    handler := { w.handler with togglePauseState := toggle },errorState := errorState } := by
  unfold setErrorState
  split_ifs
  · exact ⟨w.handler.togglePauseState,w.errorState,rfl⟩
  · exact ⟨true,true,rfl⟩

/-- Whether the request is finished before or after does not matter to an error. -/
theorem setErrorState_finishRequest {v : SettingsWorld M} (state : v.errorState=w.errorState)
    (finished : v.handler=w.handler.finishRequest) :
    w.setErrorState.handler.finishRequest=v.setErrorState.handler := by
  unfold setErrorState
  rw [state]
  split_ifs
  · exact finished.symm
  · rw [finished]
    rfl

/-- What SubmitRequest does, apart from the error that it may raise. -/
theorem submit_eq (w : SettingsWorld M) (r : CaptureRequest M) (settings : Option M)
    (outcome : SubmitOutcome) : ∃ toggle errorState,w.submit r settings outcome={ w with
      handler := { w.handler.finishRequest with togglePauseState := toggle }
      errorState := errorState
      stage := .waitOnPause
      halSettings := if outcome=.accepted ∧ settings.isSome then settings else w.halSettings
      handed := if outcome.handed then w.handed++[⟨r,settings,w.halSettings⟩]
        else w.handed } := by
  unfold submit
  dsimp only
  by_cases signals : outcome.signals w.handler.markCb=true
  · obtain ⟨toggle,errorState,same⟩ := setErrorState_eq w
    rw [if_pos signals,same]
    exact ⟨toggle,errorState,rfl⟩
  · rw [if_neg signals]
    exact ⟨w.handler.togglePauseState,w.errorState,rfl⟩

theorem Inv.current (hi : Inv metadataOf w) (rests : w.stage.resting=true) :
    w.handler.configurationUpdate=true ∨ w.Cached metadataOf := by
  have ok := hi.stage
  unfold StageOk at ok
  cases at_ : w.stage with
  | waitOnPause | paused | getRequest | waiting =>
    rw [at_] at ok
    exact ok
  | got | prepared =>
    rw [at_] at rests
    cases rests

/-- As long as the thread has no request neither its stage nor the pause matters. -/
theorem Inv.between (hi : Inv metadataOf w) (rests : w.stage.resting=true) {stage : Stage M}
    (between : stage.resting=true) (paused : Bool) : Inv metadataOf
      { w with handler := { w.handler with pausedState := paused },stage := stage } := by
  refine ⟨hi.queued,hi.repeating,?_,hi.reused⟩
  cases stage with
  | waitOnPause | paused | getRequest | waiting => exact hi.current rests
  | got | prepared => cases between

/-- A request reaches the thread, and a pending configuration drops the cached request. -/
theorem got_inv (hi : Inv metadataOf w)
    (ok : w.handler.configurationUpdate=true ∨ w.Cached metadataOf)
    {got : RequestHandler M × CaptureRequest M × List HandlerEffect}
    (h : w.handler.getRequest=some got) :
    Inv metadataOf { w with handler := got.1,stage := .got got.2.1 } := by
  unfold getRequest at h
  obtain ⟨next,hn,rfl⟩ := Option.map_eq_some_iff.mp h
  obtain ⟨⟨a,ha,k,number⟩,left,streaming,old,update⟩ := nextRequest_from (t := next.1)
    (r := next.2) hn
  have carried : ∀ q∈w.handler.requests++w.handler.streamingRequests,Carries metadataOf q := by
    intro q hq
    cases List.mem_append.mp hq with
    | inl here => exact hi.queued q here
    | inr here => exact hi.repeating q here
  have cached : SettingsWorld.Cached metadataOf { w with
      handler := (next.1.takeRequest next.2).1
      stage := .got next.2 } := by
    unfold Cached takeRequest
    dsimp only
    rw [update,old]
    by_cases hu : w.handler.configurationUpdate=true
    · rw [if_pos hu]
      exact Or.inl rfl
    · rw [if_neg hu]
      exact ok.resolve_left hu
  refine ⟨?_,?_,⟨?_,Or.inr cached,fun _ => cached⟩,hi.reused⟩
  · intro q hq
    exact carried q (left q hq)
  · intro q hq
    apply hi.repeating q
    rw [← streaming]
    exact hq
  · show Carries metadataOf next.2
    rw [number]
    exact carried a ha

theorem choose_inv (hi : Inv metadataOf w) (hs : w.stage=.got r) :
    Inv metadataOf (w.perform .chooseSettings) := by
  have ok := hi.stage
  unfold StageOk at ok
  simp only [hs] at ok
  obtain ⟨⟨positive,metadata⟩,-,cached⟩ := ok
  unfold perform chooseSettings
  simp only [hs]
  split_ifs with hid
  · refine ⟨hi.queued,hi.repeating,?_,hi.reused⟩
    refine ⟨positive,?_,rfl⟩
    rw [metadata]
  · have same : w.handler.oldRequest.resultExtras.requestId=r.resultExtras.requestId :=
      not_ne_iff.mp hid
    exact ⟨hi.queued,hi.repeating,⟨positive,same,cached same⟩,hi.reused⟩

/-- A request may go without settings where the HAL has those of its metadata. -/
theorem handed_reused (reused : w.Reused metadataOf) {settings : Option M}
    (fits : settings=none →
      w.halSettings=some (CameraMetadata.sort (metadataOf r.resultExtras.requestId)))
    (outcome : SubmitOutcome) :
    ∀ h∈(if outcome.handed then w.handed++[⟨r,settings,w.halSettings⟩] else w.handed),
      h.settings=none →
        h.reused=some (CameraMetadata.sort (metadataOf h.request.resultExtras.requestId)) := by
  intro h hm hn
  split_ifs at hm
  · cases List.mem_append.mp hm with
    | inl old => exact reused h old hn
    | inr new =>
      cases List.mem_singleton.mp new
      exact fits hn
  · exact reused h hm hn

theorem submit_inv (hi : Inv metadataOf w) {settings : Option M}
    (hs : w.stage=.prepared r settings) {outcome : SubmitOutcome}
    (hc : w.Settles (.submit outcome)) : Inv metadataOf (w.submit r settings outcome) := by
  have ok := hi.stage
  unfold StageOk at ok
  obtain ⟨toggle,errorState,same_submit⟩ := submit_eq w r settings outcome
  rw [same_submit]
  cases settings with
  | none =>
    simp only [hs] at ok
    obtain ⟨positive,same,cached⟩ := ok
    have known : w.halSettings=
        some (CameraMetadata.sort (metadataOf r.resultExtras.requestId)) := by
      cases cached with
      | inl dropped => omega
      | inr known => rw [← same]; exact known
    refine ⟨hi.queued,hi.repeating,Or.inr (Or.inr ?_),handed_reused hi.reused (fun _ => known) _⟩
    simp only [Option.isSome_none,Bool.false_eq_true,and_false,if_false]
    rw [known,← same]
    rfl
  | some m =>
    simp only [hs] at ok
    obtain ⟨positive,metadata,same⟩ := ok
    refine ⟨hi.queued,hi.repeating,?_,handed_reused hi.reused (fun none => by cases none) _⟩
    rcases hc r m hs with accepted|update|already
    · refine Or.inr (Or.inr ?_)
      simp only [accepted,Option.isSome_some,and_self,if_true]
      rw [metadata,← same]
      rfl
    · exact Or.inl update
    · refine Or.inr (Or.inr ?_)
      simp only [already,ite_self]
      rw [metadata,← same]
      rfl

theorem finish_inv (hi : Inv metadataOf w) {n : Nat} (hc : w.Settles (.finishConfiguration n)) :
    Inv metadataOf (w.perform (.finishConfiguration n)) := by
  refine ⟨hi.queued,hi.repeating,?_,hi.reused⟩
  have ok := hi.stage
  unfold StageOk at ok
  unfold StageOk perform
  cases hs : w.stage with
  | waitOnPause | paused | getRequest | waiting => exact Or.inl rfl
  | got r =>
    simp only [hs] at ok
    exact ⟨ok.1,Or.inl rfl,fun same => absurd same (hc.1 r hs)⟩
  | prepared r settings =>
    cases settings with
    | none => exact absurd hs (hc.2 r)
    | some m =>
      simp only [hs] at ok
      exact ok

theorem step_inv (hi : Inv metadataOf w) (step : SettingsStep M) (hc : w.Settles step)
    (h : Step metadataOf w step w') : Inv metadataOf w' := by
  rw [h.2]
  have allowed := h.1
  cases step with
  | queueRequestList rs =>
    obtain ⟨paused,same⟩ := resume_eq { w.handler with requests := w.handler.requests++rs }
    simp only [perform,queueRequestList,same]
    refine ⟨?_,hi.repeating,hi.stage,hi.reused⟩
    intro q hq
    cases List.mem_append.mp hq with
    | inl old => exact hi.queued q old
    | inr new => exact allowed q new
  | setRepeatingRequests rs =>
    obtain ⟨paused,same⟩ := resume_eq { w.handler with streamingRequests := rs }
    simp only [perform,setRepeatingRequests,same]
    exact ⟨hi.queued,allowed,hi.stage,hi.reused⟩
  | clearRepeatingRequests =>
    exact ⟨hi.queued,fun q hq => by simp [perform,clearRepeatingRequests] at hq,hi.stage,hi.reused⟩
  | clear =>
    exact ⟨fun q hq => by simp [perform,RequestHandler.clear] at hq,
      fun q hq => by simp [perform,RequestHandler.clear] at hq,hi.stage,hi.reused⟩
  | togglePause pause => exact ⟨hi.queued,hi.repeating,hi.stage,hi.reused⟩
  | finishConfiguration n => exact finish_inv hi hc
  | setErrorState =>
    obtain ⟨toggle,errorState,same⟩ := setErrorState_eq w
    simp only [perform,same]
    exact ⟨hi.queued,hi.repeating,hi.stage,hi.reused⟩
  | waitOnPause =>
    have rests : w.stage.resting=true := by rw [allowed.1]; rfl
    obtain ⟨paused,same⟩ := w.handler.waitOnPause_eq.1
    simp only [perform,same]
    refine hi.between rests ?_ paused
    split_ifs
    · rfl
    · rfl
  | pauseWoken timedOut exitPending =>
    have at_ : w.stage=.paused := allowed
    have rests : w.stage.resting=true := by rw [at_]; rfl
    simp only [perform]
    split_ifs
    · exact hi.between rests rfl w.handler.pausedState
    · exact hi.between rests rfl true
    · exact hi.between rests rfl w.handler.pausedState
  | getRequest =>
    have at_ : w.stage=.getRequest := allowed
    have rests : w.stage.resting=true := by rw [at_]; rfl
    cases hg : w.handler.getRequest with
    | none =>
      simp only [perform,hg]
      exact hi.between rests rfl w.handler.pausedState
    | some got =>
      simp only [perform,hg]
      exact got_inv hi (hi.current rests) hg
  | getRequestWoken exitPending =>
    have at_ : w.stage=.waiting := allowed
    have rests : w.stage.resting=true := by rw [at_]; rfl
    rcases w.handler.getRequestWoken_cases exitPending with ⟨paused,l,same⟩|⟨got,hg,woken⟩
    · simp only [perform,same]
      exact hi.between rests rfl paused
    · simp only [perform,woken]
      exact got_inv hi (hi.current rests) hg
  | chooseSettings =>
    obtain ⟨r,hr⟩ := allowed
    exact choose_inv hi hr
  | submit outcome =>
    obtain ⟨⟨r,settings,hs⟩,-⟩ := allowed
    simp only [perform,hs]
    exact submit_inv hi hs hc

theorem start_inv (hs : Start w) : Inv metadataOf w := by
  obtain ⟨monitorId,errorCb,markCb,handler⟩ := hs.handler
  refine ⟨?_,?_,?_,?_⟩
  · intro r hr
    simp [handler,RequestHandler.construct] at hr
  · intro r hr
    simp [handler,RequestHandler.construct] at hr
  · unfold StageOk Cached
    rw [hs.stage,handler]
    exact Or.inr (Or.inl rfl)
  · intro h hm
    simp [hs.handed] at hm

/-- Handing a request over without settings while the HAL would reuse others. -/
theorem submit_not_reused (hr : w.halSettings≠
      some (CameraMetadata.sort (metadataOf r.resultExtras.requestId))) :
    ¬(w.submit r none .accepted).Reused metadataOf := by
  intro reused
  obtain ⟨toggle,errorState,same⟩ := submit_eq w r none .accepted
  have last : (⟨r,none,w.halSettings⟩ : Handed M)∈(w.submit r none .accepted).handed := by
    simp [same,SubmitOutcome.handed]
  exact hr (reused _ last rfl)

variable (metadataOf) in
/-- The request of the thread goes without settings, and the HAL would reuse others. -/
theorem got_breaks (hs : w.stage=.got r)
    (same : w.handler.oldRequest.resultExtras.requestId=r.resultExtras.requestId)
    (hr : w.halSettings≠some (CameraMetadata.sort (metadataOf r.resultExtras.requestId)))
    (marks : w.handler.markCb=true) :
    ∃ steps w'',Run (Step metadataOf) w steps w'' ∧ ¬w''.Reused metadataOf := by
  have chosen : w.perform .chooseSettings={ w with stage := .prepared r none } := by
    simp [perform,hs,chooseSettings,same]
  have first : Step metadataOf w .chooseSettings { w with stage := .prepared r none } :=
    ⟨⟨r,hs⟩,chosen.symm⟩
  have second : Step metadataOf { w with stage := .prepared r none } (.submit .accepted)
      (({ w with stage := .prepared r none } : SettingsWorld M).submit r none .accepted) :=
    ⟨⟨⟨r,none,rfl⟩,fun _ => marks⟩,rfl⟩
  exact ⟨_,_,.cons first (.cons second .nil),submit_not_reused hr⟩

/-- The thread has `q`, and nothing else that the settings depend on has changed. -/
structure Reaches (w : SettingsWorld M) (q : CaptureRequest M) (w' : SettingsWorld M) : Prop where
  got : ∃ k,w'.stage=.got (q.number k)
  oldRequest : w'.handler.oldRequest=w.handler.oldRequest
  halSettings : w'.halSettings=w.halSettings
  markCb : w'.handler.markCb=w.handler.markCb

variable (metadataOf) in
/-- A thread that is not held takes the only request of the queue. -/
theorem take_single (hs : w.stage=.waitOnPause) (free : w.handler.togglePauseState=false)
    (hb : w.handler.batchSize≠0) {q : CaptureRequest M} (single : w.handler.requests=[q])
    (hi : q.input=false) (hu : w.handler.configurationUpdate=false) :
    ∃ w'',Run (Step metadataOf) w [.waitOnPause,.getRequest] w'' ∧ Reaches w q w'' := by
  have pass : w.handler.waitOnPause=(w.handler,[],false) := w.handler.waitOnPause_eq.2 free
  have passed : w.perform .waitOnPause={ w with stage := .getRequest } := by
    simp only [perform,pass,Bool.false_eq_true,if_false]
  have first : Step metadataOf w .waitOnPause { w with stage := .getRequest } :=
    ⟨⟨hs,hb⟩,passed.symm⟩
  have next : w.handler.nextRequest=some ({ w.handler with
      requests := []
      currentFrameNumber := frameAfter w.handler.currentFrameNumber },
      q.number w.handler.currentFrameNumber) := by
    simp [nextRequest,single,hi]
  have taken : perform { w with stage := .getRequest } .getRequest={ w with
      handler := (({ w.handler with
        requests := []
        currentFrameNumber := frameAfter w.handler.currentFrameNumber } :
          RequestHandler M).takeRequest (q.number w.handler.currentFrameNumber)).1
      stage := .got (q.number w.handler.currentFrameNumber) } := by
    simp only [perform,getRequest,next,Option.map_some]
  have second : Step metadataOf { w with stage := .getRequest } .getRequest _ := ⟨rfl,taken.symm⟩
  refine ⟨_,.cons first (.cons second .nil),⟨_,rfl⟩,?_,rfl,rfl⟩
  simp [takeRequest,hu]

variable (metadataOf) in
/-- The client lets the thread go, clears the queue and queues one request, which reaches the
thread. -/
theorem requeue (hs : w.stage=.waitOnPause) {q : CaptureRequest M} (hq : Carries metadataOf q)
    (hi : q.input=false) (hu : w.handler.configurationUpdate=false) (hb : w.handler.batchSize≠0) :
    ∃ steps w'',Run (Step metadataOf) w steps w'' ∧ Reaches w q w'' := by
  let going : RequestHandler M := (w.handler.togglePause false).1.clear.1
  obtain ⟨paused,resumed⟩ := resume_eq { going with requests := going.requests++[q] }
  -- the cleared queue holds this request only
  have line : (((w.perform (.togglePause false)).perform .clear).perform
      (.queueRequestList [q]))={ w with
        handler := { going with requests := [q],pausedState := paused } } := by
    simp only [perform,queueRequestList]
    rw [resumed]
    rfl
  have carried : ∀ r∈[q],Carries metadataOf r := by
    intro r hm
    cases List.mem_singleton.mp hm
    exact hq
  have first : Step metadataOf w (.togglePause false) (w.perform (.togglePause false)) :=
    ⟨trivial,rfl⟩
  have second : Step metadataOf (w.perform (.togglePause false)) .clear
      ((w.perform (.togglePause false)).perform .clear) := ⟨trivial,rfl⟩
  have third : Step metadataOf ((w.perform (.togglePause false)).perform .clear)
      (.queueRequestList [q]) (((w.perform (.togglePause false)).perform .clear).perform
        (.queueRequestList [q])) := ⟨carried,rfl⟩
  rw [line] at third
  obtain ⟨w'',run,reaches⟩ := take_single metadataOf
    (w := { w with handler := { going with requests := [q],pausedState := paused } })
    hs rfl hb rfl hi hu
  exact ⟨_,w'',(Run.cons first (.cons second (.cons third .nil))).append run,
    reaches.got,reaches.oldRequest,reaches.halSettings,reaches.markCb⟩

/-- The client queues one more request with the id of the cached one. -/
theorem stale_breaks (hs : w.stage=.waitOnPause) (hu : w.handler.configurationUpdate=false)
    (serving : w.Serving) (positive : 0≤w.handler.oldRequest.resultExtras.requestId)
    (streams : List Int) (hr : w.halSettings≠some (CameraMetadata.sort
      (metadataOf w.handler.oldRequest.resultExtras.requestId))) :
    ∃ steps w'',Run (Step metadataOf) w steps w'' ∧ ¬w''.Reused metadataOf := by
  let id := w.handler.oldRequest.resultExtras.requestId
  obtain ⟨steps,w₁,run,⟨k,got⟩,old,settings,marks⟩ := requeue metadataOf hs
    (q := ⟨metadataOf id,streams,⟨id,0,0,0,false⟩,false⟩) ⟨positive,rfl⟩ rfl hu serving.batch
  have same : w₁.handler.oldRequest.resultExtras.requestId=id := by rw [old]
  obtain ⟨more,w'',rest,broken⟩ := got_breaks metadataOf got same
    (by rw [settings]; exact hr) (marks.trans serving.markCb)
  exact ⟨_,w'',run.append rest,broken⟩

/-- A step that does not meet the condition and leaves the client serving can be continued to a
wrong reuse. -/
theorem unsettled_breaks (hi : Inv metadataOf w) (step : SettingsStep M) (hc : ¬w.Settles step)
    (h : Step metadataOf w step w') (serving : w'.Serving) :
    ∃ steps w'',Run (Step metadataOf) w' steps w'' ∧ ¬w''.Reused metadataOf := by
  rw [h.2] at serving ⊢
  have ok := hi.stage
  unfold StageOk at ok
  cases step with
  | submit outcome =>
    simp only [Settles,not_forall,not_or] at hc
    obtain ⟨r,m,hs,refused,update,others⟩ := hc
    simp only [hs] at ok
    obtain ⟨positive,metadata,same⟩ := ok
    simp only [perform,hs] at serving ⊢
    obtain ⟨toggle,errorState,same_submit⟩ := submit_eq w r (some m) outcome
    have current : w.handler.configurationUpdate=false := by simpa using update
    rw [same_submit] at serving ⊢
    -- a request of the same streams and id follows
    refine stale_breaks rfl current serving ?_ r.streams ?_
    · show 0≤w.handler.oldRequest.resultExtras.requestId
      omega
    · show (if outcome=.accepted ∧ (some m).isSome=true then some m else w.halSettings)≠
        some (CameraMetadata.sort (metadataOf w.handler.oldRequest.resultExtras.requestId))
      rw [if_neg (fun h => refused h.1),same,← metadata]
      exact others
  | finishConfiguration n =>
    simp only [Settles,not_and_or,not_forall,not_not] at hc
    rcases hc with ⟨r,hs,same⟩|⟨r,hs⟩
    · exact got_breaks metadataOf hs same (by simp [perform]) serving.markCb
    · have handed : (w.perform (.finishConfiguration n)).perform (.submit .accepted)=
          (w.perform (.finishConfiguration n)).submit r none .accepted := by
        simp only [perform,hs]
      have last : Step metadataOf (w.perform (.finishConfiguration n)) (.submit .accepted)
          ((w.perform (.finishConfiguration n)).submit r none .accepted) :=
        ⟨⟨⟨r,none,hs⟩,fun _ => serving.markCb⟩,handed.symm⟩
      exact ⟨_,_,.cons last .nil,submit_not_reused (by simp [perform])⟩
  | _ => exact absurd trivial hc

/-- While every request with settings is accepted, and no configuration ends under a request that
goes without, what is reused is the request's own metadata; any other step that leaves the client
serving can be continued to a wrong reuse. -/
theorem reused_settings {metadataOf : Int → M} {w w' : SettingsWorld M}
    {steps : List (SettingsStep M)} (hs : Start w)
    (hr : Run (Guarded Settles (Step metadataOf)) w steps w') :
    w'.Reused metadataOf ∧ ∀ step w'',¬w'.Settles step → Step metadataOf w' step w'' →
      w''.Serving → ∃ more last,Run (Step metadataOf) w'' more last ∧ ¬last.Reused metadataOf := by
  have inv : Inv metadataOf w' :=
    hr.invariant (fun _ step _ hi h => step_inv hi step h.1 h.2) (start_inv hs)
  exact ⟨inv.reused,fun step _ hc h serving => unsettled_breaks inv step hc h serving⟩

def timed (b : UInt8) : PlainMetadata := ⟨PlainMetadata.ofRaw [b]⟩

/-- Request 3 carries the metadata `timed 3`. -/
def timedMetadata (id : Int) : PlainMetadata := timed (UInt8.ofNat id.toNat)

def timedRequest (id : Int) : CaptureRequest PlainMetadata :=
  ⟨timedMetadata id,[0],⟨id,0,0,0,false⟩,false⟩

def freshSettings : SettingsWorld PlainMetadata :=
  { handler := RequestHandler.construct 0 true true }

theorem freshSettings_start : Start freshSettings := ⟨⟨0,true,true,rfl⟩,rfl,rfl,rfl,rfl⟩

theorem timedRequest_carries (id : Int) (h : 0 ≤ id) :
    ∀ r∈[timedRequest id],Carries timedMetadata r := by
  intro r hr
  cases List.mem_singleton.mp hr
  exact ⟨h,rfl⟩

/-- A repeating request is accepted with its settings and then reused. -/
def repeatSteps : List (SettingsStep PlainMetadata) :=
  [.setRepeatingRequests [timedRequest 3],.waitOnPause,.getRequest,.chooseSettings,
    .submit .accepted,.waitOnPause,.getRequest,.chooseSettings,.submit .accepted]

theorem reused_settings_repeat : ∃ w',Start freshSettings ∧
    Run (Guarded Settles (Step timedMetadata)) freshSettings repeatSteps w' ∧
    w'.handed.length=2 ∧ w'.Reused timedMetadata ∧
    ∀ step w'',¬w'.Settles step → Step timedMetadata w' step w'' → w''.Serving →
      ∃ more last,Run (Step timedMetadata) w'' more last ∧ ¬last.Reused timedMetadata := by
  have run : Run (Guarded Settles (Step timedMetadata)) freshSettings repeatSteps
      (repeatSteps.foldl perform freshSettings) := by
    apply Run.of_follows (a := fun w i => w.Settles i ∧ w.Allowed timedMetadata i)
      (fun _ _ h => ⟨h.1,h.2,rfl⟩)
    refine ⟨⟨trivial,timedRequest_carries 3 (by decide)⟩,⟨trivial,rfl,by decide⟩,⟨trivial,rfl⟩,
      ⟨trivial,_,rfl⟩,⟨?_,⟨_,_,rfl⟩,fun _ => rfl⟩,⟨trivial,rfl,by decide⟩,⟨trivial,rfl⟩,
      ⟨trivial,_,rfl⟩,⟨?_,⟨_,_,rfl⟩,fun _ => rfl⟩,trivial⟩
    · exact fun _ _ _ => Or.inl rfl
    · exact fun _ _ _ => Or.inl rfl
  exact ⟨_,freshSettings_start,run,rfl,reused_settings freshSettings_start run⟩

/-- Request 3 is cached though its first submission had no buffer; the next one of its id goes
without settings. -/
def refusedSteps : List (SettingsStep PlainMetadata) :=
  [.setRepeatingRequests [timedRequest 3],.waitOnPause,.getRequest,.chooseSettings,
    .submit .bufferFailed,.waitOnPause,.getRequest,.chooseSettings,.submit .accepted]

theorem refused_settings_reused : ¬∀ (w w' : SettingsWorld PlainMetadata) steps,Start w →
    Run (Step timedMetadata) w steps w' → w'.Reused timedMetadata := by
  intro all
  have run : Run (Step timedMetadata) freshSettings refusedSteps
      (refusedSteps.foldl perform freshSettings) := by
    apply Run.of_follows (a := fun w i => w.Allowed timedMetadata i) (fun _ _ h => ⟨h,rfl⟩)
    exact ⟨timedRequest_carries 3 (by decide),⟨rfl,by decide⟩,rfl,⟨_,rfl⟩,
      ⟨⟨_,_,rfl⟩,fun _ => rfl⟩,⟨rfl,by decide⟩,rfl,⟨_,rfl⟩,⟨⟨_,_,rfl⟩,fun _ => rfl⟩,trivial⟩
  have reused := all _ _ _ freshSettings_start run
  have last := reused _ List.mem_cons_self rfl
  cases last

end SettingsWorld
end IotMedia.Camera

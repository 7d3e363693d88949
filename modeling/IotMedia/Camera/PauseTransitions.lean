import IotMedia.Camera.HandlerThread
import IotMedia.Camera.IdleCalls
import IotMedia.Camera.OpenCamera

namespace IotMedia.Camera

open IotMedia.Framework

/-- What an effect queues for the monitor. -/
def HandlerEffect.transition : HandlerEffect → Option StateTransition
  | .changeStateToIdle id => some ⟨id,.IDLE⟩
  | .changeStateToActive id => some ⟨id,.ACTIVE⟩
  | .errorCb _ _ => none

def HandlerEffect.transitions (effects : List HandlerEffect) : List StateTransition :=
  effects.filterMap transition

/-- The state that the last transition of a monitor asks for. -/
def StateTransition.last (id : Int) (state : MonitorState) (ts : List StateTransition) :
    MonitorState := ts.foldl (fun state t => if t.id=id then t.state else state) state

/-- The monitor finds them in its input queue. -/
theorem Camera3Monitor.foldl_inputQueue (effects : List HandlerEffect) (m : Camera3Monitor) :
    (effects.foldl handlerEffect m).inputQueue=
      m.inputQueue++HandlerEffect.transitions effects := by
  induction effects generalizing m with
  | nil => simp [HandlerEffect.transitions]
  | cons e effects ih =>
    rw [List.foldl_cons,ih]
    cases e <;> simp [HandlerEffect.transitions,List.filterMap_cons,HandlerEffect.transition,
      handlerEffect,changeStateToIdle,changeStateToActive,changeState]

namespace RequestHandler

variable {M : Type} {s t : RequestHandler M} {effects : List HandlerEffect}

/-- The state that the pause stands for. -/
def monitorState (s : RequestHandler M) : MonitorState := if s.pausedState then .IDLE else .ACTIVE

/-- A call announces its changes, and ACTIVE only if it leaves the handler running. -/
def Transits (s t : RequestHandler M) (effects : List HandlerEffect) : Prop :=
  s.Announces t effects ∧
    (effects=[.changeStateToActive s.monitorId] → t.pausedState=false)

theorem silent_transitions (silent : ∀ m,effects.foldl Camera3Monitor.handlerEffect m=m) :
    HandlerEffect.transitions effects=[] := by
  have queue := Camera3Monitor.foldl_inputQueue effects .construct
  rw [silent] at queue
  simpa [Camera3Monitor.construct] using queue.symm

/-- The last transition goes with the pause. -/
theorem Transits.last (h : s.Transits t effects) :
    StateTransition.last t.monitorId s.monitorState (HandlerEffect.transitions effects)=
      t.monitorState := by
  obtain ⟨⟨same,⟨paused,silent⟩|told|⟨paused,told⟩⟩,active⟩ := h
  · rw [silent_transitions silent,monitorState,monitorState,paused]
    rfl
  · simp [told,active told,same,monitorState,HandlerEffect.transitions,HandlerEffect.transition,
      StateTransition.last]
  · simp [told,paused,same,monitorState,HandlerEffect.transitions,HandlerEffect.transition,
      StateTransition.last]

/-- While the handler stays running the monitor is never asked to go idle. -/
theorem Transits.active (h : s.Transits t effects) (running : t.pausedState=false) :
    ∀ x∈HandlerEffect.transitions effects,x.state=.ACTIVE := by
  obtain ⟨⟨-,⟨-,silent⟩|told|⟨paused,-⟩⟩,-⟩ := h
  · simp [silent_transitions silent]
  · simp [told,HandlerEffect.transitions,HandlerEffect.transition]
  · rw [running] at paused
    cases paused

theorem quiet_transits (hid : t.monitorId=s.monitorId) (hp : t.pausedState=s.pausedState) :
    s.Transits t [] := ⟨silent_announces hid hp,by simp⟩

theorem resume_transits (s : RequestHandler M) : s.Transits s.resume.1 s.resume.2 := by
  refine ⟨resume_announces s,?_⟩
  unfold resume
  split_ifs <;> simp

theorem resume_running (s : RequestHandler M) (h : s.pausedState=false) :
    s.resume.1.pausedState=false := by
  unfold resume
  split_ifs
  · exact h
  · rfl

theorem waitOnPause_transits (s : RequestHandler M) :
    s.Transits s.waitOnPause.1 s.waitOnPause.2.1 := by
  refine ⟨waitOnPause_announces s,?_⟩
  unfold waitOnPause
  split_ifs <;> simp

theorem clear_transits (s : RequestHandler M) : s.Transits s.clear.1 s.clear.2.2 := by
  refine ⟨clear_announces s,?_⟩
  unfold clear
  dsimp only
  cases s.requests with
  | nil => split_ifs <;> simp [reportAll]
  | cons r rs => split_ifs <;> simp [reportAll]

variable [CameraMetadata M]

/-- A request is delivered by a handler that is not paused. -/
theorem getRequest_running {got : RequestHandler M × CaptureRequest M × List HandlerEffect}
    (h : s.getRequest=some got) : got.1.pausedState=false := by
  obtain ⟨next,-,rfl⟩ := Option.map_eq_some_iff.mp h
  rfl

theorem getRequest_transits {got : RequestHandler M × CaptureRequest M × List HandlerEffect}
    (h : s.getRequest=some got) : s.Transits got.1 got.2.2 :=
  ⟨getRequest_announces h,fun _ => getRequest_running h⟩

/-- After its wait GetRequest tells of the pause, or delivers a request. -/
theorem getRequestWoken_transits (s : RequestHandler M) (exitPending : Bool) :
    s.Transits (s.getRequestWoken exitPending).1 (s.getRequestWoken exitPending).2.2 ∧
      ((s.getRequestWoken exitPending).2.1.isSome=true →
        (s.getRequestWoken exitPending).1.pausedState=false) := by
  have announces := getRequestWoken_announces s exitPending
  unfold getRequestWoken at announces ⊢
  cases hg : (if exitPending=true then none else s.getRequest) with
  | none =>
    rw [hg] at announces
    refine ⟨⟨announces,?_⟩,?_⟩
    · dsimp only
      split_ifs <;> simp
    · dsimp only
      split_ifs <;> simp
  | some got =>
    split_ifs at hg
    exact ⟨getRequest_transits hg,fun _ => getRequest_running hg⟩

end RequestHandler

/-- The handler's thread, a call of Resume's callers or of TogglePause, or another call that holds
lock_. GetRequest and the callers of Resume hold it as well, so that none of them comes between the
steps of another; what TogglePause writes GetRequest does not read. -/
inductive PauseStep (M : Type)
  | threadLoop (env : LoopEnv)
  | queueRequestList (requests : List (CaptureRequest M))
  | queueReprocRequestList
  | setRepeatingRequests (requests : List (CaptureRequest M))
  | clearRepeatingRequests
  | clear
  | finishConfiguration (batchSize : Nat)
  | togglePause (pause : Bool)

/-- The handler with the transitions that it has queued so far. -/
structure PauseWorld (M : Type) where
  thread : HandlerThread M
  queued : List StateTransition := []

namespace HandlerThread

variable {M : Type} [CameraMetadata M]

/-- What a step of the thread tells the monitor. -/
def told (t : HandlerThread M) (env : LoopEnv) : List HandlerEffect :=
  match t.point with
  | .waitOnPause => if t.handler.batchSize=0 then [] else t.handler.waitOnPause.2.1
  | .paused =>
    if env.timedOut ∨ env.exitPending then []
    else if t.handler.togglePauseState ∧ t.handler.pausedState=false then
      [.changeStateToIdle t.handler.monitorId]
    else []
  | .getRequest =>
    if env.exitPending then []
    else match t.handler.getRequest with
      | some got => got.2.2
      | none => []
  | .waiting => (t.handler.getRequestWoken env.exitPending).2.2
  | .submitRequest | .ended | .faulted => []

/-- From the return of GetRequest until SubmitRequest returns, the handler is not paused. -/
def Submitting (t : HandlerThread M) : Prop :=
  t.point=.submitRequest → t.handler.pausedState=false

variable {t : HandlerThread M}

omit [CameraMetadata M] in
/-- A pause is told unless it was there already. -/
theorem pause_transits (s : RequestHandler M) : s.Transits { s with pausedState := true }
    (if s.pausedState=false then [.changeStateToIdle s.monitorId] else []) := by
  cases paused : s.pausedState with
  | true => exact ⟨silent_announces rfl paused.symm,by simp⟩
  | false => exact ⟨⟨rfl,.inr (.inr ⟨rfl,rfl⟩)⟩,by simp⟩

/-- SubmitRequest leaves the pause as it is. -/
theorem submitRequest_paused (t : HandlerThread M) :
    t.submitRequest.handler.monitorId=t.handler.monitorId ∧
      t.submitRequest.handler.pausedState=t.handler.pausedState := by
  unfold submitRequest RequestHandler.chooseSettings
  dsimp only
  split_ifs
  · exact ⟨rfl,rfl⟩
  · exact ⟨rfl,rfl⟩

theorem step_transits (t : HandlerThread M) (env : LoopEnv) :
    t.handler.Transits (t.step env).handler (t.told env) ∧ (t.step env).Submitting := by
  obtain ⟨handler,point⟩ := t
  cases point with
  | waitOnPause =>
    simp only [step,told,waitOnPause]
    split_ifs
    · exact ⟨RequestHandler.quiet_transits rfl rfl,by simp [Submitting]⟩
    · exact ⟨handler.waitOnPause_transits,by simp [Submitting]⟩
    · exact ⟨handler.waitOnPause_transits,by simp [Submitting]⟩
  | paused =>
    simp only [step,told,pauseWoken]
    by_cases left : env.timedOut=true ∨ env.exitPending=true
    · rw [if_pos left,if_pos left]
      exact ⟨RequestHandler.quiet_transits rfl rfl,by simp [Submitting]⟩
    · rw [if_neg left,if_neg left]
      by_cases toggle : handler.togglePauseState=true
      · simp only [toggle,if_true,true_and]
        exact ⟨pause_transits handler,by simp [Submitting]⟩
      · simp only [toggle]
        exact ⟨RequestHandler.quiet_transits rfl rfl,by simp [Submitting]⟩
  | getRequest =>
    simp only [step,told]
    split_ifs
    · exact ⟨RequestHandler.quiet_transits rfl rfl,by simp [Submitting]⟩
    · simp only [getRequest]
      cases hg : handler.getRequest with
      | none => exact ⟨RequestHandler.quiet_transits rfl rfl,by simp [Submitting]⟩
      | some got =>
        exact ⟨RequestHandler.getRequest_transits hg,fun _ => RequestHandler.getRequest_running hg⟩
  | waiting =>
    obtain ⟨transits,delivers⟩ := handler.getRequestWoken_transits env.exitPending
    simp only [step,told,requestWoken]
    refine ⟨transits,?_⟩
    split_ifs with delivered
    · exact fun _ => delivers delivered
    · simp [Submitting]
  | submitRequest =>
    simp only [step,told]
    split_ifs
    · exact ⟨RequestHandler.quiet_transits rfl rfl,by simp [Submitting]⟩
    · refine ⟨?_,by simp [submitRequest,Submitting]⟩
      obtain ⟨monitorId,paused⟩ := submitRequest_paused ⟨handler,.submitRequest⟩
      exact RequestHandler.quiet_transits monitorId paused
  | ended => exact ⟨RequestHandler.quiet_transits rfl rfl,by simp [step,Submitting]⟩
  | faulted => exact ⟨RequestHandler.quiet_transits rfl rfl,by simp [step,Submitting]⟩

end HandlerThread

namespace PauseWorld

variable {M : Type} [CameraMetadata M]

omit [CameraMetadata M] in
def call (w : PauseWorld M) (handler : RequestHandler M) (effects : List HandlerEffect) :
    PauseWorld M where
  thread := { w.thread with handler }
  queued := w.queued++HandlerEffect.transitions effects

def perform (w : PauseWorld M) : PauseStep M → PauseWorld M
  | .threadLoop env =>
    ⟨w.thread.step env,w.queued++HandlerEffect.transitions (w.thread.told env)⟩
  | .queueRequestList requests =>
    let called := w.thread.handler.queueRequestList requests
    w.call called.1 called.2.2
  | .queueReprocRequestList => w.call w.thread.handler.resume.1 w.thread.handler.resume.2
  | .setRepeatingRequests requests =>
    let called := w.thread.handler.setRepeatingRequests requests
    w.call called.1 called.2.2
  | .clearRepeatingRequests => w.call w.thread.handler.clearRepeatingRequests.1 []
  | .clear => w.call w.thread.handler.clear.1 w.thread.handler.clear.2.2
  | .finishConfiguration batchSize => w.call (w.thread.handler.finishConfiguration batchSize) []
  | .togglePause pause => w.call (w.thread.handler.togglePause pause).1 []

/-- The constructor and Initialize, with what AcquireMonitor has returned. -/
def initialized (errorCb : Bool) (acquired : Int) : PauseWorld M where
  thread.handler :=
    (RequestHandler.construct INVALID_ID false false).initializeHandler errorCb acquired

/-- After Initialize and some steps. -/
def ran (errorCb : Bool) (acquired : Int) (steps : List (PauseStep M)) : PauseWorld M :=
  steps.foldl perform (initialized errorCb acquired)

/-- The last transition for the handler's monitor. -/
def lastTransition (w : PauseWorld M) : MonitorState :=
  StateTransition.last w.thread.handler.monitorId .IDLE w.queued

/-- The monitor is asked for what the pause says, and no request is submitted by a paused
handler. -/
structure Settled (w : PauseWorld M) : Prop where
  last : w.lastTransition=w.thread.handler.monitorState
  submitting : w.thread.Submitting

variable {w : PauseWorld M}

omit [CameraMetadata M] in
/-- What was queued before counts only through the state that it asks for. -/
theorem last_append {s t : RequestHandler M} {effects : List HandlerEffect}
    {queued : List StateTransition} (h : s.Transits t effects)
    (last : StateTransition.last s.monitorId .IDLE queued=s.monitorState) :
    StateTransition.last t.monitorId .IDLE (queued++HandlerEffect.transitions effects)=
      t.monitorState := by
  have same : t.monitorId=s.monitorId := h.1.1
  rw [← h.last,← last,same]
  exact List.foldl_append

/-- Every step queues what its change of the pause asks for. -/
theorem perform_transits (w : PauseWorld M) (step : PauseStep M) : ∃ effects,
    (w.perform step).queued=w.queued++HandlerEffect.transitions effects ∧
      w.thread.handler.Transits (w.perform step).thread.handler effects := by
  cases step with
  | threadLoop env => exact ⟨_,rfl,(w.thread.step_transits env).1⟩
  | queueRequestList requests =>
    have resumed := RequestHandler.resume_transits
      { w.thread.handler with requests := w.thread.handler.requests++requests }
    exact ⟨_,rfl,resumed⟩
  | queueReprocRequestList => exact ⟨_,rfl,w.thread.handler.resume_transits⟩
  | setRepeatingRequests requests =>
    have resumed := RequestHandler.resume_transits
      { w.thread.handler with streamingRequests := requests }
    exact ⟨_,rfl,resumed⟩
  | clear => exact ⟨_,rfl,w.thread.handler.clear_transits⟩
  | clearRepeatingRequests | finishConfiguration batchSize | togglePause pause =>
    exact ⟨[],rfl,RequestHandler.quiet_transits rfl rfl⟩

/-- A call does not pause the handler. -/
theorem call_running (step : PauseStep M) (call : ∀ env,step≠.threadLoop env) :
    (w.perform step).thread.point=w.thread.point ∧
      (w.thread.handler.pausedState=false → (w.perform step).thread.handler.pausedState=false) := by
  cases step with
  | threadLoop env => exact absurd rfl (call env)
  | queueRequestList requests =>
    have resumed := RequestHandler.resume_running
      { w.thread.handler with requests := w.thread.handler.requests++requests }
    exact ⟨rfl,resumed⟩
  | queueReprocRequestList => exact ⟨rfl,RequestHandler.resume_running _⟩
  | setRepeatingRequests requests =>
    have resumed := RequestHandler.resume_running
      { w.thread.handler with streamingRequests := requests }
    exact ⟨rfl,resumed⟩
  | clear | clearRepeatingRequests | finishConfiguration | togglePause =>
    exact ⟨rfl,fun running => running⟩

/-- Nor does SubmitRequest. -/
theorem submitting_running (step : PauseStep M) (at_ : w.thread.point=.submitRequest)
    (running : w.thread.handler.pausedState=false) :
    (w.perform step).thread.handler.pausedState=false := by
  by_cases call : ∃ env,step=.threadLoop env
  · obtain ⟨env,rfl⟩ := call
    simp only [perform,HandlerThread.step,at_]
    split_ifs
    · exact running
    · exact w.thread.submitRequest_paused.2.trans running
  · exact (call_running step (not_exists.mp call)).2 running

theorem perform_settled (h : w.Settled) (step : PauseStep M) : (w.perform step).Settled := by
  obtain ⟨effects,queued,transits⟩ := w.perform_transits step
  refine ⟨?_,?_⟩
  · rw [lastTransition,queued]
    exact last_append transits h.last
  · by_cases call : ∃ env,step=.threadLoop env
    · obtain ⟨env,rfl⟩ := call
      exact (w.thread.step_transits env).2
    · obtain ⟨point,running⟩ := call_running (w := w) step (not_exists.mp call)
      intro at_
      exact running (h.submitting (point.symm.trans at_))

theorem initialized_settled (errorCb : Bool) (acquired : Int) :
    (initialized (M := M) errorCb acquired).Settled :=
  ⟨rfl,by simp [initialized,HandlerThread.Submitting]⟩

theorem ran_settled (errorCb : Bool) (acquired : Int) (steps : List (PauseStep M)) :
    (ran errorCb acquired steps).Settled := by
  unfold ran
  induction steps using List.reverseRecOn with
  | nil => exact initialized_settled errorCb acquired
  | append_singleton steps step ih =>
    rw [List.foldl_append]
    exact perform_settled ih step

/-- Since Initialize the monitor is asked to be active exactly while the handler is not paused; and
from a request that GetRequest has delivered until SubmitRequest has returned the handler is not
paused and its monitor not asked to go idle. -/
theorem active_iff_running (errorCb : Bool) (acquired : Int) (steps : List (PauseStep M)) :
    ((ran errorCb acquired steps).lastTransition=.ACTIVE ↔
      (ran errorCb acquired steps).thread.handler.pausedState=false) ∧
    ((ran errorCb acquired steps).thread.point=.submitRequest →
      (ran errorCb acquired steps).thread.handler.pausedState=false ∧
      ∀ step,(ran errorCb acquired (steps++[step])).thread.handler.pausedState=false ∧
        ∃ queued,(ran errorCb acquired (steps++[step])).queued=
          (ran errorCb acquired steps).queued++queued ∧ ∀ x∈queued,x.state=.ACTIVE) := by
  have settled := ran_settled errorCb acquired steps
  constructor
  · rw [settled.last,RequestHandler.monitorState]
    split_ifs with paused
    · simp [paused]
    · simpa using paused
  · intro at_
    have running := settled.submitting at_
    refine ⟨running,fun step => ?_⟩
    have next : ran errorCb acquired (steps++[step])=(ran errorCb acquired steps).perform step :=
      List.foldl_append
    have later := submitting_running step at_ running
    obtain ⟨effects,queued,transits⟩ := perform_transits (ran errorCb acquired steps) step
    rw [next]
    exact ⟨later,_,queued,transits.active later⟩

end PauseWorld

end IotMedia.Camera

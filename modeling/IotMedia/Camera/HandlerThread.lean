import IotMedia.Camera.RequestHandler

namespace IotMedia.Camera

/-- Where the thread of the handler is in ThreadLoop: at WaitOnPause or in its wait, at GetRequest
or in its wait, or at SubmitRequest, each behind the ExitPending test that leads to it; at the end,
MainLoop has left its loop, or WaitOnPause has divided by zero. -/
inductive LoopPoint
  | waitOnPause
  | paused
  | getRequest
  | waiting
  | submitRequest
  | ended
  | faulted
  deriving DecidableEq

/-- What a step of the thread meets. -/
structure LoopEnv where
  exitPending : Bool
  timedOut : Bool

/-- The handler with its thread, which begins in its first ThreadLoop. -/
structure HandlerThread (M : Type) where
  handler : RequestHandler M
  point : LoopPoint := .waitOnPause

namespace HandlerThread

variable {M : Type} [CameraMetadata M]

omit [CameraMetadata M] in
/-- WaitOnPause up to its wait. -/
def waitOnPause (t : HandlerThread M) : HandlerThread M :=
  if t.handler.batchSize=0 then { t with point := .faulted }
  else ⟨t.handler.waitOnPause.1,if t.handler.waitOnPause.2.2 then .paused else .getRequest⟩

omit [CameraMetadata M] in
/-- WaitOnPause from the end of a wait; the frame counter is not tested again. -/
def pauseWoken (t : HandlerThread M) (env : LoopEnv) : HandlerThread M :=
  if env.timedOut ∨ env.exitPending then { t with point := .waitOnPause }
  else if t.handler.togglePauseState then
    ⟨{ t.handler with pausedState := true },.paused⟩
  else { t with point := .getRequest }

/-- GetRequest up to its wait. -/
def getRequest (t : HandlerThread M) : HandlerThread M :=
  match t.handler.getRequest with
  | some got => ⟨got.1,.submitRequest⟩
  | none => { t with point := .waiting }

/-- GetRequest from the end of its wait. -/
def requestWoken (t : HandlerThread M) (env : LoopEnv) : HandlerThread M :=
  let woken := t.handler.getRequestWoken env.exitPending
  ⟨woken.1,if woken.2.1.isSome then .submitRequest else .waitOnPause⟩

/-- SubmitRequest, whatever it returns. -/
def submitRequest (t : HandlerThread M) : HandlerThread M :=
  ⟨(t.handler.chooseSettings t.handler.currentRequest).1.finishRequest,.waitOnPause⟩

def step (t : HandlerThread M) (env : LoopEnv) : HandlerThread M :=
  match t.point with
  | .waitOnPause => t.waitOnPause
  | .paused => t.pauseWoken env
  | .getRequest => if env.exitPending then { t with point := .ended } else t.getRequest
  | .waiting => t.requestWoken env
  | .submitRequest => if env.exitPending then { t with point := .ended } else t.submitRequest
  | .ended | .faulted => t

/-- The thread alone, with ExitPending for good. -/
def exiting (t : HandlerThread M) (timedOut : Nat → Bool) : Nat → HandlerThread M
  | 0 => t
  | n+1 => (t.exiting timedOut n).step ⟨true,timedOut n⟩

omit [CameraMetadata M] in
/-- Where WaitOnPause lets the thread go on. -/
def LetsGo (s : RequestHandler M) : Prop :=
  s.batchSize≠0 ∧ ¬(s.togglePauseState=true ∧ s.batchSize∣s.currentFrameNumber)

omit [CameraMetadata M] in
/-- Behind WaitOnPause the next test of ExitPending ends the loop; anywhere else the thread is on
its way to WaitOnPause. -/
def Stops (t : HandlerThread M) : Prop :=
  match t.point with
  | .getRequest | .submitRequest | .ended => True
  | .waitOnPause | .paused | .waiting => LetsGo t.handler
  | .faulted => False

omit [CameraMetadata M] in
/-- How many steps the thread is away from its end. -/
def ahead (t : HandlerThread M) : Nat :=
  match t.point with
  | .paused | .waiting => 3
  | .waitOnPause => 2
  | .getRequest | .submitRequest => 1
  | .ended | .faulted => 0

variable {t : HandlerThread M} {env : LoopEnv}

omit [CameraMetadata M] in
/-- WaitOnPause lets the thread go, pauses it, or divides by zero. -/
theorem waitOnPause_cases (t : HandlerThread M) :
    LetsGo t.handler ∧ t.waitOnPause={ t with point := .getRequest } ∨
    ¬LetsGo t.handler ∧ t.waitOnPause={ t with point := .faulted } ∨
    ¬LetsGo t.handler ∧ t.handler.batchSize∣t.handler.currentFrameNumber ∧
      t.waitOnPause=⟨{ t.handler with pausedState := true },.paused⟩ := by
  unfold waitOnPause LetsGo RequestHandler.waitOnPause
  by_cases zero : t.handler.batchSize=0
  · exact Or.inr (Or.inl ⟨fun h => h.1 zero,by rw [if_pos zero]⟩)
  rw [if_neg zero,Nat.dvd_iff_mod_eq_zero]
  by_cases inside : t.handler.currentFrameNumber%t.handler.batchSize≠0
  · exact Or.inl ⟨⟨zero,fun h => inside h.2⟩,by simp [inside]⟩
  have between := not_not.mp inside
  cases toggle : t.handler.togglePauseState with
  | false => exact Or.inl ⟨⟨zero,by simp⟩,by simp [between]⟩
  | true =>
    refine Or.inr (Or.inr ⟨fun h => h.2 ⟨rfl,between⟩,between,?_⟩)
    cases paused : t.handler.pausedState with
    | true =>
      have same : { t.handler with pausedState := true }=t.handler := by rw [← paused]
      simp [between,same]
    | false => simp [between,toggle]

/-- With ExitPending a step changes nothing about whether the thread stops, and brings it nearer to
its end. -/
theorem exiting_step (t : HandlerThread M) (timedOut : Bool) :
    ((t.step ⟨true,timedOut⟩).Stops ↔ t.Stops) ∧
    (t.Stops → t.point≠.ended → (t.step ⟨true,timedOut⟩).ahead<t.ahead) := by
  obtain ⟨handler,point⟩ := t
  cases point with
  | waitOnPause =>
    rcases waitOnPause_cases ⟨handler,.waitOnPause⟩ with ⟨go,same⟩|⟨stay,same⟩|⟨stay,-,same⟩
    · simp only [step,same]
      exact ⟨by simp [Stops,go],fun _ _ => by simp [ahead]⟩
    · simp only [step,same]
      exact ⟨by simp [Stops,stay],fun h => absurd h stay⟩
    · simp only [step,same]
      exact ⟨Iff.rfl,fun h => absurd h stay⟩
  | paused => exact ⟨by simp [step,pauseWoken,Stops],fun _ _ => by simp [step,pauseWoken,ahead]⟩
  | getRequest => exact ⟨by simp [step,Stops],fun _ _ => by simp [step,ahead]⟩
  | submitRequest => exact ⟨by simp [step,Stops],fun _ _ => by simp [step,ahead]⟩
  | ended => exact ⟨Iff.rfl,fun _ h => absurd rfl h⟩
  | faulted => exact ⟨Iff.rfl,False.elim⟩
  | waiting =>
    have woken : ∃ paused l,handler.getRequestWoken true=
        ({ handler with pausedState := paused },none,l) := by
      simp only [RequestHandler.getRequestWoken,if_true]
      split_ifs
      · exact ⟨handler.pausedState,_,rfl⟩
      · exact ⟨true,_,rfl⟩
    obtain ⟨paused,l,same⟩ := woken
    simp only [step,requestWoken,same]
    exact ⟨Iff.rfl,fun _ _ => by simp [ahead]⟩

theorem exiting_stops (t : HandlerThread M) (timedOut : Nat → Bool) (n : Nat) :
    (t.exiting timedOut n).Stops ↔ t.Stops := by
  induction n with
  | zero => exact Iff.rfl
  | succ n ih => exact (exiting_step _ _).1.trans ih

/-- Each step that does not reach the end leaves fewer before it. -/
theorem exiting_ahead (h : t.Stops) (timedOut : Nat → Bool) (n : Nat)
    (on : ∀ m≤n,(t.exiting timedOut m).point≠.ended) :
    (t.exiting timedOut n).ahead+n ≤ t.ahead := by
  induction n with
  | zero => exact le_rfl
  | succ n ih =>
    have before := ih fun m hm => on m (Nat.le_succ_of_le hm)
    have less := (exiting_step (t.exiting timedOut n) (timedOut n)).2
      ((exiting_stops t timedOut n).mpr h) (on n (Nat.le_succ n))
    show ((t.exiting timedOut n).step _).ahead+(n+1) ≤ t.ahead
    omega

/-- Some ThreadLoop returns false once ExitPending holds, unless WaitOnPause keeps the thread. -/
theorem thread_stops_iff (t : HandlerThread M) (timedOut : Nat → Bool) :
    (∃ n,(t.exiting timedOut n).point=.ended) ↔ t.Stops := by
  constructor
  · rintro ⟨n,ended⟩
    apply (exiting_stops t timedOut n).mp
    simp [Stops,ended]
  · intro h
    by_contra never
    have on : ∀ n,(t.exiting timedOut n).point≠.ended := fun n ended => never ⟨n,ended⟩
    have few := exiting_ahead h timedOut (t.ahead+1) fun m _ => on m
    omega

section Tests

/-- An idle handler that SET_ERR_L has paused. -/
def failedHandler : RequestHandler PlainMetadata :=
  ((RequestHandler.construct 0 true true).togglePause true).1

/-- Its thread never stops. -/
theorem paused_thread_stays : ¬∀ (t : HandlerThread PlainMetadata) (timedOut : Nat → Bool),
    ∃ n,(t.exiting timedOut n).point=.ended := by
  intro all
  obtain ⟨n,ended⟩ := all ⟨failedHandler,.waitOnPause⟩ fun _ => true
  have stops : (HandlerThread.mk failedHandler .waitOnPause).Stops := by
    apply (exiting_stops _ (fun _ => true) n).mp
    simp [Stops,ended]
  exact stops.2 ⟨rfl,by decide⟩

end Tests

end HandlerThread
end IotMedia.Camera

import IotMedia.Framework.Run

namespace IotMedia.Camera

open IotMedia.Framework

inductive ThreadHelperState
  | kActive
  | kToIdle
  | kIdle
  | kInactive
  deriving DecidableEq

/-- MainLoop's thread: not there or joined, in its loop, or past its ChangeState(kIdle). -/
inductive LoopThread
  | absent
  | looping
  | ended
  deriving DecidableEq

/-- What Run does next. -/
inductive RunPoint
  | getState
  | waitState
  | join
  | toInactive
  | create
  | toActive
  deriving DecidableEq

/-- What RequestExit or RequestExitAndWait does next; the first one does not wait. -/
inductive ExitPoint
  | getState
  | toIdle
  | waitState
  | join
  | toInactive
  deriving DecidableEq

/-- The call that has lock_. -/
inductive ThreadCall
  | Run (next : RunPoint)
  | RequestExit (next : ExitPoint)
  | RequestExitAndWait (next : ExitPoint)
  deriving DecidableEq

/-- Where the switch of Run goes on; none where it returns. -/
def RunPoint.ofState : ThreadHelperState → Option RunPoint
  | .kActive => none
  | .kToIdle => some .waitState
  | .kIdle => some .join
  | .kInactive => some .create

def ExitPoint.ofState (wait : Bool) : ThreadHelperState → Option ExitPoint
  | .kActive => some .toIdle
  | .kToIdle => if wait then some .waitState else none
  | .kIdle => if wait then some .join else none
  | .kInactive => none

structure ThreadHelper where
  state : ThreadHelperState := .kInactive
  thread : LoopThread := .absent
  call : Option ThreadCall := none
  deriving DecidableEq

/-- A call takes lock_, does what is next in it, or fails to create the thread; or ThreadLoop returns
false and MainLoop changes the state. -/
inductive ThreadLabel
  | Run
  | RequestExit
  | RequestExitAndWait
  | proceed
  | createFails
  | loopEnds
  deriving DecidableEq

namespace ThreadHelper

inductive Step : ThreadHelper → ThreadLabel → ThreadHelper → Prop
  | callRun {h : ThreadHelper} (free : h.call=none) :
    Step h .Run { h with call := some (.Run .getState) }
  | callRequestExit {h : ThreadHelper} (free : h.call=none) :
    Step h .RequestExit { h with call := some (.RequestExit .getState) }
  | callRequestExitAndWait {h : ThreadHelper} (free : h.call=none) :
    Step h .RequestExitAndWait { h with call := some (.RequestExitAndWait .getState) }
  | runGetState {h : ThreadHelper} (at_ : h.call=some (.Run .getState)) :
    Step h .proceed { h with call := (RunPoint.ofState h.state).map .Run }
  | runWaitState {h : ThreadHelper} (at_ : h.call=some (.Run .waitState))
      (idle : h.state=.kIdle) : Step h .proceed { h with call := some (.Run .join) }
  | runJoin {h : ThreadHelper} (at_ : h.call=some (.Run .join)) (ended : h.thread=.ended) :
    Step h .proceed
      { h with
        thread := .absent
        call := some (.Run .toInactive) }
  | runToInactive {h : ThreadHelper} (at_ : h.call=some (.Run .toInactive)) :
    Step h .proceed
      { h with
        state := .kInactive
        call := some (.Run .create) }
  | runCreate {h : ThreadHelper} (at_ : h.call=some (.Run .create)) (absent : h.thread=.absent) :
    Step h .proceed
      { h with
        thread := .looping
        call := some (.Run .toActive) }
  | runCreateFails {h : ThreadHelper} (at_ : h.call=some (.Run .create)) :
    Step h .createFails { h with call := none }
  | runToActive {h : ThreadHelper} (at_ : h.call=some (.Run .toActive)) :
    Step h .proceed
      { h with
        state := .kActive
        call := none }
  | exitGetState {h : ThreadHelper} (at_ : h.call=some (.RequestExit .getState)) :
    Step h .proceed { h with call := (ExitPoint.ofState false h.state).map .RequestExit }
  | exitToIdle {h : ThreadHelper} (at_ : h.call=some (.RequestExit .toIdle)) :
    Step h .proceed
      { h with
        state := .kToIdle
        call := none }
  | waitGetState {h : ThreadHelper} (at_ : h.call=some (.RequestExitAndWait .getState)) :
    Step h .proceed { h with call := (ExitPoint.ofState true h.state).map .RequestExitAndWait }
  | waitToIdle {h : ThreadHelper} (at_ : h.call=some (.RequestExitAndWait .toIdle)) :
    Step h .proceed
      { h with
        state := .kToIdle
        call := some (.RequestExitAndWait .join) }
  | waitWaitState {h : ThreadHelper} (at_ : h.call=some (.RequestExitAndWait .waitState))
      (idle : h.state=.kIdle) :
    Step h .proceed { h with call := some (.RequestExitAndWait .join) }
  | waitJoin {h : ThreadHelper} (at_ : h.call=some (.RequestExitAndWait .join))
      (ended : h.thread=.ended) :
    Step h .proceed
      { h with
        thread := .absent
        call := some (.RequestExitAndWait .toInactive) }
  | waitToInactive {h : ThreadHelper} (at_ : h.call=some (.RequestExitAndWait .toInactive)) :
    Step h .proceed
      { h with
        state := .kInactive
        call := none }
  | loopEnds {h : ThreadHelper} (looping : h.thread=.looping) :
    Step h .loopEnds
      { h with
        state := .kIdle
        thread := .ended }

/-- No call is inside Run. -/
def OutsideRun (h : ThreadHelper) : Prop := ∀ next,h.call≠some (.Run next)

/-- The call is about to read the state that may send it to WaitState. -/
def AtGetState (h : ThreadHelper) : Prop :=
  h.call=some (.Run .getState) ∨ h.call=some (.RequestExitAndWait .getState)

def InWaitState (h : ThreadHelper) : Prop :=
  h.call=some (.Run .waitState) ∨ h.call=some (.RequestExitAndWait .waitState)

/-- The thread outlives kActive and kToIdle, no call goes to WaitState after the thread's last
change of the state, and none waits there for a change that does not come. -/
structure LifeCycle (h : ThreadHelper) : Prop where
  outlives : h.state=.kActive ∨ h.state=.kToIdle → h.OutsideRun → h.thread≠.ended
  enters : h.AtGetState → h.state=.kToIdle → h.thread≠.ended
  wakes : h.InWaitState → h.thread=.ended → h.state=.kIdle

/-- Run's ChangeState(kActive) and the ChangeState(kToIdle) of an exit call come before the thread's
ChangeState(kIdle). -/
def BeforeIdle (h : ThreadHelper) : ThreadLabel → Prop
  | .proceed => h.call=some (.Run .toActive) ∨ h.call=some (.RequestExit .toIdle) ∨
      h.call=some (.RequestExitAndWait .toIdle) → h.thread≠.ended
  | _ => True

/-- How the state, the thread and the call go together. -/
structure Consistent (h : ThreadHelper) : Prop where
  inactive : h.state=.kInactive → h.call≠some (.Run .toActive) → h.thread=.absent
  started : h.call=some (.Run .getState) → h.state=.kActive → h.thread≠.ended
  create : h.call=some (.Run .create) → h.state=.kInactive
  joined : h.call=some (.Run .toInactive) ∨ h.call=some (.RequestExitAndWait .toInactive) →
    h.thread=.absent

variable {h h' : ThreadHelper} {l : ThreadLabel}

/-- The thread has not ended, or its ChangeState(kIdle) is the last one. -/
def Settled (h : ThreadHelper) : Prop := h.thread≠.ended ∨ h.state=.kIdle

theorem Settled.lifeCycle (settled : h.Settled) : h.LifeCycle := by
  rcases settled with alive|idle
  · exact ⟨fun _ _ => alive,fun _ _ => alive,fun _ ended => absurd ended alive⟩
  · refine ⟨fun active _ => ?_,fun _ toIdle => ?_,fun _ _ => idle⟩
    · rw [idle] at active
      rcases active with h|h <;> cases h
    · rw [idle] at toIdle
      cases toIdle

theorem alive_of_absent (absent : h.thread=.absent) : h.thread≠.ended := by
  rw [absent]
  exact LoopThread.noConfusion

/-- Away from Run's changes of the state it says whether there is a thread. -/
theorem Consistent.settled (consistent : h.Consistent) (quiet : h.call≠some (.Run .toActive))
    (alive : h.state=.kActive ∨ h.state=.kToIdle → h.thread≠.ended) : h.Settled := by
  cases state : h.state with
  | kActive => exact .inl (alive (.inl state))
  | kToIdle => exact .inl (alive (.inr state))
  | kIdle => exact .inr state
  | kInactive => exact .inl (alive_of_absent (consistent.inactive state quiet))

theorem LifeCycle.settled (life : h.LifeCycle) (consistent : h.Consistent)
    (outside : h.OutsideRun) : h.Settled :=
  consistent.settled (outside _) fun active => life.outlives active outside

theorem outsideRun_of_free (free : h.call=none) : h.OutsideRun := by
  intro next at_
  rw [free] at at_
  cases at_

/-- Every step settles the helper, if a ChangeState of a call does not come after the thread's. -/
theorem step_settled (life : h.LifeCycle) (consistent : h.Consistent) (step : Step h l h')
    (before : h.BeforeIdle l) : h'.Settled := by
  cases step with
  | callRun free | callRequestExit free | callRequestExitAndWait free =>
    exact life.settled consistent (outsideRun_of_free free)
  | runGetState at_ =>
    refine consistent.settled (by simp [at_]) fun active => ?_
    rcases active with active|toIdle
    · exact consistent.started at_ active
    · exact life.enters (.inl at_) toIdle
  | exitGetState at_ | waitGetState at_ =>
    exact life.settled consistent fun next run => by simp [at_] at run
  | runWaitState at_ idle | waitWaitState at_ idle => exact .inr idle
  | runJoin at_ ended | waitJoin at_ ended => exact .inl LoopThread.noConfusion
  | runToInactive at_ => exact .inl (alive_of_absent (consistent.joined (.inl at_)))
  | waitToInactive at_ => exact .inl (alive_of_absent (consistent.joined (.inr at_)))
  | runCreate at_ absent => exact .inl LoopThread.noConfusion
  | runCreateFails at_ =>
    exact .inl (alive_of_absent (consistent.inactive (consistent.create at_) (by simp [at_])))
  | runToActive at_ => exact .inl (before (.inl at_))
  | exitToIdle at_ => exact .inl (before (.inr (.inl at_)))
  | waitToIdle at_ => exact .inl (before (.inr (.inr at_)))
  | loopEnds looping => exact .inr rfl

/-- The overtaken ChangeState leaves a state that the thread does not outlive. -/
theorem LifeCycle.beforeIdle (life : h'.LifeCycle) (step : Step h l h') : h.BeforeIdle l := by
  cases step with
  | callRun | callRequestExit | callRequestExitAndWait | runCreateFails | loopEnds => trivial
  | runToActive at_ => exact fun _ => life.outlives (.inl rfl) (outsideRun_of_free rfl)
  | exitToIdle at_ => exact fun _ => life.outlives (.inr rfl) (outsideRun_of_free rfl)
  | waitToIdle at_ =>
    exact fun _ => life.outlives (.inr rfl) fun next run => by cases run
  | runGetState at_ | runWaitState at_ | runJoin at_ | runToInactive at_ | runCreate at_
  | exitGetState at_ | waitGetState at_ | waitWaitState at_ | waitJoin at_
  | waitToInactive at_ => simp [BeforeIdle,at_]

/-- Of the steps from a sound state only the ChangeState of a call that the thread has overtaken
spoils the life cycle. -/
theorem lifeCycle_step_iff (life : h.LifeCycle) (consistent : h.Consistent) (step : Step h l h') :
    h'.LifeCycle ↔ h.BeforeIdle l :=
  ⟨fun life' => life'.beforeIdle step,
    fun before => (step_settled life consistent step before).lifeCycle⟩

/-- A state in which the call is at no point that the state has to go with. -/
theorem consistent_of_point (inactive : h.state=.kInactive → h.thread=.absent)
    (started : h.call≠some (.Run .getState)) (create : h.call≠some (.Run .create))
    (joined : h.call≠some (.Run .toInactive) ∧ h.call≠some (.RequestExitAndWait .toInactive)) :
    h.Consistent :=
  ⟨fun off _ => inactive off,fun at_ => absurd at_ started,fun at_ => absurd at_ create,
    fun at_ => at_.elim (fun at_ => absurd at_ joined.1) fun at_ => absurd at_ joined.2⟩

theorem consistent_step (life : h.LifeCycle) (consistent : h.Consistent) (step : Step h l h') :
    h'.Consistent := by
  have inactive : h.call≠some (.Run .toActive) → h.state=.kInactive → h.thread=.absent :=
    fun quiet off => consistent.inactive off quiet
  cases step with
  | callRun free =>
    refine ⟨fun off _ => inactive (by simp [free]) off,fun _ active => ?_,by simp,by simp⟩
    exact life.outlives (.inl active) (outsideRun_of_free free)
  | callRequestExit free | callRequestExitAndWait free =>
    exact consistent_of_point (inactive (by simp [free])) (by simp) (by simp) (by simp)
  | runGetState at_ =>
    refine ⟨fun off _ => inactive (by simp [at_]) off,?_,?_,?_⟩ <;>
      cases h.state <;> simp [RunPoint.ofState]
  | exitGetState at_ =>
    exact consistent_of_point (inactive (by simp [at_])) (by simp) (by simp) (by simp)
  | waitGetState at_ =>
    refine consistent_of_point (inactive (by simp [at_])) (by simp) (by simp) ⟨by simp,?_⟩
    cases h.state <;> simp [ExitPoint.ofState]
  | runWaitState at_ idle | waitWaitState at_ idle =>
    exact consistent_of_point (inactive (by simp [at_])) (by simp) (by simp) (by simp)
  | runJoin at_ ended | waitJoin at_ ended =>
    exact ⟨fun _ _ => rfl,by simp,by simp,fun _ => rfl⟩
  | runToInactive at_ =>
    exact ⟨fun _ _ => consistent.joined (.inl at_),by simp,fun _ => rfl,by simp⟩
  | waitToInactive at_ =>
    exact consistent_of_point (fun _ => consistent.joined (.inr at_)) (by simp) (by simp)
      (by simp)
  | runCreate at_ absent => exact ⟨fun _ quiet => absurd rfl quiet,by simp,by simp,by simp⟩
  | runCreateFails at_ =>
    exact consistent_of_point (inactive (by simp [at_])) (by simp) (by simp) (by simp)
  | runToActive at_ | exitToIdle at_ | waitToIdle at_ =>
    exact consistent_of_point (by simp) (by simp) (by simp) (by simp)
  | loopEnds looping =>
    -- A thread that is looping is neither joined nor about to be created.
    refine ⟨by simp,by simp,?_,?_⟩
    · intro at_
      have absent := inactive (by simp [show h.call=_ from at_]) (consistent.create at_)
      exact absurd (absent.symm.trans looping) (by decide)
    · intro at_
      exact absurd ((consistent.joined at_).symm.trans looping) (by decide)

/-- A helper whose thread has not been started. -/
def unstarted : ThreadHelper := {}

theorem lifeCycle_unstarted : unstarted.LifeCycle := by
  constructor <;> simp [unstarted]

theorem consistent_unstarted : unstarted.Consistent := by
  constructor <;> simp [unstarted]

/-- The life cycle holds as long as each ChangeState of a call comes before the one of the thread,
and is spoilt by one that does not. -/
theorem lifeCycle_of_beforeIdle {labels : List ThreadLabel}
    (hr : Run (Guarded BeforeIdle Step) unstarted labels h) :
    h.LifeCycle ∧ ∀ l h',Step h l h' → (h'.LifeCycle ↔ h.BeforeIdle l) := by
  refine hr.kept_iff_guard (I := Consistent) ?_ ?_ consistent_unstarted lifeCycle_unstarted
  · intro h l h' consistent life step _
    exact consistent_step life consistent step
  · intro h l h' consistent life step
    exact lifeCycle_step_iff life consistent step

instance (h : ThreadHelper) : DecidablePred h.BeforeIdle
  | .proceed => inferInstanceAs (Decidable (_ ∨ _ ∨ _ → _))
  | .Run | .RequestExit | .RequestExitAndWait | .createFails | .loopEnds => isTrue trivial

/-- The thread is started, asked to stop, ends and is joined. -/
theorem lifeCycle_stopped : ∃ h,Run (Guarded BeforeIdle Step) unstarted
    [.Run,.proceed,.proceed,.proceed,.RequestExitAndWait,.proceed,.proceed,.loopEnds,.proceed,
      .proceed] h ∧ h.LifeCycle := by
  have started : Run (Guarded BeforeIdle Step) unstarted [.Run,.proceed,.proceed,.proceed]
      ⟨.kActive,.looping,none⟩ :=
    (((Run.nil.snoc ⟨trivial,.callRun rfl⟩).snoc ⟨by decide,.runGetState rfl⟩).snoc
      ⟨by decide,.runCreate rfl rfl⟩).snoc ⟨by decide,.runToActive rfl⟩
  have asked : Run (Guarded BeforeIdle Step) ⟨.kActive,.looping,none⟩
      [.RequestExitAndWait,.proceed,.proceed]
      ⟨.kToIdle,.looping,some (.RequestExitAndWait .join)⟩ :=
    ((Run.nil.snoc ⟨trivial,.callRequestExitAndWait rfl⟩).snoc ⟨by decide,.waitGetState rfl⟩).snoc
      ⟨by decide,.waitToIdle rfl⟩
  have joined : Run (Guarded BeforeIdle Step) ⟨.kToIdle,.looping,some (.RequestExitAndWait .join)⟩
      [.loopEnds,.proceed,.proceed] ⟨.kInactive,.absent,none⟩ :=
    ((Run.nil.snoc ⟨trivial,.loopEnds rfl⟩).snoc ⟨by decide,.waitJoin rfl rfl⟩).snoc
      ⟨by decide,.waitToInactive rfl⟩
  have whole := (started.append asked).append joined
  exact ⟨_,whole,(lifeCycle_of_beforeIdle whole).1⟩

/-- The loop ends before Run gets to its ChangeState(kActive). -/
theorem run_overtaken : Run Step unstarted [.Run,.proceed,.proceed,.loopEnds,.proceed]
    ⟨.kActive,.ended,none⟩ :=
  ((((Run.nil.snoc (.callRun rfl)).snoc (.runGetState rfl)).snoc (.runCreate rfl rfl)).snoc
    (.loopEnds rfl)).snoc (.runToActive rfl)

theorem lifeCycle_spoilt : ¬∀ labels h,Run Step unstarted labels h → h.LifeCycle := by
  intro supposed
  exact (supposed _ _ run_overtaken).outlives (.inl rfl) (by simp [OutsideRun]) rfl

/-- After a RequestExit, then, RequestExitAndWait waits with lock_ for a thread that has ended, and
nothing goes on. -/
theorem exit_blocked : ∃ labels h,Run Step unstarted labels h ∧
    h.call=some (.RequestExitAndWait .waitState) ∧ ∀ l h',¬Step h l h' := by
  have asked : Run Step ⟨.kActive,.ended,none⟩ [.RequestExit,.proceed,.proceed]
      ⟨.kToIdle,.ended,none⟩ :=
    ((Run.nil.snoc (.callRequestExit rfl)).snoc (.exitGetState rfl)).snoc (.exitToIdle rfl)
  have waits : Run Step ⟨.kToIdle,.ended,none⟩ [.RequestExitAndWait,.proceed]
      ⟨.kToIdle,.ended,some (.RequestExitAndWait .waitState)⟩ :=
    (Run.nil.snoc (.callRequestExitAndWait rfl)).snoc (.waitGetState rfl)
  refine ⟨_,_,(run_overtaken.append asked).append waits,rfl,?_⟩
  intro l h' step
  cases step <;> simp_all

end ThreadHelper

end IotMedia.Camera

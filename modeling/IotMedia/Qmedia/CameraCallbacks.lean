import IotMedia.Qmedia.CameraBase
import Mathlib.Tactic.Tauto

namespace IotMedia.Qmedia

namespace CameraBase

/-- A failure has been reported, and its callback has not run to its end. -/
def FailurePending (w : CameraBase) : Prop :=
  (∃ c∈w.messages,c.failure=true) ∨ w.background=.failedRelease ∨ w.background=.failedClose ∨
    w.background=.failedClear

/-- onOpened has been reported, and mCameraDevice does not show it yet. -/
def Arriving (w : CameraBase) : Prop :=
  .onOpened∈w.messages ∨ w.background=.openedRelease ∨ w.background=.openedAssign

/-- The UI thread is behind its test of mCameraDevice, and the background thread is there. -/
def leaving (w : CameraBase) : Bool :=
  w.ui=.awaitClosed || w.ui=.release || w.ui=.quitSafely || w.ui=.join

/-- What holds in a run of sound steps besides: how the answer to an open travels from the service
through the messages to mCameraDevice, and what a failure on its way still has to undo. -/
structure Inv (w : CameraBase) : Prop where
  only : ∀ n,w.device n=.opening ∨ w.device n=.opened → n=w.session
  owing : w.answered=false → w.ui=.openCamera ∨ w.ui=.started
  asked : w.ui=.openCamera → w.answered=false
  serving : w.quitting=true ∨ w.background=.absent →
    w.ui=.join ∨ w.ui=.stopped ∨ w.ui=.openCamera
  opening : w.device w.session=.opening →
    w.answered=false ∧ w.messages=[] ∧ w.background=.looping ∧ w.mCameraDevice=none
  first : .onOpened∈w.messages →
    w.background=.looping ∧ ∃ rest,w.messages=.onOpened::rest ∧ .onOpened∉rest
  unanswered : .onOpened∈w.messages ∨ w.background=.openedRelease → w.answered=false
  arriving : w.Arriving →
    w.mCameraDevice=none ∧ (w.device w.session=.opened ∨ w.FailurePending)
  arrived : w.device w.session=.opened → w.mCameraDevice=some w.session ∨ w.Arriving
  current : ∀ n,w.mCameraDevice=some n → n=w.session
  fresh : w.ui=.stopped ∨ w.ui=.openCamera → w.mCameraDevice=none ∧ w.background=.absent
  failed : w.device w.session=.failed → w.FailurePending
  clearing : w.background=.failedClear →
    w.device w.session≠.opening ∧ w.device w.session≠.opened ∧ w.device w.session≠.failed
  closing : w.ui=.closeDevice ∨ w.ui=.clearDevice → w.background=.openedAssign → w.FailurePending
  gone : w.leaving=true → w.mCameraDevice≠none ∨ w.background=.openedAssign → w.FailurePending

variable {w w' : CameraBase} {l : CameraLabel}

/-- Only what the UI thread does is told apart. -/
structure SameTalk (w w' : CameraBase) : Prop where
  answered : w'.answered=w.answered
  background : w'.background=w.background
  quitting : w'.quitting=w.quitting
  messages : w'.messages=w.messages
  session : w'.session=w.session
  device : w'.device=w.device
  mCameraDevice : w'.mCameraDevice=w.mCameraDevice

theorem SameTalk.pending (h : SameTalk w w') : w'.FailurePending ↔ w.FailurePending := by
  rw [FailurePending,FailurePending,h.background,h.messages]

theorem SameTalk.arriving (h : SameTalk w w') : w'.Arriving ↔ w.Arriving := by
  rw [Arriving,Arriving,h.background,h.messages]

theorem Inv.move (hi : w.Inv) (same : SameTalk w w')
    (owing : w.answered=false → w'.ui=.openCamera ∨ w'.ui=.started)
    (asked : w'.ui=.openCamera → w.answered=false)
    (serving : w.quitting=true ∨ w.background=.absent →
      w'.ui=.join ∨ w'.ui=.stopped ∨ w'.ui=.openCamera)
    (fresh : w'.ui=.stopped ∨ w'.ui=.openCamera → w.mCameraDevice=none ∧ w.background=.absent)
    (closing : w'.ui=.closeDevice ∨ w'.ui=.clearDevice → w.background=.openedAssign →
      w.FailurePending)
    (gone : w'.leaving=true → w.mCameraDevice≠none ∨ w.background=.openedAssign →
      w.FailurePending) : w'.Inv := by
  constructor
  case owing => rwa [same.answered]
  case asked => rwa [same.answered]
  case serving => rwa [same.quitting,same.background]
  case fresh => rwa [same.mCameraDevice,same.background]
  case closing => rwa [same.background,same.pending]
  case gone => rwa [same.mCameraDevice,same.background,same.pending]
  case only => rw [same.device,same.session]; exact hi.only
  case opening =>
    rw [same.device,same.session,same.answered,same.messages,same.background,same.mCameraDevice]
    exact hi.opening
  case first => rw [same.messages,same.background]; exact hi.first
  case unanswered => rw [same.messages,same.background,same.answered]; exact hi.unanswered
  case arriving =>
    rw [same.arriving,same.mCameraDevice,same.device,same.session,same.pending]
    exact hi.arriving
  case arrived =>
    rw [same.arriving,same.mCameraDevice,same.device,same.session]
    exact hi.arrived
  case current => rw [same.mCameraDevice,same.session]; exact hi.current
  case failed => rw [same.device,same.session,same.pending]; exact hi.failed
  case clearing => rw [same.device,same.session,same.background]; exact hi.clearing

/-- The current device has been answered for wherever closeCamera is under way. -/
theorem Inv.closing_answered (hi : w.Inv) (h : w.ui≠.openCamera) (h' : w.ui≠.started) :
    w.answered=true := by
  by_contra unanswered
  rcases hi.owing (by simpa using unanswered) with at_|at_
  · exact h at_
  · exact h' at_

theorem Inv.unannounced (hi : w.Inv) (busy : w.background≠.looping) : .onOpened∉w.messages :=
  fun member => busy (hi.first member).1

theorem Inv.answeredOpen (hi : w.Inv) (busy : w.background≠.looping) :
    w.device w.session≠.opening :=
  fun opening => busy (hi.opening opening).2.2.1

/-- The background thread lives between openCamera and the join. -/
theorem Inv.running (hi : w.Inv) (alive : w.background≠.absent) :
    w.ui≠.stopped ∧ w.ui≠.openCamera :=
  ⟨fun at_ => alive (hi.fresh (Or.inl at_)).2,fun at_ => alive (hi.fresh (Or.inr at_)).2⟩

/-- A live device has its thread. -/
theorem Inv.served (hi : w.Inv) (hx : w.Exclusive)
    (live : w.device w.session=.opening ∨ w.device w.session=.opened) :
    w.background≠.absent ∧ w.quitting=false := by
  by_contra unserved
  have at_ := hi.serving (by grind)
  have past : w.pastClose=true := by rcases at_ with h|h|h <;> simp [pastClose,h]
  have shut := hx.shut past w.session
  exact live.elim shut.1 shut.2

theorem startCamera_inv (hi : w.Inv) (h : w.perform .startCamera=some w') : w'.Inv := by
  simp only [perform] at h
  split_ifs at h with at_
  cases h
  have fresh := hi.fresh (Or.inl at_.1)
  refine ⟨hi.only,fun _ => Or.inl rfl,fun _ => rfl,fun _ => Or.inr (Or.inr rfl),?_,hi.first,
    fun _ => rfl,hi.arriving,hi.arrived,hi.current,fun _ => fresh,hi.failed,hi.clearing,?_,?_⟩
  · exact fun opening => ⟨rfl,(hi.opening opening).2⟩
  · simp
  · simp [leaving]

/-- The device of a new session is open only if the open was taken, and failed only with a callback
to come. -/
theorem openOutcome_answers (outcome : OpenOutcome) :
    outcome.device≠.opened ∧ (outcome.device=.opening → outcome.messages=[]) ∧
      (outcome.device=.failed → ∃ c∈outcome.messages,c.failure=true) ∧
      .onOpened∉outcome.messages := by
  cases outcome with
  | accepted | thrown => simp [OpenOutcome.device,OpenOutcome.messages]
  | refused error => cases error <;> simp [OpenOutcome.device,OpenOutcome.messages,CameraCallback.failure]

/-- Nothing of an earlier session is left. -/
theorem openCamera_inv (hi : w.Inv) (hx : w.Exclusive) {outcome}
    (h : w.perform (.openCamera outcome)=some w') : w'.Inv := by
  simp only [perform] at h
  split_ifs at h with at_
  cases h
  have shut := hx.shut (by simp [pastClose,at_])
  have none_ := (hi.fresh (Or.inr at_)).1
  obtain ⟨never,taken,failed,quiet⟩ := openOutcome_answers outcome
  constructor
  case only =>
    intro n live
    by_contra other
    have old : w.device n=.opening ∨ w.device n=.opened := by simpa [other] using live
    exact old.elim (shut n).1 (shut n).2
  case owing => exact fun _ => Or.inr rfl
  case opening =>
    intro opening
    have device : outcome.device=.opening := by simpa using opening
    exact ⟨hi.asked at_,taken device,rfl,none_⟩
  case failed =>
    intro down
    have device : outcome.device=.failed := by simpa using down
    exact Or.inl (failed device)
  case arrived =>
    intro opened
    have device : outcome.device=.opened := by simpa using opened
    exact absurd device never
  all_goals simp [leaving,Arriving,none_,quiet]

theorem closeCamera_inv (hi : w.Inv) (hx : w.Exclusive) (h : w.perform .closeCamera=some w') :
    w'.Inv := by
  simp only [perform] at h
  split_ifs at h with at_
  cases h
  have answered : w.answered=true := by
    by_contra not
    have balanced := hx.balanced
    simp only [owed,not,if_false] at balanced
    omega
  refine hi.move ⟨rfl,rfl,rfl,rfl,rfl,rfl,rfl⟩ ?_ ?_ ?_ ?_ ?_ ?_
  · simp [answered]
  · simp
  · intro still
    have elsewhere := hi.serving still
    simp [at_.1] at elsewhere
  · simp
  · simp
  · simp [leaving]

theorem checkDevice_inv (hi : w.Inv) (sound : w.Sound .checkDevice)
    (h : w.perform .checkDevice=some w') : w'.Inv := by
  simp only [perform] at h
  have undone : w.background=.openedAssign → w.FailurePending := by
    intro assigning
    have arriving := hi.arriving (Or.inr (Or.inr assigning))
    exact arriving.2.resolve_left fun opened => sound ⟨assigning,opened⟩
  have serves (at_ : w.ui=.checkDevice) : ¬(w.quitting=true ∨ w.background=.absent) := by
    intro still
    have elsewhere := hi.serving still
    simp [at_] at elsewhere
  split_ifs at h with at_ none_
  · cases h
    have answered := hi.closing_answered (by simp [at_]) (by simp [at_])
    refine hi.move ⟨rfl,rfl,rfl,rfl,rfl,rfl,rfl⟩ ?_ ?_ (fun still => absurd still (serves at_)) ?_ ?_
      (fun _ held => undone (held.resolve_left (by simp [none_])))
    · simp [answered]
    · simp
    · simp
    · simp
  · cases h
    have answered := hi.closing_answered (by simp [at_]) (by simp [at_])
    refine hi.move ⟨rfl,rfl,rfl,rfl,rfl,rfl,rfl⟩ ?_ ?_ (fun still => absurd still (serves at_)) ?_
      (fun _ => undone) ?_
    · simp [answered]
    · simp
    · simp
    · simp [leaving]

/-- A step between two points behind the test. -/
theorem leave_inv (hi : w.Inv) (leaving : w.leaving=true) (same : SameTalk w w')
    (leaving' : w'.leaving=true) (h : w.ui=.join → w'.ui=.join) : w'.Inv := by
  have points : w.ui=.awaitClosed ∨ w.ui=.release ∨ w.ui=.quitSafely ∨ w.ui=.join := by
    simpa [CameraBase.leaving,or_assoc] using leaving
  have points' : w'.ui=.awaitClosed ∨ w'.ui=.release ∨ w'.ui=.quitSafely ∨ w'.ui=.join := by
    simpa [CameraBase.leaving,or_assoc] using leaving'
  have answered : w.answered=true := by
    rcases points with at_|at_|at_|at_ <;>
      exact hi.closing_answered (by simp [at_]) (by simp [at_])
  refine hi.move same ?_ ?_ ?_ ?_ ?_ (fun _ => hi.gone leaving)
  · simp [answered]
  · rcases points' with at_|at_|at_|at_ <;> simp [at_]
  · intro still
    have at_ : w.ui=.join := by
      have elsewhere := hi.serving still
      rcases points with at_|at_|at_|at_ <;> simp [at_] at elsewhere ⊢
    exact Or.inl (h at_)
  · rcases points' with at_|at_|at_|at_ <;> simp [at_]
  · rcases points' with at_|at_|at_|at_ <;> simp [at_]

/-- What is not told apart may change as well. -/
theorem same_inv (hi : w.Inv) (same : SameTalk w w') (ui : w'.ui=w.ui) : w'.Inv := by
  refine hi.move same ?_ ?_ ?_ ?_ ?_ ?_
  · rw [ui]; exact hi.owing
  · rw [ui]; exact hi.asked
  · rw [ui]; exact hi.serving
  · rw [ui]; exact hi.fresh
  · rw [ui]; exact hi.closing
  · rw [leaving,ui]; exact hi.gone

theorem crash_inv (hi : w.Inv) : w.crash.Inv := same_inv hi ⟨rfl,rfl,rfl,rfl,rfl,rfl,rfl⟩ rfl

/-- A device that is closed, by either thread or by the service. -/
theorem settle_inv (hi : w.Inv) {n : Nat} {d : DeviceState}
    (settled : d≠.opening ∧ d≠.opened ∧ d≠.failed)
    (undone : n=w.session → w.Arriving → w.FailurePending) : (w.setDevice n d).Inv := by
  have other (m : Nat) (live : (w.setDevice n d).device m=.opening ∨
      (w.setDevice n d).device m=.opened ∨ (w.setDevice n d).device m=.failed) :
      m≠n ∧ (w.setDevice n d).device m=w.device m := by
    have apart : m≠n := by
      rintro rfl
      have here : (w.setDevice m d).device m=d := Function.update_self ..
      rw [here] at live
      rcases live with at_|at_|at_
      · exact settled.1 at_
      · exact settled.2.1 at_
      · exact settled.2.2 at_
    exact ⟨apart,Function.update_of_ne apart ..⟩
  constructor
  case only =>
    intro m live
    have same := (other m (by tauto)).2
    rw [same] at live
    exact hi.only m live
  case opening =>
    intro at_
    rw [(other _ (Or.inl at_)).2] at at_
    exact hi.opening at_
  case arriving =>
    intro arriving
    refine ⟨(hi.arriving arriving).1,?_⟩
    by_cases here : n=w.session
    · exact Or.inr (undone here arriving)
    · have same : (w.setDevice n d).device w.session=w.device w.session :=
        Function.update_of_ne (Ne.symm here) ..
      exact (hi.arriving arriving).2.imp_left same.trans
  case arrived =>
    intro at_
    rw [(other _ (Or.inr (Or.inl at_))).2] at at_
    exact hi.arrived at_
  case failed =>
    intro at_
    rw [(other _ (Or.inr (Or.inr at_))).2] at at_
    exact hi.failed at_
  case clearing =>
    intro at_
    have before := hi.clearing at_
    refine ⟨?_,?_,?_⟩
    · intro live
      rw [(other _ (Or.inl live)).2] at live
      exact before.1 live
    · intro live
      rw [(other _ (Or.inr (Or.inl live))).2] at live
      exact before.2.1 live
    · intro live
      rw [(other _ (Or.inr (Or.inr live))).2] at live
      exact before.2.2 live
  case owing => exact hi.owing
  case asked => exact hi.asked
  case serving => exact hi.serving
  case first => exact hi.first
  case unanswered => exact hi.unanswered
  case current => exact hi.current
  case fresh => exact hi.fresh
  case closing => exact hi.closing
  case gone => exact hi.gone

theorem closeDevice_inv (hi : w.Inv) (h : w.perform .closeDevice=some w') : w'.Inv := by
  simp only [perform] at h
  split_ifs at h with at_
  cases held : w.mCameraDevice with
  | none =>
    rw [held] at h
    cases h
    exact crash_inv hi
  | some n =>
    rw [held] at h
    cases h
    have away : ¬w.Arriving := by
      intro arriving
      rw [(hi.arriving arriving).1] at held
      cases held
    have answered := hi.closing_answered (by simp [at_]) (by simp [at_])
    have closed : (w.close n).Inv :=
      settle_inv hi (w.device n).close_settled fun _ arriving => absurd arriving away
    refine closed.move ⟨rfl,rfl,rfl,rfl,rfl,rfl,rfl⟩ ?_ ?_ ?_ ?_ ?_ ?_
    · simp [close,setDevice,answered]
    · simp
    · intro still
      have elsewhere := hi.serving still
      simp [at_] at elsewhere
    · simp
    · exact fun _ assigning => absurd (Or.inr (Or.inr assigning)) away
    · simp [leaving]

theorem clearDevice_inv (hi : w.Inv) (hx : w.Exclusive) (h : w.perform .clearDevice=some w') :
    w'.Inv := by
  simp only [perform] at h
  split_ifs at h with at_
  cases h
  have shut := hx.shut (by simp [pastClose,at_])
  have answered := hi.closing_answered (by simp [at_]) (by simp [at_])
  constructor
  case only => exact hi.only
  case owing => simp [answered]
  case asked => simp
  case serving =>
    intro still
    have elsewhere := hi.serving still
    simp [at_] at elsewhere
  case opening => exact fun live => absurd live (shut _).1
  case first => exact hi.first
  case unanswered => exact hi.unanswered
  case arriving => exact fun arriving => ⟨rfl,(hi.arriving arriving).2⟩
  case arrived => exact fun live => absurd live (shut _).2
  case current => simp
  case fresh => simp
  case failed => exact hi.failed
  case clearing => exact hi.clearing
  case closing => simp
  case gone => exact fun _ held => hi.closing (Or.inr at_) (held.resolve_left (by simp))

theorem quitSafely_inv (hi : w.Inv) (h : w.perform .quitSafely=some w') : w'.Inv := by
  simp only [perform] at h
  split_ifs at h with at_
  cases h
  have answered := hi.closing_answered (by simp [at_]) (by simp [at_])
  refine ⟨hi.only,?_,?_,fun _ => Or.inl rfl,hi.opening,hi.first,hi.unanswered,hi.arriving,
    hi.arrived,hi.current,?_,hi.failed,hi.clearing,?_,fun _ => hi.gone (by simp [leaving,at_])⟩
  · simp [answered]
  · simp
  · simp
  · simp

/-- The thread ends with its last message, so no failure is left to be handled. -/
theorem join_inv (hi : w.Inv) (hx : w.Exclusive) (h : w.perform .join=some w') : w'.Inv := by
  simp only [perform] at h
  split_ifs at h with at_
  cases h
  obtain ⟨joining,idle,empty⟩ := at_
  have none_pending : ¬w.FailurePending := by simp [FailurePending,idle,empty]
  have shut := hx.shut (by simp [pastClose,joining])
  have answered := hi.closing_answered (by simp [joining]) (by simp [joining])
  constructor
  case only => exact hi.only
  case owing => simp [answered]
  case asked => simp
  case serving => simp
  case opening => exact fun live => absurd live (shut _).1
  case first => simp [empty]
  case unanswered => simp [empty]
  case arriving => simp [Arriving,empty]
  case arrived => exact fun live => absurd live (shut _).2
  case current => exact hi.current
  case fresh =>
    refine fun _ => ⟨?_,rfl⟩
    by_contra held
    exact none_pending (hi.gone (by simp [leaving,joining]) (Or.inl held))
  case failed => exact fun at_ => absurd (hi.failed at_) none_pending
  case clearing => simp
  case closing => simp
  case gone => simp [leaving]

/-! The service reports to the messages. -/

theorem post_messages (w : CameraBase) (n : Nat) (c : CameraCallback) :
    (w.post n c).messages=w.messages ∨ (w.post n c).messages=w.messages++[c] := by
  unfold post
  dsimp only
  split_ifs
  · exact Or.inr rfl
  · exact Or.inl rfl

theorem FailurePending.post (h : w.FailurePending) (n : Nat) (c : CameraCallback) :
    (w.post n c).FailurePending := by
  rcases h with ⟨d,member,failure⟩|working
  · refine Or.inl ⟨d,?_,failure⟩
    rcases w.post_messages n c with same|longer
    · rwa [same]
    · rw [longer]
      exact List.mem_append_left _ member
  · exact Or.inr working

theorem arriving_of_post {n : Nat} {c : CameraCallback} (other : c≠.onOpened)
    (h : (w.post n c).Arriving) : w.Arriving := by
  rcases h with member|working
  · left
    rcases w.post_messages n c with same|longer
    · rwa [same] at member
    · rw [longer] at member
      simpa [other.symm] using member
  · exact Or.inr working

theorem arriving_post (h : w.Arriving) (n : Nat) (c : CameraCallback) :
    (w.post n c).Arriving := by
  rcases h with member|working
  · left
    rcases w.post_messages n c with same|longer
    · rwa [same]
    · rw [longer]
      exact List.mem_append_left _ member
  · exact Or.inr working

/-- Behind onOpened other reports may queue up. -/
theorem first_post (hi : w.Inv) {n : Nat} {c : CameraCallback} (other : c≠.onOpened)
    (h : .onOpened∈(w.post n c).messages) :
    w.background=.looping ∧ w.answered=false ∧
      ∃ rest,(w.post n c).messages=.onOpened::rest ∧ .onOpened∉rest := by
  rcases w.post_messages n c with same|longer
  · rw [same] at h ⊢
    have before := hi.first h
    exact ⟨before.1,hi.unanswered (Or.inl h),before.2⟩
  · rw [longer] at h ⊢
    have member : .onOpened∈w.messages := by simpa [other.symm] using h
    obtain ⟨idle,rest,start,once⟩ := hi.first member
    refine ⟨idle,hi.unanswered (Or.inl member),rest++[c],?_,?_⟩
    · rw [start,List.cons_append]
    · simp [once,other.symm]

/-- A report other than onOpened, of a device that is not just being opened. -/
theorem post_inv (hi : w.Inv) {n : Nat} {c : CameraCallback} (other : c≠.onOpened)
    (awake : n=w.session → w.device w.session≠.opening) : (w.post n c).Inv where
  only := hi.only
  owing := hi.owing
  asked := hi.asked
  serving := hi.serving
  opening := fun at_ =>
    have same : (w.post n c).messages=w.messages := if_neg fun sent => awake sent.1 at_
    ⟨(hi.opening at_).1,same.trans (hi.opening at_).2.1,(hi.opening at_).2.2⟩
  first := fun h => ⟨(first_post hi other h).1,(first_post hi other h).2.2⟩
  unanswered := fun h => h.elim (fun h => (first_post hi other h).2.1) fun h =>
    hi.unanswered (Or.inr h)
  arriving := fun h =>
    have before := hi.arriving (arriving_of_post other h)
    ⟨before.1,before.2.imp_right (·.post n c)⟩
  arrived := fun h => (hi.arrived h).imp_right (arriving_post · n c)
  current := hi.current
  fresh := hi.fresh
  failed := fun h => (hi.failed h).post n c
  clearing := hi.clearing
  closing := fun h k => (hi.closing h k).post n c
  gone := fun h k => (hi.gone h k).post n c

theorem opened_inv (hi : w.Inv) (hx : w.Exclusive) (h : w.perform .opened=some w') : w'.Inv := by
  simp only [perform] at h
  split_ifs at h with at_
  cases h
  obtain ⟨unanswered,empty,idle,none_⟩ := hi.opening at_
  have queued : ((w.setDevice w.session .opened).post w.session .onOpened).messages=
      [.onOpened] := by
    have served := hi.served hx (Or.inl at_)
    simp [post,setDevice,served,empty]
  have here : (w.setDevice w.session .opened).device w.session=.opened := Function.update_self ..
  have reported : ((w.setDevice w.session .opened).post w.session .onOpened).Arriving := by
    left
    rw [queued]
    exact List.mem_singleton_self _
  constructor
  case only =>
    intro m live
    by_contra other
    have same : (w.setDevice w.session .opened).device m=w.device m := Function.update_of_ne other ..
    exact other (hi.only m (by rw [← same]; exact live))
  case owing => exact hi.owing
  case asked => exact hi.asked
  case serving => exact hi.serving
  case opening => exact fun still => absurd (still.symm.trans here) (by decide)
  case first => exact fun _ => ⟨idle,[],queued,List.not_mem_nil⟩
  case unanswered => exact fun _ => unanswered
  case arriving => exact fun _ => ⟨none_,Or.inl here⟩
  case arrived => exact fun _ => Or.inr reported
  case current => exact hi.current
  case fresh => exact hi.fresh
  case failed => exact fun still => absurd (still.symm.trans here) (by decide)
  case clearing => simp [post,setDevice,idle]
  case closing => simp [post,setDevice,idle]
  case gone => simp [post,setDevice,idle,none_]

theorem fail_inv (hi : w.Inv) (hx : w.Exclusive) {n : Nat} {c : CameraCallback}
    (h : w.perform (.fail n c)=some w') : w'.Inv := by
  simp only [perform] at h
  split_ifs at h with at_
  cases h
  obtain ⟨failure,live⟩ := at_
  have other : c≠.onOpened := by
    rintro rfl
    cases failure
  by_cases earlier : n≠w.session
  · -- it has failed before, and its thread is gone
    have failed : w.device n=.failed := by
      rcases live with at_|at_|at_
      · exact absurd (hi.only n (Or.inl at_)) earlier
      · exact absurd (hi.only n (Or.inr at_)) earlier
      · exact at_
    have same : (w.setDevice n .failed).post n c=w := by
      rw [setDevice,← failed,Function.update_eq_self]
      simp [post,earlier]
    rwa [same]
  obtain rfl : n=w.session := not_not.mp earlier
  have failed : (w.setDevice w.session .failed).device w.session=.failed := Function.update_self ..
  have pending : ((w.setDevice w.session .failed).post w.session c).FailurePending := by
    by_cases before : w.device w.session=.failed
    · have old : (w.setDevice w.session .failed).FailurePending := hi.failed before
      exact old.post w.session c
    · have served := hi.served hx (by tauto)
      refine Or.inl ⟨c,?_,failure⟩
      simp [post,setDevice,served]
  constructor
  case only =>
    intro m live_
    by_contra other_
    have same : (w.setDevice w.session .failed).device m=w.device m :=
      Function.update_of_ne other_ ..
    exact other_ (hi.only m (by rw [← same]; exact live_))
  case owing => exact hi.owing
  case asked => exact hi.asked
  case serving => exact hi.serving
  case opening => exact fun still => absurd (still.symm.trans failed) (by decide)
  case first => exact fun h => ⟨(first_post hi other h).1,(first_post hi other h).2.2⟩
  case unanswered =>
    exact fun h => h.elim (fun h => (first_post hi other h).2.1) fun h => hi.unanswered (Or.inr h)
  case arriving =>
    exact fun arriving => ⟨(hi.arriving (arriving_of_post other arriving)).1,Or.inr pending⟩
  case arrived => exact fun still => absurd (still.symm.trans failed) (by decide)
  case current => exact hi.current
  case fresh => exact hi.fresh
  case failed => exact fun _ => pending
  case clearing =>
    intro clearing
    have settled := hi.clearing clearing
    tauto
  case closing => exact fun _ _ => pending
  case gone => exact fun _ _ => pending

theorem closed_inv (hi : w.Inv) {n : Nat} (h : w.perform (.closed n)=some w') : w'.Inv := by
  simp only [perform] at h
  split_ifs at h with at_
  cases h
  have undone (here : n=w.session) (arriving : w.Arriving) : w.FailurePending := by
    subst here
    refine (hi.arriving arriving).2.resolve_left ?_
    rw [at_]
    decide
  have settled : (w.setDevice n .closed).Inv := settle_inv hi (by decide) undone
  refine post_inv settled (by decide) fun (here : n=w.session) opening => ?_
  subst here
  have closed : (w.setDevice w.session .closed).device w.session=.closed := Function.update_self ..
  exact absurd (closed.symm.trans opening) (by decide)

/-! The background thread. -/

theorem dispatch_inv (hi : w.Inv) (h : w.perform .dispatch=some w') : w'.Inv := by
  simp only [perform] at h
  cases idle : w.background <;> cases queued : w.messages <;> simp only [idle,queued] at h
  all_goals try cases h
  rename_i c rest
  have pending (before : w.FailurePending) :
      ({ w with background := c.entry,messages := rest } : CameraBase).FailurePending := by
    rcases before with ⟨d,member,failure⟩|working
    · rw [queued] at member
      rcases List.mem_cons.mp member with rfl|later
      · right
        left
        cases d <;> first | rfl | cases failure
      · exact Or.inl ⟨d,later,failure⟩
    · simp [idle] at working
  have once (member : .onOpened∈rest) : False := by
    obtain ⟨-,rest',start,once⟩ := hi.first (by rw [queued]; exact List.mem_cons_of_mem _ member)
    rw [queued] at start
    cases start
    exact once member
  have entered : c.entry=.openedRelease → c=.onOpened := by cases c <;> decide
  have apart : c.entry≠.absent ∧ c.entry≠.openedAssign ∧ c.entry≠.failedClear := by
    cases c <;> decide
  have arriving (after : ({ w with background := c.entry,messages := rest } : CameraBase).Arriving) :
      w.Arriving := by
    left
    rw [queued]
    rcases after with member|here|here
    · exact absurd member once
    · rw [entered here]
      exact List.mem_cons_self
    · exact absurd here apart.2.1
  constructor
  case only => exact hi.only
  case owing => exact hi.owing
  case asked => exact hi.asked
  case serving => exact fun still => hi.serving (still.imp_right fun none_ => absurd none_ apart.1)
  case opening =>
    intro at_
    have empty := (hi.opening at_).2.1
    rw [queued] at empty
    cases empty
  case first => exact fun member => absurd member once
  case unanswered =>
    intro after
    refine hi.unanswered (Or.inl ?_)
    rw [queued]
    rcases after with member|here
    · exact absurd member once
    · rw [entered here]
      exact List.mem_cons_self
  case arriving =>
    intro after
    have before := hi.arriving (arriving after)
    exact ⟨before.1,before.2.imp_right pending⟩
  case arrived =>
    intro at_
    refine (hi.arrived at_).imp_right fun before => ?_
    rcases before with member|here|here
    · rw [queued] at member
      rcases List.mem_cons.mp member with rfl|later
      · exact Or.inr (Or.inl rfl)
      · exact absurd later once
    · simp [idle] at here
    · simp [idle] at here
  case current => exact hi.current
  case fresh =>
    intro at_
    have none_ := (hi.fresh at_).2
    rw [idle] at none_
    cases none_
  case failed => exact fun at_ => pending (hi.failed at_)
  case clearing => exact fun at_ => absurd at_ apart.2.2
  case closing => exact fun _ at_ => absurd at_ apart.2.1
  case gone =>
    exact fun left_ held => pending (hi.gone left_ (Or.inl (held.resolve_right apart.2.1)))

/-- A step from one such point to another. -/
theorem turn_inv (hi : w.Inv) (busy : w.background≠.looping)
    (plain : w.background.plain=true) {b : BackgroundPoint} (plain' : b.plain=true) :
    ({ w with background := b } : CameraBase).Inv := by
  have idle := hi.unannounced busy
  have still {p : BackgroundPoint} (other : p.plain=false) : w.background≠p ∧ b≠p := by
    constructor
    · rintro rfl
      simp [plain] at other
    · rintro rfl
      simp [plain'] at other
  have pending (before : w.FailurePending) :
      ({ w with background := b } : CameraBase).FailurePending := by
    rcases before with member|at_|at_|at_
    · exact Or.inl member
    · exact absurd at_ (still rfl).1
    · exact absurd at_ (still rfl).1
    · exact absurd at_ (still rfl).1
  have away (after : w.Arriving) : False := by
    rcases after with member|at_|at_
    · exact idle member
    · exact (still rfl).1 at_
    · exact (still rfl).1 at_
  have away' (after : ({ w with background := b } : CameraBase).Arriving) : False := by
    rcases after with member|at_|at_
    · exact idle member
    · exact (still rfl).2 at_
    · exact (still rfl).2 at_
  constructor
  case only => exact hi.only
  case owing => exact hi.owing
  case asked => exact hi.asked
  case serving => exact fun h => hi.serving (h.imp_right fun none_ => absurd none_ (still rfl).2)
  case opening => exact fun at_ => absurd at_ (hi.answeredOpen busy)
  case first => exact fun member => absurd member idle
  case unanswered => exact fun h => (h.elim idle fun at_ => (still rfl).2 at_).elim
  case arriving => exact fun after => (away' after).elim
  case arrived => exact fun at_ => Or.inl ((hi.arrived at_).resolve_right away)
  case current => exact hi.current
  case fresh => exact fun at_ => absurd (hi.fresh at_).2 (still rfl).1
  case failed => exact fun at_ => pending (hi.failed at_)
  case clearing => exact fun at_ => absurd at_ (still rfl).2
  case closing => exact fun _ at_ => absurd at_ (still rfl).2
  case gone =>
    exact fun h held => pending (hi.gone h (Or.inl (held.resolve_right (still rfl).2)))

/-- A call of the device ends in one of three ways. -/
theorem useDevice_keeps {P : CameraBase → Prop} {done : CameraBase} (called : P done)
    (caught : P { w with background := .looping }) (uncaught : P w.crash) :
    P (w.useDevice done) := by
  unfold useDevice
  cases w.mCameraDevice.map w.device with
  | none => exact uncaught
  | some d => cases d <;> first | exact called | exact caught | exact uncaught

/-- Outside of a failure's callback what is pending waits among the messages. -/
theorem FailurePending.queued (h : w.FailurePending)
    (away : w.background≠.failedRelease ∧ w.background≠.failedClose ∧
      w.background≠.failedClear) : ∃ c∈w.messages,c.failure=true := by
  rcases h with queued|at_|at_|at_
  · exact queued
  · exact absurd at_ away.1
  · exact absurd at_ away.2.1
  · exact absurd at_ away.2.2

theorem openedRelease_inv (hi : w.Inv) (at_ : w.background=.openedRelease) :
    ({ w with permits := w.permits+1,answered := true,background := .openedAssign } :
      CameraBase).Inv := by
  have quiet := hi.unannounced (by simp [at_])
  have unanswered := hi.unanswered (Or.inr at_)
  have arriving := hi.arriving (Or.inr (Or.inl at_))
  have ui := hi.owing unanswered
  constructor
  case only => exact hi.only
  case owing => simp
  case asked => exact fun asked => absurd asked (hi.running (by simp [at_])).2
  case serving => exact fun still => hi.serving (still.imp_right (by simp))
  case opening => exact fun opening => absurd opening (hi.answeredOpen (by simp [at_]))
  case first => exact fun member => absurd member quiet
  case unanswered => exact fun h => absurd h (by simp [quiet])
  case arriving =>
    refine fun _ => ⟨arriving.1,arriving.2.imp_right fun pending => Or.inl ?_⟩
    exact pending.queued (by simp [at_])
  case arrived => exact fun _ => Or.inr (Or.inr (Or.inr rfl))
  case current => exact hi.current
  case fresh =>
    have running := hi.running (by simp [at_])
    exact fun fresh => (fresh.elim running.1 running.2).elim
  case failed => exact fun failed => Or.inl ((hi.failed failed).queued (by simp [at_]))
  case clearing => simp
  case closing =>
    intro closing
    rcases ui with ui|ui <;> simp [ui] at closing
  case gone =>
    intro gone
    rcases ui with ui|ui <;> simp [leaving,ui] at gone

theorem openedAssign_inv (hi : w.Inv) (at_ : w.background=.openedAssign) :
    ({ w with mCameraDevice := some w.session,background := .openedRequest } :
      CameraBase).Inv := by
  have quiet := hi.unannounced (by simp [at_])
  constructor
  case only => exact hi.only
  case owing => exact hi.owing
  case asked => exact hi.asked
  case serving => exact fun still => hi.serving (still.imp_right (by simp))
  case opening => exact fun opening => absurd opening (hi.answeredOpen (by simp [at_]))
  case first => exact fun member => absurd member quiet
  case unanswered => exact fun h => absurd h (by simp [quiet])
  case arriving => exact fun h => absurd h (by simp [Arriving,quiet])
  case arrived => exact fun _ => Or.inl rfl
  case current => exact fun n held => (Option.some.inj held).symm
  case fresh =>
    have running := hi.running (by simp [at_])
    exact fun fresh => (fresh.elim running.1 running.2).elim
  case failed => exact fun failed => Or.inl ((hi.failed failed).queued (by simp [at_]))
  case clearing => simp
  case closing => simp
  case gone => exact fun gone _ => Or.inl ((hi.gone gone (Or.inr at_)).queued (by simp [at_]))

theorem failedRelease_inv (hi : w.Inv) (at_ : w.background=.failedRelease) :
    ({ w with permits := w.permits+1,answered := true,background := .failedClose } :
      CameraBase).Inv := by
  have quiet := hi.unannounced (by simp [at_])
  have pending : ({ w with permits := w.permits+1,answered := true,background := .failedClose } :
      CameraBase).FailurePending := Or.inr (Or.inr (Or.inl rfl))
  have away : ¬w.Arriving := by simp [Arriving,quiet,at_]
  constructor
  case only => exact hi.only
  case owing => simp
  case asked => exact fun asked => absurd asked (hi.running (by simp [at_])).2
  case serving => exact fun still => hi.serving (still.imp_right (by simp))
  case opening => exact fun opening => absurd opening (hi.answeredOpen (by simp [at_]))
  case first => exact fun member => absurd member quiet
  case unanswered => exact fun h => absurd h (by simp [quiet])
  case arriving => exact fun h => absurd h (by simp [Arriving,quiet])
  case arrived => exact fun live => Or.inl ((hi.arrived live).resolve_right away)
  case current => exact hi.current
  case fresh =>
    have running := hi.running (by simp [at_])
    exact fun fresh => (fresh.elim running.1 running.2).elim
  case failed => exact fun _ => pending
  case clearing => simp
  case closing => simp
  case gone => exact fun _ _ => pending

theorem failedClose_inv (hi : w.Inv) (at_ : w.background=.failedClose) :
    ({ w.close w.session with background := .failedClear } : CameraBase).Inv := by
  have quiet := hi.unannounced (by simp [at_])
  have away : ¬w.Arriving := by simp [Arriving,quiet,at_]
  have closed : (w.close w.session).Inv :=
    settle_inv hi (w.device w.session).close_settled fun _ arriving => absurd arriving away
  have here : (w.close w.session).device w.session=(w.device w.session).close :=
    Function.update_self ..
  have settled := (w.device w.session).close_settled
  rw [← here] at settled
  constructor
  case only => exact closed.only
  case owing => exact hi.owing
  case asked => exact hi.asked
  case serving => exact fun still => hi.serving (still.imp_right (by simp))
  case opening => exact fun opening => absurd opening settled.1
  case first => exact fun member => absurd member quiet
  case unanswered => exact fun h => absurd h (by simp [close,setDevice,quiet])
  case arriving => exact fun h => absurd h (by simp [Arriving,close,setDevice,quiet])
  case arrived => exact fun live => absurd live settled.2.1
  case current => exact hi.current
  case fresh =>
    have running := hi.running (by simp [at_])
    exact fun fresh => (fresh.elim running.1 running.2).elim
  case failed => exact fun failed => absurd failed settled.2.2
  case clearing => exact fun _ => settled
  case closing => simp
  case gone => exact fun _ _ => Or.inr (Or.inr (Or.inr rfl))

theorem failedClear_inv (hi : w.Inv) (at_ : w.background=.failedClear) :
    ({ w with mCameraDevice := none,background := .looping } : CameraBase).Inv := by
  have quiet := hi.unannounced (by simp [at_])
  have settled := hi.clearing at_
  constructor
  case only => exact hi.only
  case owing => exact hi.owing
  case asked => exact hi.asked
  case serving => exact fun still => hi.serving (still.imp_right (by simp))
  case opening => exact fun opening => absurd opening settled.1
  case first => exact fun member => absurd member quiet
  case unanswered => exact fun h => absurd h (by simp [quiet])
  case arriving => exact fun h => absurd h (by simp [Arriving,quiet])
  case arrived => exact fun live => absurd live settled.2.1
  case current => simp
  case fresh =>
    have running := hi.running (by simp [at_])
    exact fun fresh => (fresh.elim running.1 running.2).elim
  case failed => exact fun failed => absurd failed settled.2.2
  case clearing => simp
  case closing => simp
  case gone => simp

theorem background_inv (hi : w.Inv) (h : w.runBackground=some w') : w'.Inv := by
  unfold runBackground at h
  cases at_ : w.background <;> simp only [at_] at h
  case absent => cases h
  case looping => cases h
  case openedRelease =>
    cases h
    exact openedRelease_inv hi at_
  case openedAssign =>
    cases h
    exact openedAssign_inv hi at_
  case openedRequest =>
    cases h
    have turned := turn_inv hi (by simp [at_]) (by simp [at_,BackgroundPoint.plain])
      (b := .openedSession) rfl
    have back := turn_inv hi (by simp [at_]) (by simp [at_,BackgroundPoint.plain])
      (b := .looping) rfl
    exact useDevice_keeps turned back (crash_inv hi)
  case openedSession =>
    have back := turn_inv hi (by simp [at_]) (by simp [at_,BackgroundPoint.plain])
      (b := .looping) rfl
    split_ifs at h
    · cases h
      have created : ({ w with created := w.created+1,background := .looping } :
          CameraBase).Inv := same_inv back ⟨rfl,rfl,rfl,rfl,rfl,rfl,rfl⟩ rfl
      exact useDevice_keeps created back (crash_inv hi)
    · cases h
      exact crash_inv hi
  case failedRelease =>
    cases h
    exact failedRelease_inv hi at_
  case failedClose =>
    cases h
    exact failedClose_inv hi at_
  case failedClear =>
    cases h
    exact failedClear_inv hi at_
  case closedClear =>
    cases h
    have turned := turn_inv hi (by simp [at_]) (by simp [at_,BackgroundPoint.plain])
      (b := .closedRelease) rfl
    exact same_inv turned ⟨rfl,rfl,rfl,rfl,rfl,rfl,rfl⟩ rfl
  case closedRelease =>
    cases h
    have turned := turn_inv hi (by simp [at_]) (by simp [at_,BackgroundPoint.plain])
      (b := .looping) rfl
    exact same_inv turned ⟨rfl,rfl,rfl,rfl,rfl,rfl,rfl⟩ rfl

theorem step_inv (hi : w.Inv) (hx : w.Exclusive) (h : Step w l w') (sound : w.Sound l) :
    w'.Inv := by
  have done := h.2
  cases l with
  | startCamera => exact startCamera_inv hi done
  | startTimedOut =>
    simp only [perform] at done
    split_ifs at done
    cases done
    exact crash_inv hi
  | openCamera outcome => exact openCamera_inv hi hx done
  | closeCamera => exact closeCamera_inv hi hx done
  | checkDevice => exact checkDevice_inv hi sound done
  | closeDevice => exact closeDevice_inv hi done
  | clearDevice => exact clearDevice_inv hi hx done
  | tryAcquire =>
    simp only [perform] at done
    split_ifs at done with at_
    cases done
    exact leave_inv hi (by simp [leaving,at_]) ⟨rfl,rfl,rfl,rfl,rfl,rfl,rfl⟩ rfl (by simp [at_])
  | timedOut =>
    simp only [perform] at done
    split_ifs at done with at_
    cases done
    exact leave_inv hi (by simp [leaving,at_]) ⟨rfl,rfl,rfl,rfl,rfl,rfl,rfl⟩ rfl (by simp [at_])
  | release =>
    simp only [perform] at done
    split_ifs at done with at_
    cases done
    exact leave_inv hi (by simp [leaving,at_]) ⟨rfl,rfl,rfl,rfl,rfl,rfl,rfl⟩ rfl (by simp [at_])
  | quitSafely => exact quitSafely_inv hi done
  | join => exact join_inv hi hx done
  | opened => exact opened_inv hi hx done
  | fail n c => exact fail_inv hi hx done
  | closed n => exact closed_inv hi done
  | dispatch => exact dispatch_inv hi done
  | background => exact background_inv hi done

end CameraBase
end IotMedia.Qmedia

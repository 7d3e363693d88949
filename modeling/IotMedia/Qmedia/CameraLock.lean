import IotMedia.Framework.Run
import IotMedia.Qmedia.CameraCallbacks

namespace IotMedia.Qmedia

open IotMedia.Framework

namespace CameraBase

variable {w w' : CameraBase} {l : CameraLabel}

/-! The count of the permits. -/

theorem Exclusive.answered (hx : w.Exclusive) (free : 0<w.permits) : w.answered=true := by
  by_contra not
  have balanced := hx.balanced
  simp only [owed,not,if_false] at balanced
  omega

theorem Exclusive.same (hx : w.Exclusive) (balanced : w'.permits+w'.owed=w.permits+w.owed)
    (ui : w'.pastClose=true → w.pastClose=true)
    (device : ∀ n,w'.device n=.opening ∨ w'.device n=.opened →
      w.device n=.opening ∨ w.device n=.opened) : w'.Exclusive := by
  refine ⟨balanced.trans hx.balanced,fun past n => ?_⟩
  have shut := hx.shut (ui past) n
  have open_ := device n
  tauto

/-- No device comes to life by being set to a state that is none of the two. -/
theorem live_of_set {n m : Nat} {d : DeviceState} (dead : d≠.opening ∧ d≠.opened)
    (live : (w.setDevice n d).device m=.opening ∨ (w.setDevice n d).device m=.opened) :
    w.device m=.opening ∨ w.device m=.opened := by
  by_cases here : m=n
  · subst here
    have set_ : (w.setDevice m d).device m=d := Function.update_self ..
    rw [set_] at live
    exact (live.elim dead.1 dead.2).elim
  · have same : (w.setDevice n d).device m=w.device m := Function.update_of_ne here ..
    rwa [same] at live

theorem Exclusive.crash (hx : w.Exclusive) : w.crash.Exclusive := ⟨hx.balanced,hx.shut⟩

theorem background_exclusive (hi : w.Inv) (hx : w.Exclusive) (sound : w.Sound .background)
    (h : w.runBackground=some w') : w'.Exclusive := by
  have balanced := hx.balanced
  unfold runBackground at h
  cases at_ : w.background <;> simp only [at_] at h
  case absent => cases h
  case looping => cases h
  case openedRelease =>
    cases h
    have unanswered := hi.unanswered (Or.inr at_)
    refine hx.same ?_ (fun past => past) fun _ => id
    simp [owed,waits,unanswered]
    omega
  case openedAssign =>
    cases h
    exact hx.same rfl (fun past => past) fun _ => id
  case openedRequest =>
    cases h
    exact useDevice_keeps (hx.same rfl (fun past => past) fun _ => id)
      (hx.same rfl (fun past => past) fun _ => id) hx.crash
  case openedSession =>
    split_ifs at h
    · cases h
      exact useDevice_keeps (hx.same rfl (fun past => past) fun _ => id)
        (hx.same rfl (fun past => past) fun _ => id) hx.crash
    · cases h
      exact hx.crash
  case failedRelease =>
    cases h
    have unanswered := sound.1 at_
    refine hx.same ?_ (fun past => past) fun _ => id
    simp [owed,waits,unanswered]
    omega
  case failedClose =>
    cases h
    have settled := (w.device w.session).close_settled
    exact hx.same rfl (fun past => past) fun _ => live_of_set ⟨settled.1,settled.2.1⟩
  case failedClear =>
    cases h
    exact hx.same rfl (fun past => past) fun _ => id
  case closedClear =>
    cases h
    exact hx.same rfl (fun past => past) fun _ => id
  case closedRelease =>
    cases h
    obtain ⟨waiting,owing⟩ := sound.2 at_
    have elsewhere : w.ui≠.release := by
      intro here
      simp [waits,here] at waiting
    refine hx.same ?_ (fun past => past) fun _ => id
    have same : ({ w with permits := w.permits+1,returned := true,background := .looping } :
        CameraBase).waits=w.waits := rfl
    simp [owed,same,waiting,owing,elsewhere]
    omega

/-- Where closeCamera finds no device, none is open but one that the background thread has yet to
assign. -/
theorem checkDevice_shut (hi : w.Inv) (sound : w.Sound .checkDevice) (at_ : w.ui=.checkDevice)
    (none_ : w.mCameraDevice=none) (n : Nat) : w.device n≠.opening ∧ w.device n≠.opened := by
  have answered := hi.closing_answered (by simp [at_]) (by simp [at_])
  refine ⟨fun opening => ?_,fun opened => ?_⟩
  · obtain rfl := hi.only n (Or.inl opening)
    rw [(hi.opening opening).1] at answered
    cases answered
  · obtain rfl := hi.only n (Or.inr opened)
    rcases hi.arrived opened with held|member|releasing|assigning
    · rw [none_] at held
      cases held
    · rw [hi.unanswered (Or.inl member)] at answered
      cases answered
    · rw [hi.unanswered (Or.inr releasing)] at answered
      cases answered
    · exact sound ⟨assigning,opened⟩

/-! What each step does to the count. -/

theorem startCamera_exclusive (hx : w.Exclusive) (h : w.perform .startCamera=some w') :
    w'.Exclusive := by
  simp only [perform] at h
  split_ifs at h with at_
  cases h
  have answered := hx.answered at_.2
  refine hx.same ?_ (by simp [pastClose,at_]) fun _ => id
  simp [owed,waits,at_,answered]
  omega

/-- startCamera still owes its permit, whatever openCamera comes to. -/
theorem openCamera_exclusive (hx : w.Exclusive) {outcome : OpenOutcome}
    (h : w.perform (.openCamera outcome)=some w') : w'.Exclusive := by
  have balanced := hx.balanced
  simp only [perform] at h
  split_ifs at h with at_
  cases h
  refine ⟨?_,by simp [pastClose]⟩
  simp [owed,waits,at_] at balanced ⊢
  exact balanced

theorem closeCamera_exclusive (hx : w.Exclusive) (h : w.perform .closeCamera=some w') :
    w'.Exclusive := by
  simp only [perform] at h
  split_ifs at h with at_
  cases h
  have answered := hx.answered at_.2
  refine hx.same ?_ (by simp [pastClose]) fun _ => id
  simp [owed,waits,at_,answered]
  omega

theorem checkDevice_exclusive (hi : w.Inv) (hx : w.Exclusive) (sound : w.Sound .checkDevice)
    (h : w.perform .checkDevice=some w') : w'.Exclusive := by
  have balanced := hx.balanced
  simp only [perform] at h
  split_ifs at h with at_ none_
  · cases h
    refine ⟨?_,fun _ n => checkDevice_shut hi sound at_ none_ n⟩
    simp [owed,waits,at_] at balanced ⊢
    exact balanced
  · cases h
    refine ⟨?_,by simp [pastClose]⟩
    simp [owed,waits,at_] at balanced ⊢
    exact balanced

/-- No device is open once the current one is closed. -/
theorem close_shut (hi : w.Inv) {n : Nat} (held : w.mCameraDevice=some n) (m : Nat) :
    (w.close n).device m≠.opening ∧ (w.close n).device m≠.opened := by
  have settled := (w.device n).close_settled
  have dead (live : (w.close n).device m=.opening ∨ (w.close n).device m=.opened) : False := by
    obtain rfl := hi.current n held
    obtain rfl := hi.only m (live_of_set ⟨settled.1,settled.2.1⟩ live)
    have here : (w.close w.session).device w.session=(w.device w.session).close :=
      Function.update_self ..
    rw [here] at live
    exact live.elim settled.1 settled.2.1
  exact ⟨fun live => dead (Or.inl live),fun live => dead (Or.inr live)⟩

theorem closeDevice_exclusive (hi : w.Inv) (hx : w.Exclusive)
    (h : w.perform .closeDevice=some w') : w'.Exclusive := by
  have balanced := hx.balanced
  simp only [perform] at h
  split_ifs at h with at_
  cases held : w.mCameraDevice with
  | none =>
    rw [held] at h
    cases h
    exact hx.crash
  | some n =>
    rw [held] at h
    cases h
    refine ⟨?_,fun _ m => close_shut hi held m⟩
    simp [owed,waits,at_,close,setDevice] at balanced ⊢
    exact balanced

theorem tryAcquire_exclusive (hx : w.Exclusive) (h : w.perform .tryAcquire=some w') :
    w'.Exclusive := by
  have balanced := hx.balanced
  simp only [perform] at h
  split_ifs at h with at_
  cases h
  have answered := hx.answered at_.2
  refine hx.same ?_ (by simp [pastClose,at_]) fun _ => id
  simp [owed,waits,at_,answered] at balanced ⊢
  split_ifs at balanced ⊢ <;> omega

/-- A closeCamera that gives up gives back a permit all the same, as the one of onClosed is still to
come. -/
theorem timedOut_exclusive (hi : w.Inv) (hx : w.Exclusive) (h : w.perform .timedOut=some w') :
    w'.Exclusive := by
  have balanced := hx.balanced
  simp only [perform] at h
  split_ifs at h with at_
  cases h
  have answered := hi.closing_answered (by simp [at_]) (by simp [at_])
  refine hx.same ?_ (by simp [pastClose,at_]) fun _ => id
  simp [owed,waits,at_,answered] at balanced ⊢
  simp [balanced]

theorem release_exclusive (hx : w.Exclusive) (h : w.perform .release=some w') : w'.Exclusive := by
  simp only [perform] at h
  split_ifs at h with at_
  cases h
  refine hx.same ?_ (by simp [pastClose,at_]) fun _ => id
  simp [owed,waits,at_]
  omega

/-- The other steps of closeCamera behind the close. -/
theorem leave_exclusive (hx : w.Exclusive) (h : w.perform l=some w')
    (leaves : l=.clearDevice ∨ l=.quitSafely ∨ l=.join) : w'.Exclusive := by
  rcases leaves with rfl|rfl|rfl
  all_goals
    simp only [perform] at h
    split_ifs at h with at_
    cases h
    refine hx.same ?_ (by simp [pastClose,at_]) fun _ => id
    simp [owed,waits,at_]

/-- The camera service answers, and the background thread takes the answer up. -/
theorem answer_exclusive (hx : w.Exclusive) (h : w.perform l=some w')
    (answers : l=.opened ∨ (∃ n c,l=.fail n c) ∨ (∃ n,l=.closed n) ∨ l=.dispatch) :
    w'.Exclusive := by
  rcases answers with rfl|⟨n,c,rfl⟩|⟨n,rfl⟩|rfl
  · simp only [perform] at h
    split_ifs at h with at_
    cases h
    exact ⟨hx.balanced,fun past => absurd at_ (hx.shut past _).1⟩
  · simp only [perform] at h
    split_ifs at h with at_
    cases h
    exact hx.same rfl (fun past => past) fun _ => live_of_set (by decide)
  · simp only [perform] at h
    split_ifs at h with at_
    cases h
    exact hx.same rfl (fun past => past) fun _ => live_of_set (by decide)
  · simp only [perform] at h
    cases idle : w.background <;> cases queued : w.messages <;> simp only [idle,queued] at h
    all_goals try cases h
    exact hx.same rfl (fun past => past) fun _ => id

/-- A sound step keeps the lock exclusive. -/
theorem step_exclusive (hi : w.Inv) (hx : w.Exclusive) (h : Step w l w') (sound : w.Sound l) :
    w'.Exclusive := by
  have done := h.2
  cases l with
  | startCamera => exact startCamera_exclusive hx done
  | startTimedOut =>
    simp only [perform] at done
    split_ifs at done
    cases done
    exact hx.crash
  | openCamera outcome => exact openCamera_exclusive hx done
  | closeCamera => exact closeCamera_exclusive hx done
  | checkDevice => exact checkDevice_exclusive hi hx sound done
  | closeDevice => exact closeDevice_exclusive hi hx done
  | tryAcquire => exact tryAcquire_exclusive hx done
  | timedOut => exact timedOut_exclusive hi hx done
  | release => exact release_exclusive hx done
  | clearDevice | quitSafely | join => exact leave_exclusive hx done (by simp)
  | opened | fail n c | closed n | dispatch => exact answer_exclusive hx done (by simp)
  | background => exact background_exclusive hi hx sound done

/-- Any other step breaks it at once. -/
theorem exclusive_sound (hi : w.Inv) (hx : w.Exclusive) (h : Step w l w') (hx' : w'.Exclusive) :
    w.Sound l := by
  have done := h.2
  have balanced := hx.balanced
  have balanced' := hx'.balanced
  cases l with
  | checkDevice =>
    rintro ⟨assigning,opened⟩
    have none_ := (hi.arriving (Or.inr (Or.inr assigning))).1
    simp only [perform,none_,if_true] at done
    split_ifs at done with at_
    cases done
    exact (hx'.shut (by simp [pastClose]) w.session).2 opened
  | background =>
    simp only [perform,runBackground] at done
    refine ⟨fun at_ => ?_,fun at_ => ?_⟩
    · by_contra answered
      simp only [at_] at done
      cases done
      have true_ : w.answered=true := by simpa using answered
      simp [owed,waits,true_] at balanced balanced'
      omega
    · by_contra stray
      simp only [at_] at done
      cases done
      have same : ({ w with permits := w.permits+1,returned := true,background := .looping } :
          CameraBase).waits=w.waits := rfl
      simp only [owed,same,stray,false_or] at balanced balanced'
      simp at balanced balanced'
      omega
  | _ => trivial

theorem start_inv : ({} : CameraBase).Inv := by
  constructor <;> simp [Arriving,FailurePending,leaving]

theorem start_exclusive : ({} : CameraBase).Exclusive := by
  constructor <;> simp [owed,waits]

theorem run_inv {labels : List CameraLabel} {w : CameraBase}
    (hr : Run (Guarded Sound Step) {} labels w) : w.Inv ∧ w.Exclusive := by
  refine hr.invariant (P := fun w => w.Inv ∧ w.Exclusive) ?_ ⟨start_inv,start_exclusive⟩
  rintro t l t' ⟨hi,hx⟩ ⟨sound,h⟩
  exact ⟨step_inv hi hx h sound,step_exclusive hi hx h sound⟩

/-- In every run of sound steps the lock has its one permit but for those that are still owed, and a
closeCamera that is past its close has left no device open; a further step keeps this exactly when
it is sound. -/
theorem lock_exclusive_iff {labels : List CameraLabel} {w : CameraBase}
    (hr : Run (Guarded Sound Step) {} labels w) :
    w.Exclusive ∧ ∀ l w',Step w l w' → (w'.Exclusive ↔ w.Sound l) := by
  refine hr.kept_iff_guard (I := Inv) ?_ ?_ start_inv start_exclusive
  · intro t l t' hi hx h sound
    exact step_inv hi hx h sound
  · intro t l t' hi hx h
    exact ⟨exclusive_sound hi hx h,step_exclusive hi hx h⟩

/-- A step of a trace that is replayed by evaluation. -/
def next (w : CameraBase) (l : CameraLabel) : Option CameraBase :=
  if w.crashed=false then w.perform l else none

theorem step_of_next (h : next w l=some w') : Step w l w' := by
  unfold next at h
  split_ifs at h with alive
  exact ⟨alive,h⟩

/-- A preview is started and stopped. -/
def preview : List CameraLabel :=
  [.startCamera,.openCamera .accepted,.opened,.dispatch,.background,.background,.background,
    .background,.closeCamera,.checkDevice,.closeDevice,.clearDevice,.closed 1,.dispatch,
    .background,.background,.tryAcquire,.release,.quitSafely,.join]

theorem lock_exclusive_iff_preview : ∃ w,
    Run (Guarded Sound Step) {} preview w ∧ w.ui=.stopped ∧
      w.Exclusive ∧ ∀ l w',Step w l w' → (w'.Exclusive ↔ w.Sound l) := by
  obtain ⟨w,hr,stopped⟩ := Run.of_exec_guarded (f := next) (G := Sound)
    (p := fun w => decide (w.ui=.stopped)) {} preview (fun _ _ _ h => step_of_next h) (by decide)
  exact ⟨w,hr,of_decide_eq_true stopped,lock_exclusive_iff hr⟩

/-- The lock is taken for an open that is not on its way. -/
structure Refused (w : CameraBase) : Prop where
  ui : w.ui=.started
  taken : w.permits=0
  idle : w.background=.looping ∧ w.messages=[]
  device : w.device w.session=.absent
  alive : w.crashed=false

/-- Only devices of earlier sessions are left to change. -/
theorem Refused.other (hr : w.Refused) {n : Nat} {d : DeviceState} {c : CameraCallback}
    (other : n≠w.session) : ((w.setDevice n d).post n c).Refused where
  ui := hr.ui
  taken := hr.taken
  idle := by
    have same : ((w.setDevice n d).post n c).messages=w.messages := if_neg fun sent => other sent.1
    exact ⟨hr.idle.1,same.trans hr.idle.2⟩
  device := (Function.update_of_ne other.symm ..).trans hr.device
  alive := hr.alive

/-- Where the open is refused with a callback closeCamera comes through. -/
example : ((exec next {} [.startCamera,.openCamera (.refused true),.dispatch,.background,.background,
    .closed 1,.background,.closeCamera]).map ui)=some .checkDevice := by decide

end CameraBase
end IotMedia.Qmedia

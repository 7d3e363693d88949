import IotMedia.Qmedia.CameraLock

namespace IotMedia.Qmedia

open IotMedia.Framework

namespace CameraBase

variable {w w' : CameraBase} {l : CameraLabel}

/-! onClosed drops the surface, and no later session is created without one. -/

/-- The session of this open may still be created. -/
def Coming (w : CameraBase) : Prop :=
  w.device w.session=.opening ∨ .onOpened∈w.messages ∨ w.background=.openedRelease ∨
    w.background=.openedAssign ∨ w.background=.openedRequest ∨ w.background=.openedSession

/-- The current session has not been given up. -/
def underWay (w : CameraBase) : Bool := w.ui=.started || w.waits

structure Spent (w : CameraBase) : Prop where
  dropping : w.background=.closedRelease → w.mStreamSurfaceHolder=false
  dropped : w.waits=true → w.returned=true → w.mStreamSurfaceHolder=false
  sessions : w.mStreamSurfaceHolder=true →
    w.session ≤ w.timedOut+(if w.underWay then 1 else 0)
  counted : w.created ≤ w.session ∧ (w.Coming → w.created<w.session)
  bound : w.created ≤ w.timedOut+1

/-- A step that creates nothing, leaves the surface and begins or gives up no session. -/
theorem Spent.keep (hs : w.Spent)
    (same : w'.mStreamSurfaceHolder=w.mStreamSurfaceHolder ∧ w'.session=w.session ∧
      w'.created=w.created ∧ w'.timedOut=w.timedOut)
    (dropping : w'.background=.closedRelease → w.background=.closedRelease)
    (dropped : w'.waits=true → w'.returned=true → w.waits=true ∧ w.returned=true)
    (ends : w'.underWay=false → w.underWay=false) (coming : w'.Coming → w.Coming) :
    w'.Spent := by
  obtain ⟨surface,session,created,timedOut⟩ := same
  refine ⟨fun h => surface.trans (hs.dropping (dropping h)),
    fun h k => surface.trans (hs.dropped (dropped h k).1 (dropped h k).2),?_,?_,?_⟩
  · rw [surface,session,timedOut]
    intro kept
    have before := hs.sessions kept
    cases under : w'.underWay with
    | false =>
      rw [ends under] at before
      exact before
    | true =>
      have atMost : (if w.underWay then 1 else 0) ≤ 1 := by split_ifs <;> decide
      exact Nat.le_trans before (Nat.add_le_add_left atMost _)
  · rw [session,created]
    exact ⟨hs.counted.1,fun h => hs.counted.2 (coming h)⟩
  · rw [created,timedOut]
    exact hs.bound

theorem coming_of_set {n : Nat} {d : DeviceState} (dead : d≠.opening)
    (h : (w.setDevice n d).Coming) : w.Coming := by
  rcases h with opening|rest
  · left
    by_cases here : w.session=n
    · have set_ : (w.setDevice n d).device w.session=d := by rw [here]; exact Function.update_self ..
      exact absurd (set_.symm.trans opening) dead
    · have same : (w.setDevice n d).device w.session=w.device w.session :=
        Function.update_of_ne here ..
      exact same.symm.trans opening
  · exact Or.inr rest

theorem coming_of_post {n : Nat} {c : CameraCallback} (other : c≠.onOpened)
    (h : (w.post n c).Coming) : w.Coming := by
  rcases h with opening|member|rest
  · exact Or.inl opening
  · right
    left
    rcases w.post_messages n c with same|longer
    · rwa [same] at member
    · rw [longer] at member
      simpa [other.symm] using member
  · exact Or.inr (Or.inr rest)

theorem Spent.crash (hs : w.Spent) : w.crash.Spent :=
  hs.keep ⟨rfl,rfl,rfl,rfl⟩ id (fun h k => ⟨h,k⟩) id id

/-- A step of the background thread alone. -/
theorem Spent.turn (hs : w.Spent) {b : BackgroundPoint} (dropping : b≠.closedRelease)
    (coming : ({ w with background := b } : CameraBase).Coming → w.Coming) :
    ({ w with background := b } : CameraBase).Spent :=
  hs.keep ⟨rfl,rfl,rfl,rfl⟩ (fun h => absurd h dropping) (fun h k => ⟨h,k⟩) id coming

theorem background_spent (hi : w.Inv) (hs : w.Spent) (h : w.runBackground=some w') :
    w'.Spent := by
  unfold runBackground at h
  cases at_ : w.background <;> simp only [at_] at h
  case absent => cases h
  case looping => cases h
  case openedRelease | openedAssign =>
    cases h
    exact hs.keep ⟨rfl,rfl,rfl,rfl⟩ (by simp) (fun h k => ⟨h,k⟩) id (by simp [Coming,at_])
  case openedRequest =>
    cases h
    exact useDevice_keeps (hs.turn (by decide) (by simp [Coming,at_]))
      (hs.turn (by decide) (by simp [Coming,at_])) hs.crash
  case openedSession =>
    have coming : w.Coming := by simp [Coming,at_]
    split_ifs at h with surface
    · cases h
      refine useDevice_keeps ?_ (hs.turn (by decide) fun _ => coming) hs.crash
      have below := hs.counted.2 coming
      have sessions := hs.sessions surface
      refine ⟨by simp,hs.dropped,hs.sessions,⟨below,fun still => ?_⟩,?_⟩
      · have quiet := hi.unannounced (by simp [at_])
        have opened := hi.answeredOpen (by simp [at_])
        simp [Coming,quiet,opened] at still
      · dsimp only
        split_ifs at sessions <;> omega
    · cases h
      exact hs.crash
  case failedRelease =>
    cases h
    exact hs.keep ⟨rfl,rfl,rfl,rfl⟩ (by simp) (fun h k => ⟨h,k⟩) id (by simp [Coming,at_])
  case failedClose =>
    cases h
    have settled := (w.device w.session).close_settled
    refine hs.keep ⟨rfl,rfl,rfl,rfl⟩ (by simp) (fun h k => ⟨h,k⟩) id fun h => ?_
    have closing : (w.close w.session).Coming := by
      simpa [Coming,close,setDevice,at_] using h
    exact coming_of_set settled.1 closing
  case failedClear =>
    cases h
    exact hs.keep ⟨rfl,rfl,rfl,rfl⟩ (by simp) (fun h k => ⟨h,k⟩) id (by simp [Coming,at_])
  case closedClear =>
    cases h
    refine ⟨fun _ => rfl,fun _ _ => rfl,by simp,⟨hs.counted.1,fun h => hs.counted.2 ?_⟩,hs.bound⟩
    simpa [Coming,at_] using h
  case closedRelease =>
    cases h
    have surface := hs.dropping at_
    refine ⟨by simp,fun _ _ => surface,fun kept => ?_,⟨hs.counted.1,fun h => hs.counted.2 ?_⟩,
      hs.bound⟩
    · exact absurd (surface.symm.trans kept) Bool.false_ne_true
    · simpa [Coming,at_] using h

/-- tryAcquire gets the permit of onClosed, and that callback has dropped the surface. -/
theorem tryAcquire_spent (hx : w.Exclusive) (hs : w.Spent)
    (h : w.perform .tryAcquire=some w') : w'.Spent := by
  simp only [perform] at h
  split_ifs at h with at_
  cases h
  have answered := hx.answered at_.2
  have balanced := hx.balanced
  have returned : w.returned=true := by
    by_contra not
    have awaited : w.returned=false := by simpa using not
    simp [owed,waits,at_,answered,awaited] at balanced
    omega
  have surface := hs.dropped (by simp [waits,at_]) returned
  refine ⟨hs.dropping,fun _ _ => surface,fun kept => ?_,hs.counted,hs.bound⟩
  exact absurd (surface.symm.trans kept) Bool.false_ne_true

/-- A new session may be created, or none of it. -/
theorem openCamera_spent (hs : w.Spent) {outcome : OpenOutcome}
    (h : w.perform (.openCamera outcome)=some w') : w'.Spent := by
  simp only [perform] at h
  split_ifs at h with at_
  cases h
  refine ⟨by simp,by simp [waits],fun kept => ?_,?_,hs.bound⟩
  · have before := hs.sessions kept
    simp [underWay,waits,at_] at before ⊢
    exact before
  · have before := hs.counted.1
    exact ⟨Nat.le_succ_of_le before,fun _ => Nat.lt_succ_of_le before⟩

theorem closeDevice_spent (hs : w.Spent) (h : w.perform .closeDevice=some w') : w'.Spent := by
  simp only [perform] at h
  split_ifs at h with at_
  cases held : w.mCameraDevice with
  | none =>
    rw [held] at h
    cases h
    exact hs.crash
  | some n =>
    rw [held] at h
    cases h
    have settled := (w.device n).close_settled
    exact hs.keep ⟨rfl,rfl,rfl,rfl⟩ id (by simp [waits,at_,close,setDevice])
      (by simp [underWay,waits]) fun h => coming_of_set settled.1 h

/-- The session that is given up is one that the wait for onClosed has been given up for. -/
theorem timedOut_spent (hs : w.Spent) (h : w.perform .timedOut=some w') : w'.Spent := by
  simp only [perform] at h
  split_ifs at h with at_
  cases h
  refine ⟨hs.dropping,by simp [waits],fun kept => ?_,hs.counted,Nat.le_succ_of_le hs.bound⟩
  have before := hs.sessions kept
  simp [underWay,waits,at_] at before ⊢
  exact before

/-- The other steps of closeCamera up to its wait. -/
theorem close_spent (hs : w.Spent) (h : w.perform l=some w')
    (closes : l=.closeCamera ∨ l=.checkDevice ∨ l=.clearDevice) : w'.Spent := by
  rcases closes with rfl|rfl|rfl
  all_goals
    simp only [perform] at h
    split_ifs at h with at_
    all_goals
      cases h
      exact hs.keep ⟨rfl,rfl,rfl,rfl⟩ id (by simp [waits,at_]) (by simp [underWay,waits]) id

/-- The steps of the UI thread between two sessions. -/
theorem between_spent (hs : w.Spent) (h : w.perform l=some w')
    (between : l=.startCamera ∨ l=.release ∨ l=.quitSafely ∨ l=.join) : w'.Spent := by
  rcases between with rfl|rfl|rfl|rfl
  all_goals
    simp only [perform] at h
    split_ifs at h with at_
    cases h
    exact hs.keep ⟨rfl,rfl,rfl,rfl⟩ (by simp) (by simp [waits]) (by simp [underWay,waits,at_])
      (by simp [Coming,at_])

/-- The camera service answers. -/
theorem answer_spent (hs : w.Spent) (h : w.perform l=some w')
    (answers : l=.opened ∨ (∃ n c,l=.fail n c) ∨ ∃ n,l=.closed n) : w'.Spent := by
  rcases answers with rfl|⟨n,c,rfl⟩|⟨n,rfl⟩
  · simp only [perform] at h
    split_ifs at h with at_
    cases h
    exact hs.keep ⟨rfl,rfl,rfl,rfl⟩ id (fun h k => ⟨h,k⟩) id fun _ => Or.inl at_
  · simp only [perform] at h
    split_ifs at h with at_
    cases h
    have other : c≠.onOpened := by
      rintro rfl
      cases at_.1
    exact hs.keep ⟨rfl,rfl,rfl,rfl⟩ id (fun h k => ⟨h,k⟩) id fun h =>
      coming_of_set (by decide) (coming_of_post other h)
  · simp only [perform] at h
    split_ifs at h with at_
    cases h
    exact hs.keep ⟨rfl,rfl,rfl,rfl⟩ id (fun h k => ⟨h,k⟩) id fun h =>
      coming_of_set (by decide) (coming_of_post (by decide) h)

theorem dispatch_spent (hs : w.Spent) (h : w.perform .dispatch=some w') : w'.Spent := by
  simp only [perform] at h
  cases idle : w.background <;> cases queued : w.messages <;> simp only [idle,queued] at h
  all_goals try cases h
  rename_i c rest
  refine hs.keep ⟨rfl,rfl,rfl,rfl⟩ ?_ (fun h k => ⟨h,k⟩) id ?_
  · cases c <;> simp [CameraCallback.entry]
  · rintro (opening|member|entered)
    · exact Or.inl opening
    · right
      left
      rw [queued]
      exact List.mem_cons_of_mem _ member
    · right
      left
      rw [queued]
      cases c <;> simp [CameraCallback.entry] at entered ⊢

theorem step_spent (hi : w.Inv) (hx : w.Exclusive) (hs : w.Spent) (h : Step w l w') :
    w'.Spent := by
  have done := h.2
  cases l with
  | startTimedOut =>
    simp only [perform] at done
    split_ifs at done with at_
    cases done
    exact hs.crash
  | openCamera outcome => exact openCamera_spent hs done
  | closeCamera | checkDevice | clearDevice => exact close_spent hs done (by simp)
  | closeDevice => exact closeDevice_spent hs done
  | tryAcquire => exact tryAcquire_spent hx hs done
  | timedOut => exact timedOut_spent hs done
  | startCamera | release | quitSafely | join => exact between_spent hs done (by simp)
  | opened | fail n c | closed n => exact answer_spent hs done (by simp)
  | dispatch => exact dispatch_spent hs done
  | background => exact background_spent hi hs done

theorem start_spent : ({} : CameraBase).Spent := by
  constructor <;> simp [waits,Coming]

/-- The second preview never comes: a CameraBase creates at most one session more than there were
calls of closeCamera that gave up waiting for onClosed. -/
theorem sessions_created {labels : List CameraLabel} {w : CameraBase}
    (hr : Run (Guarded Sound Step) {} labels w) : w.created ≤ w.timedOut+1 := by
  have spent : w.Spent := by
    induction hr with
    | nil => exact start_spent
    | snoc before h ih =>
      have all := run_inv before
      exact step_spent all.1 all.2 ih h.2
  exact spent.bound

/-- The preview is started again on the same object. -/
theorem sessions_created_again : ∃ w,
    Run (Guarded Sound Step) {} (preview++[.startCamera,.openCamera .accepted,.opened,.dispatch,
      .background,.background,.background,.background]) w ∧ w.crashed=true ∧
      w.created ≤ w.timedOut+1 := by
  obtain ⟨w,hr,crashed⟩ := Run.of_exec_guarded (f := next) (G := Sound)
    (p := fun w => w.crashed) {} (preview++[.startCamera,.openCamera .accepted,.opened,.dispatch,
      .background,.background,.background,.background]) (fun _ _ _ h => step_of_next h) (by decide)
  exact ⟨w,hr,crashed,sessions_created hr⟩

end CameraBase
end IotMedia.Qmedia

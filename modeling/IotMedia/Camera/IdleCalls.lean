import IotMedia.Camera.IdleWorld
import IotMedia.Camera.StreamBuffers

namespace IotMedia.Camera

open IotMedia.Framework

namespace Camera3Monitor

/-- What a call does to the monitor when it uses no monitor in use but `id`. -/
structure Keeps (m m' : Camera3Monitor) (id : Int) : Prop where
  known : ∀ other,other≠id → other < m.nextMonitor → m.KnownActive other → m'.KnownActive other
  keys : ∀ other,other≠id → other∈m.monitorStates.keys → other∈m'.monitorStates.keys
  next : m.nextMonitor ≤ m'.nextMonitor
  updated : m'.updatedStates=m.updatedStates
  composite : m'.compositeState=m.compositeState
  composed : m.Composed → m'.Composed

variable {m m' m'' : Camera3Monitor} {id : Int}

theorem Keeps.refl (m : Camera3Monitor) (id : Int) : Keeps m m id :=
  ⟨fun _ _ _ h => h,fun _ _ h => h,le_rfl,rfl,rfl,fun h => h⟩

theorem Keeps.changeState (m : Camera3Monitor) (id : Int) (state : MonitorState) :
    Keeps m (m.changeState id state) id :=
  ⟨fun _ hne _ h => (changeState_other state hne).mpr h,fun _ _ h => h,le_rfl,rfl,rfl,
    fun h => changeState_composed h id state⟩

theorem Keeps.releaseMonitor (m : Camera3Monitor) (id : Int) :
    Keeps m (m.releaseMonitor id) id := by
  refine ⟨fun _ hne _ h => (releaseMonitor_other hne).mpr h,?_,le_rfl,rfl,rfl,
    fun h => releaseMonitor_composed h id⟩
  intro other hne h
  exact (KeyedVector.mem_keys_removeItem _ _ _).mpr ⟨hne,h⟩

theorem Keeps.acquireMonitor (m : Camera3Monitor) (added : Bool) (id : Int) :
    Keeps m (m.acquireMonitor added).2 id := by
  refine ⟨?_,?_,?_,?_,?_,fun h => acquireMonitor_composed h added⟩
  · intro other _ below h
    exact (acquireMonitor_other added below.ne).mpr h
  · intro other _ h
    cases added with
    | false => exact h
    | true => exact (KeyedVector.mem_keys_add _ _ _ _).mpr (Or.inr h)
  · cases added <;> simp [Camera3Monitor.acquireMonitor]
  · cases added <;> rfl
  · cases added <;> rfl

end Camera3Monitor

section Streams

/-! What each call of a stream does to its counter, its monitor and the status. -/

open Camera3Monitor

variable {s : Camera3Stream} {u : BufferUsage}

namespace Camera3Stream

/-- The call did nothing that concerns the monitor. -/
def Silent {α : Type} (s : Camera3Stream) (r : StreamResult α) : Prop :=
  r.stream.monitorId=s.monitorId ∧ r.stream.status=s.status ∧
    r.stream.pendingBufferCount=s.pendingBufferCount ∧
    ∀ m,r.effects.foldl Camera3Monitor.streamEffect m=m

/-- The call handed out one more buffer, and told the monitor of the first. -/
def Lent {α : Type} (s : Camera3Stream) (r : StreamResult α) : Prop :=
  r.stream.monitorId=s.monitorId ∧ r.stream.status=s.status ∧
    r.stream.pendingBufferCount=s.pendingBufferCount+1 ∧
    ∀ m,r.effects.foldl Camera3Monitor.streamEffect m=
      if s.pendingBufferCount=0 ∧ s.isConfigureActive=false then
        m.changeStateToActive s.monitorId else m

theorem handOut_lent (idx : Nat) (handle : Handle) (frame : Int) :
    s.Lent (s.handOut idx handle frame) := by
  refine ⟨rfl,rfl,rfl,?_⟩
  intro m
  unfold handOut
  split_ifs <;> rfl

/-- GetBufferLocked hands out a buffer, or leaves the monitor and the counter. -/
theorem getBufferLocked_lends (u : BufferUsage) (s : Camera3Stream) (frame : Int)
    (alloc : Option Handle) : s.Silent (s.getBufferLocked u (some frame) alloc) ∨
      s.Lent (s.getBufferLocked u (some frame) alloc) ∧ s.status≠.error ∧
        s.status≠.initialized := by
  have silent (e : Int) (l : List StreamEffect)
      (quiet : ∀ m,l.foldl Camera3Monitor.streamEffect m=m) :
      s.Silent (⟨(e,none),s,l⟩ : StreamResult (Int × Option StreamBuffer)) := ⟨rfl,rfl,rfl,quiet⟩
  have outcome := s.getBufferLocked_outcome u (some frame) alloc
  generalize s.getBufferLocked u (some frame) alloc=r at outcome ⊢
  cases outcome with
  | refused | unanswered | full => exact Or.inl (silent _ _ fun _ => rfl)
  | unplaced => exact Or.inl ⟨rfl,rfl,rfl,fun _ => rfl⟩
  | @reuses _ handle idx active =>
    exact Or.inr ⟨handOut_lent (s := { s with memAllocBuffers := _ }) idx handle frame,
      not_or.mp active⟩
  | @allocates _ handle _ active answer room handed =>
    subst handed
    obtain ⟨monitorId,status,pending,told⟩ := handOut_lent (s := { s with
      memAllocSlots := s.memAllocSlots.set s.hwBufferAllocated (some handle)
      memAllocBuffers := s.memAllocBuffers.add handle false
      hwBufferAllocated := s.hwBufferAllocated+1 }) s.hwBufferAllocated handle frame
    exact Or.inr ⟨⟨monitorId,status,pending,fun m => told m⟩,not_or.mp active⟩

theorem getBufferWoken_lends (u : BufferUsage) (s : Camera3Stream) (frame waitRes : Int)
    (alloc : Option Handle) : s.Silent (s.getBufferWoken u frame waitRes alloc) ∨
      s.Lent (s.getBufferWoken u frame waitRes alloc) ∧ waitRes=0 ∧ s.status≠.error ∧
        s.status≠.initialized := by
  unfold getBufferWoken
  by_cases hw : waitRes≠0
  · rw [if_pos hw]
    exact Or.inl ⟨rfl,rfl,rfl,fun _ => rfl⟩
  · rw [if_neg hw]
    cases getBufferLocked_lends u s frame alloc with
    | inl silent => exact Or.inl silent
    | inr lent => exact Or.inr ⟨lent.1,not_not.mp hw,lent.2⟩

theorem getBuffer_lends (u : BufferUsage) (s : Camera3Stream) (frame waitRes : Int)
    (alloc : Option Handle) : s.Silent (s.getBuffer u frame waitRes alloc) ∨
      s.Lent (s.getBuffer u frame waitRes alloc) ∧ s.status=.configured := by
  unfold getBuffer
  by_cases hs : s.status≠.configured
  · rw [if_pos hs]
    exact Or.inl ⟨rfl,rfl,rfl,fun _ => rfl⟩
  rw [if_neg hs]
  split_ifs
  · cases getBufferWoken_lends u s frame waitRes alloc with
    | inl silent => exact Or.inl silent
    | inr lent => exact Or.inr ⟨lent.1,not_not.mp hs⟩
  · cases getBufferLocked_lends u s frame alloc with
    | inl silent => exact Or.inl silent
    | inr lent => exact Or.inr ⟨lent.1,not_not.mp hs⟩

/-- ReturnBuffer takes one buffer back, and tells the monitor of the last, or does nothing. -/
theorem returnBuffer_takes (s : Camera3Stream) (handle : Option Handle) :
    s.Silent (s.returnBuffer handle) ∨
    ((s.returnBuffer handle).stream.monitorId=s.monitorId ∧
      (s.returnBuffer handle).stream.status=s.status ∧
      (s.returnBuffer handle).stream.pendingBufferCount=s.pendingBufferCount-1 ∧
      ∀ m,(s.returnBuffer handle).effects.foldl Camera3Monitor.streamEffect m=
        if s.pendingBufferCount-1=0 ∧ s.isConfigureActive=false then
          m.changeStateToIdle s.monitorId else m) := by
  unfold returnBuffer returnBufferLocked
  by_cases hs : s.status=.initialized
  · rw [if_pos hs]
    exact Or.inl ⟨rfl,rfl,rfl,fun _ => rfl⟩
  rw [if_neg hs]
  by_cases hp : s.pendingBufferCount=0
  · rw [if_pos hp]
    exact Or.inl ⟨rfl,rfl,rfl,fun _ => rfl⟩
  rw [if_neg hp]
  cases handle with
  | none => exact Or.inl ⟨rfl,rfl,rfl,fun _ => rfl⟩
  | some h =>
    dsimp only
    cases s.memAllocBuffers.valueFor h with
    | none => exact Or.inl ⟨rfl,rfl,rfl,fun _ => rfl⟩
    | some free =>
      refine Or.inr ⟨rfl,rfl,rfl,?_⟩
      intro m
      dsimp only
      split_ifs <;> rfl

/-- BeginConfigure does nothing, or releases the monitor. -/
theorem beginConfigure_releases (u : BufferUsage) (s : Camera3Stream) :
    (s.beginConfigure u).stream=s ∧ (s.beginConfigure u).effects=[] ∨
    (s.beginConfigure u).stream.monitorId<0 ∧
      (s.beginConfigure u).stream.pendingBufferCount=s.pendingBufferCount ∧
      ∀ m,(s.beginConfigure u).effects.foldl Camera3Monitor.streamEffect m=
        if s.monitorId≠INVALID_ID then m.releaseMonitor s.monitorId else m := by
  have below : INVALID_ID<0 := by decide
  unfold beginConfigure
  cases hs : s.status with
  | configActive | reconfigActive | error | prepareActive => exact Or.inl ⟨rfl,rfl⟩
  | initialized | configured =>
    refine Or.inr ⟨below,rfl,?_⟩
    intro m
    dsimp only
    split_ifs <;> rfl

theorem freeAll_silent (s : Camera3Stream) (m : Camera3Monitor) :
    s.freeAll.foldl Camera3Monitor.streamEffect m=m := by
  unfold freeAll
  rw [List.foldl_map]
  induction s.memAllocBuffers.keys with
  | nil => rfl
  | cons handle handles ih => exact ih

/-- The buffers leave without a word to the monitor. -/
theorem closeLocked_silent (s : Camera3Stream) :
    s.closeLocked.stream.monitorId=s.monitorId ∧
      s.closeLocked.stream.pendingBufferCount=s.pendingBufferCount ∧
      ∀ m,s.closeLocked.effects.foldl Camera3Monitor.streamEffect m=m := by
  unfold closeLocked
  cases s.status with
  | reconfigActive | configured =>
    dsimp only
    by_cases hp : 0 < s.pendingBufferCount
    · rw [if_pos hp]
      exact ⟨rfl,rfl,fun _ => rfl⟩
    · rw [if_neg hp]
      exact ⟨rfl,rfl,s.freeAll_silent⟩
  | error | initialized | configActive | prepareActive => exact ⟨rfl,rfl,fun _ => rfl⟩

theorem destroyed_releases (s : Camera3Stream) (m : Camera3Monitor) :
    s.destroyed.foldl Camera3Monitor.streamEffect m=
      if 0 ≤ s.monitorId then m.releaseMonitor s.monitorId else m := by
  rw [destroyed,List.foldl_append,s.closeLocked_silent.2.2]
  split_ifs <;> rfl

theorem configureLocked_silent (s : Camera3Stream) :
    s.configureLocked.stream.monitorId=s.monitorId ∧
      (s.pendingBufferCount=0 → s.configureLocked.stream.pendingBufferCount=0) ∧
      ∀ m,s.configureLocked.effects.foldl Camera3Monitor.streamEffect m=m := by
  unfold configureLocked
  cases hs : s.status with
  | configActive => exact ⟨rfl,fun _ => rfl,s.freeAll_silent⟩
  | reconfigActive =>
    obtain ⟨monitorId,pending,silent⟩ := s.closeLocked_silent
    dsimp only
    by_cases refused : s.closeLocked.ret≠0
    · rw [if_pos refused]
      exact ⟨monitorId,fun empty => pending.trans empty,silent⟩
    · rw [if_neg refused]
      refine ⟨monitorId,fun _ => rfl,?_⟩
      intro m
      dsimp only
      rw [List.foldl_append,silent]
      exact freeAll_silent _ m
  | error | initialized | configured | prepareActive => exact ⟨rfl,fun h => h,fun _ => rfl⟩

/-- EndConfigure leaves the stream with the acquired monitor. -/
theorem endConfigure_acquires (u : BufferUsage) (acquired : Int) (ha : s.isConfigureActive=true) :
    (s.endConfigure u acquired).stream.monitorId=acquired ∧
      ((s.endConfigure u acquired).stream.isConfigureActive=true → acquired<0) ∧
      (s.pendingBufferCount=0 → (s.endConfigure u acquired).stream.pendingBufferCount=0) ∧
      ∀ m,(s.endConfigure u acquired).effects.foldl Camera3Monitor.streamEffect m=m := by
  unfold endConfigure
  rw [if_pos ha]
  dsimp only
  by_cases failed : acquired<0
  · rw [if_pos failed]
    exact ⟨rfl,fun _ => failed,fun h => h,fun _ => rfl⟩
  rw [if_neg failed]
  split_ifs with same he
  · refine ⟨rfl,fun h => ?_,fun h => h,fun _ => rfl⟩
    simp [isConfigureActive] at h
  all_goals
    obtain ⟨monitorId,pending,silent⟩ :=
      configureLocked_silent { s with monitorId := acquired }
    refine ⟨monitorId,fun h => ?_,pending,silent⟩
    simp [isConfigureActive] at h

/-- AbortConfigure leaves the stream without a monitor. -/
theorem abortConfigure_silent (u : BufferUsage) (ha : s.isConfigureActive=true) :
    (s.abortConfigure u).stream.monitorId=s.monitorId ∧
      (s.abortConfigure u).stream.isConfigureActive=false ∧
      (s.abortConfigure u).stream.pendingBufferCount=s.pendingBufferCount ∧
      (s.abortConfigure u).effects=[] := by
  unfold abortConfigure
  rw [if_pos ha]
  refine ⟨rfl,?_,rfl,rfl⟩
  dsimp only
  split_ifs <;> rfl

end Camera3Stream
end Streams

section Handler

open RequestHandler

variable {M : Type} {s t : RequestHandler M} {effects : List HandlerEffect}

/-- A call of the handler tells the monitor of each change of the pause. -/
def RequestHandler.Announces (s t : RequestHandler M) (effects : List HandlerEffect) : Prop :=
  t.monitorId=s.monitorId ∧
    ((t.pausedState=s.pausedState ∧ ∀ m,effects.foldl Camera3Monitor.handlerEffect m=m) ∨
    effects=[.changeStateToActive s.monitorId] ∨
    t.pausedState=true ∧ effects=[.changeStateToIdle s.monitorId])

theorem silent_announces (hid : t.monitorId=s.monitorId) (hp : t.pausedState=s.pausedState) :
    s.Announces t [] := ⟨hid,Or.inl ⟨hp,fun _ => rfl⟩⟩

theorem resume_announces (s : RequestHandler M) : s.Announces s.resume.1 s.resume.2 := by
  unfold resume
  split_ifs
  · exact silent_announces rfl rfl
  · exact ⟨rfl,Or.inr (Or.inl rfl)⟩

theorem waitOnPause_announces (s : RequestHandler M) :
    s.Announces s.waitOnPause.1 s.waitOnPause.2.1 := by
  unfold waitOnPause
  split_ifs
  · exact silent_announces rfl rfl
  · exact silent_announces rfl rfl
  · exact ⟨rfl,Or.inr (Or.inr ⟨rfl,rfl⟩)⟩
  · exact silent_announces rfl rfl

theorem reportAll_silent (n : Nat) (rs : List (CaptureRequest M)) (m : Camera3Monitor) :
    (reportAll n rs).2.foldl Camera3Monitor.handlerEffect m=m := by
  induction rs generalizing n with
  | nil => rfl
  | cons r rs ih => exact ih (frameAfter n)

theorem clear_announces (s : RequestHandler M) : s.Announces s.clear.1 s.clear.2.2 := by
  refine ⟨rfl,Or.inl ⟨rfl,?_⟩⟩
  intro m
  unfold clear
  dsimp only
  split_ifs
  · exact reportAll_silent _ _ m
  · rfl

theorem nextRequest_pause {r : CaptureRequest M} (h : s.nextRequest=some (t,r)) :
    t.monitorId=s.monitorId ∧ t.pausedState=s.pausedState := by
  unfold nextRequest at h
  cases hr : s.requests with
  | nil =>
    cases hs : s.streamingRequests with
    | nil => simp [hr,hs] at h
    | cons a rest =>
      simp only [hr,hs,Option.some.injEq,Prod.mk.injEq] at h
      obtain ⟨rfl,-⟩ := h
      exact ⟨rfl,rfl⟩
  | cons a rest =>
    simp only [hr] at h
    cases hf : (a::rest).find? (fun q => q.input) with
    | some q =>
      simp only [hf,Option.some.injEq,Prod.mk.injEq] at h
      obtain ⟨rfl,-⟩ := h
      exact ⟨rfl,rfl⟩
    | none =>
      simp only [hf,Option.some.injEq,Prod.mk.injEq] at h
      obtain ⟨rfl,-⟩ := h
      exact ⟨rfl,rfl⟩

variable [CameraMetadata M]

theorem getRequest_announces {got : RequestHandler M × CaptureRequest M × List HandlerEffect}
    (h : s.getRequest=some got) : s.Announces got.1 got.2.2 := by
  obtain ⟨next,hn,rfl⟩ := Option.map_eq_some_iff.mp h
  obtain ⟨monitorId,paused⟩ := nextRequest_pause hn
  refine ⟨monitorId,?_⟩
  unfold takeRequest
  dsimp only
  rw [paused,monitorId]
  cases hp : s.pausedState with
  | true => exact Or.inr (Or.inl rfl)
  | false => exact Or.inl ⟨rfl,fun _ => rfl⟩

theorem getRequestWoken_announces (s : RequestHandler M) (exitPending : Bool) :
    s.Announces (s.getRequestWoken exitPending).1 (s.getRequestWoken exitPending).2.2 := by
  unfold getRequestWoken
  cases hg : (if exitPending=true then none else s.getRequest) with
  | none =>
    dsimp only
    split_ifs
    · exact silent_announces rfl rfl
    · exact ⟨rfl,Or.inr (Or.inr ⟨rfl,rfl⟩)⟩
  | some got =>
    split_ifs at hg
    exact getRequest_announces hg

end Handler

end IotMedia.Camera

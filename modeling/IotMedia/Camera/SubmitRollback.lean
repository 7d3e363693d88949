import IotMedia.Camera.Submit

namespace IotMedia.Camera

open IotMedia.Framework PendingRequests RequestHandler

namespace Submission

variable {M : Type} [CameraMetadata M]

variable {u : BufferUsage} {env : SubmitEnv} {f k : Nat} {ids : List Int}
  {streams : Int → Camera3Stream}

section Submit

variable {s : Submission M} {next : CaptureRequest M}

/-- Choosing the settings touches the cached request and the metadata only. -/
theorem chooseSettings_same (h : RequestHandler M) (next : CaptureRequest M) :
    (∃ old,(h.chooseSettings next).1={ h with oldRequest := old }) ∧
    ∃ m,(h.chooseSettings next).2.1={ next with metadata := m } := by
  unfold chooseSettings
  split_ifs
  · exact ⟨⟨_,rfl⟩,_,rfl⟩
  · exact ⟨⟨h.oldRequest,rfl⟩,next.metadata,rfl⟩

/-- The buffers that GetBuffer gives to the request. -/
def acquired (u : BufferUsage) (env : SubmitEnv) (s : Submission M) (next : CaptureRequest M) :
    Acquired M :=
  acquireBuffers u env next.resultExtras.frameNumber 0 next.streams s.streams

/-- The mark_cb_ is missing or fails. -/
def MarkFails (env : SubmitEnv) (s : Submission M) : Prop :=
  s.handler.markCb=false ∨ env.markRes<0

/-- SubmitRequest ends in the loop over the streams, at mark_cb_, or with a registered frame. -/
theorem submitRequest_cases (u : BufferUsage) (env : SubmitEnv) (s : Submission M)
    (next : CaptureRequest M) :
    (submitRequest u env s next).state.handler.currentRequest=s.handler.currentRequest.clear ∧
    ((acquired u env s next).ret≠0 ∧
      (submitRequest u env s next).state.streams=(acquired u env s next).streams ∧
      (submitRequest u env s next).state.client=s.client ∨
    (acquired u env s next).ret=0 ∧ s.MarkFails env ∧
      (submitRequest u env s next).state.streams=(returnAll (M := M) next.resultExtras.frameNumber
        next.streams (acquired u env s next).streams).1 ∧
      (submitRequest u env s next).state.client=s.client ∨
    (acquired u env s next).ret=0 ∧ ¬s.MarkFails env ∧
      ∃ n extras,(submitRequest u env s next).state.client=
        s.client.markPendingRequest next.resultExtras.frameNumber n extras) := by
  obtain ⟨⟨old,handler⟩,m,request⟩ := chooseSettings_same s.handler next
  have all : (acquired u env s next).ret=0 →
      next.streams.take (acquired u env s next).outputBuffers.length=next.streams := by
    intro ok
    have lengths := (acquire_pending (M := M) u env next.resultExtras.frameNumber 0 next.streams
      s.streams).2 ok
    rw [acquired,lengths.1,List.take_length]
  have same : (acquireBuffers u env next.resultExtras.frameNumber 0 next.streams s.streams :
      Acquired M)=acquired u env s next := rfl
  unfold submitRequest
  simp only [handler,request,same]
  by_cases ok : (acquired u env s next).ret=0
  · rw [if_neg (not_not.mpr ok)]
    by_cases missing : s.handler.markCb=false
    · rw [if_pos missing]
      refine ⟨rfl,Or.inr (Or.inl ⟨ok,Or.inl missing,?_,rfl⟩)⟩
      simp only [handleErrorRequest,all ok]
    rw [if_neg missing]
    by_cases failed : env.markRes<0
    · rw [if_pos failed]
      refine ⟨rfl,Or.inr (Or.inl ⟨ok,Or.inr failed,?_,rfl⟩)⟩
      simp only [handleErrorRequest,all ok]
    rw [if_neg failed]
    have marked : ¬s.MarkFails env := fun h => h.elim missing failed
    split_ifs
    · exact ⟨rfl,Or.inr (Or.inr ⟨ok,marked,_,_,rfl⟩)⟩
    · exact ⟨rfl,Or.inr (Or.inr ⟨ok,marked,_,_,rfl⟩)⟩
  · rw [if_pos ok]
    exact ⟨rfl,Or.inl ⟨ok,rfl,rfl⟩⟩

omit [CameraMetadata M] in
variable (ids) in
/-- Once a buffer was handed out its stream counts more than before. -/
theorem acquire_first {id : Int} (ok : (getBuffer u env f k (streams id)).ret.1=0) :
    (streams id).pendingBufferCount+1≤
      ((acquireBuffers u env f k (id::ids) streams : Acquired M).streams id).pendingBufferCount := by
  have more := (acquire_pending (M := M) u env f (k+1) ids
    (Function.update streams id (getBuffer u env f k (streams id)).stream)).1 id
  rcases getBuffer_pending u env f k (streams id) with
    ⟨-,-,counted⟩|⟨refused,-⟩
  · rw [Function.update_self,counted] at more
    unfold acquireBuffers
    dsimp only
    rw [if_neg (not_not.mpr ok)]
    exact more
  · exact absurd ok refused

omit [CameraMetadata M] in
variable (ids) in
/-- A first GetBuffer that fails leaves every stream as it was. -/
theorem acquire_refused {id : Int} (ht : (streams id).SlotTable)
    (hn : ∀ h,env.alloc k=some h → h∉(streams id).memAllocBuffers.keys)
    (refused : (getBuffer u env f k (streams id)).ret.1≠0) :
    (acquireBuffers u env f k (id::ids) streams : Acquired M).ret≠0 ∧
    (acquireBuffers u env f k (id::ids) streams : Acquired M).streams=streams := by
  have same : (getBuffer u env f k (streams id)).stream=streams id := by
    rcases getBuffer_outcome (u := u) (f := f) ht hn with ⟨-,same⟩|⟨ok,-⟩
    · exact same
    · exact absurd ok refused
  unfold acquireBuffers
  dsimp only
  rw [if_pos refused,same]
  exact ⟨refused,Function.update_eq_self id streams⟩

/-- mark_cb_ failed after different streams gave their buffers: each gets its own back. -/
theorem rolledBack_marked (hr : s.Ready env next) (hd : next.streams.Nodup)
    (ok : (acquired u env s next).ret=0) {after : Submission M}
    (hs : after.streams=(returnAll (M := M) next.resultExtras.frameNumber next.streams
      (acquired u env s next).streams).1)
    (hc : after.client=s.client)
    (hh : after.handler.currentRequest=s.handler.currentRequest.clear) :
    RolledBack s after next := by
  have got := acquire_nodup (M := M) u env next.resultExtras.frameNumber 0 next.streams s.streams hd
  have back := returnAll_nodup (M := M) next.resultExtras.frameNumber next.streams
    (acquired u env s next).streams hd
  have restored : ∀ id,(after.streams id).held=(s.streams id).held ∧
      (after.streams id).pendingBufferCount=(s.streams id).pendingBufferCount := by
    intro id
    rw [hs]
    by_cases member : id∈next.streams
    · obtain ⟨j,hj⟩ := List.mem_iff_getElem?.mp member
      have here := got.2.1 ok j id hj
      rw [Nat.zero_add] at here
      have outcome := getBuffer_outcome (u := u) (f := next.resultExtras.frameNumber)
        (hr.table id member) (hr.fresh j id hj)
      have fine := got.1.mp ok j id hj
      rw [Nat.zero_add] at fine
      obtain ⟨-,h,handed⟩ := outcome.resolve_left fun bad => bad.1 fine
      rw [← here] at handed
      rw [back.1 id member]
      exact handed.returned
    · rw [back.2 id member]
      have untouched := got.2.2 id member
      unfold acquired
      rw [untouched]
      exact ⟨rfl,rfl⟩
  refine ⟨fun id => (restored id).1,fun id => (restored id).2,?_,?_,hh⟩
  · intro id member
    rw [hs,back.1 id member,returnMapped_map]
    simp
  · rw [hc]
    exact hr.unregistered

/-- The first GetBuffer failed: no stream and no table was touched. -/
theorem rolledBack_refused (hr : s.Ready env next) {after : Submission M}
    (hs : after.streams=s.streams) (hc : after.client=s.client)
    (hh : after.handler.currentRequest=s.handler.currentRequest.clear) :
    RolledBack s after next := by
  refine ⟨fun _ => by rw [hs],fun _ => by rw [hs],?_,?_,hh⟩
  · rw [hs]
    exact hr.unmapped
  · rw [hc]
    exact hr.unregistered

omit [CameraMetadata M] in
/-- What the streams gave counts once for each place in the request, so that it is all back only if
no stream is named twice. -/
theorem nodup_of_returned (ok : (acquired u env s next).ret=0)
    (kept : ∀ id,((returnAll (M := M) next.resultExtras.frameNumber next.streams
      (acquired u env s next).streams).1 id).pendingBufferCount=
        (s.streams id).pendingBufferCount) : next.streams.Nodup := by
  have counts := ((acquire_pending (M := M) u env next.resultExtras.frameNumber 0 next.streams
    s.streams).2 ok).2
  rw [List.nodup_iff_count_le_one]
  intro id
  have count := counts id
  have back := (returnAll_pending (M := M) next.resultExtras.frameNumber next.streams
    (acquired u env s next).streams id).1
  rw [kept id] at back
  unfold acquired at back
  omega

/-- Everything a submission did is rolled back exactly when the first GetBuffer fails, or mark_cb_
fails after different streams gave their buffers: the rollback works from request.outputBuffers,
which is empty until the loop is over, and forgets the registered frame. -/
theorem rolledBack_iff (u : BufferUsage) (env : SubmitEnv) (s : Submission M)
    (next : CaptureRequest M) (hr : s.Ready env next) :
    RolledBack s (submitRequest u env s next).state next ↔ Recovers u env s next := by
  obtain ⟨current,cases⟩ := submitRequest_cases u env s next
  constructor
  · intro rolled
    rcases cases with ⟨bad,streams,-⟩|⟨ok,failed,streams,-⟩|⟨-,-,n,extras,client⟩
    · left
      cases hs : next.streams with
      | nil => simp [acquired,hs,acquireBuffers] at bad
      | cons id ids =>
        refine ⟨id,ids,rfl,fun ok => ?_⟩
        have more := acquire_first (M := M) ids ok
        have kept := rolled.pending id
        rw [streams,acquired,hs] at kept
        omega
    · right
      have kept := rolled.pending
      rw [streams] at kept
      have hd := nodup_of_returned ok kept
      refine ⟨hd,failed,?_⟩
      intro j id hj
      have fine := (acquire_nodup (M := M) u env next.resultExtras.frameNumber 0 next.streams
        s.streams hd).1.mp ok j id hj
      rw [Nat.zero_add] at fine
      exact fine
    · have gone := rolled.entry
      rw [client] at gone
      simp [markPendingRequest,emplace,hr.unregistered] at gone
  · intro recovers
    rcases recovers with ⟨id,ids,hs,refused⟩|⟨hd,failed,all⟩
    · have member : id∈next.streams := by
        rw [hs]
        exact List.mem_cons_self
      have first : next.streams[0]?=some id := by
        rw [hs]
        rfl
      have untouched := acquire_refused (M := M) ids (hr.table id member)
        (hr.fresh 0 id first) refused
      rw [← hs] at untouched
      rcases cases with ⟨-,streams,client⟩|⟨ok,-,-,-⟩|⟨ok,-,-⟩
      · exact rolledBack_refused hr (streams.trans untouched.2) client current
      · exact absurd ok untouched.1
      · exact absurd ok untouched.1
    · have ok : (acquired u env s next).ret=0 := by
        apply (acquire_nodup (M := M) u env next.resultExtras.frameNumber 0 next.streams
          s.streams hd).1.mpr
        intro j id hj
        rw [Nat.zero_add]
        exact all j id hj
      rcases cases with ⟨bad,-,-⟩|⟨-,-,streams,client⟩|⟨-,marked,-⟩
      · exact absurd ok bad
      · exact rolledBack_marked hr hd ok streams client current
      · exact absurd failed marked

/-- What reached processCaptureRequest. -/
def SubmitEffect.handedOver {M : Type} : SubmitEffect M → Option (HalRequest M)
  | .processCaptureRequest request => some request
  | _ => none

def handedOver {M : Type} (effects : List (SubmitEffect M)) : List (HalRequest M) :=
  effects.filterMap SubmitEffect.handedOver

def SubmitEffect.signals {M : Type} : SubmitEffect M → Bool
  | .signalError => true
  | _ => false

@[simp] theorem handedOver_nil {M : Type} : handedOver ([] : List (SubmitEffect M))=[] := rfl

@[simp] theorem handedOver_error {M : Type} (code : CameraErrorCode) (extras : CaptureResultExtras)
    (l : List (SubmitEffect M)) : handedOver (.errorCb code extras::l)=handedOver l := rfl

@[simp] theorem handedOver_process {M : Type} (q : HalRequest M) (l : List (SubmitEffect M)) :
    handedOver (.processCaptureRequest q::l)=q::handedOver l := rfl

@[simp] theorem handedOver_signal {M : Type} (l : List (SubmitEffect M)) :
    handedOver (.signalError::l)=handedOver l := rfl

omit [CameraMetadata M] in
@[simp] theorem handedOver_append (a b : List (SubmitEffect M)) :
    handedOver (a++b)=handedOver a++handedOver b := List.filterMap_append

omit [CameraMetadata M] in
/-- What a stream does is neither of the two. -/
@[simp] theorem handedOver_stream (id : Int) (effects : List StreamEffect) :
    handedOver (M := M) (effects.map (.stream id))=[] ∧
      (effects.map (SubmitEffect.stream (M := M) id)).any SubmitEffect.signals=false := by
  unfold handedOver
  rw [List.filterMap_map,List.filterMap_eq_nil_iff,List.any_map,List.any_eq_false]
  exact ⟨fun _ _ => rfl,fun _ _ => Bool.false_ne_true⟩

omit [CameraMetadata M] in
@[simp] theorem handedOver_acquire (u : BufferUsage) (env : SubmitEnv) (f k : Nat) (ids : List Int)
    (streams : Int → Camera3Stream) :
    handedOver (acquireBuffers u env f k ids streams : Acquired M).effects=[] ∧
      (acquireBuffers u env f k ids streams : Acquired M).effects.any SubmitEffect.signals=
        false := by
  induction ids generalizing k streams with
  | nil => exact ⟨rfl,rfl⟩
  | cons id ids ih =>
    unfold acquireBuffers
    dsimp only
    split_ifs
    · exact handedOver_stream id _
    · rw [handedOver_append,List.any_append,(handedOver_stream id _).1,(handedOver_stream id _).2,
        (ih _ _).1,(ih _ _).2]
      exact ⟨rfl,rfl⟩

omit [CameraMetadata M] in
@[simp] theorem handedOver_returnAll (f : Nat) (ids : List Int) (streams : Int → Camera3Stream) :
    handedOver (returnAll (M := M) f ids streams).2=[] ∧
      (returnAll (M := M) f ids streams).2.any SubmitEffect.signals=false := by
  induction ids generalizing streams with
  | nil => exact ⟨rfl,rfl⟩
  | cons id ids ih =>
    unfold returnAll
    dsimp only
    rw [handedOver_append,List.any_append,(handedOver_stream id _).1,(handedOver_stream id _).2,
      (ih _).1,(ih _).2]
    exact ⟨rfl,rfl⟩

/-- The handler after SIG_ERROR, where the effects have one. -/
def SettingsWorld.signalled (w : SettingsWorld M) (handler : RequestHandler M)
    (effects : List (SubmitEffect M)) : RequestHandler M :=
  if effects.any SubmitEffect.signals then ({ w with handler := handler } :
    SettingsWorld M).setErrorState.handler
  else handler

/-- The two steps of the settings model are this function's, with its outcome, and its SIG_ERROR
besides. -/
theorem submitRequest_settings (u : BufferUsage) (env : SubmitEnv) (s : Submission M)
    (next : CaptureRequest M) (w : SettingsWorld M) (hh : w.handler=s.handler)
    (hs : w.stage=.got next) :
    ((w.perform .chooseSettings).perform
      (.submit (submitRequest u env s next).outcome)).handler=
        SettingsWorld.signalled w (submitRequest u env s next).state.handler
          (submitRequest u env s next).effects ∧
    ((w.perform .chooseSettings).perform
      (.submit (submitRequest u env s next).outcome)).handed=
        w.handed++(handedOver (submitRequest u env s next).effects).map fun q =>
          ⟨(s.handler.chooseSettings next).2.1,q.settings,w.halSettings⟩ := by
  have markCb : (s.handler.chooseSettings next).1.markCb=s.handler.markCb := by
    unfold RequestHandler.chooseSettings
    split_ifs <;> rfl
  unfold submitRequest
  simp only [SettingsWorld.perform,hs,hh,SettingsWorld.submit,handleErrorRequest]
  split_ifs
  all_goals simp_all [SubmitOutcome.handed,SubmitOutcome.signals,SubmitEffect.signals,
    SettingsWorld.signalled]
  all_goals exact SettingsWorld.setErrorState_finishRequest rfl rfl

/-- A configured stream of two buffers, none of them allocated yet. -/
def twoBuffers (id : Int) : Camera3Stream :=
  (((Camera3Stream.construct .android id 0 ⟨640,480,.YCBCR_420_888,⟨kHwCameraWrite⟩,2⟩ true)
    |>.beginConfigure .android).stream.endConfigure .android 0).stream

def twoStreams : Submission PlainMetadata :=
  ⟨RequestHandler.construct 0 true true,twoBuffers,plain⟩

/-- A request of the streams 0 and 1. -/
def bothStreams : CaptureRequest PlainMetadata := ⟨⟨[]⟩,[0,1],⟨0,0,0,0,false⟩,false⟩

theorem twoStreams_ready (env : SubmitEnv) : twoStreams.Ready env bothStreams := by
  have table : ∀ id,(twoBuffers id).SlotTable := by
    intro id
    refine ⟨rfl,Nat.zero_le _,?_⟩
    intro h hm
    cases hm
  refine ⟨fun id _ => table id,?_,fun _ _ => rfl,rfl⟩
  intro k id _ h _ hm
  cases hm

/-- mark_cb_ fails after both streams gave a buffer. -/
theorem rolledBack_both : RolledBack twoStreams (submitRequest .android
    ⟨fun _ => 0,fun k => some (5+k),-1,true⟩ twoStreams bothStreams).state bothStreams := by
  apply (rolledBack_iff .android _ twoStreams bothStreams (twoStreams_ready _)).mpr
  refine Or.inr ⟨by decide,Or.inr (by decide),?_⟩
  intro k id hk
  rcases k with _|_|k
  · cases Option.some.inj hk
    rfl
  · cases Option.some.inj hk
    rfl
  · simp [bothStreams] at hk

/-- The second stream cannot allocate: the buffer of the first one stays out. -/
theorem second_buffer_leaks_first : ¬∀ (env : SubmitEnv) (s : Submission PlainMetadata) next,
    s.Ready env next → (submitRequest .android env s next).outcome≠.accepted →
    RolledBack s (submitRequest .android env s next).state next := by
  intro all
  have rolled := all ⟨fun _ => 0,fun k => if k=0 then some 5 else none,0,true⟩ twoStreams
    bothStreams (twoStreams_ready _) (by decide)
  exact absurd (rolled.pending 0) (by decide)

end Submit

end Submission
end IotMedia.Camera

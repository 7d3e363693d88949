import IotMedia.Camera.SettingsCache
import IotMedia.Camera.BufferOwnership
import IotMedia.Camera.PendingFrame

namespace IotMedia.Camera

open IotMedia.Framework PendingRequests RequestHandler

/-- The request handed to processCaptureRequest; the handler's thread passes no input buffer. -/
structure HalRequest (M : Type) where
  frameNumber : Nat
  settings : Option M
  outputBuffers : List StreamBuffer

/-- SignalError stands for SIG_ERROR, which calls set_error_ of the client. -/
inductive SubmitEffect (M : Type)
  | stream (id : Int) (effect : StreamEffect)
  | errorCb (errorCode : CameraErrorCode) (resultExtras : CaptureResultExtras)
  | processCaptureRequest (request : HalRequest M)
  | signalError

/-- What the calls of SubmitRequest meet: for the `k`-th GetBuffer its wait and its allocator,
the answer of mark_cb_, of which a negative one registers nothing, and whether the HAL accepts. -/
structure SubmitEnv where
  waitRes : Nat → Int
  alloc : Nat → Option Handle
  markRes : Int
  processed : Bool

/-- The handler, the streams behind the pointers of a request, and the device client. -/
structure Submission (M : Type) where
  handler : RequestHandler M
  streams : Int → Camera3Stream
  client : PendingRequests M

structure SubmitResult (M : Type) where
  ret : Int
  outcome : SubmitOutcome
  state : Submission M
  effects : List (SubmitEffect M)

/-- GetBuffer of each stream in turn, up to the first that fails. -/
structure Acquired (M : Type) where
  ret : Int
  streams : Int → Camera3Stream
  outputBuffers : List StreamBuffer
  effects : List (SubmitEffect M)

namespace Submission

variable {M : Type} [CameraMetadata M]

def getBuffer (u : BufferUsage) (env : SubmitEnv) (frameNumber k : Nat) (s : Camera3Stream) :
    StreamResult (Int × Option StreamBuffer) :=
  s.getBuffer u frameNumber (env.waitRes k) (env.alloc k)

def acquireBuffers (u : BufferUsage) (env : SubmitEnv) (frameNumber : Nat) :
    Nat → List Int → (Int → Camera3Stream) → Acquired M
  | _,[],streams => ⟨0,streams,[],[]⟩
  | k,id::ids,streams =>
    let got := getBuffer u env frameNumber k (streams id)
    let streams := Function.update streams id got.stream
    let effects := got.effects.map (.stream id)
    if got.ret.1≠0 then ⟨got.ret.1,streams,[],effects⟩
    else
      let rest := acquireBuffers u env frameNumber (k+1) ids streams
      ⟨rest.ret,rest.streams,got.ret.2.toList++rest.outputBuffers,effects++rest.effects⟩

/-- One round of the loop of HandleErrorRequest; a missing entry of buffers_map is a null
handle. -/
def returnMapped (frameNumber : Nat) (s : Camera3Stream) : StreamResult Int :=
  ({ s with buffersMap := Function.update s.buffersMap frameNumber none } :
    Camera3Stream).returnBuffer (s.buffersMap frameNumber)

def returnAll (frameNumber : Nat) :
    List Int → (Int → Camera3Stream) → (Int → Camera3Stream) × List (SubmitEffect M)
  | [],streams => (streams,[])
  | id::ids,streams =>
    let r := returnMapped frameNumber (streams id)
    let rest := returnAll frameNumber ids (Function.update streams id r.stream)
    (rest.1,r.effects.map (.stream id)++rest.2)

/-- Only as many buffers are returned as the HAL request holds. -/
def handleErrorRequest (s : Submission M) (request : HalRequest M) (next : CaptureRequest M) :
    Submission M × List (SubmitEffect M) :=
  let returned := returnAll request.frameNumber
    (next.streams.take request.outputBuffers.length) s.streams
  ({ s with handler := s.handler.finishRequest,streams := returned.1 },returned.2)

def submitRequest (u : BufferUsage) (env : SubmitEnv) (s : Submission M)
    (next : CaptureRequest M) : SubmitResult M :=
  let frameNumber := next.resultExtras.frameNumber
  let chosen := s.handler.chooseSettings next
  let next := chosen.2.1
  let acquired : Acquired M := acquireBuffers u env frameNumber 0 next.streams s.streams
  let s := { s with handler := chosen.1,streams := acquired.streams }
  if acquired.ret≠0 then
    let told := if s.handler.errorCb then
      [SubmitEffect.errorCb .ERROR_CAMERA_REQUEST next.resultExtras] else []
    let handled := s.handleErrorRequest ⟨frameNumber,chosen.2.2,[]⟩ next
    ⟨acquired.ret,.bufferFailed,handled.1,acquired.effects++told++handled.2⟩
  else
    let request : HalRequest M := ⟨frameNumber,chosen.2.2,acquired.outputBuffers⟩
    if s.handler.markCb=false then
      let handled := s.handleErrorRequest request next
      ⟨-1,.markFailed,handled.1,acquired.effects++handled.2⟩
    else if env.markRes<0 then
      let handled := s.handleErrorRequest request next
      ⟨env.markRes,.markFailed,handled.1,acquired.effects++[.signalError]++handled.2⟩
    else
      let s := { s with client :=
        s.client.markPendingRequest frameNumber acquired.outputBuffers.length next.resultExtras }
      if env.processed then
        ⟨env.markRes,.accepted,{ s with handler := s.handler.finishRequest },
          acquired.effects++[.processCaptureRequest request]⟩
      else
        let handled := s.handleErrorRequest request next
        ⟨env.markRes,.halFailed,handled.1,
          acquired.effects++[.processCaptureRequest request,.signalError]++handled.2⟩

/-- Nothing is left of the frame: every stream has its in-use buffers and its counter back. -/
structure RolledBack (before after : Submission M) (next : CaptureRequest M) : Prop where
  held : ∀ id,(after.streams id).held=(before.streams id).held
  pending : ∀ id,(after.streams id).pendingBufferCount=(before.streams id).pendingBufferCount
  maps : ∀ id∈next.streams,(after.streams id).buffersMap next.resultExtras.frameNumber=none
  entry : after.client.pendingRequests.valueFor next.resultExtras.frameNumber=none
  current : after.handler.currentRequest=before.handler.currentRequest.clear

/-- The frame number is new, and the streams are as calls leave them. -/
structure Ready (s : Submission M) (env : SubmitEnv) (next : CaptureRequest M) : Prop where
  table : ∀ id∈next.streams,(s.streams id).SlotTable
  fresh : ∀ k id,next.streams[k]?=some id → ∀ h,env.alloc k=some h →
    h∉(s.streams id).memAllocBuffers.keys
  unmapped : ∀ id∈next.streams,(s.streams id).buffersMap next.resultExtras.frameNumber=none
  unregistered : s.client.pendingRequests.valueFor next.resultExtras.frameNumber=none

/-- The failure is that of the first GetBuffer, or mark_cb_ is missing or fails after each of the
streams, all different, had a buffer. -/
def Recovers (u : BufferUsage) (env : SubmitEnv) (s : Submission M) (next : CaptureRequest M) :
    Prop :=
  (∃ id ids,next.streams=id::ids ∧
    (getBuffer u env next.resultExtras.frameNumber 0 (s.streams id)).ret.1≠0) ∨
  next.streams.Nodup ∧ (s.handler.markCb=false ∨ env.markRes<0) ∧
    ∀ k id,next.streams[k]?=some id →
      (getBuffer u env next.resultExtras.frameNumber k (s.streams id)).ret.1=0

variable {u : BufferUsage} {env : SubmitEnv} {f k : Nat} {ids : List Int}
  {streams : Int → Camera3Stream} {s t : Camera3Stream}

section Buffer

/-! One GetBuffer and the return of its buffer by HandleErrorRequest. -/

/-- The counter has gone up with a buffer, or there is neither. -/
def CountsBuffer (s : Camera3Stream) (r : StreamResult (Int × Option StreamBuffer)) : Prop :=
  (r.ret.1=0 ∧ r.ret.2.toList.length=1 ∧ r.stream.pendingBufferCount=s.pendingBufferCount+1) ∨
  r.ret.1≠0 ∧ r.stream.pendingBufferCount=s.pendingBufferCount

omit [CameraMetadata M] in
/-- The counter goes up with every buffer handed out, whatever state the stream is in. -/
theorem getBufferLocked_pending (s : Camera3Stream) (frame : Int) (alloc : Option Handle) :
    CountsBuffer s (s.getBufferLocked u (some frame) alloc) := by
  have nosys : -ENOSYS≠0 := by decide
  have nomem : -ENOMEM≠0 := by decide
  have outcome := s.getBufferLocked_outcome u (some frame) alloc
  generalize s.getBufferLocked u (some frame) alloc=r at outcome ⊢
  cases outcome with
  | refused | unplaced | full => exact Or.inr ⟨nosys,rfl⟩
  | unanswered => exact Or.inr ⟨nomem,rfl⟩
  | reuses => exact Or.inl ⟨rfl,rfl,rfl⟩
  | allocates active answer room handed =>
    subst handed
    exact Or.inl ⟨rfl,rfl,rfl⟩

omit [CameraMetadata M] in
variable (u env f k) in
theorem getBuffer_pending (s : Camera3Stream) : CountsBuffer s (getBuffer u env f k s) := by
  have nosys : -ENOSYS≠0 := by decide
  unfold getBuffer Camera3Stream.getBuffer Camera3Stream.getBufferWoken
  split_ifs with hs hw hr
  · exact Or.inr ⟨nosys,rfl⟩
  · exact Or.inr ⟨hr,rfl⟩
  · exact getBufferLocked_pending s f (env.alloc k)
  · exact getBufferLocked_pending s f (env.alloc k)

/-- `t` is `s` with buffer `h` handed out for the frame. -/
structure HandedFrom (frameNumber : Nat) (s t : Camera3Stream) (h : Handle) : Prop where
  free : ¬s.InUse h
  held : t.held=insert h s.held
  pending : t.pendingBufferCount=s.pendingBufferCount+1
  map : t.buffersMap=Function.update s.buffersMap frameNumber (some h)
  configured : t.status=.configured

omit [CameraMetadata M] in
theorem getBuffer_outcome (ht : s.SlotTable)
    (hn : ∀ h,env.alloc k=some h → h∉s.memAllocBuffers.keys) :
    (getBuffer u env f k s).ret.1≠0 ∧ (getBuffer u env f k s).stream=s ∨
    (getBuffer u env f k s).ret.1=0 ∧
      ∃ h,HandedFrom f s (getBuffer u env f k s).stream h := by
  unfold getBuffer
  rcases Camera3Stream.getBuffer_cases u ht f (env.waitRes k) (env.alloc k) hn with
    ⟨e,l,he,h⟩|⟨t,idx,h,l,hm,hc,hs,hb,h'⟩
  · rw [h]
    exact Or.inl ⟨he,rfl⟩
  · rw [h']
    refine Or.inr ⟨rfl,h,hm.free,hm.held,?_,?_,hs.trans hc⟩
    · show t.pendingBufferCount+1=s.pendingBufferCount+1
      rw [hm.pending]
    · show Function.update t.buffersMap f (some h)=_
      rw [hb]

omit [CameraMetadata M] in
theorem returnMapped_map (f : Nat) (s : Camera3Stream) :
    (returnMapped f s).stream.buffersMap=Function.update s.buffersMap f none := by
  unfold returnMapped Camera3Stream.returnBuffer
  rcases Camera3Stream.returnBufferLocked_cases
    { s with buffersMap := Function.update s.buffersMap f none } (s.buffersMap f) with
    ⟨h,-,-,-⟩|⟨h,v,l,-,-,-,-,-,he⟩
  · rw [h]
  · rw [he]

omit [CameraMetadata M] in
/-- A return takes at most one from the counter, and nothing when the frame has no buffer. -/
theorem returnMapped_pending (f : Nat) (s : Camera3Stream) :
    s.pendingBufferCount≤(returnMapped f s).stream.pendingBufferCount+1 ∧
    (s.buffersMap f=none →
      (returnMapped f s).stream.pendingBufferCount=s.pendingBufferCount) := by
  unfold returnMapped Camera3Stream.returnBuffer
  rcases Camera3Stream.returnBufferLocked_cases
    { s with buffersMap := Function.update s.buffersMap f none } (s.buffersMap f) with
    ⟨h,-,-,-⟩|⟨h,v,l,hb,-,-,-,-,he⟩
  · rw [h]
    exact ⟨Nat.le_succ _,fun _ => rfl⟩
  · rw [he]
    dsimp only
    exact ⟨by omega,fun hn => by rw [hn] at hb; cases hb⟩

omit [CameraMetadata M] in
/-- Returning the buffer that was handed out restores the stream's buffers. -/
theorem HandedFrom.returned {h : Handle} (hh : HandedFrom f s t h) :
    (returnMapped f t).stream.held=s.held ∧
    (returnMapped f t).stream.pendingBufferCount=s.pendingBufferCount := by
  have used : t.memAllocBuffers.valueFor h=some false := by
    have member : h∈t.held := by
      rw [hh.held]
      exact Set.mem_insert h _
    exact member
  have mapped : t.buffersMap f=some h := by
    rw [hh.map]
    simp
  have counted := hh.pending
  unfold returnMapped Camera3Stream.returnBuffer
  rw [mapped]
  rcases Camera3Stream.returnBufferLocked_cases
    { t with buffersMap := Function.update t.buffersMap f none } (some h) with
    ⟨-,-,refused,-⟩|⟨q,v,l,hq,-,-,hv,-,he⟩
  · refine absurd ?_ refused
    simp [Camera3Stream.returnBufferLocked,hh.configured,counted,used]
  · cases hq
    rw [he]
    refine ⟨?_,?_⟩
    · have taken : ∀ q,q∈t.held ↔ q∈insert h s.held := fun q => by rw [hh.held]
      ext q
      by_cases same : q=h
      · rw [same]
        have free : h∉s.held := hh.free
        simp [Camera3Stream.held,Camera3Stream.InUse,used] at free ⊢
        exact free
      · have other := taken q
        simp only [Set.mem_insert_iff,same,false_or] at other
        rw [← other]
        simp [Camera3Stream.held,Camera3Stream.InUse,same]
    · show t.pendingBufferCount-1=s.pendingBufferCount
      omega

end Buffer

section Loops

/-! The loop over the streams that gets the buffers, and the one that returns them. -/

omit [CameraMetadata M] in
/-- No stream loses a buffer, and if all is well each gives one for each of its occurrences. -/
theorem acquire_pending (u : BufferUsage) (env : SubmitEnv) (f k : Nat) (ids : List Int)
    (streams : Int → Camera3Stream) :
    (∀ id,(streams id).pendingBufferCount≤
      ((acquireBuffers u env f k ids streams : Acquired M).streams id).pendingBufferCount) ∧
    ((acquireBuffers u env f k ids streams : Acquired M).ret=0 →
      (acquireBuffers u env f k ids streams : Acquired M).outputBuffers.length=ids.length ∧
      ∀ id,((acquireBuffers u env f k ids streams : Acquired M).streams id).pendingBufferCount=
        (streams id).pendingBufferCount+ids.count id) := by
  induction ids generalizing k streams with
  | nil => exact ⟨fun _ => le_refl _,fun _ => ⟨rfl,fun _ => rfl⟩⟩
  | cons i ids ih =>
    have rest := ih (k+1) (Function.update streams i (getBuffer u env f k (streams i)).stream)
    unfold acquireBuffers
    dsimp only
    rcases getBuffer_pending u env f k (streams i) with
      ⟨ok,one,counted⟩|⟨refused,counted⟩
    · rw [if_neg (not_not.mpr ok)]
      dsimp only
      refine ⟨?_,?_⟩
      · intro id
        have later := rest.1 id
        by_cases same : id=i
        · subst same
          simp only [Function.update_self,counted] at later
          omega
        · simpa [same] using later
      · intro hr
        obtain ⟨length,counts⟩ := rest.2 hr
        refine ⟨?_,?_⟩
        · rw [List.length_append,one,length,List.length_cons]
          omega
        · intro id
          have later := counts id
          by_cases same : id=i
          · subst same
            simp only [Function.update_self,counted] at later
            rw [later,List.count_cons_self]
            omega
          · rw [List.count_cons_of_ne (Ne.symm same)]
            simpa [same] using later
    · rw [if_pos refused]
      refine ⟨?_,fun hr => absurd hr refused⟩
      intro id
      by_cases same : id=i
      · subst same
        simp [counted]
      · simp [same]

omit [CameraMetadata M] in
/-- When the streams differ each GetBuffer meets its stream as it was before the loop. -/
theorem acquire_nodup (u : BufferUsage) (env : SubmitEnv) (f k : Nat) (ids : List Int)
    (streams : Int → Camera3Stream) (hd : ids.Nodup) :
    ((acquireBuffers u env f k ids streams : Acquired M).ret=0 ↔
      ∀ j id,ids[j]?=some id → (getBuffer u env f (k+j) (streams id)).ret.1=0) ∧
    ((acquireBuffers u env f k ids streams : Acquired M).ret=0 →
      ∀ j id,ids[j]?=some id → (acquireBuffers u env f k ids streams : Acquired M).streams id=
        (getBuffer u env f (k+j) (streams id)).stream) ∧
    ∀ id,id∉ids → (acquireBuffers u env f k ids streams : Acquired M).streams id=streams id := by
  induction ids generalizing k streams with
  | nil => exact ⟨⟨fun _ j id h => by simp at h,fun _ => rfl⟩,fun _ j id h => by simp at h,
      fun _ _ => rfl⟩
  | cons i ids ih =>
    obtain ⟨notLater,laterNodup⟩ := List.nodup_cons.mp hd
    have rest := ih (k+1) (Function.update streams i (getBuffer u env f k (streams i)).stream)
      laterNodup
    -- the later streams are untouched by the first call
    have later : ∀ (j : Nat) (id : Int),ids[j]?=some id →
        Function.update streams i (getBuffer u env f k (streams i)).stream id=streams id := by
      intro j id hj
      have member : id∈ids := List.mem_of_getElem? hj
      have differs : id≠i := fun same => notLater (same ▸ member)
      simp [differs]
    have shift : ∀ j : Nat,k+1+j=k+(j+1) := fun j => by omega
    unfold acquireBuffers
    dsimp only
    by_cases ok : (getBuffer u env f k (streams i)).ret.1=0
    · rw [if_neg (not_not.mpr ok)]
      dsimp only
      refine ⟨⟨?_,?_⟩,?_,?_⟩
      · intro hr j id hj
        cases j with
        | zero =>
          cases Option.some.inj hj
          exact ok
        | succ j =>
          have step := rest.1.mp hr j id hj
          rw [later j id hj,shift j] at step
          exact step
      · intro all
        apply rest.1.mpr
        intro j id hj
        rw [later j id hj,shift j]
        exact all (j+1) id hj
      · intro hr j id hj
        cases j with
        | zero =>
          cases Option.some.inj hj
          rw [rest.2.2 i notLater,Function.update_self]
          rfl
        | succ j =>
          have step := rest.2.1 hr j id hj
          rw [later j id hj,shift j] at step
          exact step
      · intro id hm
        have differs : id≠i := fun same => hm (same ▸ List.mem_cons_self)
        rw [rest.2.2 id fun h => hm (List.mem_cons_of_mem i h)]
        simp [differs]
    · rw [if_pos ok]
      refine ⟨⟨fun hr => absurd hr ok,?_⟩,fun hr => absurd hr ok,?_⟩
      · intro all
        exact absurd (all 0 i rfl) ok
      · intro id hm
        have differs : id≠i := fun same => hm (same ▸ List.mem_cons_self)
        simp [differs]

omit [CameraMetadata M] in
/-- However often a stream occurs, it gets back at most the one buffer its map names. -/
theorem returnAll_pending (f : Nat) (ids : List Int) (streams : Int → Camera3Stream) (id : Int) :
    (streams id).pendingBufferCount≤
      ((returnAll (M := M) f ids streams).1 id).pendingBufferCount+1 ∧
    ((streams id).buffersMap f=none →
      ((returnAll (M := M) f ids streams).1 id).pendingBufferCount=
        (streams id).pendingBufferCount) := by
  induction ids generalizing streams with
  | nil => exact ⟨Nat.le_succ _,fun _ => rfl⟩
  | cons i ids ih =>
    have rest := ih (Function.update streams i (returnMapped f (streams i)).stream)
    have first := returnMapped_pending f (streams i)
    unfold returnAll
    dsimp only
    by_cases same : id=i
    · subst same
      -- after its first return the stream has no buffer of the frame left
      have emptied : (returnMapped f (streams id)).stream.buffersMap f=none := by
        rw [returnMapped_map]
        simp
      simp only [Function.update_self] at rest
      have kept := rest.2 emptied
      rw [kept]
      exact first
    · simpa [same] using rest

omit [CameraMetadata M] in
theorem returnAll_nodup (f : Nat) (ids : List Int) (streams : Int → Camera3Stream)
    (hd : ids.Nodup) :
    (∀ id∈ids,(returnAll (M := M) f ids streams).1 id=(returnMapped f (streams id)).stream) ∧
    ∀ id,id∉ids → (returnAll (M := M) f ids streams).1 id=streams id := by
  induction ids generalizing streams with
  | nil => exact ⟨fun _ h => by simp at h,fun _ _ => rfl⟩
  | cons i ids ih =>
    obtain ⟨notLater,laterNodup⟩ := List.nodup_cons.mp hd
    have rest := ih (Function.update streams i (returnMapped f (streams i)).stream) laterNodup
    unfold returnAll
    dsimp only
    refine ⟨?_,?_⟩
    · intro id hm
      by_cases same : id=i
      · subst same
        rw [rest.2 id notLater,Function.update_self]
      · have member : id∈ids := (List.mem_cons.mp hm).resolve_left same
        rw [rest.1 id member]
        simp [same]
    · intro id hm
      have differs : id≠i := fun same => hm (same ▸ List.mem_cons_self)
      rw [rest.2 id fun h => hm (List.mem_cons_of_mem i h)]
      simp [differs]

end Loops

end Submission
end IotMedia.Camera

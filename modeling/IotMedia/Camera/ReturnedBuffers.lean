import IotMedia.Camera.HalRuns

namespace IotMedia.Camera

open IotMedia.Framework

namespace PendingRequests

variable {M : Type} {S : Set Int} {f : Nat} {s : PendingRequests M}
  {o : PendingRequests M × List (ResultEvent M)}

/-- The buffers that wait for their shutters are of streams in `S`. -/
def Within (S : Set Int) (s : PendingRequests M) : Prop :=
  ∀ f r,s.pendingRequests.valueFor f=some r → ∀ b∈r.pendingBuffers,b.streamId∈S

/-- A handler leaves only buffers of streams in `S`, and calls ReturnBufferToClient only with such. -/
structure Stays (S : Set Int) (o : PendingRequests M × List (ResultEvent M)) : Prop where
  held : o.1.Within S
  returned : ∀ f,∀ b∈returnedFor f o.2,b.streamId∈S

theorem Within.quiet (h : s.Within S) (same : o.1.pendingRequests=s.pendingRequests)
    (quiet : Quiet o.2) : Stays S o := by
  refine ⟨?_,?_⟩
  · intro f r hr
    rw [same] at hr
    exact h f r hr
  · intro f b hb
    rw [quiet f] at hb
    cases hb

/-- An entry changes without a buffer more. -/
theorem Within.store (h : s.Within S) {q r : PendingRequest M}
    (hr : s.pendingRequests.valueFor f=some r) (hq : q.pendingBuffers=r.pendingBuffers) :
    (s.store f q).Within S := by
  intro g p hp
  rw [PendingRequests.store,KeyedVector.valueFor_replaceValueFor] at hp
  split_ifs at hp with same
  · rw [hr] at hp
    cases Option.some.inj hp
    rw [hq]
    exact h f r hr
  · exact h g p hp

/-- A handler that ends in RemovePendingRequestLocked. -/
theorem Within.closes (h : s.Within S) (touches : Touches f s o) {q : PendingRequest M}
    {returned : List StreamBuffer} {errors : List SetError} (closes : Closes f q returned errors o)
    (hq : ∀ b∈q.pendingBuffers,b.streamId∈S) (hr : ∀ b∈returned,b.streamId∈S) : Stays S o := by
  have others (g : Nat) (hg : g≠f) (r : PendingRequest M)
      (hv : o.1.pendingRequests.valueFor g=some r) : ∀ b∈r.pendingBuffers,b.streamId∈S := by
    rw [touches.pending g hg] at hv
    exact h g r hv
  refine ⟨?_,?_⟩
  · intro g r hv
    by_cases same : g=f
    · subst same
      rcases closes with ⟨-,gone,-,-⟩|⟨-,stays,-,-⟩
      · rw [gone] at hv
        cases hv
      · rw [stays] at hv
        cases Option.some.inj hv
        exact hq
    · exact others g same r hv
  · intro g b hb
    by_cases same : g=f
    · subst same
      rcases closes with ⟨-,-,back,-⟩|⟨-,-,back,-⟩
      · rw [back] at hb
        exact (List.mem_append.mp hb).elim (hr b) (hq b)
      · rw [back] at hb
        exact hr b hb
    · rw [touches.returned g same] at hb
      cases hb

/-- Events before it that return nothing. -/
theorem Closes.quiet {q : PendingRequest M} {returned : List StreamBuffer}
    {errors : List SetError} (h : Closes f q returned errors o) {told : List (ResultEvent M)}
    (quiet : Quiet told) (silent : setErrors told=[]) :
    Closes f q returned errors (o.1,told++o.2) := by
  unfold Closes
  rw [returnedFor_append,setErrors_append,quiet,silent]
  exact h

variable [CameraMetadata M]

theorem handleCaptureResult_stays (h : s.Within S) {result : CaptureResult}
    (hb : ∀ b∈result.outputBuffers,b.streamId∈S) : Stays S (s.handleCaptureResult result) := by
  have touches := s.handleCaptureResult_touches result
  rcases s.handleCaptureResult_cases result with
    ⟨-,-,equal⟩|⟨-,⟨-,e,equal⟩|⟨queue,md,-,⟨-,-,equal⟩|⟨-,-,equal⟩|⟨r,hr,equal⟩⟩⟩
  · rw [equal]
    exact h.quiet rfl fun _ => rfl
  · rw [equal]
    exact h.quiet rfl fun _ => rfl
  · rw [equal]
    exact h.quiet rfl fun _ => rfl
  · rw [equal]
    exact h.quiet rfl fun _ => rfl
  let t : PendingRequests M := { s with resultMetadataQueue := queue }
  have entry : t.pendingRequests.valueFor result.frameNumber=some r := hr
  have within : t.Within S := h
  rw [equal] at touches ⊢
  change Touches result.frameNumber s (t.processResult r result md) at touches
  show Stays S (t.processResult r result md)
  rcases t.processResult_cases r result md with
    ⟨q,told,e,quiet,stored,same,-⟩|⟨e,c,p,told,collected,-,quiet,silent,delivered⟩
  · rw [stored]
    exact (within.store entry same).quiet rfl (quiet.append fun _ => rfl)
  · obtain ⟨q,held,closes⟩ := t.deliverResult_closes (t.countedResult r result e c p) collected
      result md (t.carriesFinal result) (by rw [entry]; rfl)
    rw [delivered] at touches ⊢
    refine h.closes touches (closes.quiet quiet silent) ?_ ?_
    · intro b hq
      rw [held.pendingBuffers] at hq
      rcases List.mem_append.mp hq with old|new
      · exact h _ r hr b old
      · split_ifs at new
        · exact hb b new
        · cases new
    · intro b back
      split_ifs at back
      · exact hb b back
      · cases back

theorem notifyShutter_stays (h : s.Within S) (f : Nat) (ts : Int) :
    Stays S (s.notifyShutter f ts) := by
  have touches := s.notifyShutter_touches f ts
  rcases s.notifyShutter_cases f ts with ⟨-,equal⟩|⟨r,called,hr,quiet,-,⟨-,equal⟩|⟨-,st,-,closes⟩⟩
  · rw [equal]
    exact h.quiet rfl fun _ => rfl
  · rw [equal]
    exact h.quiet rfl (quiet.append fun _ => rfl)
  · exact h.closes touches closes (fun b hb => by cases hb) (h f r hr)

omit [CameraMetadata M] in
theorem notifyError_stays (h : s.Within S) (code : ErrorCode) (f : Nat) :
    Stays S (s.notifyError code f) := by
  by_cases hc : code.perFrame
  · obtain ⟨told,quiet,-,equal⟩ := s.notifyError_perFrame hc f
    rw [equal]
    cases hr : s.pendingRequests.valueFor f with
    | none => exact h.quiet rfl quiet
    | some r =>
      have stored := h.store (q := { r with status := some code }) hr rfl
      exact stored.quiet rfl quiet
  · cases code with
    | ERROR_DEVICE | other => exact h.quiet rfl fun _ => rfl
    | ERROR_REQUEST | ERROR_RESULT | ERROR_BUFFER => exact absurd (by simp [ErrorCode.perFrame]) hc

theorem markPendingRequest_stays (h : s.Within S) (f : Nat) (n : Int)
    (extras : CaptureResultExtras) : (s.markPendingRequest f n extras).Within S := by
  intro g r hr
  rw [markPendingRequest,emplace] at hr
  split_ifs at hr
  · exact h g r hr
  · rw [KeyedVector.valueFor_add] at hr
    split_ifs at hr
    · cases Option.some.inj hr
      exact fun b hb => by cases hb
    · exact h g r hr

/-- The handler of a message. -/
def receive (s : PendingRequests M) : HalMessage → PendingRequests M × List (ResultEvent M)
  | .markPendingRequest f n extras => (s.markPendingRequest f n extras,[])
  | .shutter f ts => s.notifyShutter f ts
  | .captureResult result => s.handleCaptureResult result
  | .error code f => s.notifyError code f
  | .writeMetadata bytes =>
    ({ s with resultMetadataQueue := s.resultMetadataQueue.map (·++bytes) },[])
  | .flush ongoing => ({ s with flushOnGoing := ongoing },[])

/-- The buffers that a message reports, with their frame. -/
def reported : HalMessage → List (Nat × Int)
  | .captureResult result => result.outputBuffers.map fun b => (result.frameNumber,b.streamId)
  | _ => []

theorem receive_stays (h : s.Within S) (msg : HalMessage) (hb : ∀ b∈reported msg,b.2∈S) :
    Stays S (s.receive msg) := by
  cases msg with
  | markPendingRequest f n extras =>
    exact (markPendingRequest_stays h f n extras).quiet rfl fun _ => rfl
  | shutter f ts => exact notifyShutter_stays h f ts
  | captureResult result =>
    exact handleCaptureResult_stays h fun b hm => hb _ (List.mem_map.mpr ⟨b,hm,rfl⟩)
  | error code f => exact notifyError_stays h code f
  | writeMetadata | flush => exact h.quiet rfl fun _ => rfl

end PendingRequests

/-- The client of a HAL world runs the same handlers. -/
theorem HalWorld.receive_client {M : Type} [CameraMetadata M] (w : HalWorld M) (msg : HalMessage) :
    (w.receive msg).client=(w.client.receive msg).1 ∧
    (w.receive msg).log=w.log++(w.client.receive msg).2 := by
  cases msg with
  | shutter | captureResult | error => exact ⟨rfl,rfl⟩
  | markPendingRequest | writeMetadata | flush => exact ⟨rfl,(List.append_nil _).symm⟩

end IotMedia.Camera

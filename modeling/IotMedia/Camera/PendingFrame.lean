import IotMedia.Camera.PendingRequests

namespace IotMedia.Camera

open IotMedia.Framework

variable {M : Type}

def ResultEvent.returnedFor (frameNumber : Nat) : ResultEvent M → Option StreamBuffer
  | .returnBufferToClient b _ f => if f=frameNumber then some b else none
  | _ => none

/-- The buffers passed to ReturnBufferToClient for a frame, in this order. -/
def returnedFor (frameNumber : Nat) (events : List (ResultEvent M)) : List StreamBuffer :=
  events.filterMap (ResultEvent.returnedFor frameNumber)

def ResultEvent.setError : ResultEvent M → Option SetError
  | .setErr e => some e
  | _ => none

def setErrors (events : List (ResultEvent M)) : List SetError :=
  events.filterMap ResultEvent.setError

@[simp] theorem returnedFor_nil (f : Nat) : returnedFor f ([] : List (ResultEvent M))=[] := rfl
@[simp] theorem setErrors_nil : setErrors ([] : List (ResultEvent M))=[] := rfl

@[simp] theorem returnedFor_append (f : Nat) (a b : List (ResultEvent M)) :
    returnedFor f (a++b)=returnedFor f a++returnedFor f b := List.filterMap_append

@[simp] theorem setErrors_append (a b : List (ResultEvent M)) :
    setErrors (a++b)=setErrors a++setErrors b := List.filterMap_append

/-- The events call no ReturnBufferToClient. -/
def Quiet (events : List (ResultEvent M)) : Prop := ∀ f,returnedFor f events=[]

theorem Quiet.append {a b : List (ResultEvent M)} (ha : Quiet a) (hb : Quiet b) :
    Quiet (a++b) := by
  intro f
  rw [returnedFor_append,ha f,hb f]
  rfl

/-- The error codes that concern one frame. -/
def ErrorCode.perFrame (code : ErrorCode) : Prop :=
  code=.ERROR_REQUEST ∨ code=.ERROR_RESULT ∨ code=.ERROR_BUFFER

namespace PendingRequests

variable {f g : Nat} {s t : PendingRequests M} {r : PendingRequest M}

/-- The fields that no handler changes. -/
def config (s : PendingRequests M) : Nat × Bool × Bool × Bool × Bool × Bool :=
  (s.partialResultCount,s.isPartialResultSupported,s.flushOnGoing,s.shutterCb,s.resultCb,s.errorCb)

/-- A handler of a message for frame `f` leaves every other frame alone. -/
structure Touches (f : Nat) (s : PendingRequests M)
    (o : PendingRequests M × List (ResultEvent M)) : Prop where
  pending : ∀ g,g≠f → o.1.pendingRequests.valueFor g=s.pendingRequests.valueFor g
  errors : ∀ g,g≠f → o.1.pendingErrorRequests.valueFor g=s.pendingErrorRequests.valueFor g
  returned : ∀ g,g≠f → returnedFor g o.2=[]
  config : o.1.config=s.config

variable {o p : PendingRequests M × List (ResultEvent M)} {a b : List (ResultEvent M)}

theorem Touches.trans (h : Touches f s o) (h' : Touches f o.1 p) :
    Touches f s (p.1,o.2++p.2) where
  pending := fun g hg => (h'.pending g hg).trans (h.pending g hg)
  errors := fun g hg => (h'.errors g hg).trans (h.errors g hg)
  returned := by
    intro g hg
    rw [returnedFor_append,h.returned g hg,h'.returned g hg]
    rfl
  config := h'.config.trans h.config

theorem Touches.quiet (h : Touches f s (t,a)) (hb : Quiet b) : Touches f s (t,b++a) where
  pending := h.pending
  errors := h.errors
  returned := by
    intro g hg
    rw [returnedFor_append,hb g,h.returned g hg]
    rfl
  config := h.config

theorem touches_quiet (hp : o.1.pendingRequests=s.pendingRequests)
    (he : o.1.pendingErrorRequests=s.pendingErrorRequests) (hc : o.1.config=s.config)
    (ha : Quiet o.2) : Touches f s o where
  pending := fun g _ => by rw [hp]
  errors := fun g _ => by rw [he]
  returned := fun g _ => ha g
  config := hc

/-- The counters of shutters and of results, those of input frames apart. -/
def counters (s : PendingRequests M) : Nat × Nat × Nat × Nat :=
  (s.nextShutterFrameNumber,s.nextShutterInputFrameNumber,s.nextResultFrameNumber,
    s.nextResultInputFrameNumber)

def expectedShutter (s : PendingRequests M) (input : Bool) : Nat :=
  if input then s.nextShutterInputFrameNumber else s.nextShutterFrameNumber

def expectedResult (s : PendingRequests M) (input : Bool) : Nat :=
  if input then s.nextResultInputFrameNumber else s.nextResultFrameNumber

theorem expectedShutter_eq (s : PendingRequests M) (input : Bool) :
    s.expectedShutter input=if input then s.counters.2.1 else s.counters.1 := rfl

theorem expectedResult_eq (s : PendingRequests M) (input : Bool) :
    s.expectedResult input=if input then s.counters.2.2.2 else s.counters.2.2.1 := rfl

@[simp] theorem store_other (s : PendingRequests M) (r : PendingRequest M) (hg : g≠f) :
    (s.store f r).pendingRequests.valueFor g=s.pendingRequests.valueFor g := by
  simp [store,hg]

theorem store_self (s : PendingRequests M) {q : PendingRequest M}
    (h : s.pendingRequests.valueFor f=some q) (r : PendingRequest M) :
    (s.store f r).pendingRequests.valueFor f=some r := by
  simp [store,h]

theorem store_counters (s : PendingRequests M) (f : Nat) (r : PendingRequest M) :
    (s.store f r).counters=s.counters := rfl

theorem store_touches (s : PendingRequests M) (f : Nat) (r : PendingRequest M)
    (ha : Quiet a) : Touches f s (s.store f r,a) where
  pending := fun _ hg => store_other s r hg
  errors := fun _ _ => rfl
  returned := fun g _ => ha g
  config := rfl

section Return

/-! Returning buffers reports them in order and changes at most the status of the entry. -/

theorem returnOutputBuffer_rest (s : PendingRequests M) (b : StreamBuffer) (ts : Int) (f : Nat) :
    ∃ m,(s.returnOutputBuffer b ts f).1={ s with pendingRequests := m } := by
  unfold returnOutputBuffer
  split_ifs
  · cases hv : s.pendingRequests.valueFor f
    · exact ⟨s.pendingRequests,rfl⟩
    · exact ⟨_,rfl⟩
  · exact ⟨s.pendingRequests,rfl⟩

theorem returnOutputBuffers_rest (s : PendingRequests M) (bs : List StreamBuffer) (ts : Int)
    (f : Nat) : ∃ m,(s.returnOutputBuffers bs ts f).1={ s with pendingRequests := m } := by
  induction bs generalizing s with
  | nil => exact ⟨s.pendingRequests,rfl⟩
  | cons b bs ih =>
    obtain ⟨m,hm⟩ := s.returnOutputBuffer_rest b ts f
    obtain ⟨m',hm'⟩ := ih (s.returnOutputBuffer b ts f).1
    refine ⟨m',?_⟩
    show ((s.returnOutputBuffer b ts f).1.returnOutputBuffers bs ts f).1=_
    rw [hm',hm]

theorem returnOutputBuffers_errors (s : PendingRequests M) (bs : List StreamBuffer) (ts : Int)
    (f : Nat) : (s.returnOutputBuffers bs ts f).1.pendingErrorRequests=s.pendingErrorRequests := by
  obtain ⟨m,hm⟩ := s.returnOutputBuffers_rest bs ts f
  rw [hm]

theorem returnOutputBuffers_config (s : PendingRequests M) (bs : List StreamBuffer) (ts : Int)
    (f : Nat) : (s.returnOutputBuffers bs ts f).1.config=s.config := by
  obtain ⟨m,hm⟩ := s.returnOutputBuffers_rest bs ts f
  rw [hm]
  rfl

theorem returnOutputBuffers_counters (s : PendingRequests M) (bs : List StreamBuffer) (ts : Int)
    (f : Nat) : (s.returnOutputBuffers bs ts f).1.counters=s.counters := by
  obtain ⟨m,hm⟩ := s.returnOutputBuffers_rest bs ts f
  rw [hm]
  rfl

theorem returnOutputBuffer_events (s : PendingRequests M) (b : StreamBuffer) (ts : Int)
    (f g : Nat) : returnedFor g (s.returnOutputBuffer b ts f).2=(if g=f then [b] else []) ∧
      setErrors (s.returnOutputBuffer b ts f).2=[] := by
  unfold returnOutputBuffer
  split_ifs with hb hg hg
  all_goals try cases hv : s.pendingRequests.valueFor f
  all_goals simp [returnedFor,setErrors,ResultEvent.returnedFor,ResultEvent.setError,hg]
  all_goals exact fun h => hg h.symm

theorem returnOutputBuffers_returned (s : PendingRequests M) (bs : List StreamBuffer) (ts : Int)
    (f : Nat) : returnedFor f (s.returnOutputBuffers bs ts f).2=bs := by
  induction bs generalizing s with
  | nil => rfl
  | cons b bs ih =>
    have first := (s.returnOutputBuffer_events b ts f f).1
    simp only [returnOutputBuffers,returnedFor_append,first,if_true,ih]
    rfl

theorem returnOutputBuffers_others (s : PendingRequests M) (bs : List StreamBuffer) (ts : Int)
    (hg : g≠f) : returnedFor g (s.returnOutputBuffers bs ts f).2=[] := by
  induction bs generalizing s with
  | nil => rfl
  | cons b bs ih =>
    have first := (s.returnOutputBuffer_events b ts f g).1
    simp only [returnOutputBuffers,returnedFor_append,first,if_neg hg,ih]
    rfl

theorem returnOutputBuffers_setErrors (s : PendingRequests M) (bs : List StreamBuffer) (ts : Int)
    (f : Nat) : setErrors (s.returnOutputBuffers bs ts f).2=[] := by
  induction bs generalizing s with
  | nil => rfl
  | cons b bs ih =>
    have first := (s.returnOutputBuffer_events b ts f f).2
    simp only [returnOutputBuffers,setErrors_append,first,ih]
    rfl

theorem returnOutputBuffer_pending_other (s : PendingRequests M) (b : StreamBuffer) (ts : Int)
    (hg : g≠f) : (s.returnOutputBuffer b ts f).1.pendingRequests.valueFor g=
      s.pendingRequests.valueFor g := by
  unfold returnOutputBuffer
  split_ifs
  · cases hv : s.pendingRequests.valueFor f
    · rfl
    · exact store_other s _ hg
  · rfl

theorem returnOutputBuffers_pending_other (s : PendingRequests M) (bs : List StreamBuffer)
    (ts : Int) (hg : g≠f) : (s.returnOutputBuffers bs ts f).1.pendingRequests.valueFor g=
      s.pendingRequests.valueFor g := by
  induction bs generalizing s with
  | nil => rfl
  | cons b bs ih => exact (ih _).trans (s.returnOutputBuffer_pending_other b ts hg)

theorem returnOutputBuffer_entry (b : StreamBuffer) (ts : Int)
    (h : s.pendingRequests.valueFor f=some r) :
    ∃ st,(s.returnOutputBuffer b ts f).1.pendingRequests.valueFor f=some { r with status := st } ∧
      (r.status≠none → st≠none) := by
  unfold returnOutputBuffer
  split_ifs
  · simp only [h]
    exact ⟨some .ERROR_BUFFER,store_self s h _,fun _ => by simp⟩
  · exact ⟨r.status,h,id⟩

theorem returnOutputBuffers_entry (bs : List StreamBuffer) (ts : Int)
    (h : s.pendingRequests.valueFor f=some r) :
    ∃ st,(s.returnOutputBuffers bs ts f).1.pendingRequests.valueFor f=
      some { r with status := st } ∧ (r.status≠none → st≠none) := by
  induction bs generalizing s r with
  | nil => exact ⟨r.status,h,id⟩
  | cons b bs ih =>
    obtain ⟨st,first,keep⟩ := returnOutputBuffer_entry b ts h
    obtain ⟨st',rest,keep'⟩ := ih first
    exact ⟨st',rest,fun hr => keep' (keep hr)⟩

theorem returnOutputBuffers_touches (s : PendingRequests M) (bs : List StreamBuffer) (ts : Int)
    (f : Nat) : Touches f s (s.returnOutputBuffers bs ts f) where
  pending := fun _ hg => s.returnOutputBuffers_pending_other bs ts hg
  errors := fun _ _ => by rw [returnOutputBuffers_errors]
  returned := fun _ hg => s.returnOutputBuffers_others bs ts hg
  config := s.returnOutputBuffers_config bs ts f

end Return

@[simp] theorem emplace_other (m : KeyedVector Nat (PendingRequest M)) (r : PendingRequest M)
    (hg : g≠f) : (emplace m f r).valueFor g=m.valueFor g := by
  unfold emplace
  split_ifs <;> simp [hg]

section Remove

theorem remove_absent (h : s.pendingRequests.valueFor f=none) :
    s.removePendingRequestLocked f=(s,[]) := by
  simp only [removePendingRequestLocked,h]

theorem remove_incomplete (h : s.pendingRequests.valueFor f=some r) (hc : r.complete=false) :
    s.removePendingRequestLocked f=(s,[]) := by
  simp only [removePendingRequestLocked,h,hc,Bool.false_eq_true,if_false]

/-- A complete entry leaves the map and what it held is returned. -/
theorem remove_complete (h : s.pendingRequests.valueFor f=some r) (hc : r.complete=true) :
    (s.removePendingRequestLocked f).1.pendingRequests.valueFor f=none ∧
      returnedFor f (s.removePendingRequestLocked f).2=r.pendingBuffers ∧
      setErrors (s.removePendingRequestLocked f).2=
        (if r.status=none ∧ r.sensorTS≠r.shutterTS then
          [.timestampMismatch r.sensorTS f r.shutterTS] else []) := by
  simp only [removePendingRequestLocked,h,hc,if_true]
  refine ⟨by simp,?_,?_⟩
  · rw [returnedFor_append,returnOutputBuffers_returned]
    split_ifs <;> rfl
  · rw [setErrors_append,returnOutputBuffers_setErrors,List.append_nil]
    split_ifs <;> rfl

theorem remove_touches (s : PendingRequests M) (f : Nat) :
    Touches f s (s.removePendingRequestLocked f) := by
  cases h : s.pendingRequests.valueFor f with
  | none =>
    rw [remove_absent h]
    exact touches_quiet rfl rfl rfl fun _ => rfl
  | some r =>
    cases hc : r.complete with
    | false =>
      rw [remove_incomplete h hc]
      exact touches_quiet rfl rfl rfl fun _ => rfl
    | true =>
      have out := s.returnOutputBuffers_touches r.pendingBuffers 0 f
      simp only [removePendingRequestLocked,h,hc,if_true]
      refine ⟨?_,?_,?_,out.config⟩
      · intro g hg
        simpa [hg] using out.pending g hg
      · intro g hg
        refine Eq.trans ?_ (out.errors g hg)
        dsimp only
        split_ifs <;> simp [hg]
      · intro g hg
        rw [returnedFor_append,out.returned g hg]
        split_ifs <;> rfl

/-- The sensor timestamp that RemovePendingRequestLocked reports as wrong. -/
def mismatch (r : PendingRequest M) (f : Nat) : List SetError :=
  if r.status=none ∧ r.sensorTS≠r.shutterTS then [.timestampMismatch r.sensorTS f r.shutterTS]
  else []

/-- How a handler that ends in RemovePendingRequestLocked leaves the frame: the entry `q`
stays, or it was complete and is gone, with what it held returned last. -/
def Closes (f : Nat) (q : PendingRequest M) (returned : List StreamBuffer)
    (errors : List SetError) (o : PendingRequests M × List (ResultEvent M)) : Prop :=
  q.complete=true ∧ o.1.pendingRequests.valueFor f=none ∧
      returnedFor f o.2=returned++q.pendingBuffers ∧ setErrors o.2=errors++mismatch q f ∨
    q.complete=false ∧ o.1.pendingRequests.valueFor f=some q ∧ returnedFor f o.2=returned ∧
      setErrors o.2=errors

theorem remove_closes (h : s.pendingRequests.valueFor f=some r) (before : List (ResultEvent M)) :
    Closes f r (returnedFor f before) (setErrors before)
      ((s.removePendingRequestLocked f).1,before++(s.removePendingRequestLocked f).2) := by
  cases hc : r.complete with
  | false =>
    right
    rw [remove_incomplete h hc,List.append_nil]
    exact ⟨hc,h,rfl,rfl⟩
  | true =>
    left
    have gone := remove_complete h hc
    refine ⟨hc,gone.1,?_,?_⟩
    · rw [returnedFor_append,gone.2.1]
    · rw [setErrors_append,gone.2.2]
      rfl

/-- The removal changes the two maps only. -/
theorem remove_rest (s : PendingRequests M) (f : Nat) :
    ∃ m e,(s.removePendingRequestLocked f).1=
      { s with pendingRequests := m,pendingErrorRequests := e } := by
  unfold removePendingRequestLocked
  split
  · exact ⟨_,_,rfl⟩
  · split_ifs
    · obtain ⟨m,hm⟩ := s.returnOutputBuffers_rest ‹PendingRequest M›.pendingBuffers 0 f
      dsimp only
      rw [hm]
      exact ⟨_,_,rfl⟩
    · obtain ⟨m,hm⟩ := s.returnOutputBuffers_rest ‹PendingRequest M›.pendingBuffers 0 f
      dsimp only
      rw [hm]
      exact ⟨_,_,rfl⟩
    · exact ⟨_,_,rfl⟩

theorem remove_counters (s : PendingRequests M) (f : Nat) :
    (s.removePendingRequestLocked f).1.counters=s.counters := by
  obtain ⟨m,e,h⟩ := s.remove_rest f
  rw [h]
  rfl

end Remove

section Send

/-- The counters of results after frame `f` was let through. -/
def passResult (s : PendingRequests M) (input : Bool) (f : Nat) : PendingRequests M :=
  if input then { s with nextResultInputFrameNumber := frameAfter f }
  else { s with nextResultFrameNumber := frameAfter f }

theorem resultInOrder_eq (s : PendingRequests M) (input : Bool) (f : Nat) :
    s.resultInOrder input f=
      if f < s.expectedResult input then .error (.outOfOrderResult f (s.expectedResult input))
      else .ok (s.passResult input f) := by
  cases input <;> rfl

variable [CameraMetadata M]

theorem handlePartialResult_quiet (s : PendingRequests M) (f : Nat) (m : M)
    (extras : CaptureResultExtras) : Quiet (s.handlePartialResult f m extras).2 ∧
      setErrors (s.handlePartialResult f m extras).2=[] := by
  unfold handlePartialResult
  split_ifs
  · split
    · exact ⟨fun _ => rfl,rfl⟩
    · split
      · exact ⟨fun _ => rfl,rfl⟩
      · exact ⟨fun _ => rfl,rfl⟩
  · exact ⟨fun _ => rfl,rfl⟩

/-- The metadata for resultCb, from the final metadata with its frame count. -/
def fullResult (s : PendingRequests M) (counted collected : M) : M :=
  CameraMetadata.sort (if s.isPartialResultSupported=true ∧
      CameraMetadata.isEmpty collected=false then
    CameraMetadata.append counted collected else counted)

/-- What SendCaptureResult comes to. -/
inductive SendOutcome (s : PendingRequests M) (m : M) (extras : CaptureResultExtras)
    (collected : M) (f : Nat) : PendingRequests M × List (ResultEvent M) → Prop
  | unsent (idle : CameraMetadata.isEmpty m=true ∨ s.resultCb=false) :
    SendOutcome s m extras collected f (s,[])
  | late (behind : f < s.expectedResult extras.input) : SendOutcome s m extras collected f
    (s,[.setErr (.outOfOrderResult f (s.expectedResult extras.input))])
  | uncounted (filled : CameraMetadata.isEmpty m=false) (order : s.expectedResult extras.input≤f)
      (failed : CameraMetadata.update m .ANDROID_REQUEST_FRAME_COUNT (asInt32 f)=none) :
    SendOutcome s m extras collected f
      (s.passResult extras.input f,[.setErr (.unableToUpdateFrameNumber f)])
  | untimed {counted} (filled : CameraMetadata.isEmpty m=false)
      (order : s.expectedResult extras.input≤f)
      (updated : CameraMetadata.update m .ANDROID_REQUEST_FRAME_COUNT (asInt32 f)=some counted)
      (untimed : CameraMetadata.find (s.fullResult counted collected)
        .ANDROID_SENSOR_TIMESTAMP=[]) :
    SendOutcome s m extras collected f (s.passResult extras.input f,[.setErr (.noTimestamp f)])
  | sent {counted} (filled : CameraMetadata.isEmpty m=false)
      (order : s.expectedResult extras.input≤f)
      (updated : CameraMetadata.update m .ANDROID_REQUEST_FRAME_COUNT (asInt32 f)=some counted) :
    SendOutcome s m extras collected f
      (s.passResult extras.input f,[.resultCb extras (s.fullResult counted collected)])

theorem sendCaptureResult_outcome (s : PendingRequests M) (m : M) (extras : CaptureResultExtras)
    (collected : M) (f : Nat) :
    SendOutcome s m extras collected f (s.sendCaptureResult m extras collected f) := by
  unfold sendCaptureResult
  split_ifs with empty unset
  · exact .unsent (.inl empty)
  · exact .unsent (.inr unset)
  have filled : CameraMetadata.isEmpty m=false := Bool.eq_false_iff.mpr empty
  rw [resultInOrder_eq]
  by_cases behind : f < s.expectedResult extras.input
  · rw [if_pos behind]
    exact .late behind
  have order := not_lt.mp behind
  rw [if_neg behind]
  cases updated : CameraMetadata.update m .ANDROID_REQUEST_FRAME_COUNT (asInt32 f) with
  | none => exact .uncounted filled order updated
  | some counted =>
    have same : (s.passResult extras.input f).fullResult counted collected=
        s.fullResult counted collected := by
      cases extras.input <;> rfl
    show SendOutcome s m extras collected f
      (if CameraMetadata.find ((s.passResult extras.input f).fullResult counted collected)
        .ANDROID_SENSOR_TIMESTAMP=[] then _ else (_,[.resultCb extras
          ((s.passResult extras.input f).fullResult counted collected)]))
    rw [same]
    split_ifs with untimed
    · exact .untimed filled order updated untimed
    · exact .sent filled order updated

/-- SendCaptureResult moves no buffer and changes at most the result counter of its kind. -/
theorem sendCaptureResult_cases (s : PendingRequests M) (m : M) (extras : CaptureResultExtras)
    (collected : M) (f : Nat) :
    ((s.sendCaptureResult m extras collected f).1=s ∨ CameraMetadata.isEmpty m=false ∧
      (s.sendCaptureResult m extras collected f).1=s.passResult extras.input f) ∧
    Quiet (s.sendCaptureResult m extras collected f).2 := by
  have outcome := s.sendCaptureResult_outcome m extras collected f
  generalize s.sendCaptureResult m extras collected f=o at outcome ⊢
  cases outcome with
  | unsent | late => exact ⟨Or.inl rfl,fun _ => rfl⟩
  | uncounted filled | untimed filled | sent filled => exact ⟨Or.inr ⟨filled,rfl⟩,fun _ => rfl⟩

theorem sendCaptureResult_rest (s : PendingRequests M) (m : M) (extras : CaptureResultExtras)
    (collected : M) (f : Nat) : ∃ a b,(s.sendCaptureResult m extras collected f).1=
      { s with nextResultFrameNumber := a,nextResultInputFrameNumber := b } := by
  rcases (s.sendCaptureResult_cases m extras collected f).1 with h|⟨-,h⟩
  · exact ⟨_,_,h⟩
  · rw [h]
    unfold passResult
    split_ifs
    · exact ⟨_,_,rfl⟩
    · exact ⟨_,_,rfl⟩

theorem sendCaptureResult_touches (s : PendingRequests M) (m : M) (extras : CaptureResultExtras)
    (collected : M) (f : Nat) : Touches f s (s.sendCaptureResult m extras collected f) := by
  obtain ⟨a,b,h⟩ := s.sendCaptureResult_rest m extras collected f
  apply touches_quiet
  · rw [h]
  · rw [h]
  · rw [h]
    rfl
  · exact (s.sendCaptureResult_cases m extras collected f).2

theorem sendCaptureResult_pending (s : PendingRequests M) (m : M) (extras : CaptureResultExtras)
    (collected : M) (f : Nat) :
    (s.sendCaptureResult m extras collected f).1.pendingRequests=s.pendingRequests := by
  obtain ⟨a,b,h⟩ := s.sendCaptureResult_rest m extras collected f
  rw [h]

end Send

end PendingRequests
end IotMedia.Camera

import IotMedia.Camera.PendingFrame

namespace IotMedia.Camera

open IotMedia.Framework

namespace PendingRequests

variable {M : Type} {f g : Nat} {s t : PendingRequests M} {r : PendingRequest M}

section Result

variable [CameraMetadata M] {result : CaptureResult} {md : List UInt8} {isFinal : Bool}
  {collected : M}

/-- The result carries metadata that completes the frame's metadata. -/
def carriesFinal (s : PendingRequests M) (result : CaptureResult) : Bool :=
  decide (result.result≠[]) &&
    !decide (s.isPartialResultSupported ∧ result.partialResult < s.partialResultCount)

/-- What a result changes in the entry before the removal is tried. -/
structure HeldFrom (r q : PendingRequest M) (result : CaptureResult) (md : List UInt8)
    (isFinal : Bool) : Prop where
  shutterTS : q.shutterTS=r.shutterTS
  sensorTS : q.sensorTS=match CameraMetadata.findRaw M result.result .ANDROID_SENSOR_TIMESTAMP with
    | some [t] => t
    | _ => r.sensorTS
  resultExtras : q.resultExtras=r.resultExtras
  isMetaPresent : q.isMetaPresent=r.isMetaPresent
  buffersRemaining : q.buffersRemaining=r.buffersRemaining
  pendingBuffers : q.pendingBuffers=r.pendingBuffers++if r.shutterTS=0 then result.outputBuffers else []
  pendingMetadata : q.pendingMetadata=if r.shutterTS=0 ∧ isFinal=true then
    CameraMetadata.appendRaw CameraMetadata.empty md else r.pendingMetadata
  status : r.status≠none → q.status≠none

theorem held_from (r : PendingRequest M) (result : CaptureResult) (md : List UInt8)
    (isFinal : Bool) (collected : M) (st : Option ErrorCode) (hst : r.status≠none → st≠none) :
    HeldFrom r { (r.noteSensorTimestamp result).hold result md isFinal collected with status := st }
      result md isFinal := by
  unfold PendingRequest.noteSensorTimestamp
  split
  all_goals
    unfold PendingRequest.hold
    dsimp only
    by_cases hs : r.shutterTS=0
    · cases isFinal
      all_goals
        simp only [hs,if_true,Bool.false_eq_true,if_false]
        constructor <;> simp_all
    · simp only [hs,if_false]
      constructor <;> simp_all

theorem held_status (r : PendingRequest M) (result : CaptureResult) (md : List UInt8)
    (isFinal : Bool) (collected : M) :
    ((r.noteSensorTimestamp result).hold result md isFinal collected).status=r.status := by
  unfold PendingRequest.noteSensorTimestamp PendingRequest.hold
  split
  all_goals
    dsimp only
    split_ifs <;> rfl

theorem deliverResult_touches (s : PendingRequests M) (r : PendingRequest M) (collected : M)
    (result : CaptureResult) (md : List UInt8) (isFinal : Bool) :
    Touches result.frameNumber s (s.deliverResult r collected result md isFinal) := by
  unfold deliverResult
  have stored := s.store_touches result.frameNumber
    ((r.noteSensorTimestamp result).hold result md isFinal collected)
    (a := ([] : List (ResultEvent M))) fun _ => rfl
  have none_sent : ∀ t : PendingRequests M,Touches result.frameNumber t (t,[]) := fun t =>
    touches_quiet rfl rfl rfl fun _ => rfl
  dsimp only
  rw [List.append_assoc]
  refine stored.trans (Touches.trans (p := (_,_)) ?_ (Touches.trans (p := (_,_)) ?_ ?_))
  · split_ifs
    · exact sendCaptureResult_touches _ _ _ _ _
    · exact none_sent _
  · split_ifs
    all_goals first
      | exact returnOutputBuffers_touches _ _ _ _
      | exact none_sent _
  · exact remove_touches _ _

theorem sendCaptureResult_counters (s : PendingRequests M) (m : M) (extras : CaptureResultExtras)
    (collected : M) (f : Nat) (i : Bool) :
    (s.sendCaptureResult m extras collected f).1.expectedShutter i=s.expectedShutter i ∧
    ((s.sendCaptureResult m extras collected f).1.expectedResult i=s.expectedResult i ∨
      CameraMetadata.isEmpty m=false ∧
        (s.sendCaptureResult m extras collected f).1.expectedResult i=frameAfter f) := by
  rcases (s.sendCaptureResult_cases m extras collected f).1 with h|⟨he,h⟩
  · rw [h]
    exact ⟨rfl,Or.inl rfl⟩
  · rw [h]
    cases hi : extras.input <;> cases i <;> simp [passResult,expectedShutter,expectedResult,he]

/-- What SendCaptureResult reports while the result is delivered. -/
def sendErrors (s : PendingRequests M) (r : PendingRequest M) (collected : M)
    (result : CaptureResult) (md : List UInt8) (isFinal : Bool) : List SetError :=
  if isFinal=true ∧ r.shutterTS≠0 then
    setErrors ((s.store result.frameNumber ((r.noteSensorTimestamp result).hold result md isFinal
        collected)).sendCaptureResult (CameraMetadata.ofRaw md) r.resultExtras collected
          result.frameNumber).2
  else []

/-- Delivery up to the removal: the entry as held, the errors untouched, the buffers of a known
shutter returned. -/
theorem deliverResult_before (r : PendingRequest M) (collected : M) (md : List UInt8)
    (isFinal : Bool) (h : (s.pendingRequests.valueFor result.frameNumber).isSome) :
    ∃ (t : PendingRequests M) (q : PendingRequest M) (before : List (ResultEvent M)),
      t.pendingRequests.valueFor result.frameNumber=some q ∧
      HeldFrom r q result md isFinal ∧ t.pendingErrorRequests=s.pendingErrorRequests ∧
      returnedFor result.frameNumber before=(if 0 < r.shutterTS then result.outputBuffers else []) ∧
      setErrors before=s.sendErrors r collected result md isFinal ∧
      s.deliverResult r collected result md isFinal=
        ((t.removePendingRequestLocked result.frameNumber).1,
          before++(t.removePendingRequestLocked result.frameNumber).2) := by
  obtain ⟨r0,h0⟩ := Option.isSome_iff_exists.mp h
  have stored := store_self s h0 ((r.noteSensorTimestamp result).hold result md isFinal collected)
  have status := held_status r result md isFinal collected
  unfold deliverResult sendErrors
  dsimp only
  generalize hsent : (if isFinal=true ∧ r.shutterTS≠0 then _ else _ :
    PendingRequests M × List (ResultEvent M))=sent
  have passed : Quiet sent.2 ∧ sent.1.pendingErrorRequests=s.pendingErrorRequests ∧
      sent.1.pendingRequests.valueFor result.frameNumber=
        some ((r.noteSensorTimestamp result).hold result md isFinal collected) ∧
      setErrors sent.2=(if isFinal=true ∧ r.shutterTS≠0 then
        setErrors ((s.store result.frameNumber ((r.noteSensorTimestamp result).hold result md
          isFinal collected)).sendCaptureResult (CameraMetadata.ofRaw md) r.resultExtras collected
            result.frameNumber).2 else []) := by
    rw [← hsent]
    split_ifs
    · refine ⟨(sendCaptureResult_cases _ _ _ _ _).2,?_,?_,rfl⟩
      · obtain ⟨a,b,ha⟩ := sendCaptureResult_rest (s.store result.frameNumber
          ((r.noteSensorTimestamp result).hold result md isFinal collected))
          (CameraMetadata.ofRaw md) r.resultExtras collected result.frameNumber
        rw [ha]
        rfl
      · rw [sendCaptureResult_pending]
        exact stored
    · exact ⟨fun _ => rfl,rfl,stored,rfl⟩
  obtain ⟨quiet,errors,pending,sentErrors⟩ := passed
  rw [← sentErrors]
  by_cases hs : 0 < r.shutterTS
  · rw [if_pos hs,if_pos hs]
    obtain ⟨st,entry,keep⟩ := returnOutputBuffers_entry result.outputBuffers r.shutterTS pending
    rw [status] at keep
    refine ⟨_,_,sent.2++(sent.1.returnOutputBuffers result.outputBuffers r.shutterTS
      result.frameNumber).2,entry,held_from r result md isFinal collected st keep,?_,?_,?_,rfl⟩
    · rw [returnOutputBuffers_errors]
      exact errors
    · rw [returnedFor_append,quiet,returnOutputBuffers_returned,List.nil_append]
    · rw [setErrors_append,returnOutputBuffers_setErrors,List.append_nil]
  · rw [if_neg hs,if_neg hs]
    have kept := held_from r result md isFinal collected r.status id
    rw [← status] at kept
    refine ⟨sent.1,_,sent.2,pending,kept,errors,quiet _,rfl,?_⟩
    rw [List.append_nil]

theorem deliverResult_closes (r : PendingRequest M) (collected : M) (result : CaptureResult)
    (md : List UInt8) (isFinal : Bool) (h : (s.pendingRequests.valueFor result.frameNumber).isSome) :
    ∃ q,HeldFrom r q result md isFinal ∧
      Closes result.frameNumber q (if 0 < r.shutterTS then result.outputBuffers else [])
        (s.sendErrors r collected result md isFinal)
        (s.deliverResult r collected result md isFinal) := by
  obtain ⟨t,q,before,hv,held,-,returned,errors,he⟩ :=
    s.deliverResult_before r collected md isFinal h
  have closed := remove_closes hv before
  rw [returned,errors,← he] at closed
  exact ⟨q,held,closed⟩

/-- Delivery moves no shutter counter, and the result counter only to behind this frame. -/
theorem deliverResult_counters (s : PendingRequests M) (r : PendingRequest M) (collected : M)
    (result : CaptureResult) (md : List UInt8) (isFinal i : Bool) :
    (s.deliverResult r collected result md isFinal).1.expectedShutter i=s.expectedShutter i ∧
    ((s.deliverResult r collected result md isFinal).1.expectedResult i=s.expectedResult i ∨
      isFinal=true ∧ r.shutterTS≠0 ∧ (s.deliverResult r collected result md
        isFinal).1.expectedResult i=frameAfter result.frameNumber) := by
  have out : ∀ t : PendingRequests M,
      (if 0 < r.shutterTS then t.returnOutputBuffers result.outputBuffers r.shutterTS
        result.frameNumber else (t,[])).1.counters=t.counters := by
    intro t
    split_ifs
    · exact returnOutputBuffers_counters _ _ _ _
    · rfl
  unfold deliverResult
  dsimp only
  rw [expectedShutter_eq,expectedResult_eq,remove_counters,out,← expectedShutter_eq,
    ← expectedResult_eq]
  split_ifs with hs
  · have sent := sendCaptureResult_counters (s.store result.frameNumber
      ((r.noteSensorTimestamp result).hold result md isFinal collected))
      (CameraMetadata.ofRaw md) r.resultExtras collected result.frameNumber i
    refine ⟨sent.1,?_⟩
    cases sent.2 with
    | inl same => exact Or.inl same
    | inr passed => exact Or.inr ⟨hs.1,hs.2,passed.2⟩
  · exact ⟨rfl,Or.inl rfl⟩

omit [CameraMetadata M] in
theorem notePartialCount_eq (r : PendingRequest M) (result : CaptureResult) :
    ∃ e,e.input=r.resultExtras.input ∧ r.notePartialCount result={ r with resultExtras := e } := by
  unfold PendingRequest.notePartialCount
  split_ifs
  · exact ⟨{ r.resultExtras with partialResultCount := asInt32 result.partialResult },rfl,rfl⟩
  · exact ⟨r.resultExtras,rfl,rfl⟩

/-- The part of a result's metadata is in the range the HAL promised. -/
def PartialInRange (s : PendingRequests M) (result : CaptureResult) : Prop :=
  s.isPartialResultSupported=true ∧ result.result≠[] →
    1 ≤ result.partialResult ∧ result.partialResult ≤ s.partialResultCount

/-- What the block on partial metadata comes to. -/
inductive ComposeOutcome (s : PendingRequests M) (r : PendingRequest M) (result : CaptureResult) :
    Except SetError (PendingRequest M × Bool × List (ResultEvent M)) → Prop
  | outOfRange (outside : ¬s.PartialInRange result) : ComposeOutcome s r result
    (.error (.partialResultOutOfRange result.frameNumber result.partialResult s.partialResultCount))
  | told {pack told} (range : s.PartialInRange result)
      (early : s.isPartialResultSupported=true ∧ result.result≠[] ∧
        result.partialResult < s.partialResultCount)
      (packed : CameraMetadata.appendRaw CameraMetadata.empty result.result=pack)
      (tells : s.handlePartialResult result.frameNumber pack r.resultExtras=told) :
    ComposeOutcome s r result
      (.ok ({ r with composedResult := pack,partial3AReceived := told.1 },true,told.2))
  | kept (range : s.PartialInRange result)
      (late : ¬(s.isPartialResultSupported=true ∧ result.result≠[] ∧
        result.partialResult < s.partialResultCount)) :
    ComposeOutcome s r result (.ok (r,false,[]))

theorem composePartial_outcome (s : PendingRequests M) (r : PendingRequest M)
    (result : CaptureResult) : ComposeOutcome s r result (s.composePartial r result) := by
  unfold composePartial
  split_ifs with has outside early
  · refine .outOfRange fun range => ?_
    have bounds := range has
    omega
  · exact .told (fun _ => by omega) ⟨has.1,has.2,early⟩ rfl rfl
  · exact .kept (fun _ => by omega) fun told => early told.2.2
  · exact .kept (fun h => absurd h has) fun told => has ⟨told.1,told.2.1⟩

theorem composePartial_cases (s : PendingRequests M) (r : PendingRequest M)
    (result : CaptureResult) :
    (¬s.PartialInRange result ∧ ∃ e,s.composePartial r result=.error e) ∨
    s.PartialInRange result ∧ ∃ c b told,Quiet told ∧ setErrors told=[] ∧
      s.composePartial r result=.ok ({ r with composedResult := c,partial3AReceived := b },
        decide (s.isPartialResultSupported=true ∧ result.result≠[] ∧
          result.partialResult < s.partialResultCount),told) := by
  have outcome := s.composePartial_outcome r result
  generalize s.composePartial r result=o at outcome ⊢
  cases outcome with
  | outOfRange outside => exact Or.inl ⟨outside,_,rfl⟩
  | @told pack _ range early packed tells =>
    subst tells
    have quiet := s.handlePartialResult_quiet result.frameNumber pack r.resultExtras
    rw [decide_eq_true early]
    exact Or.inr ⟨range,_,_,_,quiet.1,quiet.2,rfl⟩
  | kept range late =>
    rw [decide_eq_false late]
    exact Or.inr ⟨range,r.composedResult,r.partial3AReceived,[],fun _ => rfl,rfl,rfl⟩

theorem acceptMetadata_eq (s : PendingRequests M) (r : PendingRequest M) :
    ∃ c,(s.acceptMetadata r).1={ r with isMetaPresent := true,composedResult := c } := by
  unfold acceptMetadata
  split_ifs
  · exact ⟨_,rfl⟩
  · exact ⟨r.composedResult,rfl⟩

omit [CameraMetadata M] in
theorem carriesFinal_eq (s : PendingRequests M) (result : CaptureResult) :
    (decide (result.result≠[]) && !decide (s.isPartialResultSupported=true ∧ result.result≠[] ∧
      result.partialResult < s.partialResultCount))=s.carriesFinal result := by
  unfold carriesFinal
  by_cases h : result.result=[]
  · simp [h]
  · simp [h]

/-- The entry after the metadata block and the buffer count of HandleCaptureResult. -/
def countedResult (s : PendingRequests M) (r : PendingRequest M) (result : CaptureResult)
    (e : CaptureResultExtras) (c : M) (b : Bool) : PendingRequest M :=
  { r with
    resultExtras := e
    composedResult := c
    partial3AReceived := b
    isMetaPresent := r.isMetaPresent || s.carriesFinal result
    buffersRemaining :=
      r.buffersRemaining-result.outputBuffers.length-(if result.inputBuffer then 1 else 0) }

/-- The result of a frame with an entry is delivered, unless one of its three checks fails. -/
theorem processResult_cases (s : PendingRequests M) (r : PendingRequest M)
    (result : CaptureResult) (md : List UInt8) :
    (∃ q told e,Quiet told ∧
      s.processResult r result md=(s.store result.frameNumber q,told++[.setErr e]) ∧
      q.pendingBuffers=r.pendingBuffers ∧
      (s.PartialInRange result → (s.carriesFinal result=true → r.isMetaPresent=false) →
        r.buffersRemaining < result.outputBuffers.length+(if result.inputBuffer then 1 else 0))) ∨
    ∃ e c b told collected,e.input=r.resultExtras.input ∧ Quiet told ∧ setErrors told=[] ∧
      s.processResult r result md=
        ((s.deliverResult (s.countedResult r result e c b) collected result md
            (s.carriesFinal result)).1,
          told++(s.deliverResult (s.countedResult r result e c b) collected result md
            (s.carriesFinal result)).2) := by
  obtain ⟨x,hx,he⟩ := notePartialCount_eq r result
  unfold processResult
  dsimp only
  rcases s.composePartial_cases (r.notePartialCount result) result with
    ⟨hn,e,hc⟩|⟨hin,c,b,told,quiet,silent,hc⟩
  · left
    rw [hc]
    exact ⟨_,[],e,fun _ => rfl,rfl,by rw [he],fun h => absurd h hn⟩
  rw [hc,he]
  dsimp only
  rw [carriesFinal_eq]
  by_cases hneg : r.buffersRemaining-result.outputBuffers.length-
      (if result.inputBuffer=true then 1 else 0)<0
  · -- one of the checks fails, and the last one for certain
    left
    have room : r.buffersRemaining < result.outputBuffers.length+
        (if result.inputBuffer=true then 1 else 0) := by omega
    cases hf : s.carriesFinal result with
    | false =>
      simp only [Bool.false_eq_true,false_and,if_false,PendingRequest.countBuffers,if_pos hneg]
      exact ⟨_,told,_,quiet,rfl,rfl,fun _ _ => room⟩
    | true =>
      simp only [true_and,if_true,PendingRequest.countBuffers]
      by_cases hm : r.isMetaPresent=true
      · rw [if_pos hm]
        exact ⟨_,told,_,quiet,rfl,rfl,fun _ _ => room⟩
      · obtain ⟨c',ha⟩ := s.acceptMetadata_eq
          { r with resultExtras := x,composedResult := c,partial3AReceived := b }
        rw [if_neg hm,ha]
        dsimp only
        rw [if_pos hneg]
        exact ⟨_,told,_,quiet,rfl,rfl,fun _ _ => room⟩
  · cases hf : s.carriesFinal result with
    | false =>
      right
      simp only [Bool.false_eq_true,false_and,if_false,PendingRequest.countBuffers,if_neg hneg]
      refine ⟨x,c,b,told,CameraMetadata.empty,hx,quiet,silent,?_⟩
      simp only [countedResult,hf,Bool.or_false]
    | true =>
      simp only [true_and,if_true,PendingRequest.countBuffers]
      by_cases hm : r.isMetaPresent=true
      · left
        rw [if_pos hm]
        refine ⟨_,told,_,quiet,rfl,rfl,fun _ h => ?_⟩
        exact absurd (h trivial) (by simp [hm])
      · right
        obtain ⟨c',ha⟩ := s.acceptMetadata_eq
          { r with resultExtras := x,composedResult := c,partial3AReceived := b }
        rw [if_neg hm,ha]
        dsimp only
        rw [if_neg hneg]
        refine ⟨x,c',b,told,(s.acceptMetadata
          { r with resultExtras := x,composedResult := c,partial3AReceived := b }).2,
          hx,quiet,silent,?_⟩
        simp only [countedResult,hf,Bool.or_true]

theorem processResult_touches (s : PendingRequests M) (r : PendingRequest M)
    (result : CaptureResult) (md : List UInt8) :
    Touches result.frameNumber s (s.processResult r result md) := by
  rcases s.processResult_cases r result md with
    ⟨q,told,e,quiet,h,-⟩|⟨e,c,b,told,collected,-,quiet,-,h⟩
  · rw [h]
    exact s.store_touches _ q (quiet.append fun _ => rfl)
  · rw [h]
    exact (deliverResult_touches _ _ _ _ _ _).quiet quiet

/-- The announced bytes are in the metadata queue. -/
def Readable (s : PendingRequests M) (size : Nat) : Prop :=
  size=0 ∨ ∃ bytes,s.resultMetadataQueue=some bytes ∧ size≤bytes.length

omit [CameraMetadata M] in
theorem readResultMetadata_cases (s : PendingRequests M) (size : Nat) :
    (¬s.Readable size ∧ ∃ e,s.readResultMetadata size=.error e) ∨
    s.Readable size ∧ ∃ queue md,
      s.readResultMetadata size=.ok ({ s with resultMetadataQueue := queue },md) := by
  unfold readResultMetadata Readable
  split_ifs with h0
  · exact Or.inr ⟨Or.inl h0,s.resultMetadataQueue,[],rfl⟩
  · cases hq : s.resultMetadataQueue with
    | none => exact Or.inl ⟨by simp [h0],_,rfl⟩
    | some bytes =>
      dsimp only
      split_ifs with hl
      · exact Or.inl ⟨by simp [h0,hl],_,rfl⟩
      · exact Or.inr ⟨Or.inr ⟨bytes,rfl,by omega⟩,_,_,rfl⟩

/-- Only the maps and the result counters differ. -/
def MapsOnly (s t : PendingRequests M) : Prop :=
  ∃ m e a b,t={ s with
    pendingRequests := m
    pendingErrorRequests := e
    nextResultFrameNumber := a
    nextResultInputFrameNumber := b }

omit [CameraMetadata M] in
theorem MapsOnly.trans {s t u : PendingRequests M} (h : MapsOnly s t) (h' : MapsOnly t u) :
    MapsOnly s u := by
  obtain ⟨m,e,a,b,rfl⟩ := h
  obtain ⟨m',e',a',b',rfl⟩ := h'
  exact ⟨m',e',a',b',rfl⟩

omit [CameraMetadata M] in
theorem MapsOnly.refl (s : PendingRequests M) : MapsOnly s s := ⟨_,_,_,_,rfl⟩

theorem deliverResult_mapsOnly (s : PendingRequests M) (r : PendingRequest M) (collected : M)
    (result : CaptureResult) (md : List UInt8) (isFinal : Bool) :
    MapsOnly s (s.deliverResult r collected result md isFinal).1 := by
  have returned : ∀ t : PendingRequests M,MapsOnly t (if 0 < r.shutterTS then
      t.returnOutputBuffers result.outputBuffers r.shutterTS result.frameNumber else (t,[])).1 := by
    intro t
    split_ifs
    · obtain ⟨m,hm⟩ := t.returnOutputBuffers_rest result.outputBuffers r.shutterTS
        result.frameNumber
      exact ⟨m,_,_,_,hm⟩
    · exact .refl t
  have removed : ∀ t : PendingRequests M,
      MapsOnly t (t.removePendingRequestLocked result.frameNumber).1 := by
    intro t
    obtain ⟨m,e,h⟩ := t.remove_rest result.frameNumber
    exact ⟨m,e,_,_,h⟩
  unfold deliverResult
  dsimp only
  refine MapsOnly.trans ?_ ((returned _).trans (removed _))
  split_ifs
  · obtain ⟨a,b,h⟩ := sendCaptureResult_rest (s.store result.frameNumber
      ((r.noteSensorTimestamp result).hold result md isFinal collected))
      (CameraMetadata.ofRaw md) r.resultExtras collected result.frameNumber
    rw [h]
    exact ⟨_,_,a,b,rfl⟩
  · exact ⟨_,_,_,_,rfl⟩

theorem processResult_mapsOnly (s : PendingRequests M) (r : PendingRequest M)
    (result : CaptureResult) (md : List UInt8) :
    MapsOnly s (s.processResult r result md).1 := by
  rcases s.processResult_cases r result md with ⟨q,told,e,-,h,-⟩|⟨e,c,b,told,collected,-,-,-,h⟩
  · rw [h]
    exact ⟨_,_,_,_,rfl⟩
  · rw [h]
    exact deliverResult_mapsOnly _ _ _ _ _ _

/-- HandleCaptureResult: an early exit that only reports, a frame without an entry, or the
frame's entry is processed. -/
theorem handleCaptureResult_cases (s : PendingRequests M) (result : CaptureResult) :
    (result.result=[] ∧ result.outputBuffers=[] ∧ s.handleCaptureResult result=(s,[])) ∨
    (result.result≠[] ∨ result.outputBuffers≠[]) ∧
    ((¬((s.isPartialResultSupported=false → result.result≠[] → result.partialResult=1) ∧
        s.Readable result.fmqResultSize) ∧
      ∃ e,s.handleCaptureResult result=(s,[.setErr e])) ∨
    ∃ queue md,s.readResultMetadata result.fmqResultSize=
        .ok ({ s with resultMetadataQueue := queue },md) ∧
      (s.pendingRequests.valueFor result.frameNumber=none ∧
        (s.pendingErrorRequests.valueFor result.frameNumber).isSome ∧
        s.handleCaptureResult result=({ s with
          resultMetadataQueue := queue
          pendingErrorRequests := s.pendingErrorRequests.removeItem result.frameNumber },[]) ∨
      s.pendingRequests.valueFor result.frameNumber=none ∧
        s.pendingErrorRequests.valueFor result.frameNumber=none ∧
        s.handleCaptureResult result=({ s with resultMetadataQueue := queue },
          [.setErr (.invalidFrameNumber result.frameNumber)]) ∨
      ∃ r,s.pendingRequests.valueFor result.frameNumber=some r ∧
        s.handleCaptureResult result=
          ({ s with resultMetadataQueue := queue } : PendingRequests M).processResult r result md)) := by
  unfold handleCaptureResult
  by_cases h0 : result.result=[] ∧ result.outputBuffers=[]
  · rw [if_pos h0]
    exact Or.inl ⟨h0.1,h0.2,rfl⟩
  have some_part : result.result≠[] ∨ result.outputBuffers≠[] := by
    by_cases hr : result.result=[]
    · exact Or.inr fun ho => h0 ⟨hr,ho⟩
    · exact Or.inl hr
  refine Or.inr ⟨some_part,?_⟩
  rw [if_neg h0]
  split_ifs with hu
  · exact Or.inl ⟨fun h => hu.2.2 (h.1 hu.1 hu.2.1),_,rfl⟩
  rcases s.readResultMetadata_cases result.fmqResultSize with ⟨hn,e,he⟩|⟨-,queue,md,he⟩
  · left
    rw [he]
    exact ⟨fun h => hn h.2,e,rfl⟩
  · right
    rw [he]
    refine ⟨queue,md,rfl,?_⟩
    dsimp only
    cases hv : s.pendingRequests.valueFor result.frameNumber with
    | some r => exact Or.inr (Or.inr ⟨r,rfl,rfl⟩)
    | none =>
      cases hx : s.pendingErrorRequests.valueFor result.frameNumber with
      | some r => exact Or.inl ⟨rfl,rfl,rfl⟩
      | none => exact Or.inr (Or.inl ⟨rfl,rfl,rfl⟩)

theorem handleCaptureResult_touches (s : PendingRequests M) (result : CaptureResult) :
    Touches result.frameNumber s (s.handleCaptureResult result) := by
  rcases s.handleCaptureResult_cases result with ⟨-,-,h⟩|⟨-,⟨-,e,h⟩|⟨queue,md,-,⟨-,-,h⟩|⟨-,-,h⟩|⟨r,-,h⟩⟩⟩
  · rw [h]
    exact touches_quiet rfl rfl rfl fun _ => rfl
  · rw [h]
    exact touches_quiet rfl rfl rfl fun _ => rfl
  · rw [h]
    refine ⟨fun _ _ => rfl,?_,fun _ _ => rfl,rfl⟩
    intro g hg
    simp [hg]
  · rw [h]
    exact touches_quiet rfl rfl rfl fun _ => rfl
  · rw [h]
    have done := processResult_touches { s with resultMetadataQueue := queue } r result md
    exact ⟨done.pending,done.errors,done.returned,done.config⟩

theorem processResult_counters (s : PendingRequests M) (r : PendingRequest M)
    (result : CaptureResult) (md : List UInt8) (i : Bool) :
    (s.processResult r result md).1.expectedShutter i=s.expectedShutter i ∧
    ((s.processResult r result md).1.expectedResult i=s.expectedResult i ∨
      s.carriesFinal result=true ∧ r.shutterTS≠0 ∧
        (s.processResult r result md).1.expectedResult i=frameAfter result.frameNumber) := by
  rcases s.processResult_cases r result md with ⟨q,told,e,-,h,-⟩|⟨e,c,b,told,collected,-,-,-,h⟩
  · rw [h]
    exact ⟨rfl,Or.inl rfl⟩
  · rw [h]
    exact deliverResult_counters s (s.countedResult r result e c b) collected result md _ i

/-- A result moves no shutter counter, and the result counter only for an entry whose shutter
is known. -/
theorem handleCaptureResult_counters (s : PendingRequests M) (result : CaptureResult) (i : Bool) :
    (s.handleCaptureResult result).1.expectedShutter i=s.expectedShutter i ∧
    ((s.handleCaptureResult result).1.expectedResult i=s.expectedResult i ∨
      ∃ r,s.pendingRequests.valueFor result.frameNumber=some r ∧ r.shutterTS≠0 ∧
        s.carriesFinal result=true ∧
        (s.handleCaptureResult result).1.expectedResult i=frameAfter result.frameNumber) := by
  rcases s.handleCaptureResult_cases result with ⟨-,-,h⟩|⟨-,⟨-,e,h⟩|⟨queue,md,-,⟨-,-,h⟩|⟨-,-,h⟩|⟨r,hv,h⟩⟩⟩
  · rw [h]
    exact ⟨rfl,Or.inl rfl⟩
  · rw [h]
    exact ⟨rfl,Or.inl rfl⟩
  · rw [h]
    exact ⟨rfl,Or.inl rfl⟩
  · rw [h]
    exact ⟨rfl,Or.inl rfl⟩
  · rw [h]
    have counted := processResult_counters { s with resultMetadataQueue := queue } r result md i
    refine ⟨counted.1,?_⟩
    cases counted.2 with
    | inl same => exact Or.inl same
    | inr passed => exact Or.inr ⟨r,hv,passed.2.1,passed.1,passed.2.2⟩

end Result

end PendingRequests
end IotMedia.Camera

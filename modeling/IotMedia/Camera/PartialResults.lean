import IotMedia.Camera.FullResults
import IotMedia.Framework.LastValue

namespace IotMedia.Camera

open IotMedia.Framework

/-- What the metadata class and functions promise: a pack is a set of entries, an append takes those
of both packs, an update replaces the entry of its tag. -/
class MetadataLaws (M : Type) [CameraMetadata M] where
  holds : M → MetadataTag → List Int → Prop
  empty : ∀ t v,¬holds CameraMetadata.empty t v
  isEmpty : ∀ m : M,CameraMetadata.isEmpty m=true ↔ ∀ t v,¬holds m t v
  append : ∀ (m n : M) t v,holds (CameraMetadata.append m n) t v ↔ holds m t v ∨ holds n t v
  appendRaw : ∀ (m : M) raw t v,holds (CameraMetadata.appendRaw m raw) t v ↔
    holds m t v ∨ holds (CameraMetadata.ofRaw raw) t v
  update : ∀ (m n : M) tag x,CameraMetadata.update m tag x=some n →
    ∀ t v,holds n t v ↔ if t=tag then v=[x] else holds m t v
  sort : ∀ (m : M) t v,holds (CameraMetadata.sort m) t v ↔ holds m t v

open MetadataLaws (holds)

variable {M : Type}

def ResultEvent.metadata : ResultEvent M → Option M
  | .resultCb _ metadata => some metadata
  | _ => none

/-- The metadata passed to resultCb, in this order. -/
def metadatas (events : List (ResultEvent M)) : List M := events.filterMap ResultEvent.metadata

@[simp] theorem metadatas_nil : metadatas ([] : List (ResultEvent M))=[] := rfl

@[simp] theorem metadatas_append (a b : List (ResultEvent M)) :
    metadatas (a++b)=metadatas a++metadatas b := List.filterMap_append

@[simp] theorem metadatas_setErr (e : SetError) :
    metadatas ([.setErr e] : List (ResultEvent M))=[] := rfl

theorem metadatas_of_results {events : List (ResultEvent M)} (h : results events=[]) :
    metadatas events=[] := by
  rw [results,List.filterMap_eq_nil_iff] at h
  rw [metadatas,List.filterMap_eq_nil_iff]
  intro event he
  have none_sent := h event he
  cases event with
  | resultCb extras metadata => cases none_sent
  | _ => rfl

section Packs

variable [CameraMetadata M] [MetadataLaws M]

/-- The metadata of a partial result, and what the client gets of it. -/
def Told (f : Nat) (requestId : Int) (pack told : M) : Prop :=
  ∀ t v,holds told t v ↔ if t=.ANDROID_REQUEST_ID then v=[requestId] else
    if t=.ANDROID_REQUEST_FRAME_COUNT then v=[asInt32 f] else holds pack t v

/-- What the client gets as full result: the final metadata under its frame number, and what was
collected. -/
def Sent (f : Nat) (final collected full : M) : Prop :=
  ∀ t v,holds full t v ↔
    (if t=.ANDROID_REQUEST_FRAME_COUNT then v=[asInt32 f] else holds final t v) ∨
      holds collected t v

/-- The full result has all that the partial results have told, with the last value told unless the
final metadata has a value of its own. -/
def Complete (told : List M) (final full : M) : Prop :=
  ∀ t v,LastValue holds told t v →
    (∃ u,holds full t u) ∧ ((∀ u,¬holds final t u) → holds full t v)

/-- What the partial results had is in the final metadata or, with its last value, in the metadata
of the last partial result, and so is the request id. -/
def Kept (packs : List M) (last final : M) (requestId : Int) : Prop :=
  (∀ t v,t≠.ANDROID_REQUEST_ID → t≠.ANDROID_REQUEST_FRAME_COUNT → LastValue holds packs t v →
    (∃ u,holds final t u) ∨ holds last t v) ∧
  (packs≠[] → (∃ u,holds final .ANDROID_REQUEST_ID u) ∨
    holds last .ANDROID_REQUEST_ID [requestId])

variable {f : Nat} {requestId : Int} {packs told : List M} {last final full : M}

theorem Told.request {pack d : M} (h : Told f requestId pack d) (v : List Int) :
    holds d .ANDROID_REQUEST_ID v ↔ v=[requestId] := by
  rw [h,if_pos rfl]

theorem Told.count {pack d : M} (h : Told f requestId pack d) (v : List Int) :
    holds d .ANDROID_REQUEST_FRAME_COUNT v ↔ v=[asInt32 f] := by
  rw [h,if_neg (by simp),if_pos rfl]

theorem forall_told {P : M → Prop} (ht : List.Forall₂ (Told f requestId) packs told)
    (all : ∀ pack d,Told f requestId pack d → P d) : ∀ d∈told,P d := by
  induction ht with
  | nil => simp
  | cons first _ ih => exact List.forall_mem_cons.mpr ⟨all _ _ first,ih⟩

/-- Only the last partial result and the final metadata make the full result. -/
theorem complete_iff (ht : List.Forall₂ (Told f requestId) packs told)
    (hs : Sent f final last full) :
    Complete told final full ↔ Kept packs last final requestId := by
  have ids (v : List Int) :
      LastValue holds told .ANDROID_REQUEST_ID v ↔ told≠[] ∧ v=[requestId] :=
    lastValue_const (forall_told ht fun _ _ h => h.request)
  have counts (v : List Int) :
      LastValue holds told .ANDROID_REQUEST_FRAME_COUNT v ↔ told≠[] ∧ v=[asInt32 f] :=
    lastValue_const (forall_told ht fun _ _ h => h.count)
  have others {t : MetadataTag} (v : List Int) (ht1 : t≠.ANDROID_REQUEST_ID)
      (ht2 : t≠.ANDROID_REQUEST_FRAME_COUNT) :
      LastValue holds packs t v ↔ LastValue holds told t v := by
    refine lastValue_congr (ht.imp fun pack d h u => ?_)
    rw [h,if_neg ht1,if_neg ht2]
  have some_told : told≠[] ↔ packs≠[] := by
    rw [← List.length_pos_iff,← List.length_pos_iff,ht.length_eq]
  constructor
  · intro complete
    refine ⟨fun t v ht1 ht2 hv => ?_,fun hp => ?_⟩
    · obtain ⟨-,value⟩ := complete t v ((others v ht1 ht2).mp hv)
      by_cases carried : ∃ u,holds final t u
      · exact .inl carried
      · have sent := (hs t v).mp (value (not_exists.mp carried))
        rw [if_neg ht2] at sent
        exact sent.imp_left fun h => ⟨v,h⟩
    · obtain ⟨-,value⟩ := complete .ANDROID_REQUEST_ID [requestId]
        ((ids _).mpr ⟨some_told.mpr hp,rfl⟩)
      by_cases carried : ∃ u,holds final .ANDROID_REQUEST_ID u
      · exact .inl carried
      · have sent := (hs _ _).mp (value (not_exists.mp carried))
        rw [if_neg (by simp)] at sent
        exact sent.imp_left fun h => ⟨_,h⟩
  · rintro ⟨kept,idKept⟩ t v hv
    have found (ht2 : t≠.ANDROID_REQUEST_FRAME_COUNT)
        (h : (∃ u,holds final t u) ∨ holds last t v) :
        (∃ u,holds full t u) ∧ ((∀ u,¬holds final t u) → holds full t v) := by
      have sent (u : List Int) : holds full t u ↔ holds final t u ∨ holds last t u := by
        rw [hs,if_neg ht2]
      rcases h with ⟨u,carried⟩|kept
      · exact ⟨⟨u,(sent u).mpr (.inl carried)⟩,fun absent => absurd carried (absent u)⟩
      · have whole := (sent v).mpr (.inr kept)
        exact ⟨⟨v,whole⟩,fun _ => whole⟩
    by_cases ht2 : t=.ANDROID_REQUEST_FRAME_COUNT
    · subst ht2
      obtain ⟨-,rfl⟩ := (counts v).mp hv
      have counted : holds full .ANDROID_REQUEST_FRAME_COUNT [asInt32 f] := by
        rw [hs,if_pos rfl]
        exact .inl rfl
      exact ⟨⟨_,counted⟩,fun _ => counted⟩
    · by_cases ht1 : t=.ANDROID_REQUEST_ID
      · subst ht1
        obtain ⟨told_some,rfl⟩ := (ids v).mp hv
        exact found ht2 (idKept (some_told.mp told_some))
      · exact found ht2 (kept t v ht1 ht2 ((others v ht1 ht2).mpr hv))

end Packs

/-- Two stages of an entry with the same metadata. -/
structure SameMetadata (r q : PendingRequest M) : Prop where
  request : q.resultExtras.requestId=r.resultExtras.requestId
  present : q.isMetaPresent=r.isMetaPresent
  pending : q.pendingMetadata=r.pendingMetadata
  composed : q.composedResult=r.composedResult

theorem SameMetadata.trans {p r q : PendingRequest M} (h : SameMetadata p r)
    (h' : SameMetadata r q) : SameMetadata p q :=
  ⟨h'.request.trans h.request,h'.present.trans h.present,h'.pending.trans h.pending,
    h'.composed.trans h.composed⟩

namespace PendingRequests

section Leaves

/-- The frame's entry is gone, or has this metadata. -/
def Leaves (f : Nat) (r : PendingRequest M) (s : PendingRequests M) : Prop :=
  ∀ q,s.pendingRequests.valueFor f=some q → SameMetadata r q

variable {f : Nat} {s t : PendingRequests M} {r q : PendingRequest M}

theorem Leaves.of_entry (h : s.pendingRequests.valueFor f=some r) : Leaves f r s := by
  intro q hq
  rw [h] at hq
  cases Option.some.inj hq
  exact ⟨rfl,rfl,rfl,rfl⟩

theorem Leaves.of_pending (h : Leaves f r s)
    (same : t.pendingRequests=s.pendingRequests) : Leaves f r t := by
  intro q hq
  rw [same] at hq
  exact h q hq

theorem leaves_store (h : SameMetadata r q) : Leaves f r (s.store f q) := by
  intro q' hq
  rw [store,KeyedVector.valueFor_replaceValueFor,if_pos rfl] at hq
  cases hs : s.pendingRequests.valueFor f with
  | none => simp [hs] at hq
  | some p =>
    have eq : q=q' := by simpa [hs] using hq
    exact eq ▸ h

theorem Leaves.returnOutputBuffer (h : Leaves f r s) (b : StreamBuffer) (ts : Int) :
    Leaves f r (s.returnOutputBuffer b ts f).1 := by
  unfold PendingRequests.returnOutputBuffer
  split_ifs
  · cases entry : s.pendingRequests.valueFor f with
    | none => exact h
    | some q =>
      have same := h q entry
      exact leaves_store ⟨same.request,same.present,same.pending,same.composed⟩
  · exact h

theorem Leaves.returnOutputBuffers (h : Leaves f r s) (bs : List StreamBuffer) (ts : Int) :
    Leaves f r (s.returnOutputBuffers bs ts f).1 := by
  induction bs generalizing s with
  | nil => exact h
  | cons b bs ih => exact ih (h.returnOutputBuffer b ts)

theorem Leaves.remove (h : Leaves f r s) : Leaves f r (s.removePendingRequestLocked f).1 := by
  cases entry : s.pendingRequests.valueFor f with
  | none =>
    rw [remove_absent entry]
    exact h
  | some q =>
    cases done : q.complete with
    | false =>
      rw [remove_incomplete entry done]
      exact h
    | true =>
      intro q' hq
      rw [(remove_complete entry done).1] at hq
      cases hq

end Leaves

variable [CameraMetadata M] [MetadataLaws M] {f : Nat} {s : PendingRequests M}
  {r q : PendingRequest M} {result : CaptureResult} {md : List UInt8}

theorem sendCaptureResult_sent (supported : s.isPartialResultSupported=true) (pending : M)
    (extras : CaptureResultExtras) (collected : M) (f : Nat) :
    ∀ full∈metadatas (s.sendCaptureResult pending extras collected f).2,
      Sent f pending collected full := by
  have outcome := s.sendCaptureResult_outcome pending extras collected f
  generalize s.sendCaptureResult pending extras collected f=o at outcome ⊢
  cases outcome with
  | unsent | late | uncounted | untimed => simp
  | @sent counted filled order updated =>
    have renumbered := MetadataLaws.update _ _ _ _ updated
    intro full hfull t v
    rw [List.mem_singleton.mp hfull,fullResult,MetadataLaws.sort,← renumbered]
    simp only [supported,true_and]
    split_ifs with has
    · exact MetadataLaws.append _ _ _ _
    · have none_collected := (MetadataLaws.isEmpty collected).mp (by simpa using has)
      exact (or_iff_left (none_collected t v)).symm

theorem handlePartialResult_told (s : PendingRequests M) (f : Nat) (pack : M)
    (extras : CaptureResultExtras) :
    ∀ told∈metadatas (s.handlePartialResult f pack extras).2,Told f extras.requestId pack told := by
  unfold handlePartialResult
  split_ifs
  · cases counted : CameraMetadata.update pack .ANDROID_REQUEST_FRAME_COUNT (asInt32 f) with
    | none => simp
    | some m =>
      dsimp only
      cases named : CameraMetadata.update m .ANDROID_REQUEST_ID extras.requestId with
      | none => simp
      | some d =>
        intro told ht t v
        rw [List.mem_singleton.mp ht,MetadataLaws.update _ _ _ _ named,
          MetadataLaws.update _ _ _ _ counted]
  · simp

omit [MetadataLaws M] in
theorem sendCaptureResult_leaves {p : PendingRequest M} (h : Leaves f p s) (pending : M)
    (extras : CaptureResultExtras) (collected : M) :
    Leaves f p (s.sendCaptureResult pending extras collected f).1 :=
  h.of_pending (s.sendCaptureResult_pending pending extras collected f)

omit [MetadataLaws M] in
theorem deliverResult_leaves {p : PendingRequest M} (s : PendingRequests M) (collected : M)
    (isFinal : Bool)
    (h : SameMetadata p ((r.noteSensorTimestamp result).hold result md isFinal collected)) :
    Leaves result.frameNumber p (s.deliverResult r collected result md isFinal).1 := by
  unfold deliverResult
  have stored := leaves_store (s := s) (f := result.frameNumber) h
  refine Leaves.remove ?_
  split_ifs
  · exact (sendCaptureResult_leaves stored _ _ _).returnOutputBuffers _ _
  · exact stored.returnOutputBuffers _ _
  · exact sendCaptureResult_leaves stored _ _ _
  · exact stored

theorem deliverResult_sent (supported : s.isPartialResultSupported=true) (collected : M)
    (isFinal : Bool) : ∀ full∈metadatas (s.deliverResult r collected result md isFinal).2,
      isFinal=true ∧ Sent result.frameNumber (CameraMetadata.ofRaw md) collected full := by
  have removed (t : PendingRequests M) :
      metadatas (t.removePendingRequestLocked result.frameNumber).2=[] :=
    metadatas_of_results (t.remove_results _)
  have returned (t : PendingRequests M) : metadatas (t.returnOutputBuffers result.outputBuffers
      r.shutterTS result.frameNumber).2=[] :=
    metadatas_of_results (t.returnOutputBuffers_results _ _ _)
  unfold deliverResult
  simp only [metadatas_append,removed,List.append_nil]
  have back (t : PendingRequests M) : metadatas (if 0 < r.shutterTS then t.returnOutputBuffers
      result.outputBuffers r.shutterTS result.frameNumber else (t,[])).2=[] := by
    split_ifs
    · exact returned t
    · rfl
  rw [back,List.append_nil]
  intro full hfull
  split_ifs at hfull with final
  · refine ⟨final.1,sendCaptureResult_sent ?_ _ _ _ _ full hfull⟩
    exact supported
  · cases hfull

omit [MetadataLaws M] in
theorem hold_early (r : PendingRequest M) (result : CaptureResult) (md : List UInt8)
    (collected : M) :
    SameMetadata r ((r.noteSensorTimestamp result).hold result md false collected) := by
  unfold PendingRequest.noteSensorTimestamp PendingRequest.hold
  split
  all_goals
    simp only [Bool.false_eq_true,if_false]
    split_ifs <;> exact ⟨rfl,rfl,rfl,rfl⟩

/-- The final metadata waits for the shutter, or is sent. -/
def Holds (md : List UInt8) (collected : M) (r q : PendingRequest M) : Prop :=
  q.resultExtras.requestId=r.resultExtras.requestId ∧ (q.pendingMetadata=r.pendingMetadata ∨
    q.pendingMetadata=CameraMetadata.appendRaw CameraMetadata.empty md ∧
      ∀ t v,holds q.composedResult t v ↔ holds collected t v)

theorem Holds.same {p : PendingRequest M} {c : M} (h : Holds md c r p) (same : SameMetadata p q) :
    Holds md c r q := by
  refine ⟨same.request.trans h.1,?_⟩
  rw [same.pending,same.composed]
  exact h.2

theorem hold_final (r : PendingRequest M) (result : CaptureResult) (md : List UInt8)
    (collected : M) :
    Holds md collected r ((r.noteSensorTimestamp result).hold result md true collected) := by
  unfold PendingRequest.noteSensorTimestamp PendingRequest.hold
  split
  all_goals
    simp only [if_true]
    split_ifs
    · exact ⟨rfl,.inr ⟨rfl,fun t v => Iff.rfl⟩⟩
    · exact ⟨rfl,.inl rfl⟩

/-- The entry after a partial result, or a result with buffers alone: the metadata that was composed
before is cleared. -/
def composed (r : PendingRequest M) (result : CaptureResult) : PendingRequest M :=
  if result.result=[] then r
  else { r with composedResult := CameraMetadata.appendRaw CameraMetadata.empty result.result }

theorem composePartial_early (supported : s.isPartialResultSupported=true)
    (range : s.PartialInRange result) (early : s.carriesFinal result=false)
    (r : PendingRequest M) :
    ∃ q told,s.composePartial r result=.ok (q,decide (result.result≠[]),told) ∧
      SameMetadata (composed r result) q ∧ (result.result=[] → told=[]) ∧
      ∀ d∈metadatas told,Told result.frameNumber r.resultExtras.requestId
        (CameraMetadata.appendRaw CameraMetadata.empty result.result) d := by
  have outcome := s.composePartial_outcome r result
  generalize s.composePartial r result=o at outcome ⊢
  cases outcome with
  | outOfRange outside => exact absurd range outside
  | told _ partly packed tells =>
    subst packed tells
    have has := partly.2.1
    rw [composed,if_neg has,decide_eq_true (p := result.result≠[]) has]
    exact ⟨_,_,rfl,⟨rfl,rfl,rfl,rfl⟩,fun empty => absurd empty has,s.handlePartialResult_told _ _ _⟩
  | kept _ late =>
    have bare : result.result=[] := by
      by_contra has
      have below : result.partialResult < s.partialResultCount := by
        simpa [carriesFinal,has,supported] using early
      exact late ⟨supported,has,below⟩
    rw [composed,if_pos bare]
    exact ⟨r,[],by simp [bare],⟨rfl,rfl,rfl,rfl⟩,fun _ => rfl,by simp⟩

omit [CameraMetadata M] [MetadataLaws M] in
theorem notePartialCount_metadata (r : PendingRequest M) (result : CaptureResult) :
    SameMetadata r (r.notePartialCount result) := by
  unfold PendingRequest.notePartialCount
  split_ifs <;> exact ⟨rfl,rfl,rfl,rfl⟩

theorem processResult_early (supported : s.isPartialResultSupported=true)
    (range : s.PartialInRange result) (early : s.carriesFinal result=false)
    (r : PendingRequest M) (md : List UInt8) :
    Leaves result.frameNumber (composed r result) (s.processResult r result md).1 ∧
      (result.result=[] → metadatas (s.processResult r result md).2=[]) ∧
      ∀ d∈metadatas (s.processResult r result md).2,
        Told result.frameNumber r.resultExtras.requestId
          (CameraMetadata.appendRaw CameraMetadata.empty result.result) d := by
  have noted := notePartialCount_metadata r result
  obtain ⟨q,told,compose,same,silent,all⟩ :=
    composePartial_early supported range early (r.notePartialCount result)
  rw [noted.request] at all
  have kept : SameMetadata (composed r result) (q.countBuffers result) := by
    refine SameMetadata.trans ?_ (same.trans ⟨rfl,rfl,rfl,rfl⟩)
    unfold composed
    split_ifs
    · exact noted
    · exact ⟨noted.request,noted.present,noted.pending,rfl⟩
  unfold processResult
  simp only [compose,ne_eq,decide_not,Bool.and_not_self,Bool.false_eq_true,false_and,if_false]
  have unsent : metadatas (s.deliverResult (q.countBuffers result) CameraMetadata.empty result md
      false).2=[] := by
    rw [List.eq_nil_iff_forall_not_mem]
    intro full hfull
    have final := (deliverResult_sent supported CameraMetadata.empty false full hfull).1
    cases final
  split_ifs with negative
  · refine ⟨leaves_store kept,fun empty => ?_,?_⟩
    · simp [silent empty]
    · simpa using all
  · refine ⟨deliverResult_leaves s _ false (kept.trans (hold_early _ _ _ _)),fun empty => ?_,?_⟩
    · simp [silent empty,unsent]
    · simpa [unsent] using all

/-- What is collected is what was composed, or both are empty. -/
theorem acceptMetadata_collects (supported : s.isPartialResultSupported=true)
    (r : PendingRequest M) : (s.acceptMetadata r).1.resultExtras=r.resultExtras ∧
      (s.acceptMetadata r).1.pendingMetadata=r.pendingMetadata ∧
      ∀ t v,holds (s.acceptMetadata r).2 t v ↔ holds r.composedResult t v := by
  unfold acceptMetadata
  split_ifs with has
  · exact ⟨rfl,rfl,fun t v => Iff.rfl⟩
  · have empty : CameraMetadata.isEmpty r.composedResult=true := by simpa [supported] using has
    refine ⟨rfl,rfl,fun t v => ?_⟩
    exact iff_of_false (MetadataLaws.empty t v) ((MetadataLaws.isEmpty _).mp empty t v)

omit [MetadataLaws M] in
theorem composePartial_final (supported : s.isPartialResultSupported=true)
    (range : s.PartialInRange result) (final : s.carriesFinal result=true)
    (r : PendingRequest M) :
    result.result≠[] ∧ s.composePartial r result=.ok (r,false,[]) := by
  obtain ⟨has,whole⟩ : result.result≠[] ∧ s.partialResultCount ≤ result.partialResult := by
    simpa [carriesFinal,supported] using final
  have outcome := s.composePartial_outcome r result
  generalize s.composePartial r result=o at outcome ⊢
  cases outcome with
  | outOfRange outside => exact absurd range outside
  | told _ early => exact absurd early.2.2 (not_lt.mpr whole)
  | kept => exact ⟨has,rfl⟩

theorem processResult_final (supported : s.isPartialResultSupported=true)
    (range : s.PartialInRange result) (final : s.carriesFinal result=true)
    (r : PendingRequest M) (md : List UInt8) :
    (∀ q,(s.processResult r result md).1.pendingRequests.valueFor result.frameNumber=some q →
      Holds md r.composedResult r q) ∧
      ∀ full∈metadatas (s.processResult r result md).2,
        Sent result.frameNumber (CameraMetadata.ofRaw md) r.composedResult full := by
  have noted := notePartialCount_metadata r result
  obtain ⟨has,compose⟩ := composePartial_final supported range final (r.notePartialCount result)
  obtain ⟨extras,pending,collects⟩ := acceptMetadata_collects supported (r.notePartialCount result)
  rw [noted.composed] at collects
  unfold processResult
  simp only [compose,has,ne_eq,not_false_eq_true,decide_true,Bool.not_false,Bool.and_self,
    true_and,if_true,List.nil_append]
  have stays {p : PendingRequest M} (request : p.resultExtras.requestId=r.resultExtras.requestId)
      (same : p.pendingMetadata=r.pendingMetadata) {q : PendingRequest M}
      (hq : (s.store result.frameNumber p).pendingRequests.valueFor result.frameNumber=some q) :
      Holds md r.composedResult r q := by
    have eq := leaves_store (r := p) (q := p) ⟨rfl,rfl,rfl,rfl⟩ q hq
    exact ⟨eq.request.trans request,.inl (eq.pending.trans same)⟩
  split_ifs with several negative
  · exact ⟨fun q hq => stays noted.request noted.pending hq,by simp⟩
  · refine ⟨fun q hq => stays (p := PendingRequest.countBuffers _ result) ?_ ?_ hq,by simp⟩
    · exact (congrArg _ extras).trans noted.request
    · exact pending.trans noted.pending
  · refine ⟨fun q hq => ?_,fun full hfull => ?_⟩
    · obtain ⟨request,held⟩ := (hold_final _ result md _).same
        (deliverResult_leaves s _ true ⟨rfl,rfl,rfl,rfl⟩ q hq)
      refine ⟨request.trans ((congrArg _ extras).trans noted.request),?_⟩
      rcases held with same|⟨waits,entries⟩
      · exact .inl (same.trans (pending.trans noted.pending))
      · exact .inr ⟨waits,fun t v => (entries t v).trans (collects t v)⟩
    · have sent := (deliverResult_sent supported _ true full hfull).2
      intro t v
      rw [sent,collects]

/-- The metadata that HandleCaptureResult reads for a result from the queue. -/
def resultBytes (s : PendingRequests M) (result : CaptureResult) : List UInt8 :=
  match s.readResultMetadata result.fmqResultSize with
  | .ok (_,bytes) => bytes
  | .error _ => []

omit [MetadataLaws M] in
theorem handleCaptureResult_absent (h : s.pendingRequests.valueFor result.frameNumber=none) :
    (s.handleCaptureResult result).1.pendingRequests.valueFor result.frameNumber=none ∧
      metadatas (s.handleCaptureResult result).2=[] := by
  rcases s.handleCaptureResult_cases result with
    ⟨-,-,eq⟩|⟨-,⟨-,e,eq⟩|⟨queue,md,-,⟨-,-,eq⟩|⟨-,-,eq⟩|⟨r,hr,-⟩⟩⟩
  · rw [eq]
    exact ⟨h,rfl⟩
  · rw [eq]
    exact ⟨h,rfl⟩
  · rw [eq]
    exact ⟨h,rfl⟩
  · rw [eq]
    exact ⟨h,rfl⟩
  · rw [h] at hr
    cases hr

theorem handleCaptureResult_early (supported : s.isPartialResultSupported=true)
    (range : s.PartialInRange result) (early : s.carriesFinal result=false)
    (inline : result.result≠[] → result.fmqResultSize=0)
    (h : s.pendingRequests.valueFor result.frameNumber=some r) :
    Leaves result.frameNumber (composed r result) (s.handleCaptureResult result).1 ∧
      (result.result=[] → metadatas (s.handleCaptureResult result).2=[]) ∧
      ∀ d∈metadatas (s.handleCaptureResult result).2,
        Told result.frameNumber r.resultExtras.requestId
          (CameraMetadata.appendRaw CameraMetadata.empty result.result) d := by
  have bare (hb : result.result=[]) : Leaves result.frameNumber (composed r result) s := by
    rw [composed,if_pos hb]
    exact .of_entry h
  rcases s.handleCaptureResult_cases result with
    ⟨hb,-,eq⟩|⟨-,⟨unread,e,eq⟩|⟨queue,md,-,⟨absent,-,-⟩|⟨absent,-,-⟩|⟨q,hq,eq⟩⟩⟩
  · rw [eq]
    exact ⟨bare hb,fun _ => rfl,by simp⟩
  · have hb : result.result=[] := by
      by_contra hb
      exact unread ⟨by simp [supported],.inl (inline hb)⟩
    rw [eq]
    exact ⟨bare hb,fun _ => rfl,by simp⟩
  · rw [h] at absent
    cases absent
  · rw [h] at absent
    cases absent
  · rw [h] at hq
    cases Option.some.inj hq
    rw [eq]
    exact processResult_early (s := { s with resultMetadataQueue := queue }) supported range early
      r md

theorem handleCaptureResult_final (supported : s.isPartialResultSupported=true)
    (range : s.PartialInRange result) (final : s.carriesFinal result=true)
    (h : s.pendingRequests.valueFor result.frameNumber=some r) :
    (∀ q,(s.handleCaptureResult result).1.pendingRequests.valueFor result.frameNumber=some q →
      Holds (s.resultBytes result) r.composedResult r q) ∧
      ∀ full∈metadatas (s.handleCaptureResult result).2,
        Sent result.frameNumber (CameraMetadata.ofRaw (s.resultBytes result)) r.composedResult
          full := by
  have stays (q : PendingRequest M)
      (hq : s.pendingRequests.valueFor result.frameNumber=some q) :
      Holds (s.resultBytes result) r.composedResult r q := by
    rw [h] at hq
    cases Option.some.inj hq
    exact ⟨rfl,.inl rfl⟩
  rcases s.handleCaptureResult_cases result with
    ⟨-,-,eq⟩|⟨-,⟨-,e,eq⟩|⟨queue,md,read,⟨absent,-,-⟩|⟨absent,-,-⟩|⟨q,hq,eq⟩⟩⟩
  · rw [eq]
    exact ⟨stays,by simp⟩
  · rw [eq]
    exact ⟨stays,by simp⟩
  · rw [h] at absent
    cases absent
  · rw [h] at absent
    cases absent
  · rw [h] at hq
    cases Option.some.inj hq
    have bytes : s.resultBytes result=md := by rw [resultBytes,read]
    rw [eq,bytes]
    exact processResult_final (s := { s with resultMetadataQueue := queue }) supported range final
      r md

theorem notifyShutter_metadata (supported : s.isPartialResultSupported=true) (ts : Int)
    (h : s.pendingRequests.valueFor f=some r) :
    Leaves f r (s.notifyShutter f ts).1 ∧
      (CameraMetadata.isEmpty r.pendingMetadata=true → metadatas (s.notifyShutter f ts).2=[]) ∧
      ∀ full∈metadatas (s.notifyShutter f ts).2,
        Sent f r.pendingMetadata r.composedResult full := by
  have called : metadatas (s.shutterCalled r.resultExtras ts)=[] := by
    unfold shutterCalled
    split_ifs <;> rfl
  by_cases late : f < s.expectedShutter r.resultExtras.input
  · rw [notifyShutter_late h late]
    refine ⟨.of_entry h,?_,?_⟩ <;> simp [called]
  rw [notifyShutter_passed h late]
  let noted := s.noteShutter r f ts
  let sent := noted.sendCaptureResult r.pendingMetadata r.resultExtras r.composedResult f
  let out := sent.1.returnOutputBuffers r.pendingBuffers ts f
  let q := (out.1.pendingRequests.valueFor f).getD r
  let stored := out.1.store f { q with pendingBuffers := [] }
  let removed := stored.removePendingRequestLocked f
  let told := s.shutterCalled r.resultExtras ts++(sent.2++(out.2++removed.2))
  show Leaves f r removed.1 ∧ (_ → metadatas told=[]) ∧ ∀ full∈metadatas told,_
  have shutter : Leaves f r noted := leaves_store ⟨rfl,rfl,rfl,rfl⟩
  have kept : Leaves f r out.1 := (sendCaptureResult_leaves shutter _ _ _).returnOutputBuffers _ _
  have same : SameMetadata r q := by
    cases entry : out.1.pendingRequests.valueFor f with
    | none =>
      have eq : q=r := by simp [q,entry]
      exact eq ▸ ⟨rfl,rfl,rfl,rfl⟩
    | some p =>
      have eq : q=p := by simp [q,entry]
      exact eq ▸ kept p entry
  have only_sent : metadatas told=metadatas sent.2 := by
    have returned := metadatas_of_results (sent.1.returnOutputBuffers_results r.pendingBuffers ts f)
    have gone := metadatas_of_results (stored.remove_results f)
    simp only [told,metadatas_append,called,List.nil_append]
    rw [returned,gone,List.append_nil,List.append_nil]
  have passed : noted.isPartialResultSupported=true := by
    obtain ⟨a,b,eq⟩ := s.passShutter_rest r.resultExtras.input f
    have rest : (s.passShutter r.resultExtras.input f).isPartialResultSupported=true := by
      rw [eq]
      exact supported
    exact rest
  have stays : Leaves f r stored :=
    leaves_store ⟨same.request,same.present,same.pending,same.composed⟩
  refine ⟨stays.remove,?_,?_⟩
  · intro empty
    rw [only_sent]
    simp [sent,PendingRequests.sendCaptureResult,empty]
  · rw [only_sent]
    exact sendCaptureResult_sent passed _ _ _ _

omit [CameraMetadata M] [MetadataLaws M] in
theorem notifyError_entry (code : ErrorCode)
    (h : (s.notifyError code f).1.pendingRequests.valueFor f=some q) :
    ∃ r,s.pendingRequests.valueFor f=some r ∧ SameMetadata r q := by
  by_cases perFrame : code.perFrame
  · obtain ⟨told,-,-,eq⟩ := s.notifyError_perFrame perFrame f
    rw [eq] at h
    cases entry : s.pendingRequests.valueFor f with
    | none => simp [entry] at h
    | some r =>
      simp only [entry] at h
      have same : SameMetadata r { r with status := some code } := ⟨rfl,rfl,rfl,rfl⟩
      exact ⟨r,rfl,leaves_store same q h⟩
  · cases code with
    | ERROR_DEVICE | other => exact ⟨q,h,rfl,rfl,rfl,rfl⟩
    | ERROR_REQUEST | ERROR_RESULT | ERROR_BUFFER =>
      exact absurd (by simp [ErrorCode.perFrame]) perFrame

/-- The frame that a message is about. -/
def messageFrame : HalMessage → Option Nat
  | .markPendingRequest g _ _ | .shutter g _ | .error _ g => some g
  | .captureResult result => some result.frameNumber
  | .writeMetadata _ | .flush _ => none

omit [MetadataLaws M] in
/-- A message about another frame leaves the entry as it is. -/
theorem receive_other {msg : HalMessage} (other : messageFrame msg≠some f) :
    (s.receive msg).1.pendingRequests.valueFor f=s.pendingRequests.valueFor f := by
  have ne {g : Nat} (hg : some g≠some f) : f≠g := fun eq => hg (congrArg _ eq.symm)
  cases msg with
  | markPendingRequest g n extras => exact emplace_other _ _ (ne other)
  | shutter g ts => exact (s.notifyShutter_touches g ts).pending f (ne other)
  | captureResult result => exact (s.handleCaptureResult_touches result).pending f (ne other)
  | error code g =>
    by_cases perFrame : code.perFrame
    · exact (s.notifyError_touches perFrame g).pending f (ne other)
    · cases code with
      | ERROR_DEVICE | other => rfl
      | ERROR_REQUEST | ERROR_RESULT | ERROR_BUFFER =>
        exact absurd (by simp [ErrorCode.perFrame]) perFrame
  | writeMetadata | flush => rfl

omit [MetadataLaws M] in
theorem receive_supported (msg : HalMessage) :
    (s.receive msg).1.isPartialResultSupported=s.isPartialResultSupported := by
  have of_config {t : PendingRequests M} (h : t.config=s.config) :
      t.isPartialResultSupported=s.isPartialResultSupported := congrArg (fun c => c.2.1) h
  cases msg with
  | shutter g ts => exact of_config (s.notifyShutter_touches g ts).config
  | captureResult result => exact of_config (s.handleCaptureResult_touches result).config
  | error code g =>
    by_cases perFrame : code.perFrame
    · exact of_config (s.notifyError_touches perFrame g).config
    · cases code with
      | ERROR_DEVICE | other => rfl
      | ERROR_REQUEST | ERROR_RESULT | ERROR_BUFFER =>
        exact absurd (by simp [ErrorCode.perFrame]) perFrame
  | markPendingRequest | writeMetadata | flush => rfl

end PendingRequests

/-- The client, and what the client gets for one frame: `packs` are the metadata of the partial
results told to it, as the HAL sent them, and `last` those of the last partial result. -/
structure PartialLog (M : Type) where
  client : PendingRequests M
  last : M
  packs : List M := []
  told : List M := []
  /-- The bytes of the final metadata, once they have come. -/
  final : Option (List UInt8) := none
  full : List M := []

namespace PartialLog

open PendingRequests

variable [CameraMetadata M]

def next (f : Nat) (w : PartialLog M) : HalMessage → PartialLog M
  | .captureResult result =>
    let out := w.client.handleCaptureResult result
    if result.frameNumber≠f then { w with client := out.1 }
    else if w.client.carriesFinal result then
      { w with
        client := out.1
        final := some (w.client.resultBytes result)
        full := w.full++metadatas out.2 }
    else
      let pack := CameraMetadata.appendRaw CameraMetadata.empty result.result
      { w with
        client := out.1
        last := if result.result=[] then w.last else pack
        packs := w.packs++(metadatas out.2).map fun _ => pack
        told := w.told++metadatas out.2 }
  | .shutter g ts =>
    let out := w.client.notifyShutter g ts
    { w with
      client := out.1
      full := if g=f then w.full++metadatas out.2 else w.full }
  | msg => { w with client := (w.client.receive msg).1 }

/-- Partial results, with metadata inline, come before the final result of the frame; shutters,
buffers, errors and what is of other frames may come at any time. -/
def Sequenced (f : Nat) (w : PartialLog M) : HalMessage → Prop
  | .captureResult result => result.frameNumber=f → w.client.PartialInRange result ∧
    (w.client.carriesFinal result=false → result.result≠[] → result.fmqResultSize=0) ∧
      (w.final≠none → result.result=[])
  | .markPendingRequest g _ _ => g≠f
  | _ => True

def Step (f : Nat) (w : PartialLog M) (msg : HalMessage) (w' : PartialLog M) : Prop :=
  w.Sequenced f msg ∧ w'=w.next f msg

/-- The frame has just been registered. -/
def registered (s : PendingRequests M) (f : Nat) (n : Int) (extras : CaptureResultExtras) :
    PartialLog M where
  client := s.markPendingRequest f n extras
  last := CameraMetadata.empty

variable [MetadataLaws M]

/-- What the frame's entry keeps: before the final metadata those of the last partial result, after
them what is still to be sent. -/
def Keeping (id : Int) (w : PartialLog M) (r : PendingRequest M) : Prop :=
  r.resultExtras.requestId=id ∧ match w.final with
    | none => CameraMetadata.isEmpty r.pendingMetadata=true ∧ r.composedResult=w.last
    | some md => CameraMetadata.isEmpty r.pendingMetadata=true ∨
      r.pendingMetadata=CameraMetadata.appendRaw CameraMetadata.empty md ∧
        ∀ t v,holds r.composedResult t v ↔ holds w.last t v

structure Inv (f : Nat) (id : Int) (w : PartialLog M) : Prop where
  supported : w.client.isPartialResultSupported=true
  told : List.Forall₂ (Told f id) w.packs w.told
  entry : ∀ r,w.client.pendingRequests.valueFor f=some r → Keeping id w r
  full : ∀ full∈w.full,∃ md,w.final=some md ∧ Sent f (CameraMetadata.ofRaw md) w.last full

variable {f : Nat} {id : Int} {w w' : PartialLog M} {msg : HalMessage}

theorem Keeping.same {r q : PendingRequest M} (h : Keeping id w r) (same : SameMetadata r q) :
    Keeping id w q := by
  unfold Keeping
  rw [same.request,same.pending,same.composed]
  exact h

/-- Only the client has changed, and not the metadata of the entry. -/
theorem Inv.client (h : Inv f id w) {s : PendingRequests M}
    (supported : s.isPartialResultSupported=true)
    (entry : ∀ q,s.pendingRequests.valueFor f=some q →
      ∃ r,w.client.pendingRequests.valueFor f=some r ∧ SameMetadata r q) :
    Inv f id { w with client := s } := by
  refine ⟨supported,h.told,fun q hq => ?_,h.full⟩
  obtain ⟨r,hr,same⟩ := entry q hq
  exact (h.entry r hr).same same

omit [MetadataLaws M] in
theorem next_other (other : messageFrame msg≠some f) :
    w.next f msg={ w with client := (w.client.receive msg).1 } := by
  cases msg with
  | captureResult result =>
    have ne : result.frameNumber≠f := fun eq => other (congrArg _ eq)
    simp only [next,if_pos ne]
    rfl
  | shutter g ts =>
    have ne : g≠f := fun eq => other (congrArg _ eq)
    simp only [next,if_neg ne]
    rfl
  | markPendingRequest | error | writeMetadata | flush => rfl

theorem shutter_inv (h : Inv f id w) (ts : Int) : Inv f id (w.next f (.shutter f ts)) := by
  have supported : (w.client.notifyShutter f ts).1.isPartialResultSupported=true :=
    (w.client.receive_supported (.shutter f ts)).trans h.supported
  simp only [next,if_true]
  cases entry : w.client.pendingRequests.valueFor f with
  | none =>
    rw [notifyShutter_absent entry]
    simpa using h
  | some r =>
    obtain ⟨leaves,unsent,sent⟩ := notifyShutter_metadata h.supported ts entry
    have kept := h.client supported fun q hq => ⟨r,entry,leaves q hq⟩
    refine ⟨supported,h.told,kept.entry,fun full hfull => ?_⟩
    rcases List.mem_append.mp hfull with old|new
    · exact h.full full old
    · obtain ⟨-,keeps⟩ := h.entry r entry
      cases final : w.final with
      | none =>
        rw [final] at keeps
        rw [unsent keeps.1] at new
        cases new
      | some md =>
        rw [final] at keeps
        rcases keeps with empty|⟨waits,collects⟩
        · rw [unsent empty] at new
          cases new
        · refine ⟨md,rfl,fun t v => ?_⟩
          have whole := sent full new t v
          rw [waits,collects,MetadataLaws.appendRaw] at whole
          rw [whole]
          simp [MetadataLaws.empty]

omit [MetadataLaws M] in
/-- The metadata of the last partial result after a result without final metadata. -/
theorem last_composed {r : PendingRequest M} {result : CaptureResult}
    (h : r.composedResult=w.last) : (composed r result).composedResult=
      if result.result=[] then w.last
      else CameraMetadata.appendRaw CameraMetadata.empty result.result := by
  unfold composed
  split_ifs
  · exact h
  · rfl

theorem early_inv {result : CaptureResult} (h : Inv f id w) (same : result.frameNumber=f)
    (range : w.client.PartialInRange result) (early : w.client.carriesFinal result=false)
    (inline : result.result≠[] → result.fmqResultSize=0)
    (before : w.final≠none → result.result=[]) :
    Inv f id (w.next f (.captureResult result)) := by
  subst same
  have supported : (w.client.handleCaptureResult result).1.isPartialResultSupported=true :=
    (w.client.receive_supported (.captureResult result)).trans h.supported
  simp only [next,ne_eq,not_true_eq_false,if_false,early,Bool.false_eq_true]
  have sent : ∀ full∈w.full,∃ md,w.final=some md ∧ Sent result.frameNumber
      (CameraMetadata.ofRaw md) (if result.result=[] then w.last
        else CameraMetadata.appendRaw CameraMetadata.empty result.result) full := by
    intro full hfull
    obtain ⟨md,final,whole⟩ := h.full full hfull
    rw [if_pos (before (by simp [final]))]
    exact ⟨md,final,whole⟩
  cases entry : w.client.pendingRequests.valueFor result.frameNumber with
  | none =>
    obtain ⟨gone,unsent⟩ := handleCaptureResult_absent entry
    refine ⟨supported,?_,fun q hq => ?_,sent⟩
    · simpa [unsent] using h.told
    · rw [gone] at hq
      cases hq
  | some r =>
    obtain ⟨leaves,-,told⟩ := handleCaptureResult_early h.supported range early inline entry
    obtain ⟨rfl,keeps⟩ := h.entry r entry
    refine ⟨supported,?_,fun q hq => ?_,sent⟩
    · refine List.rel_append h.told ?_
      rw [List.forall₂_map_left_iff,List.forall₂_same]
      exact told
    · refine Keeping.same (r := composed r result) ⟨?_,?_⟩ (leaves q hq)
      · unfold composed
        split_ifs <;> rfl
      · cases final : w.final with
        | none =>
          rw [final] at keeps
          refine ⟨?_,last_composed keeps.2⟩
          unfold composed
          split_ifs <;> exact keeps.1
        | some md =>
          rw [final] at keeps
          have bare := before (by simp [final])
          simpa only [composed,if_pos bare] using keeps

theorem final_inv {result : CaptureResult} (h : Inv f id w) (same : result.frameNumber=f)
    (range : w.client.PartialInRange result) (final : w.client.carriesFinal result=true)
    (before : w.final=none) :
    Inv f id (w.next f (.captureResult result)) := by
  subst same
  have supported : (w.client.handleCaptureResult result).1.isPartialResultSupported=true :=
    (w.client.receive_supported (.captureResult result)).trans h.supported
  have unsent : w.full=[] := by
    rw [List.eq_nil_iff_forall_not_mem]
    intro full hfull
    obtain ⟨md,late,-⟩ := h.full full hfull
    rw [before] at late
    cases late
  simp only [next,ne_eq,not_true_eq_false,if_false,final,if_true,unsent,List.nil_append]
  cases entry : w.client.pendingRequests.valueFor result.frameNumber with
  | none =>
    obtain ⟨gone,nothing⟩ := handleCaptureResult_absent entry
    refine ⟨supported,h.told,fun q hq => ?_,by simp [nothing]⟩
    rw [gone] at hq
    cases hq
  | some r =>
    obtain ⟨leaves,sent⟩ := handleCaptureResult_final h.supported range final entry
    obtain ⟨rfl,keeps⟩ := h.entry r entry
    rw [before] at keeps
    refine ⟨supported,h.told,fun q hq => ?_,fun full hfull => ⟨_,rfl,?_⟩⟩
    · obtain ⟨request,held⟩ := leaves q hq
      refine ⟨request,?_⟩
      rcases held with same|⟨waits,collects⟩
      · exact .inl (by rw [same]; exact keeps.1)
      · exact .inr ⟨waits,by rw [← keeps.2]; exact collects⟩
    · rw [← keeps.2]
      exact sent full hfull

theorem step_inv (h : Inv f id w) (step : Step f w msg w') : Inv f id w' := by
  obtain ⟨sequenced,rfl⟩ := step
  have supported := (w.client.receive_supported msg).trans h.supported
  by_cases other : messageFrame msg≠some f
  · rw [next_other other]
    refine h.client supported fun q hq => ⟨q,?_,⟨rfl,rfl,rfl,rfl⟩⟩
    rw [← receive_other other]
    exact hq
  · have about := not_not.mp other
    cases msg with
    | markPendingRequest g n extras => exact absurd (Option.some.inj about) sequenced
    | shutter g ts =>
      obtain rfl := Option.some.inj about
      exact shutter_inv h ts
    | captureResult result =>
      have same := Option.some.inj about
      obtain ⟨range,inline,before⟩ := sequenced same
      cases final : w.client.carriesFinal result with
      | false => exact early_inv h same range final (inline final) before
      | true =>
        refine final_inv h same range final ?_
        by_contra late
        have has : result.result≠[] := by
          intro bare
          simp [carriesFinal,bare] at final
        exact has (before late)
    | error code g =>
      obtain rfl := Option.some.inj about
      exact h.client supported fun q hq => notifyError_entry code hq
    | writeMetadata | flush => cases about

theorem registered_inv {s : PendingRequests M} (supported : s.isPartialResultSupported=true)
    (fresh : s.pendingRequests.valueFor f=none) (n : Int) (extras : CaptureResultExtras) :
    Inv f extras.requestId (registered s f n extras) := by
  refine ⟨supported,.nil,fun r hr => ?_,fun _ hfull => by cases hfull⟩
  have eq : PendingRequest.construct n extras=r := by
    simpa [registered,markPendingRequest,emplace,fresh] using hr
  rw [← eq]
  exact ⟨rfl,(MetadataLaws.isEmpty _).mpr MetadataLaws.empty,rfl⟩

/-- Whatever comes for the frame and in whatever order, a full result that the client gets is made
of the final metadata, and it has all that the partial results have told exactly when the last of
them and the final metadata have it. -/
theorem full_complete_iff {s : PendingRequests M} (supported : s.isPartialResultSupported=true)
    (fresh : s.pendingRequests.valueFor f=none) {n : Int} {extras : CaptureResultExtras}
    {messages : List HalMessage} (hr : Run (Step f) (registered s f n extras) messages w) :
    ∀ full∈w.full,∃ md,w.final=some md ∧ (Complete w.told (CameraMetadata.ofRaw md) full ↔
      Kept w.packs w.last (CameraMetadata.ofRaw md) extras.requestId) := by
  have inv : Inv f extras.requestId w :=
    hr.invariant (fun t msg u ht step => step_inv ht step) (registered_inv supported fresh n extras)
  intro full hfull
  obtain ⟨md,final,sent⟩ := inv.full full hfull
  exact ⟨md,final,complete_iff inv.told sent⟩

end PartialLog

/-- A metadata pack with one value a tag, whose raw buffer is a sequence of tags and values. -/
structure TaggedMetadata where
  entries : List (MetadataTag × Int)
  deriving DecidableEq

namespace TaggedMetadata

def tagOf : UInt8 → MetadataTag
  | 0 => .ANDROID_SENSOR_TIMESTAMP
  | 1 => .ANDROID_REQUEST_ID
  | 2 => .ANDROID_REQUEST_FRAME_COUNT
  | b => .other b.toNat

def ofRaw : List UInt8 → List (MetadataTag × Int)
  | tag::b::raw => (tagOf tag,b.toNat)::ofRaw raw
  | _ => []

instance : CameraMetadata TaggedMetadata where
  empty := ⟨[]⟩
  isEmpty m := m.entries.isEmpty
  ofRaw raw := ⟨ofRaw raw⟩
  append m n := ⟨m.entries++n.entries⟩
  appendRaw m raw := ⟨m.entries++ofRaw raw⟩
  update m tag value := some ⟨m.entries.filter (fun e => e.1≠tag)++[(tag,value)]⟩
  sort m := m
  find m tag := PlainMetadata.values m.entries tag
  findRaw raw tag := if raw=[] then none else
    match PlainMetadata.values (ofRaw raw) tag with
    | [] => none
    | v => some v

instance : MetadataLaws TaggedMetadata where
  holds m t v := ∃ x,v=[x] ∧ (t,x)∈m.entries
  empty t v := by simp [CameraMetadata.empty]
  isEmpty m := by
    simp only [CameraMetadata.isEmpty,List.isEmpty_iff,List.eq_nil_iff_forall_not_mem]
    exact ⟨fun none t v ⟨x,_,hx⟩ => none _ hx,fun none e he => none e.1 [e.2] ⟨_,rfl,he⟩⟩
  append m n t v := by simp [CameraMetadata.append,and_or_left,exists_or]
  appendRaw m raw t v := by
    simp [CameraMetadata.appendRaw,CameraMetadata.ofRaw,and_or_left,exists_or]
  update m n tag x h t v := by
    cases h
    split_ifs with same <;> simp [same]
  sort m t v := Iff.rfl

/-- A HAL that sends its results in `count` parts. -/
def client (count : Nat) : PendingRequests TaggedMetadata where
  pendingRequests := KeyedVector.empty
  pendingErrorRequests := KeyedVector.empty
  nextShutterFrameNumber := 0
  nextShutterInputFrameNumber := 0
  nextResultFrameNumber := 0
  nextResultInputFrameNumber := 0
  partialResultCount := count
  isPartialResultSupported := true
  flushOnGoing := false
  resultMetadataQueue := some []
  shutterCb := true
  resultCb := true
  errorCb := true

end TaggedMetadata

namespace PartialLog

/-- One partial result, the shutter, and final metadata with the request id. -/
def twoParts : List HalMessage :=
  [.captureResult ⟨0,0,[5,7],[],false,1⟩,.writeMetadata [0,9,1,0],.shutter 0 9,
    .captureResult ⟨0,4,[0,9,1,0],[],false,2⟩]

/-- Two partial results with different tags, and the shutter after the final metadata. -/
def threeParts : List HalMessage :=
  [.captureResult ⟨0,0,[5,7],[],false,1⟩,.captureResult ⟨0,0,[6,8],[],false,2⟩,
    .writeMetadata [0,9,1,0],.captureResult ⟨0,4,[0,9,1,0],[],false,3⟩,.shutter 0 9]

def ofParts (count : Nat) (messages : List HalMessage) : PartialLog TaggedMetadata :=
  messages.foldl (next 0) (registered (TaggedMetadata.client count) 0 1 (bareExtras 0))

theorem twoParts_run : Run (Step 0) (registered (TaggedMetadata.client 2) 0 1 (bareExtras 0))
    twoParts (ofParts 2 twoParts) := by
  refine Run.of_follows (a := fun w msg => w.Sequenced 0 msg) (fun w msg h => ⟨h,rfl⟩)
    ⟨fun _ => ⟨fun _ => by decide,by decide,by decide⟩,trivial,trivial,
      fun _ => ⟨fun _ => by decide,by decide,by decide⟩,trivial⟩

theorem full_complete_iff_twoParts :
    Run (Step 0) (registered (TaggedMetadata.client 2) 0 1 (bareExtras 0)) twoParts
      (ofParts 2 twoParts) ∧
    ∃ full∈(ofParts 2 twoParts).full,∃ md,(ofParts 2 twoParts).final=some md ∧
      Complete (ofParts 2 twoParts).told (CameraMetadata.ofRaw md) full := by
  refine ⟨twoParts_run,?_⟩
  have whole := full_complete_iff (s := TaggedMetadata.client 2) rfl (by decide) twoParts_run
  cases sent : (ofParts 2 twoParts).full with
  | nil => exact absurd sent (by decide)
  | cons full rest =>
    obtain ⟨md,final,complete⟩ := whole full (sent ▸ List.mem_cons_self)
    refine ⟨full,List.mem_cons_self,md,final,complete.mpr ⟨?_,fun _ => .inl ?_⟩⟩
    · have packs : (ofParts 2 twoParts).packs=[(ofParts 2 twoParts).last] := by decide
      rintro t v - - hv
      rw [packs] at hv
      exact .inr (by simpa [LastValue] using hv)
    · have bytes : md=[0,9,1,0] := Option.some.inj (final.symm.trans (by decide))
      subst bytes
      exact ⟨[0],0,rfl,by decide⟩

/-- What the first of two partial results has told is not in the full result. -/
theorem first_partial_lost : ¬∀ (s : PendingRequests TaggedMetadata) (f : Nat) n extras messages w,
    s.isPartialResultSupported=true → s.pendingRequests.valueFor f=none →
    Run (Step f) (registered s f n extras) messages w → ∀ full∈w.full,∀ md,w.final=some md →
    Complete w.told (CameraMetadata.ofRaw md) full := by
  intro supposed
  have run : Run (Step 0) (registered (TaggedMetadata.client 3) 0 1 (bareExtras 0)) threeParts
      (ofParts 3 threeParts) := by
    refine Run.of_follows (a := fun w msg => w.Sequenced 0 msg) (fun w msg h => ⟨h,rfl⟩)
      ⟨fun _ => ⟨fun _ => by decide,by decide,by decide⟩,
        fun _ => ⟨fun _ => by decide,by decide,by decide⟩,trivial,
        fun _ => ⟨fun _ => by decide,by decide,by decide⟩,trivial,trivial⟩
  have complete := supposed _ 0 1 (bareExtras 0) _ _ rfl (by decide) run
  let full : TaggedMetadata := ⟨[(.ANDROID_SENSOR_TIMESTAMP,9),(.ANDROID_REQUEST_ID,0),
    (.ANDROID_REQUEST_FRAME_COUNT,0),(.other 6,8)]⟩
  have told : (ofParts 3 threeParts).told=
      [⟨[(.other 5,7),(.ANDROID_REQUEST_FRAME_COUNT,0),(.ANDROID_REQUEST_ID,0)]⟩,
        ⟨[(.other 6,8),(.ANDROID_REQUEST_FRAME_COUNT,0),(.ANDROID_REQUEST_ID,0)]⟩] := by decide
  have first : LastValue holds (ofParts 3 threeParts).told (.other 5) [7] := by
    rw [told]
    exact .inr ⟨⟨7,rfl,by simp⟩,by simp [holds]⟩
  obtain ⟨⟨u,x,-,has⟩,-⟩ := complete full (by decide) [0,9,1,0] (by decide) (.other 5) [7] first
  revert has
  simp [full]

end PartialLog

end IotMedia.Camera

import IotMedia.Camera.HalErrors

namespace IotMedia.Camera

open IotMedia.Framework PendingRequests

/-- The result with its metadata payload inline. -/
def CaptureResult.inline (a : CaptureResult) : CaptureResult := { a with fmqResultSize := 0 }

/-- The result with its payload announced from the metadata queue. -/
def CaptureResult.queued (a : CaptureResult) : CaptureResult :=
  { a with result := [],fmqResultSize := a.result.length }

def ResultEvent.delivered {M : Type} : ResultEvent M → Option (CaptureResultExtras × M)
  | .resultCb extras metadata => some (extras,metadata)
  | _ => none

/-- What was passed to resultCb. -/
def delivered {M : Type} (events : List (ResultEvent M)) : List (CaptureResultExtras × M) :=
  events.filterMap ResultEvent.delivered

@[simp] theorem delivered_append {M : Type} (a b : List (ResultEvent M)) :
    delivered (a++b)=delivered a++delivered b := List.filterMap_append

open HalWorld (frameBuffer firstExtras)

namespace PendingRequests

variable {M : Type}

/-- The isMetaPresent flags of the entries of a map. -/
def metaFlags (m : KeyedVector Nat (PendingRequest M)) (f : Nat) : Option Bool :=
  (m.valueFor f).map PendingRequest.isMetaPresent

variable [CameraMetadata M]

/-- One result in either transport; the queue gets the payload first. -/
def sendResult (s : PendingRequests M) (a : CaptureResult) (viaQueue : Bool) :
    PendingRequests M × List (ResultEvent M) :=
  if viaQueue then
    ({ s with resultMetadataQueue := s.resultMetadataQueue.map (·++a.result) } :
      PendingRequests M).handleCaptureResult a.queued
  else s.handleCaptureResult a.inline

def sendResults (s : PendingRequests M) :
    List (CaptureResult × Bool) → PendingRequests M × List (ResultEvent M)
  | [] => (s,[])
  | x::xs =>
    let first := s.sendResult x.1 x.2
    let rest := first.1.sendResults xs
    (rest.1,first.2++rest.2)

/-- What must not depend on the transport. -/
structure Alike (o p : PendingRequests M × List (ResultEvent M)) : Prop where
  deliveries : delivered o.2=delivered p.2
  pending : o.1.pendingRequests=p.1.pendingRequests
  flags : metaFlags o.1.pendingErrorRequests=metaFlags p.1.pendingErrorRequests

/-- The delivered metadata is the payload of a result of its frame, the request tags apart. -/
def Faithful (results : List CaptureResult) (x : CaptureResultExtras × M) : Prop :=
  ∃ a∈results,a.frameNumber=x.1.frameNumber ∧
    ∀ tag,tag≠.ANDROID_REQUEST_FRAME_COUNT → tag≠.ANDROID_REQUEST_ID →
      CameraMetadata.find (CameraMetadata.ofRaw a.result : M) tag≠[] →
        CameraMetadata.find x.2 tag=CameraMetadata.find (CameraMetadata.ofRaw a.result : M) tag

/-- However the payloads travel, after every prefix of the results the client is in the same
state, delivered the payloads, and has drained the queue. -/
def TransportFree (s : PendingRequests M) (results : List CaptureResult) : Prop :=
  ∀ xs ys : List (CaptureResult × Bool),xs.map Prod.fst=ys.map Prod.fst →
    xs.map Prod.fst <+: results →
    Alike (s.sendResults xs) (s.sendResults ys) ∧
    (∀ x∈delivered (s.sendResults xs).2,Faithful results x) ∧
    (s.sendResults xs).1.resultMetadataQueue=some []

/-- A payload travels with a buffer, and only on a frame that has no entry. -/
def PayloadIdle (s : PendingRequests M) (a : CaptureResult) : Prop :=
  a.result=[] ∨ a.outputBuffers≠[] ∧ s.pendingRequests.valueFor a.frameNumber=none ∧
    (s.pendingErrorRequests.valueFor a.frameNumber=none ∨ s.isPartialResultSupported=true ∨
      a.partialResult=1)

/-- Every result meets this in the state it arrives in. -/
def PayloadsIdle (s : PendingRequests M) : List CaptureResult → Prop
  | [] => True
  | a::as => s.PayloadIdle a ∧ (s.sendResult a false).1.PayloadsIdle as

/-- No frame is in both maps, the queue is empty and resultCb installed. -/
structure Ready (s : PendingRequests M) : Prop where
  disjoint : ∀ f,(s.pendingRequests.valueFor f).isSome → s.pendingErrorRequests.valueFor f=none
  queue : s.resultMetadataQueue=some []
  installed : s.resultCb=true

variable {s : PendingRequests M} {a : CaptureResult} {r : PendingRequest M} {f : Nat}

omit [CameraMetadata M] in
/-- Returning buffers and removing the entry deliver no metadata. -/
theorem returnOutputBuffer_delivered (s : PendingRequests M) (b : StreamBuffer) (ts : Int)
    (f : Nat) : delivered (s.returnOutputBuffer b ts f).2=[] := by
  unfold returnOutputBuffer
  split_ifs
  · cases hv : s.pendingRequests.valueFor f <;> rfl
  · rfl

omit [CameraMetadata M] in
theorem returnOutputBuffers_delivered (s : PendingRequests M) (bs : List StreamBuffer) (ts : Int)
    (f : Nat) : delivered (s.returnOutputBuffers bs ts f).2=[] := by
  induction bs generalizing s with
  | nil => rfl
  | cons b bs ih =>
    simp only [returnOutputBuffers,delivered_append,returnOutputBuffer_delivered,ih]
    rfl

omit [CameraMetadata M] in
theorem remove_delivered (s : PendingRequests M) (f : Nat) :
    delivered (s.removePendingRequestLocked f).2=[] := by
  cases h : s.pendingRequests.valueFor f with
  | none =>
    rw [remove_absent h]
    rfl
  | some r =>
    cases hc : r.complete with
    | false =>
      rw [remove_incomplete h hc]
      rfl
    | true =>
      simp only [removePendingRequestLocked,h,hc,if_true]
      rw [delivered_append,returnOutputBuffers_delivered]
      split_ifs <;> rfl

omit [CameraMetadata M] in
/-- The flag with which a removed entry is kept among the errors, if it is kept. -/
theorem remove_flags (h : s.pendingRequests.valueFor f=some r) (hc : r.complete=true)
    (hn : s.pendingErrorRequests.valueFor f=none) :
    metaFlags (s.removePendingRequestLocked f).1.pendingErrorRequests f=some r.isMetaPresent ∨
    metaFlags (s.removePendingRequestLocked f).1.pendingErrorRequests f=none ∧
      r.isMetaPresent=true := by
  obtain ⟨st,entry,keep⟩ := returnOutputBuffers_entry r.pendingBuffers 0 h
  simp only [removePendingRequestLocked,h,hc,if_true,entry,Option.getD_some]
  have errors := s.returnOutputBuffers_errors r.pendingBuffers 0 f
  by_cases ha : st≠none ∧ (r.isMetaPresent=false ∨ r.shutterTS=0)
  · left
    rw [if_pos ha,errors]
    simp [metaFlags,emplace,hn]
  · right
    rw [if_neg ha,errors]
    refine ⟨by simp [metaFlags,hn],?_⟩
    cases hm : r.isMetaPresent with
    | true => rfl
    | false =>
      have failed : r.status≠none := by
        intro hs
        simp [PendingRequest.complete,hm,hs] at hc
      exact absurd ⟨keep failed,Or.inl hm⟩ ha

/-- After the delivery of a result either the entry stays, with its flag and count, or it is
gone and the errors keep its flag. -/
theorem deliverResult_outcome (r : PendingRequest M) (collected : M) (result : CaptureResult)
    (md : List UInt8) (isFinal : Bool)
    (h : (s.pendingRequests.valueFor result.frameNumber).isSome)
    (hn : s.pendingErrorRequests.valueFor result.frameNumber=none) :
    (∃ q,(s.deliverResult r collected result md isFinal).1.pendingRequests.valueFor
        result.frameNumber=some q ∧ q.isMetaPresent=r.isMetaPresent ∧
        q.buffersRemaining=r.buffersRemaining ∧
        (s.deliverResult r collected result md isFinal).1.pendingErrorRequests=
          s.pendingErrorRequests) ∨
    (s.deliverResult r collected result md isFinal).1.pendingRequests.valueFor
        result.frameNumber=none ∧
      (metaFlags (s.deliverResult r collected result md isFinal).1.pendingErrorRequests
          result.frameNumber=some r.isMetaPresent ∨
        metaFlags (s.deliverResult r collected result md isFinal).1.pendingErrorRequests
          result.frameNumber=none ∧ r.isMetaPresent=true) := by
  obtain ⟨t,q,before,hv,held,errors,-,-,he⟩ := deliverResult_before r collected md isFinal h
  rw [he]
  dsimp only
  cases hc : q.complete with
  | false =>
    left
    rw [remove_incomplete hv hc]
    exact ⟨q,hv,held.isMetaPresent,held.buffersRemaining,errors⟩
  | true =>
    right
    have flags := remove_flags hv hc (by rw [errors]; exact hn)
    rw [held.isMetaPresent] at flags
    exact ⟨(remove_complete hv hc).1,flags⟩

/-- A result without inline metadata is counted and delivered as such. -/
theorem processResult_bare (s : PendingRequests M) (r : PendingRequest M) {result : CaptureResult}
    (md : List UInt8) (hr : result.result=[]) :
    s.processResult r result md=
      if ((r.notePartialCount result).countBuffers result).buffersRemaining<0 then
        (s.store result.frameNumber ((r.notePartialCount result).countBuffers result),
          [.setErr (.tooManyBuffers result.frameNumber)])
      else s.deliverResult ((r.notePartialCount result).countBuffers result) CameraMetadata.empty
        result md false := by
  have bare : s.composePartial (r.notePartialCount result) result=
      .ok (r.notePartialCount result,false,[]) := by
    simp [composePartial,hr]
  unfold processResult
  simp [bare,hr]

theorem deliverResult_bare_delivered (s : PendingRequests M) (r : PendingRequest M)
    (collected : M) (result : CaptureResult) (md : List UInt8) :
    delivered (s.deliverResult r collected result md false).2=[] := by
  unfold deliverResult
  dsimp only
  simp only [Bool.false_eq_true,false_and,if_false,List.nil_append]
  rw [delivered_append,remove_delivered,List.append_nil]
  split_ifs
  · exact returnOutputBuffers_delivered _ _ _ _
  · rfl

/-- The number of buffers, of either direction, that a result reports. -/
def bufferCount (result : CaptureResult) : Int :=
  result.outputBuffers.length+(if result.inputBuffer then 1 else 0)

omit [CameraMetadata M] in
theorem counted_fields (r : PendingRequest M) (result : CaptureResult) :
    ((r.notePartialCount result).countBuffers result).isMetaPresent=r.isMetaPresent ∧
    ((r.notePartialCount result).countBuffers result).buffersRemaining=
      r.buffersRemaining-bufferCount result := by
  obtain ⟨e,-,he⟩ := notePartialCount_eq r result
  rw [he]
  refine ⟨rfl,?_⟩
  simp only [PendingRequest.countBuffers,bufferCount]
  omega

/-- What a result whose payload is in the queue leaves of its frame's entry. -/
theorem processResult_queued_outcome (result : CaptureResult) (md : List UInt8)
    (hr : result.result=[]) (hv : s.pendingRequests.valueFor result.frameNumber=some r)
    (hn : s.pendingErrorRequests.valueFor result.frameNumber=none) :
    delivered (s.processResult r result md).2=[] ∧
    ((∃ q,(s.processResult r result md).1.pendingRequests.valueFor result.frameNumber=some q ∧
        q.isMetaPresent=r.isMetaPresent ∧ q.buffersRemaining=r.buffersRemaining-bufferCount result ∧
        (s.processResult r result md).1.pendingErrorRequests=s.pendingErrorRequests) ∨
    (s.processResult r result md).1.pendingRequests.valueFor result.frameNumber=none ∧
      (metaFlags (s.processResult r result md).1.pendingErrorRequests result.frameNumber=
          some r.isMetaPresent ∨
        metaFlags (s.processResult r result md).1.pendingErrorRequests result.frameNumber=none ∧
          r.isMetaPresent=true)) := by
  have fields := counted_fields r result
  rw [processResult_bare s r md hr]
  split_ifs
  · refine ⟨rfl,Or.inl ⟨_,store_self s hv _,fields.1,fields.2,rfl⟩⟩
  · refine ⟨deliverResult_bare_delivered _ _ _ _ _,?_⟩
    have outcome := deliverResult_outcome ((r.notePartialCount result).countBuffers result)
      CameraMetadata.empty result md false (by simp [hv]) hn
    rw [fields.1,fields.2] at outcome
    exact outcome

/-- What is left of HandleCaptureResult once the metadata was read. -/
def afterRead (s : PendingRequests M) (result : CaptureResult) (md : List UInt8) :
    PendingRequests M × List (ResultEvent M) :=
  match s.pendingRequests.valueFor result.frameNumber with
  | some r => s.processResult r result md
  | none =>
    if (s.pendingErrorRequests.valueFor result.frameNumber).isSome then
      ({ s with pendingErrorRequests :=
          s.pendingErrorRequests.removeItem result.frameNumber },[])
    else (s,[.setErr (.invalidFrameNumber result.frameNumber)])

omit [CameraMetadata M] in
theorem Ready.restored (hs : s.Ready) : { s with resultMetadataQueue := some [] }=s := by
  rw [← hs.queue]

theorem sendResult_bare (ha : a.result=[]) (viaQueue : Bool) :
    s.sendResult a viaQueue=s.handleCaptureResult { a with fmqResultSize := 0 } := by
  cases viaQueue with
  | false => rfl
  | true =>
    have same : a.queued={ a with fmqResultSize := 0 } := by simp [CaptureResult.queued,ha]
    have idle : s.resultMetadataQueue.map (·++a.result)=s.resultMetadataQueue := by simp [ha]
    rw [sendResult,if_pos rfl,same,idle]

/-- A payload in the queue is read if buffers come with it. -/
theorem sendResult_queued (hs : s.Ready) (ha : a.result≠[]) (hb : a.outputBuffers≠[]) :
    s.sendResult a true=s.afterRead a.queued a.result := by
  have size : a.result.length≠0 := by simpa using ha
  have read : ({ s with resultMetadataQueue := s.resultMetadataQueue.map (·++a.result) } :
      PendingRequests M).readResultMetadata a.queued.fmqResultSize=.ok (s,a.result) := by
    simp [readResultMetadata,CaptureResult.queued,hs.queue,size,hs.restored]
  have idle : ¬(a.queued.result=[] ∧ a.queued.outputBuffers=[]) := fun h => hb h.2
  have bare : ¬(s.isPartialResultSupported=false ∧ a.queued.result≠[] ∧
      a.queued.partialResult≠1) := fun h => h.2.1 rfl
  rw [sendResult,if_pos rfl,handleCaptureResult,if_neg idle,if_neg bare,read]
  rfl

theorem sendResult_inline (ha : a.result≠[])
    (hp : s.isPartialResultSupported=true ∨ a.partialResult=1) :
    s.sendResult a false=s.afterRead a.inline [] := by
  have idle : ¬(a.inline.result=[] ∧ a.inline.outputBuffers=[]) := fun h => ha h.1
  have supported : ¬(s.isPartialResultSupported=false ∧ a.inline.result≠[] ∧
      a.inline.partialResult≠1) := by
    intro h
    cases hp with
    | inl hp => simp [hp] at h
    | inr hp => exact h.2.2 hp
  have read : s.readResultMetadata a.inline.fmqResultSize=.ok (s,[]) := rfl
  rw [sendResult,if_neg (by simp),handleCaptureResult,if_neg idle,if_neg supported,read]
  rfl

/-- Without an entry the transport is not looked at. -/
theorem afterRead_absent (result : CaptureResult) (md : List UInt8) (hs : s.Ready)
    (hv : s.pendingRequests.valueFor result.frameNumber=none) :
    delivered (s.afterRead result md).2=[] ∧ (s.afterRead result md).1.Ready ∧
    s.afterRead result md=if (s.pendingErrorRequests.valueFor result.frameNumber).isSome then
      ({ s with pendingErrorRequests :=
          s.pendingErrorRequests.removeItem result.frameNumber },[])
    else (s,[.setErr (.invalidFrameNumber result.frameNumber)]) := by
  have same : s.afterRead result md=
      if (s.pendingErrorRequests.valueFor result.frameNumber).isSome then
        ({ s with pendingErrorRequests :=
            s.pendingErrorRequests.removeItem result.frameNumber },[])
      else (s,[.setErr (.invalidFrameNumber result.frameNumber)]) := by
    simp only [afterRead,hv]
  refine ⟨?_,?_,same⟩
  · rw [same]
    split_ifs <;> rfl
  · rw [same]
    split_ifs
    · refine ⟨?_,hs.queue,hs.installed⟩
      intro f hf
      have none := hs.disjoint f hf
      by_cases h : f=result.frameNumber
      · simp [h]
      · simp [h,none]
    · exact hs

/-- A result without a payload delivers none and leaves the client ready. -/
theorem bare_ready (hs : s.Ready) (result : CaptureResult) (hr : result.result=[])
    (hz : result.fmqResultSize=0) :
    delivered (s.handleCaptureResult result).2=[] ∧ (s.handleCaptureResult result).1.Ready := by
  by_cases hb : result.outputBuffers=[]
  · rw [handleCaptureResult,if_pos ⟨hr,hb⟩]
    exact ⟨rfl,hs⟩
  have handled : s.handleCaptureResult result=s.afterRead result [] := by
    have read : s.readResultMetadata result.fmqResultSize=.ok (s,[]) := by
      rw [hz]
      rfl
    rw [handleCaptureResult,if_neg fun h => hb h.2,if_neg fun h => h.2.1 hr,read]
    rfl
  rw [handled]
  cases hv : s.pendingRequests.valueFor result.frameNumber with
  | none =>
    have absent := afterRead_absent result [] hs hv
    exact ⟨absent.1,absent.2.1⟩
  | some r =>
    have known : (s.pendingRequests.valueFor result.frameNumber).isSome := by simp [hv]
    have own := processResult_queued_outcome result [] hr hv (hs.disjoint _ known)
    have touched := s.processResult_touches r result []
    have rest := s.processResult_mapsOnly r result []
    have entered : s.afterRead result []=s.processResult r result [] := by
      simp only [afterRead,hv]
    rw [entered]
    refine ⟨own.1,?_,?_,?_⟩
    · intro f hf
      by_cases h : f=result.frameNumber
      · rw [h] at hf ⊢
        rcases own.2 with ⟨q,-,-,-,errors⟩|⟨gone,-⟩
        · rw [errors]
          exact hs.disjoint _ known
        · simp [gone] at hf
      · rw [touched.pending f h] at hf
        rw [touched.errors f h]
        exact hs.disjoint f hf
    · obtain ⟨m,e,x,y,same⟩ := rest
      rw [same]
      exact hs.queue
    · obtain ⟨m,e,x,y,same⟩ := rest
      rw [same]
      exact hs.installed

/-- One idle result: both transports lead to the same state, and deliver nothing. -/
theorem idle_step (hs : s.Ready) (ha : s.PayloadIdle a) (viaQueue : Bool) :
    (s.sendResult a viaQueue).1=(s.sendResult a false).1 ∧
    delivered (s.sendResult a viaQueue).2=[] ∧ (s.sendResult a viaQueue).1.Ready := by
  by_cases hr : a.result=[]
  · have ready := bare_ready hs { a with fmqResultSize := 0 } hr rfl
    rw [sendResult_bare hr,sendResult_bare hr]
    exact ⟨rfl,ready.1,ready.2⟩
  obtain ⟨hb,hv,hp⟩ := ha.resolve_left hr
  have queued := afterRead_absent a.queued a.result hs hv
  have inline := afterRead_absent a.inline [] hs hv
  by_cases supported : s.isPartialResultSupported=true ∨ a.partialResult=1
  · have same : s.afterRead a.queued a.result=s.afterRead a.inline [] := by
      rw [queued.2.2,inline.2.2]
      rfl
    rw [sendResult_inline hr supported]
    cases viaQueue with
    | false =>
      rw [sendResult_inline hr supported]
      exact ⟨rfl,inline.1,inline.2.1⟩
    | true =>
      rw [sendResult_queued hs hr hb,same]
      exact ⟨rfl,inline.1,inline.2.1⟩
  · have absent : s.pendingErrorRequests.valueFor a.frameNumber=none := by
      cases hp with
      | inl absent => exact absent
      | inr others => exact absurd others supported
    have unsupported : s.isPartialResultSupported=false := by simpa using fun h => supported (Or.inl h)
    have refused : s.sendResult a false=
        (s,[.setErr (.partialResultUnsupported a.frameNumber a.partialResult)]) := by
      rw [sendResult,if_neg (by simp),handleCaptureResult,if_neg fun h => hr h.1,
        if_pos ⟨unsupported,hr,fun h => supported (Or.inr h)⟩]
      rfl
    rw [refused]
    cases viaQueue with
    | false =>
      rw [refused]
      exact ⟨rfl,rfl,hs⟩
    | true =>
      have reported : s.afterRead a.queued a.result=
          (s,[.setErr (.invalidFrameNumber a.frameNumber)]) := by
        rw [queued.2.2,if_neg]
        · rfl
        · simp [CaptureResult.queued,absent]
      rw [sendResult_queued hs hr hb,reported]
      exact ⟨rfl,rfl,hs⟩

/-- Along a prefix of idle results the state does not depend on the transports. -/
theorem idle_run (results : List CaptureResult) (hs : s.Ready) (hi : s.PayloadsIdle results)
    (xs : List (CaptureResult × Bool)) (hx : xs.map Prod.fst <+: results) :
    (s.sendResults xs).1=(s.sendResults (xs.map fun x => (x.1,false))).1 ∧
    delivered (s.sendResults xs).2=[] ∧ (s.sendResults xs).1.Ready := by
  induction xs generalizing s results with
  | nil => exact ⟨rfl,rfl,hs⟩
  | cons x xs ih =>
    cases results with
    | nil => simp at hx
    | cons b bs =>
      obtain ⟨rfl,shorter⟩ : x.1=b ∧ xs.map Prod.fst <+: bs := by simpa using hx
      have one := idle_step hs hi.1 x.2
      have ready := one.2.2
      rw [one.1] at ready
      have rest := ih bs ready hi.2 shorter
      simp only [sendResults,List.map_cons,delivered_append,one.1,one.2.1,rest.2.1]
      exact ⟨rest.1,rfl,rest.2.2⟩

theorem transport_free_of_idle {results : List CaptureResult} (hs : s.Ready)
    (hi : s.PayloadsIdle results) : s.TransportFree results := by
  intro xs ys same hx
  have first := idle_run results hs hi xs hx
  have second := idle_run results hs hi ys (by rw [← same]; exact hx)
  have inlined : xs.map (fun x => (x.1,false))=ys.map fun x => (x.1,false) := by
    have mapped := congrArg (List.map fun c : CaptureResult => (c,false)) same
    rw [List.map_map,List.map_map] at mapped
    exact mapped
  have states : (s.sendResults xs).1=(s.sendResults ys).1 := by
    rw [first.1,second.1,inlined]
  refine ⟨⟨?_,by rw [states],by rw [states]⟩,?_,first.2.2.queue⟩
  · rw [first.2.1,second.2.1]
  · intro x hm
    rw [first.2.1] at hm
    cases hm

omit [CameraMetadata M] in
theorem notePartialCount_flags (r : PendingRequest M) (result : CaptureResult) :
    (r.notePartialCount result).isMetaPresent=r.isMetaPresent ∧
    (r.notePartialCount result).buffersRemaining=r.buffersRemaining := by
  obtain ⟨e,-,he⟩ := notePartialCount_eq r result
  rw [he]
  exact ⟨rfl,rfl⟩

/-- A partial payload is told at once. -/
theorem handlePartialResult_delivered [LawfulCameraMetadata M] (hc : s.resultCb=true) (f : Nat)
    (m : M) (extras : CaptureResultExtras) :
    delivered (s.handlePartialResult f m extras).2≠[] := by
  obtain ⟨m',hm⟩ := LawfulCameraMetadata.update_ok m .ANDROID_REQUEST_FRAME_COUNT (asInt32 f)
  obtain ⟨m'',hm'⟩ := LawfulCameraMetadata.update_ok m' .ANDROID_REQUEST_ID extras.requestId
  simp [handlePartialResult,hc,hm,hm',delivered,ResultEvent.delivered]

/-- An inline payload is out of range, told as a partial one, or final. -/
theorem composePartial_payload [LawfulCameraMetadata M] (r : PendingRequest M)
    (result : CaptureResult) (hc : s.resultCb=true) :
    (∃ e,s.composePartial r result=.error e) ∨
    (∃ q told,s.composePartial r result=.ok (q,true,told) ∧ delivered told≠[]) ∨
    s.composePartial r result=.ok (r,false,[]) := by
  have outcome := s.composePartial_outcome r result
  generalize s.composePartial r result=o at outcome ⊢
  cases outcome with
  | outOfRange => exact Or.inl ⟨_,rfl⟩
  | told range early packed tells =>
    subst tells
    exact Or.inr (Or.inl ⟨_,_,rfl,handlePartialResult_delivered hc _ _ _⟩)
  | kept => exact Or.inr (Or.inr rfl)

theorem counted_accepted (s : PendingRequests M) (r : PendingRequest M)
    (result : CaptureResult) :
    ((s.acceptMetadata r).1.countBuffers result).isMetaPresent=true := by
  obtain ⟨c,hc⟩ := s.acceptMetadata_eq r
  rw [hc]
  rfl

/-- What a result with an inline payload leaves of its frame's entry: something was delivered,
or it was refused before its buffers were counted, or the entry has its metadata. -/
theorem processResult_inline_outcome [LawfulCameraMetadata M] (result : CaptureResult)
    (md : List UInt8) (hr : result.result≠[]) (hc : s.resultCb=true)
    (hv : s.pendingRequests.valueFor result.frameNumber=some r)
    (hn : s.pendingErrorRequests.valueFor result.frameNumber=none) :
    delivered (s.processResult r result md).2≠[] ∨
    (∃ q,(s.processResult r result md).1.pendingRequests.valueFor result.frameNumber=some q ∧
      q.buffersRemaining=r.buffersRemaining) ∨
    r.isMetaPresent=false ∧
      ((∃ q,(s.processResult r result md).1.pendingRequests.valueFor result.frameNumber=some q ∧
        q.isMetaPresent=true) ∨
      (s.processResult r result md).1.pendingRequests.valueFor result.frameNumber=none ∧
        metaFlags (s.processResult r result md).1.pendingErrorRequests result.frameNumber≠
          some false) := by
  have same := notePartialCount_flags r result
  unfold processResult
  dsimp only
  rcases composePartial_payload (s := s) (r.notePartialCount result) result hc with
    ⟨e,h⟩|⟨q,told,h,ht⟩|h
  · rw [h]
    exact Or.inr (Or.inl ⟨_,store_self s hv _,same.2⟩)
  · left
    rw [h]
    simp only [Bool.not_true,Bool.and_false,Bool.false_eq_true,false_and,if_false]
    split_ifs <;> simp [ht]
  rw [h]
  simp only [hr,ne_eq,not_false_eq_true,decide_true,Bool.not_false,Bool.and_self,true_and,
    if_true,List.nil_append]
  cases hm : r.isMetaPresent with
  | true =>
    rw [if_pos (same.1.trans hm)]
    exact Or.inr (Or.inl ⟨_,store_self s hv _,same.2⟩)
  | false =>
    rw [if_neg (by rw [same.1,hm]; decide)]
    refine Or.inr (Or.inr ⟨rfl,?_⟩)
    have flag := s.counted_accepted (r.notePartialCount result) result
    split_ifs
    · exact Or.inl ⟨_,store_self s hv _,flag⟩
    · have outcome := deliverResult_outcome
        ((s.acceptMetadata (r.notePartialCount result)).1.countBuffers result)
        (s.acceptMetadata (r.notePartialCount result)).2 result md true
        (by simp [hv]) hn
      rw [flag] at outcome
      rcases outcome with ⟨q,entry,filled,-,-⟩|⟨gone,kept|⟨dropped,-⟩⟩
      · exact Or.inl ⟨q,entry,filled⟩
      · exact Or.inr ⟨gone,by rw [kept]; simp⟩
      · exact Or.inr ⟨gone,by rw [dropped]; simp⟩

theorem sendResults_one (s : PendingRequests M) (a : CaptureResult)
    (viaQueue : Bool) :
    s.sendResults [(a,viaQueue)]=((s.sendResult a viaQueue).1,(s.sendResult a viaQueue).2) := by
  simp [sendResults]

/-- A payload for a frame with an entry is told apart by its transport. -/
theorem pending_not_alike [LawfulCameraMetadata M] (hs : s.Ready) (ha : a.result≠[])
    (hb : a.outputBuffers≠[]) (hv : s.pendingRequests.valueFor a.frameNumber=some r) :
    ¬Alike (s.sendResult a false) (s.sendResult a true) := by
  intro alike
  have hn := hs.disjoint a.frameNumber (by simp [hv])
  have some_buffer : 0<a.outputBuffers.length := List.length_pos_iff.mpr hb
  have counted : bufferCount a.queued≥1 := by
    simp only [bufferCount,CaptureResult.queued]
    split_ifs <;> omega
  have entered : s.sendResult a true=s.processResult r a.queued a.result := by
    rw [sendResult_queued hs ha hb]
    have hq : s.pendingRequests.valueFor a.queued.frameNumber=some r := hv
    simp only [afterRead,hq]
  obtain ⟨silent,queued⟩ := processResult_queued_outcome a.queued a.result rfl hv hn
  rw [← entered] at silent queued
  have entries := congrArg (·.valueFor a.frameNumber) alike.pending
  have flags := congrFun alike.flags a.frameNumber
  -- an entry that kept its count tells them apart
  have uncounted : ∀ q,(s.sendResult a false).1.pendingRequests.valueFor a.frameNumber=some q →
      q.buffersRemaining=r.buffersRemaining → False := by
    intro q hq same
    rw [hq] at entries
    rcases queued with ⟨q',hq',-,less,-⟩|⟨gone,-⟩
    · cases Option.some.inj (entries.trans hq')
      omega
    · cases entries.trans gone
  by_cases supported : s.isPartialResultSupported=true ∨ a.partialResult=1
  · have inlined : s.sendResult a false=s.processResult r a.inline [] := by
      rw [sendResult_inline ha supported]
      have hi : s.pendingRequests.valueFor a.inline.frameNumber=some r := hv
      simp only [afterRead,hi]
    have inline := processResult_inline_outcome a.inline [] ha hs.installed hv hn
    rw [← inlined] at inline
    rcases inline with told|⟨q,hq,same⟩|⟨hm,⟨q,hq,present⟩|⟨gone,flagged⟩⟩
    · exact told (alike.deliveries.trans silent)
    · exact uncounted q hq same
    · have hq' := entries.symm.trans hq
      rcases queued with ⟨q',kept,bare,-,-⟩|⟨gone',-⟩
      · cases Option.some.inj (hq'.symm.trans kept)
        simp [present,hm] at bare
      · cases hq'.symm.trans gone'
    · have gone' := entries.symm.trans gone
      rcases queued with ⟨q',kept,-,-,-⟩|⟨-,kept|⟨-,present⟩⟩
      · cases kept.symm.trans gone'
      · rw [hm] at kept
        exact flagged (flags.trans kept)
      · simp [hm] at present
  · have unsupported : s.isPartialResultSupported=false := by
      simpa using fun h => supported (Or.inl h)
    have refused : s.sendResult a false=
        (s,[.setErr (.partialResultUnsupported a.frameNumber a.partialResult)]) := by
      rw [sendResult,if_neg (by simp),handleCaptureResult,if_neg fun h => ha h.1,
        if_pos ⟨unsupported,ha,fun h => supported (Or.inr h)⟩]
      rfl
    exact uncounted r (by rw [refused]; exact hv) rfl

/-- A result for which the transports agree, and whose queue is drained, is idle. -/
theorem idle_of_alike [LawfulCameraMetadata M] (hs : s.Ready)
    (alike : Alike (s.sendResult a false) (s.sendResult a true))
    (drained : (s.sendResult a true).1.resultMetadataQueue=some []) : s.PayloadIdle a := by
  by_cases ha : a.result=[]
  · exact Or.inl ha
  right
  have hb : a.outputBuffers≠[] := by
    intro hb
    have idle : s.sendResult a true=({ s with
        resultMetadataQueue := s.resultMetadataQueue.map (·++a.result) },[]) := by
      rw [sendResult,if_pos rfl,handleCaptureResult,if_pos ⟨rfl,hb⟩]
    rw [idle] at drained
    simp [hs.queue,ha] at drained
  have hv : s.pendingRequests.valueFor a.frameNumber=none := by
    cases hv : s.pendingRequests.valueFor a.frameNumber with
    | none => rfl
    | some r => exact absurd alike (pending_not_alike hs ha hb hv)
  refine ⟨hb,hv,?_⟩
  by_cases supported : s.isPartialResultSupported=true ∨ a.partialResult=1
  · exact Or.inr supported
  left
  -- the inline result is refused, the queued one clears the entry among the errors
  have unsupported : s.isPartialResultSupported=false := by
    simpa using fun h => supported (Or.inl h)
  have refused : s.sendResult a false=
      (s,[.setErr (.partialResultUnsupported a.frameNumber a.partialResult)]) := by
    rw [sendResult,if_neg (by simp),handleCaptureResult,if_neg fun h => ha h.1,
      if_pos ⟨unsupported,ha,fun h => supported (Or.inr h)⟩]
    rfl
  have absent := afterRead_absent a.queued a.result hs hv
  have flags := congrFun alike.flags a.frameNumber
  rw [refused,sendResult_queued hs ha hb,absent.2.2] at flags
  cases hx : s.pendingErrorRequests.valueFor a.frameNumber with
  | none => rfl
  | some q => simp [metaFlags,CaptureResult.queued,hx] at flags

theorem idle_of_drained_alike [LawfulCameraMetadata M] (results : List CaptureResult)
    (hs : s.Ready) (h : ∀ xs ys : List (CaptureResult × Bool),xs.map Prod.fst=ys.map Prod.fst →
      xs.map Prod.fst <+: results → Alike (s.sendResults xs) (s.sendResults ys) ∧
        (s.sendResults xs).1.resultMetadataQueue=some []) : s.PayloadsIdle results := by
  induction results generalizing s with
  | nil => trivial
  | cons a as ih =>
    have one : ∀ v,[((a,v) : CaptureResult × Bool)].map Prod.fst <+: a::as := by
      intro v
      exact ⟨as,rfl⟩
    have alike := (h [(a,false)] [(a,true)] rfl (one false)).1
    have drained := (h [(a,true)] [(a,true)] rfl (one true)).2
    simp only [sendResults_one] at alike drained
    have idle := idle_of_alike hs alike drained
    have step := idle_step hs idle false
    refine ⟨idle,ih step.2.2 ?_⟩
    intro xs ys same hx
    have longer := h ((a,false)::xs) ((a,false)::ys) (by simp [same]) (by simpa using hx)
    simp only [sendResults] at longer
    refine ⟨⟨?_,longer.1.pending,longer.1.flags⟩,longer.2⟩
    have told := longer.1.deliveries
    simp only [delivered_append,step.2.1,List.nil_append] at told
    exact told

/-- The transports are treated alike exactly along results whose payloads reach no entry: every
presence test reads result.result, while what is delivered is resultMetadata. -/
theorem transport_free_iff [LawfulCameraMetadata M] (s : PendingRequests M) (hs : s.Ready)
    (results : List CaptureResult) : s.TransportFree results ↔ s.PayloadsIdle results :=
  ⟨fun h => idle_of_drained_alike results hs fun xs ys same hx =>
    ⟨(h xs ys same hx).1,(h xs ys same hx).2.2⟩,transport_free_of_idle hs⟩

theorem plain_ready : plain.Ready := ⟨fun _ h => by simp [plain] at h,rfl,rfl⟩

/-- Buffers without metadata for a frame that was never marked, then a late payload. -/
theorem transport_free_plain : plain.TransportFree
    [⟨0,0,[],[frameBuffer],false,0⟩,⟨1,0,[5],[frameBuffer],false,1⟩] :=
  (transport_free_iff plain plain_ready _).mpr ⟨Or.inl rfl,
    Or.inr ⟨by simp,rfl,Or.inl rfl⟩,trivial⟩

/-- A frame of one buffer whose metadata comes with the buffer: only inline metadata is noted. -/
theorem queued_payload_not_noted : ¬∀ (s : PendingRequests PlainMetadata) results,s.Ready →
    s.TransportFree results := by
  intro all
  have ready : (plain.markPendingRequest 0 1 firstExtras).Ready := by
    refine ⟨?_,rfl,rfl⟩
    intro f _
    rfl
  have free := all _ [⟨0,0,[5],[frameBuffer],false,1⟩] ready
  have alike := (free [(⟨0,0,[5],[frameBuffer],false,1⟩,false)]
    [(⟨0,0,[5],[frameBuffer],false,1⟩,true)] rfl (List.prefix_rfl)).1
  have entries := congrArg (fun m => (m.valueFor 0).map PendingRequest.isMetaPresent) alike.pending
  revert entries
  decide

end PendingRequests
end IotMedia.Camera

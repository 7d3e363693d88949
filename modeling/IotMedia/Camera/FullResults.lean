import IotMedia.Camera.ReturnedBuffers

namespace IotMedia.Camera

open IotMedia.Framework

variable {M : Type}

def ResultEvent.result : ResultEvent M → Option CaptureResultExtras
  | .resultCb extras _ => some extras
  | _ => none

/-- The results passed to resultCb, in this order. -/
def results (events : List (ResultEvent M)) : List CaptureResultExtras :=
  events.filterMap ResultEvent.result

@[simp] theorem results_nil : results ([] : List (ResultEvent M))=[] := rfl

@[simp] theorem results_append (a b : List (ResultEvent M)) :
    results (a++b)=results a++results b := List.filterMap_append

namespace PendingRequests

variable {f : Nat} {s : PendingRequests M} {r : PendingRequest M} {extras : CaptureResultExtras}
  {o p : PendingRequests M × List (ResultEvent M)}

theorem returnOutputBuffer_results (s : PendingRequests M) (b : StreamBuffer) (ts : Int)
    (f : Nat) : results (s.returnOutputBuffer b ts f).2=[] := by
  unfold returnOutputBuffer
  split_ifs
  · cases s.pendingRequests.valueFor f <;> rfl
  · rfl

theorem returnOutputBuffers_results (s : PendingRequests M) (bs : List StreamBuffer) (ts : Int)
    (f : Nat) : results (s.returnOutputBuffers bs ts f).2=[] := by
  induction bs generalizing s with
  | nil => rfl
  | cons b bs ih =>
    have first := s.returnOutputBuffer_results b ts f
    simp only [returnOutputBuffers,results_append,first,ih]
    rfl

theorem remove_results (s : PendingRequests M) (f : Nat) :
    results (s.removePendingRequestLocked f).2=[] := by
  cases h : s.pendingRequests.valueFor f with
  | none => rw [remove_absent h]; rfl
  | some r =>
    cases hc : r.complete with
    | false => rw [remove_incomplete h hc]; rfl
    | true =>
      simp only [removePendingRequestLocked,h,hc,if_true,results_append,
        returnOutputBuffers_results,List.append_nil]
      split_ifs <;> rfl

theorem notifyError_results (s : PendingRequests M) (code : ErrorCode) (f : Nat) :
    results (s.notifyError code f).2=[] := by
  cases code with
  | ERROR_DEVICE | other => rfl
  | ERROR_REQUEST | ERROR_RESULT | ERROR_BUFFER =>
    simp only [notifyError]
    split_ifs <;> rfl

/-- No counter of results moves and no result is sent. -/
structure Silent (s : PendingRequests M) (o : PendingRequests M × List (ResultEvent M)) :
    Prop where
  counter : ∀ i,o.1.expectedResult i=s.expectedResult i
  sent : results o.2=[]

/-- The counter of the result's kind lets frame `f` through and moves behind it, and at most
this one result is sent. -/
structure Passes (f : Nat) (extras : CaptureResultExtras) (s : PendingRequests M)
    (o : PendingRequests M × List (ResultEvent M)) : Prop where
  order : s.expectedResult extras.input≤f
  counter : ∀ i,o.1.expectedResult i=if i=extras.input then frameAfter f else s.expectedResult i
  sent : results o.2=[] ∨ results o.2=[extras]

/-- The rest of a handler, which neither moves a counter of results nor sends one. -/
theorem Silent.append (h : Silent s o) (h' : Silent o.1 p) : Silent s (p.1,o.2++p.2) where
  counter := fun i => (h'.counter i).trans (h.counter i)
  sent := by rw [results_append,h.sent,h'.sent]; rfl

theorem Silent.passes (h : Silent s o) (h' : Passes f extras o.1 p) :
    Passes f extras s (p.1,o.2++p.2) where
  order := by rw [← h.counter]; exact h'.order
  counter := fun i => by rw [h'.counter,h.counter]
  sent := by rw [results_append,h.sent]; exact h'.sent

theorem Passes.silent (h : Passes f extras s o) (h' : Silent o.1 p) :
    Passes f extras s (p.1,o.2++p.2) where
  order := h.order
  counter := fun i => (h'.counter i).trans (h.counter i)
  sent := by rw [results_append,h'.sent,List.append_nil]; exact h.sent

/-- A change of an entry counts no result. -/
theorem Silent.of_store {q : PendingRequest M} (h : Silent (s.store f q) o) : Silent s o :=
  ⟨h.counter,h.sent⟩

theorem returnOutputBuffers_silent (s : PendingRequests M) (bs : List StreamBuffer) (ts : Int)
    (f : Nat) : Silent s (s.returnOutputBuffers bs ts f) where
  counter := fun i => by rw [expectedResult_eq,returnOutputBuffers_counters,← expectedResult_eq]
  sent := s.returnOutputBuffers_results bs ts f

theorem remove_silent (s : PendingRequests M) (f : Nat) :
    Silent s (s.removePendingRequestLocked f) where
  counter := fun i => by rw [expectedResult_eq,remove_counters,← expectedResult_eq]
  sent := s.remove_results f

theorem passResult_expected (s : PendingRequests M) (input : Bool) (f : Nat) (i : Bool) :
    (s.passResult input f).expectedResult i=
      if i=input then frameAfter f else s.expectedResult i := by
  cases input <;> cases i <;> rfl

section Entries

/-- Two extras of one frame: they differ in the count of partial results at most. -/
def SameFrame (e e' : CaptureResultExtras) : Prop :=
  e.input=e'.input ∧ e.frameNumber=e'.frameNumber

/-- The frame has an entry, with these extras. -/
def Entry (s : PendingRequests M) (f : Nat) (e : CaptureResultExtras) : Prop :=
  ∃ r,s.pendingRequests.valueFor f=some r ∧ SameFrame e r.resultExtras

/-- Every entry was there before. -/
def Keeps (s t : PendingRequests M) : Prop := ∀ f e,t.Entry f e → s.Entry f e

variable {t u : PendingRequests M}

theorem Keeps.of_pending (h : t.pendingRequests=s.pendingRequests) : Keeps s t := by
  rintro f e ⟨r,hr,same⟩
  rw [h] at hr
  exact ⟨r,hr,same⟩

theorem Keeps.trans (h : Keeps s t) (h' : Keeps t u) : Keeps s u :=
  fun f e he => h f e (h' f e he)

theorem Keeps.store (h : s.Entry f extras) {q : PendingRequest M}
    (hq : SameFrame q.resultExtras extras) : Keeps s (s.store f q) := by
  obtain ⟨r,hr,same⟩ := h
  rintro g e ⟨p,hp,he⟩
  rw [PendingRequests.store,KeyedVector.valueFor_replaceValueFor] at hp
  split_ifs at hp with eq
  · subst eq
    rw [hr] at hp
    cases Option.some.inj hp
    have back := he.1.trans (hq.1.trans same.1)
    exact ⟨r,hr,back,he.2.trans (hq.2.trans same.2)⟩
  · exact ⟨p,hp,he⟩

theorem entry_self (h : s.pendingRequests.valueFor f=some r) : s.Entry f r.resultExtras :=
  ⟨r,h,rfl,rfl⟩

theorem returnOutputBuffer_keeps (s : PendingRequests M) (b : StreamBuffer) (ts : Int) (f : Nat) :
    Keeps s (s.returnOutputBuffer b ts f).1 := by
  unfold returnOutputBuffer
  split_ifs
  · cases h : s.pendingRequests.valueFor f with
    | none => exact .of_pending rfl
    | some r => exact .store (entry_self h) ⟨rfl,rfl⟩
  · exact .of_pending rfl

theorem returnOutputBuffers_keeps (s : PendingRequests M) (bs : List StreamBuffer) (ts : Int)
    (f : Nat) : Keeps s (s.returnOutputBuffers bs ts f).1 := by
  induction bs generalizing s with
  | nil => exact .of_pending rfl
  | cons b bs ih => exact (s.returnOutputBuffer_keeps b ts f).trans (ih _)

theorem remove_keeps (s : PendingRequests M) (f : Nat) :
    Keeps s (s.removePendingRequestLocked f).1 := by
  cases h : s.pendingRequests.valueFor f with
  | none => rw [remove_absent h]; exact .of_pending rfl
  | some r =>
    cases hc : r.complete with
    | false => rw [remove_incomplete h hc]; exact .of_pending rfl
    | true =>
      refine (s.returnOutputBuffers_keeps r.pendingBuffers 0 f).trans ?_
      simp only [removePendingRequestLocked,h,hc,if_true]
      rintro g e ⟨q,hq,same⟩
      rw [KeyedVector.valueFor_removeItem] at hq
      split_ifs at hq
      exact ⟨q,hq,same⟩

end Entries

variable [CameraMetadata M]

/-- A registered frame is new, or its entry was there before. -/
theorem mark_entry {n : Int} {g : Nat} {e : CaptureResultExtras}
    (h : (s.markPendingRequest f n extras).Entry g e) : s.Entry g e ∨ g=f ∧ SameFrame e extras := by
  obtain ⟨r,hr,same⟩ := h
  change (emplace s.pendingRequests f (.construct n extras)).valueFor g=some r at hr
  rw [emplace] at hr
  split_ifs at hr
  · exact .inl ⟨r,hr,same⟩
  · rw [KeyedVector.valueFor_add] at hr
    split_ifs at hr with eq
    · cases Option.some.inj hr
      exact .inr ⟨eq,same⟩
    · exact .inl ⟨r,hr,same⟩

theorem sendCaptureResult_passes (s : PendingRequests M) (m : M) (extras : CaptureResultExtras)
    (collected : M) (f : Nat) :
    Silent s (s.sendCaptureResult m extras collected f) ∨
    Passes f extras s (s.sendCaptureResult m extras collected f) := by
  have outcome := s.sendCaptureResult_outcome m extras collected f
  generalize s.sendCaptureResult m extras collected f=o at outcome ⊢
  have passed := s.passResult_expected extras.input f
  cases outcome with
  | unsent | late => exact Or.inl ⟨fun _ => rfl,rfl⟩
  | uncounted filled order | untimed filled order => exact Or.inr ⟨order,passed,Or.inl rfl⟩
  | sent filled order => exact Or.inr ⟨order,passed,Or.inr rfl⟩

theorem sendCaptureResult_keeps (s : PendingRequests M) (m : M) (extras : CaptureResultExtras)
    (collected : M) (f : Nat) : Keeps s (s.sendCaptureResult m extras collected f).1 :=
  .of_pending (s.sendCaptureResult_pending m extras collected f)

/-- Of the full result that a handler may send: none, or one with the extras of the frame's
entry, in order. -/
def SendsOne (f : Nat) (s : PendingRequests M) (o : PendingRequests M × List (ResultEvent M)) :
    Prop :=
  Silent s o ∨ ∃ e,s.Entry f e ∧ Passes f e s o

theorem notifyShutter_sends (s : PendingRequests M) (f : Nat) (ts : Int) :
    SendsOne f s (s.notifyShutter f ts) ∧ Keeps s (s.notifyShutter f ts).1 := by
  cases h : s.pendingRequests.valueFor f with
  | none =>
    rw [notifyShutter_absent h]
    exact ⟨Or.inl ⟨fun _ => rfl,rfl⟩,.of_pending rfl⟩
  | some r =>
    have called : results (s.shutterCalled r.resultExtras ts)=[] := by
      unfold shutterCalled
      split_ifs <;> rfl
    by_cases order : f < s.expectedShutter r.resultExtras.input
    · rw [notifyShutter_late h order]
      refine ⟨Or.inl ⟨fun _ => rfl,?_⟩,.of_pending rfl⟩
      rw [results_append,called]
      rfl
    rw [notifyShutter_passed h order]
    have first : Silent s (s.noteShutter r f ts,s.shutterCalled r.resultExtras ts) :=
      ⟨s.noteShutter_expectedResult r f ts,called⟩
    have noted : Keeps s (s.noteShutter r f ts) := by
      refine Keeps.trans (.of_pending (passShutter_pending s r.resultExtras.input f)) ?_
      refine .store (entry_self (r := r) ?_) ⟨rfl,rfl⟩
      rw [passShutter_pending]
      exact h
    let sent := (s.noteShutter r f ts).sendCaptureResult r.pendingMetadata r.resultExtras
      r.composedResult f
    let out := sent.1.returnOutputBuffers r.pendingBuffers ts f
    let stored := out.1.store f
      { (out.1.pendingRequests.valueFor f).getD r with pendingBuffers := [] }
    show SendsOne f s ((stored.removePendingRequestLocked f).1,s.shutterCalled r.resultExtras ts++
        (sent.2++(out.2++(stored.removePendingRequestLocked f).2))) ∧
      Keeps s (stored.removePendingRequestLocked f).1
    have entry : s.Entry f r.resultExtras := entry_self h
    constructor
    · have rest : Silent sent.1 ((stored.removePendingRequestLocked f).1,
          out.2++(stored.removePendingRequestLocked f).2) :=
        (returnOutputBuffers_silent _ _ _ _).append (remove_silent stored f).of_store
      rcases (s.noteShutter r f ts).sendCaptureResult_passes r.pendingMetadata r.resultExtras
        r.composedResult f with quiet|passes
      · exact Or.inl (first.append (quiet.append rest))
      · exact Or.inr ⟨r.resultExtras,entry,first.passes (passes.silent rest)⟩
    · have held : sent.1.pendingRequests.valueFor f=some { r with shutterTS := ts } := by
        rw [sendCaptureResult_pending]
        exact noteShutter_entry h ts
      obtain ⟨st,left,-⟩ := returnOutputBuffers_entry r.pendingBuffers ts held
      have kept : Keeps out.1 stored := by
        refine .store (entry_self left) ?_
        show SameFrame ((out.1.pendingRequests.valueFor f).getD r).resultExtras _
        rw [left]
        exact ⟨rfl,rfl⟩
      exact noted.trans ((sendCaptureResult_keeps _ _ _ _ _).trans
        ((returnOutputBuffers_keeps _ _ _ _).trans (kept.trans (remove_keeps _ f))))

omit [CameraMetadata M] in
theorem notifyError_keeps (s : PendingRequests M) (code : ErrorCode) (f : Nat) :
    Silent s (s.notifyError code f) ∧ Keeps s (s.notifyError code f).1 := by
  have sent := s.notifyError_results code f
  by_cases hc : code.perFrame
  · obtain ⟨told,-,-,equal⟩ := s.notifyError_perFrame hc f
    rw [equal] at sent ⊢
    cases hr : s.pendingRequests.valueFor f with
    | none =>
      rw [hr] at sent
      exact ⟨⟨fun _ => rfl,sent⟩,.of_pending rfl⟩
    | some r =>
      rw [hr] at sent
      exact ⟨⟨fun _ => rfl,sent⟩,.store (entry_self hr) ⟨rfl,rfl⟩⟩
  · cases code with
    | ERROR_DEVICE | other => exact ⟨⟨fun _ => rfl,rfl⟩,.of_pending rfl⟩
    | ERROR_REQUEST | ERROR_RESULT | ERROR_BUFFER => exact absurd (by simp [ErrorCode.perFrame]) hc

section Result

variable {result : CaptureResult}

theorem hold_extras (r : PendingRequest M) (result : CaptureResult) (md : List UInt8)
    (isFinal : Bool) (collected : M) :
    ((r.noteSensorTimestamp result).hold result md isFinal collected).resultExtras=
      r.resultExtras := by
  unfold PendingRequest.noteSensorTimestamp PendingRequest.hold
  split
  all_goals
    dsimp only
    split_ifs <;> rfl

theorem deliverResult_sends (r : PendingRequest M) (collected : M) (md : List UInt8)
    (isFinal : Bool) (h : s.Entry result.frameNumber extras)
    (hr : SameFrame r.resultExtras extras) :
    (Silent s (s.deliverResult r collected result md isFinal) ∨
      isFinal=true ∧ Passes result.frameNumber r.resultExtras s
        (s.deliverResult r collected result md isFinal)) ∧
    Keeps s (s.deliverResult r collected result md isFinal).1 := by
  let stored := s.store result.frameNumber
    ((r.noteSensorTimestamp result).hold result md isFinal collected)
  let sent := if isFinal=true ∧ r.shutterTS≠0 then
      stored.sendCaptureResult (CameraMetadata.ofRaw md) r.resultExtras collected
        result.frameNumber
    else (stored,[])
  let out := if 0 < r.shutterTS then
      sent.1.returnOutputBuffers result.outputBuffers r.shutterTS result.frameNumber
    else (sent.1,[])
  let removed := out.1.removePendingRequestLocked result.frameNumber
  show (Silent s (removed.1,sent.2++out.2++removed.2) ∨ isFinal=true ∧
    Passes result.frameNumber r.resultExtras s (removed.1,sent.2++out.2++removed.2)) ∧
    Keeps s removed.1
  have back : Silent sent.1 out ∧ Keeps sent.1 out.1 := by
    dsimp only [out]
    split_ifs
    · exact ⟨returnOutputBuffers_silent _ _ _ _,returnOutputBuffers_keeps _ _ _ _⟩
    · exact ⟨⟨fun _ => rfl,rfl⟩,.of_pending rfl⟩
  have gone := remove_silent out.1 result.frameNumber
  have kept : Keeps s stored := by
    refine .store h ?_
    rw [hold_extras]
    exact hr
  rw [List.append_assoc]
  by_cases final : isFinal=true ∧ r.shutterTS≠0
  · have go : sent=stored.sendCaptureResult (CameraMetadata.ofRaw md) r.resultExtras collected
        result.frameNumber := if_pos final
    have keep : Keeps stored sent.1 := by rw [go]; exact sendCaptureResult_keeps _ _ _ _ _
    refine ⟨?_,kept.trans (keep.trans (back.2.trans (remove_keeps _ _)))⟩
    have one := stored.sendCaptureResult_passes (CameraMetadata.ofRaw md) r.resultExtras collected
        result.frameNumber
    rw [← go] at one
    rcases one with quiet|passes
    · exact Or.inl (quiet.of_store.append (back.1.append gone))
    · have whole := passes.silent (back.1.append gone)
      exact Or.inr ⟨final.1,whole.order,whole.counter,whole.sent⟩
  · have go : sent=(stored,[]) := if_neg final
    have keep : Keeps stored sent.1 := by rw [go]; exact .of_pending rfl
    refine ⟨Or.inl ?_,kept.trans (keep.trans (back.2.trans (remove_keeps _ _)))⟩
    have quiet : Silent s sent := by rw [go]; exact ⟨fun _ => rfl,rfl⟩
    exact quiet.append (back.1.append gone)

/-- The block on partial metadata calls HandlePartialResult, or nothing; nothing when the
metadata is final. -/
theorem composePartial_told {q : PendingRequest M} {b : Bool} {told : List (ResultEvent M)}
    (ok : s.composePartial r result=.ok (q,b,told)) :
    told=[] ∨ s.carriesFinal result=false ∧
      ∃ m e,told=(s.handlePartialResult result.frameNumber m e).2 := by
  have outcome := s.composePartial_outcome r result
  rw [ok] at outcome
  cases outcome with
  | told range early packed tells =>
    subst tells
    refine Or.inr ⟨?_,_,_,rfl⟩
    rw [← carriesFinal_eq,decide_eq_true early]
    exact Bool.and_false _
  | kept => exact Or.inl rfl

omit [CameraMetadata M] in
theorem notePartialCount_frame (r : PendingRequest M) (result : CaptureResult) :
    SameFrame (r.notePartialCount result).resultExtras r.resultExtras := by
  unfold PendingRequest.notePartialCount
  split_ifs <;> exact ⟨rfl,rfl⟩

/-- What a result does about full results: final metadata is sent at most once and in order,
otherwise only HandlePartialResult calls the client. -/
structure Answers (f : Nat) (final : Bool) (s : PendingRequests M)
    (o : PendingRequests M × List (ResultEvent M)) : Prop where
  full : final=true → SendsOne f s o
  rest : final=false → results o.2=[] ∨ ∃ m e,results o.2=results (s.handlePartialResult f m e).2
  keeps : Keeps s o.1

theorem processResult_answers (md : List UInt8)
    (h : s.pendingRequests.valueFor result.frameNumber=some r) :
    Answers result.frameNumber (s.carriesFinal result) s (s.processResult r result md) := by
  have entry := entry_self h
  have noted := notePartialCount_frame r result
  have failed (q : PendingRequest M) (told : List (ResultEvent M)) (e : SetError)
      (hq : SameFrame q.resultExtras r.resultExtras)
      (hp : told=[] ∨ s.carriesFinal result=false ∧
        ∃ m e,told=(s.handlePartialResult result.frameNumber m e).2) :
      Answers result.frameNumber (s.carriesFinal result) s
        (s.store result.frameNumber q,told++[.setErr e]) := by
    have same : results (told++[.setErr e])=results told := by simp [results,ResultEvent.result]
    refine ⟨fun final => Or.inl ⟨fun _ => rfl,?_⟩,fun _ => ?_,.store entry hq⟩
    · rw [same]
      rcases hp with rfl|⟨part,-⟩
      · rfl
      · rw [final] at part
        cases part
    · rw [same]
      rcases hp with rfl|⟨-,m,e,rfl⟩
      · exact Or.inl rfl
      · exact Or.inr ⟨m,e,rfl⟩
  unfold processResult
  dsimp only
  rcases s.composePartial_cases (r.notePartialCount result) result with
    ⟨-,e,hc⟩|⟨-,c,b,told,-,-,hc⟩
  · rw [hc]
    exact failed (r.notePartialCount result) [] e noted (Or.inl rfl)
  obtain ⟨q,same,hc⟩ : ∃ q,SameFrame q.resultExtras r.resultExtras ∧
      s.composePartial (r.notePartialCount result) result=.ok (q,_,told) := ⟨_,noted,hc⟩
  have silent := composePartial_told hc
  rw [hc]
  dsimp only
  rw [carriesFinal_eq]
  by_cases several : s.carriesFinal result=true ∧ q.isMetaPresent=true
  · rw [if_pos several]
    exact failed q told _ same silent
  rw [if_neg several]
  have accepted : (if s.carriesFinal result=true then s.acceptMetadata q
      else (q,CameraMetadata.empty)).1.resultExtras=q.resultExtras := by
    split_ifs
    · obtain ⟨c,hc⟩ := s.acceptMetadata_eq q
      rw [hc]
    · rfl
  generalize (if s.carriesFinal result=true then s.acceptMetadata q
    else (q,CameraMetadata.empty))=met at accepted ⊢
  have counted : SameFrame (met.1.countBuffers result).resultExtras r.resultExtras := by
    show SameFrame met.1.resultExtras r.resultExtras
    rw [accepted]
    exact same
  by_cases negative : (met.1.countBuffers result).buffersRemaining<0
  · rw [if_pos negative]
    exact failed _ told _ counted silent
  rw [if_neg negative]
  obtain ⟨sent,keeps⟩ := deliverResult_sends
    (met.1.countBuffers result) met.2 md (s.carriesFinal result) entry counted
  refine ⟨fun final => ?_,fun part => ?_,keeps⟩
  · have quiet : told=[] := silent.resolve_right fun part => by
      rw [part.1] at final
      cases final
    rw [quiet]
    exact sent.imp_right fun passes => ⟨_,⟨r,h,counted⟩,passes.2⟩
  · have quiet := (sent.resolve_right fun passes => by
      rw [part] at passes
      cases passes.1).sent
    simp only [results_append,quiet,List.append_nil]
    rcases silent with rfl|⟨-,m,e,rfl⟩
    · exact Or.inl rfl
    · exact Or.inr ⟨m,e,rfl⟩

theorem handleCaptureResult_answers (s : PendingRequests M) (result : CaptureResult) :
    Answers result.frameNumber (s.carriesFinal result) s (s.handleCaptureResult result) := by
  rcases s.handleCaptureResult_cases result with
    ⟨-,-,equal⟩|⟨-,⟨-,e,equal⟩|⟨queue,md,-,⟨-,-,equal⟩|⟨-,-,equal⟩|⟨r,hr,equal⟩⟩⟩
  · rw [equal]
    exact ⟨fun _ => Or.inl ⟨fun _ => rfl,rfl⟩,fun _ => Or.inl rfl,.of_pending rfl⟩
  · rw [equal]
    exact ⟨fun _ => Or.inl ⟨fun _ => rfl,rfl⟩,fun _ => Or.inl rfl,.of_pending rfl⟩
  · rw [equal]
    exact ⟨fun _ => Or.inl ⟨fun _ => rfl,rfl⟩,fun _ => Or.inl rfl,.of_pending rfl⟩
  · rw [equal]
    exact ⟨fun _ => Or.inl ⟨fun _ => rfl,rfl⟩,fun _ => Or.inl rfl,.of_pending rfl⟩
  · have done := processResult_answers (s := { s with resultMetadataQueue := queue }) md hr
    rw [equal]
    refine ⟨fun final => ?_,done.rest,done.keeps⟩
    rcases done.full final with quiet|⟨e,entry,passes⟩
    · exact Or.inl ⟨quiet.counter,quiet.sent⟩
    · exact Or.inr ⟨e,entry,passes.order,passes.counter,passes.sent⟩

end Result

end PendingRequests

/-- What happens to the table of pending requests: the request handler registers a frame, or a
message comes from the HAL. -/
inductive FrameCall
  | markPendingRequest (frameNumber : Nat) (numBuffers : Int) (resultExtras : CaptureResultExtras)
  | message (msg : HalMessage)

/-- The frame that a call registers, with the extras it gives it. -/
def FrameCall.marks : FrameCall → Option (Nat × CaptureResultExtras)
  | .markPendingRequest f _ extras | .message (.markPendingRequest f _ extras) => some (f,extras)
  | .message _ => none

/-- The client, and the full results it has passed to resultCb: the frame number that
SendCaptureResult was called with, and the extras sent. -/
structure ResultLog (M : Type) where
  client : PendingRequests M
  full : List (Nat × CaptureResultExtras) := []

namespace ResultLog

open PendingRequests

variable {M : Type} [CameraMetadata M]

/-- The full results that a message sends: those of a shutter, and those of a result whose
metadata is final. -/
def fullResults (s : PendingRequests M) (msg : HalMessage) : List (Nat × CaptureResultExtras) :=
  let sent := results (s.receive msg).2
  match msg with
  | .shutter f _ => sent.map fun e => (f,e)
  | .captureResult result =>
    if s.carriesFinal result then sent.map fun e => (result.frameNumber,e) else []
  | _ => []

/-- Every other result comes from HandlePartialResult. -/
theorem results_rest (s : PendingRequests M) (msg : HalMessage) :
    (fullResults s msg).map Prod.snd=results (s.receive msg).2 ∨ fullResults s msg=[] ∧
      ∃ f m e,results (s.receive msg).2=results (s.handlePartialResult f m e).2 := by
  cases msg with
  | shutter f ts => simp [fullResults,Function.comp_def]
  | captureResult result =>
    cases final : s.carriesFinal result with
    | true => simp [fullResults,final,Function.comp_def]
    | false =>
      rcases (s.handleCaptureResult_answers result).rest final with quiet|⟨m,e,told⟩
      · left
        simp only [fullResults,final,Bool.false_eq_true,if_false]
        exact quiet.symm
      · right
        refine ⟨?_,_,m,e,told⟩
        simp only [fullResults,final,Bool.false_eq_true,if_false]
  | error code f => exact Or.inl (s.notifyError_results code f).symm
  | markPendingRequest | writeMetadata | flush => exact Or.inl rfl

def next (w : ResultLog M) : FrameCall → ResultLog M
  | .markPendingRequest f n extras => { w with client := w.client.markPendingRequest f n extras }
  | .message msg =>
    { client := (w.client.receive msg).1
      full := w.full++(fullResults w.client msg).filter fun p => p.2.input=false }

def Step (w : ResultLog M) (call : FrameCall) (w' : ResultLog M) : Prop := w'=w.next call

/-- A frame number before the last that 32 bits hold; `own` says that the extras carry it. -/
def Marked (own : Prop) (f : Nat) (extras : CaptureResultExtras) : Prop :=
  f+1<2^32 ∧ (own → extras.frameNumber=f)

theorem Marked.sameFrame {own : Prop} {f : Nat} {e e' : CaptureResultExtras}
    (h : Marked own f e') (same : SameFrame e e') : Marked own f e :=
  ⟨h.1,fun o => same.2.trans (h.2 o)⟩

/-- The full results of output frames have been sent in order and below the counter, and
everything is of marked frames. -/
structure Inv (own : Prop) (w : ResultLog M) : Prop where
  entries : ∀ f e,w.client.Entry f e → Marked own f e
  sent : ∀ p∈w.full,Marked own p.1 p.2
  order : (w.full.map Prod.fst).Pairwise (· < ·)
  below : ∀ p∈w.full,p.1 < w.client.nextResultFrameNumber

variable {own : Prop} {w w' : ResultLog M} {f : Nat} {calls : List FrameCall}
  {o : PendingRequests M × List (ResultEvent M)}

omit [CameraMetadata M] in
/-- Nothing is sent and the counter stays. -/
theorem Inv.silent (h : w.Inv own) {s : PendingRequests M} (keeps : Keeps w.client s)
    (counter : s.nextResultFrameNumber=w.client.nextResultFrameNumber) :
    ({ w with client := s } : ResultLog M).Inv own where
  entries := fun f e he => h.entries f e (keeps f e he)
  sent := h.sent
  order := h.order
  below := fun p hp => by rw [counter]; exact h.below p hp

omit [CameraMetadata M] in
/-- A result let through is above all that were sent, and the counter goes above it. -/
theorem Inv.passes (h : w.Inv own) {e : CaptureResultExtras} (entry : w.client.Entry f e)
    (passes : Passes f e w.client o) (keeps : Keeps w.client o.1) :
    ({
      client := o.1
      full := w.full++((results o.2).map fun e => (f,e)).filter fun p => p.2.input=false } :
      ResultLog M).Inv own := by
  have marked := h.entries f e entry
  have counter : o.1.nextResultFrameNumber=_ := passes.counter false
  cases input : e.input with
  | true =>
    rw [input,if_neg (by decide)] at counter
    have unsent : ((results o.2).map fun e => (f,e)).filter (fun p => p.2.input=false)=[] := by
      rcases passes.sent with none_sent|one <;> simp [*]
    rw [unsent,List.append_nil]
    exact h.silent keeps counter
  | false =>
    have order : w.client.nextResultFrameNumber≤f := by
      have expected := passes.order
      rw [input] at expected
      exact expected
    rw [input,if_pos rfl,frameAfter,Nat.mod_eq_of_lt marked.1] at counter
    have low : ∀ p∈w.full,p.1 < f := fun p hp => (h.below p hp).trans_le order
    have sent : ((results o.2).map fun e => (f,e)).filter (fun p => p.2.input=false)=[] ∨
        ((results o.2).map fun e => (f,e)).filter (fun p => p.2.input=false)=[(f,e)] := by
      rcases passes.sent with none_sent|one
      · exact Or.inl (by simp [none_sent])
      · exact Or.inr (by simp [one,input])
    rcases sent with same|more
    · rw [same,List.append_nil]
      refine ⟨fun g d hd => h.entries g d (keeps g d hd),h.sent,h.order,fun p hp => ?_⟩
      show p.1 < o.1.nextResultFrameNumber
      rw [counter]
      exact (low p hp).trans (Nat.lt_succ_self f)
    · rw [more]
      refine ⟨fun g d hd => h.entries g d (keeps g d hd),?_,?_,?_⟩
      · intro p hp
        rcases List.mem_append.mp hp with old|new
        · exact h.sent p old
        · rw [List.mem_singleton.mp new]
          exact marked
      · rw [List.map_append,List.pairwise_append]
        refine ⟨h.order,List.pairwise_singleton _ _,?_⟩
        intro a ha b hb
        obtain ⟨p,hp,rfl⟩ := List.mem_map.mp ha
        rw [List.mem_singleton.mp hb]
        exact low p hp
      · intro p hp
        show p.1 < o.1.nextResultFrameNumber
        rw [counter]
        rcases List.mem_append.mp hp with old|new
        · exact (low p old).trans (Nat.lt_succ_self f)
        · rw [List.mem_singleton.mp new]
          exact Nat.lt_succ_self f

omit [CameraMetadata M] in
theorem Inv.sendsOne (h : w.Inv own) (sends : SendsOne f w.client o)
    (keeps : Keeps w.client o.1) :
    ({
      client := o.1
      full := w.full++((results o.2).map fun e => (f,e)).filter fun p => p.2.input=false } :
      ResultLog M).Inv own := by
  rcases sends with quiet|⟨e,entry,passes⟩
  · rw [quiet.sent,List.map_nil,List.filter_nil,List.append_nil]
    exact h.silent keeps (quiet.counter false)
  · exact h.passes entry passes keeps

theorem Inv.mark (h : w.Inv own) {n : Int} {extras : CaptureResultExtras}
    (marked : Marked own f extras) :
    ({ w with client := w.client.markPendingRequest f n extras } : ResultLog M).Inv own := by
  refine ⟨fun g e entry => ?_,h.sent,h.order,h.below⟩
  rcases mark_entry entry with old|⟨rfl,same⟩
  · exact h.entries g e old
  · exact marked.sameFrame same

theorem Inv.next (h : w.Inv own) (call : FrameCall)
    (marked : ∀ p,call.marks=some p → Marked own p.1 p.2) : (w.next call).Inv own := by
  cases call with
  | markPendingRequest f n extras => exact h.mark (marked (f,extras) rfl)
  | message msg =>
    cases msg with
    | markPendingRequest f n extras =>
      have same : w.full++[]=w.full := List.append_nil _
      have registered := h.mark (n := n) (marked (f,extras) rfl)
      simpa only [ResultLog.next,receive,fullResults,List.filter_nil,same] using registered
    | shutter f ts =>
      have sends := w.client.notifyShutter_sends f ts
      exact h.sendsOne sends.1 sends.2
    | captureResult result =>
      have answers := w.client.handleCaptureResult_answers result
      cases final : w.client.carriesFinal result with
      | true =>
        rw [final] at answers
        simp only [ResultLog.next,receive,fullResults,final,if_true]
        exact h.sendsOne (answers.full rfl) answers.keeps
      | false =>
        have counter : (w.client.handleCaptureResult result).1.nextResultFrameNumber=
            w.client.nextResultFrameNumber := by
          rcases (w.client.handleCaptureResult_counters result false).2 with same|⟨r,-,-,full,-⟩
          · exact same
          · rw [final] at full
            cases full
        simp only [ResultLog.next,receive,fullResults,final,Bool.false_eq_true,if_false,
          List.filter_nil,List.append_nil]
        exact h.silent answers.keeps counter
    | error code f =>
      have told := w.client.notifyError_keeps code f
      simp only [ResultLog.next,receive,fullResults,List.filter_nil,List.append_nil]
      exact h.silent told.2 (told.1.counter false)
    | writeMetadata | flush =>
      simp only [ResultLog.next,receive,fullResults,List.filter_nil,List.append_nil]
      exact h.silent (.of_pending rfl) rfl

theorem Inv.run (hr : Run Step w calls w') (h : w.Inv own)
    (marked : ∀ call∈calls,∀ p,call.marks=some p → Marked own p.1 p.2) : w'.Inv own := by
  have guarded := hr.guard (G := fun _ call => ∀ p,call.marks=some p → Marked own p.1 p.2)
    fun call hc _ => marked call hc
  refine guarded.invariant ?_ h
  rintro t call u ht ⟨hc,rfl⟩
  exact ht.next call hc

/-- The full results of output requests are sent with increasing frame numbers, at most one a
frame, whatever the HAL sends, as long as no frame number is the last of the counter. Where the
request handler registers each frame under its own number, the extras show the same numbers. -/
theorem full_results_increase {s : PendingRequests M}
    (hr : Run Step { client := { s with pendingRequests := KeyedVector.empty } } calls w)
    (unwrapped : ∀ call∈calls,∀ p,call.marks=some p → p.1+1<2^32) :
    (w.full.map Prod.fst).Pairwise (· < ·) ∧ (w.full.map Prod.fst).Nodup ∧
    ((∀ call∈calls,∀ p,call.marks=some p → p.2.frameNumber=p.1) →
      w.full.map (fun p => p.2.frameNumber)=w.full.map Prod.fst) := by
  have start : ∀ own,({ client := { s with pendingRequests := KeyedVector.empty } } :
      ResultLog M).Inv own := by
    refine fun own => ⟨?_,fun p hp => (by cases hp),.nil,fun p hp => (by cases hp)⟩
    rintro f e ⟨r,hr,-⟩
    cases hr
  have inv := (start False).run hr fun call hc p hp => ⟨unwrapped call hc p hp,False.elim⟩
  refine ⟨inv.order,inv.order.imp fun less => less.ne,fun own => ?_⟩
  have named := (start True).run hr fun call hc p hp =>
    ⟨unwrapped call hc p hp,fun _ => own call hc p hp⟩
  exact List.map_congr_left fun p hp => (named.sent p hp).2 trivial

/-- A result that comes before its shutter, one that comes after, and both again. -/
def lateShutters : List FrameCall :=
  let result (f : Nat) : HalMessage := .captureResult ⟨f,1,[9],[],false,1⟩
  [.message (.writeMetadata [9,9,9]),.markPendingRequest 0 1 (bareExtras 0),
    .markPendingRequest 1 1 (bareExtras 1),
    .message (.shutter 0 9),.message (result 1),.message (result 0),.message (.shutter 1 9),
    .message (result 1),.message (result 0),.message (.shutter 0 9)]

theorem full_results_increase_lateShutters :
    ∃ w : ResultLog PlainMetadata,
      Run Step { client := PendingRequests.plain } lateShutters w ∧
      w.full.map Prod.fst=[0,1] ∧ (w.full.map Prod.fst).Pairwise (· < ·) := by
  obtain ⟨w,hr,sent⟩ := Run.of_exec_any (r := Step (M := PlainMetadata))
    (f := fun w call => some (w.next call)) (p := fun w => w.full.map Prod.fst=[0,1])
    { client := PendingRequests.plain } lateShutters (fun w call t h => (Option.some.inj h).symm)
    (by decide)
  have unwrapped : ∀ call∈lateShutters,∀ p,call.marks=some p → p.1+1<2^32 := by
    simp [lateShutters,FrameCall.marks]
  exact ⟨w,hr,by simpa using sent,(full_results_increase (s := PendingRequests.plain) hr
    unwrapped).1⟩

end ResultLog
end IotMedia.Camera

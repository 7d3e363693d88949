import IotMedia.Camera.HandleCaptureResult

namespace IotMedia.Camera

open IotMedia.Framework

namespace PendingRequests

variable {M : Type} {f g : Nat} {s t : PendingRequests M} {r : PendingRequest M}

section Shutter

variable [CameraMetadata M]

/-- The counters of shutters after frame `f` was let through. -/
def passShutter (s : PendingRequests M) (input : Bool) (f : Nat) : PendingRequests M :=
  if input then { s with nextShutterInputFrameNumber := frameAfter f }
  else { s with nextShutterFrameNumber := frameAfter f }

omit [CameraMetadata M] in
theorem shutterInOrder_eq (s : PendingRequests M) (input : Bool) (f : Nat) :
    s.shutterInOrder input f=
      if f < s.expectedShutter input then .error (.shutterOutOfOrder (s.expectedShutter input) f)
      else .ok (s.passShutter input f) := by
  cases input <;> rfl

omit [CameraMetadata M] in
theorem passShutter_rest (s : PendingRequests M) (input : Bool) (f : Nat) :
    ∃ a b,s.passShutter input f=
      { s with nextShutterFrameNumber := a,nextShutterInputFrameNumber := b } := by
  unfold passShutter
  split_ifs
  · exact ⟨_,_,rfl⟩
  · exact ⟨_,_,rfl⟩

omit [CameraMetadata M] in
theorem passShutter_pending (s : PendingRequests M) (input : Bool) (f : Nat) :
    (s.passShutter input f).pendingRequests=s.pendingRequests := by
  obtain ⟨a,b,h⟩ := s.passShutter_rest input f
  rw [h]

/-- The state in which the shutter of an entry has been noted. -/
def noteShutter (s : PendingRequests M) (r : PendingRequest M) (f : Nat) (ts : Int) :
    PendingRequests M :=
  (s.passShutter r.resultExtras.input f).store f { r with shutterTS := ts }

/-- The entry when the removal is tried after a shutter. -/
def afterShutter (r : PendingRequest M) (ts : Int) (st : Option ErrorCode) : PendingRequest M :=
  { r with shutterTS := ts,pendingBuffers := [],status := st }

/-- The call of the client's shutterCb. -/
def shutterCalled (s : PendingRequests M) (extras : CaptureResultExtras) (ts : Int) :
    List (ResultEvent M) :=
  if s.shutterCb then [.shutterCb extras ts] else []

/-- NotifyShutter from the noted shutter on: the entry is sent, its buffers are returned, and it is
closed. -/
def finishShutter (s : PendingRequests M) (r : PendingRequest M) (f : Nat) (ts : Int) :
    PendingRequests M × List (ResultEvent M) :=
  let sent := s.sendCaptureResult r.pendingMetadata r.resultExtras r.composedResult f
  let out := sent.1.returnOutputBuffers r.pendingBuffers ts f
  let q := (out.1.pendingRequests.valueFor f).getD r
  let removed := (out.1.store f { q with pendingBuffers := [] }).removePendingRequestLocked f
  (removed.1,sent.2++(out.2++removed.2))

theorem notifyShutter_absent (h : s.pendingRequests.valueFor f=none) (ts : Int) :
    s.notifyShutter f ts=(s,[.setErr (.shutterInvalidFrameNumber f)]) := by
  simp only [notifyShutter,h]

theorem notifyShutter_late (h : s.pendingRequests.valueFor f=some r)
    (late : f < s.expectedShutter r.resultExtras.input) (ts : Int) :
    s.notifyShutter f ts=(s,s.shutterCalled r.resultExtras ts++
      [.setErr (.shutterOutOfOrder (s.expectedShutter r.resultExtras.input) f)]) := by
  simp only [notifyShutter,h]
  rw [shutterInOrder_eq,if_pos late]
  rfl

theorem notifyShutter_passed (h : s.pendingRequests.valueFor f=some r)
    (order : ¬f < s.expectedShutter r.resultExtras.input) (ts : Int) :
    s.notifyShutter f ts=(((s.noteShutter r f ts).finishShutter r f ts).1,
      s.shutterCalled r.resultExtras ts++((s.noteShutter r f ts).finishShutter r f ts).2) := by
  simp only [notifyShutter,h]
  rw [shutterInOrder_eq,if_neg order]
  simp only [List.append_assoc]
  rfl

omit [CameraMetadata M] in
theorem shutterCalled_quiet (s : PendingRequests M) (extras : CaptureResultExtras) (ts : Int) :
    Quiet (s.shutterCalled extras ts) := by
  intro g
  unfold shutterCalled
  split_ifs <;> rfl

omit [CameraMetadata M] in
theorem shutterCalled_silent (s : PendingRequests M) (extras : CaptureResultExtras) (ts : Int) :
    setErrors (s.shutterCalled extras ts)=[] := by
  unfold shutterCalled
  split_ifs <;> rfl

omit [CameraMetadata M] in
theorem noteShutter_entry (h : s.pendingRequests.valueFor f=some r) (ts : Int) :
    (s.noteShutter r f ts).pendingRequests.valueFor f=some { r with shutterTS := ts } := by
  refine store_self _ (q := r) ?_ _
  rw [passShutter_pending]
  exact h

omit [CameraMetadata M] in
theorem noteShutter_expectedShutter (s : PendingRequests M) (r : PendingRequest M) (f : Nat)
    (ts : Int) (i : Bool) : (s.noteShutter r f ts).expectedShutter i=
      if i=r.resultExtras.input then frameAfter f else s.expectedShutter i := by
  unfold noteShutter passShutter
  cases r.resultExtras.input <;> cases i <;> rfl

omit [CameraMetadata M] in
theorem noteShutter_expectedResult (s : PendingRequests M) (r : PendingRequest M) (f : Nat)
    (ts : Int) (i : Bool) : (s.noteShutter r f ts).expectedResult i=s.expectedResult i := by
  unfold noteShutter passShutter
  cases r.resultExtras.input <;> cases i <;> rfl

/-- NotifyShutter: no entry, out of order, or the entry is sent, returned and closed. -/
theorem notifyShutter_cases (s : PendingRequests M) (f : Nat) (ts : Int) :
    (s.pendingRequests.valueFor f=none ∧
      s.notifyShutter f ts=(s,[.setErr (.shutterInvalidFrameNumber f)])) ∨
    ∃ r called,s.pendingRequests.valueFor f=some r ∧ Quiet called ∧ setErrors called=[] ∧
      ((f < s.expectedShutter r.resultExtras.input ∧ s.notifyShutter f ts=(s,called++[.setErr
        (.shutterOutOfOrder (s.expectedShutter r.resultExtras.input) f)])) ∨
      s.expectedShutter r.resultExtras.input≤f ∧ ∃ st,(r.status≠none → st≠none) ∧
        Closes f (afterShutter r ts st) r.pendingBuffers
          (setErrors ((s.noteShutter r f ts).sendCaptureResult r.pendingMetadata r.resultExtras
            r.composedResult f).2) (s.notifyShutter f ts)) := by
  cases h : s.pendingRequests.valueFor f with
  | none => exact Or.inl ⟨rfl,notifyShutter_absent h ts⟩
  | some r =>
    have quiet := s.shutterCalled_quiet r.resultExtras ts
    have silent := s.shutterCalled_silent r.resultExtras ts
    refine Or.inr ⟨r,s.shutterCalled r.resultExtras ts,rfl,quiet,silent,?_⟩
    by_cases ho : f < s.expectedShutter r.resultExtras.input
    · exact Or.inl ⟨ho,notifyShutter_late h ho ts⟩
    right
    refine ⟨not_lt.mp ho,?_⟩
    rw [notifyShutter_passed h ho ts]
    have sent : ((s.noteShutter r f ts).sendCaptureResult r.pendingMetadata r.resultExtras
        r.composedResult f).1.pendingRequests.valueFor f=some { r with shutterTS := ts } := by
      rw [sendCaptureResult_pending]
      exact noteShutter_entry h ts
    obtain ⟨st,entry,keep⟩ := returnOutputBuffers_entry r.pendingBuffers ts sent
    refine ⟨st,keep,?_⟩
    have cleared := store_self _ entry (afterShutter r ts st)
    have closed := remove_closes cleared (s.shutterCalled r.resultExtras ts++
      (((s.noteShutter r f ts).sendCaptureResult r.pendingMetadata r.resultExtras
        r.composedResult f).2++
      (((s.noteShutter r f ts).sendCaptureResult r.pendingMetadata r.resultExtras
        r.composedResult f).1.returnOutputBuffers r.pendingBuffers ts f).2))
    simp only [returnedFor_append,setErrors_append,quiet f,silent,
      (sendCaptureResult_cases _ _ _ _ _).2 f,returnOutputBuffers_returned,
      returnOutputBuffers_setErrors,List.nil_append,List.append_nil,List.append_assoc] at closed
    dsimp only [finishShutter]
    rw [entry]
    exact closed

omit [CameraMetadata M] in
theorem noteShutter_touches (s : PendingRequests M) (r : PendingRequest M) (f : Nat) (ts : Int) :
    Touches f s (s.noteShutter r f ts,[]) := by
  obtain ⟨a,b,h⟩ := s.passShutter_rest r.resultExtras.input f
  have passed : Touches f s (s.passShutter r.resultExtras.input f,[]) := by
    rw [h]
    exact touches_quiet rfl rfl rfl fun _ => rfl
  exact passed.trans (store_touches _ f _ fun _ => rfl)

theorem notifyShutter_touches (s : PendingRequests M) (f : Nat) (ts : Int) :
    Touches f s (s.notifyShutter f ts) := by
  cases h : s.pendingRequests.valueFor f with
  | none =>
    rw [notifyShutter_absent h]
    exact touches_quiet rfl rfl rfl fun _ => rfl
  | some r =>
    have quiet := s.shutterCalled_quiet r.resultExtras ts
    by_cases ho : f < s.expectedShutter r.resultExtras.input
    · rw [notifyShutter_late h ho]
      exact touches_quiet rfl rfl rfl (quiet.append fun _ => rfl)
    · rw [notifyShutter_passed h ho]
      have sent := (s.noteShutter_touches r f ts).trans (sendCaptureResult_touches
        (s.noteShutter r f ts) r.pendingMetadata r.resultExtras r.composedResult f)
      have out := sent.trans (returnOutputBuffers_touches _ r.pendingBuffers ts f)
      have stored := fun q => out.trans (store_touches _ f q (a := []) fun _ => rfl)
      have done := fun q => ((stored q).trans (remove_touches _ f)).quiet quiet
      simp only [List.append_assoc,List.nil_append] at done
      exact done _

theorem notifyShutter_counters (s : PendingRequests M) (f : Nat) (ts : Int) (i : Bool) :
    ((s.notifyShutter f ts).1.expectedShutter i=s.expectedShutter i ∨
      (s.notifyShutter f ts).1.expectedShutter i=frameAfter f) ∧
    ((s.notifyShutter f ts).1.expectedResult i=s.expectedResult i ∨
      ∃ r,s.pendingRequests.valueFor f=some r ∧ CameraMetadata.isEmpty r.pendingMetadata=false ∧
        (s.notifyShutter f ts).1.expectedResult i=frameAfter f) := by
  cases h : s.pendingRequests.valueFor f with
  | none =>
    rw [notifyShutter_absent h]
    exact ⟨Or.inl rfl,Or.inl rfl⟩
  | some r =>
    by_cases ho : f < s.expectedShutter r.resultExtras.input
    · rw [notifyShutter_late h ho]
      exact ⟨Or.inl rfl,Or.inl rfl⟩
    · rw [notifyShutter_passed h ho,finishShutter]
      dsimp only
      have sent := sendCaptureResult_counters (s.noteShutter r f ts) r.pendingMetadata
        r.resultExtras r.composedResult f i
      have passed : (s.noteShutter r f ts).expectedShutter i=s.expectedShutter i ∨
          (s.noteShutter r f ts).expectedShutter i=frameAfter f := by
        rw [noteShutter_expectedShutter]
        split_ifs
        · exact Or.inr rfl
        · exact Or.inl rfl
      rw [expectedShutter_eq,expectedResult_eq,remove_counters,store_counters,
        returnOutputBuffers_counters,← expectedShutter_eq,← expectedResult_eq]
      rw [← sent.1] at passed
      rw [← s.noteShutter_expectedResult r f ts i]
      refine ⟨passed,?_⟩
      cases sent.2 with
      | inl same => exact Or.inl same
      | inr moved => exact Or.inr ⟨r,rfl,moved⟩

end Shutter

section Error

/-- A frame's error only sets the status of its entry. -/
theorem notifyError_perFrame (s : PendingRequests M) {code : ErrorCode}
    (hc : code.perFrame) (f : Nat) : ∃ told,Quiet told ∧ setErrors told=[] ∧
      s.notifyError code f=((match s.pendingRequests.valueFor f with
        | some r => s.store f { r with status := some code }
        | none => s),told) := by
  have told : ∀ (c : CameraErrorCode) (e : CaptureResultExtras),
      Quiet (if s.flushOnGoing=false ∧ s.errorCb=true then [.errorCb c e] else [] :
        List (ResultEvent M)) ∧
      setErrors (if s.flushOnGoing=false ∧ s.errorCb=true then [.errorCb c e] else [] :
        List (ResultEvent M))=[] := by
    intro c e
    split_ifs
    · exact ⟨fun _ => rfl,rfl⟩
    · exact ⟨fun _ => rfl,rfl⟩
  rcases hc with rfl|rfl|rfl
  all_goals
    simp only [notifyError]
    cases hv : s.pendingRequests.valueFor f with
    | none => exact ⟨_,(told _ _).1,(told _ _).2,rfl⟩
    | some r => exact ⟨_,(told _ _).1,(told _ _).2,rfl⟩

theorem notifyError_touches (s : PendingRequests M) {code : ErrorCode}
    (hc : code.perFrame) (f : Nat) : Touches f s (s.notifyError code f) := by
  obtain ⟨told,quiet,-,h⟩ := s.notifyError_perFrame hc f
  rw [h]
  cases hv : s.pendingRequests.valueFor f with
  | none => exact touches_quiet rfl rfl rfl quiet
  | some r => exact s.store_touches f _ quiet

end Error

end PendingRequests
end IotMedia.Camera

import IotMedia.Camera.ReturnedBuffers

namespace IotMedia.Camera

open IotMedia.Framework

variable {M : Type}

def ResultEvent.timedReturn (frameNumber : Nat) : ResultEvent M → Option (StreamBuffer × Int)
  | .returnBufferToClient b ts f => if f=frameNumber then some (b,ts) else none
  | _ => none

/-- The buffers passed to ReturnBufferToClient for a frame, with their timestamps. -/
def timedReturns (frameNumber : Nat) (events : List (ResultEvent M)) :
    List (StreamBuffer × Int) :=
  events.filterMap (ResultEvent.timedReturn frameNumber)

@[simp] theorem timedReturns_nil (f : Nat) : timedReturns f ([] : List (ResultEvent M))=[] := rfl

@[simp] theorem timedReturns_append (f : Nat) (a b : List (ResultEvent M)) :
    timedReturns f (a++b)=timedReturns f a++timedReturns f b := List.filterMap_append

theorem timedReturns_buffers (f : Nat) (events : List (ResultEvent M)) :
    (timedReturns f events).map Prod.fst=returnedFor f events := by
  rw [timedReturns,returnedFor,List.map_filterMap]
  congr 1
  funext e
  cases e with
  | returnBufferToClient b ts g =>
    by_cases same : g=f
    · simp [ResultEvent.timedReturn,ResultEvent.returnedFor,same]
    · simp [ResultEvent.timedReturn,ResultEvent.returnedFor,same]
  | shutterCb | resultCb | errorCb | setErr => rfl

theorem timedReturns_quiet {f : Nat} {events : List (ResultEvent M)}
    (h : returnedFor f events=[]) : timedReturns f events=[] := by
  rw [← timedReturns_buffers] at h
  exact List.map_eq_nil_iff.mp h

namespace PendingRequests

/-- The buffers that wait for the frame's shutter. -/
def heldFor (f : Nat) (s : PendingRequests M) : List StreamBuffer :=
  ((s.pendingRequests.valueFor f).map PendingRequest.pendingBuffers).getD []

/-- The entry knows its time, one of `T`, or waits for it; without one it is only in error where
buffers may be returned at time 0. -/
structure Clocked (T : Int → Prop) (r : PendingRequest M) : Prop where
  empty : r.shutterTS≠0 → r.pendingBuffers=[]
  known : r.shutterTS≠0 → T r.shutterTS
  error : r.shutterTS=0 → r.status≠none → T 0

/-- What a handler does with the buffers of frame `f`: those held and those that came `now` are
returned or held in this order, and a return carries one of the times `T`. -/
structure Moves (f : Nat) (T : Int → Prop) (now : List StreamBuffer) (s : PendingRequests M)
    (o : PendingRequests M × List (ResultEvent M)) : Prop where
  order : (returnedFor f o.2++o.1.heldFor f).Sublist (s.heldFor f++now)
  times : ∀ p∈timedReturns f o.2,T p.2
  entry : ∀ r,o.1.pendingRequests.valueFor f=some r → Clocked T r

variable {f g : Nat} {T T' : Int → Prop} {now later : List StreamBuffer} {s t : PendingRequests M}
  {o p : PendingRequests M × List (ResultEvent M)} {q r : PendingRequest M}

theorem heldFor_some (h : s.pendingRequests.valueFor f=some r) : s.heldFor f=r.pendingBuffers := by
  rw [heldFor,h]
  rfl

theorem heldFor_none (h : s.pendingRequests.valueFor f=none) : s.heldFor f=[] := by
  rw [heldFor,h]
  rfl

theorem heldFor_congr (h : t.pendingRequests.valueFor f=s.pendingRequests.valueFor f) :
    t.heldFor f=s.heldFor f := by
  rw [heldFor,heldFor,h]

theorem Clocked.mono (h : Clocked T r) (wider : ∀ ts,T ts → T' ts) : Clocked T' r :=
  ⟨h.empty,fun known => wider _ (h.known known),fun zero st => wider _ (h.error zero st)⟩

theorem Moves.mono (h : Moves f T now s o) (wider : ∀ ts,T ts → T' ts) : Moves f T' now s o :=
  ⟨h.order,fun p hp => wider _ (h.times p hp),fun r hr => (h.entry r hr).mono wider⟩

theorem Moves.trans (h : Moves f T now s o) (h' : Moves f T later o.1 p) :
    Moves f T (now++later) s (p.1,o.2++p.2) where
  order := by
    rw [returnedFor_append,List.append_assoc,← List.append_assoc (s.heldFor f)]
    have after := h'.order.append_left (returnedFor f o.2)
    have before := h.order.append_right later
    rw [List.append_assoc] at before
    exact after.trans before
  times := by
    intro p hp
    rw [timedReturns_append] at hp
    exact (List.mem_append.mp hp).elim (h.times p) (h'.times p)
  entry := h'.entry

/-- Nothing happens to the frame's entry. -/
theorem moves_quiet (clocked : ∀ r,s.pendingRequests.valueFor f=some r → Clocked T r)
    (same : o.1.pendingRequests.valueFor f=s.pendingRequests.valueFor f)
    (quiet : returnedFor f o.2=[]) : Moves f T [] s o where
  order := by
    rw [quiet,heldFor_congr same,List.append_nil]
    exact List.Sublist.refl _
  times := by
    rw [timedReturns_quiet quiet]
    exact fun p hp => by cases hp
  entry := by
    rw [same]
    exact clocked

/-- A handler of another frame's message. -/
theorem Touches.moves (touches : Touches g s o) (other : f≠g)
    (clocked : ∀ r,s.pendingRequests.valueFor f=some r → Clocked T r) : Moves f T [] s o :=
  moves_quiet clocked (touches.pending f other) (touches.returned f other)

theorem Moves.quiet {told : List (ResultEvent M)} (h : Moves f T now s (t,[]))
    (quiet : Quiet told) : Moves f T now s (t,told) where
  order := by
    rw [quiet f]
    exact h.order
  times := by
    rw [timedReturns_quiet (quiet f)]
    exact h.times
  entry := h.entry

theorem Moves.called {called events : List (ResultEvent M)} (h : Moves f T now s (t,events))
    (quiet : Quiet called) : Moves f T now s (t,called++events) where
  order := by
    rw [returnedFor_append,quiet f]
    exact h.order
  times := by
    rw [timedReturns_append,timedReturns_quiet (quiet f)]
    exact h.times
  entry := h.entry

theorem Moves.among (h : Moves f T now s o) (more : now.Sublist later) : Moves f T later s o where
  order := h.order.trans (more.append_left _)
  times := h.times
  entry := h.entry

/-- The entry is replaced by one that holds more of what came. -/
theorem store_moves (hr : s.pendingRequests.valueFor f=some r)
    (held : q.pendingBuffers.Sublist (r.pendingBuffers++now)) (clocked : Clocked T q) :
    Moves f T now s (s.store f q,[]) := by
  have stored := store_self s hr q
  refine ⟨?_,(fun p hp => by cases hp),?_⟩
  · show (heldFor f (s.store f q)).Sublist _
    rw [heldFor_some stored,heldFor_some hr]
    exact held
  · intro r' hr'
    rw [stored] at hr'
    cases Option.some.inj hr'
    exact clocked

theorem returnOutputBuffer_timed (s : PendingRequests M) (b : StreamBuffer) (ts : Int) (f : Nat) :
    timedReturns f (s.returnOutputBuffer b ts f).2=[(b,ts)] := by
  unfold returnOutputBuffer
  split_ifs
  · cases s.pendingRequests.valueFor f <;> simp [timedReturns,ResultEvent.timedReturn]
  · simp [timedReturns,ResultEvent.timedReturn]

theorem returnOutputBuffers_timed (s : PendingRequests M) (bs : List StreamBuffer) (ts : Int)
    (f : Nat) : timedReturns f (s.returnOutputBuffers bs ts f).2=bs.map fun b => (b,ts) := by
  induction bs generalizing s with
  | nil => rfl
  | cons b bs ih =>
    simp only [returnOutputBuffers,timedReturns_append,returnOutputBuffer_timed,ih]
    rfl

/-- The buffers of an entry that holds none are returned at its time. -/
theorem returnOutputBuffers_moves (bs : List StreamBuffer)
    (hr : s.pendingRequests.valueFor f=some r) (known : r.shutterTS≠0) (clocked : Clocked T r) :
    Moves f T bs s (s.returnOutputBuffers bs r.shutterTS f) := by
  obtain ⟨st,entry,-⟩ := returnOutputBuffers_entry bs r.shutterTS hr
  refine ⟨?_,?_,?_⟩
  · rw [returnOutputBuffers_returned,heldFor_some entry,heldFor_some hr,clocked.empty known]
    simp
  · intro p hp
    rw [returnOutputBuffers_timed] at hp
    obtain ⟨b,-,rfl⟩ := List.mem_map.mp hp
    exact clocked.known known
  · intro r' hr'
    rw [entry] at hr'
    cases Option.some.inj hr'
    exact ⟨clocked.empty,clocked.known,fun zero => absurd zero known⟩

theorem remove_timed (s : PendingRequests M) (f : Nat) :
    ∀ p∈timedReturns f (s.removePendingRequestLocked f).2,p.2=0 := by
  intro p hp
  cases hr : s.pendingRequests.valueFor f with
  | none =>
    rw [remove_absent hr] at hp
    cases hp
  | some r =>
    cases hc : r.complete with
    | false =>
      rw [remove_incomplete hr hc] at hp
      cases hp
    | true =>
      have silent (error : SetError) (c : Prop) [Decidable c] :
          timedReturns f (if c then [ResultEvent.setErr error] else [] : List (ResultEvent M))=[] := by
        split_ifs <;> rfl
      simp only [removePendingRequestLocked,hr,hc,if_true,timedReturns_append,silent,
        returnOutputBuffers_timed,List.nil_append] at hp
      obtain ⟨b,-,rfl⟩ := List.mem_map.mp hp
      rfl

/-- Only an entry in error that no shutter reached leaves with buffers. -/
theorem remove_moves (clocked : ∀ r,s.pendingRequests.valueFor f=some r → Clocked T r) :
    Moves f T [] s (s.removePendingRequestLocked f) := by
  cases hr : s.pendingRequests.valueFor f with
  | none =>
    rw [remove_absent hr]
    exact moves_quiet clocked rfl rfl
  | some r =>
    cases hc : r.complete with
    | false =>
      rw [remove_incomplete hr hc]
      exact moves_quiet clocked rfl rfl
    | true =>
      obtain ⟨gone,returned,-⟩ := remove_complete hr hc
      have clock := clocked r hr
      refine ⟨?_,?_,?_⟩
      · rw [returned,heldFor_none gone,heldFor_some hr]
      · intro p hp
        have buffer := List.mem_map_of_mem (f := Prod.fst) hp
        rw [timedReturns_buffers,returned] at buffer
        have waits : r.shutterTS=0 := by
          by_contra known
          rw [clock.empty known] at buffer
          cases buffer
        have failed : r.status≠none := by
          intro ok
          simp [PendingRequest.complete,waits,ok] at hc
        rw [s.remove_timed f p hp]
        exact clock.error waits failed
      · intro r' hr'
        rw [gone] at hr'
        cases hr'

section Handlers

variable [CameraMetadata M] {result : CaptureResult} {md : List UInt8} {isFinal : Bool}

/-- Metadata is sent, or nothing is. -/
theorem sent_moves (c : Prop) [Decidable c] (m : M) (extras : CaptureResultExtras) (collected : M)
    (clocked : ∀ r,s.pendingRequests.valueFor f=some r → Clocked T r) :
    (if c then s.sendCaptureResult m extras collected f else (s,[])).1.pendingRequests=
      s.pendingRequests ∧
    Moves f T [] s (if c then s.sendCaptureResult m extras collected f else (s,[])) := by
  split_ifs
  · have same := s.sendCaptureResult_pending m extras collected f
    exact ⟨same,moves_quiet clocked (by rw [same]) ((sendCaptureResult_cases _ _ _ _ _).2 f)⟩
  · exact ⟨rfl,moves_quiet clocked rfl rfl⟩

theorem hold_fields (r : PendingRequest M) (result : CaptureResult) (md : List UInt8)
    (isFinal : Bool) (collected : M) :
    ((r.noteSensorTimestamp result).hold result md isFinal collected).shutterTS=r.shutterTS ∧
    ((r.noteSensorTimestamp result).hold result md isFinal collected).pendingBuffers=
      r.pendingBuffers++(if r.shutterTS=0 then result.outputBuffers else []) := by
  have held := held_from r result md isFinal collected r.status id
  exact ⟨held.shutterTS,held.pendingBuffers⟩

/-- Before its shutter the frame's buffers are held, after it they are returned at its time; a time
below zero lets them go. -/
theorem deliverResult_moves (r : PendingRequest M) (clocked : Clocked T r)
    (h : s.pendingRequests.valueFor result.frameNumber=some q)
    (held : q.pendingBuffers=r.pendingBuffers) :
    Moves result.frameNumber T result.outputBuffers s
      (s.deliverResult r collected result md isFinal) := by
  obtain ⟨time,buffers⟩ := hold_fields r result md isFinal collected
  have status := held_status r result md isFinal collected
  have stored := store_self s h ((r.noteSensorTimestamp result).hold result md isFinal collected)
  have waits : Clocked T ((r.noteSensorTimestamp result).hold result md isFinal collected) := by
    refine ⟨?_,?_,?_⟩
    · intro known
      rw [time] at known
      rw [buffers,if_neg known,clocked.empty known]
      rfl
    · rw [time]
      exact clocked.known
    · rw [time,status]
      exact clocked.error
  have first : Moves result.frameNumber T (if r.shutterTS=0 then result.outputBuffers else []) s
      (s.store result.frameNumber ((r.noteSensorTimestamp result).hold result md isFinal
        collected),[]) := by
    refine store_moves h ?_ waits
    rw [buffers,held]
  obtain ⟨same,second⟩ := sent_moves (isFinal=true ∧ r.shutterTS≠0) (CameraMetadata.ofRaw md)
    r.resultExtras collected first.entry
  unfold deliverResult
  dsimp only
  rw [List.append_assoc]
  generalize (if isFinal=true ∧ r.shutterTS≠0 then _ else _ :
    PendingRequests M × List (ResultEvent M))=sent at same second ⊢
  have before := first.trans second
  by_cases late : 0<r.shutterTS
  · rw [if_pos late]
    have entry : sent.1.pendingRequests.valueFor result.frameNumber=
        some ((r.noteSensorTimestamp result).hold result md isFinal collected) := by
      rw [same]
      exact stored
    have known : r.shutterTS≠0 := by omega
    have third := returnOutputBuffers_moves result.outputBuffers entry (by rw [time]; exact known)
      waits
    rw [time] at third
    have all := before.trans (third.trans (remove_moves third.entry))
    rw [List.append_assoc] at all
    refine all.among ?_
    simp [known]
  · rw [if_neg late]
    have all := before.trans (remove_moves before.entry)
    refine Moves.among all ?_
    split_ifs
    · simp
    · simp

/-- What HandleCaptureResult leaves alone in the entry before it delivers. -/
def Untouched (r q : PendingRequest M) : Prop :=
  q.shutterTS=r.shutterTS ∧ q.status=r.status ∧ q.pendingBuffers=r.pendingBuffers

omit [CameraMetadata M] in
theorem notePartialCount_untouched (r : PendingRequest M) (result : CaptureResult) :
    Untouched r (r.notePartialCount result) := by
  unfold PendingRequest.notePartialCount
  split_ifs
  · exact ⟨rfl,rfl,rfl⟩
  · exact ⟨rfl,rfl,rfl⟩

omit [CameraMetadata M] in
theorem Untouched.clocked (h : Untouched r q) (clocked : Clocked T r) : Clocked T q := by
  obtain ⟨time,status,held⟩ := h
  refine ⟨?_,?_,?_⟩
  · rw [time,held]
    exact clocked.empty
  · rw [time]
    exact clocked.known
  · rw [time,status]
    exact clocked.error

theorem processResult_moves (h : s.pendingRequests.valueFor result.frameNumber=some r)
    (clocked : Clocked T r) :
    Moves result.frameNumber T result.outputBuffers s (s.processResult r result md) := by
  -- an early exit stores the entry and lets the buffers of the result go
  have kept (q : PendingRequest M) (told : List (ResultEvent M)) (hq : Untouched r q)
      (quiet : Quiet told) :
      Moves result.frameNumber T result.outputBuffers s (s.store result.frameNumber q,told) := by
    refine (store_moves h ?_ (hq.clocked clocked)).quiet quiet
    rw [hq.2.2]
    exact List.sublist_append_left _ _
  have noted := notePartialCount_untouched r result
  unfold processResult
  dsimp only
  rcases s.composePartial_cases (r.notePartialCount result) result with
    ⟨-,e,composed⟩|⟨-,c,b,told,quiet,-,composed⟩
  · rw [composed]
    exact kept _ _ noted fun _ => rfl
  rw [composed]
  dsimp only
  have reported (e : SetError) : Quiet (told++[.setErr e]) := quiet.append fun _ => rfl
  have delivered (q : PendingRequest M) (hq : Untouched r q) (collected : M) (isFinal : Bool) :
      Moves result.frameNumber T result.outputBuffers s
        ((s.deliverResult q collected result md isFinal).1,
          told++(s.deliverResult q collected result md isFinal).2) :=
    (deliverResult_moves q (hq.clocked clocked) h hq.2.2.symm).called quiet
  split_ifs
  · refine kept _ _ ?_ (reported _)
    exact noted
  · obtain ⟨c',accepted⟩ := s.acceptMetadata_eq
      { r.notePartialCount result with composedResult := c,partial3AReceived := b }
    rw [accepted]
    refine kept _ _ ?_ (reported _)
    exact noted
  · obtain ⟨c',accepted⟩ := s.acceptMetadata_eq
      { r.notePartialCount result with composedResult := c,partial3AReceived := b }
    rw [accepted]
    refine delivered _ ?_ _ _
    exact noted
  · refine kept _ _ ?_ (reported _)
    exact noted
  · refine delivered _ ?_ _ _
    exact noted

theorem handleCaptureResult_moves
    (clocked : ∀ r,s.pendingRequests.valueFor result.frameNumber=some r → Clocked T r) :
    Moves result.frameNumber T result.outputBuffers s (s.handleCaptureResult result) := by
  have quiet := List.nil_sublist result.outputBuffers
  rcases s.handleCaptureResult_cases result with
    ⟨-,-,equal⟩|⟨-,⟨-,e,equal⟩|⟨queue,md,-,⟨-,-,equal⟩|⟨-,-,equal⟩|⟨r,hr,equal⟩⟩⟩
  · rw [equal]
    exact (moves_quiet clocked rfl rfl).among quiet
  · rw [equal]
    exact (moves_quiet clocked rfl rfl).among quiet
  · rw [equal]
    exact (moves_quiet clocked rfl rfl).among quiet
  · rw [equal]
    exact (moves_quiet clocked rfl rfl).among quiet
  · have read := moves_quiet (s := s) (o := ({ s with resultMetadataQueue := queue },[])) clocked
      rfl rfl
    rw [equal]
    exact read.trans (processResult_moves hr (clocked r hr))

/-- The shutter gives the entry its time, and what it held is returned at that time. -/
theorem notifyShutter_moves (clocked : ∀ r,s.pendingRequests.valueFor f=some r → Clocked T r)
    {ts : Int} (heard : T ts) : Moves f T [] s (s.notifyShutter f ts) := by
  cases hr : s.pendingRequests.valueFor f with
  | none =>
    rw [notifyShutter_absent hr]
    exact moves_quiet clocked rfl rfl
  | some r =>
    have quiet := s.shutterCalled_quiet r.resultExtras ts
    by_cases late : f < s.expectedShutter r.resultExtras.input
    · rw [notifyShutter_late hr late]
      exact moves_quiet clocked rfl ((quiet.append fun _ => rfl) f)
    rw [notifyShutter_passed hr late]
    unfold finishShutter
    dsimp only
    generalize hsent : (s.noteShutter r f ts).sendCaptureResult r.pendingMetadata r.resultExtras
      r.composedResult f=sent
    have told : Quiet sent.2 := by
      rw [← hsent]
      exact (sendCaptureResult_cases _ _ _ _ _).2
    have entry : sent.1.pendingRequests.valueFor f=some { r with shutterTS := ts } := by
      rw [← hsent,sendCaptureResult_pending]
      exact noteShutter_entry hr ts
    obtain ⟨st,after,-⟩ := returnOutputBuffers_entry r.pendingBuffers ts entry
    rw [after]
    have cleared := store_self _ after (afterShutter r ts st)
    have out : Moves f T [] s ((sent.1.returnOutputBuffers r.pendingBuffers ts f).1.store f
        (afterShutter r ts st),sent.2++(sent.1.returnOutputBuffers r.pendingBuffers ts f).2) := by
      refine ⟨?_,?_,?_⟩
      · rw [returnedFor_append,told f,returnOutputBuffers_returned,heldFor_some cleared,
          heldFor_some hr]
        exact List.Sublist.refl _
      · intro p hp
        rw [timedReturns_append,timedReturns_quiet (told f),returnOutputBuffers_timed] at hp
        obtain ⟨b,-,rfl⟩ := List.mem_map.mp hp
        exact heard
      · intro r' hr'
        rw [cleared] at hr'
        cases Option.some.inj hr'
        refine ⟨fun _ => rfl,fun _ => heard,?_⟩
        intro zero _
        have zero : ts=0 := zero
        rw [← zero]
        exact heard
    have all := (out.trans (remove_moves out.entry)).called quiet
    rw [List.append_assoc] at all
    exact all

omit [CameraMetadata M] in
theorem notifyError_moves (clocked : ∀ r,s.pendingRequests.valueFor f=some r → Clocked T r)
    (code : ErrorCode) (erring : code.perFrame → T 0) :
    Moves f T [] s (s.notifyError code f) := by
  by_cases hc : code.perFrame
  · obtain ⟨told,quiet,-,equal⟩ := s.notifyError_perFrame hc f
    rw [equal]
    cases hr : s.pendingRequests.valueFor f with
    | none => exact moves_quiet clocked rfl (quiet f)
    | some r =>
      have clock := clocked r hr
      have stored : Moves f T [] s (s.store f { r with status := some code },[]) := by
        refine store_moves hr ?_ ⟨clock.empty,clock.known,fun _ _ => erring hc⟩
        rw [List.append_nil]
      exact stored.quiet quiet
  · cases code with
    | ERROR_DEVICE | other => exact moves_quiet clocked rfl rfl
    | ERROR_REQUEST | ERROR_RESULT | ERROR_BUFFER => exact absurd (by simp [ErrorCode.perFrame]) hc

theorem markPendingRequest_moves
    (clocked : ∀ r,s.pendingRequests.valueFor f=some r → Clocked T r) (n : Int)
    (extras : CaptureResultExtras) : Moves f T [] s (s.markPendingRequest f n extras,[]) := by
  cases hr : s.pendingRequests.valueFor f with
  | some r =>
    refine moves_quiet clocked ?_ rfl
    simp [markPendingRequest,emplace,hr]
  | none =>
    have marked : (s.markPendingRequest f n extras).pendingRequests.valueFor f=
        some (.construct n extras) := by
      simp [markPendingRequest,emplace,hr]
    refine ⟨?_,(fun p hp => by cases hp),?_⟩
    · rw [heldFor_some marked]
      exact List.nil_sublist _
    · intro r' hr'
      rw [marked] at hr'
      cases Option.some.inj hr'
      exact ⟨fun _ => rfl,fun known => absurd rfl known,fun _ st => absurd rfl st⟩

/-- The buffers that a message reports for frame `f`. -/
def reportedFor (f : Nat) : HalMessage → List StreamBuffer
  | .captureResult result => if result.frameNumber=f then result.outputBuffers else []
  | _ => []

/-- The message gives frame `f` the time `ts`, or marks it as failed, which stands for time 0. -/
def Tells (f : Nat) (ts : Int) : HalMessage → Prop
  | .shutter g heard => g=f ∧ heard=ts
  | .error code g => g=f ∧ code.perFrame ∧ ts=0
  | _ => False

theorem receive_moves (clocked : ∀ r,s.pendingRequests.valueFor f=some r → Clocked T r)
    (msg : HalMessage) (told : ∀ ts,Tells f ts msg → T ts) :
    Moves f T (reportedFor f msg) s (s.receive msg) := by
  cases msg with
  | markPendingRequest g n extras =>
    by_cases same : g=f
    · subst same
      exact markPendingRequest_moves clocked n extras
    · refine moves_quiet clocked ?_ rfl
      exact emplace_other s.pendingRequests _ (Ne.symm same)
  | shutter g ts =>
    by_cases same : g=f
    · subst same
      exact notifyShutter_moves clocked (told ts ⟨rfl,rfl⟩)
    · exact (s.notifyShutter_touches g ts).moves (Ne.symm same) clocked
  | captureResult result =>
    by_cases same : result.frameNumber=f
    · subst same
      rw [reportedFor,if_pos rfl]
      exact handleCaptureResult_moves clocked
    · rw [reportedFor,if_neg same]
      exact (s.handleCaptureResult_touches result).moves (Ne.symm same) clocked
  | error code g =>
    by_cases same : g=f
    · subst same
      exact notifyError_moves clocked code fun perFrame => told 0 ⟨rfl,perFrame,rfl⟩
    · by_cases perFrame : code.perFrame
      · exact (s.notifyError_touches perFrame g).moves (Ne.symm same) clocked
      · cases code with
        | ERROR_DEVICE | other => exact moves_quiet clocked rfl rfl
        | ERROR_REQUEST | ERROR_RESULT | ERROR_BUFFER =>
          exact absurd (by simp [ErrorCode.perFrame]) perFrame
  | writeMetadata bytes => exact moves_quiet clocked rfl rfl
  | flush ongoing => exact moves_quiet clocked rfl rfl

end Handlers

end PendingRequests

namespace HalWorld

open PendingRequests

variable [CameraMetadata M] {s : PendingRequests M}

/-- From a start, any messages in any order: what was returned and is held for a frame moved there
from the reports of its results, at times that the messages told. -/
theorem receive_all_moves (hs : Start s) (msgs : List HalMessage) (f : Nat) :
    Moves f (fun ts => ∃ msg∈msgs,Tells f ts msg) (msgs.flatMap (reportedFor f)) s
      ((msgs.foldl receive ⟨s,fun _ => none,0,0,[]⟩).client,
        (msgs.foldl receive ⟨s,fun _ => none,0,0,[]⟩).log) := by
  induction msgs using List.reverseRecOn with
  | nil =>
    refine moves_quiet ?_ rfl rfl
    intro r hr
    rw [hs.pending,KeyedVector.valueFor_empty] at hr
    cases hr
  | append_singleton msgs msg ih =>
    rw [List.foldl_append,List.flatMap_append]
    have wider : ∀ ts,(∃ m∈msgs,Tells f ts m) → ∃ m∈msgs++[msg],Tells f ts m := by
      intro ts told
      obtain ⟨m,hm,tells⟩ := told
      exact ⟨m,List.mem_append_left _ hm,tells⟩
    have before := ih.mono wider
    have step := receive_moves before.entry msg fun ts tells =>
      ⟨msg,List.mem_append_right _ List.mem_cons_self,tells⟩
    obtain ⟨client,log⟩ :=
      (msgs.foldl receive (⟨s,fun _ => none,0,0,[]⟩ : HalWorld M)).receive_client msg
    have both := before.trans step
    dsimp only at both
    rw [← client,← log] at both
    simpa using both

/-- Whatever the HAL sends, no buffer of a frame is returned twice or comes from nowhere, and they
are returned in the order of the reports. Each return carries the time of one of the frame's
shutters, or 0 when an error of the frame was reported. -/
theorem buffers_returned_in_order (hs : Start s) (msgs : List HalMessage) (f : Nat) :
    let w := msgs.foldl receive ⟨s,fun _ => none,0,0,[]⟩
    (returnedFor f w.log++w.client.heldFor f).Sublist (msgs.flatMap (reportedFor f)) ∧
    ∀ p∈timedReturns f w.log,.shutter f p.2∈msgs ∨
      p.2=0 ∧ ∃ code,code.perFrame ∧ .error code f∈msgs := by
  have moves := receive_all_moves hs msgs f
  refine ⟨?_,?_⟩
  · have order := moves.order
    rw [heldFor_none (s := s) (by rw [hs.pending]; rfl)] at order
    exact order
  · intro p hp
    obtain ⟨msg,sent,tells⟩ := moves.times p hp
    cases msg with
    | shutter g ts =>
      obtain ⟨rfl,rfl⟩ := tells
      exact Or.inl sent
    | error code g =>
      obtain ⟨rfl,perFrame,zero⟩ := tells
      exact Or.inr ⟨zero,code,perFrame,sent⟩
    | markPendingRequest | captureResult | writeMetadata | flush => cases tells

/-- A buffer comes before its shutter, and the request then fails. -/
def failedRequest : List HalMessage :=
  [.markPendingRequest 0 1 firstExtras,resultOf [] [frameBuffer],.error .ERROR_REQUEST 0,
    resultOf [5] []]

theorem buffers_returned_failed :
    let w := failedRequest.foldl receive plainWorld
    timedReturns 0 w.log=[(frameBuffer,0)] ∧
    (returnedFor 0 w.log++w.client.heldFor 0).Sublist (failedRequest.flatMap (reportedFor 0)) ∧
    ∀ p∈timedReturns 0 w.log,.shutter 0 p.2∈failedRequest ∨
      p.2=0 ∧ ∃ code,code.perFrame ∧ .error code 0∈failedRequest :=
  ⟨by decide,buffers_returned_in_order plain_start failedRequest 0⟩

end HalWorld
end IotMedia.Camera

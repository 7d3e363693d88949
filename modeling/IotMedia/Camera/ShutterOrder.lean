import IotMedia.Camera.FullResults

namespace IotMedia.Camera

open IotMedia.Framework

variable {M : Type}

def ResultEvent.shutter : ResultEvent M → Option CaptureResultExtras
  | .shutterCb extras _ => some extras
  | _ => none

/-- The error of NotifyShutter's order check. -/
def ResultEvent.rejects : ResultEvent M → Bool
  | .setErr (.shutterOutOfOrder _ _) => true
  | _ => false

/-- The shutters passed to shutterCb, in this order. -/
def shutters (events : List (ResultEvent M)) : List CaptureResultExtras :=
  events.filterMap ResultEvent.shutter

/-- The client hears of no shutter, and none is rejected. -/
def Shutterless (events : List (ResultEvent M)) : Prop :=
  ∀ e∈events,e.shutter=none ∧ e.rejects=false

section Shutterless

variable {a b : List (ResultEvent M)}

theorem Shutterless.nil : Shutterless ([] : List (ResultEvent M)) := fun _ h => by cases h

theorem Shutterless.append (ha : Shutterless a) (hb : Shutterless b) : Shutterless (a++b) :=
  fun e he => (List.mem_append.mp he).elim (ha e) (hb e)

theorem Shutterless.shutters (h : Shutterless a) : shutters a=[] :=
  List.filterMap_eq_nil_iff.mpr fun e he => (h e he).1

theorem Shutterless.rejects (h : Shutterless a) : a.any ResultEvent.rejects=false := by
  rw [List.any_eq_false]
  intro e he
  rw [(h e he).2]
  exact Bool.false_ne_true

theorem shutterless_setErr {e : SetError} (h : ∀ expected got,e≠.shutterOutOfOrder expected got) :
    Shutterless ([.setErr e] : List (ResultEvent M)) := by
  intro event he
  rw [List.mem_singleton.mp he]
  refine ⟨rfl,?_⟩
  cases e <;> simp_all [ResultEvent.rejects]

end Shutterless

namespace PendingRequests

variable {f : Nat} {s : PendingRequests M} {r : PendingRequest M}

theorem returnOutputBuffer_shutterless (s : PendingRequests M) (b : StreamBuffer) (ts : Int)
    (f : Nat) : Shutterless (s.returnOutputBuffer b ts f).2 := by
  unfold returnOutputBuffer
  split_ifs
  · cases s.pendingRequests.valueFor f <;>
      simp [Shutterless,ResultEvent.shutter,ResultEvent.rejects]
  · simp [Shutterless,ResultEvent.shutter,ResultEvent.rejects]

theorem returnOutputBuffers_shutterless (s : PendingRequests M) (bs : List StreamBuffer) (ts : Int)
    (f : Nat) : Shutterless (s.returnOutputBuffers bs ts f).2 := by
  induction bs generalizing s with
  | nil => exact .nil
  | cons b bs ih => exact (s.returnOutputBuffer_shutterless b ts f).append (ih _)

theorem remove_shutterless (s : PendingRequests M) (f : Nat) :
    Shutterless (s.removePendingRequestLocked f).2 := by
  cases h : s.pendingRequests.valueFor f with
  | none => rw [remove_absent h]; exact .nil
  | some r =>
    cases hc : r.complete with
    | false => rw [remove_incomplete h hc]; exact .nil
    | true =>
      simp only [removePendingRequestLocked,h,hc,if_true]
      refine Shutterless.append ?_ (s.returnOutputBuffers_shutterless _ _ _)
      split_ifs
      · exact shutterless_setErr (by simp)
      · exact .nil

variable [CameraMetadata M]

theorem sendCaptureResult_shutterless (s : PendingRequests M) (m : M)
    (extras : CaptureResultExtras) (collected : M) (f : Nat) :
    Shutterless (s.sendCaptureResult m extras collected f).2 := by
  have outcome := s.sendCaptureResult_outcome m extras collected f
  generalize s.sendCaptureResult m extras collected f=o at outcome ⊢
  cases outcome with
  | unsent => exact .nil
  | late | uncounted | untimed => exact shutterless_setErr (by simp)
  | sent => simp [Shutterless,ResultEvent.shutter,ResultEvent.rejects]

theorem handlePartialResult_shutterless (s : PendingRequests M) (f : Nat) (m : M)
    (extras : CaptureResultExtras) : Shutterless (s.handlePartialResult f m extras).2 := by
  unfold handlePartialResult
  split_ifs
  · split
    · exact .nil
    · split
      · exact .nil
      · simp [Shutterless,ResultEvent.shutter,ResultEvent.rejects]
  · exact .nil

theorem deliverResult_shutterless (s : PendingRequests M) (r : PendingRequest M) (collected : M)
    (result : CaptureResult) (md : List UInt8) (isFinal : Bool) :
    Shutterless (s.deliverResult r collected result md isFinal).2 := by
  unfold deliverResult
  refine (Shutterless.append ?_ ?_).append (remove_shutterless _ _)
  · split_ifs
    · exact sendCaptureResult_shutterless _ _ _ _ _
    · exact .nil
  · split_ifs
    all_goals first
      | exact returnOutputBuffers_shutterless _ _ _ _
      | exact .nil

theorem composePartial_shutterless (s : PendingRequests M) (r : PendingRequest M)
    (result : CaptureResult) :
    (∃ e,s.composePartial r result=.error e ∧ Shutterless ([.setErr e] : List (ResultEvent M))) ∨
      ∃ q b told,s.composePartial r result=.ok (q,b,told) ∧ Shutterless told := by
  have outcome := s.composePartial_outcome r result
  generalize s.composePartial r result=o at outcome ⊢
  cases outcome with
  | outOfRange => exact .inl ⟨_,rfl,shutterless_setErr (by simp)⟩
  | told range early packed tells =>
    subst tells
    exact .inr ⟨_,_,_,rfl,s.handlePartialResult_shutterless _ _ _⟩
  | kept => exact .inr ⟨_,_,_,rfl,.nil⟩

theorem processResult_shutterless (s : PendingRequests M) (r : PendingRequest M)
    (result : CaptureResult) (md : List UInt8) :
    Shutterless (s.processResult r result md).2 := by
  unfold processResult
  rcases s.composePartial_shutterless (r.notePartialCount result) result with
    ⟨e,hc,quiet⟩|⟨q,b,told,hc,quiet⟩
  · simp only [hc]
    exact quiet
  · simp only [hc]
    split_ifs
    all_goals first
      | exact quiet.append (shutterless_setErr (by simp))
      | exact quiet.append (s.deliverResult_shutterless _ _ _ _ _)

omit [CameraMetadata M] in
theorem readResultMetadata_shutterless (s : PendingRequests M) (size : Nat) :
    (∃ e,s.readResultMetadata size=.error e ∧
      Shutterless ([.setErr e] : List (ResultEvent M))) ∨
      ∃ t md,s.readResultMetadata size=.ok (t,md) := by
  unfold readResultMetadata
  split_ifs
  · exact .inr ⟨_,_,rfl⟩
  · cases s.resultMetadataQueue with
    | none => exact .inl ⟨_,rfl,shutterless_setErr (by simp)⟩
    | some bytes =>
      dsimp only
      split_ifs
      · exact .inl ⟨_,rfl,shutterless_setErr (by simp)⟩
      · exact .inr ⟨_,_,rfl⟩

theorem handleCaptureResult_shutterless (s : PendingRequests M) (result : CaptureResult) :
    Shutterless (s.handleCaptureResult result).2 := by
  unfold handleCaptureResult
  split_ifs
  · exact .nil
  · exact shutterless_setErr (by simp)
  · rcases s.readResultMetadata_shutterless result.fmqResultSize with ⟨e,read,quiet⟩|⟨t,md,read⟩
    · simp only [read]
      exact quiet
    · simp only [read]
      cases t.pendingRequests.valueFor result.frameNumber with
      | some r => exact t.processResult_shutterless r result md
      | none =>
        dsimp only
        split_ifs
        · exact .nil
        · exact shutterless_setErr (by simp)

omit [CameraMetadata M] in
theorem notifyError_shutterless (s : PendingRequests M) (code : ErrorCode) (f : Nat) :
    Shutterless (s.notifyError code f).2 := by
  cases code with
  | ERROR_DEVICE | other => exact shutterless_setErr (by simp)
  | ERROR_REQUEST | ERROR_RESULT | ERROR_BUFFER =>
    simp only [notifyError]
    split_ifs <;> simp [Shutterless,ResultEvent.shutter,ResultEvent.rejects]

/-- NotifyShutter calls the client for every frame with an entry, before it checks the order. -/
theorem notifyShutter_calls (ts : Int) (h : s.pendingRequests.valueFor f=some r) :
    shutters (s.notifyShutter f ts).2=(if s.shutterCb=true then [r.resultExtras] else []) ∧
      (s.notifyShutter f ts).2.any ResultEvent.rejects=
        decide (f < s.expectedShutter r.resultExtras.input) ∧
      (s.expectedShutter r.resultExtras.input≤f → ∀ i,(s.notifyShutter f ts).1.expectedShutter i=
        if i=r.resultExtras.input then frameAfter f else s.expectedShutter i) := by
  have called : shutters (s.shutterCalled r.resultExtras ts)=
      (if s.shutterCb=true then [r.resultExtras] else []) ∧
      (s.shutterCalled r.resultExtras ts).any ResultEvent.rejects=false := by
    unfold shutterCalled
    split_ifs <;> exact ⟨rfl,rfl⟩
  by_cases late : f < s.expectedShutter r.resultExtras.input
  · rw [notifyShutter_late h late]
    refine ⟨?_,?_,fun order => absurd late (not_lt.mpr order)⟩
    · rw [← called.1]
      simp [shutters,ResultEvent.shutter]
    · simp [late,ResultEvent.rejects]
  rw [notifyShutter_passed h late]
  let sent := (s.noteShutter r f ts).sendCaptureResult r.pendingMetadata r.resultExtras
    r.composedResult f
  let out := sent.1.returnOutputBuffers r.pendingBuffers ts f
  let stored := out.1.store f
    { (out.1.pendingRequests.valueFor f).getD r with pendingBuffers := [] }
  let removed := stored.removePendingRequestLocked f
  have rest : Shutterless (sent.2++(out.2++removed.2)) :=
    (sendCaptureResult_shutterless _ _ _ _ _).append
      ((returnOutputBuffers_shutterless _ _ _ _).append (remove_shutterless _ _))
  show shutters (s.shutterCalled r.resultExtras ts++(sent.2++(out.2++removed.2)))=_ ∧
    (s.shutterCalled r.resultExtras ts++(sent.2++(out.2++removed.2))).any ResultEvent.rejects=_ ∧
    (_ → ∀ i,removed.1.expectedShutter i=_)
  refine ⟨?_,?_,fun _ i => ?_⟩
  · rw [shutters,List.filterMap_append]
    change shutters (s.shutterCalled r.resultExtras ts)++shutters (sent.2++(out.2++removed.2))=_
    rw [rest.shutters,List.append_nil,called.1]
  · rw [List.any_append,rest.rejects,called.2,decide_eq_false late]
    rfl
  · rw [expectedShutter_eq,remove_counters,store_counters,returnOutputBuffers_counters,
      ← expectedShutter_eq,(sendCaptureResult_counters _ _ _ _ _ i).1,noteShutter_expectedShutter]

end PendingRequests

/-- The frame numbers of a call are 32 bits wide. -/
def FrameCall.uint32 : FrameCall → Prop
  | .markPendingRequest f _ _ | .message (.markPendingRequest f _ _) | .message (.shutter f _) =>
    f < 2^32
  | .message _ => True

/-- The client, and the shutters it has passed to shutterCb: the frame number of the notification
and the extras. -/
structure ShutterLog (M : Type) where
  client : PendingRequests M
  delivered : List (Nat × CaptureResultExtras) := []
  /-- Those that NotifyShutter has then rejected. -/
  rejected : List CaptureResultExtras := []

namespace ShutterLog

open PendingRequests

variable [CameraMetadata M]

def next (w : ShutterLog M) : FrameCall → ShutterLog M
  | .markPendingRequest f n extras => { w with client := w.client.markPendingRequest f n extras }
  | .message (.shutter f ts) =>
    let out := w.client.notifyShutter f ts
    { client := out.1
      delivered := w.delivered++(shutters out.2).map fun e => (f,e)
      rejected := w.rejected++if out.2.any ResultEvent.rejects then shutters out.2 else [] }
  | .message msg =>
    let out := w.client.receive msg
    { client := out.1
      delivered := w.delivered++(shutters out.2).map fun e => (e.frameNumber,e)
      rejected := w.rejected++if out.2.any ResultEvent.rejects then shutters out.2 else [] }

/-- Only NotifyShutter calls shutterCb. -/
theorem receive_shutterless (s : PendingRequests M) {msg : HalMessage}
    (other : ∀ f ts,msg≠.shutter f ts) : Shutterless (s.receive msg).2 := by
  cases msg with
  | shutter f ts => exact absurd rfl (other f ts)
  | captureResult result => exact s.handleCaptureResult_shutterless result
  | error code f => exact s.notifyError_shutterless code f
  | markPendingRequest | writeMetadata | flush => exact .nil

def Step (w : ShutterLog M) (call : FrameCall) (w' : ShutterLog M) : Prop :=
  call.uint32 ∧ w'=w.next call

/-- The frames of output-only requests that the client has heard of. -/
def frames (w : ShutterLog M) : List Nat :=
  (w.delivered.filter fun p => p.2.input=false).map Prod.fst

structure InOrder (w : ShutterLog M) : Prop where
  increasing : w.frames.Pairwise (· < ·)
  accepted : w.rejected=[]

/-- A shutter that the client hears of is not behind the expected one, nor behind the last frame
number of all, after which the count starts again. -/
def Ordered (w : ShutterLog M) (call : FrameCall) : Prop :=
  ∀ f ts r,call=.message (.shutter f ts) → w.client.shutterCb=true →
    w.client.pendingRequests.valueFor f=some r →
      w.client.expectedShutter r.resultExtras.input≤f ∧
        (r.resultExtras.input=false → 2^32-1∉w.frames)

/-- The expected frame is behind all that the client has heard of, until the count starts again. -/
structure Inv (w : ShutterLog M) : Prop where
  below : 2^32-1∉w.frames → ∀ f∈w.frames,f < w.client.nextShutterFrameNumber
  range : ∀ f∈w.frames,f < 2^32
  silent : w.client.shutterCb=false → w.frames=[]

variable {w w' : ShutterLog M} {f : Nat} {ts : Int} {r : PendingRequest M} {call : FrameCall}

/-- A shutter of a frame without an entry is not passed on. -/
theorem next_absent (h : w.client.pendingRequests.valueFor f=none) :
    w.next (.message (.shutter f ts))=w := by
  have unknown : w.client.notifyShutter f ts=(w.client,[.setErr (.shutterInvalidFrameNumber f)]) :=
    by simp [notifyShutter,h]
  have quiet := shutterless_setErr (M := M) (e := .shutterInvalidFrameNumber f) (by simp)
  simp only [next,unknown,quiet.shutters,quiet.rejects,List.map_nil,Bool.false_eq_true,if_false,
    List.append_nil]

theorem next_frames (ts : Int) (h : w.client.pendingRequests.valueFor f=some r) :
    (w.next (.message (.shutter f ts))).frames=w.frames++
      if w.client.shutterCb=true ∧ r.resultExtras.input=false then [f] else [] := by
  obtain ⟨called,-,-⟩ := notifyShutter_calls ts h
  simp only [frames,next,called,List.filter_append,List.map_append]
  cases w.client.shutterCb <;> cases input : r.resultExtras.input <;> simp [input]

theorem next_rejected (ts : Int) (h : w.client.pendingRequests.valueFor f=some r) :
    (w.next (.message (.shutter f ts))).rejected=w.rejected++
      if w.client.shutterCb=true ∧ f < w.client.expectedShutter r.resultExtras.input then
        [r.resultExtras] else [] := by
  obtain ⟨called,rejects,-⟩ := notifyShutter_calls ts h
  simp only [next,called,rejects]
  cases w.client.shutterCb <;>
    by_cases late : f < w.client.expectedShutter r.resultExtras.input <;> simp [late]

omit [CameraMetadata M] in
theorem shutterCb_of_config {s t : PendingRequests M} (h : t.config=s.config) :
    t.shutterCb=s.shutterCb := congrArg (fun c => c.2.2.2.1) h

theorem next_message {msg : HalMessage} (other : ∀ f ts,msg≠.shutter f ts) :
    w.next (.message msg)={ w with client := (w.client.receive msg).1 } := by
  have none := receive_shutterless w.client other
  have told : w.next (.message msg)=
      ⟨(w.client.receive msg).1,
        w.delivered++(shutters (w.client.receive msg).2).map (fun e => (e.frameNumber,e)),
        w.rejected++if (w.client.receive msg).2.any ResultEvent.rejects then
          shutters (w.client.receive msg).2 else []⟩ := by
    cases msg with
    | shutter f ts => exact absurd rfl (other f ts)
    | _ => rfl
  rw [told,none.shutters,none.rejects]
  simp

/-- A call that is not a shutter leaves the order of the shutters alone. -/
theorem next_other (other : ∀ f ts,call≠.message (.shutter f ts)) :
    (w.next call).delivered=w.delivered ∧ (w.next call).rejected=w.rejected ∧
      (w.next call).client.shutterCb=w.client.shutterCb ∧
      (w.next call).client.nextShutterFrameNumber=w.client.nextShutterFrameNumber := by
  cases call with
  | markPendingRequest f n extras => exact ⟨rfl,rfl,rfl,rfl⟩
  | message msg =>
    rw [next_message fun f ts same => other f ts (by rw [same])]
    refine ⟨rfl,rfl,?_⟩
    cases msg with
    | shutter f ts => exact absurd rfl (other f ts)
    | markPendingRequest | writeMetadata | flush => exact ⟨rfl,rfl⟩
    | captureResult result =>
      refine ⟨?_,?_⟩
      · exact shutterCb_of_config (w.client.handleCaptureResult_touches result).config
      · exact (w.client.handleCaptureResult_counters result false).1
    | error code f =>
      by_cases perFrame : code.perFrame
      · obtain ⟨told,-,-,equal⟩ := w.client.notifyError_perFrame perFrame f
        simp only [receive,equal]
        cases w.client.pendingRequests.valueFor f <;> exact ⟨rfl,rfl⟩
      · cases code with
        | ERROR_DEVICE | other => exact ⟨rfl,rfl⟩
        | ERROR_REQUEST | ERROR_RESULT | ERROR_BUFFER =>
          exact absurd (by simp [ErrorCode.perFrame]) perFrame

omit [CameraMetadata M] in
theorem inv_of_frames_nil (h : w.frames=[]) : Inv w := by
  refine ⟨?_,?_,fun _ => h⟩ <;> simp [h]

theorem shutter_inv (h : Inv w) (bound : f < 2^32)
    (entry : w.client.pendingRequests.valueFor f=some r)
    (ordered : Ordered w (.message (.shutter f ts))) :
    Inv (w.next (.message (.shutter f ts))) := by
  have frames := next_frames ts entry
  by_cases told : w.client.shutterCb=true
  · obtain ⟨order,unwrapped⟩ := ordered f ts r rfl told entry
    have counter := (notifyShutter_calls ts entry).2.2 order false
    change (w.next (.message (.shutter f ts))).client.nextShutterFrameNumber=_ at counter
    have config := shutterCb_of_config (w.client.notifyShutter_touches f ts).config
    cases input : r.resultExtras.input with
    | true =>
      rw [input,if_neg (by simp)] at frames counter
      rw [List.append_nil] at frames
      refine ⟨?_,?_,?_⟩
      · rw [frames,counter]
        exact h.below
      · rw [frames]
        exact h.range
      · rw [frames]
        exact fun silent => h.silent (config.symm.trans silent)
    | false =>
      rw [input,if_pos ⟨told,rfl⟩] at frames
      rw [input,if_pos rfl] at counter
      rw [input] at order
      refine ⟨fun last => ?_,?_,?_⟩
      · rw [frames,List.mem_append,not_or,List.mem_singleton] at last
        rw [frames,counter,frameAfter,Nat.mod_eq_of_lt (by omega)]
        intro g hg
        rcases List.mem_append.mp hg with old|new
        · exact ((h.below last.1 g old).trans_le order).trans (Nat.lt_succ_self f)
        · rw [List.mem_singleton.mp new]
          exact Nat.lt_succ_self f
      · rw [frames]
        intro g hg
        rcases List.mem_append.mp hg with old|new
        · exact h.range g old
        · rw [List.mem_singleton.mp new]
          exact bound
      · exact fun silent => absurd (config.symm.trans silent) (by simp [told])
  · rw [if_neg fun called => told called.1,List.append_nil] at frames
    exact inv_of_frames_nil (frames.trans (h.silent (by simpa using told)))

theorem step_inv (h : Inv w) (step : Step w call w') (ordered : Ordered w call) : Inv w' := by
  obtain ⟨bound,rfl⟩ := step
  by_cases shutter : ∃ f ts,call=.message (.shutter f ts)
  · obtain ⟨f,ts,rfl⟩ := shutter
    cases entry : w.client.pendingRequests.valueFor f with
    | none =>
      rw [next_absent entry]
      exact h
    | some r => exact shutter_inv h bound entry ordered
  · obtain ⟨delivered,-,told,counter⟩ := next_other (w := w) fun f ts hc => shutter ⟨f,ts,hc⟩
    have frames : (w.next call).frames=w.frames := by simp only [ShutterLog.frames,delivered]
    refine ⟨?_,?_,?_⟩
    · rw [frames,counter]
      exact h.below
    · rw [frames]
      exact h.range
    · rw [frames,told]
      exact h.silent

omit [CameraMetadata M] in
theorem ordered_iff (entry : w.client.pendingRequests.valueFor f=some r) :
    Ordered w (.message (.shutter f ts)) ↔ (w.client.shutterCb=true →
      w.client.expectedShutter r.resultExtras.input≤f ∧
        (r.resultExtras.input=false → 2^32-1∉w.frames)) := by
  refine ⟨fun h told => h f ts r rfl told entry,?_⟩
  rintro h g tsg q same told hq
  cases same
  rw [entry] at hq
  cases Option.some.inj hq
  exact h told

theorem shutter_kept (h : Inv w) (order : InOrder w) (bound : f < 2^32)
    (entry : w.client.pendingRequests.valueFor f=some r) :
    InOrder (w.next (.message (.shutter f ts))) ↔ Ordered w (.message (.shutter f ts)) := by
  have frames := next_frames ts entry
  have rejected := next_rejected ts entry
  rw [ordered_iff entry]
  by_cases told : w.client.shutterCb=true
  · by_cases late : f < w.client.expectedShutter r.resultExtras.input
    · rw [if_pos ⟨told,late⟩] at rejected
      refine ⟨fun kept => ?_,fun ordered => absurd late (not_lt.mpr (ordered told).1)⟩
      rw [kept.accepted] at rejected
      simp at rejected
    rw [if_neg fun called => late called.2,List.append_nil,order.accepted] at rejected
    cases input : r.resultExtras.input with
    | true =>
      rw [input,if_neg (by simp),List.append_nil] at frames
      refine ⟨fun _ _ => ⟨input ▸ not_lt.mp late,by simp⟩,fun _ => ⟨?_,rejected⟩⟩
      rw [frames]
      exact order.increasing
    | false =>
      rw [input,if_pos ⟨told,rfl⟩] at frames
      rw [input] at late
      refine ⟨fun kept _ => ⟨not_lt.mp late,fun _ last => ?_⟩,fun ordered => ⟨?_,rejected⟩⟩
      · have increasing := kept.increasing
        rw [frames,List.pairwise_append] at increasing
        have behind := increasing.2.2 _ last f (List.mem_singleton_self f)
        omega
      · rw [frames,List.pairwise_append]
        refine ⟨order.increasing,List.pairwise_singleton _ _,?_⟩
        intro g hg k hk
        rw [List.mem_singleton.mp hk]
        exact (h.below ((ordered told).2 rfl) g hg).trans_le (not_lt.mp late)
  · rw [if_neg fun called => told called.1,List.append_nil] at frames
    rw [if_neg fun called => told called.1,List.append_nil,order.accepted] at rejected
    refine ⟨fun _ called => absurd called told,fun _ => ⟨?_,rejected⟩⟩
    rw [frames]
    exact order.increasing

theorem step_kept (h : Inv w) (order : InOrder w) (step : Step w call w') :
    InOrder w' ↔ Ordered w call := by
  obtain ⟨bound,rfl⟩ := step
  by_cases shutter : ∃ f ts,call=.message (.shutter f ts)
  · obtain ⟨f,ts,rfl⟩ := shutter
    cases entry : w.client.pendingRequests.valueFor f with
    | none =>
      rw [next_absent entry]
      refine ⟨fun _ => ?_,fun _ => order⟩
      rintro g tsg r same told hr
      cases same
      rw [entry] at hr
      cases hr
    | some r => exact shutter_kept h order bound entry
  · obtain ⟨delivered,rejected,-,-⟩ := next_other (w := w) fun f ts hc => shutter ⟨f,ts,hc⟩
    have frames : (w.next call).frames=w.frames := by simp only [ShutterLog.frames,delivered]
    refine ⟨fun _ f ts r hc => absurd ⟨f,ts,hc⟩ shutter,fun _ => ⟨?_,?_⟩⟩
    · rw [frames]
      exact order.increasing
    · rw [rejected]
      exact order.accepted

/-- Each frame is registered, and passed on, under its own number. -/
structure Named (w : ShutterLog M) : Prop where
  entries : ∀ f e,w.client.Entry f e → e.frameNumber=f
  delivered : ∀ p∈w.delivered,p.2.frameNumber=p.1

theorem next_keeps (h : Named w) (own : ∀ p,call.marks=some p → p.2.frameNumber=p.1) {g : Nat}
    {e : CaptureResultExtras} (entry : (w.next call).client.Entry g e) : e.frameNumber=g := by
  have marked {f : Nat} {n : Int} {extras : CaptureResultExtras} (hf : extras.frameNumber=f)
      (entry : (w.client.markPendingRequest f n extras).Entry g e) : e.frameNumber=g := by
    rcases mark_entry entry with old|⟨rfl,same⟩
    · exact h.entries g e old
    · exact same.2.trans hf
  cases call with
  | markPendingRequest f n extras => exact marked (own (f,extras) rfl) entry
  | message msg =>
    cases msg with
    | markPendingRequest f n extras => exact marked (own (f,extras) rfl) entry
    | shutter f ts => exact h.entries g e ((w.client.notifyShutter_sends f ts).2 g e entry)
    | captureResult result =>
      exact h.entries g e ((w.client.handleCaptureResult_answers result).keeps g e entry)
    | error code f => exact h.entries g e ((w.client.notifyError_keeps code f).2 g e entry)
    | writeMetadata | flush => exact h.entries g e entry

theorem step_named (h : Named w) (own : ∀ p,call.marks=some p → p.2.frameNumber=p.1)
    (step : Step w call w') : Named w' := by
  obtain ⟨-,rfl⟩ := step
  refine ⟨fun g e entry => next_keeps h own entry,?_⟩
  by_cases shutter : ∃ f ts,call=.message (.shutter f ts)
  · obtain ⟨f,ts,rfl⟩ := shutter
    cases entry : w.client.pendingRequests.valueFor f with
    | none =>
      rw [next_absent entry]
      exact h.delivered
    | some r =>
      have called := (notifyShutter_calls ts entry).1
      intro p hp
      simp only [next,called] at hp
      rcases List.mem_append.mp hp with old|new
      · exact h.delivered p old
      · split_ifs at new
        · rw [List.mem_singleton.mp new]
          exact h.entries f _ (entry_self entry)
        · cases new
  · rw [(next_other (w := w) fun f ts hc => shutter ⟨f,ts,hc⟩).1]
    exact h.delivered

/-- The client hears of the output-only frames in increasing order, and of none that is rejected,
in every run whose shutters come in order, and a shutter that does not breaks it. Where the request
handler registers each frame under its own number, the extras show the same numbers. -/
theorem shutters_increase {s : PendingRequests M} {calls : List FrameCall}
    (hr : Run (Guarded Ordered Step) { client := { s with pendingRequests := KeyedVector.empty } }
      calls w) :
    w.InOrder ∧ (∀ call w',Step w call w' → (w'.InOrder ↔ Ordered w call)) ∧
      ((∀ call∈calls,∀ p,call.marks=some p → p.2.frameNumber=p.1) →
        w.delivered.map (fun p => p.2.frameNumber)=w.delivered.map Prod.fst) := by
  have start : ({ client := { s with pendingRequests := KeyedVector.empty } } :
      ShutterLog M).InOrder := ⟨List.Pairwise.nil,rfl⟩
  have kept : w.InOrder ∧ ∀ call w',Step w call w' → (w'.InOrder ↔ Ordered w call) := by
    refine hr.kept_iff_guard (I := Inv) ?_ ?_ (inv_of_frames_nil rfl) start
    · exact fun t call u h _ step ordered => step_inv h step ordered
    · exact fun t call u h order step => step_kept h order step
  refine ⟨kept.1,kept.2,fun own => ?_⟩
  have named : Named w := by
    refine Run.invariant (P := Named) ?_
      (hr.guard (G := fun _ call => ∀ p,call.marks=some p → p.2.frameNumber=p.1)
        fun call hc _ => own call hc) ⟨?_,fun p hp => by cases hp⟩
    · rintro t call u ht ⟨named,-,step⟩
      exact step_named ht named step
    · rintro f e ⟨r,hr,-⟩
      cases hr
  exact List.map_congr_left fun p hp => named.delivered p hp

/-- Two frames, the second with its shutter before the first has its result. -/
def orderlyShutters : List FrameCall :=
  [.markPendingRequest 0 1 (bareExtras 0),.markPendingRequest 1 1 (bareExtras 1),
    .message (.shutter 0 5),.message (.shutter 1 6)]

omit [CameraMetadata M] in
theorem ordered_mark {g : Nat} {n : Int} {extras : CaptureResultExtras} :
    Ordered w (.markPendingRequest g n extras) := by
  rintro f ts r ⟨⟩

theorem shutters_increase_orderly : ∃ w : ShutterLog PlainMetadata,
    Run (Guarded Ordered Step) { client := PendingRequests.plain } orderlyShutters w ∧
      w.frames=[0,1] ∧ w.InOrder := by
  have run : Run (Guarded Ordered Step) { client := PendingRequests.plain } orderlyShutters
      (orderlyShutters.foldl next { client := PendingRequests.plain }) := by
    apply Run.of_follows (a := fun w call => Ordered w call ∧ call.uint32)
      (fun w call h => ⟨h.1,h.2,rfl⟩)
    refine ⟨⟨ordered_mark,by simp [FrameCall.uint32]⟩,⟨ordered_mark,by simp [FrameCall.uint32]⟩,
      ⟨?_,by simp [FrameCall.uint32]⟩,⟨?_,by simp [FrameCall.uint32]⟩,trivial⟩
    · exact (ordered_iff rfl).mpr fun _ => ⟨by decide,fun _ => by decide⟩
    · exact (ordered_iff rfl).mpr fun _ => ⟨by decide,fun _ => by decide⟩
  exact ⟨_,run,by decide,(shutters_increase (s := PendingRequests.plain) run).1⟩

/-- The second shutter of a frame is rejected, after the client has heard of it. -/
theorem rejected_shutter_delivered : ¬∀ (s : PendingRequests PlainMetadata) calls w,
    Run Step { client := { s with pendingRequests := KeyedVector.empty } } calls w → w.InOrder := by
  intro supposed
  let calls : List FrameCall := [.markPendingRequest 0 1 (bareExtras 0),.message (.shutter 0 5),
    .message (.shutter 0 6)]
  have run : Run Step { client := PendingRequests.plain } calls
      (calls.foldl next { client := PendingRequests.plain }) := by
    apply Run.of_follows (a := fun _ call => call.uint32) (fun w call h => ⟨h,rfl⟩)
    simp [calls,Follows,FrameCall.uint32]
  have increasing := (supposed PendingRequests.plain calls _ run).increasing
  revert increasing
  decide

end ShutterLog

end IotMedia.Camera

import IotMedia.Daemon.RequestBuffers
import IotMedia.Daemon.ResultBuffers

namespace IotMedia.Daemon

open IotMedia.Framework IotMedia.Camera PendingRequests

namespace BufferCircuit

variable {M : Type} {w w' : BufferCircuit M} {h : Handle} {f : Nat} {o : BufferHolder}

section Daemon

variable {d d' : UmdCamera} {step : VideoStep} {b : VideoBuffer}

theorem step_returned (h : d.Step step d') (other : ∀ handle,step≠.streamCb handle) :
    d'.passed=d.passed ∧ (¬CallsBack step ∧ d'.returned=d.returned ∨
      CallsBack step ∧ ∃ b,d'.returned=d.returned++[b]) := by
  have quiet (still : d'.passed=d.passed ∧ d'.returned=d.returned) (silent : ¬CallsBack step) :
      d'.passed=d.passed ∧ (¬CallsBack step ∧ d'.returned=d.returned ∨
        CallsBack step ∧ ∃ b,d'.returned=d.returned++[b]) :=
    ⟨still.1,.inl ⟨silent,still.2⟩⟩
  cases h.moved with
  | loopReturn => exact ⟨rfl,.inr ⟨.inl rfl,_,rfl⟩⟩
  | returnStreamBuffer => exact ⟨rfl,.inr ⟨.inr ⟨_,rfl⟩,_,rfl⟩⟩
  | streamCb => exact absurd rfl (other _)
  | stop | terminate =>
    refine quiet ?_ (by simp [CallsBack])
    unfold UmdCamera.cameraStop
    split <;> exact ⟨rfl,rfl⟩
  | enableVideoStream | enabled | disableVideoStream | disabled | setCameraMetadata | destroy
  | destroyed | start | submitRequest | join | testActive | testSize | timeout | popped
  | waitBuffer | mapBuffer | findSize | submitBuffer | push | unmapBuffer =>
    exact quiet ⟨rfl,rfl⟩ (by simp [CallsBack])

/-- A buffer lies in the daemon once at most. -/
theorem inFlight_le (placed : d.Placed) (b : VideoBuffer) : d.inFlight b ≤ 1 := by
  have once := List.nodup_iff_count_le_one.mp placed.nodup b
  have places := placed.places b
  omega

theorem inFlight_same (placed : d.Placed) (placed' : d'.Placed) (passed : d'.passed=d.passed)
    (returned : d'.returned=d.returned) (b : VideoBuffer) : d'.inFlight b=d.inFlight b := by
  have before := placed.places b
  have after := placed'.places b
  rw [passed,returned] at after
  omega

theorem inFlight_returned (placed : d.Placed) (placed' : d'.Placed) (passed : d'.passed=d.passed)
    (returned : d'.returned=d.returned++[b]) (c : VideoBuffer) :
    d.inFlight c=d'.inFlight c+[b].count c := by
  have before := placed.places c
  have after := placed'.places c
  rw [passed,returned,List.count_append] at after
  omega

/-- Another state of the daemon with the same buffers, or fewer. -/
theorem Inv.withDaemon (hi : Inv w) (placed : d'.Placed)
    (fewer : ∀ q o,({ w with daemon := d' } : BufferCircuit M).Holds q o → w.Holds q o)
    (single : ({ w with daemon := d' } : BufferCircuit M).custody.Single) :
    Inv { w with daemon := d' } :=
  { hi with
    single := single
    mapped := fun held frame => hi.mapped (fewer _ _ held) frame
    asked := fun held frame => hi.asked (fewer _ _ held) frame
    waiting := fun at_ => ⟨(hi.waiting at_).1,
      fun q o held => (hi.waiting at_).2 q o (fewer q o held)⟩
    placed := placed }

/-- ReturnStreamBuffer gives the buffer back to the stream, or drops it with the client in
error. -/
theorem returnStreamBuffer_next (hi : Inv w) (placed : d'.Placed) (here : w.Holds h (.daemon b))
    (gone : ∀ q o,({ w with daemon := d' } : BufferCircuit M).Holds q o ↔
      w.Holds q o ∧ o≠.daemon b) :
    let w' := ({ w with daemon := d' } : BufferCircuit M).returnStreamBuffer b.handle
    Inv w' ∧ ∃ lost,w.custody.Transfer lost w'.custody ∧
      (lost=none ↔ w.state=.CONFIGURED ∨ w.state=.RUNNING) := by
  have holds : ∀ q o,({ w with daemon := d' } : BufferCircuit M).Holds q o ↔
      w.Holds q o ∧ q≠h := fun q o => (gone q o).trans (hi.away here q o)
  have loses : w.custody.Transfer (some h) ({ w with daemon := d' } : BufferCircuit M).custody :=
    .lose (p := .daemon b) here rfl holds
  have kept : Inv { w with daemon := d' } :=
    hi.withDaemon placed (fun q o held => ((holds q o).mp held).1) (hi.single.transfer loses)
  intro w'
  by_cases serves : w.state=.CONFIGURED ∨ w.state=.RUNNING
  · have eq : w'=({ w with daemon := d' } : BufferCircuit M).after
        (w.stream.returnBuffer (some h)) := by
      show ({ w with daemon := d' } : BufferCircuit M).returnStreamBuffer b.handle=_
      rw [here.2,returnStreamBuffer]
      rcases serves with at_|at_
      · simp only [at_]
      · simp only [at_]
    obtain ⟨inv,same,used⟩ := kept.returned (s := w.stream) (hi.inUse here)
      (fun o held => ((holds h o).mp held).2 rfl) ⟨rfl,rfl,rfl,rfl,rfl⟩ rfl
      (fun _ _ mapped _ => mapped)
    rw [eq]
    exact ⟨inv,none,.giveBack (p := .daemon b) here used fun q o => (same q o).trans (holds q o),
      iff_of_true rfl serves⟩
  · have eq : w'={ w with daemon := d' } := by
      show ({ w with daemon := d' } : BufferCircuit M).returnStreamBuffer b.handle=_
      unfold returnStreamBuffer
      split
      · rfl
      · rfl
      · rfl
      · rfl
      next at_ => exact absurd (.inl at_) serves
      next at_ => exact absurd (.inr at_) serves
    rw [eq]
    exact ⟨kept,some h,loses,iff_of_false (by simp) serves⟩

theorem daemon_next [CameraMetadata M] {u : BufferUsage} (hi : Inv w)
    (h : Step u w (.daemon step) w') :
    Inv w' ∧ ∃ lost,w.custody.Transfer lost w'.custody ∧ (lost=none ↔ w.Kept (.daemon step)) := by
  obtain ⟨-,done⟩ := h
  have other : ∀ handle,step≠.streamCb handle := by
    rintro handle rfl
    cases done
  have moved : ∃ d',w.daemon.Step step d' ∧
      (d'.returned.drop w.daemon.returned.length).foldl
        (fun w b => w.returnStreamBuffer b.handle) { w with daemon := d' }=w' := by
    cases step with
    | streamCb handle => exact absurd rfl (other handle)
    | _ => exact Option.map_eq_some_iff.mp done
  obtain ⟨d',moves,rfl⟩ := moved
  have placed := UmdCamera.step_placed hi.placed moves
  obtain ⟨passed,⟨silent,returned⟩|⟨calls,b,returned⟩⟩ := step_returned moves other
  · have same : ∀ q o,({ w with daemon := d' } : BufferCircuit M).Holds q o ↔ w.Holds q o := by
      intro q o
      cases o with
      | daemon b =>
        show 0 < d'.inFlight b ∧ _ ↔ 0 < w.daemon.inFlight b ∧ _
        rw [inFlight_same hi.placed placed passed returned]
      | requestThread | hal | deviceClient => exact Iff.rfl
    have transfer : w.custody.Transfer none ({ w with daemon := d' } : BufferCircuit M).custody :=
      .still rfl same
    rw [returned,List.drop_length,List.foldl_nil]
    exact ⟨hi.withDaemon placed (fun q o => (same q o).mp) (hi.single.transfer transfer),none,
      transfer,iff_of_true rfl fun calls => absurd calls silent⟩
  · have flows := inFlight_returned hi.placed placed passed returned
    have flying : w.daemon.inFlight b=d'.inFlight b+1 := by
      have counted := flows b
      rwa [List.count_singleton_self] at counted
    have once := inFlight_le hi.placed b
    obtain ⟨h,handle⟩ := Option.isSome_iff_exists.mp
      (hi.placed.handles b (hi.placed.passed (by omega)))
    have gone : ∀ q o,({ w with daemon := d' } : BufferCircuit M).Holds q o ↔
        w.Holds q o ∧ o≠.daemon b := by
      intro q o
      cases o with
      | daemon c =>
        show 0 < d'.inFlight c ∧ c.handle=some q ↔
          (0 < w.daemon.inFlight c ∧ c.handle=some q) ∧ BufferHolder.daemon c≠.daemon b
        have counted := flows c
        by_cases same : c=b
        · subst same
          refine iff_of_false ?_ (by simp)
          rintro ⟨left,-⟩
          omega
        · rw [List.count_eq_zero_of_not_mem (by simpa using same)] at counted
          simp [same,counted]
      | requestThread | hal | deviceClient =>
        simp only [ne_eq,reduceCtorEq,not_false_eq_true,and_true]
        exact Iff.rfl
    rw [returned,List.drop_left,List.foldl_cons,List.foldl_nil]
    obtain ⟨inv,lost,transfer,none_lost⟩ := returnStreamBuffer_next hi placed
      (h := h) (b := b) ⟨by omega,handle⟩ gone
    exact ⟨inv,lost,transfer,none_lost.trans ⟨fun serves _ => serves,fun kept => kept calls⟩⟩

end Daemon

section Runs

variable [CameraMetadata M] {u : BufferUsage} {step : CircuitStep} {steps : List CircuitStep}

/-- A step moves at most one buffer, and loses one exactly if it is not `Kept`. -/
theorem step_next (hi : Inv w) (h : Step u w step w') :
    Inv w' ∧ ∃ lost,w.custody.Transfer lost w'.custody ∧ (lost=none ↔ w.Kept step) := by
  have moved (next : Inv w' ∧ w.custody.Transfer none w'.custody) (kept : w.Kept step) :
      Inv w' ∧ ∃ lost,w.custody.Transfer lost w'.custody ∧ (lost=none ↔ w.Kept step) :=
    ⟨next.1,none,next.2,iff_of_true rfl kept⟩
  cases step with
  | getBuffer f alloc => exact moved (getBuffer_next hi h) trivial
  | wakeGetBuffer waitRes alloc => exact moved (wakeGetBuffer_next hi h) trivial
  | markPendingRequest registered extras => exact moved (markPendingRequest_next hi h) trivial
  | processCaptureRequest accepted => exact moved (processCaptureRequest_next hi h) trivial
  | handleErrorRequest => exact moved (handleErrorRequest_next hi h) trivial
  | message msg =>
    obtain ⟨v,lost,done,inv,transfer,kept⟩ := message_next u hi h.1
    have performed := h.2
    rw [done] at performed
    cases Option.some.inj performed
    exact ⟨inv,lost,transfer,kept⟩
  | changeState state =>
    cases h.2
    have transfer : w.custody.Transfer none ({ w with state := state } : BufferCircuit M).custody :=
      .still rfl fun _ _ => Iff.rfl
    exact moved ⟨{ hi with single := hi.single.transfer transfer },transfer⟩ trivial
  | daemon step => exact daemon_next hi h

omit [CameraMetadata M] in
theorem Start.inv (hs : Start w) : Inv w := by
  have held : w.stream.held=∅ := by
    ext h
    exact iff_of_false (hs.owned.idle hs.pending h) (Set.notMem_empty h)
  have unheld (f : Nat) : w.client.heldFor f=[] :=
    heldFor_none (by rw [hs.entries]; rfl)
  have nobody : ∀ h o,¬w.Holds h o := by
    rintro h (f|f|f|b) held
    · have point : w.point.held=some (f,h) := held
      rw [hs.point] at point
      cases point
    · have member : (f,h)∈w.hal := held
      rw [hs.hal] at member
      cases member
    · exact held.1 (unheld f)
    · have flying := held.1
      rw [hs.quiet] at flying
      exact absurd flying (lt_irrefl 0)
  exact {
    owned := hs.owned
    status := hs.status
    pool := by
      rw [hs.log,held]
      exact .nil ∅
    single := ⟨fun one => absurd one (nobody _ _),fun one => absurd one (nobody _ _)⟩
    mapped := fun one => absurd one (nobody _ _)
    asked := fun one => absurd one (nobody _ _)
    waiting := fun at_ => by
      rw [hs.point] at at_
      cases at_
    entries := fun f some_ => absurd (unheld f) some_
    one := fun f => by
      rw [unheld]
      exact Nat.zero_le 1
    timed := fun f r hr => by
      rw [hs.entries,KeyedVector.valueFor_empty] at hr
      cases hr
    within := fun f r hr => by
      rw [hs.entries,KeyedVector.valueFor_empty] at hr
      cases hr
    placed := hs.placed }

theorem run_inv (hs : Start w) (hr : Run (Step u) w steps w') : Inv w' :=
  hr.invariant (fun _ _ _ hi h => (step_next hi h).1) hs.inv

/-- However the request thread, the HAL and the daemon interleave, a buffer has one holder at most
and is in use while it has one, each message of an honest HAL is handled, and what the daemon has
the stream takes back. -/
theorem buffers_have_one_holder (hs : Start w) (hr : Run (Step u) w steps w') :
    w'.custody.Single ∧ Exclusive (ownEvents w'.log) ∧
    (∀ msg,w'.Honest msg → (w'.perform u (.message msg)).isSome) ∧
    ∀ b,0 < w'.daemon.inFlight b →
      w'.daemon.inFlight b=1 ∧ (w'.stream.returnBuffer b.handle).ret=0 := by
  have inv := run_inv hs hr
  refine ⟨inv.single,inv.pool.exclusive,?_,?_⟩
  · intro msg honest
    obtain ⟨v,-,done,-⟩ := message_next u inv honest
    rw [done]
    rfl
  · intro b flying
    have once := inFlight_le inv.placed b
    obtain ⟨h,handle⟩ := Option.isSome_iff_exists.mp
      (inv.placed.handles b (inv.placed.passed flying))
    have here : w'.Holds h (.daemon b) := ⟨flying,handle⟩
    rw [handle]
    exact ⟨by omega,(returnBuffer_takenBack inv.owned inv.status (inv.inUse here)).1⟩

/-- A step of a trace that is replayed by evaluation. -/
def next (u : BufferUsage) (w : BufferCircuit M) (step : CircuitStep) : Option (BufferCircuit M) :=
  if w.Allowed step then w.perform u step else none

theorem step_of_next (h : next u w step=some w') : Step u w step w' := by
  unfold next at h
  split_ifs at h with allowed
  exact ⟨allowed,h⟩

/-- A stream of two buffers, configured, and a daemon whose video is off. -/
def previewCircuit : BufferCircuit PlainMetadata where
  id := 0
  stream := ((StreamWorld.preview.stream.beginConfigure .android).stream.endConfigure .android
    0).stream
  client := .plain
  daemon := .construct false

theorem preview_circuit_start : Start previewCircuit where
  owned := by
    have begun := Camera3Stream.beginConfigure_keeps .android
      (StreamWorld.construct_inv .android 0 0 ⟨640,480,.YCBCR_420_888,⟨kHwCameraWrite⟩,2⟩
        true).owned
    exact (Camera3Stream.endConfigure_keeps .android 0 begun.owned fun _ _ => rfl).owned
  status := rfl
  pending := rfl
  entries := rfl
  placed := (UmdCamera.construct_inv false).placed
  quiet := fun _ => rfl
  point := rfl
  hal := rfl
  log := rfl

/-- A buffer comes to StreamCb with the shutter of its frame, and goes back. -/
def returnedFrame : List CircuitStep :=
  [.getBuffer 0 (some 7),.markPendingRequest true HalWorld.firstExtras,.processCaptureRequest true,
    .message (HalWorld.resultOf [] [HalWorld.frameBuffer]),.message (.shutter 0 5),
    .daemon (.unmapBuffer 0),.daemon (.returnStreamBuffer 0)]

theorem buffers_have_one_holder_returned : ∃ w,
    Run (Step .android) previewCircuit returnedFrame w ∧ w.stream.pendingBufferCount=0 ∧
    w.custody.Single ∧ Exclusive (ownEvents w.log) := by
  obtain ⟨w,hr,idle⟩ := Run.of_exec_any (r := Step .android) (f := next .android)
    (p := fun w => w.stream.pendingBufferCount=0) previewCircuit returnedFrame
    (fun _ _ _ => step_of_next) (by decide)
  have held := buffers_have_one_holder preview_circuit_start hr
  exact ⟨w,hr,of_decide_eq_true idle,held.1,held.2.1⟩

/-- A buffer without a holder stays out of its stream in every later run. -/
theorem lost_forever {h : Handle} (hi : Inv w) (lost : w.custody.Lost h)
    (hr : Run (Step u) w steps w') : w'.custody.Lost h := by
  refine (hr.invariant (P := fun w => Inv w ∧ w.custody.Lost h) ?_ ⟨hi,lost⟩).2
  rintro v step v' ⟨inv,gone⟩ taken
  obtain ⟨inv',_,transfer,-⟩ := step_next inv taken
  exact ⟨inv',gone.transfer transfer⟩

/-- In every run that drops no buffer all that are in use have a holder; a step that drops one
loses it for good. -/
theorem buffers_covered_iff (hs : Start w) (hr : Run (Guarded Kept (Step u)) w steps w') :
    w'.custody.Covered ∧ ∀ step v,Step u w' step v → (v.custody.Covered ↔ w'.Kept step) ∧
      (¬w'.Kept step → ∃ h,∀ later v',Run (Step u) v later v' → v'.custody.Lost h) := by
  have covered : w.custody.Covered := by
    intro h used
    exact absurd used (hs.owned.idle hs.pending h)
  have kept : ∀ (t : BufferCircuit M) step v,Inv t → t.custody.Covered → Step u t step v →
      (v.custody.Covered ↔ t.Kept step) := by
    intro t step v inv all taken
    obtain ⟨-,lost,transfer,none_lost⟩ := step_next inv taken
    cases lost with
    | none => exact iff_of_true (all.transfer transfer) (none_lost.mp rfl)
    | some h =>
      refine iff_of_false (fun still => ?_) fun kept => by cases none_lost.mpr kept
      obtain ⟨used,nobody⟩ := inv.single.lost transfer
      obtain ⟨o,held⟩ := still h used
      exact nobody o held
  obtain ⟨all,further⟩ := hr.kept_iff_guard (I := Inv) (P := fun w => w.custody.Covered)
    (fun _ _ _ inv _ taken _ => (step_next inv taken).1) kept hs.inv covered
  refine ⟨all,fun step v taken => ⟨further step v taken,fun dropped => ?_⟩⟩
  have inv := run_inv hs hr.unguard
  obtain ⟨inv',lost,transfer,none_lost⟩ := step_next inv taken
  cases lost with
  | none => exact absurd (none_lost.mp rfl) dropped
  | some h =>
    refine ⟨h,fun later v' run => ?_⟩
    exact lost_forever inv' (inv.single.lost transfer) run

/-- The request of a frame whose shutter comes before its buffer. -/
def openFrame : List CircuitStep :=
  [.getBuffer 0 (some 7),.markPendingRequest true HalWorld.firstExtras,.processCaptureRequest true,
    .message (.shutter 0 5)]

theorem buffers_covered_iff_open : ∃ w,
    Run (Guarded Kept (Step .android)) previewCircuit openFrame w ∧
    w.stream.pendingBufferCount=1 ∧ w.custody.Covered ∧
    ∀ step v,Step .android w step v → (v.custody.Covered ↔ w.Kept step) := by
  obtain ⟨w,hr,used⟩ := Run.of_exec_any (r := Step .android) (f := next .android)
    (p := fun w => w.stream.pendingBufferCount=1) previewCircuit openFrame
    (fun _ _ _ => step_of_next) (by decide)
  have guarded : Run (Guarded Kept (Step .android)) previewCircuit openFrame w := by
    refine hr.guard fun step hs t => ?_
    simp only [openFrame,List.mem_cons,List.not_mem_nil,or_false] at hs
    rcases hs with rfl|rfl|rfl|rfl <;> exact trivial
  obtain ⟨covered,further⟩ := buffers_covered_iff preview_circuit_start guarded
  exact ⟨w,guarded,of_decide_eq_true used,covered,fun step v taken => (further step v taken).1⟩

end Runs

end BufferCircuit
end IotMedia.Daemon

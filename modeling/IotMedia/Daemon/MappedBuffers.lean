import IotMedia.Daemon.VideoBuffers

namespace IotMedia.Daemon

open IotMedia.Framework IotMedia.Camera

/-- What StreamCb and videoBufferLoop do with a buffer. MapBuffer stands for a successful one only,
and the answer of the gadget is a signed one. -/
inductive BufferEffect
  | MapBuffer (b : VideoBuffer)
  | submitBuffer (b : VideoBuffer) (bufidx : BitVec 32)
  | push (b : VideoBuffer)
  | UnmapBuffer (b : VideoBuffer)
  | ReturnStreamBuffer (b : VideoBuffer)
  deriving DecidableEq

namespace LoopStage

/-- What the loop unmaps next; without a handle it goes on to the next buffer. -/
def unmaps : LoopStage → List VideoBuffer
  | .popped buffer _ => if buffer.handle.isNone then [] else [buffer]
  | _ => []

def returns : LoopStage → List VideoBuffer
  | .unmapped buffer => [buffer]
  | _ => []

end LoopStage

namespace UmdCamera

def buffersAt (w : UmdCamera) (i : Nat) : List VideoBuffer :=
  w.calls[i]?.toList.map StreamCbCall.buffer

def effects (w : UmdCamera) : VideoStep → List BufferEffect
  | .mapBuffer i true => (w.buffersAt i).map .MapBuffer
  | .submitBuffer i bufidx => (w.buffersAt i).map (.submitBuffer · bufidx)
  | .push i => (w.buffersAt i).map .push
  | .unmapBuffer i => (w.buffersAt i).map .UnmapBuffer
  | .returnStreamBuffer i => (w.buffersAt i).map .ReturnStreamBuffer
  | .waitBuffer => w.loop.unmaps.map .UnmapBuffer
  | .loopReturn => w.loop.returns.map .ReturnStreamBuffer
  | _ => []

/-- StreamCb is called while the camera is active, and queues no buffer once videoBufferLoop is over;
and the gadget answers with an index. -/
def Accepts (w : UmdCamera) : VideoStep → Prop
  | .streamCb _ => w.mActive=true
  | .submitBuffer _ bufidx => 0 ≤ bufidx.toInt
  | .push i => w.Timely (.push i)
  | _ => True

end UmdCamera

open UmdCamera

/-- The camera with all that has been done so far. -/
structure BufferTrace where
  camera : UmdCamera
  log : List BufferEffect := []

namespace BufferTrace

def Step (t : BufferTrace) (step : VideoStep) (t' : BufferTrace) : Prop :=
  UmdCamera.Step t.camera step t'.camera ∧ t'.log=t.log++t.camera.effects step

def Accepts (t : BufferTrace) (step : VideoStep) : Prop := t.camera.Accepts step

def perform (t : BufferTrace) (step : VideoStep) : Option BufferTrace :=
  (t.camera.perform step).map fun camera => ⟨camera,t.log++t.camera.effects step⟩

def construct (mActive : Bool) : BufferTrace := { camera := .construct mActive }

/-- Each mapping is undone once and before the buffer is returned, none is undone that was not made,
and a buffer that was not submitted is not queued but returned by its call. No mapping is left, and
every buffer is back, as soon as the loop is over and no call is in progress. -/
structure Disciplined (t : BufferTrace) : Prop where
  once : ∀ p,p <+: t.log → ∀ b,p.count (.UnmapBuffer b) ≤ p.count (.MapBuffer b) ∧
    p.count (.MapBuffer b) ≤ p.count (.UnmapBuffer b)+1
  before : ∀ p q b,t.log=p++.ReturnStreamBuffer b::q →
    p.count (.MapBuffer b)=p.count (.UnmapBuffer b) ∧ .UnmapBuffer b∉q
  settled : ∀ b∈t.camera.passed,t.camera.inFlight b=0 →
    t.log.count (.MapBuffer b)=t.log.count (.UnmapBuffer b) ∧ .ReturnStreamBuffer b∈t.log
  ended : t.camera.loop=.exited → t.camera.calls=[] → ∀ b∈t.camera.passed,
    t.log.count (.MapBuffer b)=t.log.count (.UnmapBuffer b) ∧
      t.log.count (.ReturnStreamBuffer b)=1
  failed : ∀ b bufidx,.submitBuffer b bufidx∈t.log → bufidx.toInt<0 → .push b∉t.log ∧
    (b∈t.camera.calls.map StreamCbCall.buffer ∨ .ReturnStreamBuffer b∈t.log)

end BufferTrace

namespace StreamCbStage

/-- The buffer is mapped, as long as nobody calls StreamCb of an inactive camera. -/
def maps : StreamCbStage → Bool
  | .active => false
  | .failReturn => false
  | _ => true

end StreamCbStage

namespace LoopStage

def mapped : LoopStage → List VideoBuffer
  | .popped buffer _ => [buffer]
  | _ => []

end LoopStage

/-- The buffer of a call that has it mapped. -/
def StreamCbCall.mapped (call : StreamCbCall) : List VideoBuffer :=
  if call.stage.maps then [call.buffer] else []

namespace UmdCamera

variable {w w' : UmdCamera} {step : VideoStep}

/-- How often a buffer is somewhere where it is mapped. -/
def mappings (w : UmdCamera) (b : VideoBuffer) : Nat :=
  (w.mVideoBufferQueue.map Prod.fst).count b+w.loop.mapped.count b+
    (w.calls.flatMap StreamCbCall.mapped).count b

theorem mapped_le_calls (calls : List StreamCbCall) (b : VideoBuffer) :
    (calls.flatMap StreamCbCall.mapped).count b ≤ (calls.map StreamCbCall.buffer).count b := by
  induction calls with
  | nil => simp
  | cons call calls ih =>
    have head : call.mapped.count b ≤ [call.buffer].count b := by
      unfold StreamCbCall.mapped
      split <;> simp
    rw [List.flatMap_cons,List.count_append,List.map_cons,List.count_cons]
    simp only [List.count_cons,List.count_nil] at head
    omega

theorem mappings_le (w : UmdCamera) (b : VideoBuffer) : w.mappings b ≤ w.inFlight b := by
  have calls := mapped_le_calls w.calls b
  have loop : w.loop.mapped.count b ≤ w.loop.held.count b := by
    cases w.loop <;> simp [LoopStage.mapped,LoopStage.held]
  unfold mappings inFlight
  omega

section Calls

variable {i : Nat} {call : StreamCbCall}

theorem mapped_erase (here : w.calls[i]?=some call) (b : VideoBuffer) :
    (w.calls.flatMap StreamCbCall.mapped).count b=
      call.mapped.count b+((w.calls.eraseIdx i).flatMap StreamCbCall.mapped).count b := by
  obtain ⟨bound,found⟩ := List.getElem?_eq_some_iff.mp here
  have parts := (List.getElem_cons_eraseIdx_perm bound).flatMap_right StreamCbCall.mapped
  rw [found,List.flatMap_cons] at parts
  rw [← parts.count_eq b,List.count_append]

/-- A call that goes on changes what is mapped by its own buffer only. -/
theorem mappings_advance (here : w.calls[i]?=some call) (stage : StreamCbStage) (b : VideoBuffer) :
    (w.advance i call stage).mappings b+call.mapped.count b=
      w.mappings b+(StreamCbCall.mapped ⟨call.buffer,stage⟩).count b := by
  obtain ⟨bound,-⟩ := List.getElem?_eq_some_iff.mp here
  have before := mapped_erase here b
  have parts := (List.set_perm_cons_eraseIdx bound
    (⟨call.buffer,stage⟩ : StreamCbCall)).flatMap_right StreamCbCall.mapped
  have after := parts.count_eq b
  rw [List.flatMap_cons,List.count_append] at after
  simp only [mappings,advance]
  omega

theorem mappings_advance_same (here : w.calls[i]?=some call) {stage : StreamCbStage}
    (same : stage.maps=call.stage.maps) (b : VideoBuffer) :
    (w.advance i call stage).mappings b=w.mappings b := by
  have moved := mappings_advance here stage b
  simp only [StreamCbCall.mapped,same] at moved
  omega

theorem buffersAt_eq (here : w.calls[i]?=some call) : w.buffersAt i=[call.buffer] := by
  simp [buffersAt,here]

end Calls

theorem loop_mapped_nil {loop : LoopStage} (nothing : loop.held=[]) : loop.mapped=[] := by
  cases loop with
  | popped => cases nothing
  | _ => rfl

/-- What is mapped changes with the effects of a step. -/
theorem effects_balance (hp : Placed w) (ha : w.Accepts step) (h : Step w step w')
    (b : VideoBuffer) : (w.effects step).count (.MapBuffer b)+w.mappings b=
      (w.effects step).count (.UnmapBuffer b)+w'.mappings b := by
  cases h.moved with
  | enableVideoStream | enabled | disableVideoStream | disabled | setCameraMetadata | destroy
  | destroyed | submitRequest | join => simp [effects,mappings,pushMsg]
  | start at_ pending missing =>
    have unmapped := loop_mapped_nil (hp.idle missing)
    have fresh : LoopStage.testActive.mapped=[] := rfl
    simp [effects,mappings,unmapped,fresh]
  | stop | terminate =>
    simp only [effects,mappings,cameraStop]
    split <;> rfl
  | testActive at_ =>
    cases active : w.mActive <;> simp [effects,mappings,at_,LoopStage.mapped]
  | testSize at_ =>
    by_cases empty : w.mVideoBufferQueue=[] <;> simp [effects,mappings,at_,empty,LoopStage.mapped]
  | timeout at_ empty => simp [effects,mappings,at_,LoopStage.mapped]
  | popped at_ front =>
    simp only [effects,mappings,at_,front,LoopStage.mapped,List.map_cons,List.count_cons,
      List.count_nil]
    omega
  | waitBuffer at_ =>
    have handle := hp.handle at_
    simp [effects,mappings,at_,handle,LoopStage.unmaps,LoopStage.mapped,List.count_cons]
    omega
  | loopReturn at_ => simp [effects,mappings,at_,LoopStage.returns,LoopStage.mapped]
  | streamCb given =>
    have active : w.mActive=true := ha
    simp [effects,mappings,active,StreamCbCall.mapped,StreamCbStage.maps]
  | @mapBuffer i mapped call here at_ =>
    cases mapped with
    | true =>
      have moved := mappings_advance here .mapped b
      simp [at_,StreamCbCall.mapped,StreamCbStage.maps,List.count_cons] at moved
      simp [effects,buffersAt_eq here,List.count_cons,moved]
      omega
    | false =>
      rw [if_neg Bool.false_ne_true,mappings_advance_same here (by rw [at_]; rfl)]
      rfl
  | findSize here at_ =>
    rw [mappings_advance_same here (by rw [at_]; split <;> rfl)]
    rfl
  | submitBuffer here at_ =>
    rw [mappings_advance_same here (by rw [at_]; split <;> rfl)]
    simp [effects,buffersAt_eq here]
  | push here =>
    have before := mapped_erase here b
    simp [StreamCbCall.mapped,StreamCbStage.maps,List.count_cons] at before
    simp [effects,mappings,buffersAt_eq here,List.count_append,List.count_cons]
    omega
  | unmapBuffer here at_ =>
    have moved := mappings_advance here .failReturn b
    simp [at_,StreamCbCall.mapped,StreamCbStage.maps,List.count_cons] at moved
    simp [effects,buffersAt_eq here,List.count_cons]
    omega
  | returnStreamBuffer here at_ =>
    have before := mapped_erase here b
    simp [at_,StreamCbCall.mapped,StreamCbStage.maps] at before
    simp [effects,mappings,buffersAt_eq here,before]

theorem effects_returns (h : Step w step w') (b : VideoBuffer) :
    (w.effects step).count (.ReturnStreamBuffer b)+w.returned.count b=w'.returned.count b := by
  cases h.moved with
  | loopReturn at_ =>
    simp [effects,at_,LoopStage.returns,List.count_cons]
    omega
  | returnStreamBuffer here at_ =>
    simp [effects,buffersAt_eq here,List.count_cons]
    omega
  | stop | terminate =>
    simp only [effects,cameraStop]
    split <;> simp
  | waitBuffer => simp [effects,List.count_eq_zero]
  | @mapBuffer i mapped call here at_ => cases mapped <;> simp [effects,buffersAt_eq here,advance]
  | submitBuffer here | push here | unmapBuffer here => simp [effects,buffersAt_eq here,advance]
  | _ => simp [effects,pushMsg,advance]

theorem effects_single (w : UmdCamera) (step : VideoStep) :
    w.effects step=[] ∨ ∃ e,w.effects step=[e] := by
  have single {bs : List VideoBuffer} (short : bs=[] ∨ ∃ b,bs=[b])
      (f : VideoBuffer → BufferEffect) : bs.map f=[] ∨ ∃ e,bs.map f=[e] := by
    obtain rfl|⟨b,rfl⟩ := short
    · exact .inl rfl
    · exact .inr ⟨f b,rfl⟩
  have call (i : Nat) : w.buffersAt i=[] ∨ ∃ b,w.buffersAt i=[b] := by
    unfold buffersAt
    cases w.calls[i]? with
    | none => exact .inl rfl
    | some call => exact .inr ⟨call.buffer,rfl⟩
  cases step with
  | mapBuffer i mapped =>
    cases mapped with
    | true => exact single (call i) _
    | false => exact .inl rfl
  | submitBuffer i | push i | unmapBuffer i | returnStreamBuffer i => exact single (call i) _
  | waitBuffer =>
    refine single ?_ _
    unfold LoopStage.unmaps
    split
    · split <;> simp
    · simp
  | loopReturn =>
    refine single ?_ _
    unfold LoopStage.returns
    split <;> simp
  | _ => exact .inl rfl

theorem Accepts.timely (ha : w.Accepts step) : w.Timely step := by
  cases step with
  | push i => exact ha
  | _ => exact trivial

/-- An answer that is seen is the gadget's. -/
theorem effects_submit {b : VideoBuffer} {bufidx : BitVec 32} (ha : w.Accepts step)
    (seen : .submitBuffer b bufidx∈w.effects step) : 0 ≤ bufidx.toInt := by
  cases step with
  | submitBuffer i answer =>
    obtain ⟨_,-,same⟩ := List.mem_map.mp seen
    cases same
    exact ha
  | mapBuffer i mapped => cases mapped <;> simp [effects] at seen
  | _ => simp [effects] at seen

end UmdCamera

namespace BufferTrace

variable {t t' : BufferTrace} {step : VideoStep}

/-- What is mapped is somewhere, and what is back is nowhere. -/
structure Accounted (t : BufferTrace) : Prop where
  inv : Inv t.camera
  balance : ∀ b,t.log.count (.MapBuffer b)=t.log.count (.UnmapBuffer b)+t.camera.mappings b
  returns : ∀ b,t.log.count (.ReturnStreamBuffer b)=t.camera.returned.count b

theorem step_returns (hr : ∀ b,t.log.count (.ReturnStreamBuffer b)=t.camera.returned.count b)
    (h : Step t step t') (b : VideoBuffer) :
    t'.log.count (.ReturnStreamBuffer b)=t'.camera.returned.count b := by
  obtain ⟨moved,logged⟩ := h
  have before := hr b
  have change := effects_returns moved b
  rw [logged,List.count_append]
  omega

theorem step_accounted (ha : Accounted t) (accepts : t.Accepts step) (h : Step t step t') :
    Accounted t' := by
  obtain ⟨moved,logged⟩ := h
  refine ⟨step_inv ha.inv accepts.timely moved,?_,step_returns ha.returns ⟨moved,logged⟩⟩
  intro b
  have before := ha.balance b
  have change := effects_balance ha.inv.placed accepts moved b
  rw [logged,List.count_append,List.count_append]
  omega

theorem Accounted.flight_le (ha : Accounted t) (b : VideoBuffer) :
    t.log.count (.ReturnStreamBuffer b)+t.camera.inFlight b ≤ 1 := by
  have places := ha.inv.placed.places b
  have once := List.nodup_iff_count_le_one.mp ha.inv.placed.nodup b
  have returns := ha.returns b
  omega

theorem Accounted.sane (ha : Accounted t) (b : VideoBuffer) :
    t.log.count (.UnmapBuffer b) ≤ t.log.count (.MapBuffer b) ∧
      t.log.count (.MapBuffer b) ≤ t.log.count (.UnmapBuffer b)+1 := by
  have balance := ha.balance b
  have mapped := mappings_le t.camera b
  have flight := ha.flight_le b
  omega

/-- A buffer that is back is not mapped. -/
theorem Accounted.back (ha : Accounted t) {b : VideoBuffer}
    (back : .ReturnStreamBuffer b∈t.log) :
    t.log.count (.MapBuffer b)=t.log.count (.UnmapBuffer b) ∧ t.camera.mappings b=0 := by
  have balance := ha.balance b
  have mapped := mappings_le t.camera b
  have flight := ha.flight_le b
  have some_return := List.count_pos_iff.mpr back
  omega

/-- What the log shows of a run whose steps are all accepted. -/
structure History (t : BufferTrace) : Prop where
  once : ∀ p,p <+: t.log → ∀ b,p.count (.UnmapBuffer b) ≤ p.count (.MapBuffer b) ∧
    p.count (.MapBuffer b) ≤ p.count (.UnmapBuffer b)+1
  before : ∀ p q b,t.log=p++.ReturnStreamBuffer b::q →
    p.count (.MapBuffer b)=p.count (.UnmapBuffer b) ∧ .UnmapBuffer b∉q
  submitted : ∀ b bufidx,.submitBuffer b bufidx∈t.log → 0 ≤ bufidx.toInt

/-- A buffer that a step unmaps was not back before. -/
theorem unmap_not_back (ha : Accounted t) (accepts : t.Accepts step) (h : Step t step t')
    {b : VideoBuffer} (unmapped : t.camera.effects step=[.UnmapBuffer b]) :
    .ReturnStreamBuffer b∉t.log := by
  intro back
  have change := effects_balance ha.inv.placed accepts h.1 b
  have nothing := (ha.back back).2
  simp [unmapped] at change
  omega

theorem step_history (hh : History t) (ha : Accounted t) (accepts : t.Accepts step)
    (h : Step t step t') : History t' := by
  have after := step_accounted ha accepts h
  have logged := h.2
  have seen : ∀ b bufidx,.submitBuffer b bufidx∈t'.log → 0 ≤ bufidx.toInt := by
    intro b bufidx mem
    rw [logged] at mem
    rcases List.mem_append.mp mem with old|new
    · exact hh.submitted b bufidx old
    · exact effects_submit accepts new
  obtain none|⟨e,one⟩ := effects_single t.camera step
  · rw [none,List.append_nil] at logged
    exact ⟨logged ▸ hh.once,logged ▸ hh.before,seen⟩
  rw [one] at logged
  refine ⟨?_,?_,seen⟩
  · intro p hp b
    rw [logged] at hp
    rcases List.prefix_concat_iff.mp hp with rfl|old
    · rw [← logged]
      exact after.sane b
    · exact hh.once p old b
  · intro p q b split
    rw [logged] at split
    rcases List.eq_nil_or_concat q with rfl|⟨q,last,rfl⟩
    · have back : .ReturnStreamBuffer b∈t'.log := by
        rw [logged,split]
        simp
      have level := (after.back back).1
      rw [logged,split] at level
      simp at level
      exact ⟨level,by simp⟩
    · have parts : t.log++[e]=(p++.ReturnStreamBuffer b::q)++[last] := by simp [split]
      obtain ⟨same,lasts⟩ := List.append_inj' parts rfl
      obtain rfl : e=last := List.singleton_inj.mp lasts
      obtain ⟨level,later⟩ := hh.before p q b same
      refine ⟨level,?_⟩
      have different : .UnmapBuffer b≠e := by
        rintro rfl
        apply unmap_not_back ha accepts h one
        rw [same]
        simp
      simp [later,different]

/-- Nothing is left in flight by a loop that is over. -/
theorem Accounted.ended (ha : Accounted t) (exited : t.camera.loop=.exited)
    (none : t.camera.calls=[]) {b : VideoBuffer} (hb : b∈t.camera.passed) :
    t.log.count (.MapBuffer b)=t.log.count (.UnmapBuffer b) ∧
      t.log.count (.ReturnStreamBuffer b)=1 := by
  have once : t.log.count (.ReturnStreamBuffer b)=1 :=
    (ha.returns b).trans ((ha.inv.delivered exited none).2 b hb)
  exact ⟨(ha.back (List.count_pos_iff.mp (by omega))).1,once⟩

theorem History.disciplined (hh : History t) (ha : Accounted t) : Disciplined t := by
  refine ⟨hh.once,hh.before,?_,fun exited none _ hb => ha.ended exited none hb,?_⟩
  · intro b hb nowhere
    have places := ha.inv.placed.places b
    have returns := ha.returns b
    have some_pass := List.count_pos_iff.mpr hb
    have back : .ReturnStreamBuffer b∈t.log := List.count_pos_iff.mp (by omega)
    exact ⟨(ha.back back).1,back⟩
  · intro b bufidx mem negative
    have answered := hh.submitted b bufidx mem
    omega

section Refused

/-! What the other steps lead to. -/

/-- Nothing is known of a buffer before it is passed. -/
theorem fresh_flight (hp : Placed t.camera) (handle : Option Handle) :
    t.camera.inFlight ⟨t.camera.passed.length,handle⟩=0 := by
  by_contra flying
  have passed := hp.passed (Nat.pos_of_ne_zero flying)
  have number := List.mem_map_of_mem (f := VideoBuffer.number) passed
  rw [hp.numbers,List.mem_range] at number
  exact absurd number (lt_irrefl _)

/-- A call for an inactive camera unmaps what nobody has mapped. -/
theorem inactive_unmaps (ha : Accounted t) {handle : Option Handle}
    (inactive : t.camera.mActive=false) (h : Step t (.streamCb handle) t') :
    ∃ later t'',Run Step t' later t'' ∧ ¬Disciplined t'' := by
  let b : VideoBuffer := ⟨t.camera.passed.length,handle⟩
  obtain ⟨moved,logged⟩ := h
  have last : t'.camera.calls[t.camera.calls.length]?=some ⟨b,.failUnmap⟩ := by
    cases camera : t'.camera
    rw [camera] at moved
    cases moved.moved with
    | streamCb given => simp [inactive,b]
  have unmaps : UmdCamera.Step t'.camera (.unmapBuffer t.camera.calls.length)
      (t'.camera.advance t.camera.calls.length ⟨b,.failUnmap⟩ .failReturn) := by
    simp [UmdCamera.Step,UmdCamera.perform,last]
  refine ⟨[.unmapBuffer t.camera.calls.length],⟨_,t.log++[.UnmapBuffer b]⟩,
    .snoc .nil ⟨unmaps,?_⟩,?_⟩
  · simp [logged,effects,buffersAt_eq last]
  · intro disciplined
    have sane := (disciplined.once _ List.prefix_rfl b).1
    have balance := ha.balance b
    have mapped := mappings_le t.camera b
    have flying : t.camera.inFlight b=0 := fresh_flight ha.inv.placed handle
    simp at sane
    omega

/-- A buffer that the gadget has refused is queued. -/
theorem refused_pushes {i : Nat} {bufidx : BitVec 32} (refused : bufidx.toInt<0)
    (h : Step t (.submitBuffer i bufidx) t') :
    ∃ later t'',Run Step t' later t'' ∧ ¬Disciplined t'' := by
  obtain ⟨moved,logged⟩ := h
  obtain ⟨b,here,submitted⟩ : ∃ b,t'.camera.calls[i]?=some ⟨b,.submitted bufidx⟩ ∧
      .submitBuffer b bufidx∈t'.log := by
    cases camera : t'.camera
    rw [camera] at moved
    cases moved.moved with
    | @submitBuffer i bufidx call here at_ =>
      have bound := (List.getElem?_eq_some_iff.mp here).1
      refine ⟨call.buffer,?_,?_⟩
      · -- a uint32_t is not negative
        simp [bound]
      · simp [logged,effects,buffersAt_eq here]
  refine ⟨[.push i],⟨{ t'.camera with
    mVideoBufferQueue := t'.camera.mVideoBufferQueue++[(b,bufidx)]
    calls := t'.camera.calls.eraseIdx i },t'.log++[.push b]⟩,.snoc .nil ⟨?_,?_⟩,?_⟩
  · simp [UmdCamera.Step,UmdCamera.perform,here]
  · simp [effects,buffersAt_eq here]
  · intro disciplined
    have queued := (disciplined.failed b bufidx (by simp [submitted]) refused).1
    simp at queued

/-- What the camera does can be followed up. -/
theorem run_of_camera {later : List VideoStep} {w : UmdCamera}
    (hr : Run UmdCamera.Step t.camera later w) : ∃ t',Run Step t later t' ∧ t'.camera=w := by
  induction hr with
  | nil => exact ⟨t,.nil,rfl⟩
  | @snoc steps w w' step before hstep ih =>
    obtain ⟨t',run,rfl⟩ := ih
    exact ⟨⟨w',t'.log++t'.camera.effects step⟩,.snoc run ⟨hstep,rfl⟩,rfl⟩

/-- A buffer that is queued behind the loop's back stays mapped. -/
theorem late_push (ha : Accounted t) {i : Nat} (late : ¬t.camera.Timely (.push i))
    (h : Step t (.push i) t') : ∃ later t'',Run Step t' later t'' ∧ ¬Disciplined t'' := by
  obtain ⟨later,w,run,undelivered⟩ := untimely_push h.1 late
  obtain ⟨t'',follows,rfl⟩ := run_of_camera run
  refine ⟨later,t'',follows,?_⟩
  intro disciplined
  have after : Placed t''.camera ∧
      ∀ b,t''.log.count (.ReturnStreamBuffer b)=t''.camera.returned.count b :=
    follows.invariant (P := fun t => Placed t.camera ∧
        ∀ b,t.log.count (.ReturnStreamBuffer b)=t.camera.returned.count b)
      (fun _ _ _ hi h => ⟨step_placed hi.1 h.1,step_returns hi.2 h⟩)
      ⟨step_placed ha.inv.placed h.1,step_returns ha.returns h⟩
  apply undelivered
  intro exited none
  have once : ∀ b∈t''.camera.passed,t''.camera.returned.count b=1 := by
    intro b hb
    rw [← after.2 b]
    exact (disciplined.ended exited none b hb).2
  refine ⟨?_,once⟩
  -- what is queued has been passed, and what has been passed is back
  by_contra queued
  obtain ⟨p,rest,front⟩ := List.exists_cons_of_ne_nil queued
  have flying : 0<t''.camera.inFlight p.1 := by
    simp only [inFlight,front,List.map_cons,List.count_cons_self]
    omega
  have passed := after.1.passed flying
  have places := after.1.places p.1
  have single := List.nodup_iff_count_le_one.mp after.1.nodup p.1
  have back := once p.1 passed
  omega

end Refused

theorem perform_step {t t' : BufferTrace} {step : VideoStep} (h : t.perform step=some t') :
    Step t step t' := by
  obtain ⟨camera,moved,rfl⟩ := Option.map_eq_some_iff.mp h
  exact ⟨moved,rfl⟩

theorem construct_accounted (mActive : Bool) : Accounted (construct mActive) :=
  ⟨construct_inv mActive,fun _ => rfl,fun _ => rfl⟩

theorem construct_history (mActive : Bool) : History (construct mActive) := by
  refine ⟨?_,?_,?_⟩
  · intro p hp b
    rw [List.prefix_nil.mp hp]
    simp
  · intro p q b split
    simp [construct] at split
  · intro b bufidx mem
    cases mem

variable {mActive : Bool} {steps : List VideoStep}

/-- In every run in which StreamCb is called while the camera is active and queues no buffer behind
the back of a loop that is over, and the gadget takes each buffer, mappings are undone as they have
to be; a step that is not so can be followed by a run that breaks this. -/
theorem mappings_undone (hr : Run (Guarded Accepts Step) (construct mActive) steps t) :
    t.Disciplined ∧ ∀ step t',Step t step t' → ¬t.Accepts step →
      ∃ later t'',Run Step t' later t'' ∧ ¬t''.Disciplined := by
  have inv : Accounted t ∧ History t :=
    hr.invariant (P := fun t => Accounted t ∧ History t)
      (fun _ _ _ hi h => ⟨step_accounted hi.1 h.1 h.2,step_history hi.2 hi.1 h.1 h.2⟩)
      ⟨construct_accounted mActive,construct_history mActive⟩
  refine ⟨inv.2.disciplined inv.1,?_⟩
  intro step t' h refused
  cases step with
  | streamCb handle =>
    have inactive : t.camera.mActive=false := by simpa [Accepts,UmdCamera.Accepts] using refused
    exact inactive_unmaps inv.1 inactive h
  | submitBuffer i bufidx =>
    have negative : bufidx.toInt<0 := by
      simpa only [Accepts,UmdCamera.Accepts,not_le] using refused
    exact refused_pushes negative h
  | push i => exact late_push inv.1 refused h
  | _ => exact absurd trivial refused

instance (t : BufferTrace) (step : VideoStep) : Decidable (t.Accepts step) :=
  match step with
  | .streamCb _ => instDecidableEqBool t.camera.mActive true
  | .submitBuffer _ bufidx => Int.decLe 0 bufidx.toInt
  | .push i => inferInstanceAs (Decidable (t.camera.Timely (.push i)))
  | .enableVideoStream | .enabled | .disableVideoStream | .disabled | .setCameraMetadata
  | .destroy | .destroyed | .cameraThreadHandler | .join | .testActive | .testSize | .pop
  | .waitBuffer | .loopReturn | .mapBuffer .. | .findSize .. | .unmapBuffer _
  | .returnStreamBuffer _ => .isTrue trivial

theorem mappings_undone_served : ∃ t,
    Run (Guarded Accepts Step) (construct false) servedSteps t ∧
    t.log=[.MapBuffer ⟨0,some 5⟩,.submitBuffer ⟨0,some 5⟩ 3,.push ⟨0,some 5⟩,
      .UnmapBuffer ⟨0,some 5⟩,.ReturnStreamBuffer ⟨0,some 5⟩] ∧ t.Disciplined := by
  obtain ⟨t,run,logged⟩ := Run.of_exec_guarded (f := perform) (G := Accepts)
    (p := fun t => t.log=[.MapBuffer ⟨0,some 5⟩,.submitBuffer ⟨0,some 5⟩ 3,.push ⟨0,some 5⟩,
      .UnmapBuffer ⟨0,some 5⟩,.ReturnStreamBuffer ⟨0,some 5⟩]) (construct false) servedSteps
    (fun _ _ _ performed => perform_step performed) rfl
  exact ⟨t,run,by simpa using logged,(mappings_undone run).1⟩

/-- One buffer for an inactive camera. -/
theorem unmapped_unmapped : ¬∀ mActive steps t,Run Step (construct mActive) steps t →
    t.Disciplined := by
  intro all
  have run : Run Step (construct false) [.streamCb (some 5),.unmapBuffer 0] _ :=
    Run.of_exec (f := perform) (fun _ _ _ performed => perform_step performed) rfl
  have sane := ((all false _ _ run).once _ List.prefix_rfl ⟨0,some 5⟩).1
  revert sane
  decide

end BufferTrace
end IotMedia.Daemon

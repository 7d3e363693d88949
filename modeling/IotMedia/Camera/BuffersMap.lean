import IotMedia.Camera.Submit
import IotMedia.Camera.TableMoves

namespace IotMedia.Camera

open IotMedia.Framework

/-- The calls of a stream, and the rounds of HandleErrorRequest. -/
inductive FrameStep
  | call (c : StreamCall)
  | handleErrorRequest (frameNumber : Nat)

/-- The frame that a new GetBuffer asks for. -/
def StreamCall.asks : StreamCall → Option Int
  | .getBuffer frame _ => some frame
  | _ => none

/-- A stream, the frames that GetBuffer was asked for, and the frame that each buffer was handed out
for last. -/
structure FrameWorld where
  world : StreamWorld
  asked : List Int := []
  lastFrame : Handle → Option Int := fun _ => none

namespace FrameWorld

open Camera3Stream

abbrev stream (w : FrameWorld) : Camera3Stream := w.world.stream

/-- The last frames after buffers went to a frame. -/
def record (lastFrame : Handle → Option Int) (frame : Option Int) (handles : List Handle) :
    Handle → Option Int :=
  handles.foldl (fun m h => Function.update m h frame) lastFrame

def perform (u : BufferUsage) (w : FrameWorld) : FrameStep → Option FrameWorld
  | .call c => (w.world.perform u c).map fun world => {
      world := world
      asked := c.asks.toList++w.asked
      lastFrame := record w.lastFrame c.frame
        ((world.log.drop w.world.log.length).filterMap StreamEffect.handed) }
  | .handleErrorRequest f =>
    some { w with world := w.world.after (Submission.returnMapped f w.stream) }

/-- AllocBuffer gives a buffer that is not allocated, and GetBuffer is asked for new frames. -/
def Allowed (w : FrameWorld) : FrameStep → Prop
  | .call c => w.world.Fresh c ∧ ∀ f∈c.asks,f∉w.asked
  | .handleErrorRequest _ => True

instance (w : FrameWorld) : (step : FrameStep) → Decidable (w.Allowed step)
  | .call _ => inferInstanceAs (Decidable (_∧_))
  | .handleErrorRequest _ => inferInstanceAs (Decidable True)

def Step (u : BufferUsage) (w : FrameWorld) (step : FrameStep) (w' : FrameWorld) : Prop :=
  w.Allowed step ∧ w.perform u step=some w'

def construct (u : BufferUsage) (id : Int) (maxSize : Nat) (params : CameraStreamParameters)
    (device : Bool) : FrameWorld where
  world := ⟨.construct u id maxSize params device,[],[]⟩

/-- A frame is in buffers_map while its buffer is in use, with that buffer; there are no more than
the stream's buffers, and none that is freed. -/
structure Mapped (w : FrameWorld) : Prop where
  exact : ∀ f h,w.stream.buffersMap f=some h ↔ w.stream.InUse h ∧ w.lastFrame h=some f
  bounded : ∀ frames : List Int,frames.Nodup → (∀ f∈frames,w.stream.buffersMap f≠none) →
    frames.length ≤ w.stream.totalBufferCount
  allocated : ∀ f h,w.stream.buffersMap f=some h → h∈w.stream.memAllocBuffers.keys

/-- A buffer in use goes back only through HandleErrorRequest, which then takes it, and none is
freed. -/
def Erases (u : BufferUsage) (w : FrameWorld) : FrameStep → Prop
  | .call c => (∀ h,TakesBack w.stream (w.stream.givenBack c) h → ¬w.stream.InUse h) ∧
      (Clears u w.stream c → ∀ h,¬w.stream.InUse h)
  | .handleErrorRequest f => w.stream.buffersMap f≠none →
      w.stream.status≠.initialized ∧ 0 < w.stream.pendingBufferCount

section Decidable

instance (s : Camera3Stream) (h : Handle) : Decidable (s.InUse h) :=
  inferInstanceAs (Decidable (_=_))

theorem inUse_known {s : Camera3Stream} {h : Handle} (used : s.InUse h) :
    h∈s.memAllocBuffers.keys := (KeyedVector.mem_keys_iff _ h).mpr ⟨false,used⟩

instance (s : Camera3Stream) : Decidable (∀ h,¬s.InUse h) :=
  decidable_of_iff (∀ h∈s.memAllocBuffers.keys,¬s.InUse h)
    ⟨fun none h used => none h (inUse_known used) used,fun none h _ => none h⟩

instance (s : Camera3Stream) (handle : Option Handle) :
    Decidable (∀ h,TakesBack s handle h → ¬s.InUse h) :=
  decidable_of_iff (∀ h∈handle,s.status≠.initialized ∧ 0 < s.pendingBufferCount → ¬s.InUse h)
    ⟨fun none h taken => none h taken.1 ⟨taken.2.1,taken.2.2.1⟩,
      fun none h given on used => none h ⟨given,on.1,on.2,inUse_known used⟩ used⟩

instance (u : BufferUsage) (w : FrameWorld) : (step : FrameStep) → Decidable (w.Erases u step)
  | .call _ => inferInstanceAs (Decidable (_∧_))
  | .handleErrorRequest _ => inferInstanceAs (Decidable (_ → _))

end Decidable

structure Inv (w : FrameWorld) : Prop where
  table : w.stream.SlotTable
  owner : ∀ h,w.stream.InUse h → w.lastFrame h≠none
  past : ∀ h f,w.lastFrame h=some f → f∈w.asked ∧ f∉w.world.waiting
  waiting : w.world.waiting.Nodup
  asked : ∀ f∈w.world.waiting,f∈w.asked

variable {u : BufferUsage} {w w' : FrameWorld} {step : FrameStep} {c : StreamCall}

/-- The entries follow from the buffers in use. -/
theorem mapped_of_exact (table : w.stream.SlotTable)
    (exact : ∀ f h,w.stream.buffersMap f=some h ↔ w.stream.InUse h ∧ w.lastFrame h=some f) :
    w.Mapped := by
  have allocated (f : Int) (h : Handle) (entry : w.stream.buffersMap f=some h) :
      h∈w.stream.memAllocBuffers.keys :=
    inUse_known ((exact f h).mp entry).1
  refine ⟨exact,fun frames distinct present => ?_,allocated⟩
  have entry (f : Int) (hf : f∈frames) :
      ∃ h,w.stream.buffersMap f=some h := Option.ne_none_iff_exists'.mp (present f hf)
  have slots : frames.length ≤
      (w.stream.memAllocSlots.take w.stream.hwBufferAllocated).length := by
    have mapped : (frames.map w.stream.buffersMap).length=frames.length := List.length_map _
    rw [← mapped]
    refine List.Subperm.length_le (List.subperm_of_subset ?_ ?_)
    · rw [List.nodup_map_iff_inj_on distinct]
      intro f hf g hg same
      obtain ⟨h,hh⟩ := entry f hf
      have first := ((exact f h).mp hh).2
      rw [same] at hh
      have second := ((exact g h).mp hh).2
      exact Option.some.inj (first.symm.trans second)
    · intro slot hslot
      obtain ⟨f,hf,rfl⟩ := List.mem_map.mp hslot
      obtain ⟨h,hh⟩ := entry f hf
      rw [hh]
      exact table.placed h (allocated f h hh)
  have taken := List.length_take_le w.stream.hwBufferAllocated w.stream.memAllocSlots
  exact slots.trans (taken.trans table.allocated)

section Call

/-- A GetBuffer begins to wait, one that waited goes on, or neither. -/
theorem step_waits {w w' : StreamWorld} (h : StreamWorld.Step u w c w') :
    (∃ f alloc,c=.getBuffer f alloc ∧ w'.waiting=f::w.waiting ∧ w'.log=w.log) ∨
    (∃ f r alloc,c=.wakeGetBuffer f r alloc ∧ f∈w.waiting ∧ w'.waiting=w.waiting.erase f) ∨
    (∀ f r alloc,c≠.wakeGetBuffer f r alloc) ∧ w'.waiting=w.waiting := by
  have done := h.performed
  cases c with
  | getBuffer f alloc =>
    simp only [StreamWorld.perform] at done
    split_ifs at done
    · cases done
      exact .inl ⟨f,alloc,rfl,rfl,rfl⟩
    · cases done
      exact .inr (.inr ⟨by simp,rfl⟩)
  | wakeGetBuffer f r alloc =>
    simp only [StreamWorld.perform] at done
    split_ifs at done with waits
    cases done
    exact .inr (.inl ⟨f,r,alloc,rfl,waits,rfl⟩)
  | returnBufferToClient status timestamp f =>
    obtain ⟨r,-,rfl⟩ := Option.map_eq_some_iff.mp done
    exact .inr (.inr ⟨by simp,rfl⟩)
  | returnBuffer | beginConfigure | endConfigure | abortConfigure | beginPrepare | prepareBuffer
  | endPrepare | tearDown | close =>
    cases done
    exact .inr (.inr ⟨by simp,rfl⟩)

/-- What a call of the stream does to the world. -/
structure Called (u : BufferUsage) (w : FrameWorld) (c : StreamCall) (w' : FrameWorld)
    (l : List StreamEffect) : Prop where
  step : StreamWorld.Step u w.world c w'.world
  fresh : ∀ f∈c.asks,f∉w.asked
  log : w'.world.log=w.world.log++l
  move : TableMove u w.stream c w'.stream l
  asked : w'.asked=c.asks.toList++w.asked
  lastFrame : w'.lastFrame=record w.lastFrame c.frame (l.filterMap StreamEffect.handed)

theorem Step.called (h : Step u w (.call c) w') (table : w.stream.SlotTable) :
    ∃ l,Called u w c w' l := by
  obtain ⟨⟨fresh,new⟩,done⟩ := h
  obtain ⟨world,performed,rfl⟩ := Option.map_eq_some_iff.mp done
  obtain ⟨l,log,move⟩ := StreamWorld.step_moves table ⟨fresh,performed⟩
  refine ⟨l,⟨fresh,performed⟩,new,log,move,rfl,?_⟩
  show record w.lastFrame c.frame ((world.log.drop w.world.log.length).filterMap _)=_
  rw [log,List.drop_left]

variable {l : List StreamEffect}

/-- The frame that a buffer is handed out for has had none. -/
theorem Called.frame_new (h : Called u w c w' l) (hi : Inv w) {f : Int} (frame : c.frame=some f)
    (out : l≠[]) : (∀ h,w.lastFrame h≠some f) ∧ f∈w'.asked ∧ f∉w'.world.waiting := by
  rw [h.asked]
  rcases step_waits h.step with ⟨g,alloc,rfl,-,same⟩|⟨g,r,alloc,rfl,waits,erased⟩|⟨woken,same⟩
  · rw [h.log,List.append_right_eq_self] at same
    exact absurd same out
  · obtain rfl := Option.some.inj frame
    refine ⟨fun q last => (hi.past q g last).2 waits,?_,?_⟩
    · exact List.mem_append_right _ (hi.asked g waits)
    · rw [erased]
      exact hi.waiting.not_mem_erase
  · cases c with
    | getBuffer g alloc =>
      obtain rfl := Option.some.inj frame
      have new : g∉w.asked := h.fresh g rfl
      refine ⟨fun q last => new (hi.past q g last).1,
        List.mem_append_left _ (by simp [StreamCall.asks]),?_⟩
      rw [same]
      exact fun waits => new (hi.asked g waits)
    | wakeGetBuffer g r alloc => exact absurd rfl (woken g r alloc)
    | _ => cases frame

/-- The frames that wait have been asked for, once each, and have had no buffer. -/
theorem Called.waits (h : Called u w c w' l) (hi : Inv w) :
    w'.world.waiting.Nodup ∧ (∀ f∈w'.world.waiting,f∈w'.asked) ∧
      ∀ q f,w.lastFrame q=some f → f∈w'.asked ∧ f∉w'.world.waiting := by
  rw [h.asked]
  rcases step_waits h.step with ⟨g,alloc,rfl,more,-⟩|⟨g,r,alloc,rfl,-,erased⟩|⟨-,same⟩
  · have new : g∉w.asked := h.fresh g rfl
    rw [more]
    refine ⟨List.nodup_cons.mpr ⟨fun waits => new (hi.asked g waits),hi.waiting⟩,?_,?_⟩
    · intro f hf
      rcases List.mem_cons.mp hf with rfl|old
      · simp [StreamCall.asks]
      · exact List.mem_append_right _ (hi.asked f old)
    · intro q f last
      obtain ⟨asked,idle⟩ := hi.past q f last
      refine ⟨List.mem_append_right _ asked,?_⟩
      rw [List.mem_cons]
      rintro (rfl|waits)
      · exact new asked
      · exact idle waits
  · rw [erased]
    refine ⟨hi.waiting.erase g,fun f hf => ?_,fun q f last => ?_⟩
    · exact List.mem_append_right _ (hi.asked f (List.mem_of_mem_erase hf))
    · obtain ⟨asked,idle⟩ := hi.past q f last
      exact ⟨List.mem_append_right _ asked,fun hf => idle (List.mem_of_mem_erase hf)⟩
  · rw [same]
    refine ⟨hi.waiting,fun f hf => List.mem_append_right _ (hi.asked f hf),fun q f last => ?_⟩
    exact ⟨List.mem_append_right _ (hi.past q f last).1,(hi.past q f last).2⟩

theorem erases_of_quiet (back : w.stream.givenBack c=none) (spares : ¬Clears u w.stream c) :
    w.Erases u (.call c) :=
  ⟨fun h taken => absurd (back ▸ taken) (takesBack_none h),fun cleared => absurd cleared spares⟩

/-- A call for a frame gives nothing back and frees nothing. -/
theorem erases_of_frame {f : Int} (frame : c.frame=some f) : w.Erases u (.call c) := by
  cases c with
  | getBuffer | wakeGetBuffer => exact erases_of_quiet rfl fun h => h
  | _ => cases frame

theorem givenBack_of_clears (cleared : Clears u w.stream c) : w.stream.givenBack c=none := by
  cases c with
  | returnBuffer | returnBufferToClient => cases cleared
  | _ => rfl

/-- What a call does to the buffers in use, to buffers_map and to the last frames. -/
inductive UseMove (u : BufferUsage) (w : FrameWorld) (c : StreamCall) (w' : FrameWorld) : Prop
  | keeps (used : ∀ p,w'.stream.InUse p ↔ w.stream.InUse p)
      (map : w'.stream.buffersMap=w.stream.buffersMap) (last : w'.lastFrame=w.lastFrame)
      (erases : w.Erases u (.call c))
  | hands (q : Handle) (f : Int) (free : ¬w.stream.InUse q)
      (new : ∀ h,w.lastFrame h≠some f) (mem : f∈w'.asked) (idle : f∉w'.world.waiting)
      (used : ∀ p,w'.stream.InUse p ↔ p=q ∨ w.stream.InUse p)
      (map : w'.stream.buffersMap=Function.update w.stream.buffersMap f (some q))
      (last : w'.lastFrame=Function.update w.lastFrame q (some f)) (erases : w.Erases u (.call c))
  | drops (q : Handle) (held : w.stream.InUse q) (dropped : ¬w'.stream.InUse q)
      (used : ∀ p,w'.stream.InUse p → w.stream.InUse p)
      (map : w'.stream.buffersMap=w.stream.buffersMap) (last : w'.lastFrame=w.lastFrame)
      (leaves : ¬w.Erases u (.call c))

theorem Called.useMove (h : Called u w c w' l) (hi : Inv w) : UseMove u w c w' := by
  have silent {frees allocs : List Handle} (q : Traffic l frees allocs []) :
      w'.lastFrame=w.lastFrame := by
    rw [h.lastFrame,q.handed]
    rfl
  have out {q : Handle} {f : Int} {allocs : List Handle} (frame : c.frame=some f)
      (out : Traffic l allocs [] [q]) (free : ¬w.stream.InUse q)
      (used : ∀ p,w'.stream.InUse p ↔ p=q ∨ w.stream.InUse p)
      (map : w'.stream.buffersMap=Function.update w.stream.buffersMap f (some q)) :
      UseMove u w c w' := by
    have some_out : l≠[] := by
      rintro rfl
      cases out.handed
    obtain ⟨new,mem,idle⟩ := h.frame_new hi frame some_out
    refine .hands q f free new mem idle used map ?_ (erases_of_frame frame)
    rw [h.lastFrame,frame,out.handed]
    rfl
  have fresh {q : Handle} (answered : c.alloc=some q) : w.stream.memAllocBuffers.valueFor q=none :=
    (KeyedVector.valueFor_none _ q).mpr (h.step.fresh q answered)
  rcases h.move with ⟨buffers,-,map,quiet,keeps,spares⟩|⟨q,f,frame,free,buffers,-,map,handed⟩|
    ⟨q,f,frame,answered,buffers,-,map,handed⟩|⟨q,rfl,buffers,-,map,quiet⟩|
    ⟨q,back,buffers,-,map,quiet⟩|⟨cleared,buffers,-,-,map,quiet⟩
  · refine .keeps (fun p => by rw [InUse,buffers]; rfl) map (silent quiet) ⟨?_,?_⟩
    · exact fun q taken => absurd taken (keeps q)
    · exact fun cleared => absurd cleared spares
  · refine out frame handed (by simp [InUse,free]) (fun p => ?_) map
    by_cases hp : p=q
    · simp [InUse,buffers,hp,free]
    · simp [InUse,buffers,hp]
  · refine out frame handed (by simp [InUse,fresh answered]) (fun p => ?_) map
    by_cases hp : p=q <;> simp [InUse,buffers,hp]
  · refine .keeps (fun p => ?_) map (silent quiet) (erases_of_quiet rfl fun h => h)
    by_cases hp : p=q
    · simp [InUse,buffers,hp,fresh rfl]
    · simp [InUse,buffers,hp]
  · have spares : ¬Clears u w.stream c := by
      intro cleared
      rw [givenBack_of_clears cleared] at back
      exact takesBack_none q back
    have used (p : Handle) : w'.stream.InUse p ↔ p≠q ∧ w.stream.InUse p := by
      by_cases hp : p=q <;> simp [InUse,buffers,hp]
    by_cases held : w.stream.InUse q
    · refine .drops q held (by simp [used]) (fun p hp => ((used p).mp hp).2) map (silent quiet) ?_
      exact fun erases => erases.1 q back held
    · refine .keeps (fun p => ?_) map (silent quiet) ⟨?_,fun cleared => absurd cleared spares⟩
      · rw [used]
        exact and_iff_right_of_imp fun hp eq => held (eq ▸ hp)
      · intro p taken
        rw [← Option.some.inj (back.1.symm.trans taken.1)]
        exact held
  · have none_used (p : Handle) : ¬w'.stream.InUse p := by
      intro hp
      have known := inUse_known hp
      rw [buffers] at known
      cases known
    by_cases held : ∃ q,w.stream.InUse q
    · obtain ⟨q,held⟩ := held
      refine .drops q held (none_used q) (fun p hp => absurd hp (none_used p)) map (silent quiet) ?_
      exact fun erases => erases.2 cleared q held
    · have free := not_exists.mp held
      refine .keeps (fun p => iff_of_false (none_used p) (free p)) map (silent quiet) ⟨?_,?_⟩
      · exact fun q _ => free q
      · exact fun _ => free

theorem Called.inv (h : Called u w c w' l) (hi : Inv w) : Inv w' := by
  obtain ⟨waiting,asked,past⟩ := h.waits hi
  have table := StreamWorld.step_table hi.table h.step
  rcases h.useMove hi with ⟨used,-,last,-⟩|⟨q,f,-,-,mem,idle,used,-,last,-⟩|⟨q,-,-,used,-,last,-⟩
  · refine ⟨table,fun p hp => ?_,?_,waiting,asked⟩ <;> rw [last]
    · exact hi.owner p ((used p).mp hp)
    · exact past
  · refine ⟨table,fun p hp => ?_,fun p g => ?_,waiting,asked⟩ <;> rw [last]
    · by_cases hq : p=q
      · simp [hq]
      · rw [Function.update_of_ne hq]
        exact hi.owner p (((used p).mp hp).resolve_left hq)
    · by_cases hq : p=q
      · rw [hq,Function.update_self]
        intro same
        cases same
        exact ⟨mem,idle⟩
      · rw [Function.update_of_ne hq]
        exact past p g
  · refine ⟨table,fun p hp => ?_,?_,waiting,asked⟩ <;> rw [last]
    · exact hi.owner p (used p hp)
    · exact past

theorem Called.mapped_iff (h : Called u w c w' l) (hi : Inv w) (hm : w.Mapped) :
    w'.Mapped ↔ w.Erases u (.call c) := by
  have table := (h.inv hi).table
  rcases h.useMove hi with ⟨used,map,last,erases⟩|⟨q,f,free,new,-,-,used,map,last,erases⟩|
    ⟨q,held,dropped,-,map,last,leaves⟩
  · refine iff_of_true (mapped_of_exact table fun g p => ?_) erases
    rw [map,last,used]
    exact hm.exact g p
  · refine iff_of_true (mapped_of_exact table fun g p => ?_) erases
    rw [map,last,used]
    by_cases hg : g=f
    · subst hg
      rw [Function.update_self,Option.some.injEq]
      by_cases hp : p=q
      · simp [hp]
      · rw [Function.update_of_ne hp]
        exact iff_of_false (Ne.symm hp) fun h => new p h.2
    · rw [Function.update_of_ne hg,hm.exact]
      by_cases hp : p=q
      · rw [hp,Function.update_self]
        exact iff_of_false (fun h => free h.1) fun h => hg (Option.some.inj h.2).symm
      · rw [Function.update_of_ne hp,or_iff_right hp]
  · refine iff_of_false (fun mapped => ?_) leaves
    obtain ⟨f,hf⟩ := Option.ne_none_iff_exists'.mp (hi.owner q held)
    have entry := (hm.exact f q).mpr ⟨held,hf⟩
    rw [← map] at entry
    exact dropped ((mapped.exact f q).mp entry).1

end Call

section HandleErrorRequest

variable {f : Nat}

/-- A round of HandleErrorRequest: the entry of the frame goes, and its buffer if it is taken. -/
theorem Step.erased (h : Step u w (.handleErrorRequest f) w') :
    w'.stream.buffersMap=Function.update w.stream.buffersMap f none ∧ w'.lastFrame=w.lastFrame ∧
      w'.asked=w.asked ∧ w'.world.waiting=w.world.waiting ∧
      ((∀ q,¬TakesBack w.stream (w.stream.buffersMap f) q) ∧
          (∀ p,w'.stream.InUse p ↔ w.stream.InUse p) ∨
        ∃ q,TakesBack w.stream (w.stream.buffersMap f) q ∧
          ∀ p,w'.stream.InUse p ↔ p≠q ∧ w.stream.InUse p) := by
  obtain ⟨-,done⟩ := h
  obtain rfl := Option.some.inj done
  let s : Camera3Stream :=
    { w.stream with buffersMap := Function.update w.stream.buffersMap f none }
  have move : TableMove u s (.returnBuffer (w.stream.buffersMap f))
      (Submission.returnMapped f w.stream).stream (Submission.returnMapped f w.stream).effects :=
    returnBufferLocked_moves s.isStreamActive rfl fun h => h
  cases move with
  | rests buffers slots map quiet keeps spares =>
    refine ⟨map,rfl,rfl,rfl,.inl ⟨keeps,fun p => ?_⟩⟩
    show (Submission.returnMapped f w.stream).stream.InUse p ↔ _
    rw [InUse,buffers]
    rfl
  | takesBack q back buffers slots map quiet =>
    refine ⟨map,rfl,rfl,rfl,.inr ⟨q,back,fun p => ?_⟩⟩
    show (Submission.returnMapped f w.stream).stream.InUse p ↔ _
    rw [InUse,buffers]
    by_cases hp : p=q <;> simp [InUse,hp,s]
  | reuses q g frame => cases frame
  | allocates q g frame => cases frame
  | prepares q other => cases other
  | clears cleared => cases cleared

theorem Step.erased_inv (h : Step u w (.handleErrorRequest f) w') (hi : Inv w) : Inv w' := by
  obtain ⟨-,last,asked,waiting,moves⟩ := h.erased
  have used (p : Handle) (hp : w'.stream.InUse p) : w.stream.InUse p := by
    rcases moves with ⟨-,same⟩|⟨q,-,less⟩
    · exact (same p).mp hp
    · exact ((less p).mp hp).2
  have table : w'.stream.SlotTable := by
    obtain ⟨-,done⟩ := h
    obtain rfl := Option.some.inj done
    have cleared : SlotTable { w.stream with
        buffersMap := Function.update w.stream.buffersMap f none } :=
      hi.table.shrink rfl rfl rfl fun _ h => h
    exact returnBufferLocked_table cleared _
  refine ⟨table,fun p hp => ?_,?_,?_,?_⟩
  · rw [last]
    exact hi.owner p (used p hp)
  · rw [last,asked,waiting]
    exact hi.past
  · rw [waiting]
    exact hi.waiting
  · rw [asked,waiting]
    exact hi.asked

theorem Step.erased_mapped_iff (h : Step u w (.handleErrorRequest f) w') (hi : Inv w)
    (hm : w.Mapped) : w'.Mapped ↔ w.Erases u (.handleErrorRequest f) := by
  have table := (h.erased_inv hi).table
  obtain ⟨map,last,-,-,moves⟩ := h.erased
  rcases moves with ⟨refused,used⟩|⟨q,back,used⟩
  · constructor
    · intro mapped present
      obtain ⟨q,entry⟩ := Option.ne_none_iff_exists'.mp present
      have held := (hm.exact f q).mp entry
      rw [← used,← last,← mapped.exact,map,Function.update_self] at held
      cases held
    · intro erases
      have absent : w.stream.buffersMap f=none := by
        by_contra present
        obtain ⟨q,entry⟩ := Option.ne_none_iff_exists'.mp present
        obtain ⟨started,pending⟩ := erases present
        exact refused q ⟨entry,started,pending,hm.allocated f q entry⟩
      refine mapped_of_exact table fun g p => ?_
      rw [map,last,used,← absent,Function.update_eq_self]
      exact hm.exact g p
  · refine iff_of_true (mapped_of_exact table fun g p => ?_) fun _ => ⟨back.2.1,back.2.2.1⟩
    have owner := ((hm.exact f q).mp back.1).2
    rw [map,last,used]
    by_cases hg : g=f
    · rw [hg,Function.update_self]
      refine iff_of_false (by simp) fun ⟨⟨other,held⟩,hf⟩ => ?_
      have entry := (hm.exact f p).mpr ⟨held,hf⟩
      exact other (Option.some.inj (entry.symm.trans back.1))
    · rw [Function.update_of_ne hg,hm.exact,and_assoc]
      refine (and_iff_right_of_imp fun h eq => hg ?_).symm
      rw [eq,owner] at h
      exact (Option.some.inj h.2).symm

end HandleErrorRequest

theorem Step.inv (h : Step u w step w') (hi : Inv w) : Inv w' := by
  cases step with
  | call c =>
    obtain ⟨l,called⟩ := h.called hi.table
    exact called.inv hi
  | handleErrorRequest f => exact h.erased_inv hi

theorem Step.mapped_iff (h : Step u w step w') (hi : Inv w) (hm : w.Mapped) :
    w'.Mapped ↔ w.Erases u step := by
  cases step with
  | call c =>
    obtain ⟨l,called⟩ := h.called hi.table
    exact called.mapped_iff hi hm
  | handleErrorRequest f => exact h.erased_mapped_iff hi hm

theorem construct_inv (u : BufferUsage) (id : Int) (maxSize : Nat) (params : CameraStreamParameters)
    (device : Bool) : Inv (construct u id maxSize params device) where
  table := ⟨rfl,le_refl 0,fun h hk => by simp [construct,Camera3Stream.construct] at hk⟩
  owner := fun h hu => by simp [construct,Camera3Stream.construct,InUse] at hu
  past := fun h f last => by cases last
  waiting := List.nodup_nil
  asked := fun f hf => by cases hf

theorem construct_mapped (u : BufferUsage) (id : Int) (maxSize : Nat)
    (params : CameraStreamParameters) (device : Bool) :
    (construct u id maxSize params device).Mapped := by
  refine mapped_of_exact (construct_inv u id maxSize params device).table fun f h => ?_
  exact iff_of_false (by simp [construct,Camera3Stream.construct]) fun h => by cases h.2

/-- While buffers go back through HandleErrorRequest only, buffers_map has the buffers in use; any
other step that ends a use leaves its entry behind. -/
theorem buffersMap_mapped_iff (u : BufferUsage) (id : Int) (maxSize : Nat)
    (params : CameraStreamParameters) (device : Bool) {steps : List FrameStep}
    (hr : Run (Guarded (Erases u) (Step u)) (construct u id maxSize params device) steps w) :
    w.Mapped ∧ ∀ step w',Step u w step w' → (w'.Mapped ↔ w.Erases u step) := by
  refine hr.kept_iff_guard (I := Inv) ?_ ?_ (construct_inv u id maxSize params device)
    (construct_mapped u id maxSize params device)
  · exact fun t step t' hi _ h _ => h.inv hi
  · exact fun t step t' hi hm h => h.mapped_iff hi hm

/-- A step of a trace that is replayed by evaluation. -/
def next (u : BufferUsage) (w : FrameWorld) (step : FrameStep) : Option FrameWorld :=
  if w.Allowed step then w.perform u step else none

theorem step_of_next (h : next u w step=some w') : Step u w step w' := by
  unfold next at h
  split_ifs at h with allowed
  exact ⟨allowed,h⟩

def preview : FrameWorld := ⟨StreamWorld.preview,[],fun _ => none⟩

/-- A request fails after GetBuffer and its buffer is returned by HandleErrorRequest. -/
theorem buffersMap_mapped_failed_request : ∃ w,
    Run (Guarded (Erases .android) (Step .android)) preview
      [.call .beginConfigure,.call (.endConfigure 0),.call (.getBuffer 7 (some 5)),
        .handleErrorRequest 7] w ∧ w.Mapped := by
  obtain ⟨w,hr,-⟩ := Run.of_exec_guarded (f := next .android) (G := Erases .android)
    (p := fun _ => true) preview [.call .beginConfigure,.call (.endConfigure 0),
      .call (.getBuffer 7 (some 5)),.handleErrorRequest 7]
    (fun _ _ _ h => step_of_next h) (by decide)
  exact ⟨w,hr,(buffersMap_mapped_iff .android 0 0 _ true hr).1⟩

/-- The entry of a frame stays when its buffer is returned. -/
theorem returned_buffer_stays_mapped : ¬∀ steps w,
    Run (Step .android) preview steps w → w.Mapped := by
  intro supposed
  obtain ⟨w,hr,hw⟩ := Run.of_exec_any (r := Step .android) (f := next .android)
    (p := fun w => w.stream.buffersMap 7=some 5 ∧ w.stream.memAllocBuffers.valueFor 5=some true)
    preview [.call .beginConfigure,.call (.endConfigure 0),.call (.getBuffer 7 (some 5)),
      .call (.returnBufferToClient .OK 9 7),.call (.returnBuffer (some 5))]
    (fun _ _ _ => step_of_next) (by decide)
  obtain ⟨entry,free⟩ := of_decide_eq_true hw
  have used := (((supposed _ w hr).exact 7 5).mp entry).1
  rw [InUse,free] at used
  cases used

end FrameWorld
end IotMedia.Camera

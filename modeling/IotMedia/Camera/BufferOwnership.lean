import IotMedia.Camera.StreamBuffers
import IotMedia.Framework.Run

namespace IotMedia.Camera

open IotMedia.Framework

namespace Camera3Stream

variable {s t : Camera3Stream}

section SlotTable

/-! Every call, sound or not, keeps the slot table. -/

theorem Marked.table {h : Handle} (hm : Marked s t h) (idx : Nat) (frame : Int) :
    SlotTable (t.handOut idx h frame).stream := ⟨hm.slots,hm.allocated,hm.placed⟩

theorem getBuffer_table (u : BufferUsage) (ht : SlotTable s) (frame waitRes : Int)
    (alloc : Option Handle) (hn : ∀ h,alloc=some h → h∉s.memAllocBuffers.keys) :
    SlotTable (s.getBuffer u frame waitRes alloc).stream := by
  rcases getBuffer_cases u ht frame waitRes alloc hn with ⟨e,l,-,h⟩|⟨t,idx,h,l,hm,-,-,-,he⟩
  · rw [h]
    exact ht
  · rw [he]
    exact hm.table idx frame

theorem getBufferWoken_table (u : BufferUsage) (ht : SlotTable s) (frame waitRes : Int)
    (alloc : Option Handle) (hn : ∀ h,alloc=some h → h∉s.memAllocBuffers.keys) :
    SlotTable (s.getBufferWoken u frame waitRes alloc).stream := by
  unfold getBufferWoken
  split_ifs
  · exact ht
  · rcases getBufferLocked_cases u ht frame alloc hn with ⟨e,l,-,-,h⟩|⟨t,idx,h,l,hm,-,-,-,he⟩
    · rw [h]
      exact ht
    · rw [he]
      exact hm.table idx frame

theorem returnBufferLocked_table (ht : SlotTable s) (handle : Option Handle) :
    SlotTable (s.returnBufferLocked handle).stream := by
  rcases s.returnBufferLocked_cases handle with ⟨hs,-,-,-⟩|⟨h,v,l,-,-,-,-,-,he⟩
  · rw [hs]
    exact ht
  · rw [he]
    refine ht.shrink rfl rfl rfl ?_
    intro q hq
    simpa using hq

theorem closeLocked_table (ht : SlotTable s) : SlotTable s.closeLocked.stream := by
  have emptied : ∀ status,SlotTable
      { s with memAllocBuffers := KeyedVector.empty,status := status } := by
    intro status
    refine ht.shrink rfl rfl rfl ?_
    intro h hm
    simp at hm
  cases hs : s.status <;> simp only [closeLocked,hs]
  case reconfigActive | configured =>
    by_cases hp : 0 < s.pendingBufferCount
    · rw [if_pos hp]
      exact ht
    · rw [if_neg hp]
      exact emptied _
  all_goals exact ht

theorem resetBuffers_table (s : Camera3Stream) : SlotTable s.resetBuffers.stream := by
  refine ⟨?_,Nat.zero_le _,?_⟩
  · simp [resetBuffers]
  · intro h hm
    simp [resetBuffers] at hm

theorem configureLocked_table (ht : SlotTable s) : SlotTable s.configureLocked.stream := by
  cases hs : s.status <;> simp only [configureLocked,hs]
  case reconfigActive =>
    split_ifs
    · exact closeLocked_table ht
    · exact resetBuffers_table _
  case configActive => exact resetBuffers_table _
  all_goals exact ht

theorem endConfigure_table (u : BufferUsage) (ht : SlotTable s) (acquired : Int) :
    SlotTable (s.endConfigure u acquired).stream := by
  have kept : ∀ m status,SlotTable { s with monitorId := m,status := status } :=
    fun _ _ => ht.shrink rfl rfl rfl fun _ h => h
  have configured := configureLocked_table (kept acquired s.status)
  unfold endConfigure
  split_ifs with hs ha
  · exact kept _ _
  · dsimp only
    split_ifs
    · exact kept _ _
    · exact configured.shrink rfl rfl rfl fun _ h => h
    · exact configured.shrink rfl rfl rfl fun _ h => h
  · exact ht

theorem prepareBuffer_table (u : BufferUsage) (ht : SlotTable s) (alloc : Option Handle) :
    SlotTable (s.prepareBuffer u alloc).stream := by
  have added : SlotTable (s.getBufferLocked u none alloc).stream := by
    have outcome := s.getBufferLocked_outcome u none alloc
    generalize s.getBufferLocked u none alloc=r at outcome ⊢
    cases outcome with
    | refused | unanswered | full => exact ht
    | preallocates answer room =>
      exact ⟨by simpa [preallocated] using ht.slots,room,placed_add ht room _ true⟩
  unfold prepareBuffer endPrepareLocked
  split_ifs
  · exact ht
  · dsimp only
    split_ifs
    all_goals exact added.shrink rfl rfl rfl fun _ h => h

theorem tearDown_table (ht : SlotTable s) : SlotTable s.tearDown.stream := by
  unfold tearDown
  split_ifs with hs hp hw
  · exact ht
  · exact ht
  · refine ⟨?_,Nat.zero_le _,?_⟩
    · simpa using ht.slots
    · intro h hm
      simp at hm
  · refine ⟨?_,ht.allocated,?_⟩
    · simpa using ht.slots
    · intro h hm
      have inSlot := ht.placed h hm
      have none_allocated : s.hwBufferAllocated=0 := by omega
      simp [none_allocated] at inSlot

end SlotTable

end Camera3Stream

/-- The calls on one stream, with what the allocator, the monitor and the wait answer.
A GetBuffer that has to wait lets other calls in and is resumed by `wakeGetBuffer`. -/
inductive StreamCall
  | getBuffer (frameNumber : Int) (alloc : Option Handle)
  | wakeGetBuffer (frameNumber : Int) (waitRes : Int) (alloc : Option Handle)
  | returnBuffer (handle : Option Handle)
  | returnBufferToClient (status : BufferStatus) (timestamp frameNumber : Int)
  | beginConfigure
  | endConfigure (acquired : Int)
  | abortConfigure
  | beginPrepare
  | prepareBuffer (alloc : Option Handle)
  | endPrepare
  | tearDown
  | close

def StreamCall.alloc : StreamCall → Option Handle
  | .getBuffer _ alloc | .wakeGetBuffer _ _ alloc | .prepareBuffer alloc => alloc
  | _ => none

/-- A stream, the frames of the GetBuffer calls that wait, and the effects so far. -/
structure StreamWorld where
  stream : Camera3Stream
  waiting : List Int := []
  log : List StreamEffect := []

namespace StreamWorld

def after {α : Type} (w : StreamWorld) (r : StreamResult α) : StreamWorld :=
  { w with stream := r.stream,log := w.log++r.effects }

/-- `none` where no such call is waiting, or a null handle is read. -/
def perform (u : BufferUsage) (w : StreamWorld) : StreamCall → Option StreamWorld
  | .getBuffer frame alloc =>
    if w.stream.status=.configured ∧ w.stream.mustWait then
      some { w with waiting := frame::w.waiting }
    else some (w.after (w.stream.getBuffer u frame 0 alloc))
  | .wakeGetBuffer frame waitRes alloc =>
    if frame∈w.waiting then
      some (({ w with waiting := w.waiting.erase frame } : StreamWorld).after
        (w.stream.getBufferWoken u frame waitRes alloc))
    else none
  | .returnBuffer handle => some (w.after (w.stream.returnBuffer handle))
  | .returnBufferToClient status timestamp frame =>
    (w.stream.returnBufferToClient status timestamp frame).map w.after
  | .beginConfigure => some (w.after (w.stream.beginConfigure u))
  | .endConfigure acquired => some (w.after (w.stream.endConfigure u acquired))
  | .abortConfigure => some (w.after (w.stream.abortConfigure u))
  | .beginPrepare => some (w.after w.stream.beginPrepare)
  | .prepareBuffer alloc => some (w.after (w.stream.prepareBuffer u alloc))
  | .endPrepare => some (w.after w.stream.endPrepareLocked)
  | .tearDown => some (w.after w.stream.tearDown)
  | .close => some (w.after w.stream.close)

/-- AllocBuffer never answers with a buffer that is still allocated. -/
def Fresh (w : StreamWorld) (c : StreamCall) : Prop :=
  ∀ h∈c.alloc,h∉w.stream.memAllocBuffers.keys

instance (w : StreamWorld) (c : StreamCall) : Decidable (w.Fresh c) :=
  inferInstanceAs (Decidable (∀ h∈c.alloc,h∉w.stream.memAllocBuffers.keys))

structure Step (u : BufferUsage) (w : StreamWorld) (c : StreamCall) (w' : StreamWorld) : Prop where
  fresh : w.Fresh c
  performed : w.perform u c=some w'

/-- The counter matches the marks, and no buffer went to two holders or was freed under one. -/
def OwnedExclusively (w : StreamWorld) : Prop :=
  w.stream.pendingBufferCount=w.stream.inUseCount ∧ Exclusive (ownEvents w.log)

/-- No buffer that is already free is taken back, and a first configuration does not end
with buffers outstanding. -/
def Sound (w : StreamWorld) : StreamCall → Prop
  | .returnBuffer handle => ¬w.stream.AcceptsFree handle
  | .returnBufferToClient status _ frame =>
    status=.ERROR → ¬w.stream.AcceptsFree (w.stream.buffersMap frame)
  | .endConfigure acquired =>
    w.stream.status=.configActive → 0≤acquired → w.stream.pendingBufferCount=0
  | _ => True

instance (w : StreamWorld) : (c : StreamCall) → Decidable (w.Sound c)
  | .returnBuffer _ => inferInstanceAs (Decidable (¬_))
  | .returnBufferToClient _ _ _ => inferInstanceAs (Decidable (_ → ¬_))
  | .endConfigure _ => inferInstanceAs (Decidable (_ → _ → _=_))
  | .getBuffer _ _ | .wakeGetBuffer _ _ _ | .beginConfigure | .abortConfigure | .beginPrepare
  | .prepareBuffer _ | .endPrepare | .tearDown | .close => inferInstanceAs (Decidable True)

/-- What holds after every sound run. -/
structure Inv (w : StreamWorld) : Prop where
  owned : w.stream.Owned
  pool : Pool ∅ (ownEvents w.log) w.stream.held

variable {u : BufferUsage} {w w' : StreamWorld} {c : StreamCall}

theorem Inv.exclusively (hi : Inv w) : w.OwnedExclusively :=
  ⟨hi.owned.counted,hi.pool.exclusive⟩

theorem Inv.after {α : Type} {r : StreamResult α} (hi : Inv w) (hk : w.stream.Keeps r) :
    Inv (w.after r) := by
  refine ⟨hk.owned,?_⟩
  show Pool ∅ (ownEvents (w.log++r.effects)) r.stream.held
  rw [ownEvents_append]
  exact hi.pool.trans hk.pool

/-- The slot table is kept by every call, in every order. -/
theorem step_table (ht : w.stream.SlotTable) (h : Step u w c w') : w'.stream.SlotTable := by
  have done := h.performed
  have same : ∀ t : Camera3Stream,t.memAllocSlots=w.stream.memAllocSlots →
      t.hwBufferAllocated=w.stream.hwBufferAllocated →
      t.totalBufferCount=w.stream.totalBufferCount →
      t.memAllocBuffers=w.stream.memAllocBuffers → t.SlotTable := by
    intro t hs hw hc hb
    apply ht.shrink hs hw hc
    rw [hb]
    exact fun _ h => h
  cases c with
  | getBuffer frame alloc =>
    simp only [perform] at done
    split_ifs at done
    · cases done
      exact ht
    · cases done
      exact Camera3Stream.getBuffer_table u ht frame 0 alloc h.fresh
  | wakeGetBuffer frame waitRes alloc =>
    simp only [perform] at done
    split_ifs at done
    cases done
    exact Camera3Stream.getBufferWoken_table u ht frame waitRes alloc h.fresh
  | returnBuffer handle =>
    cases done
    exact Camera3Stream.returnBufferLocked_table ht handle
  | returnBufferToClient status timestamp frame =>
    obtain ⟨r,hr,rfl⟩ := Option.map_eq_some_iff.mp done
    have active : ({ w.stream with isStreamActive := true } : Camera3Stream).SlotTable :=
      same _ rfl rfl rfl rfl
    obtain ⟨handle,-,⟨-,rfl⟩|⟨-,rfl⟩⟩ := Camera3Stream.returnBufferToClient_cases hr
    · exact active
    · exact Camera3Stream.returnBufferLocked_table active (some handle)
  | beginConfigure =>
    cases done
    show (w.stream.beginConfigure u).stream.SlotTable
    unfold Camera3Stream.beginConfigure
    split <;> exact same _ rfl rfl rfl rfl
  | endConfigure acquired =>
    cases done
    exact Camera3Stream.endConfigure_table u ht acquired
  | abortConfigure =>
    cases done
    show (w.stream.abortConfigure u).stream.SlotTable
    unfold Camera3Stream.abortConfigure
    split_ifs <;> exact same _ rfl rfl rfl rfl
  | beginPrepare =>
    cases done
    show w.stream.beginPrepare.stream.SlotTable
    unfold Camera3Stream.beginPrepare
    split_ifs <;> exact same _ rfl rfl rfl rfl
  | prepareBuffer alloc =>
    cases done
    exact Camera3Stream.prepareBuffer_table u ht alloc
  | endPrepare =>
    cases done
    show w.stream.endPrepareLocked.stream.SlotTable
    unfold Camera3Stream.endPrepareLocked
    split_ifs <;> exact same _ rfl rfl rfl rfl
  | tearDown =>
    cases done
    exact Camera3Stream.tearDown_table ht
  | close =>
    cases done
    exact Camera3Stream.closeLocked_table ht

/-- From a new stream on the slot table is consistent, whatever its callers do. -/
theorem run_table {id : Int} {maxSize : Nat} {params : CameraStreamParameters} {device : Bool}
    {cs : List StreamCall}
    (hr : Run (Step u) ⟨.construct u id maxSize params device,[],[]⟩ cs w) : w.stream.SlotTable := by
  refine hr.invariant (P := fun w => w.stream.SlotTable) (fun _ _ _ ht h => step_table ht h) ?_
  refine ⟨rfl,le_refl _,?_⟩
  intro h hm
  simp [Camera3Stream.construct] at hm

theorem step_inv (hi : Inv w) (hs : w.Sound c) (h : Step u w c w') : Inv w' := by
  have done := h.performed
  cases c with
  | getBuffer frame alloc =>
    simp only [perform] at done
    split_ifs at done
    · cases done
      exact ⟨hi.owned,hi.pool⟩
    · cases done
      exact hi.after (Camera3Stream.getBuffer_keeps u hi.owned frame 0 alloc h.fresh)
  | wakeGetBuffer frame waitRes alloc =>
    simp only [perform] at done
    split_ifs at done
    cases done
    have woken := Camera3Stream.getBufferWoken_keeps u hi.owned frame waitRes alloc h.fresh
    exact ⟨(hi.after woken).owned,(hi.after woken).pool⟩
  | returnBuffer handle =>
    cases done
    exact hi.after (Camera3Stream.returnBufferLocked_keeps hi.owned _ hs)
  | returnBufferToClient status timestamp frame =>
    have found := Option.map_eq_some_iff.mp done
    cases found with
    | intro r hr =>
      have kept := Camera3Stream.returnBufferToClient_keeps hi.owned hr.1 hs
      rw [← hr.2]
      exact hi.after kept
  | beginConfigure =>
    cases done
    exact hi.after (Camera3Stream.beginConfigure_keeps u hi.owned)
  | endConfigure acquired =>
    cases done
    exact hi.after (Camera3Stream.endConfigure_keeps u acquired hi.owned hs)
  | abortConfigure =>
    cases done
    exact hi.after (Camera3Stream.abortConfigure_keeps u hi.owned)
  | beginPrepare =>
    cases done
    exact hi.after (Camera3Stream.beginPrepare_keeps hi.owned)
  | prepareBuffer alloc =>
    cases done
    exact hi.after (Camera3Stream.prepareBuffer_keeps u hi.owned alloc h.fresh)
  | endPrepare =>
    cases done
    exact hi.after (Camera3Stream.endPrepareLocked_keeps hi.owned)
  | tearDown =>
    cases done
    exact hi.after (Camera3Stream.tearDown_keeps hi.owned)
  | close =>
    cases done
    exact hi.after (Camera3Stream.close_keeps hi.owned)

theorem construct_inv (u : BufferUsage) (id : Int) (maxSize : Nat) (params : CameraStreamParameters)
    (device : Bool) : Inv ⟨Camera3Stream.construct u id maxSize params device,[],[]⟩ := by
  refine ⟨⟨rfl,rfl,le_refl 0,?_⟩,?_⟩
  · intro h hk
    simp [Camera3Stream.construct] at hk
  · have idle : (Camera3Stream.construct u id maxSize params device).held=∅ := by
      ext h
      simp [Camera3Stream.held,Camera3Stream.InUse,Camera3Stream.construct]
    exact Eq.mpr (congrArg (Pool ∅ []) idle) (.nil ∅)

/-- Freeing the buffers of a table in which one is held breaks exclusiveness. -/
theorem free_held (hi : Inv w) {h : Handle} (hu : w.stream.InUse h) :
    ¬Exclusive (ownEvents (w.log++w.stream.freeAll)) := by
  intro hex
  rcases hi.pool.outstanding hu with none_at_start|⟨pre,mid,he,hm⟩
  · exact absurd none_at_start (Set.notMem_empty h)
  have hk : h∈w.stream.memAllocBuffers.keys := (KeyedVector.mem_keys_iff _ h).mpr ⟨false,hu⟩
  obtain ⟨front,back,hf⟩ := List.append_of_mem hk
  have whole : ownEvents (w.log++w.stream.freeAll)=
      pre++.acquire h::((mid++front.map .destroy)++.destroy h::back.map .destroy) := by
    rw [ownEvents_append,he,Camera3Stream.ownEvents_freeAll,hf]
    simp
  have back_in := hex _ _ _ _ _ whole (Or.inr rfl)
  simp [hm] at back_in

/-- A first configuration that ends frees the whole table, whatever is outstanding. -/
theorem endConfigure_frees (s : Camera3Stream) (acquired : Int) (hs : s.status=.configActive)
    (ha : 0≤acquired) : (s.endConfigure u acquired).effects=s.freeAll := by
  have active : s.isConfigureActive=true := by simp [Camera3Stream.isConfigureActive,hs]
  have notNeg : ¬acquired<0 := by omega
  simp [Camera3Stream.endConfigure,active,notNeg,hs,Camera3Stream.configureLocked,
    Camera3Stream.resetBuffers,Camera3Stream.freeAll]

/-- Any other call breaks the ownership at once. -/
theorem step_unsound (hi : Inv w) (hs : ¬w.Sound c) (h : Step u w c w') :
    ¬w'.OwnedExclusively := by
  have done := h.performed
  intro hex
  cases c with
  | returnBuffer handle =>
    cases done
    have accepted : w.stream.AcceptsFree handle := not_not.mp hs
    exact Camera3Stream.acceptsFree_counted hi.owned accepted hex.1
  | returnBufferToClient status timestamp frame =>
    have bad : status=.ERROR ∧ w.stream.AcceptsFree (w.stream.buffersMap frame) := by
      simpa [Sound] using hs
    cases hb : w.stream.buffersMap frame with
    | none => simp [Camera3Stream.AcceptsFree,hb] at bad
    | some handle =>
      simp only [perform,Camera3Stream.returnBufferToClient,hb,bad.1,Option.map_some,
        Option.some.injEq] at done
      subst done
      have accepted : Camera3Stream.AcceptsFree { w.stream with isStreamActive := true }
          (some handle) := by
        rw [← hb]
        exact bad.2
      have owned : Camera3Stream.Owned { w.stream with isStreamActive := true } :=
        ⟨hi.owned.counted,hi.owned.slots,hi.owned.allocated,hi.owned.placed⟩
      exact Camera3Stream.acceptsFree_counted owned accepted hex.1
  | endConfigure acquired =>
    cases done
    have bad : w.stream.status=.configActive ∧ 0≤acquired ∧ w.stream.pendingBufferCount≠0 := by
      simpa [Sound] using hs
    obtain ⟨h,hu⟩ := hi.owned.busy (Nat.pos_of_ne_zero bad.2.2)
    have freed := endConfigure_frees (u := u) w.stream acquired bad.1 bad.2.1
    apply free_held hi hu
    rw [← freed]
    exact hex.2
  | _ => exact hs trivial

/-- In every run of sound calls the ownership is exclusive, and a further call keeps it
exactly when it is sound. -/
theorem exclusive_ownership_iff (u : BufferUsage) (id : Int) (maxSize : Nat)
    (params : CameraStreamParameters) (device : Bool) {calls : List StreamCall} {w : StreamWorld}
    (hr : Run (Guarded Sound (Step u))
      ⟨Camera3Stream.construct u id maxSize params device,[],[]⟩ calls w) :
    w.OwnedExclusively ∧ ∀ c w',Step u w c w' → (w'.OwnedExclusively ↔ w.Sound c) := by
  have start := construct_inv u id maxSize params device
  refine hr.kept_iff_guard (I := Inv) ?_ ?_ start start.exclusively
  · intro t c t' hi _ h sound
    exact step_inv hi sound h
  · intro t c t' hi _ h
    constructor
    · intro exclusive
      by_contra unsound
      exact step_unsound hi unsound h exclusive
    · intro sound
      exact (step_inv hi sound h).exclusively

/-- A step of a trace that is replayed by evaluation. -/
def next (u : BufferUsage) (w : StreamWorld) (c : StreamCall) : Option StreamWorld :=
  if w.Fresh c then w.perform u c else none

theorem step_of_next {c : StreamCall} (h : next u w c=some w') : Step u w c w' := by
  unfold next at h
  split_ifs at h with hf
  exact ⟨hf,h⟩

/-- A stream of two NV12 buffers. -/
def preview : StreamWorld where
  stream := Camera3Stream.construct .android 0 0
    ⟨640,480,.YCBCR_420_888,⟨kHwCameraWrite⟩,2⟩ true

theorem exclusive_ownership_preview : ∃ w,
    Run (Guarded Sound (Step .android)) preview
      [.beginConfigure,.endConfigure 0,.getBuffer 7 (some 5),.returnBuffer (some 5),.close] w ∧
    w.OwnedExclusively ∧ ∀ c w',Step .android w c w' → (w'.OwnedExclusively ↔ w.Sound c) := by
  obtain ⟨w,hr,-⟩ := Run.of_exec_guarded (f := next .android) (G := Sound) (p := fun _ => true)
    preview [.beginConfigure,.endConfigure 0,.getBuffer 7 (some 5),.returnBuffer (some 5),.close]
    (fun _ _ _ h => step_of_next h) (by decide)
  exact ⟨w,hr,exclusive_ownership_iff .android 0 0 _ true hr⟩

/-- Two buffers out, the first one returned twice: the counter says that nothing is out. -/
theorem double_return_breaks_ownership : ¬∀ calls w,
    Run (Step .android) preview calls w → w.OwnedExclusively := by
  intro hall
  have replay := Run.of_exec_any (r := Step .android) (f := next .android)
    (p := fun w => decide (w.stream.pendingBufferCount≠w.stream.inUseCount)) preview
    [.beginConfigure,.endConfigure 0,.getBuffer 7 (some 5),.getBuffer 8 (some 6),
      .returnBuffer (some 5),.returnBuffer (some 5)]
    (fun _ _ _ => step_of_next) (by decide)
  cases replay with
  | intro w hw =>
    have counted := (hall _ w hw.1).1
    exact absurd counted (by simpa using hw.2)

end StreamWorld
end IotMedia.Camera

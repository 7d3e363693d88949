import IotMedia.Camera.BufferOwnership

namespace IotMedia.Camera

open IotMedia.Framework

def StreamEffect.allocated : StreamEffect → Option Handle
  | .allocBuffer _ handle => handle
  | _ => none

def StreamEffect.freed : StreamEffect → Option Handle
  | .freeBuffer handle => some handle
  | _ => none

def StreamEffect.handed : StreamEffect → Option Handle
  | .handedOut handle => some handle
  | _ => none

/-- The frame that a GetBuffer asks for. -/
def StreamCall.frame : StreamCall → Option Int
  | .getBuffer frame _ | .wakeGetBuffer frame _ _ => some frame
  | _ => none

/-- What a list of effects allocates, frees and hands out. -/
structure Traffic (effects : List StreamEffect) (allocated freed handed : List Handle) : Prop where
  allocated : effects.filterMap StreamEffect.allocated=allocated
  freed : effects.filterMap StreamEffect.freed=freed
  handed : effects.filterMap StreamEffect.handed=handed

section Traffic

variable {a b : List StreamEffect} {p q r p' q' r' : List Handle}

theorem Traffic.nil : Traffic [] [] [] [] := ⟨rfl,rfl,rfl⟩

theorem Traffic.append (h : Traffic a p q r) (h' : Traffic b p' q' r') :
    Traffic (a++b) (p++p') (q++q') (r++r') := by
  refine ⟨?_,?_,?_⟩
  · rw [List.filterMap_append,h.allocated,h'.allocated]
  · rw [List.filterMap_append,h.freed,h'.freed]
  · rw [List.filterMap_append,h.handed,h'.handed]

theorem traffic_freeAll (s : Camera3Stream) : Traffic s.freeAll [] s.memAllocBuffers.keys [] := by
  refine ⟨?_,?_,?_⟩ <;>
    simp [Camera3Stream.freeAll,List.filterMap_map,Function.comp_def,StreamEffect.allocated,
      StreamEffect.freed,StreamEffect.handed]

end Traffic

namespace Camera3Stream

/-- The handle that a call gives back. -/
def givenBack (s : Camera3Stream) : StreamCall → Option Handle
  | .returnBuffer handle => handle
  | .returnBufferToClient .ERROR _ frame => s.buffersMap frame
  | _ => none

/-- ReturnBufferLocked takes the handle back. -/
def TakesBack (s : Camera3Stream) (handle : Option Handle) (h : Handle) : Prop :=
  handle=some h ∧ s.status≠.initialized ∧ 0 < s.pendingBufferCount ∧ h∈s.memAllocBuffers.keys

/-- The call frees every buffer. -/
def Clears (u : BufferUsage) (s : Camera3Stream) : StreamCall → Prop
  | .tearDown => s.status=.configured ∧ s.pendingBufferCount=0
  | .close => (s.status=.configured ∨ s.status=.reconfigActive) ∧ s.pendingBufferCount=0
  | .endConfigure acquired => 0≤acquired ∧ (s.status=.configActive ∨
      s.status=.reconfigActive ∧ s.pendingBufferCount=0 ∧
        ¬(u.toCommon s.cameraStream.usage=s.oldUsage ∧ s.oldMaxBuffers=s.streamMaxBuffers))
  | _ => False

instance (u : BufferUsage) (s : Camera3Stream) : (c : StreamCall) → Decidable (Clears u s c)
  | .tearDown | .close => inferInstanceAs (Decidable (_∧_))
  | .endConfigure acquired => inferInstanceAs (Decidable (0≤acquired ∧ (_∨_∧_∧¬_)))
  | .getBuffer _ _ | .wakeGetBuffer _ _ _ | .returnBuffer _ | .returnBufferToClient _ _ _
  | .beginConfigure | .abortConfigure | .beginPrepare | .prepareBuffer _ | .endPrepare =>
    inferInstanceAs (Decidable False)

/-- In these statuses the slots are in use. -/
def Settled (s : Camera3Stream) : Prop :=
  s.status=.configured ∨ s.status=.prepareActive ∨ s.status=.reconfigActive

/-- The slots are as they were. -/
structure SameSlots (s t : Camera3Stream) : Prop where
  slots : t.memAllocSlots=s.memAllocSlots
  hw : t.hwBufferAllocated=s.hwBufferAllocated
  total : t.totalBufferCount=s.totalBufferCount
  settled : t.Settled → s.Settled

/-- The next slot has been filled. -/
structure NextSlot (s t : Camera3Stream) (h : Handle) : Prop where
  room : s.hwBufferAllocated < s.totalBufferCount
  slots : t.memAllocSlots=s.memAllocSlots.set s.hwBufferAllocated (some h)
  hw : t.hwBufferAllocated=s.hwBufferAllocated+1
  total : t.totalBufferCount=s.totalBufferCount
  settled : t.Settled → s.Settled

/-- All that a call can do to the buffers: nothing, hand out a free one or a new one, add a free
one, take one back, or free them all. -/
inductive TableMove (u : BufferUsage) (s : Camera3Stream) (c : StreamCall) (t : Camera3Stream)
    (effects : List StreamEffect) : Prop
  | rests (buffers : t.memAllocBuffers=s.memAllocBuffers) (slots : SameSlots s t)
      (map : t.buffersMap=s.buffersMap) (quiet : Traffic effects [] [] [])
      (keeps : ∀ h,¬TakesBack s (s.givenBack c) h) (spares : ¬Clears u s c)
  | reuses (h : Handle) (frame : Int) (asked : c.frame=some frame)
      (free : s.memAllocBuffers.valueFor h=some true)
      (buffers : t.memAllocBuffers=s.memAllocBuffers.replaceValueFor h false)
      (slots : SameSlots s t) (map : t.buffersMap=Function.update s.buffersMap frame (some h))
      (out : Traffic effects [] [] [h])
  | allocates (h : Handle) (frame : Int) (asked : c.frame=some frame) (answered : c.alloc=some h)
      (buffers : t.memAllocBuffers=s.memAllocBuffers.add h false) (slots : NextSlot s t h)
      (map : t.buffersMap=Function.update s.buffersMap frame (some h))
      (out : Traffic effects [h] [] [h])
  | prepares (h : Handle) (asked : c=.prepareBuffer (some h))
      (buffers : t.memAllocBuffers=s.memAllocBuffers.add h true) (slots : NextSlot s t h)
      (map : t.buffersMap=s.buffersMap) (quiet : Traffic effects [h] [] [])
  | takesBack (h : Handle) (back : TakesBack s (s.givenBack c) h)
      (buffers : t.memAllocBuffers=s.memAllocBuffers.replaceValueFor h true)
      (slots : SameSlots s t) (map : t.buffersMap=s.buffersMap) (quiet : Traffic effects [] [] [])
  | clears (cleared : Clears u s c) (buffers : t.memAllocBuffers.keys=[])
      (slots : t.memAllocSlots.length=t.totalBufferCount)
      (settled : t.Settled → t.hwBufferAllocated=0)
      (map : t.buffersMap=s.buffersMap) (quiet : Traffic effects [] s.memAllocBuffers.keys [])

variable {u : BufferUsage} {s t : Camera3Stream} {c : StreamCall} {l : List StreamEffect}

theorem takesBack_none (h : Handle) : ¬TakesBack s none h := by
  rintro ⟨same,-⟩
  cases same

/-- A call that gives nothing back and touches neither the buffers nor the slots. -/
theorem TableMove.still (back : s.givenBack c=none) (spares : ¬Clears u s c)
    (buffers : t.memAllocBuffers=s.memAllocBuffers) (slots : SameSlots s t)
    (map : t.buffersMap=s.buffersMap) (quiet : Traffic l [] [] []) : TableMove u s c t l :=
  .rests buffers slots map quiet (fun h => back ▸ takesBack_none h) spares

theorem SameSlots.refl (s : Camera3Stream) : SameSlots s s := ⟨rfl,rfl,rfl,fun h => h⟩

theorem handOut_traffic (s : Camera3Stream) (idx : Nat) (h : Handle) (frame : Int) :
    Traffic (s.handOut idx h frame).effects [] [] [h] := by
  unfold handOut
  dsimp only
  split_ifs <;> exact ⟨rfl,rfl,rfl⟩

section Calls

variable {frame : Int} {alloc : Option Handle}

theorem getBufferLocked_moves (ht : SlotTable s) (asked : c.frame=some frame)
    (answered : c.alloc=alloc) (back : s.givenBack c=none) (spares : ¬Clears u s c) :
    TableMove u s c (s.getBufferLocked u (some frame) alloc).stream
      (s.getBufferLocked u (some frame) alloc).effects := by
  have same {l : List StreamEffect} (quiet : Traffic l [] [] []) : TableMove u s c s l :=
    .still back spares rfl (.refl s) rfl quiet
  have outcome := s.getBufferLocked_outcome u (some frame) alloc
  generalize s.getBufferLocked u (some frame) alloc=r at outcome ⊢
  cases outcome with
  | refused | full => exact same .nil
  | unplaced free absent => exact absurd absent (ht.free_placed free)
  | @reuses _ h idx active free =>
    exact .reuses h frame asked free rfl ⟨rfl,rfl,rfl,fun h => h⟩ rfl (handOut_traffic _ _ _ _)
  | unanswered => exact same ⟨rfl,rfl,rfl⟩
  | @allocates _ h _ active answer room handed =>
    subst handed
    have new : Traffic [.allocBuffer (s.allocRequest u) (some h)] [h] [] [] := ⟨rfl,rfl,rfl⟩
    exact .allocates h frame asked (answered.trans answer) rfl ⟨room,rfl,rfl,rfl,fun h => h⟩ rfl
      (new.append (handOut_traffic _ _ _ _))

theorem getBufferWoken_moves (ht : SlotTable s) (waitRes : Int) (asked : c.frame=some frame)
    (answered : c.alloc=alloc) (back : s.givenBack c=none) (spares : ¬Clears u s c) :
    TableMove u s c (s.getBufferWoken u frame waitRes alloc).stream
      (s.getBufferWoken u frame waitRes alloc).effects := by
  unfold getBufferWoken
  split_ifs
  · exact .still back spares rfl (.refl s) rfl .nil
  · exact getBufferLocked_moves ht asked answered back spares

theorem getBuffer_moves (ht : SlotTable s) (waitRes : Int) (asked : c.frame=some frame)
    (answered : c.alloc=alloc) (back : s.givenBack c=none) (spares : ¬Clears u s c) :
    TableMove u s c (s.getBuffer u frame waitRes alloc).stream
      (s.getBuffer u frame waitRes alloc).effects := by
  unfold getBuffer
  split_ifs
  · exact .still back spares rfl (.refl s) rfl .nil
  · exact getBufferWoken_moves ht waitRes asked answered back spares
  · exact getBufferLocked_moves ht asked answered back spares

/-- GetBufferLocked for a caller that only wants a buffer allocated. -/
theorem preallocate_cases (u : BufferUsage) (hs : s.status=.prepareActive)
    (alloc : Option Handle) :
    (∃ e l,e≠0 ∧ Traffic l [] [] [] ∧ s.getBufferLocked u none alloc=⟨(e,none),s,l⟩ ∧
      (s.hwBufferAllocated < s.totalBufferCount → alloc=none)) ∨
    ∃ h,alloc=some h ∧ s.hwBufferAllocated < s.totalBufferCount ∧
      s.getBufferLocked u none alloc=
        ⟨(0,none),s.preallocated h,[.allocBuffer (s.allocRequest u) (some h)]⟩ := by
  have outcome := s.getBufferLocked_outcome u none alloc
  generalize s.getBufferLocked u none alloc=r at outcome ⊢
  cases outcome with
  | refused closed => simp [hs] at closed
  | unanswered answer => exact .inl ⟨-ENOMEM,_,by decide,⟨rfl,rfl,rfl⟩,rfl,fun _ => answer⟩
  | preallocates answer room => exact .inr ⟨_,answer,room,rfl⟩
  | full occupied => exact .inl ⟨-ENOSYS,_,by decide,.nil,rfl,fun room => absurd room occupied⟩

/-- PrepareBuffer of an active prepare: refused with the stream untouched, or a buffer is added and
counted, and the last one ends the prepare. -/
theorem prepareBuffer_cases (u : BufferUsage) (hs : s.status=.prepareActive)
    (alloc : Option Handle) :
    (∃ l,Traffic l [] [] [] ∧ s.prepareBuffer u alloc=⟨-ENODEV,s,l⟩ ∧
      (s.hwBufferAllocated < s.totalBufferCount → alloc=none)) ∨
    ∃ h l,alloc=some h ∧ s.hwBufferAllocated < s.totalBufferCount ∧ Traffic l [h] [] [] ∧
      s.prepareBuffer u alloc=if s.preparedBuffersCount+1 < s.totalBufferCount then
        ⟨-ENODATA,{ s.preallocated h with preparedBuffersCount := s.preparedBuffersCount+1 },l⟩
      else ⟨0,{ s.preallocated h with preparedBuffersCount := 0,status := .configured },l⟩ := by
  unfold prepareBuffer
  rw [if_neg (not_not.mpr hs)]
  rcases preallocate_cases u hs alloc with ⟨e,l,he,quiet,eq,full⟩|⟨h,rfl,room,eq⟩
  · rw [eq]
    exact .inl ⟨l,quiet,if_pos he,full⟩
  · rw [eq]
    refine .inr ⟨h,[.allocBuffer (s.allocRequest u) (some h)],rfl,room,⟨rfl,rfl,rfl⟩,?_⟩
    dsimp only [preallocated]
    rw [if_neg (not_not.mpr rfl)]
    split_ifs with more
    · rfl
    · simp [endPrepareLocked,hs]

theorem prepareBuffer_moves (alloc : Option Handle) :
    TableMove u s (.prepareBuffer alloc) (s.prepareBuffer u alloc).stream
      (s.prepareBuffer u alloc).effects := by
  have spares : ¬Clears u s (.prepareBuffer alloc) := fun h => h
  by_cases hs : s.status=.prepareActive
  · rcases prepareBuffer_cases u hs alloc with ⟨l,quiet,eq,-⟩|⟨h,l,rfl,room,new,eq⟩
    · rw [eq]
      exact .still rfl spares rfl (.refl s) rfl quiet
    · rw [eq]
      split_ifs
      all_goals exact .prepares h rfl rfl ⟨room,rfl,rfl,rfl,fun _ => .inr (.inl hs)⟩ rfl new
  · unfold prepareBuffer
    rw [if_pos hs]
    exact .still rfl spares rfl (.refl s) rfl .nil

theorem returnBufferLocked_moves {handle : Option Handle} (active : Bool)
    (back : s.givenBack c=handle) (spares : ¬Clears u s c) :
    TableMove u s c ({ s with isStreamActive := active }.returnBufferLocked handle).stream
      ({ s with isStreamActive := active }.returnBufferLocked handle).effects := by
  have refused (none : ∀ h,¬TakesBack s handle h) :
      TableMove u s c { s with isStreamActive := active } [] :=
    .rests rfl ⟨rfl,rfl,rfl,fun h => h⟩ rfl .nil (fun h => back ▸ none h) spares
  unfold returnBufferLocked
  by_cases hs : s.status=.initialized
  · rw [if_pos hs]
    exact refused fun h taken => taken.2.1 hs
  rw [if_neg hs]
  by_cases hp : s.pendingBufferCount=0
  · rw [if_pos hp]
    exact refused fun h taken => taken.2.2.1.ne' hp
  rw [if_neg hp]
  cases handle with
  | none => exact refused takesBack_none
  | some h =>
    cases hv : s.memAllocBuffers.valueFor h with
    | none =>
      simp only [hv]
      refine refused fun q taken => ?_
      have known := taken.2.2.2
      rw [← Option.some.inj taken.1] at known
      exact (KeyedVector.valueFor_none _ _).mp hv known
    | some v =>
      have known : h∈s.memAllocBuffers.keys := (KeyedVector.mem_keys_iff _ _).mpr ⟨v,hv⟩
      simp only [hv]
      refine .takesBack h ⟨back,hs,Nat.pos_of_ne_zero hp,known⟩ rfl ⟨rfl,rfl,rfl,fun h => h⟩ rfl ?_
      split_ifs <;> exact ⟨rfl,rfl,rfl⟩

theorem returnBufferToClient_moves {status : BufferStatus} {timestamp : Int}
    {r : StreamResult Unit} (h : s.returnBufferToClient status timestamp frame=some r) :
    TableMove u s (.returnBufferToClient status timestamp frame) r.stream r.effects := by
  obtain ⟨handle,hb,⟨rfl,rfl⟩|⟨rfl,rfl⟩⟩ := returnBufferToClient_cases h
  · exact .still rfl (fun h => h) rfl ⟨rfl,rfl,rfl,fun h => h⟩ rfl ⟨rfl,rfl,rfl⟩
  · exact returnBufferLocked_moves true hb fun h => h

section Configure

theorem beginConfigure_moves (u : BufferUsage) (s : Camera3Stream) :
    TableMove u s .beginConfigure (s.beginConfigure u).stream (s.beginConfigure u).effects := by
  have spares : ¬Clears u s .beginConfigure := fun h => h
  cases hs : s.status <;> simp only [beginConfigure,hs]
  case initialized | configured =>
    refine .still rfl spares rfl ⟨rfl,rfl,rfl,?_⟩ rfl ?_
    · simp [Settled,hs]
    · split_ifs <;> exact ⟨rfl,rfl,rfl⟩
  all_goals exact .still rfl spares rfl (.refl s) rfl .nil

theorem abortConfigure_moves (u : BufferUsage) (s : Camera3Stream) :
    TableMove u s .abortConfigure (s.abortConfigure u).stream (s.abortConfigure u).effects := by
  have spares : ¬Clears u s .abortConfigure := fun h => h
  unfold abortConfigure
  split_ifs with active reconfig
  · exact .still rfl spares rfl ⟨rfl,rfl,rfl,fun _ => .inr (.inr reconfig)⟩ rfl .nil
  · exact .still rfl spares rfl ⟨rfl,rfl,rfl,fun settled => by simp [Settled] at settled⟩ rfl .nil
  · exact .still rfl spares rfl (.refl s) rfl .nil

theorem beginPrepare_moves (u : BufferUsage) (s : Camera3Stream) :
    TableMove u s .beginPrepare s.beginPrepare.stream s.beginPrepare.effects := by
  have spares : ¬Clears u s .beginPrepare := fun h => h
  unfold beginPrepare
  split_ifs with hs
  · exact .still rfl spares rfl (.refl s) rfl .nil
  · exact .still rfl spares rfl (.refl s) rfl .nil
  · exact .still rfl spares rfl (.refl s) rfl .nil
  · exact .still rfl spares rfl ⟨rfl,rfl,rfl,fun _ => .inl (not_not.mp hs)⟩ rfl .nil

theorem endPrepareLocked_moves (u : BufferUsage) (s : Camera3Stream) :
    TableMove u s .endPrepare s.endPrepareLocked.stream s.endPrepareLocked.effects := by
  have spares : ¬Clears u s .endPrepare := fun h => h
  unfold endPrepareLocked
  split_ifs with hs
  · exact .still rfl spares rfl (.refl s) rfl .nil
  · exact .still rfl spares rfl ⟨rfl,rfl,rfl,fun _ => .inr (.inl (not_not.mp hs))⟩ rfl .nil

theorem close_moves (ht : SlotTable s) :
    TableMove u s .close s.close.stream s.close.effects := by
  unfold close
  cases hs : s.status <;> simp only [closeLocked,hs]
  case reconfigActive | configured =>
    by_cases hp : 0 < s.pendingBufferCount
    · rw [if_pos hp]
      exact .still rfl (fun h => hp.ne' h.2) rfl (.refl s) rfl .nil
    · rw [if_neg hp]
      refine .clears ⟨by simp [hs],Nat.eq_zero_of_not_pos hp⟩ rfl ht.slots ?_ rfl
        (traffic_freeAll s)
      simp [Settled]
  all_goals exact .still rfl (by simp [Clears,hs]) rfl (.refl s) rfl .nil

theorem tearDown_moves (ht : SlotTable s) :
    TableMove u s .tearDown s.tearDown.stream s.tearDown.effects := by
  unfold tearDown
  split_ifs with hs hp hw
  · exact .still rfl (fun h => hs h.1) rfl (.refl s) rfl .nil
  · exact .still rfl (fun h => hp.ne' h.2) rfl (.refl s) rfl .nil
  · exact .clears ⟨not_not.mp hs,Nat.eq_zero_of_not_pos hp⟩ rfl (by simpa using ht.slots)
      (fun _ => rfl) rfl (traffic_freeAll s)
  · have none_allocated := Nat.eq_zero_of_not_pos hw
    have no_keys : s.memAllocBuffers.keys=[] := by
      rw [List.eq_nil_iff_forall_not_mem]
      intro h known
      have placed := ht.placed h known
      simp [none_allocated] at placed
    refine .clears ⟨not_not.mp hs,Nat.eq_zero_of_not_pos hp⟩ no_keys (by simpa using ht.slots)
      (fun _ => none_allocated) rfl ?_
    rw [no_keys]
    exact .nil

/-- What ConfigureLocked leaves when it succeeds. -/
structure Reset (s : Camera3Stream) (r : StreamResult Int) : Prop where
  ret : r.ret=0
  buffers : r.stream.memAllocBuffers.keys=[]
  slots : r.stream.memAllocSlots.length=r.stream.totalBufferCount
  hw : r.stream.hwBufferAllocated=0
  map : r.stream.buffersMap=s.buffersMap
  freed : Traffic r.effects [] s.memAllocBuffers.keys []

theorem resetBuffers_reset (s : Camera3Stream) : Reset s s.resetBuffers :=
  ⟨rfl,rfl,List.length_replicate,rfl,rfl,traffic_freeAll s⟩

theorem configureLocked_cases (active : s.isConfigureActive=true) :
    s.status=.reconfigActive ∧ 0 < s.pendingBufferCount ∧ s.configureLocked=⟨-ENOSYS,s,[]⟩ ∨
    (s.status=.configActive ∨ s.status=.reconfigActive ∧ s.pendingBufferCount=0) ∧
      Reset s s.configureLocked := by
  have either : s.status=.configActive ∨ s.status=.reconfigActive := by
    simpa [isConfigureActive] using active
  rcases either with first|again
  · refine .inr ⟨.inl first,?_⟩
    simp only [configureLocked,first]
    exact resetBuffers_reset s
  by_cases hp : 0 < s.pendingBufferCount
  · refine .inl ⟨again,hp,?_⟩
    simp only [configureLocked,again,closeLocked,if_pos hp]
    rfl
  · refine .inr ⟨.inr ⟨again,Nat.eq_zero_of_not_pos hp⟩,?_⟩
    simp only [configureLocked,again,closeLocked,if_neg hp,ne_eq,not_true_eq_false,if_false]
    have freed := (traffic_freeAll s).append (traffic_freeAll { s with
      memAllocBuffers := KeyedVector.empty })
    rw [KeyedVector.keys_empty,List.append_nil s.memAllocBuffers.keys] at freed
    exact ⟨rfl,rfl,List.length_replicate,rfl,rfl,freed⟩

theorem endConfigure_moves (u : BufferUsage) (s : Camera3Stream) (acquired : Int) :
    TableMove u s (.endConfigure acquired) (s.endConfigure u acquired).stream
      (s.endConfigure u acquired).effects := by
  unfold endConfigure
  by_cases active : s.isConfigureActive=true
  swap
  · rw [if_neg active]
    refine .still rfl (fun h => ?_) rfl (.refl s) rfl .nil
    simp only [isConfigureActive,Bool.or_eq_true,decide_eq_true_eq] at active
    exact active (h.2.imp_right fun h => h.1)
  rw [if_pos active]
  by_cases refused : acquired<0
  · dsimp only
    rw [if_pos refused]
    exact .still rfl (fun h => absurd h.1 (by omega)) rfl ⟨rfl,rfl,rfl,fun h => h⟩ rfl .nil
  have acquires : 0≤acquired := by omega
  dsimp only
  rw [if_neg refused]
  by_cases same : s.status=.reconfigActive ∧ u.toCommon s.cameraStream.usage=s.oldUsage ∧
      s.oldMaxBuffers=s.streamMaxBuffers
  · rw [if_pos same]
    refine .still rfl ?_ rfl ⟨rfl,rfl,rfl,fun _ => .inr (.inr same.1)⟩ rfl .nil
    rintro ⟨-,first|⟨-,-,changed⟩⟩
    · rw [first] at same
      cases same.1
    · exact changed same.2
  rw [if_neg same]
  rcases configureLocked_cases (s := { s with monitorId := acquired }) active with
    ⟨again,pending,eq⟩|⟨reset,done⟩
  · rw [eq,if_pos (show (-ENOSYS : Int)≠0 by decide)]
    refine .still rfl ?_ rfl ⟨rfl,rfl,rfl,fun settled => by simp [Settled] at settled⟩ rfl .nil
    rintro ⟨-,first|⟨-,idle,-⟩⟩
    · rw [again] at first
      cases first
    · exact pending.ne' idle
  · rw [if_neg (not_not.mpr done.ret)]
    have cleared : Clears u s (.endConfigure acquired) :=
      ⟨acquires,reset.imp_right fun h => ⟨h.1,h.2,fun unchanged => same ⟨h.1,unchanged⟩⟩⟩
    exact .clears cleared done.buffers done.slots (fun _ => done.hw) done.map done.freed

end Configure

end Calls

end Camera3Stream

namespace StreamWorld

open Camera3Stream

variable {u : BufferUsage} {w w' : StreamWorld} {c : StreamCall}

/-- Every call moves the buffers in one of the ways of `TableMove`. -/
theorem step_moves (ht : w.stream.SlotTable) (h : Step u w c w') :
    ∃ l,w'.log=w.log++l ∧ TableMove u w.stream c w'.stream l := by
  have done := h.performed
  cases c with
  | getBuffer frame alloc =>
    simp only [perform] at done
    split_ifs at done
    · cases done
      exact ⟨[],by simp,.still rfl (fun h => h) rfl (.refl _) rfl .nil⟩
    · cases done
      exact ⟨_,rfl,getBuffer_moves ht 0 rfl rfl rfl fun h => h⟩
  | wakeGetBuffer frame waitRes alloc =>
    simp only [perform] at done
    split_ifs at done
    cases done
    exact ⟨_,rfl,getBufferWoken_moves ht waitRes rfl rfl rfl fun h => h⟩
  | returnBuffer handle =>
    cases done
    exact ⟨_,rfl,returnBufferLocked_moves w.stream.isStreamActive rfl fun h => h⟩
  | returnBufferToClient status timestamp frame =>
    obtain ⟨r,hr,rfl⟩ := Option.map_eq_some_iff.mp done
    exact ⟨_,rfl,returnBufferToClient_moves hr⟩
  | beginConfigure =>
    cases done
    exact ⟨_,rfl,beginConfigure_moves u _⟩
  | endConfigure acquired =>
    cases done
    exact ⟨_,rfl,endConfigure_moves u _ acquired⟩
  | abortConfigure =>
    cases done
    exact ⟨_,rfl,abortConfigure_moves u _⟩
  | beginPrepare =>
    cases done
    exact ⟨_,rfl,beginPrepare_moves u _⟩
  | prepareBuffer alloc =>
    cases done
    exact ⟨_,rfl,prepareBuffer_moves alloc⟩
  | endPrepare =>
    cases done
    exact ⟨_,rfl,endPrepareLocked_moves u _⟩
  | tearDown =>
    cases done
    exact ⟨_,rfl,tearDown_moves ht⟩
  | close =>
    cases done
    exact ⟨_,rfl,close_moves ht⟩

end StreamWorld
end IotMedia.Camera

import IotMedia.Camera.TableMoves

namespace IotMedia.Camera

open IotMedia.Framework

namespace Camera3Stream

/-- The handles in the first hw_buffer_allocated_ slots, which are those of mem_alloc_buffers_. -/
structure Slotted (s : Camera3Stream) (handles : List Handle) : Prop where
  distinct : handles.Nodup
  slots : s.memAllocSlots.take s.hwBufferAllocated=handles.map some
  count : handles.length=s.hwBufferAllocated
  known : ∀ h,h∈handles ↔ h∈s.memAllocBuffers.keys

/-- Where the slots are in use they hold the allocated buffers, once each. -/
def SlotsExact (s : Camera3Stream) : Prop := s.Settled → ∃ handles,s.Slotted handles

variable {u : BufferUsage} {s t : Camera3Stream} {c : StreamCall} {l : List StreamEffect}
  {handles : List Handle}

theorem Slotted.same (h : Slotted s handles) (slots : SameSlots s t)
    (keys : ∀ q,q∈t.memAllocBuffers.keys ↔ q∈s.memAllocBuffers.keys) : Slotted t handles := by
  refine ⟨h.distinct,?_,?_,fun q => (h.known q).trans (keys q).symm⟩
  · rw [slots.slots,slots.hw]
    exact h.slots
  · rw [slots.hw]
    exact h.count

/-- A new buffer in the next slot. -/
theorem Slotted.next (h : Slotted s handles) (ht : SlotTable s) {q : Handle} {free : Bool}
    (slots : NextSlot s t q) (fresh : q∉s.memAllocBuffers.keys)
    (buffers : t.memAllocBuffers=s.memAllocBuffers.add q free) : Slotted t (handles++[q]) := by
  have room : s.hwBufferAllocated < s.memAllocSlots.length := by
    rw [ht.slots]
    exact slots.room
  refine ⟨?_,?_,?_,fun p => ?_⟩
  · rw [List.nodup_append]
    refine ⟨h.distinct,List.nodup_singleton q,?_⟩
    rintro p hp r hr rfl
    rw [List.mem_singleton.mp hr] at hp
    exact fresh ((h.known q).mp hp)
  · rw [slots.slots,slots.hw,List.take_add_one,List.take_set_of_le (le_refl _),h.slots]
    simp [room]
  · rw [slots.hw,List.length_append,h.count]
    rfl
  · rw [buffers,KeyedVector.mem_keys_add,List.mem_append,List.mem_singleton,h.known,or_comm]

theorem TableMove.exact (move : TableMove u s c t l) (ht : SlotTable s)
    (fresh : ∀ h∈c.alloc,h∉s.memAllocBuffers.keys) (h : SlotsExact s) : SlotsExact t := by
  intro settled
  have same (slots : SameSlots s t)
      (keys : ∀ q,q∈t.memAllocBuffers.keys ↔ q∈s.memAllocBuffers.keys) :
      ∃ handles,Slotted t handles := by
    obtain ⟨handles,slotted⟩ := h (slots.settled settled)
    exact ⟨handles,slotted.same slots keys⟩
  have next {q : Handle} {free : Bool} (slots : NextSlot s t q) (answered : c.alloc=some q)
      (buffers : t.memAllocBuffers=s.memAllocBuffers.add q free) : ∃ handles,Slotted t handles := by
    obtain ⟨handles,slotted⟩ := h (slots.settled settled)
    exact ⟨handles++[q],slotted.next ht slots (fresh q answered) buffers⟩
  cases move with
  | rests buffers slots => exact same slots fun q => by rw [buffers]
  | reuses q f asked free buffers slots =>
    exact same slots fun p => by rw [buffers,KeyedVector.keys_replaceValueFor]
  | takesBack q back buffers slots =>
    exact same slots fun p => by rw [buffers,KeyedVector.keys_replaceValueFor]
  | allocates q f asked answered buffers slots => exact next slots answered buffers
  | prepares q asked buffers slots => exact next slots (asked ▸ rfl) buffers
  | clears cleared buffers slots empty =>
    refine ⟨[],List.nodup_nil,?_,(empty settled).symm,fun q => ?_⟩
    · rw [empty settled]
      rfl
    · rw [buffers]

/-- GetBufferLocked writes no slot, or the next one where there is one. -/
theorem getBufferLocked_fills (u : BufferUsage) (s : Camera3Stream) (frame : Option Int)
    (alloc : Option Handle) :
    (s.getBufferLocked u frame alloc).stream.hwBufferAllocated=s.hwBufferAllocated ∧
        (s.getBufferLocked u frame alloc).stream.memAllocSlots=s.memAllocSlots ∨
      s.hwBufferAllocated < s.totalBufferCount ∧
        ∃ h,(s.getBufferLocked u frame alloc).stream.memAllocSlots=
          s.memAllocSlots.set s.hwBufferAllocated (some h) := by
  have outcome := s.getBufferLocked_outcome u frame alloc
  generalize s.getBufferLocked u frame alloc=r at outcome ⊢
  cases outcome with
  | allocates active answer room handed =>
    subst handed
    exact .inr ⟨room,_,rfl⟩
  | preallocates answer room => exact .inr ⟨room,_,rfl⟩
  | _ => exact .inl ⟨rfl,rfl⟩

/-- A GetBufferLocked that fails has marked nothing. -/
theorem getBufferLocked_failed (ht : SlotTable s) (frame : Option Int) (alloc : Option Handle)
    (failed : (s.getBufferLocked u frame alloc).ret.1≠0) :
    (s.getBufferLocked u frame alloc).stream=s := by
  have outcome := s.getBufferLocked_outcome u frame alloc
  generalize s.getBufferLocked u frame alloc=r at outcome failed ⊢
  cases outcome with
  | refused | unanswered | full => rfl
  | unplaced free absent => exact absurd absent (ht.free_placed free)
  | reuses | preallocates => exact absurd rfl failed
  | allocates active answer room handed =>
    subst handed
    exact absurd rfl failed

/-- With a free buffer or a free slot GetBufferLocked succeeds. -/
theorem getBufferLocked_ok (ht : SlotTable s) (settled : s.Settled) (frame : Int) (h : Handle)
    (available : (∃ q,s.memAllocBuffers.valueFor q=some true) ∨
      s.hwBufferAllocated < s.totalBufferCount) :
    (s.getBufferLocked u (some frame) (some h)).ret.1=0 := by
  have active : ¬(s.status=.error ∨ s.status=.initialized) := by
    rcases settled with hs|hs|hs <;> simp [hs]
  have outcome := s.getBufferLocked_outcome u (some frame) (some h)
  generalize s.getBufferLocked u (some frame) (some h)=r at outcome ⊢
  cases outcome with
  | refused closed => exact absurd closed active
  | unplaced free absent => exact absurd absent (ht.free_placed free)
  | reuses => rfl
  | unanswered answer => cases answer
  | allocates _ answer room handed =>
    subst handed
    rfl
  | full occupied taken =>
    obtain ⟨q,free⟩ := available.resolve_right occupied
    exact absurd free (taken rfl q)

/-- While fewer buffers are in use than the stream may have, one is free or there is a slot left. -/
theorem Slotted.available (h : Slotted s handles) (fewer : s.inUseCount < s.totalBufferCount) :
    (∃ q,s.memAllocBuffers.valueFor q=some true) ∨ s.hwBufferAllocated < s.totalBufferCount := by
  by_cases free : ∃ q,s.memAllocBuffers.valueFor q=some true
  · exact .inl free
  · have used : s.inUseCount=s.memAllocBuffers.keys.length := by
      refine KeyedVector.countWhere_eq_length fun q v hq => ?_
      cases v with
      | true => exact absurd ⟨q,hq⟩ free
      | false => rfl
    have counted : handles.length=s.memAllocBuffers.keys.length :=
      ((List.perm_ext_iff_of_nodup h.distinct s.memAllocBuffers.keys_nodup).mpr h.known).length_eq
    right
    rw [← h.count,counted,← used]
    exact fewer

end Camera3Stream

namespace StreamWorld

open Camera3Stream

variable {u : BufferUsage} {w w' : StreamWorld} {c : StreamCall}

theorem step_exact (ht : w.stream.SlotTable) (h : Step u w c w') (exact : w.stream.SlotsExact) :
    w'.stream.SlotsExact := by
  obtain ⟨l,-,move⟩ := step_moves ht h
  exact TableMove.exact move ht h.fresh exact

theorem run_exact {id : Int} {maxSize : Nat} {params : CameraStreamParameters} {device : Bool}
    {calls : List StreamCall}
    (hr : Run (Step u) ⟨.construct u id maxSize params device,[],[]⟩ calls w) :
    w.stream.SlotsExact := by
  refine (hr.invariant (P := fun w => w.stream.SlotTable ∧ w.stream.SlotsExact) ?_ ⟨?_,?_⟩).2
  · exact fun t c t' ht h => ⟨step_table ht.1 h,step_exact ht.1 h ht.2⟩
  · exact run_table .nil
  · intro settled
    revert settled
    unfold Settled Camera3Stream.construct
    dsimp only
    split_ifs <;> simp

/-- From a new stream on, whatever its callers do, the slots in use hold the allocated buffers once
each. GetBufferLocked fills no slot past the array, marks nothing when it fails, and hands out a
buffer that is not in use while there may be one more. -/
theorem slots_exact (u : BufferUsage) (id : Int) (maxSize : Nat) (params : CameraStreamParameters)
    (device : Bool) {calls : List StreamCall} {w : StreamWorld}
    (hr : Run (Step u) ⟨.construct u id maxSize params device,[],[]⟩ calls w) :
    (w.stream.Settled → w.stream.hwBufferAllocated ≤ w.stream.totalBufferCount ∧
      ∃ handles,w.stream.Slotted handles) ∧
    (∀ frame alloc,
      ((w.stream.getBufferLocked u frame alloc).stream.hwBufferAllocated≠
          w.stream.hwBufferAllocated →
        w.stream.hwBufferAllocated < w.stream.memAllocSlots.length) ∧
      ((w.stream.getBufferLocked u frame alloc).ret.1≠0 →
        (w.stream.getBufferLocked u frame alloc).stream=w.stream)) ∧
    (w.stream.Settled → w.stream.inUseCount < w.stream.totalBufferCount →
      ∀ frame h,h∉w.stream.memAllocBuffers.keys →
        ∃ b q,(w.stream.getBufferLocked u (some frame) (some h)).ret=(0,some b) ∧
          b.buffer=some q ∧ ¬w.stream.InUse q ∧
            (w.stream.getBufferLocked u (some frame) (some h)).stream.InUse q) := by
  have table := run_table hr
  have exact := run_exact hr
  refine ⟨fun settled => ⟨table.allocated,exact settled⟩,fun frame alloc => ⟨?_,?_⟩,?_⟩
  · intro grown
    rw [table.slots]
    rcases getBufferLocked_fills u w.stream frame alloc with ⟨same,-⟩|⟨room,-⟩
    · exact absurd same grown
    · exact room
  · exact getBufferLocked_failed table frame alloc
  · intro settled fewer frame h fresh
    obtain ⟨handles,slotted⟩ := exact settled
    have ok := getBufferLocked_ok (u := u) table settled frame h (slotted.available fewer)
    rcases getBufferLocked_cases u table frame (some h) (fun q hq => Option.some.inj hq ▸ fresh)
      with ⟨e,l,failed,-,eq⟩|⟨t,idx,q,l,marked,-,-,-,eq⟩
    · rw [eq] at ok
      exact absurd ok failed
    · rw [eq]
      have held : q∈t.held := by
        rw [marked.held]
        exact Set.mem_insert q _
      exact ⟨_,q,rfl,rfl,marked.free,held⟩

theorem slots_exact_preview : ∃ w,Run (Step .android) preview
    [.beginConfigure,.endConfigure 0,.getBuffer 7 (some 5),.getBuffer 8 (some 6),
      .returnBuffer (some 5)] w ∧ ∃ handles,w.stream.Slotted handles := by
  obtain ⟨w,hr,hs⟩ := Run.of_exec_any (r := Step .android) (f := next .android)
    (p := fun w => w.stream.status=.configured) preview
    [.beginConfigure,.endConfigure 0,.getBuffer 7 (some 5),.getBuffer 8 (some 6),
      .returnBuffer (some 5)] (fun _ _ _ => step_of_next) (by decide)
  exact ⟨w,hr,((slots_exact .android 0 0 _ true hr).1 (.inl (of_decide_eq_true hs))).2⟩

end StreamWorld
end IotMedia.Camera

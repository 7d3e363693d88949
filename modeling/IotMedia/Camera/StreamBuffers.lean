import IotMedia.Camera.Stream
import IotMedia.Framework.Ownership

namespace IotMedia.Camera

open IotMedia.Framework

/-- The buffer handed to a holder, given back by it, or freed. -/
def StreamEffect.ownEvent : StreamEffect → Option (OwnEvent Handle)
  | .handedOut h => some (.acquire h)
  | .returned h => some (.release h)
  | .freeBuffer h => some (.destroy h)
  | _ => none

def ownEvents (effects : List StreamEffect) : List (OwnEvent Handle) :=
  effects.filterMap StreamEffect.ownEvent

@[simp] theorem ownEvents_nil : ownEvents []=[] := rfl

@[simp] theorem ownEvents_append (a b : List StreamEffect) :
    ownEvents (a++b)=ownEvents a++ownEvents b := List.filterMap_append

namespace Camera3Stream

/-- The handles marked in use. -/
def held (s : Camera3Stream) : Set Handle := {h | s.InUse h}

/-- The counter, the in-use marks and the slot table agree. -/
structure Owned (s : Camera3Stream) : Prop where
  counted : s.pendingBufferCount=s.inUseCount
  slots : s.memAllocSlots.length=s.totalBufferCount
  allocated : s.hwBufferAllocated ≤ s.totalBufferCount
  placed : ∀ h,h∈s.memAllocBuffers.keys → some h∈s.memAllocSlots.take s.hwBufferAllocated

/-- Every allocated buffer has its slot; unlike the counter this survives any misuse. -/
structure SlotTable (s : Camera3Stream) : Prop where
  slots : s.memAllocSlots.length=s.totalBufferCount
  allocated : s.hwBufferAllocated ≤ s.totalBufferCount
  placed : ∀ h,h∈s.memAllocBuffers.keys → some h∈s.memAllocSlots.take s.hwBufferAllocated

/-- The two states have the same buffer table. -/
structure SameBuffers (s t : Camera3Stream) : Prop where
  pending : t.pendingBufferCount=s.pendingBufferCount
  buffers : t.memAllocBuffers=s.memAllocBuffers
  slots : t.memAllocSlots=s.memAllocSlots
  hw : t.hwBufferAllocated=s.hwBufferAllocated
  total : t.totalBufferCount=s.totalBufferCount

/-- The outcome of a call that keeps the table consistent and moves buffers as the
pool allows. -/
structure Keeps {α : Type} (s : Camera3Stream) (r : StreamResult α) : Prop where
  owned : Owned r.stream
  pool : Pool s.held (ownEvents r.effects) r.stream.held

variable {s t : Camera3Stream} {a b : List StreamEffect} {α β γ : Type}

theorem Keeps.trans {r : StreamResult α} {q : StreamResult β} (h : Keeps s r)
    (h' : Keeps r.stream q) (c : γ) : Keeps s ⟨c,q.stream,r.effects++q.effects⟩ :=
  ⟨h'.owned,by rw [ownEvents_append]; exact h.pool.trans h'.pool⟩

theorem Owned.table (ho : Owned s) : SlotTable s := ⟨ho.slots,ho.allocated,ho.placed⟩

theorem SlotTable.shrink (ht : SlotTable s) (hs : t.memAllocSlots=s.memAllocSlots)
    (hw : t.hwBufferAllocated=s.hwBufferAllocated) (hc : t.totalBufferCount=s.totalBufferCount)
    (hk : ∀ h,h∈t.memAllocBuffers.keys → h∈s.memAllocBuffers.keys) : SlotTable t where
  slots := by rw [hs,hc]; exact ht.slots
  allocated := by rw [hw,hc]; exact ht.allocated
  placed := by
    intro h hm
    rw [hs,hw]
    exact ht.placed h (hk h hm)

theorem SameBuffers.owned (h : SameBuffers s t) (ho : Owned s) : Owned t where
  counted := by rw [h.pending,inUseCount,h.buffers]; exact ho.counted
  slots := by rw [h.slots,h.total]; exact ho.slots
  allocated := by rw [h.hw,h.total]; exact ho.allocated
  placed := by rw [h.buffers,h.slots,h.hw]; exact ho.placed

theorem SameBuffers.held (h : SameBuffers s t) : t.held=s.held := by
  ext handle
  simp [Camera3Stream.held,InUse,h.buffers]

/-- A call that leaves the buffer table alone. -/
theorem Owned.same {r : StreamResult α} (ho : Owned s) (hs : SameBuffers s r.stream)
    (he : ownEvents r.effects=[]) : Keeps s r := by
  refine ⟨hs.owned ho,?_⟩
  rw [he,hs.held]
  exact .nil s.held

theorem Owned.keeps (ho : Owned s) (c : γ) : Keeps s ⟨c,s,[]⟩ :=
  ho.same ⟨rfl,rfl,rfl,rfl,rfl⟩ rfl

/-- A change of the other fields after a call. -/
theorem Keeps.andThen {r : StreamResult α} {q : StreamResult β} (h : Keeps s r)
    (hs : SameBuffers r.stream q.stream) (he : ownEvents q.effects=ownEvents r.effects) :
    Keeps s q := by
  refine ⟨hs.owned h.owned,?_⟩
  rw [he,hs.held]
  exact h.pool

theorem Owned.pending_pos (ho : Owned s) {h : Handle} (hu : s.InUse h) :
    0 < s.pendingBufferCount := by
  rw [ho.counted]
  exact KeyedVector.countWhere_pos hu rfl

theorem Owned.idle (ho : Owned s) (hp : s.pendingBufferCount=0) (h : Handle) :
    ¬s.InUse h := by
  intro hu
  have pos := ho.pending_pos hu
  omega

theorem Owned.busy (ho : Owned s) (hp : 0 < s.pendingBufferCount) : ∃ h,s.InUse h := by
  by_contra hn
  have zero : s.inUseCount=0 := by
    refine KeyedVector.countWhere_eq_zero.mpr ?_
    intro k v hk
    cases v with
    | true => rfl
    | false => exact absurd ⟨k,hk⟩ hn
  have := ho.counted
  omega

theorem ownEvents_freeAll (s : Camera3Stream) :
    ownEvents s.freeAll=s.memAllocBuffers.keys.map .destroy := by
  simp only [ownEvents,freeAll,List.filterMap_map]
  exact congrFun (List.filterMap_eq_map) s.memAllocBuffers.keys

/-- Freeing every buffer while none is in use. -/
theorem pool_freeAll (ho : Owned s) (hp : s.pendingBufferCount=0)
    (ht : t.memAllocBuffers=KeyedVector.empty) : Pool s.held (ownEvents s.freeAll) t.held := by
  have none_held : t.held=s.held := by
    ext h
    simp [held,InUse,ht,show s.memAllocBuffers.valueFor h≠some false from ho.idle hp h]
  rw [none_held,ownEvents_freeAll]
  apply Pool.destroyAll
  intro h _
  exact ho.idle hp h

theorem freed_keeps (ho : Owned s) (hp : s.pendingBufferCount=0) (status : StreamStatus) (c : γ) :
    Keeps s ⟨c,{ s with memAllocBuffers := KeyedVector.empty,status := status },s.freeAll⟩ := by
  refine ⟨⟨?_,ho.slots,ho.allocated,?_⟩,pool_freeAll ho hp rfl⟩
  · show s.pendingBufferCount=0
    exact hp
  · intro h hk
    simp at hk

theorem closeLocked_keeps (ho : Owned s) : Keeps s s.closeLocked := by
  cases hs : s.status <;> simp only [closeLocked,hs]
  case reconfigActive | configured =>
    by_cases hp : 0 < s.pendingBufferCount
    · rw [if_pos hp]
      exact ho.keeps _
    · rw [if_neg hp]
      exact freed_keeps ho (by omega) _ _
  all_goals exact ho.keeps _

theorem close_keeps (ho : Owned s) : Keeps s s.close :=
  (closeLocked_keeps ho).andThen ⟨rfl,rfl,rfl,rfl,rfl⟩ rfl

theorem closeLocked_ok (h : s.closeLocked.ret=0) : s.closeLocked.stream.pendingBufferCount=0 := by
  cases hs : s.status <;> simp only [closeLocked,hs] at h ⊢
  case reconfigActive | configured =>
    by_cases hp : 0 < s.pendingBufferCount
    · rw [if_pos hp] at h
      cases h
    · rw [if_neg hp]
      exact Nat.eq_zero_of_not_pos hp
  all_goals cases h

theorem resetBuffers_keeps (ho : Owned s) (hp : s.pendingBufferCount=0) :
    Keeps s s.resetBuffers := by
  refine ⟨⟨rfl,?_,Nat.zero_le _,?_⟩,pool_freeAll ho hp rfl⟩
  · simp [resetBuffers]
  · intro h hk
    simp [resetBuffers] at hk

theorem configureLocked_keeps (ho : Owned s)
    (hc : s.status=.configActive → s.pendingBufferCount=0) : Keeps s s.configureLocked := by
  cases hs : s.status <;> simp only [configureLocked,hs]
  case reconfigActive =>
    have closed := closeLocked_keeps ho
    split_ifs with hr
    · exact closed
    · have zero := closeLocked_ok (not_ne_iff.mp hr)
      exact closed.trans (resetBuffers_keeps closed.owned zero) _
  case configActive => exact resetBuffers_keeps ho (hc hs)
  all_goals exact ho.keeps _

theorem endConfigure_keeps (u : BufferUsage) (acquired : Int) (ho : Owned s)
    (hc : s.status=.configActive → 0≤acquired → s.pendingBufferCount=0) :
    Keeps s (s.endConfigure u acquired) := by
  have first : Keeps s ⟨(),{ s with monitorId := acquired },[]⟩ :=
    ho.same ⟨rfl,rfl,rfl,rfl,rfl⟩ rfl
  unfold endConfigure
  split_ifs with hs ha
  · exact ho.same ⟨rfl,rfl,rfl,rfl,rfl⟩ rfl
  · have conf := first.trans
      (configureLocked_keeps first.owned (fun h => hc h (not_lt.mp ha))) ()
    dsimp only
    split_ifs
    · exact ho.same ⟨rfl,rfl,rfl,rfl,rfl⟩ rfl
    · exact conf.andThen ⟨rfl,rfl,rfl,rfl,rfl⟩ rfl
    · exact conf.andThen ⟨rfl,rfl,rfl,rfl,rfl⟩ rfl
  · exact ho.keeps _

theorem beginConfigure_keeps (u : BufferUsage) (ho : Owned s) : Keeps s (s.beginConfigure u) := by
  cases hs : s.status <;> simp only [beginConfigure,hs]
  case initialized | configured =>
    apply ho.same ⟨rfl,rfl,rfl,rfl,rfl⟩
    dsimp only
    split_ifs <;> rfl
  all_goals exact ho.keeps _

theorem abortConfigure_keeps (u : BufferUsage) (ho : Owned s) : Keeps s (s.abortConfigure u) := by
  unfold abortConfigure
  split_ifs
  all_goals exact ho.same ⟨rfl,rfl,rfl,rfl,rfl⟩ rfl

theorem beginPrepare_keeps (ho : Owned s) : Keeps s s.beginPrepare := by
  unfold beginPrepare
  split_ifs
  all_goals exact ho.same ⟨rfl,rfl,rfl,rfl,rfl⟩ rfl

theorem endPrepareLocked_keeps (ho : Owned s) : Keeps s s.endPrepareLocked := by
  unfold endPrepareLocked
  split_ifs
  all_goals exact ho.same ⟨rfl,rfl,rfl,rfl,rfl⟩ rfl

theorem tearDown_keeps (ho : Owned s) : Keeps s s.tearDown := by
  unfold tearDown
  split_ifs with hs hp hw
  · exact ho.keeps _
  · exact ho.keeps _
  · have zero : s.pendingBufferCount=0 := by omega
    refine ⟨⟨zero,?_,Nat.zero_le _,?_⟩,pool_freeAll ho zero rfl⟩
    · simpa using ho.slots
    · intro h hk
      simp at hk
  · have none_allocated : s.hwBufferAllocated=0 := by omega
    have no_keys : ∀ h,h∉s.memAllocBuffers.keys := by
      intro h hk
      have inSlot := ho.placed h hk
      simp [none_allocated] at inSlot
    refine ⟨⟨ho.counted,?_,ho.allocated,?_⟩,.nil _⟩
    · simpa using ho.slots
    · intro h hk
      exact absurd hk (no_keys h)

/-- A buffer of the table has its slot among the allocated ones. -/
theorem SlotTable.slotIndex_some (ho : SlotTable s) {h : Handle} (hk : h∈s.memAllocBuffers.keys) :
    ∃ idx,s.slotIndex h=some idx := by
  rw [← Option.isSome_iff_exists,slotIndex,List.findIdx?_isSome,List.any_eq_true]
  exact ⟨some h,ho.placed h hk,by simp⟩

theorem inUseCount_mark (s : Camera3Stream) {h : Handle} {v w : Bool}
    (hv : s.memAllocBuffers.valueFor h=some v) :
    (s.memAllocBuffers.replaceValueFor h w).countWhere (fun free => !free)+(!v).toNat=
      s.inUseCount+(!w).toNat :=
  KeyedVector.countWhere_replaceValueFor s.memAllocBuffers h v w _ hv

/-- `t` is `s` with one more buffer marked in use, its slot filled, and not yet counted. -/
structure Marked (s t : Camera3Stream) (h : Handle) : Prop where
  free : ¬s.InUse h
  held : t.held=insert h s.held
  counted : t.inUseCount=s.inUseCount+1
  pending : t.pendingBufferCount=s.pendingBufferCount
  slots : t.memAllocSlots.length=t.totalBufferCount
  allocated : t.hwBufferAllocated≤t.totalBufferCount
  placed : ∀ q,q∈t.memAllocBuffers.keys → some q∈t.memAllocSlots.take t.hwBufferAllocated

theorem ownEvents_handOut (s : Camera3Stream) (idx : Nat) (h : Handle) (frame : Int) :
    ownEvents (s.handOut idx h frame).effects=[.acquire h] := by
  dsimp only [handOut]
  split_ifs <;> rfl

theorem Marked.keeps {h : Handle} (hm : Marked s t h) (ho : Owned s) (idx : Nat) (frame : Int) :
    Keeps s (t.handOut idx h frame) := by
  refine ⟨⟨?_,hm.slots,hm.allocated,hm.placed⟩,?_⟩
  · show t.pendingBufferCount+1=t.inUseCount
    rw [hm.pending,hm.counted,ho.counted]
  · rw [ownEvents_handOut]
    show Pool s.held [.acquire h] t.held
    rw [hm.held]
    exact .acquire (.nil s.held) hm.free

theorem mark_free (ho : SlotTable s) {h : Handle} (hf : s.memAllocBuffers.valueFor h=some true) :
    Marked s { s with memAllocBuffers := s.memAllocBuffers.replaceValueFor h false } h where
  free := by simp [InUse,hf]
  held := by
    ext q
    by_cases hq : q=h
    · simp [held,InUse,hq,hf]
    · simp [held,InUse,hq]
  counted := s.inUseCount_mark (w := false) hf
  pending := rfl
  slots := ho.slots
  allocated := ho.allocated
  placed := by
    intro q hq
    apply ho.placed q
    simpa using hq

/-- A new buffer takes the next slot. -/
theorem placed_add (ho : SlotTable s) (hw : s.hwBufferAllocated < s.totalBufferCount) (h : Handle)
    (free : Bool) :
    ∀ q,q∈(s.memAllocBuffers.add h free).keys →
      some q∈(s.memAllocSlots.set s.hwBufferAllocated (some h)).take (s.hwBufferAllocated+1) := by
  have next : s.hwBufferAllocated < s.memAllocSlots.length := by rw [ho.slots]; exact hw
  have taken : (s.memAllocSlots.set s.hwBufferAllocated (some h)).take (s.hwBufferAllocated+1)=
      s.memAllocSlots.take s.hwBufferAllocated++[some h] := by
    rw [List.take_add_one,List.take_set_of_le (le_refl _)]
    simp [next]
  intro q hq
  rw [taken]
  rcases (KeyedVector.mem_keys_add _ _ _ _).mp hq with rfl|hk
  · simp
  · exact List.mem_append_left _ (ho.placed q hk)

theorem mark_new (ho : SlotTable s) (hw : s.hwBufferAllocated < s.totalBufferCount) {h : Handle}
    (hn : h∉s.memAllocBuffers.keys) :
    Marked s { s with
      memAllocSlots := s.memAllocSlots.set s.hwBufferAllocated (some h)
      memAllocBuffers := s.memAllocBuffers.add h false
      hwBufferAllocated := s.hwBufferAllocated+1 } h where
  free := by simp [InUse,(KeyedVector.valueFor_none _ h).mpr hn]
  held := by
    ext q
    by_cases hq : q=h
    · simp [held,InUse,hq]
    · simp [held,InUse,hq]
  counted := KeyedVector.countWhere_add _ h false _ ((KeyedVector.valueFor_none _ h).mpr hn)
  pending := rfl
  slots := by simpa using ho.slots
  allocated := hw
  placed := placed_add ho hw h false

/-- The stream after a buffer has been allocated for no frame. -/
def preallocated (s : Camera3Stream) (h : Handle) : Camera3Stream :=
  { s with
    memAllocSlots := s.memAllocSlots.set s.hwBufferAllocated (some h)
    memAllocBuffers := s.memAllocBuffers.add h true
    hwBufferAllocated := s.hwBufferAllocated+1 }

/-- What GetBufferLocked comes to, for a caller with or without a frame. -/
inductive BufferOutcome (u : BufferUsage) (s : Camera3Stream) (alloc : Option Handle) :
    Option Int → StreamResult (Int × Option StreamBuffer) → Prop
  | refused {frame} (closed : s.status=.error ∨ s.status=.initialized) :
    BufferOutcome u s alloc frame ⟨(-ENOSYS,none),s,[]⟩
  | unplaced {frame : Int} {h} (free : s.memAllocBuffers.valueFor h=some true)
      (absent : s.slotIndex h=none) : BufferOutcome u s alloc (some frame)
    ⟨(-ENOSYS,none),{ s with memAllocBuffers := s.memAllocBuffers.replaceValueFor h false },[]⟩
  | reuses {frame : Int} {h idx} (active : ¬(s.status=.error ∨ s.status=.initialized))
      (free : s.memAllocBuffers.valueFor h=some true) (placed : s.slotIndex h=some idx) :
    BufferOutcome u s alloc (some frame)
      ({ s with memAllocBuffers := s.memAllocBuffers.replaceValueFor h false }.handOut idx h frame)
  | unanswered {frame} (answer : alloc=none)
      (room : s.hwBufferAllocated < s.totalBufferCount) :
    BufferOutcome u s alloc frame ⟨(-ENOMEM,none),s,[.allocBuffer (s.allocRequest u) none]⟩
  | allocates {frame : Int} {h r} (active : ¬(s.status=.error ∨ s.status=.initialized))
      (answer : alloc=some h) (room : s.hwBufferAllocated < s.totalBufferCount)
      (handed : { s with
        memAllocSlots := s.memAllocSlots.set s.hwBufferAllocated (some h)
        memAllocBuffers := s.memAllocBuffers.add h false
        hwBufferAllocated := s.hwBufferAllocated+1 }.handOut s.hwBufferAllocated h frame=r) :
    BufferOutcome u s alloc (some frame)
      ⟨r.ret,r.stream,.allocBuffer (s.allocRequest u) (some h)::r.effects⟩
  | preallocates {h} (answer : alloc=some h) (room : s.hwBufferAllocated < s.totalBufferCount) :
    BufferOutcome u s alloc none
      ⟨(0,none),s.preallocated h,[.allocBuffer (s.allocRequest u) (some h)]⟩
  | full {frame} (occupied : ¬s.hwBufferAllocated < s.totalBufferCount)
      (taken : frame.isSome=true → ∀ h,s.memAllocBuffers.valueFor h≠some true) :
    BufferOutcome u s alloc frame ⟨(-ENOSYS,none),s,[]⟩

theorem getBufferLocked_outcome (u : BufferUsage) (s : Camera3Stream) (frame : Option Int)
    (alloc : Option Handle) : BufferOutcome u s alloc frame (s.getBufferLocked u frame alloc) := by
  unfold getBufferLocked
  by_cases closed : s.status=.error ∨ s.status=.initialized
  · rw [if_pos closed]
    exact .refused closed
  rw [if_neg closed]
  cases hf : (frame.bind fun _ => s.memAllocBuffers.firstKeyWhere fun free => free) with
  | some h =>
    obtain ⟨f,rfl,found⟩ := Option.bind_eq_some_iff.mp hf
    obtain ⟨v,free,rfl⟩ := KeyedVector.firstKeyWhere_some found
    have same : ({ s with memAllocBuffers := s.memAllocBuffers.replaceValueFor h false } :
        Camera3Stream).slotIndex h=s.slotIndex h := rfl
    simp only [same]
    cases placed : s.slotIndex h with
    | none => exact .unplaced free placed
    | some idx => exact .reuses closed free placed
  | none =>
    by_cases room : s.hwBufferAllocated < s.totalBufferCount
    · simp only [if_pos room]
      cases alloc with
      | none => exact .unanswered rfl room
      | some h =>
        cases frame with
        | none => exact .preallocates rfl room
        | some f => exact .allocates closed rfl room rfl
    · simp only [if_neg room]
      refine .full room fun asked h free => ?_
      obtain ⟨f,rfl⟩ := Option.isSome_iff_exists.mp asked
      rw [Option.bind_some] at hf
      cases KeyedVector.firstKeyWhere_none hf h true free

/-- A buffer that is marked free has its slot. -/
theorem SlotTable.free_placed (ht : SlotTable s) {h : Handle}
    (free : s.memAllocBuffers.valueFor h=some true) : s.slotIndex h≠none := by
  obtain ⟨idx,placed⟩ := ht.slotIndex_some ((KeyedVector.mem_keys_iff _ h).mpr ⟨true,free⟩)
  rw [placed]
  exact Option.some_ne_none idx

/-- GetBufferLocked for a caller that wants a buffer: refused with the table untouched, or a
buffer that was free or has just been allocated is handed out. -/
theorem getBufferLocked_cases (u : BufferUsage) (ho : SlotTable s) (frame : Int)
    (alloc : Option Handle) (hn : ∀ h,alloc=some h → h∉s.memAllocBuffers.keys) :
    (∃ e l,e≠0 ∧ ownEvents l=[] ∧ s.getBufferLocked u (some frame) alloc=⟨(e,none),s,l⟩) ∨
    ∃ t idx h l,Marked s t h ∧ t.status=s.status ∧ t.buffersMap=s.buffersMap ∧ ownEvents l=[] ∧
      s.getBufferLocked u (some frame) alloc=
        ⟨(t.handOut idx h frame).ret,(t.handOut idx h frame).stream,
          l++(t.handOut idx h frame).effects⟩ := by
  have outcome := s.getBufferLocked_outcome u (some frame) alloc
  generalize s.getBufferLocked u (some frame) alloc=r at outcome ⊢
  cases outcome with
  | refused => exact Or.inl ⟨-ENOSYS,[],by decide,rfl,rfl⟩
  | unplaced free absent => exact absurd absent (ho.free_placed free)
  | reuses active free => exact Or.inr ⟨_,_,_,[],mark_free ho free,rfl,rfl,rfl,rfl⟩
  | unanswered => exact Or.inl ⟨-ENOMEM,_,by decide,rfl,rfl⟩
  | allocates active answer room handed =>
    subst handed
    exact Or.inr ⟨_,_,_,[.allocBuffer (s.allocRequest u) (some _)],
      mark_new ho room (hn _ answer),rfl,rfl,rfl,rfl⟩
  | full => exact Or.inl ⟨-ENOSYS,[],by decide,rfl,rfl⟩

theorem getBufferLocked_keeps (u : BufferUsage) (ho : Owned s) (frame : Int)
    (alloc : Option Handle) (hn : ∀ h,alloc=some h → h∉s.memAllocBuffers.keys) :
    Keeps s (s.getBufferLocked u (some frame) alloc) := by
  rcases getBufferLocked_cases u ho.table frame alloc hn with ⟨e,l,-,hl,he⟩|⟨t,idx,h,l,hm,-,-,hl,he⟩
  · rw [he]
    exact ho.same ⟨rfl,rfl,rfl,rfl,rfl⟩ hl
  · rw [he]
    exact (hm.keeps ho idx frame).andThen ⟨rfl,rfl,rfl,rfl,rfl⟩ (by simp [hl])

theorem getBufferWoken_keeps (u : BufferUsage) (ho : Owned s) (frame waitRes : Int)
    (alloc : Option Handle) (hn : ∀ h,alloc=some h → h∉s.memAllocBuffers.keys) :
    Keeps s (s.getBufferWoken u frame waitRes alloc) := by
  unfold getBufferWoken
  split_ifs
  · exact ho.keeps _
  · exact getBufferLocked_keeps u ho frame alloc hn

theorem getBuffer_keeps (u : BufferUsage) (ho : Owned s) (frame waitRes : Int)
    (alloc : Option Handle) (hn : ∀ h,alloc=some h → h∉s.memAllocBuffers.keys) :
    Keeps s (s.getBuffer u frame waitRes alloc) := by
  unfold getBuffer
  split_ifs
  · exact ho.keeps _
  · exact getBufferWoken_keeps u ho frame waitRes alloc hn
  · exact getBufferLocked_keeps u ho frame alloc hn

/-- Pre-allocation adds free buffers only. -/
theorem preallocate_keeps (u : BufferUsage) (ho : Owned s) (alloc : Option Handle)
    (hn : ∀ h,alloc=some h → h∉s.memAllocBuffers.keys) :
    Keeps s (s.getBufferLocked u none alloc) := by
  have outcome := s.getBufferLocked_outcome u none alloc
  generalize s.getBufferLocked u none alloc=r at outcome ⊢
  cases outcome with
  | refused | full => exact ho.keeps _
  | unanswered => exact ho.same ⟨rfl,rfl,rfl,rfl,rfl⟩ rfl
  | @preallocates h answer hw =>
    have absent := (KeyedVector.valueFor_none _ h).mpr (hn h answer)
    refine ⟨⟨?_,?_,hw,placed_add ho.table hw h true⟩,?_⟩
    · have count := KeyedVector.countWhere_add s.memAllocBuffers h true (fun free => !free) absent
      exact ho.counted.trans count.symm
    · simpa [preallocated] using ho.slots
    · have same : (s.preallocated h).held=s.held := by
        ext q
        by_cases hq : q=h
        · simp [preallocated,held,InUse,hq,absent]
        · simp [preallocated,held,InUse,hq]
      exact Eq.mpr (congrArg (Pool s.held []) same) (.nil s.held)

theorem prepareBuffer_keeps (u : BufferUsage) (ho : Owned s) (alloc : Option Handle)
    (hn : ∀ h,alloc=some h → h∉s.memAllocBuffers.keys) : Keeps s (s.prepareBuffer u alloc) := by
  have pre := preallocate_keeps u ho alloc hn
  unfold prepareBuffer
  split_ifs with hs
  · exact ho.keeps _
  · have counted : Keeps s (⟨0,{ (s.getBufferLocked u none alloc).stream with
        preparedBuffersCount := (s.getBufferLocked u none alloc).stream.preparedBuffersCount+1 },
        (s.getBufferLocked u none alloc).effects⟩ : StreamResult Int) :=
      pre.andThen ⟨rfl,rfl,rfl,rfl,rfl⟩ rfl
    dsimp only
    split_ifs
    · exact pre.andThen ⟨rfl,rfl,rfl,rfl,rfl⟩ rfl
    · exact counted.andThen ⟨rfl,rfl,rfl,rfl,rfl⟩ rfl
    · exact counted.trans (endPrepareLocked_keeps counted.owned) _

/-- The handle is accepted by ReturnBufferLocked although nobody holds it. -/
def AcceptsFree (s : Camera3Stream) (handle : Option Handle) : Prop :=
  s.status≠.initialized ∧ 0 < s.pendingBufferCount ∧
    handle.bind s.memAllocBuffers.valueFor=some true

instance (s : Camera3Stream) (handle : Option Handle) : Decidable (s.AcceptsFree handle) :=
  inferInstanceAs (Decidable (_∧_∧_))

/-- ReturnBufferLocked: refused, or the counter goes down and the buffer is marked free. -/
theorem returnBufferLocked_cases (s : Camera3Stream) (handle : Option Handle) :
    (s.returnBufferLocked handle).stream=s ∧ (s.returnBufferLocked handle).effects=[] ∧
      (s.returnBufferLocked handle).ret≠0 ∧ ¬s.AcceptsFree handle ∨
    ∃ h v l,handle=some h ∧ s.status≠.initialized ∧ 0 < s.pendingBufferCount ∧
      s.memAllocBuffers.valueFor h=some v ∧ ownEvents l=[] ∧
      s.returnBufferLocked handle=⟨0,{ s with
        memAllocBuffers := s.memAllocBuffers.replaceValueFor h true
        pendingBufferCount := s.pendingBufferCount-1 },.returned h::l⟩ := by
  by_cases hs : s.status=.initialized
  · left
    simp [returnBufferLocked,hs,AcceptsFree,ENOSYS]
  by_cases hp : s.pendingBufferCount=0
  · left
    simp [returnBufferLocked,hs,hp,AcceptsFree,ENOSYS]
  cases handle with
  | none =>
    left
    simp [returnBufferLocked,hs,hp,AcceptsFree,EINVAL]
  | some h =>
    cases hv : s.memAllocBuffers.valueFor h with
    | none =>
      left
      simp [returnBufferLocked,hs,hp,hv,AcceptsFree,EINVAL]
    | some v =>
      right
      refine ⟨h,v,if s.pendingBufferCount-1=0 ∧ s.isConfigureActive=false then
        [.changeStateToIdle s.monitorId] else [],rfl,hs,Nat.pos_of_ne_zero hp,hv,?_,?_⟩
      · split_ifs <;> rfl
      · simp only [returnBufferLocked,if_neg hs,if_neg hp,hv]

theorem returnBufferLocked_keeps (ho : Owned s) (handle : Option Handle)
    (hf : ¬s.AcceptsFree handle) : Keeps s (s.returnBufferLocked handle) := by
  rcases s.returnBufferLocked_cases handle with ⟨hs,he,-,-⟩|⟨h,v,l,rfl,hi,hp,hv,hl,he⟩
  · apply ho.same
    · rw [hs]
      exact ⟨rfl,rfl,rfl,rfl,rfl⟩
    · rw [he]
      rfl
  · have used : v=false := by
      by_contra hne
      exact hf ⟨hi,hp,by simpa [hv] using hne⟩
    subst used
    have count := s.inUseCount_mark (w := true) hv
    have released : ({ s with
        memAllocBuffers := s.memAllocBuffers.replaceValueFor h true
        pendingBufferCount := s.pendingBufferCount-1 } : Camera3Stream).held=s.held \ {h} := by
      ext q
      by_cases hq : q=h
      · simp [held,InUse,hq,hv]
      · simp [held,InUse,hq]
    rw [he]
    refine ⟨⟨?_,ho.slots,ho.allocated,?_⟩,?_⟩
    · show s.pendingBufferCount-1=
        (s.memAllocBuffers.replaceValueFor h true).countWhere (fun free => !free)
      have := ho.counted
      simp at count
      omega
    · intro q hq
      apply ho.placed q
      simpa using hq
    · have events : ownEvents (.returned h::l)=[.release h] := by
        simpa [ownEvents,StreamEffect.ownEvent] using hl
      have step : Pool s.held ([]++[OwnEvent.release h]) (s.held \ {h}) := .release (.nil s.held)
      show Pool s.held (ownEvents (.returned h::l)) _
      rw [events,released]
      exact step

/-- A free buffer taken back once more: the counter no longer matches the marks. -/
theorem acceptsFree_counted (ho : Owned s) {handle : Option Handle} (hf : s.AcceptsFree handle) :
    (s.returnBufferLocked handle).stream.pendingBufferCount≠
      (s.returnBufferLocked handle).stream.inUseCount := by
  rcases s.returnBufferLocked_cases handle with ⟨-,-,-,hn⟩|⟨h,v,l,rfl,hi,hp,hv,-,he⟩
  · exact absurd hf hn
  · have free : v=true := by simpa [hv] using hf.2.2
    subst free
    have count := s.inUseCount_mark (w := true) hv
    rw [he]
    show s.pendingBufferCount-1≠
      (s.memAllocBuffers.replaceValueFor h true).countWhere (fun free => !free)
    have := ho.counted
    simp at count
    omega

/-- The frame has an entry; its buffer goes to the client, or back to the stream. -/
theorem returnBufferToClient_cases {status : BufferStatus} {timestamp frame : Int}
    {r : StreamResult Unit} (h : s.returnBufferToClient status timestamp frame=some r) :
    ∃ handle,s.buffersMap frame=some handle ∧
      (status=.OK ∧
        r=⟨(),{ s with isStreamActive := true },[.callback handle timestamp frame]⟩ ∨
      status=.ERROR ∧
        r=⟨(),(returnBufferLocked { s with isStreamActive := true } (some handle)).stream,
          (returnBufferLocked { s with isStreamActive := true } (some handle)).effects⟩) := by
  unfold returnBufferToClient at h
  cases entry : s.buffersMap frame with
  | none => simp [entry] at h
  | some handle =>
    refine ⟨handle,rfl,?_⟩
    cases status with
    | OK =>
      simp only [entry,Option.some.injEq] at h
      exact .inl ⟨rfl,h.symm⟩
    | ERROR =>
      simp only [entry,Option.some.injEq] at h
      exact .inr ⟨rfl,h.symm⟩

theorem returnBufferToClient_keeps (ho : Owned s) {status : BufferStatus} {timestamp frame : Int}
    {r : StreamResult Unit} (h : s.returnBufferToClient status timestamp frame=some r)
    (hf : status=.ERROR → ¬s.AcceptsFree (s.buffersMap frame)) : Keeps s r := by
  obtain ⟨handle,hb,⟨rfl,rfl⟩|⟨rfl,rfl⟩⟩ := returnBufferToClient_cases h
  · exact ho.same ⟨rfl,rfl,rfl,rfl,rfl⟩ rfl
  · have active : Keeps s ⟨(),{ s with isStreamActive := true },[]⟩ :=
      ho.same ⟨rfl,rfl,rfl,rfl,rfl⟩ rfl
    have back := returnBufferLocked_keeps active.owned (some handle)
      (by rw [← hb]; exact hf rfl)
    exact active.trans back ()

/-- GetBuffer: refused with the stream untouched, or a buffer is handed out. -/
theorem getBuffer_cases (u : BufferUsage) (ht : SlotTable s) (frame waitRes : Int)
    (alloc : Option Handle) (hn : ∀ h,alloc=some h → h∉s.memAllocBuffers.keys) :
    (∃ e l,e≠0 ∧ s.getBuffer u frame waitRes alloc=⟨(e,none),s,l⟩) ∨
    ∃ t idx h l,Marked s t h ∧ s.status=.configured ∧ t.status=s.status ∧
      t.buffersMap=s.buffersMap ∧ s.getBuffer u frame waitRes alloc=
        ⟨(t.handOut idx h frame).ret,(t.handOut idx h frame).stream,
          l++(t.handOut idx h frame).effects⟩ := by
  have locked : (s.status=.configured → s.getBuffer u frame waitRes alloc=
      s.getBufferLocked u (some frame) alloc) ∨
      ∃ e l,e≠0 ∧ s.getBuffer u frame waitRes alloc=⟨(e,none),s,l⟩ := by
    unfold getBuffer getBufferWoken
    split_ifs with hs hw hr
    · exact Or.inr ⟨-ENOSYS,[],by decide,rfl⟩
    · exact Or.inr ⟨waitRes,[],hr,rfl⟩
    · exact Or.inl fun _ => rfl
    · exact Or.inl fun _ => rfl
  by_cases hs : s.status=.configured
  · cases locked with
    | inr refused => exact Or.inl refused
    | inl same =>
      rw [same hs]
      rcases getBufferLocked_cases u ht frame alloc hn with ⟨e,l,he,-,h⟩|⟨t,idx,h,l,hm,hst,hb,-,he⟩
      · exact Or.inl ⟨e,l,he,h⟩
      · exact Or.inr ⟨t,idx,h,l,hm,hs,hst,hb,he⟩
  · left
    refine ⟨-ENOSYS,[],by decide,?_⟩
    rw [getBuffer,if_pos hs]

end Camera3Stream
end IotMedia.Camera

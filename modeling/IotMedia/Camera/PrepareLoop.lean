import IotMedia.Camera.SlotHandles

namespace IotMedia.Camera

open IotMedia.Framework

namespace Camera3Stream

/-- PrepareBuffer called for each answer of AllocBuffer in turn, and what the calls return. -/
def prepareBuffers (u : BufferUsage) (s : Camera3Stream) : List Handle → List Int × Camera3Stream
  | [] => ([],s)
  | h::handles =>
    let r := s.prepareBuffer u (some h)
    let rest := prepareBuffers u r.stream handles
    (r.ret::rest.1,rest.2)

/-- Every buffer is allocated and free, and the stream is configured. -/
structure AllPrepared (total : Nat) (t : Camera3Stream) : Prop where
  status : t.status=.configured
  allocated : t.hwBufferAllocated=total
  total : t.totalBufferCount=total
  free : ∀ h v,t.memAllocBuffers.valueFor h=some v → v=true

/-- PrepareBuffer, called again and again, asks to be called again fewer than total_buffer_count_
times and then is done. -/
def PrepareCompletes (u : BufferUsage) (s : Camera3Stream) (handles : List Handle) : Prop :=
  ∃ n,n < s.totalBufferCount ∧
    (prepareBuffers u s (handles.take (n+1))).1=List.replicate n (-ENODATA)++[0] ∧
      AllPrepared s.totalBufferCount (prepareBuffers u s (handles.take (n+1))).2

variable {u : BufferUsage} {s : Camera3Stream} {handles : List Handle}

/-- A prepare that is active and has a slot left takes the next buffer. -/
theorem prepareBuffer_next (active : s.status=.prepareActive)
    (room : s.hwBufferAllocated < s.totalBufferCount) (h : Handle) :
    ∃ l,s.prepareBuffer u (some h)=if s.preparedBuffersCount+1 < s.totalBufferCount then
      ⟨-ENODATA,{ s.preallocated h with preparedBuffersCount := s.preparedBuffersCount+1 },l⟩
    else ⟨0,{ s.preallocated h with preparedBuffersCount := 0,status := .configured },l⟩ := by
  rcases prepareBuffer_cases u active (some h) with ⟨l,-,-,full⟩|⟨q,l,answer,-,-,eq⟩
  · cases full room
  · cases answer
    exact ⟨l,eq⟩

theorem preallocated_free (free : ∀ q v,s.memAllocBuffers.valueFor q=some v → v=true) (h : Handle) :
    ∀ q v,(s.preallocated h).memAllocBuffers.valueFor q=some v → v=true := by
  intro q v hv
  rw [preallocated,KeyedVector.valueFor_add] at hv
  split_ifs at hv
  · exact (Option.some.inj hv).symm
  · exact free q v hv

/-- When as many calls are counted as buffers are allocated, the calls allocate the rest and the
last one ends the prepare. -/
theorem prepareBuffers_done {n : Nat} (active : s.status=.prepareActive)
    (counted : s.preparedBuffersCount=s.hwBufferAllocated)
    (left : s.hwBufferAllocated+n+1=s.totalBufferCount)
    (free : ∀ h v,s.memAllocBuffers.valueFor h=some v → v=true) (enough : handles.length=n+1) :
    (prepareBuffers u s handles).1=List.replicate n (-ENODATA)++[0] ∧
      AllPrepared s.totalBufferCount (prepareBuffers u s handles).2 := by
  induction n generalizing s handles with
  | zero =>
    obtain ⟨h,rfl⟩ := List.length_eq_one_iff.mp enough
    obtain ⟨l,eq⟩ := prepareBuffer_next (u := u) active (by omega) h
    rw [if_neg (by omega)] at eq
    simp only [prepareBuffers,eq]
    exact ⟨rfl,rfl,left,rfl,preallocated_free free h⟩
  | succ n ih =>
    obtain ⟨h,rest,rfl⟩ := List.exists_cons_of_length_eq_add_one enough
    obtain ⟨l,eq⟩ := prepareBuffer_next (u := u) active (by omega) h
    rw [if_pos (by omega)] at eq
    let t : Camera3Stream :=
      { s.preallocated h with preparedBuffersCount := s.preparedBuffersCount+1 }
    have next : t.hwBufferAllocated+n+1=t.totalBufferCount := by
      show s.hwBufferAllocated+1+n+1=s.totalBufferCount
      omega
    obtain ⟨returned,prepared⟩ := ih (s := t) active (congrArg (· + 1) counted) next
      (preallocated_free free h) (show rest.length=n+1 from Nat.succ.inj enough)
    simp only [prepareBuffers,eq]
    exact ⟨by rw [returned,List.replicate_succ]; rfl,prepared⟩

/-- While fewer calls are counted than buffers are allocated, no call ends the prepare. -/
theorem prepareBuffers_behind (behind : s.preparedBuffersCount < s.hwBufferAllocated)
    (bound : s.hwBufferAllocated ≤ s.totalBufferCount) : 0∉(prepareBuffers u s handles).1 := by
  induction handles generalizing s with
  | nil => simp [prepareBuffers]
  | cons h handles ih =>
    rw [prepareBuffers,List.mem_cons]
    by_cases active : s.status=.prepareActive
    · by_cases room : s.hwBufferAllocated < s.totalBufferCount
      · obtain ⟨l,eq⟩ := prepareBuffer_next (u := u) active room h
        rw [if_pos (by omega)] at eq
        rw [eq,or_iff_right (show (0 : Int)≠ -ENODATA by decide)]
        exact ih (Nat.succ_lt_succ behind) room
      · rcases prepareBuffer_cases u active (some h) with ⟨l,-,eq,-⟩|⟨q,l,-,possible,-,-⟩
        · rw [eq,or_iff_right (show (0 : Int)≠ -ENODEV by decide)]
          exact ih behind bound
        · exact absurd possible room
    · rw [prepareBuffer,if_pos active,or_iff_right (show (0 : Int)≠ -ENOSYS by decide)]
      exact ih behind bound

theorem beginPrepare_begun (begun : s.beginPrepare.ret= -ENODATA) : s.status=.configured ∧
    s.beginPrepare.stream={ s with preparedBuffersCount := 0,status := .prepareActive } := by
  unfold beginPrepare at begun ⊢
  split_ifs at begun ⊢ with hs
  all_goals first
    | exact ⟨not_not.mp hs,rfl⟩
    | cases begun

end Camera3Stream

namespace StreamWorld

open Camera3Stream

variable {u : BufferUsage} {id : Int} {maxSize : Nat} {params : CameraStreamParameters}
  {device : Bool} {calls : List StreamCall} {w : StreamWorld} {handles : List Handle}

/-- From any state that a stream can reach, a prepare that begins is completed by its calls, with
every allocation succeeding, exactly when no buffer was allocated before it. -/
theorem prepare_completes_iff
    (hr : Run (Step u) ⟨.construct u id maxSize params device,[],[]⟩ calls w)
    (begun : w.stream.beginPrepare.ret= -ENODATA) (some_buffers : 1 ≤ w.stream.totalBufferCount)
    (enough : handles.length=w.stream.totalBufferCount) :
    PrepareCompletes u w.stream.beginPrepare.stream handles ↔ w.stream.hwBufferAllocated=0 := by
  obtain ⟨configured,eq⟩ := beginPrepare_begun begun
  have bound := (run_table hr).allocated
  rw [eq]
  constructor
  · rintro ⟨n,-,returned,-⟩
    by_contra allocated
    have never : 0∉(prepareBuffers u { w.stream with
        preparedBuffersCount := 0
        status := .prepareActive } (handles.take (n+1))).1 :=
      prepareBuffers_behind (Nat.pos_of_ne_zero allocated) bound
    rw [returned] at never
    exact never (List.mem_append_right _ (List.mem_singleton_self 0))
  · intro empty
    obtain ⟨known,slotted⟩ := run_exact hr (.inl configured)
    have none_known : ∀ h v,w.stream.memAllocBuffers.valueFor h=some v → v=true := by
      intro h v hv
      have mem := (slotted.known h).mpr ((KeyedVector.mem_keys_iff _ h).mpr ⟨v,hv⟩)
      rw [List.eq_nil_of_length_eq_zero (slotted.count.trans empty)] at mem
      cases mem
    refine ⟨w.stream.totalBufferCount-1,Nat.sub_lt some_buffers Nat.one_pos,?_⟩
    rw [List.take_of_length_le (by omega)]
    exact prepareBuffers_done (s := { w.stream with
      preparedBuffersCount := 0
      status := .prepareActive }) rfl empty.symm (by simp only [empty]; omega) none_known
      (by omega)

theorem prepare_completes_first : ∃ w,Run (Step .android) preview
    [.beginConfigure,.endConfigure 0] w ∧
      PrepareCompletes .android w.stream.beginPrepare.stream [5,6] := by
  obtain ⟨w,hr,hw⟩ := Run.of_exec_any (r := Step .android) (f := next .android)
    (p := fun w => w.stream.beginPrepare.ret= -ENODATA ∧ w.stream.totalBufferCount=2 ∧
      w.stream.hwBufferAllocated=0) preview [.beginConfigure,.endConfigure 0]
    (fun _ _ _ => step_of_next) (by decide)
  obtain ⟨begun,two,empty⟩ := of_decide_eq_true hw
  have enough : [5,6].length=w.stream.totalBufferCount := two.symm
  exact ⟨w,hr,(prepare_completes_iff hr begun (by omega) enough).mpr empty⟩

/-- A second prepare of a stream never completes. -/
theorem second_prepare_fails : ¬∀ calls w (handles : List Handle),
    Run (Step .android) preview calls w → w.stream.beginPrepare.ret= -ENODATA →
    1 ≤ w.stream.totalBufferCount → handles.Nodup →
    (∀ h∈handles,h∉w.stream.memAllocBuffers.keys) →
    handles.length=w.stream.totalBufferCount →
    PrepareCompletes .android w.stream.beginPrepare.stream handles := by
  intro supposed
  obtain ⟨w,hr,hw⟩ := Run.of_exec_any (r := Step .android) (f := next .android)
    (p := fun w => w.stream.beginPrepare.ret= -ENODATA ∧ w.stream.totalBufferCount=2 ∧
      w.stream.hwBufferAllocated=2 ∧ w.stream.memAllocBuffers.keys=[5,6]) preview
    [.beginConfigure,.endConfigure 0,.beginPrepare,.prepareBuffer (some 5),.prepareBuffer (some 6)]
    (fun _ _ _ => step_of_next) (by decide)
  obtain ⟨begun,two,full,known⟩ := of_decide_eq_true hw
  obtain ⟨n,-,returned,-⟩ := supposed _ w [7,8] hr begun (by omega) (by decide)
    (by rw [known]; decide) two.symm
  obtain ⟨-,eq⟩ := beginPrepare_begun begun
  rw [eq] at returned
  have never : 0∉(prepareBuffers .android { w.stream with
      preparedBuffersCount := 0
      status := .prepareActive } ([7,8].take (n+1))).1 := by
    refine prepareBuffers_behind ?_ ?_
    · show 0 < w.stream.hwBufferAllocated
      omega
    · show w.stream.hwBufferAllocated ≤ w.stream.totalBufferCount
      omega
  rw [returned] at never
  exact never (List.mem_append_right _ (List.mem_singleton_self 0))

end StreamWorld
end IotMedia.Camera

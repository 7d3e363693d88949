import IotMedia.Camera.TableMoves
import IotMedia.Framework.Ledger

namespace IotMedia.Camera

open IotMedia.Framework

/-- Every handle that AllocBuffer has given is freed once, after it was given. -/
abbrev AllBuffersFreed (effects : List StreamEffect) : Prop :=
  Balanced StreamEffect.allocated StreamEffect.freed effects

namespace Camera3Stream

/-- The buffers that are still to be freed are those of mem_alloc_buffers_. -/
abbrev Accounts (effects : List StreamEffect) (s : Camera3Stream) : Prop :=
  Ledger StreamEffect.allocated StreamEffect.freed effects {h | h∈s.memAllocBuffers.keys}

/-- CloseLocked does not refuse. -/
def Closes (s : Camera3Stream) : Prop :=
  (s.status=.configured ∨ s.status=.reconfigActive) ∧ s.pendingBufferCount=0

variable {u : BufferUsage} {s t : Camera3Stream} {c : StreamCall} {l log : List StreamEffect}

theorem TableMove.accounts (move : TableMove u s c t l) (h : Accounts log s)
    (fresh : ∀ h∈c.alloc,h∉s.memAllocBuffers.keys) : Accounts (log++l) t := by
  have same (keys : t.memAllocBuffers.keys=s.memAllocBuffers.keys)
      (ho : l.filterMap StreamEffect.allocated=[]) (hc : l.filterMap StreamEffect.freed=[]) :
      Accounts (log++l) t := by
    unfold Accounts
    rw [keys]
    exact h.rest ho hc
  have new {q : Handle} {free : Bool} (answered : c.alloc=some q)
      (buffers : t.memAllocBuffers=s.memAllocBuffers.add q free)
      (ho : l.filterMap StreamEffect.allocated=[q]) (hc : l.filterMap StreamEffect.freed=[]) :
      Accounts (log++l) t := by
    have keys : {p | p∈t.memAllocBuffers.keys}=insert q {p | p∈s.memAllocBuffers.keys} := by
      ext p
      simp [buffers]
    unfold Accounts
    rw [keys]
    exact h.opening (fresh q answered) ho hc
  cases move with
  | rests buffers slots map quiet => exact same (by rw [buffers]) quiet.allocated quiet.freed
  | reuses q f asked free buffers slots map out =>
    exact same (by rw [buffers,KeyedVector.keys_replaceValueFor]) out.allocated out.freed
  | takesBack q back buffers slots map quiet =>
    exact same (by rw [buffers,KeyedVector.keys_replaceValueFor]) quiet.allocated quiet.freed
  | allocates q f asked answered buffers slots map out =>
    exact new answered buffers out.allocated out.freed
  | prepares q asked buffers slots map quiet =>
    exact new (asked ▸ rfl) buffers quiet.allocated quiet.freed
  | clears cleared buffers slots settled map quiet =>
    have freed := h.closing (fun q hq => hq) s.memAllocBuffers.keys_nodup quiet.allocated
      quiet.freed
    have none_left : {p | p∈t.memAllocBuffers.keys}=
        {p | p∈s.memAllocBuffers.keys} \ {p | p∈s.memAllocBuffers.keys} := by
      ext p
      simp [buffers]
    unfold Accounts
    rw [none_left]
    exact freed

/-- What the destructor frees. -/
theorem destroyed_traffic (s : Camera3Stream) :
    s.Closes ∧ Traffic s.destroyed [] s.memAllocBuffers.keys [] ∨
      ¬s.Closes ∧ Traffic s.destroyed [] [] [] := by
  have released :
      Traffic (if 0 ≤ s.monitorId then [.releaseMonitor s.monitorId] else []) [] [] [] := by
    split_ifs <;> exact ⟨rfl,rfl,rfl⟩
  cases hs : s.status
  case reconfigActive | configured =>
    by_cases hp : 0 < s.pendingBufferCount
    · refine .inr ⟨fun closes => hp.ne' closes.2,?_⟩
      simp only [destroyed,closeLocked,hs,if_pos hp]
      exact released.append .nil
    · refine .inl ⟨⟨by simp [hs],Nat.eq_zero_of_not_pos hp⟩,?_⟩
      simp only [destroyed,closeLocked,hs,if_neg hp]
      exact released.append (traffic_freeAll s)
  all_goals
    refine .inr ⟨by simp [Closes,hs],?_⟩
    simp only [destroyed,closeLocked,hs]
    exact released.append .nil

/-- After the destructor nothing is left to free exactly when CloseLocked frees the buffers or there
are none. -/
theorem Accounts.destroyed_iff (h : Accounts log s) :
    AllBuffersFreed (log++s.destroyed) ↔ s.memAllocBuffers.keys=[] ∨ s.Closes := by
  rcases s.destroyed_traffic with ⟨closes,freed⟩|⟨refused,quiet⟩
  · refine iff_of_true ?_ (.inr closes)
    have closing := h.closing (fun q hq => hq) s.memAllocBuffers.keys_nodup freed.allocated
      freed.freed
    rw [AllBuffersFreed,closing.balanced_iff,Set.sdiff_self]
  · have rest := h.rest quiet.allocated quiet.freed
    rw [AllBuffersFreed,rest.balanced_iff,or_iff_left refused,List.eq_nil_iff_forall_not_mem,
      Set.eq_empty_iff_forall_notMem]
    exact Iff.rfl

end Camera3Stream

namespace StreamWorld

open Camera3Stream

variable {u : BufferUsage} {id : Int} {maxSize : Nat} {params : CameraStreamParameters}
  {device : Bool} {calls : List StreamCall} {w : StreamWorld}

theorem run_accounts
    (hr : Run (Step u) ⟨.construct u id maxSize params device,[],[]⟩ calls w) :
    Accounts w.log w.stream := by
  refine (hr.invariant (P := fun w => w.stream.SlotTable ∧ Accounts w.log w.stream) ?_ ⟨?_,?_⟩).2
  · rintro t c t' ⟨table,accounts⟩ step
    obtain ⟨l,log,move⟩ := step_moves table step
    refine ⟨step_table table step,?_⟩
    rw [log]
    exact move.accounts accounts step.fresh
  · exact run_table .nil
  · have start : {h | h∈(Camera3Stream.construct u id maxSize params device).memAllocBuffers.keys}=
        (∅ : Set Handle) := by
      ext h
      simp [Camera3Stream.construct]
    unfold Accounts
    rw [start]
    exact .nil

/-- Whatever the callers of a stream have done and the allocator has answered, its destructor
completes the account of the allocated buffers exactly when there are none left or CloseLocked
frees them. -/
theorem allocation_balance_iff
    (hr : Run (Step u) ⟨.construct u id maxSize params device,[],[]⟩ calls w) :
    AllBuffersFreed (w.log++w.stream.destroyed) ↔
      w.stream.memAllocBuffers.keys=[] ∨ w.stream.Closes :=
  (run_accounts hr).destroyed_iff

theorem allocation_balance_closed : ∃ w,Run (Step .android) preview
    [.beginConfigure,.endConfigure 0,.getBuffer 7 (some 5),.returnBuffer (some 5)] w ∧
    AllBuffersFreed (w.log++w.stream.destroyed) := by
  obtain ⟨w,hr,hs⟩ := Run.of_exec_any (r := Step .android) (f := next .android)
    (p := fun w => w.stream.status=.configured ∧ w.stream.pendingBufferCount=0) preview
    [.beginConfigure,.endConfigure 0,.getBuffer 7 (some 5),.returnBuffer (some 5)]
    (fun _ _ _ => step_of_next) (by decide)
  obtain ⟨configured,idle⟩ := of_decide_eq_true hs
  exact ⟨w,hr,(allocation_balance_iff hr).mpr (.inr ⟨.inl configured,idle⟩)⟩

/-- A stream that is destroyed while one of its buffers is with the HAL. -/
theorem pending_buffer_leaks : ¬∀ calls w,
    Run (Step .android) preview calls w → AllBuffersFreed (w.log++w.stream.destroyed) := by
  intro supposed
  obtain ⟨w,hr,hw⟩ := Run.of_exec_any (r := Step .android) (f := next .android)
    (p := fun w => w.stream.memAllocBuffers.keys=[5] ∧ w.stream.pendingBufferCount=1) preview
    [.beginConfigure,.endConfigure 0,.getBuffer 7 (some 5)]
    (fun _ _ _ => step_of_next) (by decide)
  obtain ⟨kept,pending⟩ := of_decide_eq_true hw
  rcases (run_accounts hr).destroyed_iff.mp (supposed _ w hr) with empty|closes
  · rw [kept] at empty
    cases empty
  · have idle := closes.2
    omega

end StreamWorld
end IotMedia.Camera

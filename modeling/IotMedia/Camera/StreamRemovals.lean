import IotMedia.Camera.ClientCalls
import IotMedia.Camera.StreamBuffers
import IotMedia.Camera.StreamGuard

namespace IotMedia.Camera

open IotMedia.Framework

/-- The requests that IsStreamActive looks at. -/
def RequestHandler.work {M : Type} (h : RequestHandler M) :
    CaptureRequest M × List (CaptureRequest M) × List (CaptureRequest M) :=
  (h.currentRequest,h.requests,h.streamingRequests)

namespace Camera3Stream

variable (u : BufferUsage) (s : Camera3Stream)

/-! No call changes the id of a stream. -/

theorem closeLocked_id : s.closeLocked.stream.id=s.id := by
  unfold closeLocked
  split
  · split_ifs <;> rfl
  · split_ifs <;> rfl
  · rfl

theorem configureLocked_id : s.configureLocked.stream.id=s.id := by
  unfold configureLocked
  split
  · dsimp only
    split_ifs
    · exact s.closeLocked_id
    · exact s.closeLocked_id
  · rfl
  · rfl

theorem beginConfigure_id : (s.beginConfigure u).stream.id=s.id := by
  unfold beginConfigure
  split <;> rfl

theorem endConfigure_id (acquired : Int) : (s.endConfigure u acquired).stream.id=s.id := by
  have configured := configureLocked_id { s with monitorId := acquired }
  unfold endConfigure
  dsimp only
  split_ifs
  · rfl
  · rfl
  · exact configured
  · exact configured
  · rfl

theorem abortConfigure_id : (s.abortConfigure u).stream.id=s.id := by
  unfold abortConfigure
  split_ifs <;> rfl

/-- A buffer handed out carries the id of its stream. -/
theorem getBufferLocked_id (frame : Int) (alloc : Option Handle) :
    (s.getBufferLocked u (some frame) alloc).stream.id=s.id ∧
    ∀ b∈(s.getBufferLocked u (some frame) alloc).ret.2,b.streamId=s.id := by
  have outcome := s.getBufferLocked_outcome u (some frame) alloc
  generalize s.getBufferLocked u (some frame) alloc=r at outcome ⊢
  cases outcome with
  | refused | unplaced | unanswered | full => simp
  | reuses => simp [handOut]
  | allocates active answer room handed =>
    subst handed
    simp [handOut]

theorem getBuffer_id (frame waitRes : Int) (alloc : Option Handle) :
    (s.getBuffer u frame waitRes alloc).stream.id=s.id ∧
    ∀ b∈(s.getBuffer u frame waitRes alloc).ret.2,b.streamId=s.id := by
  have got := s.getBufferLocked_id u frame alloc
  unfold getBuffer getBufferWoken
  split_ifs
  · simp
  · simp
  · exact got
  · exact got

theorem returnBuffer_id (handle : Option Handle) : (s.returnBuffer handle).stream.id=s.id := by
  unfold returnBuffer
  rcases s.returnBufferLocked_cases handle with ⟨same,-⟩|⟨h,v,l,-,-,-,-,-,returned⟩
  · rw [same]
  · rw [returned]

/-- The stream is not configured, or its clients hold no buffer. -/
def Drained : Prop := s.status=.configured ∨ s.status=.reconfigActive → s.pendingBufferCount=0

theorem close_ret : s.close.ret=0 ↔ s.Drained := by
  unfold close closeLocked Drained
  cases hs : s.status with
  | configured | reconfigActive =>
    by_cases held : 0 < s.pendingBufferCount
    · simp [held,ENOSYS,ENOTCONN]
      omega
    · simp [held,ENOTCONN]
      omega
  | error | initialized | configActive | prepareActive => simp [ENOTCONN]

end Camera3Stream

namespace DeviceClient

variable {M : Type} {c : DeviceClient M}

/-- Each stream of streams_ is registered under its own id. -/
def Keyed (c : DeviceClient M) : Prop := c.streams.Each fun id s => s.id=id

theorem configure_work (u : BufferUsage) (c : DeviceClient M) (env : ClientEnv M) :
    (c.configureStreamsLocked u env).client.handler.work=c.handler.work := by
  unfold configureStreamsLocked
  dsimp only
  split_ifs <;> rfl

theorem endStream_id (u : BufferUsage) (acquired : Int → Int) (id : Int) (s : Camera3Stream) :
    (endStream u acquired id s).2.1.id=s.id := by
  unfold endStream
  split_ifs
  · exact s.endConfigure_id u (acquired id)
  · rfl

theorem Keyed.configure (h : c.Keyed) (u : BufferUsage) (env : ClientEnv M) :
    (c.configureStreamsLocked u env).client.Keyed := by
  have begun := h.tryEach (f := beginStream u)
    fun id s hs => (s.beginConfigure_id u).trans hs
  have aborted := begun.tryEach (f := abortStream u) (fun id s hs => by
    unfold abortStream
    split_ifs
    · exact (s.abortConfigure_id u).trans hs
    · exact hs)
  have ended := begun.tryEach (f := endStream u env.acquired)
    fun id s hs => (endStream_id u env.acquired id s).trans hs
  unfold configureStreamsLocked
  dsimp only
  split_ifs
  · exact h
  · exact h
  · exact begun
  · exact aborted
  · exact aborted
  · exact ended
  · exact ended

/-- Besides, the handler's requests name only streams of streams_. -/
structure Consistent (c : DeviceClient M) : Prop where
  keyed : c.Keyed
  named : ∀ id,id∉c.streams.keys → GuardWorld.Unnamed id c.handler

theorem unnamed_congr {id : Int} {s t : RequestHandler M} (h : GuardWorld.Unnamed id s)
    (work : t.work=s.work) : GuardWorld.Unnamed id t := by
  obtain ⟨current,queued,repeating⟩ := h
  simp only [RequestHandler.work,Prod.mk.injEq] at work
  obtain ⟨same,requests,streaming⟩ := work
  exact ⟨by rw [same]; exact current,by rw [requests]; exact queued,
    by rw [streaming]; exact repeating⟩

theorem Consistent.congr (h : c.Consistent) {c' : DeviceClient M} (keyed : c'.Keyed)
    (keys : ∀ id∈c.streams.keys,id∈c'.streams.keys) (work : c'.handler.work=c.handler.work) :
    c'.Consistent :=
  ⟨keyed,fun id missing => unnamed_congr (h.named id fun found => missing (keys id found)) work⟩

end DeviceClient

namespace ClientWorld

variable {M : Type} {u : BufferUsage} {w w' : ClientWorld M} {step : ClientStep M}

section Rule

/-! What a step of the client keeps of streams_ and of the handler's requests. -/

variable {P : DeviceClient M → Prop}
  (congr : ∀ {c c' : DeviceClient M},P c → c'.streams=c.streams →
    c'.handler.work=c.handler.work → P c')
include congr

theorem finish_rule (h : P w.client) (call : ResumedCall) : P (w.finish call).1.client := by
  cases call with
  | createStream => exact congr h rfl rfl
  | createInputStream | deleteStream => exact h

theorem resume_rule (h : P w.client) (call : ResumedCall) :
    P (w.internalResumeLocked call).1.client := by
  unfold internalResumeLocked
  dsimp only
  split_ifs
  · refine finish_rule congr ?_ call
    exact congr h rfl rfl
  · refine finish_rule congr ?_ call
    exact congr h rfl rfl
  · exact congr h rfl rfl

variable (configure : ∀ (c : DeviceClient M) (env : ClientEnv M),P c →
  P (c.configureStreamsLocked u env).client)
include configure

theorem goOn_rule {s : Segment M} (h : P s.world.client) (env : ClientEnv M) :
    P (goOn u env s).1.client := by
  unfold goOn
  cases s.onward with
  | done res => exact h
  | resume call => exact resume_rule congr h call
  | reconfigure call =>
    have configured : P (s.world.configureStreamsLocked u env).2.client := configure _ env h
    dsimp only
    split_ifs
    · exact configured
    · exact resume_rule congr configured call

omit configure in
theorem body_rule (add : ∀ p,P w.client → P (w.client.withStream u p)) {call : ClientCall}
    (drop : ∀ id cache s,call=.deleteStream id cache → w.Removes id →
      w.client.streams.valueFor id=some s → P (w.client.withoutStream s id cache))
    (h : P w.client) (env : ClientEnv M) (active : Bool) :
    P (w.body u env active call).world.client := by
  cases call with
  | createStream p callback =>
    have added := add p h
    rw [body]
    obtain ⟨-,equal⟩|⟨-,-,equal⟩|⟨-,-,equal⟩ := addStream_cases u w env p active
    · rw [equal]
      exact h
    · rw [equal]
      exact h
    · rw [equal]
      dsimp only
      split_ifs
      · exact added
      · exact congr added rfl rfl
  | createInputStream p =>
    rw [body,addInputStream]
    dsimp only
    split_ifs
    · exact congr h rfl rfl
    · exact congr h rfl rfl
  | deleteStream id cache =>
    rw [body]
    obtain ⟨-,equal⟩|⟨-,-,res,-,equal⟩|⟨removes,s,found,equal⟩ := dropStream_cases w id cache
    · rw [equal]
      exact congr h rfl rfl
    · rw [equal]
      exact h
    · rw [equal]
      exact drop id cache s rfl removes found

/-- What configurations, a new stream and the removal of a stream keep, a step keeps. -/
theorem Step.rule (add : ∀ c p,P c → P (c.withStream u p))
    (drop : ∀ id cache w₁ env active s,Enters w step (.deleteStream id cache) w₁ env active →
      w₁.Removes id → w₁.client.streams.valueFor id=some s → P w₁.client →
      P (w₁.client.withoutStream s id cache))
    (h : Step u w step w') (own : ∀ c,step≠.elsewhere c) (hp : P w.client) : P w'.client := by
  have failed (c : DeviceClient M) (hc : P c) : P c.setErrorStateLocked.1 := by
    obtain ⟨state,pause,-,equal⟩ := c.setErrorState_eq
    rw [equal]
    exact congr hc rfl rfl
  obtain ⟨ret,done,outcome⟩ := h.outcome
  cases outcome with
  | refused => exact hp
  | waits => exact congr hp rfl rfl
  | @entered _ call w₁ env active enters =>
    obtain ⟨-,-,client⟩ := enters.same
    have before : P w₁.client := by
      rw [client]
      exact congr hp rfl rfl
    refine goOn_rule congr configure (body_rule congr (add w₁.client) ?_ before env active) env
    rintro id cache s rfl removes found
    exact drop id cache w₁ env active s enters removes found before
  | timedOut => exact failed _ (failed _ hp)
  | @resumed i res env call hi client apart =>
    have woken := congrArg (fun r => r.map fun r => r.1.client) done
    simp only [perform,hi,Option.map_some,awake,Option.some.injEq] at woken
    rw [← woken]
    refine finish_rule congr ?_ call
    split_ifs
    · exact congr (failed _ hp) rfl rfl
    · exact congr hp rfl rfl
  | configured => exact configure _ _ (congr hp rfl rfl)
  | generated => exact configure _ _ hp
  | undue => exact hp
  | elsewhere => exact absurd rfl (own _)

end Rule

section Keys

variable {id : Int}

/-- The step is that of a DeleteStream that takes the stream out of streams_. -/
def Deletes (w : ClientWorld M) (step : ClientStep M) (id : Int) : Prop :=
  ∃ cache w₁ env active,Enters w step (.deleteStream id cache) w₁ env active ∧ w₁.Removes id

theorem keyed_add {c : DeviceClient M} (h : c.Keyed) (u : BufferUsage) (p : CameraStreamParameters) :
    (c.withStream u p).Keyed := KeyedVector.Each.add h rfl

theorem Step.consistent (h : Step u w step w') (own : ∀ c,step≠.elsewhere c)
    (hc : w.client.Consistent) : w'.client.Consistent := by
  refine h.rule (P := DeviceClient.Consistent) ?_ ?_ ?_ ?_ own hc
  · intro c c' hc streams work
    have keyed : c'.Keyed := by
      unfold DeviceClient.Keyed
      rw [streams]
      exact hc.keyed
    exact hc.congr keyed (by rw [streams]; exact fun _ found => found) work
  · intro c env hc
    obtain ⟨keys,-⟩ := configure_keys (u := u) c env
    exact hc.congr (hc.keyed.configure u env) (by rw [keys]; exact fun _ found => found)
      (DeviceClient.configure_work u c env)
  · intro c p hc
    exact hc.congr (keyed_add hc.keyed u p)
      (fun i found => (KeyedVector.mem_keys_add _ _ _ i).mpr (Or.inr found)) rfl
  · rintro id cache w₁ env active s - ⟨-,t,same,idle⟩ found hc
    cases Option.some.inj (found.symm.trans same)
    refine ⟨KeyedVector.Each.removeItem hc.keyed id,?_⟩
    intro i missing
    by_cases here : i=id
    · -- IsStreamActive found no request for it
      have own : s.id=id := KeyedVector.each_iff.mp hc.keyed id s found
      rw [here,← own]
      exact (GuardWorld.isStreamActive_false _ _).mp idle
    · exact hc.named i fun found =>
        missing ((KeyedVector.mem_keys_removeItem _ _ _).mpr ⟨here,found⟩)

/-- A stream stays registered until a DeleteStream takes it out. -/
theorem Step.keys (h : Step u w step w') (own : ∀ c,step≠.elsewhere c)
    (registered : id∈w.client.streams.keys) : id∈w'.client.streams.keys ∨ w.Deletes step id := by
  by_cases deletes : w.Deletes step id
  · exact Or.inr deletes
  refine Or.inl (h.rule (P := fun c => id∈c.streams.keys) ?_ ?_ ?_ ?_ own registered)
  · intro c c' found streams _
    rw [streams]
    exact found
  · intro c env found
    obtain ⟨keys,-⟩ := configure_keys (u := u) c env
    rw [keys]
    exact found
  · intro c p found
    exact (KeyedVector.mem_keys_add _ _ _ id).mpr (Or.inr found)
  · intro i cache w₁ env active s enters removes _ found
    have other : id≠i := by
      rintro rfl
      exact deletes ⟨cache,w₁,env,active,enters,removes⟩
    exact (KeyedVector.mem_keys_removeItem _ _ _).mpr ⟨other,found⟩

/-- What a body finds is as it was before the step, less the call that has waited. -/
theorem Enters.before {call : ClientCall} {w₁ : ClientWorld M} {env : ClientEnv M} {active : Bool}
    (enters : Enters w step call w₁ env active) :
    w₁.client.streams=w.client.streams ∧ ∀ wait∈w₁.waiting,wait∈w.waiting := by
  refine ⟨by rw [enters.same.2.2],?_⟩
  cases enters with
  | createStream | createInputStream | deleteCached | deleteIdle => exact fun _ found => found
  | awake => exact fun _ found => List.mem_of_mem_eraseIdx found

theorem Step.removed (h : Step u w step w') {cache active : Bool} {w₁ : ClientWorld M}
    {env : ClientEnv M} (enters : Enters w step (.deleteStream id cache) w₁ env active)
    (removes : w₁.Removes id) :
    id∈w.client.streams.keys ∧ id∉w'.client.streams.keys := by
  have known : id∈w₁.client.streams.keys := by
    obtain ⟨-,s,found,-⟩ := removes
    exact (KeyedVector.mem_keys_iff _ _).mpr ⟨s,found⟩
  constructor
  · rw [← enters.before.1]
    exact known
  obtain ⟨-,ret,done⟩ := h
  rw [enters.performs u] at done
  have after := congrArg Prod.fst (Option.some.inj done)
  obtain ⟨-,keys⟩ := goOn_objects u env (w₁.body u env active (.deleteStream id cache))
  rw [after] at keys
  rw [keys,body]
  obtain ⟨input,-⟩|⟨-,stays,-⟩|⟨-,t,-,equal⟩ := dropStream_cases w₁ id cache
  · exact absurd input removes.1
  · exact absurd removes stays
  · rw [equal]
    exact fun found => ((KeyedVector.mem_keys_removeItem _ _ _).mp found).1 rfl

end Keys

section Results

variable {id : Int} {cache active : Bool} {env : ClientEnv M} {w₁ : ClientWorld M}

/-- What DeleteStream returns once its stream is out of streams_. -/
def removalResult (u : BufferUsage) (w : ClientWorld M) (env : ClientEnv M) (s : Camera3Stream)
    (id : Int) (cache : Bool) : Int :=
  if cache=true ∨ (w.client.streams.removeItem id).items=[] then s.close.ret
  else ((w.client.withoutStream s id cache).configureStreamsLocked u env).ret

/-- Close succeeds where its result is the one returned, and the reconfiguration elsewhere. -/
def RemovesWell (u : BufferUsage) (w : ClientWorld M) (env : ClientEnv M) (id : Int)
    (cache : Bool) : Prop :=
  if cache=true ∨ (w.client.streams.removeItem id).items=[] then
    ∀ s,w.client.streams.valueFor id=some s → s.Drained
  else DeviceClient.Reconfigures u env { w.client with streams := w.client.streams.removeItem id }

theorem removalResult_zero {s : Camera3Stream} (found : w.client.streams.valueFor id=some s)
    (env : ClientEnv M) (cache : Bool) :
    removalResult u w env s id cache=0 ↔ w.RemovesWell u env id cache := by
  unfold removalResult RemovesWell
  by_cases closes : cache=true ∨ (w.client.streams.removeItem id).items=[]
  · rw [if_pos closes,if_pos closes,s.close_ret]
    constructor
    · intro drained t ht
      cases Option.some.inj (found.symm.trans ht)
      exact drained
    · exact fun drained => drained s found
  · rw [if_neg closes,if_neg closes]
    obtain ⟨uncached,left⟩ := not_or.mp closes
    have due : (w.client.withoutStream s id cache).reconfig=true := by
      simp [DeviceClient.withoutStream,uncached,left]
    exact DeviceClient.configure_ok u env due

/-- The call returns this, at once or at the end of its last wait. -/
def Returns (w : ClientWorld M) (r : ClientWorld M × Option Int) (res : Int) : Prop :=
  r.2=some res ∧ r.1.waiting=w.waiting ∨
    r.2=none ∧ r.1.waiting=w.waiting++[.running (.deleteStream res)]

theorem resume_returns (w : ClientWorld M) (res : Int) :
    Returns w (w.internalResumeLocked (.deleteStream res)) res := by
  obtain ⟨client,-,returns|waits⟩ := resume_cases w (.deleteStream res)
  · rw [returns]
    exact Or.inl ⟨rfl,rfl⟩
  · rw [waits]
    exact Or.inr ⟨rfl,rfl⟩

theorem goOn_returns (u : BufferUsage) (env : ClientEnv M) (cache active : Bool)
    (removes : w.Removes id) {s : Camera3Stream} (found : w.client.streams.valueFor id=some s) :
    Returns w (goOn u env (w.body u env active (.deleteStream id cache)))
      (removalResult u w env s id cache) := by
  rw [body]
  obtain ⟨input,-⟩|⟨-,stays,-⟩|⟨-,t,same,equal⟩ := dropStream_cases w id cache
  · exact absurd input removes.1
  · exact absurd removes stays
  cases Option.some.inj (found.symm.trans same)
  rw [equal,removalResult]
  cases cache with
  | true => exact Or.inl ⟨rfl,rfl⟩
  | false =>
    by_cases last : (w.client.streams.removeItem id).items=[]
    · simp only [last,if_true,or_true,Bool.false_eq_true,if_false]
      exact resume_returns _ _
    · simp only [last,or_false,Bool.false_eq_true,if_false]
      unfold goOn
      dsimp only
      split_ifs with failed
      · exact Or.inl ⟨rfl,rfl⟩
      · have fine : ((w.client.withoutStream s id false).configureStreamsLocked u env).ret=0 :=
          not_not.mp failed
        rw [fine]
        exact resume_returns _ _

/-- What the calls of DeleteStream in their last wait will return. -/
def lastWaits (w : ClientWorld M) : List Int :=
  w.waiting.filterMap fun
    | .running (.deleteStream res) => some res
    | _ => none

theorem mem_lastWaits {res : Int} :
    res∈w.lastWaits ↔ .running (.deleteStream res)∈w.waiting := by
  rw [lastWaits,List.mem_filterMap]
  constructor
  · rintro ⟨wait,found,same⟩
    split at same
    · cases Option.some.inj same
      exact found
    · cases same
  · exact fun found => ⟨_,found,rfl⟩

theorem resume_lastWaits (w : ClientWorld M) {call : ResumedCall}
    (other : ∀ res,call≠.deleteStream res) :
    (w.internalResumeLocked call).1.lastWaits=w.lastWaits := by
  obtain ⟨client,-,returns|waits⟩ := resume_cases w call
  · rw [returns]
    cases call <;> rfl
  · rw [waits]
    cases call with
    | createStream | createInputStream => simp [lastWaits]
    | deleteStream res => exact absurd rfl (other res)

/-- A call that takes no stream out of streams_ does not come to that wait. -/
theorem goOn_lastWaits (u : BufferUsage) (env : ClientEnv M) (active : Bool) (call : ClientCall)
    (stays : ∀ id cache,call=.deleteStream id cache → ¬w.Removes id) :
    (goOn u env (w.body u env active call)).1.lastWaits=w.lastWaits := by
  cases call with
  | createStream p callback =>
    rw [body]
    obtain ⟨-,equal⟩|⟨-,-,equal⟩|⟨-,-,equal⟩ := addStream_cases u w env p active
    · rw [equal]
      rfl
    · rw [equal]
      rfl
    · rw [equal]
      cases active with
      | false => rfl
      | true =>
        simp only [if_true]
        unfold goOn
        dsimp only
        split_ifs
        · rfl
        · exact resume_lastWaits _ (fun _ h => by cases h)
  | createInputStream p =>
    rw [body,addInputStream]
    cases active with
    | false => rfl
    | true =>
      simp only [if_true]
      unfold goOn
      dsimp only
      split_ifs
      · rfl
      · exact resume_lastWaits _ (fun _ h => by cases h)
  | deleteStream id cache =>
    rw [body]
    obtain ⟨-,equal⟩|⟨-,-,res,-,equal⟩|⟨removes,-⟩ := dropStream_cases w id cache
    · rw [equal]
      rfl
    · rw [equal]
      rfl
    · exact absurd removes (stays id cache rfl)

/-- The result of the step, if that is of a DeleteStream that has taken its stream out of
streams_. -/
def deletion (w w' : ClientWorld M) (ret : Option Int) : ClientStep M → List Int
  | .call (.deleteStream id _) _ =>
    if id∈w.client.streams.keys ∧ id∉w'.client.streams.keys then ret.toList else []
  | .wake i _ _ =>
    match w.waiting[i]? with
    | some (.idle (.deleteStream id _)) =>
      if id∈w.client.streams.keys ∧ id∉w'.client.streams.keys then ret.toList else []
    | some (.running (.deleteStream _)) => ret.toList
    | _ => []
  | _ => []

variable {ret : Option Int}

theorem Enters.deletion (enters : Enters w step (.deleteStream id cache) w₁ env active)
    (removed : id∈w.client.streams.keys ∧ id∉w'.client.streams.keys) :
    w.deletion w' ret step=ret.toList := by
  cases enters with
  | deleteCached => simp [ClientWorld.deletion,removed]
  | deleteIdle => simp [ClientWorld.deletion,removed]
  | awake hi => simp [ClientWorld.deletion,hi,removed]

/-- DeleteStream has taken the stream out: it has returned its result, or it waits to. -/
theorem Step.removal (h : Step u w step w') (hret : w.perform u step=some (w',ret))
    (enters : Enters w step (.deleteStream id cache) w₁ env active) (removes : w₁.Removes id)
    {s : Camera3Stream} (found : w₁.client.streams.valueFor id=some s) (res : Int) :
    res∈w.deletion w' ret step++w'.lastWaits ↔
      res=removalResult u w₁ env s id cache ∨ res∈w₁.lastWaits := by
  have returns := goOn_returns u env cache active removes found
  have performed := enters.performs u
  rw [hret] at performed
  rw [← Option.some.inj performed] at returns
  rw [enters.deletion (h.removed enters removes),List.mem_append]
  rcases returns with ⟨some_,waiting⟩|⟨none,waiting⟩
  · dsimp only at some_ waiting
    rw [some_,lastWaits,waiting,Option.toList_some,List.mem_singleton]
    rfl
  · dsimp only at none waiting
    rw [none,lastWaits,waiting,List.filterMap_append,List.mem_append]
    simp [lastWaits,or_comm]

theorem Step.lastWaits (h : Step u w step w') (own : ∀ c,step≠.elsewhere c)
    (stays : ∀ id,¬w.Deletes step id) (res : Int) (waits : res∈w'.lastWaits) : res∈w.lastWaits := by
  have erased (c : DeviceClient M) (i : Nat) (found : res∈ClientWorld.lastWaits { w with
      client := c
      waiting := w.waiting.eraseIdx i }) : res∈w.lastWaits := by
    rw [mem_lastWaits] at found ⊢
    exact List.mem_of_mem_eraseIdx found
  obtain ⟨ret,-,outcome⟩ := h.outcome
  cases outcome with
  | refused => exact waits
  | waits => simpa [ClientWorld.lastWaits,paused] using waits
  | @entered _ call w₁ env active enters =>
    have same := goOn_lastWaits u env active call (w := w₁) (by
      rintro id cache rfl removes
      exact stays id ⟨cache,w₁,env,active,enters,removes⟩)
    rw [same,mem_lastWaits] at waits
    rw [mem_lastWaits]
    exact enters.before.2 _ waits
  | timedOut => exact erased _ _ waits
  | @resumed i _ env call hi client apart =>
    refine erased client i ?_
    cases call <;> exact waits
  | configured => exact waits
  | generated => exact waits
  | undue => exact waits
  | elsewhere => exact absurd rfl (own _)

/-- The other steps return what a DeleteStream has waited to return. -/
theorem Step.unremoved (h : Step u w step w') (hret : w.perform u step=some (w',ret))
    (own : ∀ c,step≠.elsewhere c) (stays : ∀ id,¬w.Deletes step id) (res : Int)
    (hres : res∈w.deletion w' ret step++w'.lastWaits) : res∈w.lastWaits := by
  rcases List.mem_append.mp hres with returned|waits
  · have out (id : Int) (gone : id∈w.client.streams.keys ∧ id∉w'.client.streams.keys) : False :=
      (h.keys own gone.1).elim gone.2 (stays id)
    unfold ClientWorld.deletion at returned
    split at returned
    · split_ifs at returned with gone
      · exact absurd gone (out _)
      · cases returned
    next i r env =>
      split at returned
      · split_ifs at returned with gone
        · exact absurd gone (out _)
        · cases returned
      next res' hi =>
        simp only [perform,hi,Option.map_some,Option.some.injEq,awake,finish,Prod.mk.injEq] at hret
        rw [← hret.2,Option.toList_some,List.mem_singleton] at returned
        rw [returned,mem_lastWaits]
        exact List.mem_of_getElem? hi
      · cases returned
    · cases returned
  · exact h.lastWaits own stays res waits

end Results

end ClientWorld
end IotMedia.Camera

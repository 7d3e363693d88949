import IotMedia.Camera.InternalPause

namespace IotMedia.Camera

open IotMedia.Framework KeyedVector

namespace DeviceClient

variable {M : Type}

/-- The HAL's configureStreams is called. -/
def halCalled (effects : List ClientEffect) : Bool :=
  effects.any fun
    | .configureStreams _ => true
    | _ => false

def releasedMonitors (effects : List ClientEffect) : List Int :=
  effects.filterMap fun
    | .stream _ (.releaseMonitor id) => some id
    | _ => none

/-- The monitors that the last loop of ConfigureStreamsLocked acquires before it ends. -/
def acquiredMonitors (u : BufferUsage) (acquired : Int → Int) : List (Int × Camera3Stream) → List Int
  | [] => []
  | (id,s)::rest =>
    (if s.isConfigureActive ∧ 0 ≤ acquired id then [acquired id] else [])++
      if (endStream u acquired id s).1=0 then acquiredMonitors u acquired rest else []

/-- The registered monitors once ConfigureStreamsLocked has returned: every release comes before
the first of the new ones. -/
def registeredAfter (u : BufferUsage) (c : DeviceClient M) (env : ClientEnv M)
    (registered : List Int) : List Int :=
  let effects := (configureStreamsLocked u c env).effects
  registered.filter (fun id => !(releasedMonitors effects).contains id)++
    if halCalled effects ∧ env.configured then
      acquiredMonitors u env.acquired (c.streams.tryEach (beginStream u)).2.1.items
    else []

/-- BeginConfigure refuses the stream. -/
def Unready (s : Camera3Stream) : Prop := s.status=.error ∨ s.status=.prepareActive

/-- The stream has buffers, and EndConfigure is to replace them: their usage or their number has
changed. -/
def Rebuilds (u : BufferUsage) (s : Camera3Stream) : Prop :=
  s.status=.configured ∧
      ¬(u.toCommon (u.toLocal s.clientUsage)=s.oldUsage ∧ s.oldMaxBuffers=s.clientMaxBuffers) ∨
    s.status=.reconfigActive ∧
      ¬(u.toCommon s.cameraStream.usage=s.oldUsage ∧ s.oldMaxBuffers=s.streamMaxBuffers)

/-- EndConfigure fails: AcquireMonitor does, or buffers to be replaced are out. -/
def Stuck (u : BufferUsage) (acquired : Int) (s : Camera3Stream) : Prop :=
  acquired<0 ∨ Rebuilds u s ∧ 0 < s.pendingBufferCount

/-- A CONFIGURED stream has a registered monitor id. -/
def Monitored (registered : List Int) (s : Camera3Stream) : Prop :=
  s.status=.configured ∧ 0 ≤ s.monitorId ∧ s.monitorId∈registered

/-- The EndConfigure of this stream is called and fails. -/
def Failed (u : BufferUsage) (c : DeviceClient M) (env : ClientEnv M) (id : Int)
    (s : Camera3Stream) : Prop :=
  halCalled (configureStreamsLocked u c env).effects=true ∧ env.configured=true ∧
    ∃ before after,StopsAt (fun id s => Stuck u (env.acquired id) s) c.streams.items before id s after

structure Transaction (u : BufferUsage) (c : DeviceClient M) (env : ClientEnv M)
    (registered : List Int) : Prop where
  inactive : (configureStreamsLocked u c env).ret≠0 →
    ∀ p∈(configureStreamsLocked u c env).client.streams.items,p.2.isConfigureActive=false
  restored : (configureStreamsLocked u c env).ret≠0 →
    ∀ id s s',c.streams.valueFor id=some s → s.status=.configured → ¬Failed u c env id s →
      (configureStreamsLocked u c env).client.streams.valueFor id=some s' →
      Monitored (registeredAfter u c env registered) s'
  committed : (configureStreamsLocked u c env).ret=0 →
    halCalled (configureStreamsLocked u c env).effects=true →
    (∀ p∈(configureStreamsLocked u c env).client.streams.items,p.2.status=.configured) ∧
      (configureStreamsLocked u c env).client.state=.CONFIGURED ∧
      (configureStreamsLocked u c env).client.reconfig=false

/-- The streams are as a transaction that does nothing may leave them. -/
def Settled (c : DeviceClient M) (registered : List Int) : Prop :=
  ∀ p∈c.streams.items,p.2.isConfigureActive=false ∧
    (p.2.status=.configured → Monitored registered p.2)

/-- A call that is refused finds the streams settled; the stream that BeginConfigure refuses is the
first; the HAL refuses only where no stream is CONFIGURED; the EndConfigure that fails is that of the
last stream, and it is not AcquireMonitor that failed. -/
structure Transacts (u : BufferUsage) (c : DeviceClient M) (env : ClientEnv M)
    (registered : List Int) : Prop where
  busy : c.state≠.NOT_CONFIGURED ∧ c.state≠.CONFIGURED → c.Settled registered
  unready : ¬(c.state≠.NOT_CONFIGURED ∧ c.state≠.CONFIGURED) → c.reconfig=true →
    ∀ before id s after,StopsAt (fun _ s => Unready s) c.streams.items before id s after →
      before=[] ∧ c.Settled registered
  refused : ¬(c.state≠.NOT_CONFIGURED ∧ c.state≠.CONFIGURED) → c.reconfig=true →
    (∀ p∈c.streams.items,¬Unready p.2) → env.configured=false →
    ∀ p∈c.streams.items,p.2.status≠.configured
  stuck : ¬(c.state≠.NOT_CONFIGURED ∧ c.state≠.CONFIGURED) → c.reconfig=true →
    (∀ p∈c.streams.items,¬Unready p.2) → env.configured=true →
    ∀ before id s after,
      StopsAt (fun id s => Stuck u (env.acquired id) s) c.streams.items before id s after →
      after=[] ∧ 0 ≤ env.acquired id

variable {u : BufferUsage} {env : ClientEnv M} {c : DeviceClient M} {registered : List Int}

section Streams

/-! The three calls on one stream. -/

variable {s : Camera3Stream} {acquired : Int}

theorem beginStream_unready (u : BufferUsage) (id : Int) (s : Camera3Stream) :
    (beginStream u id s).1≠0 ↔ Unready s := by
  unfold beginStream Camera3Stream.beginConfigure Unready
  cases h : s.status <;> simp [ENOSYS]

theorem unready_unchanged (id : Int) (h : Unready s) :
    (beginStream u id s).2.1=s ∧ (beginStream u id s).2.2=[] := by
  unfold beginStream Camera3Stream.beginConfigure
  rcases h with h|h
  · rw [h]
    exact ⟨rfl,rfl⟩
  · rw [h]
    exact ⟨rfl,rfl⟩

/-- BeginConfigure takes a stream that it accepts into one of the two active states. -/
theorem begun_status (id : Int) (h : ¬Unready s) : (beginStream u id s).2.1.status=
    if s.status=.configured ∨ s.status=.reconfigActive then .reconfigActive else .configActive := by
  unfold beginStream Camera3Stream.beginConfigure
  cases hs : s.status with
  | error => exact absurd (Or.inl hs) h
  | prepareActive => exact absurd (Or.inr hs) h
  | initialized | configActive | reconfigActive | configured => simp [hs]

theorem begun_active (id : Int) (h : ¬Unready s) :
    (beginStream u id s).2.1.isConfigureActive=true := by
  unfold Camera3Stream.isConfigureActive
  rw [begun_status id h]
  split_ifs <;> rfl

theorem begun_monitor (id : Int) (h : s.status=.configured) :
    (beginStream u id s).2.1.monitorId= -1 := by
  unfold beginStream Camera3Stream.beginConfigure
  rw [h]
  rfl

theorem aborted_inactive (id : Int) (h : s.isConfigureActive=true) :
    (abortStream u id s).1=0 ∧ (abortStream u id s).2.1.isConfigureActive=false ∧
    (abortStream u id s).2.1.monitorId=s.monitorId := by
  unfold abortStream Camera3Stream.abortConfigure
  rw [if_pos h,if_pos h]
  refine ⟨rfl,?_,rfl⟩
  unfold Camera3Stream.isConfigureActive
  by_cases again : s.status=.reconfigActive
  · simp [again]
  · simp [again]

/-- The buffers of a stream in the middle of its configuration are to be replaced, and some are
out. -/
def Blocked (u : BufferUsage) (s : Camera3Stream) : Prop :=
  (s.status=.reconfigActive ∧
      ¬(u.toCommon s.cameraStream.usage=s.oldUsage ∧ s.oldMaxBuffers=s.streamMaxBuffers)) ∧
    0 < s.pendingBufferCount

theorem configureLocked_outcome (ha : s.isConfigureActive=true) :
    s.configureLocked.ret=(if s.status=.reconfigActive ∧ 0 < s.pendingBufferCount then -ENOSYS
      else 0) ∧ s.configureLocked.stream.monitorId=s.monitorId := by
  unfold Camera3Stream.configureLocked Camera3Stream.closeLocked
  cases hs : s.status with
  | configActive => exact ⟨rfl,rfl⟩
  | reconfigActive =>
    by_cases out : 0 < s.pendingBufferCount
    · simp [out,ENOSYS]
    · simp [out,Camera3Stream.resetBuffers]
  | error | initialized | configured | prepareActive =>
    simp [Camera3Stream.isConfigureActive,hs] at ha

/-- The three ways in which the EndConfigure of a stream being configured ends. -/
theorem endConfigure_outcome (u : BufferUsage) (acquired : Int) (ha : s.isConfigureActive=true) :
    acquired<0 ∧ (s.endConfigure u acquired).ret≠0 ∧
      (s.endConfigure u acquired).stream.status=s.status ∨
    0 ≤ acquired ∧ Blocked u s ∧ (s.endConfigure u acquired).ret≠0 ∧
      (s.endConfigure u acquired).stream.status=.error ∨
    0 ≤ acquired ∧ ¬Blocked u s ∧ (s.endConfigure u acquired).ret=0 ∧
      (s.endConfigure u acquired).stream.status=.configured ∧
      (s.endConfigure u acquired).stream.monitorId=acquired := by
  have outcome := configureLocked_outcome (s := { s with monitorId := acquired }) ha
  unfold Camera3Stream.endConfigure
  rw [if_pos ha]
  dsimp only at outcome ⊢
  by_cases missing : acquired<0
  · rw [if_pos missing]
    exact Or.inl ⟨missing,Int.ne_of_lt missing,rfl⟩
  rw [if_neg missing]
  refine Or.inr ?_
  have found : 0 ≤ acquired := Int.not_lt.mp missing
  by_cases same : s.status=.reconfigActive ∧ u.toCommon s.cameraStream.usage=s.oldUsage ∧
      s.oldMaxBuffers=s.streamMaxBuffers
  · rw [if_pos same]
    exact Or.inr ⟨found,fun blocked => blocked.1.2 same.2,rfl,rfl,rfl⟩
  rw [if_neg same]
  by_cases out : s.status=.reconfigActive ∧ 0 < s.pendingBufferCount
  · rw [if_pos out] at outcome
    rw [if_pos (by rw [outcome.1]; decide)]
    refine Or.inl ⟨found,⟨⟨out.1,fun kept => same ⟨out.1,kept⟩⟩,out.2⟩,?_,rfl⟩
    show (Camera3Stream.configureLocked _).ret≠0
    rw [outcome.1]
    decide
  · rw [if_neg out] at outcome
    rw [if_neg (by rw [outcome.1]; decide)]
    exact Or.inr ⟨found,fun blocked => out ⟨blocked.1.1,blocked.2⟩,rfl,rfl,outcome.2⟩

/-- After BeginConfigure the question is the one that Rebuilds asks before it. -/
theorem begun_blocked (id : Int) (h : ¬Unready s) :
    Blocked u (beginStream u id s).2.1 ↔ Rebuilds u s ∧ 0 < s.pendingBufferCount := by
  unfold Blocked Rebuilds beginStream Camera3Stream.beginConfigure
  cases hs : s.status with
  | error => exact absurd (Or.inl hs) h
  | prepareActive => exact absurd (Or.inr hs) h
  | initialized | configActive | reconfigActive | configured => simp [hs]

theorem endStream_active (acquired : Int → Int) (id : Int) (h : ¬Unready s) :
    endStream u acquired id (beginStream u id s).2.1=
      (((beginStream u id s).2.1.endConfigure u (acquired id)).ret,
        ((beginStream u id s).2.1.endConfigure u (acquired id)).stream,
        ((beginStream u id s).2.1.endConfigure u (acquired id)).effects.map (.stream id)) := by
  rw [endStream,if_pos (begun_active id h)]

/-- EndConfigure of a stream that BeginConfigure accepted. -/
theorem end_stuck (acquired : Int → Int) (id : Int) (h : ¬Unready s) :
    (endStream u acquired id (beginStream u id s).2.1).1≠0 ↔ Stuck u (acquired id) s := by
  rw [endStream_active acquired id h,Stuck,← begun_blocked id h]
  rcases endConfigure_outcome u (acquired id) (begun_active id h) with
    ⟨missing,failed,-⟩|⟨found,blocked,failed,-⟩|⟨found,free,done,-⟩
  · exact ⟨fun _ => Or.inl missing,fun _ => failed⟩
  · exact ⟨fun _ => Or.inr blocked,fun _ => failed⟩
  · exact ⟨fun failed => absurd done failed,
      fun stuck => stuck.elim (fun missing => absurd missing (Int.not_lt.mpr found))
        fun blocked => absurd blocked free⟩

theorem ended_status (acquired : Int → Int) (id : Int) (h : ¬Unready s)
    (ok : ¬Stuck u (acquired id) s) :
    (endStream u acquired id (beginStream u id s).2.1).2.1.status=.configured ∧
    (endStream u acquired id (beginStream u id s).2.1).2.1.monitorId=acquired id := by
  rw [Stuck,← begun_blocked id h] at ok
  rw [endStream_active acquired id h]
  rcases endConfigure_outcome u (acquired id) (begun_active id h) with
    ⟨missing,-⟩|⟨-,blocked,-⟩|⟨-,-,-,done⟩
  · exact absurd (Or.inl missing) ok
  · exact absurd (Or.inr blocked) ok
  · exact done

/-- A failing EndConfigure leaves the stream active where the monitor is missing, else failed. -/
theorem stuck_status (acquired : Int → Int) (id : Int) (h : ¬Unready s)
    (stuck : Stuck u (acquired id) s) :
    (endStream u acquired id (beginStream u id s).2.1).2.1.isConfigureActive=false ↔
      0 ≤ acquired id := by
  rw [Stuck,← begun_blocked id h] at stuck
  have active := begun_active (u := u) id h
  rw [endStream_active acquired id h]
  rcases endConfigure_outcome u (acquired id) active with
    ⟨missing,-,same⟩|⟨found,-,-,failed⟩|⟨found,free,-⟩
  · unfold Camera3Stream.isConfigureActive at active ⊢
    rw [same,active]
    simp [missing]
  · simp [Camera3Stream.isConfigureActive,failed,found]
  · exact absurd stuck fun h => h.elim (fun missing => Int.not_lt.mpr found missing) free

end Streams

section Call

variable {before after : List (Int × Camera3Stream)} {id : Int} {s : Camera3Stream}

variable (u env) in
theorem busy_call (hs : c.state≠.NOT_CONFIGURED ∧ c.state≠.CONFIGURED) :
    configureStreamsLocked u c env=⟨-ENOSYS,c,[]⟩ := if_pos hs

variable (u env) in
theorem skipped_call (hs : ¬(c.state≠.NOT_CONFIGURED ∧ c.state≠.CONFIGURED))
    (hr : c.reconfig=false) : configureStreamsLocked u c env=⟨0,c,[]⟩ := by
  rw [configureStreamsLocked,if_neg hs,if_pos hr]

/-- The entry of streams_ after its BeginConfigure. -/
def begun (u : BufferUsage) (p : Int × Camera3Stream) : Int × Camera3Stream :=
  (p.1,(beginStream u p.1 p.2).2.1)

def ended (u : BufferUsage) (acquired : Int → Int) (p : Int × Camera3Stream) : Int × Camera3Stream :=
  (p.1,(endStream u acquired p.1 (begun u p).2).2.1)

def aborted (u : BufferUsage) (p : Int × Camera3Stream) : Int × Camera3Stream :=
  (p.1,(abortStream u p.1 (begun u p).2).2.1)

variable (u env) in
/-- BeginConfigure refuses a stream: those before it stay as they have begun. -/
theorem unready_call (hs : ¬(c.state≠.NOT_CONFIGURED ∧ c.state≠.CONFIGURED))
    (hr : c.reconfig=true)
    (stop : StopsAt (fun _ s => Unready s) c.streams.items before id s after) :
    (configureStreamsLocked u c env).ret≠0 ∧
    (configureStreamsLocked u c env).client.streams.items=before.map (begun u)++(id,s)::after ∧
    (before=[] → (configureStreamsLocked u c env).effects=[]) := by
  have stops : StopsAt (fun id s => (beginStream u id s).1≠0) c.streams.items before id s after :=
    ⟨stop.1,fun p hp => (beginStream_unready u p.1 p.2).not.mpr (stop.2.1 p hp),
      (beginStream_unready u id s).mpr stop.2.2⟩
  obtain ⟨code,items⟩ := tryItems_stops stops
  have failed : (c.streams.tryEach (beginStream u)).1≠0 := by
    show (tryItems (beginStream u) c.streams.items).1≠0
    rw [code]
    exact stops.2.2
  rw [configureStreamsLocked,if_neg hs,if_neg (by simp [hr])]
  dsimp only
  rw [if_pos failed]
  refine ⟨by simp [ENOSYS],?_,?_⟩
  · show (tryItems (beginStream u) c.streams.items).2.1=_
    rw [items,(unready_unchanged id stop.2.2).1]
    rfl
  · intro first
    show (tryItems (beginStream u) c.streams.items).2.2=[]
    rw [stop.1,first,List.nil_append,tryItems,if_pos stops.2.2]
    exact (unready_unchanged id stop.2.2).2

/-- All streams begin, and the HAL is called. -/
theorem begun_all (ready : ∀ p∈c.streams.items,¬Unready p.2) :
    (c.streams.tryEach (beginStream u)).1=0 ∧
    (c.streams.tryEach (beginStream u)).2.1.items=c.streams.items.map (begun u) := by
  have fine : ∀ p∈c.streams.items,(beginStream u p.1 p.2).1=0 :=
    fun p hp => not_not.mp ((beginStream_unready u p.1 p.2).not.mpr (ready p hp))
  exact ⟨(tryItems_ok _ _).mpr fine,tryItems_done fine⟩

theorem refused_call (hs : ¬(c.state≠.NOT_CONFIGURED ∧ c.state≠.CONFIGURED))
    (hr : c.reconfig=true) (ready : ∀ p∈c.streams.items,¬Unready p.2)
    (hc : env.configured=false) :
    (configureStreamsLocked u c env).ret≠0 ∧
    (configureStreamsLocked u c env).client.streams.items=c.streams.items.map (aborted u) := by
  obtain ⟨fine,items⟩ := begun_all (u := u) ready
  have undone : ∀ p∈(c.streams.tryEach (beginStream u)).2.1.items,(abortStream u p.1 p.2).1=0 := by
    intro p hp
    rw [items] at hp
    obtain ⟨q,hq,rfl⟩ := List.mem_map.mp hp
    exact (aborted_inactive q.1 (begun_active q.1 (ready q hq))).1
  have code : ((c.streams.tryEach (beginStream u)).2.1.tryEach (abortStream u)).1=0 :=
    (tryItems_ok _ _).mpr undone
  rw [configureStreamsLocked,if_neg hs,if_neg (by simp [hr])]
  dsimp only
  rw [if_neg (not_not.mpr fine),if_pos hc,if_neg (not_not.mpr code)]
  refine ⟨by simp [EINVAL],?_⟩
  show (tryItems (abortStream u) (c.streams.tryEach (beginStream u)).2.1.items).2.1=_
  rw [tryItems_done undone,items,List.map_map]
  rfl

/-- EndConfigure fails for a stream: those after it stay as they have begun. -/
theorem stuck_call (hs : ¬(c.state≠.NOT_CONFIGURED ∧ c.state≠.CONFIGURED))
    (hr : c.reconfig=true) (ready : ∀ p∈c.streams.items,¬Unready p.2)
    (hc : env.configured=true)
    (stop : StopsAt (fun id s => Stuck u (env.acquired id) s) c.streams.items before id s after) :
    (configureStreamsLocked u c env).ret≠0 ∧
    (configureStreamsLocked u c env).client.streams.items=
      before.map (ended u env.acquired)++ended u env.acquired (id,s)::after.map (begun u) ∧
    halCalled (configureStreamsLocked u c env).effects=true := by
  obtain ⟨fine,items⟩ := begun_all (u := u) ready
  have member : ∀ p∈before,¬Unready p.2 :=
    fun p hp => ready p (by rw [stop.1]; exact List.mem_append_left _ hp)
  have here : ¬Unready s := ready _ stop.mem
  have stops : StopsAt (fun id s => (endStream u env.acquired id s).1≠0)
      (c.streams.tryEach (beginStream u)).2.1.items (before.map (begun u)) id
      (beginStream u id s).2.1 (after.map (begun u)) := by
    refine ⟨by rw [items,stop.1,List.map_append]; rfl,?_,(end_stuck _ id here).mpr stop.2.2⟩
    intro p hp
    obtain ⟨q,hq,rfl⟩ := List.mem_map.mp hp
    exact (end_stuck _ q.1 (member q hq)).not.mpr (stop.2.1 q hq)
  obtain ⟨code,left⟩ := tryItems_stops stops
  have failed : ((c.streams.tryEach (beginStream u)).2.1.tryEach (endStream u env.acquired)).1≠0 := by
    show (tryItems _ (c.streams.tryEach (beginStream u)).2.1.items).1≠0
    rw [code]
    exact stops.2.2
  rw [configureStreamsLocked,if_neg hs,if_neg (by simp [hr])]
  dsimp only
  rw [if_neg (not_not.mpr fine),if_neg (by simp [hc]),if_pos failed]
  refine ⟨failed,?_,by simp [halCalled]⟩
  show (tryItems _ (c.streams.tryEach (beginStream u)).2.1.items).2.1=_
  rw [left,List.map_map]
  rfl

theorem configured_call (hs : ¬(c.state≠.NOT_CONFIGURED ∧ c.state≠.CONFIGURED))
    (hr : c.reconfig=true) (ready : ∀ p∈c.streams.items,¬Unready p.2)
    (hc : env.configured=true)
    (free : ∀ p∈c.streams.items,¬Stuck u (env.acquired p.1) p.2) :
    (configureStreamsLocked u c env).ret=0 ∧
    (configureStreamsLocked u c env).client.streams.items=
      c.streams.items.map (ended u env.acquired) ∧
    (configureStreamsLocked u c env).client.state=.CONFIGURED ∧
    (configureStreamsLocked u c env).client.reconfig=false := by
  obtain ⟨fine,items⟩ := begun_all (u := u) ready
  have done : ∀ p∈(c.streams.tryEach (beginStream u)).2.1.items,
      (endStream u env.acquired p.1 p.2).1=0 := by
    intro p hp
    rw [items] at hp
    obtain ⟨q,hq,rfl⟩ := List.mem_map.mp hp
    exact not_not.mp ((end_stuck _ q.1 (ready q hq)).not.mpr (free q hq))
  have code : ((c.streams.tryEach (beginStream u)).2.1.tryEach (endStream u env.acquired)).1=0 :=
    (tryItems_ok _ _).mpr done
  rw [configureStreamsLocked,if_neg hs,if_neg (by simp [hr])]
  dsimp only
  rw [if_neg (not_not.mpr fine),if_neg (by simp [hc]),if_neg (not_not.mpr code)]
  refine ⟨rfl,?_,rfl,rfl⟩
  show (tryItems _ (c.streams.tryEach (beginStream u)).2.1.items).2.1=_
  rw [tryItems_done done,items,List.map_map]
  rfl

end Call

section Monitors

theorem registeredAfter_quiet (h : (configureStreamsLocked u c env).effects=[]) :
    registeredAfter u c env registered=registered := by
  simp [registeredAfter,h,releasedMonitors,halCalled]

/-- Every stream of the loop before the one that fails has its monitor registered. -/
theorem mem_acquiredMonitors {acquired : Int → Int} (before rest : List (Int × Camera3Stream))
    (ready : ∀ p∈before,¬Unready p.2) (free : ∀ p∈before,¬Stuck u (acquired p.1) p.2) :
    ∀ p∈before,acquired p.1∈
      acquiredMonitors u acquired (before.map (begun u)++rest) := by
  induction before with
  | nil => simp
  | cons q before ih =>
    have later := ih (fun p hp => ready p (List.mem_cons_of_mem q hp))
      fun p hp => free p (List.mem_cons_of_mem q hp)
    have active := begun_active (u := u) q.1 (ready q List.mem_cons_self)
    have unstuck := free q List.mem_cons_self
    have done : (endStream u acquired q.1 (beginStream u q.1 q.2).2.1).1=0 :=
      not_not.mp ((end_stuck acquired q.1 (ready q List.mem_cons_self)).not.mpr unstuck)
    have found : 0 ≤ acquired q.1 := Int.not_lt.mp fun missing => unstuck (Or.inl missing)
    intro p hp
    rw [List.map_cons,List.cons_append,begun,acquiredMonitors,if_pos ⟨active,found⟩,if_pos done]
    rcases List.mem_cons.mp hp with rfl|hp
    · exact List.mem_append_left _ List.mem_cons_self
    · exact List.mem_append_right _ (later p hp)

variable (registered) in
theorem ended_monitored {before after : List (Int × Camera3Stream)} {id : Int} {s : Camera3Stream}
    (ready : ∀ p∈c.streams.items,¬Unready p.2) (hc : env.configured=true)
    (called : halCalled (configureStreamsLocked u c env).effects=true)
    (stop : StopsAt (fun id s => Stuck u (env.acquired id) s) c.streams.items before id s after) :
    ∀ p∈before,Monitored (registeredAfter u c env registered) (ended u env.acquired p).2 := by
  have member : ∀ p∈before,¬Unready p.2 :=
    fun p hp => ready p (by rw [stop.1]; exact List.mem_append_left _ hp)
  intro p hp
  obtain ⟨status,monitor⟩ := ended_status env.acquired p.1 (member p hp) (stop.2.1 p hp)
  refine ⟨status,?_,?_⟩
  · show 0 ≤ (endStream u env.acquired p.1 (beginStream u p.1 p.2).2.1).2.1.monitorId
    rw [monitor]
    exact Int.not_lt.mp fun missing => stop.2.1 p hp (Or.inl missing)
  · show (endStream u env.acquired p.1 (beginStream u p.1 p.2).2.1).2.1.monitorId∈_
    rw [monitor,registeredAfter]
    refine List.mem_append_right _ ?_
    rw [if_pos ⟨called,hc⟩,(begun_all ready).2,stop.1,List.map_append]
    exact mem_acquiredMonitors before _ member stop.2.1 p hp

end Monitors

/-- A call that leaves the streams as they are and touches no monitor. -/
theorem settled_iff (h : (configureStreamsLocked u c env).ret≠0)
    (hs : (configureStreamsLocked u c env).client.streams=c.streams)
    (he : (configureStreamsLocked u c env).effects=[]) :
    Transaction u c env registered ↔ c.Settled registered := by
  have unfailed : ∀ id s,¬Failed u c env id s := by
    intro id s failed
    have called := failed.1
    rw [he] at called
    cases called
  constructor
  · intro transaction p hp
    have inactive := transaction.inactive h p (by rw [hs]; exact hp)
    refine ⟨inactive,?_⟩
    intro configured
    have found : c.streams.valueFor p.1=some p.2 := (c.streams.valueFor_eq_some p.1 p.2).mpr hp
    have restored := transaction.restored h p.1 p.2 p.2 found configured (unfailed _ _)
      (by rw [hs]; exact found)
    rw [registeredAfter_quiet he] at restored
    exact restored
  · intro settled
    refine ⟨?_,?_,fun done => absurd done h⟩
    · intro _ p hp
      rw [hs] at hp
      exact (settled p hp).1
    · intro _ id s s' found configured _ left
      rw [hs,found] at left
      cases left
      rw [registeredAfter_quiet he]
      exact (settled (id,s) ((c.streams.valueFor_eq_some id s).mp found)).2 configured

section Cases

variable {before after : List (Int × Camera3Stream)} {id : Int} {s : Camera3Stream}
  (hs : ¬(c.state≠.NOT_CONFIGURED ∧ c.state≠.CONFIGURED)) (hr : c.reconfig=true)
include hs hr

theorem unready_transaction
    (stop : StopsAt (fun _ s => Unready s) c.streams.items before id s after) :
    Transaction u c env registered ↔ before=[] ∧ c.Settled registered := by
  obtain ⟨failed,items,quiet⟩ := unready_call u env hs hr stop
  cases before with
  | nil =>
    have same : (configureStreamsLocked u c env).client.streams=c.streams :=
      KeyedVector.ext (by rw [items,stop.1]; rfl)
    rw [settled_iff failed same (quiet rfl)]
    exact ⟨fun settled => ⟨rfl,settled⟩,fun h => h.2⟩
  | cons p before =>
    refine ⟨fun transaction => ?_,fun h => absurd h.1 (List.cons_ne_nil p before)⟩
    have left := transaction.inactive failed (begun u p) (by rw [items]; simp)
    have active := begun_active (u := u) p.1 (stop.2.1 p List.mem_cons_self)
    rw [begun,active] at left
    cases left

/-- AbortConfigure gives no stream its monitor back. -/
theorem refused_transaction (ready : ∀ p∈c.streams.items,¬Unready p.2)
    (hc : env.configured=false) :
    Transaction u c env registered ↔ ∀ p∈c.streams.items,p.2.status≠.configured := by
  obtain ⟨failed,items⟩ := refused_call (u := u) hs hr ready hc
  constructor
  · intro transaction p hp configured
    have found : c.streams.valueFor p.1=some p.2 := (c.streams.valueFor_eq_some p.1 p.2).mpr hp
    have left : (configureStreamsLocked u c env).client.streams.valueFor p.1=
        some (aborted u p).2 := by
      rw [valueFor_eq_some,items]
      exact List.mem_map.mpr ⟨p,hp,rfl⟩
    have restored := transaction.restored failed p.1 p.2 _ found configured
      (fun h => absurd h.2.1 (by simp [hc])) left
    have monitor : (aborted u p).2.monitorId= -1 :=
      (aborted_inactive p.1 (begun_active p.1 (ready p hp))).2.2.trans (begun_monitor p.1 configured)
    have valid := restored.2.1
    rw [monitor] at valid
    exact absurd valid (by decide)
  · intro none
    refine ⟨?_,?_,fun done => absurd done failed⟩
    · intro _ p hp
      rw [items] at hp
      obtain ⟨q,hq,rfl⟩ := List.mem_map.mp hp
      exact (aborted_inactive q.1 (begun_active q.1 (ready q hq))).2.1
    · intro _ id s s' found configured
      exact absurd configured (none (id,s) ((c.streams.valueFor_eq_some id s).mp found))

theorem stuck_transaction (ready : ∀ p∈c.streams.items,¬Unready p.2) (hc : env.configured=true)
    (stop : StopsAt (fun id s => Stuck u (env.acquired id) s) c.streams.items before id s after) :
    Transaction u c env registered ↔ after=[] ∧ 0 ≤ env.acquired id := by
  obtain ⟨failed,items,called⟩ := stuck_call hs hr ready hc stop
  have here : ¬Unready s := ready _ stop.mem
  have last := stuck_status env.acquired id here stop.2.2
  constructor
  · intro transaction
    have alone : after=[] := by
      cases after with
      | nil => rfl
      | cons p after =>
        have left := transaction.inactive failed (begun u p) (by rw [items]; simp)
        have active := begun_active (u := u) p.1 (ready p (by rw [stop.1]; simp))
        rw [begun,active] at left
        cases left
    exact ⟨alone,last.mp (transaction.inactive failed (ended u env.acquired (id,s))
      (by rw [items]; simp))⟩
  · rintro ⟨rfl,found⟩
    have monitored := ended_monitored registered ready hc called stop
    refine ⟨?_,?_,fun done => absurd done failed⟩
    · intro _ p hp
      rw [items] at hp
      rcases List.mem_append.mp hp with hp|hp
      · obtain ⟨q,hq,rfl⟩ := List.mem_map.mp hp
        simp [Camera3Stream.isConfigureActive,(monitored q hq).1]
      · rw [List.mem_singleton.mp hp]
        exact last.mpr found
    · intro _ id' s' t old configured unfailed left
      have place := (valueFor_eq_some _ _ _).mp left
      rw [items] at place
      rcases List.mem_append.mp place with place|place
      · obtain ⟨q,hq,same⟩ := List.mem_map.mp place
        cases same
        exact monitored q hq
      · cases List.mem_singleton.mp place
        have first : c.streams.valueFor id=some s :=
          (valueFor_eq_some _ _ _).mpr (by rw [stop.1]; simp)
        have same : s'=s := Option.some.inj (old.symm.trans first)
        rw [same] at unfailed
        exact absurd ⟨called,hc,before,[],stop⟩ unfailed

theorem configured_transaction (ready : ∀ p∈c.streams.items,¬Unready p.2)
    (hc : env.configured=true) (free : ∀ p∈c.streams.items,¬Stuck u (env.acquired p.1) p.2) :
    Transaction u c env registered := by
  obtain ⟨done,items,state,reconfig⟩ := configured_call hs hr ready hc free
  refine ⟨fun failed => absurd done failed,fun failed => absurd done failed,fun _ _ => ?_⟩
  refine ⟨?_,state,reconfig⟩
  intro p hp
  rw [items] at hp
  obtain ⟨q,hq,rfl⟩ := List.mem_map.mp hp
  exact (ended_status env.acquired q.1 (ready q hq) (free q hq)).1

end Cases

/-- ConfigureStreamsLocked is a transaction exactly where its failures have nothing to undo. -/
theorem configure_transaction_iff (u : BufferUsage) (c : DeviceClient M) (env : ClientEnv M)
    (registered : List Int) :
    Transaction u c env registered ↔ Transacts u c env registered := by
  by_cases hs : c.state≠.NOT_CONFIGURED ∧ c.state≠.CONFIGURED
  · -- not idle: nothing is done
    have same := busy_call u env hs
    rw [settled_iff (by rw [same]; simp [ENOSYS]) (by rw [same]) (by rw [same])]
    exact ⟨fun settled => ⟨fun _ => settled,fun h => absurd hs h,fun h => absurd hs h,
      fun h => absurd hs h⟩,fun transacts => transacts.busy hs⟩
  cases hr : c.reconfig with
  | false =>
    have same := skipped_call u env hs hr
    refine ⟨fun _ => ⟨fun h => absurd h hs,?_,?_,?_⟩,fun _ => ⟨?_,?_,?_⟩⟩
    · intro _ h
      simp [hr] at h
    · intro _ h
      simp [hr] at h
    · intro _ h
      simp [hr] at h
    · intro h
      rw [same] at h
      exact absurd rfl h
    · intro h
      rw [same] at h
      exact absurd rfl h
    · intro _ called
      rw [same] at called
      cases called
  | true =>
    by_cases ready : ∀ p∈c.streams.items,¬Unready p.2
    · cases hc : env.configured with
      | false =>
        rw [refused_transaction hs hr ready hc]
        exact ⟨fun none => ⟨fun h => absurd h hs,
            fun _ _ _ _ _ _ stop => absurd stop.2.2 (ready _ stop.mem),
            fun _ _ _ _ => none,fun _ _ _ h => absurd h (by simp [hc])⟩,
          fun transacts => transacts.refused hs hr ready hc⟩
      | true =>
        refine ⟨fun transaction => ⟨fun h => absurd h hs,
            fun _ _ _ _ _ _ stop => absurd stop.2.2 (ready _ stop.mem),
            fun _ _ _ h => absurd h (by simp [hc]),
            fun _ _ _ _ _ _ _ _ stop => (stuck_transaction hs hr ready hc stop).mp transaction⟩,?_⟩
        intro transacts
        by_cases free : ∀ p∈c.streams.items,¬Stuck u (env.acquired p.1) p.2
        · exact configured_transaction hs hr ready hc free
        · push Not at free
          obtain ⟨before,id,s,after,stop⟩ :=
            exists_stopsAt (fun id s => Stuck u (env.acquired id) s) free
          exact (stuck_transaction hs hr ready hc stop).mpr
            (transacts.stuck hs hr ready hc before id s after stop)
    · refine ⟨fun transaction => ⟨fun h => absurd h hs,
          fun _ _ _ _ _ _ stop => (unready_transaction hs hr stop).mp transaction,
          fun _ _ h => absurd h ready,fun _ _ h => absurd h ready⟩,?_⟩
      intro transacts
      push Not at ready
      obtain ⟨before,id,s,after,stop⟩ := exists_stopsAt (fun _ s => Unready s) ready
      exact (unready_transaction hs hr stop).mpr (transacts.unready hs hr before id s after stop)

/-- The HAL refuses a second configuration: the CONFIGURED streams have lost their monitors. -/
theorem refusal_loses_monitors : ¬∀ (u : BufferUsage) (c : DeviceClient Unit) env registered,
    c.Settled registered → Transaction u c env registered := by
  intro all
  have settled : ({ sampleClient .CONFIGURED previews [] with reconfig := true } :
      DeviceClient Unit).Settled [0,1] := by
    intro p hp
    have two : p=(0,preview 0) ∨ p=(1,preview 1) := by
      simpa [sampleClient,previews,KeyedVector.add,KeyedVector.empty,insertItem] using hp
    rcases two with rfl|rfl
    · exact ⟨rfl,fun _ => ⟨rfl,by decide,by decide⟩⟩
    · exact ⟨rfl,fun _ => ⟨rfl,by decide,by decide⟩⟩
  have transaction := all .android _ { calm [] with configured := false } [0,1] settled
  have restored := transaction.restored (by decide) 0 (preview 0) _ rfl rfl
    (fun failed => absurd failed.2.1 (by decide)) rfl
  exact absurd restored.2.1 (by decide)

end DeviceClient
end IotMedia.Camera

import IotMedia.Camera.IdleCalls

namespace IotMedia.Camera

open IotMedia.Framework

namespace IdleWorld

variable {M : Type}

/-- What holds after every run of expected steps. -/
structure Inv (w : IdleWorld M) : Prop where
  registered : ∀ id s,w.client.streams.valueFor id=some s → 0 ≤ s.monitorId →
    s.monitorId∈w.monitor.monitorStates.keys ∧ s.monitorId<w.monitor.nextMonitor ∧
      s.monitorId≠w.client.handler.monitorId
  distinct : ∀ id other s t,id≠other → w.client.streams.valueFor id=some s →
    w.client.streams.valueFor other=some t → 0 ≤ s.monitorId → s.monitorId≠t.monitorId
  deleted : ∀ d∈w.client.deletedStreams,0≤d.monitorId → d.monitorId<w.monitor.nextMonitor ∧
    d.monitorId≠w.client.handler.monitorId ∧
    ∀ id s,w.client.streams.valueFor id=some s → d.monitorId≠s.monitorId
  configuring : ∀ id s,w.client.streams.valueFor id=some s → s.isConfigureActive=true →
    s.monitorId<0
  handler : 0≤w.client.handler.monitorId ∧
    w.client.handler.monitorId∈w.monitor.monitorStates.keys ∧
    w.client.handler.monitorId<w.monitor.nextMonitor
  handlerKnown : w.client.handler.pausedState=false →
    w.monitor.KnownActive w.client.handler.monitorId
  known : w.Notified → ∀ id s,w.client.streams.valueFor id=some s → w.Known s
  composed : w.monitor.Composed
  told : w.monitor.updatedStates=[] → w.monitor.compositeState=.ACTIVE →
    w.client.state≠.CONFIGURED
  locked : w.phase≠.done → w.client.state=.NOT_CONFIGURED ∨ w.client.state=.CONFIGURED

variable {w w' : IdleWorld M}

theorem Inv.sound (hi : Inv w) : w.IdleSound := by
  intro quiet hs
  obtain ⟨queue,delivered⟩ := quiet
  have idle : ∀ id,¬w.monitor.KnownActive id := by
    intro id h
    exact hi.told delivered (hi.composed.covers (h.build queue)) hs
  constructor
  · intro id s hv
    by_contra hp
    have known := hi.known (Or.inl hs) id s hv (by omega)
    exact idle s.monitorId known.2
  · cases hp : w.client.handler.pausedState with
    | true => rfl
    | false => exact absurd (hi.handlerKnown hp) (idle _)

/-- Every other monitor in use is not that of the stream. -/
theorem Inv.apart {id : Int} {s : Camera3Stream} (hi : Inv w)
    (hv : w.client.streams.valueFor id=some s) :
    (∀ other t,other≠id → w.client.streams.valueFor other=some t → 0≤t.monitorId →
      t.monitorId≠s.monitorId ∧ t.monitorId<w.monitor.nextMonitor) ∧
    w.client.handler.monitorId≠s.monitorId := by
  constructor
  · intro other t hne ht pos
    exact ⟨hi.distinct other id t s hne ht hv pos,(hi.registered other t ht pos).2.1⟩
  · intro same
    have pos := hi.handler.1
    rw [same] at pos
    exact (hi.registered id s hv pos).2.2 same.symm

/-- One stream changes, and nobody else's monitor. -/
theorem Inv.replace {id : Int} {s : Camera3Stream} (hi : Inv w)
    (hv : w.client.streams.valueFor id=some s) (s' : Camera3Stream)
    (hclient : w'.client={ w.client with streams := w.client.streams.replaceValueFor id s' })
    (hk : w.monitor.Keeps w'.monitor s.monitorId)
    (hm : s'.monitorId<0 ∨
      s'.monitorId=s.monitorId ∧ (0 ≤ s.monitorId → s.monitorId∈w'.monitor.monitorStates.keys) ∨
      s'.monitorId=w.monitor.nextMonitor ∧ s'.monitorId∈w'.monitor.monitorStates.keys ∧
        s'.monitorId<w'.monitor.nextMonitor)
    (hc : s'.isConfigureActive=true → s'.monitorId<0)
    (hp : w.Notified → 0 < s'.pendingBufferCount →
      0 ≤ s'.monitorId ∧ w'.monitor.KnownActive s'.monitorId)
    (hphase : w'.phase≠.done → w.phase≠.done) : Inv w' := by
  have state : w'.client.state=w.client.state := by rw [hclient]
  have sameHandler : w'.client.handler=w.client.handler := by rw [hclient]
  have sameDeleted : w'.client.deletedStreams=w.client.deletedStreams := by rw [hclient]
  have notified : w'.Notified ↔ w.Notified := by rw [Notified,Notified,state]
  have value : ∀ other t,w'.client.streams.valueFor other=some t → other=id ∧ t=s' ∨
      other≠id ∧ w.client.streams.valueFor other=some t := by
    intro other t h
    rw [hclient,KeyedVector.valueFor_replaceValueFor,hv] at h
    split_ifs at h with same
    · exact Or.inl ⟨same,(Option.some.inj h).symm⟩
    · exact Or.inr ⟨same,h⟩
  obtain ⟨others,own⟩ := hi.apart hv
  have below := hi.handler.2.2
  have next := hk.next
  -- and the stream has its old one, or one that nobody had
  have placed : 0 ≤ s'.monitorId → s'.monitorId∈w'.monitor.monitorStates.keys ∧
      s'.monitorId<w'.monitor.nextMonitor ∧
      ∀ m,m≠s.monitorId → m<w.monitor.nextMonitor → s'.monitorId≠m := by
    intro pos
    rcases hm with neg|⟨same,keys⟩|⟨fresh,keys,bound⟩
    · omega
    · rw [same] at pos ⊢
      have old := hi.registered id s hv pos
      exact ⟨keys pos,by omega,fun m apart _ => apart.symm⟩
    · exact ⟨keys,bound,fun m _ old => by omega⟩
  refine ⟨?_,?_,?_,?_,?_,?_,?_,hk.composed hi.composed,?_,?_⟩
  · intro other t ht pos
    rw [sameHandler]
    rcases value other t ht with ⟨-,rfl⟩|⟨hne,ht⟩
    · obtain ⟨keys,bound,apart⟩ := placed pos
      exact ⟨keys,bound,apart _ own below⟩
    · have old := hi.registered other t ht pos
      exact ⟨hk.keys _ (others other t hne ht pos).1 old.1,by omega,old.2.2⟩
  · intro first second a b hne ha hb pos
    rcases value first a ha with ⟨rfl,rfl⟩|⟨hfirst,ha⟩
    · rcases value second b hb with ⟨same,-⟩|⟨hsecond,hb⟩
      · exact absurd same.symm hne
      · intro same
        obtain ⟨apart,bound⟩ := others second b hsecond hb (same ▸ pos)
        exact (placed pos).2.2 _ apart bound same
    · rcases value second b hb with ⟨rfl,rfl⟩|⟨hsecond,hb⟩
      · intro same
        obtain ⟨apart,bound⟩ := others first a hfirst ha pos
        exact (placed (same ▸ pos)).2.2 _ apart bound same.symm
      · exact hi.distinct first second a b hne ha hb pos
  · intro d hd pos
    rw [sameDeleted] at hd
    obtain ⟨bound,apart,streams⟩ := hi.deleted d hd pos
    refine ⟨by omega,by rw [sameHandler]; exact apart,?_⟩
    intro other t ht
    rcases value other t ht with ⟨-,rfl⟩|⟨-,ht⟩
    · intro same
      exact (placed (same ▸ pos)).2.2 _ (streams id s hv) bound same.symm
    · exact streams other t ht
  · intro other t ht active
    rcases value other t ht with ⟨-,rfl⟩|⟨-,ht⟩
    · exact hc active
    · exact hi.configuring other t ht active
  · rw [sameHandler]
    exact ⟨hi.handler.1,hk.keys _ own hi.handler.2.1,by omega⟩
  · intro h
    rw [sameHandler] at h ⊢
    exact hk.known _ own below (hi.handlerKnown h)
  · intro h other t ht out
    rcases value other t ht with ⟨-,rfl⟩|⟨hne,ht⟩
    · exact hp (notified.mp h) out
    · obtain ⟨pos,active⟩ := hi.known (notified.mp h) other t ht out
      obtain ⟨apart,bound⟩ := others other t hne ht pos
      exact ⟨pos,hk.known _ apart bound active⟩
  · intro delivered active
    rw [state]
    exact hi.told (hk.updated ▸ delivered) (hk.composite ▸ active)
  · intro h
    rw [state]
    exact hi.locked (hphase h)

/-- The handler changes, and nobody else's monitor. -/
theorem Inv.replaceHandler (hi : Inv w) (handler : RequestHandler M)
    (hclient : w'.client={ w.client with handler := handler })
    (hid : handler.monitorId=w.client.handler.monitorId)
    (hk : w.monitor.Keeps w'.monitor w.client.handler.monitorId)
    (hkeys : w.client.handler.monitorId∈w'.monitor.monitorStates.keys)
    (hp : handler.pausedState=false → w'.monitor.KnownActive w.client.handler.monitorId)
    (hphase : w'.phase=w.phase) : Inv w' := by
  have streams : w'.client.streams=w.client.streams := by rw [hclient]
  have state : w'.client.state=w.client.state := by rw [hclient]
  have sameDeleted : w'.client.deletedStreams=w.client.deletedStreams := by rw [hclient]
  have sameHandler : w'.client.handler=handler := by rw [hclient]
  have next := hk.next
  refine ⟨?_,?_,?_,?_,?_,?_,?_,hk.composed hi.composed,?_,?_⟩
  · intro id s hv pos
    rw [streams] at hv
    obtain ⟨keys,bound,apart⟩ := hi.registered id s hv pos
    exact ⟨hk.keys _ apart keys,by omega,by rw [sameHandler,hid]; exact apart⟩
  · rw [streams]
    exact hi.distinct
  · intro d hd pos
    rw [sameDeleted] at hd
    obtain ⟨bound,apart,others⟩ := hi.deleted d hd pos
    exact ⟨by omega,by rw [sameHandler,hid]; exact apart,by rw [streams]; exact others⟩
  · rw [streams]
    exact hi.configuring
  · rw [sameHandler,hid]
    have bound := hi.handler.2.2
    exact ⟨hi.handler.1,hkeys,by omega⟩
  · rw [sameHandler,hid]
    exact hp
  · intro h id s hv out
    rw [streams] at hv
    have notified : w.Notified := by
      rw [Notified,← state]
      exact h
    obtain ⟨pos,active⟩ := hi.known notified id s hv out
    obtain ⟨-,bound,apart⟩ := hi.registered id s hv pos
    exact ⟨pos,hk.known _ apart bound active⟩
  · intro delivered active
    rw [state]
    exact hi.told (hk.updated ▸ delivered) (hk.composite ▸ active)
  · rw [hphase,state]
    exact hi.locked

section Calls

theorem onHandler_inv {handler : RequestHandler M} {effects : List HandlerEffect} (hi : Inv w)
    (ha : w.client.handler.Announces handler effects) : Inv (w.onHandler handler effects) := by
  obtain ⟨hid,told⟩ := ha
  have keys := hi.handler.2.1
  rcases told with ⟨paused,silent⟩|active|⟨paused,idle⟩
  · have monitor : (w.onHandler handler effects).monitor=w.monitor := silent w.monitor
    refine hi.replaceHandler handler rfl hid ?_ ?_ ?_ rfl
    · rw [monitor]
      exact .refl _ _
    · rw [monitor]
      exact keys
    · intro h
      rw [monitor]
      exact hi.handlerKnown (paused.symm.trans h)
  · have monitor : (w.onHandler handler effects).monitor=
        w.monitor.changeStateToActive w.client.handler.monitorId := by
      rw [active]
      rfl
    refine hi.replaceHandler handler rfl hid ?_ ?_ ?_ rfl
    · rw [monitor]
      exact .changeState _ _ _
    · rw [monitor]
      exact keys
    · intro _
      rw [monitor]
      exact Camera3Monitor.changeState_active keys
  · have monitor : (w.onHandler handler effects).monitor=
        w.monitor.changeStateToIdle w.client.handler.monitorId := by
      rw [idle]
      rfl
    refine hi.replaceHandler handler rfl hid ?_ ?_ ?_ rfl
    · rw [monitor]
      exact .changeState _ _ _
    · rw [monitor]
      exact keys
    · intro h
      rw [paused] at h
      cases h

/-- A call that hands out a buffer of a stream with a monitor. -/
theorem lend_inv {α : Type} {id : Int} {s : Camera3Stream} {r : StreamResult α} (hi : Inv w)
    (hv : w.client.streams.valueFor id=some s) (hl : s.Silent r ∨ s.Lent r)
    (hm : w.Notified → s.Lent r → 0 ≤ s.monitorId)
    (hclient : w'.client={ w.client with
      streams := w.client.streams.replaceValueFor id r.stream })
    (hmonitor : w'.monitor=r.effects.foldl Camera3Monitor.streamEffect w.monitor)
    (hphase : w'.phase=w.phase) : Inv w' := by
  have keep : ∀ m,m=w.monitor ∨ m=w.monitor.changeStateToActive s.monitorId →
      w.monitor.Keeps m s.monitorId ∧
        (0 ≤ s.monitorId → s.monitorId∈m.monitorStates.keys) := by
    intro m hm
    cases hm with
    | inl same =>
      rw [same]
      exact ⟨.refl _ _,fun pos => (hi.registered id s hv pos).1⟩
    | inr active =>
      rw [active]
      exact ⟨.changeState _ _ _,fun pos => (hi.registered id s hv pos).1⟩
  cases hl with
  | inl silent =>
    obtain ⟨monitorId,status,pending,told⟩ := silent
    have monitor : w'.monitor=w.monitor := hmonitor.trans (told w.monitor)
    obtain ⟨hk,keys⟩ := keep w'.monitor (Or.inl monitor)
    refine hi.replace hv _ hclient hk (Or.inr (Or.inl ⟨monitorId,keys⟩)) ?_ ?_
      (fun h => hphase ▸ h)
    · intro active
      rw [monitorId]
      apply hi.configuring id s hv
      simpa [Camera3Stream.isConfigureActive,status] using active
    · intro notified out
      rw [monitorId,monitor]
      exact hi.known notified id s hv (by omega)
  | inr lent =>
    obtain ⟨monitorId,status,pending,told⟩ := lent
    have monitor := hmonitor.trans (told w.monitor)
    have either : w'.monitor=w.monitor ∨ w'.monitor=w.monitor.changeStateToActive s.monitorId := by
      rw [monitor]
      split_ifs
      · exact Or.inr rfl
      · exact Or.inl rfl
    obtain ⟨hk,keys⟩ := keep w'.monitor either
    refine hi.replace hv _ hclient hk (Or.inr (Or.inl ⟨monitorId,keys⟩)) ?_ ?_
      (fun h => hphase ▸ h)
    · intro active
      rw [monitorId]
      apply hi.configuring id s hv
      simpa [Camera3Stream.isConfigureActive,status] using active
    · intro notified _
      have pos := hm notified ⟨monitorId,status,pending,told⟩
      rw [monitorId]
      refine ⟨pos,?_⟩
      by_cases first : s.pendingBufferCount=0
      · have calm : s.isConfigureActive=false := by
          cases ha : s.isConfigureActive with
          | false => rfl
          | true =>
            have neg := hi.configuring id s hv ha
            omega
        rw [monitor,if_pos ⟨first,calm⟩]
        exact Camera3Monitor.changeState_active (hi.registered id s hv pos).1
      · rw [monitor,if_neg fun h => first h.1]
        exact (hi.known notified id s hv (by omega)).2

theorem returnBuffer_inv {id : Int} {s : Camera3Stream} (hi : Inv w)
    (hv : w.client.streams.valueFor id=some s) (handle : Option Handle) :
    Inv (w.onStream id (s.returnBuffer handle).stream (s.returnBuffer handle).effects) := by
  cases s.returnBuffer_takes handle with
  | inl silent =>
    exact lend_inv hi hv (Or.inl silent)
      (fun _ lent => absurd (lent.2.2.1.symm.trans silent.2.2.1) (by omega)) rfl rfl rfl
  | inr taken =>
    obtain ⟨monitorId,status,pending,told⟩ := taken
    have monitor : (w.onStream id (s.returnBuffer handle).stream
        (s.returnBuffer handle).effects).monitor=
        if s.pendingBufferCount-1=0 ∧ s.isConfigureActive=false then
          w.monitor.changeStateToIdle s.monitorId else w.monitor := told w.monitor
    refine hi.replace hv ((s.returnBuffer handle).stream) rfl ?_
      (Or.inr (Or.inl ⟨monitorId,?_⟩)) ?_ ?_ (fun h => h)
    · rw [monitor]
      split_ifs
      · exact .changeState _ _ _
      · exact .refl _ _
    · intro pos
      rw [monitor]
      have keys := (hi.registered id s hv pos).1
      split_ifs
      · exact keys
      · exact keys
    · intro active
      rw [monitorId]
      apply hi.configuring id s hv
      simpa [Camera3Stream.isConfigureActive,status] using active
    · intro notified out
      rw [pending] at out
      rw [monitorId,monitor,if_neg fun h => by omega]
      exact hi.known notified id s hv (by omega)

theorem beginConfigure_inv {u : BufferUsage} {id : Int} {s : Camera3Stream} {todo : List Int}
    (hi : Inv w) (hv : w.client.streams.valueFor id=some s) (hph : w.phase=.beginning (id::todo))
    (he : w.client.state=.CONFIGURED → s.pendingBufferCount=0) (phase : ConfigurePhase) :
    Inv { w.onStream id (s.beginConfigure u).stream (s.beginConfigure u).effects with
      phase := phase } := by
  have busy : w.phase≠.done := by simp [hph]
  rcases s.beginConfigure_releases u with ⟨same,silent⟩|⟨neg,pending,told⟩
  · refine hi.replace hv ((s.beginConfigure u).stream) rfl ?_
      (Or.inr (Or.inl ⟨by rw [same],?_⟩)) (by rw [same]; exact hi.configuring id s hv) ?_
      (fun _ => busy)
    · show w.monitor.Keeps ((s.beginConfigure u).effects.foldl _ w.monitor) _
      rw [silent]
      exact .refl _ _
    · intro pos
      show _∈((s.beginConfigure u).effects.foldl _ w.monitor).monitorStates.keys
      rw [silent]
      exact (hi.registered id s hv pos).1
    · intro notified out
      rw [same] at out ⊢
      show _ ∧ ((s.beginConfigure u).effects.foldl _ w.monitor).KnownActive _
      rw [silent]
      exact hi.known notified id s hv out
  · refine hi.replace hv ((s.beginConfigure u).stream) rfl ?_ (Or.inl neg)
      (fun _ => neg) ?_ (fun _ => busy)
    · show w.monitor.Keeps ((s.beginConfigure u).effects.foldl _ w.monitor) _
      rw [told]
      split_ifs
      · exact .releaseMonitor _ _
      · exact .refl _ _
    · intro notified out
      rw [pending] at out
      have configured : w.client.state=.CONFIGURED := by
        rcases hi.locked busy with never|same
        · rcases notified with h|h
          · exact h
          · rw [never] at h
            cases h
        · exact same
      have none := he configured
      omega

/-- A stream that is being configured has nothing out that the monitor should know. -/
theorem Inv.configuring_empty {id : Int} {s : Camera3Stream} (hi : Inv w)
    (hv : w.client.streams.valueFor id=some s) (ha : s.isConfigureActive=true)
    (hn : w.Notified) : s.pendingBufferCount=0 := by
  by_contra out
  have known := hi.known hn id s hv (by omega)
  have neg := hi.configuring id s hv ha
  omega

theorem endStream_inv {u : BufferUsage} {id : Int} {s : Camera3Stream} (hi : Inv w)
    (hv : w.client.streams.valueFor id=some s) (ha : s.isConfigureActive=true) (added : Bool)
    (phase : ConfigurePhase) (hphase : phase≠.done → w.phase≠.done) :
    Inv { (w.endStream u id s added).2 with phase := phase } := by
  obtain ⟨monitorId,active,empty,told⟩ :=
    s.endConfigure_acquires u (w.monitor.acquireMonitor added).1 ha
  have monitor : ({ (w.endStream u id s added).2 with phase := phase } : IdleWorld M).monitor=
      (w.monitor.acquireMonitor added).2 := told _
  have failed : -ENOMEM<0 := by decide
  refine hi.replace hv ((s.endConfigure u (w.monitor.acquireMonitor added).1).stream) rfl
    ?_ ?_ ?_ ?_ hphase
  · rw [monitor]
    exact .acquireMonitor _ _ _
  · rw [monitor,monitorId]
    cases added with
    | false => exact Or.inl failed
    | true =>
      refine Or.inr (Or.inr ⟨rfl,?_,?_⟩)
      · exact (KeyedVector.mem_keys_add _ _ _ _).mpr (Or.inl rfl)
      · simp [Camera3Monitor.acquireMonitor]
  · rw [monitorId]
    exact active
  · intro notified out
    have none := empty (hi.configuring_empty hv ha notified)
    omega

theorem abortConfigure_inv {u : BufferUsage} {id : Int} {s : Camera3Stream} (hi : Inv w)
    (hv : w.client.streams.valueFor id=some s) (ha : s.isConfigureActive=true)
    (busy : w.phase≠.done) (phase : ConfigurePhase) :
    Inv { w.onStream id (s.abortConfigure u).stream (s.abortConfigure u).effects with
      phase := phase } := by
  obtain ⟨monitorId,inactive,pending,silent⟩ := s.abortConfigure_silent u ha
  have monitor : ({ w.onStream id (s.abortConfigure u).stream (s.abortConfigure u).effects with
      phase := phase } : IdleWorld M).monitor=w.monitor := by
    show (s.abortConfigure u).effects.foldl _ w.monitor=_
    rw [silent]
    rfl
  have neg := hi.configuring id s hv ha
  refine hi.replace hv ((s.abortConfigure u).stream) rfl ?_ (Or.inl (by omega)) ?_ ?_
    (fun _ => busy)
  · rw [monitor]
    exact .refl _ _
  · intro h
    rw [inactive] at h
    cases h
  · intro notified out
    have none := hi.configuring_empty hv ha notified
    omega

end Calls
end IdleWorld
end IotMedia.Camera

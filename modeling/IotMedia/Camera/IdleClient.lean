import IotMedia.Camera.IdleInvariant

namespace IotMedia.Camera

open IotMedia.Framework

namespace IdleWorld

variable {M : Type} {w w' : IdleWorld M}

/-- A stream comes without a monitor, or goes, perhaps to deleted_streams_. -/
theorem Inv.restream (hi : Inv w)
    (hvalue : ∀ id t,w'.client.streams.valueFor id=some t →
      t.monitorId<0 ∧ t.pendingBufferCount=0 ∨ w.client.streams.valueFor id=some t)
    (hdeleted : ∀ d∈w'.client.deletedStreams,d∈w.client.deletedStreams ∨
      ∃ key s,w.client.streams.valueFor key=some s ∧ d.monitorId=s.monitorId ∧
        w'.client.streams.valueFor key=none)
    (hhandler : w'.client.handler=w.client.handler) (hstate : w'.client.state=w.client.state)
    (hmonitor : w'.monitor=w.monitor) (hphase : w'.phase=w.phase) : Inv w' := by
  refine ⟨?_,?_,?_,?_,?_,?_,?_,?_,?_,?_⟩
  · intro id t ht pos
    rw [hmonitor,hhandler]
    cases hvalue id t ht with
    | inl bare => omega
    | inr old => exact hi.registered id t old pos
  · intro id other s t hne hs ht pos
    cases hvalue id s hs with
    | inl bare => omega
    | inr old =>
      cases hvalue other t ht with
      | inl bare => omega
      | inr old' => exact hi.distinct id other s t hne old old' pos
  · intro d hd pos
    rw [hmonitor,hhandler]
    rcases hdeleted d hd with old|⟨key,s,hs,same,gone⟩
    · obtain ⟨bound,apart,others⟩ := hi.deleted d old pos
      refine ⟨bound,apart,?_⟩
      intro id t ht
      cases hvalue id t ht with
      | inl bare => omega
      | inr old => exact others id t old
    · rw [same] at pos ⊢
      obtain ⟨-,bound,apart⟩ := hi.registered key s hs pos
      refine ⟨bound,apart,?_⟩
      intro id t ht
      have hne : key≠id := by
        intro equal
        rw [equal,ht] at gone
        cases gone
      cases hvalue id t ht with
      | inl bare => omega
      | inr old => exact hi.distinct key id s t hne hs old pos
  · intro id t ht active
    cases hvalue id t ht with
    | inl bare => exact bare.1
    | inr old => exact hi.configuring id t old active
  · rw [hmonitor,hhandler]
    exact hi.handler
  · rw [hmonitor,hhandler]
    exact hi.handlerKnown
  · intro hn id t ht out
    rw [hmonitor]
    rw [Notified,hstate] at hn
    cases hvalue id t ht with
    | inl bare => omega
    | inr old => exact hi.known hn id t old out
  · rw [hmonitor]
    exact hi.composed
  · rw [hmonitor,hstate]
    exact hi.told
  · rw [hphase,hstate]
    exact hi.locked

/-- The monitor is that of the handler or of a stream. -/
def Uses (w : IdleWorld M) (id : Int) : Prop :=
  id=w.client.handler.monitorId ∨
    ∃ key s,w.client.streams.valueFor key=some s ∧ 0 ≤ s.monitorId ∧ s.monitorId=id

/-- Streams and handler keep their monitors; the client's state and what it was told change. -/
theorem Inv.retell (hi : Inv w) (hstreams : w'.client.streams=w.client.streams)
    (hdeleted : ∀ d∈w'.client.deletedStreams,d∈w.client.deletedStreams)
    (hid : w'.client.handler.monitorId=w.client.handler.monitorId)
    (hpaused : w'.client.handler.pausedState=w.client.handler.pausedState)
    (hkeys : ∀ id,w.Uses id → id∈w.monitor.monitorStates.keys → id∈w'.monitor.monitorStates.keys)
    (hactive : ∀ id,w.Uses id → w.monitor.KnownActive id → w'.monitor.KnownActive id)
    (hnext : w'.monitor.nextMonitor=w.monitor.nextMonitor) (hcomposed : w'.monitor.Composed)
    (hknown : w'.Notified → ∀ id s,w.client.streams.valueFor id=some s → w.Known s)
    (htold : w'.monitor.updatedStates=[] → w'.monitor.compositeState=.ACTIVE →
      w'.client.state≠.CONFIGURED)
    (hlocked : w'.phase≠.done → w'.client.state=.NOT_CONFIGURED ∨ w'.client.state=.CONFIGURED) :
    Inv w' := by
  have own : w.Uses w.client.handler.monitorId := Or.inl rfl
  refine ⟨?_,?_,?_,?_,?_,?_,?_,hcomposed,htold,hlocked⟩
  · intro id s hv pos
    rw [hstreams] at hv
    obtain ⟨keys,bound,apart⟩ := hi.registered id s hv pos
    exact ⟨hkeys _ (Or.inr ⟨id,s,hv,pos,rfl⟩) keys,by omega,by rw [hid]; exact apart⟩
  · rw [hstreams]
    exact hi.distinct
  · intro d hd pos
    obtain ⟨bound,apart,others⟩ := hi.deleted d (hdeleted d hd) pos
    exact ⟨by omega,by rw [hid]; exact apart,by rw [hstreams]; exact others⟩
  · rw [hstreams]
    exact hi.configuring
  · rw [hid,hnext]
    exact ⟨hi.handler.1,hkeys _ own hi.handler.2.1,hi.handler.2.2⟩
  · rw [hid,hpaused]
    intro h
    exact hactive _ own (hi.handlerKnown h)
  · intro hn id s hv out
    rw [hstreams] at hv
    obtain ⟨pos,active⟩ := hknown hn id s hv out
    exact ⟨pos,hactive _ (Or.inr ⟨id,s,hv,pos,rfl⟩) active⟩

/-- A step of ConfigureStreamsLocked that only goes on. -/
theorem phase_inv (hi : Inv w) {phase : ConfigurePhase}
    (hlocked : phase≠.done → w.client.state=.NOT_CONFIGURED ∨ w.client.state=.CONFIGURED) :
    Inv { w with phase := phase } :=
  hi.retell rfl (fun _ h => h) rfl rfl (fun _ _ h => h) (fun _ _ h => h) rfl hi.composed hi.known
    hi.told hlocked

theorem threadLoop_inv (hi : Inv w) (hu : w.monitor.updatedStates=[]) :
    Inv { w with monitor := w.monitor.threadLoop } := by
  refine hi.retell rfl (fun _ h => h) rfl rfl
    (fun _ _ h => Camera3Monitor.threadLoop_keys.mpr h)
    (fun _ _ h => Camera3Monitor.threadLoop_known.mpr h) rfl
    (Camera3Monitor.threadLoop_composed hu) hi.known ?_ hi.locked
  intro silent active
  apply hi.told hu
  rw [← Camera3Monitor.threadLoop_silent silent]
  exact active

theorem notifyStatus_state (c : DeviceClient M) (idle : Bool) :
    (c.notifyStatus idle).1={ c with state :=
      if c.state=.RUNNING ∨ c.state=.CONFIGURED then
        (if idle then .CONFIGURED else .RUNNING) else c.state } := by
  unfold DeviceClient.notifyStatus
  by_cases h : c.state≠.RUNNING ∧ c.state≠.CONFIGURED
  · have neither : ¬(c.state=.RUNNING ∨ c.state=.CONFIGURED) := not_or.mpr h
    rw [if_pos h,if_neg neither]
  · have listens : c.state=.RUNNING ∨ c.state=.CONFIGURED := by
      by_contra neither
      exact h (not_or.mp neither)
    rw [if_neg h,if_pos listens]
    rfl

theorem notify_inv (hi : Inv w) (hd : w.phase=.done) {idle : Bool} {next : Camera3Monitor}
    (h : w.monitor.notify=some (idle,next)) :
    Inv { w with client := (w.client.notifyStatus idle).1,monitor := next } := by
  have same : next.inputQueue=w.monitor.inputQueue ∧
      next.monitorStates=w.monitor.monitorStates ∧ next.nextMonitor=w.monitor.nextMonitor := by
    unfold Camera3Monitor.notify at h
    cases hu : w.monitor.updatedStates with
    | nil => simp [hu] at h
    | cons state rest =>
      simp only [hu,Option.some.injEq,Prod.mk.injEq] at h
      rw [← h.2]
      exact ⟨rfl,rfl,rfl⟩
  rw [notifyStatus_state]
  refine hi.retell rfl (fun _ h => h) rfl rfl ?_ ?_ same.2.2
    (Camera3Monitor.notify_composed hi.composed h) ?_ ?_ (fun busy => absurd hd busy)
  · intro id _ keys
    rw [same.2.1]
    exact keys
  · intro id _ active
    unfold Camera3Monitor.KnownActive
    rw [same.1,same.2.1]
    exact active
  · intro notified
    apply hi.known
    by_contra other
    have neither : ¬(w.client.state=.RUNNING ∨ w.client.state=.CONFIGURED) :=
      fun h => other h.symm
    rw [Notified] at notified
    dsimp only at notified
    rw [if_neg neither] at notified
    exact other notified
  · intro silent active
    have told := (Camera3Monitor.notify_last hi.composed h silent).mp active
    dsimp only
    rw [told]
    by_cases listens : w.client.state=.RUNNING ∨ w.client.state=.CONFIGURED
    · rw [if_pos listens]
      exact State.noConfusion
    · rw [if_neg listens]
      exact fun same => listens (Or.inr same)

theorem setErrorState_inv (hi : Inv w) (hd : w.phase=.done) :
    Inv { w with client := w.client.setErrorStateLocked.1 } := by
  unfold DeviceClient.setErrorStateLocked
  split_ifs
  · exact hi
  all_goals
    refine hi.retell rfl (fun _ h => h) rfl rfl (fun _ _ h => h) (fun _ _ h => h) rfl hi.composed
      ?_ (fun _ _ => State.noConfusion) (fun busy => absurd hd busy)
    intro notified
    cases notified with
    | inl same => cases same
    | inr same => cases same

/-- Nothing but the monitors of the streams themselves is released. -/
theorem releaseAll_other (m : Camera3Monitor) (streams : List Camera3Stream) (id : Int)
    (hne : ∀ d∈streams,0≤d.monitorId → id≠d.monitorId) :
    (id∈m.monitorStates.keys → id∈(m.releaseAll streams).monitorStates.keys) ∧
    (m.KnownActive id → (m.releaseAll streams).KnownActive id) := by
  induction streams generalizing m with
  | nil => exact ⟨fun h => h,fun h => h⟩
  | cons d ds ih =>
    have rest := fun m => ih m fun e he => hne e (List.mem_cons_of_mem _ he)
    unfold Camera3Monitor.releaseAll at rest ⊢
    rw [List.foldl_cons,d.destroyed_releases]
    by_cases pos : 0≤d.monitorId
    · have apart := hne d List.mem_cons_self pos
      have one := Camera3Monitor.Keeps.releaseMonitor m d.monitorId
      rw [if_pos pos]
      obtain ⟨keys,known⟩ := rest (m.releaseMonitor d.monitorId)
      exact ⟨fun h => keys (one.keys id apart h),
        fun h => known ((Camera3Monitor.releaseMonitor_other apart).mpr h)⟩
    · rw [if_neg pos]
      exact rest m

theorem releaseAll_keeps (m : Camera3Monitor) (streams : List Camera3Stream) :
    (m.releaseAll streams).nextMonitor=m.nextMonitor ∧
    (m.releaseAll streams).updatedStates=m.updatedStates ∧
    (m.releaseAll streams).compositeState=m.compositeState ∧
    (m.Composed → (m.releaseAll streams).Composed) := by
  induction streams generalizing m with
  | nil => exact ⟨rfl,rfl,rfl,fun h => h⟩
  | cons d ds ih =>
    unfold Camera3Monitor.releaseAll at ih ⊢
    rw [List.foldl_cons,d.destroyed_releases]
    split_ifs
    · obtain ⟨next,updated,composite,composed⟩ := ih (m.releaseMonitor d.monitorId)
      exact ⟨next,updated,composite,
        fun h => composed (Camera3Monitor.releaseMonitor_composed h d.monitorId)⟩
    · exact ih m

theorem finishConfigure_inv (hi : Inv w) (hph : w.phase=.ending [])
    (he : w.client.state=.NOT_CONFIGURED →
      (w.monitor.compositeState=.IDLE ∨ w.monitor.updatedStates≠[]) ∧
        ∀ id s,w.client.streams.valueFor id=some s → w.Known s) :
    Inv { w with
      client := { w.client.internalUpdateStatusLocked .CONFIGURED with
        handler := w.client.handler.finishConfiguration w.client.batchSize
        reconfig := false
        frameNumber := 0
        deletedStreams := [] }
      monitor := w.monitor.releaseAll w.client.deletedStreams
      phase := .done } := by
  have busy : w.phase≠.done := by simp [hph]
  have apart : ∀ id,w.Uses id → ∀ d∈w.client.deletedStreams,0≤d.monitorId → id≠d.monitorId := by
    intro id hu d hd pos
    obtain ⟨-,own,others⟩ := hi.deleted d hd pos
    rcases hu with rfl|⟨key,s,hs,-,rfl⟩
    · exact own.symm
    · exact (others key s hs).symm
  obtain ⟨next,updated,composite,composed⟩ :=
    releaseAll_keeps w.monitor w.client.deletedStreams
  refine hi.retell rfl (fun _ h => by cases h) rfl rfl
    (fun id hu => (releaseAll_other _ _ id (apart id hu)).1)
    (fun id hu => (releaseAll_other _ _ id (apart id hu)).2) next (composed hi.composed)
    ?_ ?_ (fun h => absurd rfl h)
  · intro _
    cases hi.locked busy with
    | inl never => exact (he never).2
    | inr configured => exact hi.known (Or.inl configured)
  · intro delivered active
    dsimp only at delivered active
    rw [updated] at delivered
    rw [composite] at active
    cases hi.locked busy with
    | inl never =>
      cases (he never).1 with
      | inl idle =>
        rw [idle] at active
        cases active
      | inr pending => exact absurd delivered pending
    | inr configured => exact absurd configured (hi.told delivered active)

theorem abortDone_inv (hi : Inv w) : Inv { w with
    client := { w.client.internalUpdateStatusLocked .NOT_CONFIGURED with reconfig := true }
    phase := .done } := by
  refine hi.retell rfl (fun _ h => h) rfl rfl (fun _ _ h => h) (fun _ _ h => h) rfl hi.composed
    ?_ (fun _ _ => State.noConfusion) (fun h => absurd rfl h)
  intro notified
  cases notified with
  | inl same => cases same
  | inr same => cases same

theorem createStream_inv (u : BufferUsage) (hi : Inv w) (params : CameraStreamParameters)
    (counted : Bool) : Inv { w with
      client := if counted then { w.client.withStream u params with
        nextStreamId := (w.client.withStream u params).nextStreamId+1 }
        else w.client.withStream u params } := by
  have value : ∀ id t,(w.client.withStream u params).streams.valueFor id=some t →
      t.monitorId<0 ∧ t.pendingBufferCount=0 ∨ w.client.streams.valueFor id=some t := by
    intro id t ht
    rw [DeviceClient.withStream,KeyedVector.valueFor_add] at ht
    split_ifs at ht with new
    · have bare : INVALID_ID<0 := by decide
      cases Option.some.inj ht
      exact Or.inl ⟨bare,rfl⟩
    · exact Or.inr ht
  cases counted with
  | true => exact hi.restream value (fun _ h => Or.inl h) rfl rfl rfl rfl
  | false => exact hi.restream value (fun _ h => Or.inl h) rfl rfl rfl rfl

theorem deleteStream_inv (hi : Inv w) {id : Int} {s : Camera3Stream}
    (hv : w.client.streams.valueFor id=some s) (cache : Bool) :
    Inv { w with client := w.client.withoutStream s id cache } := by
  refine hi.restream ?_ ?_ rfl rfl rfl rfl
  · intro other t ht
    rw [DeviceClient.withoutStream,KeyedVector.valueFor_removeItem] at ht
    split_ifs at ht
    exact Or.inr ht
  · intro d hd
    dsimp only at hd
    cases cache with
    | false => exact Or.inl hd
    | true =>
      rcases List.mem_append.mp hd with old|new
      · exact Or.inl old
      · have same : d=s.close.stream := List.mem_singleton.mp new
        rw [same]
        exact Or.inr ⟨id,s,hv,s.closeLocked_silent.1,by simp [DeviceClient.withoutStream]⟩

end IdleWorld
end IotMedia.Camera

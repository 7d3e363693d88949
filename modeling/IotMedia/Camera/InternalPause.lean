import IotMedia.Camera.DeviceClient

namespace IotMedia.Camera

open IotMedia.Framework

/-- The calls that pause the handler internally. -/
inductive ClientCall
  | createStream (outputConfiguration : CameraStreamParameters) (callback : Bool)
  | createInputStream (inputConfiguration : CameraInputStreamParameters)
  | deleteStream (streamId : Int) (cache : Bool)

namespace DeviceClient

variable {M : Type}

def perform (u : BufferUsage) (c : DeviceClient M) (env : ClientEnv M) :
    ClientCall → ClientResult M
  | .createStream p callback => createStream u c env p callback
  | .createInputStream p => createInputStream u c env p
  | .deleteStream id cache => deleteStream u c env id cache

/-- Neither the handler is paused nor the notifications are held back. -/
def Undone (c : DeviceClient M) : Prop :=
  c.handler.togglePauseState=false ∧ c.pauseStateNotify=false

/-- A device that has not failed is as unpaused as before the call. -/
def PauseUndone (c : DeviceClient M) : Prop := c.state≠.ERROR → c.Undone

/-- The call gets to InternalPauseAndWaitLocked. -/
def Pauses (c : DeviceClient M) : ClientCall → Prop
  | .createStream _ callback => callback=true ∧ c.state=.RUNNING
  | .createInputStream p => p.callbacks=true ∧ c.inputStream.streamId<0 ∧ c.state=.RUNNING
  | .deleteStream _ cache => cache=false ∧
    (c.state=.NOT_CONFIGURED ∨ c.state=.CONFIGURED ∨ c.state=.RUNNING)

/-- The client at the end of the idle wait, and the result of the wait. -/
def idled (c : DeviceClient M) (env : ClientEnv M) : Int × DeviceClient M :=
  ({ c with handler := (c.handler.togglePause true).1,pauseStateNotify := true } :
    DeviceClient M).waitUntilStateThenRelock false env.idle

/-- The stream goes through BeginConfigure and EndConfigure. -/
def Configures (u : BufferUsage) (acquired : Int) (s : Camera3Stream) : Prop :=
  (s.beginConfigure u).ret.isSome ∧
    ((s.beginConfigure u).stream.endConfigure u acquired).ret=0

/-- A reconfiguration of these streams succeeds. -/
def Reconfigures (u : BufferUsage) (env : ClientEnv M) (c : DeviceClient M) : Prop :=
  (c.state=.NOT_CONFIGURED ∨ c.state=.CONFIGURED) ∧ env.configured=true ∧
    ∀ id s,c.streams.valueFor id=some s → Configures u (env.acquired id) s

/-- From the idle client on no exit comes before InternalResumeLocked. -/
def Resumes (u : BufferUsage) (env : ClientEnv M) (c : DeviceClient M) : ClientCall → Prop
  | .createStream p _ =>
    (p.format=.BLOB → 0 < c.blobBufferSize p) ∧
      0≤env.added ∧ Reconfigures u env (withStream u c p)
  | .createInputStream _ => Reconfigures u env c
  | .deleteStream id _ => id≠c.inputStream.streamId ∧ ∃ s,c.streams.valueFor id=some s ∧
    c.handler.isStreamActive s.id=false ∧ ((c.streams.removeItem id).items=[] ∨
      Reconfigures u env { c with streams := c.streams.removeItem id })

/-- A request waits or repeats. -/
def RequestPending (c : DeviceClient M) : Prop :=
  c.handler.requests≠[] ∨ c.handler.streamingRequests≠[]

/-- The call does not pause; or its idle wait fails, so that the device fails; or it gets to
InternalResumeLocked with a request pending. -/
def Undoes (u : BufferUsage) (c : DeviceClient M) (env : ClientEnv M) (call : ClientCall) : Prop :=
  c.Pauses call →
    (c.idled env).1≠0 ∧ (c.idled env).2.state≠.NOT_INITIALIZED ∧ (c.idled env).2.state≠.CLOSED ∨
    (c.idled env).1=0 ∧ ((c.idled env).2.state=.ERROR ∨
      Resumes u env (c.idled env).2 call ∧ (c.idled env).2.RequestPending)

variable {u : BufferUsage} {env : ClientEnv M} {c : DeviceClient M}

section Reconfigure

theorem beginStream_ok (id : Int) (s : Camera3Stream) :
    (beginStream u id s).1=0 ↔ (s.beginConfigure u).ret.isSome := by
  unfold beginStream
  cases h : (s.beginConfigure u).ret with
  | none => simp [h,ENOSYS]
  | some d => simp [h]

/-- A stream whose BeginConfigure succeeds is being configured. -/
theorem beginConfigure_active {s : Camera3Stream} (h : (s.beginConfigure u).ret.isSome) :
    (s.beginConfigure u).stream.isConfigureActive=true := by
  cases hs : s.status <;> simp [Camera3Stream.beginConfigure,hs,Camera3Stream.isConfigureActive] at h ⊢

/-- Behind a first round that went through, the second one does so if every stream does. -/
theorem endStreams_ok {streams : KeyedVector Int Camera3Stream} (acquired : Int → Int)
    (hb : (streams.tryEach (beginStream u)).1=0) :
    ((streams.tryEach (beginStream u)).2.1.tryEach (endStream u acquired)).1=0 ↔
      ∀ id s,streams.valueFor id=some s → Configures u (acquired id) s := by
  have begun := (streams.tryEach_ok (beginStream u)).mp hb
  rw [KeyedVector.tryEach_ok]
  constructor
  · intro all id s hv
    have first : (s.beginConfigure u).ret.isSome := (beginStream_ok id s).mp (begun id s hv)
    have active := beginConfigure_active first
    have value : (streams.tryEach (beginStream u)).2.1.valueFor id=
        some (s.beginConfigure u).stream := by
      rw [KeyedVector.tryEach_valueFor _ _ hb,hv]
      rfl
    have last := all id _ value
    rw [endStream,if_pos active] at last
    exact ⟨first,last⟩
  · intro all id t hv
    rw [KeyedVector.tryEach_valueFor _ _ hb] at hv
    obtain ⟨s,hs,rfl⟩ := Option.map_eq_some_iff.mp hv
    obtain ⟨first,last⟩ := all id s hs
    show (endStream u acquired id (s.beginConfigure u).stream).1=0
    rw [endStream,if_pos (beginConfigure_active first)]
    exact last

/-- A requested reconfiguration succeeds when the HAL accepts it and every stream goes through. -/
theorem configure_ok (u : BufferUsage) (env : ClientEnv M) (hr : c.reconfig=true) :
    (configureStreamsLocked u c env).ret=0 ↔ Reconfigures u env c := by
  have nosys : -ENOSYS≠0 := by decide
  have inval : -EINVAL≠0 := by decide
  unfold configureStreamsLocked Reconfigures
  by_cases hs : c.state≠.NOT_CONFIGURED ∧ c.state≠.CONFIGURED
  · rw [if_pos hs]
    constructor
    · intro h
      exact absurd h nosys
    · intro h
      cases h.1 with
      | inl same => exact absurd same hs.1
      | inr same => exact absurd same hs.2
  have configurable : c.state=.NOT_CONFIGURED ∨ c.state=.CONFIGURED := by
    by_contra hn
    exact hs (not_or.mp hn)
  rw [if_neg hs,if_neg (by simp [hr])]
  dsimp only
  by_cases hb : (c.streams.tryEach (beginStream u)).1=0
  · rw [if_neg (not_not.mpr hb)]
    by_cases hc : env.configured=false
    · rw [if_pos hc]
      constructor
      · intro h
        split_ifs at h with ha
        · exact absurd h ha
        · exact absurd h inval
      · intro h
        simp [hc] at h
    rw [if_neg hc]
    have each := endStreams_ok env.acquired hb
    split_ifs with he
    · constructor
      · intro h
        exact absurd h he
      · intro h
        exact absurd (each.mpr h.2.2) he
    · have fine := each.mp (not_not.mp he)
      exact ⟨fun _ => ⟨configurable,by simpa using hc,fine⟩,fun _ => rfl⟩
  · rw [if_pos hb]
    constructor
    · intro h
      exact absurd h nosys
    · intro h
      refine absurd ((c.streams.tryEach_ok (beginStream u)).mpr ?_) hb
      intro id s hv
      exact (beginStream_ok id s).mpr (h.2.2 id s hv).1

/-- A configuration leaves the pause and the queues alone, and neither breaks nor mends the
device. -/
theorem configure_flags (u : BufferUsage) (c : DeviceClient M) (env : ClientEnv M) :
    (configureStreamsLocked u c env).client.handler.togglePauseState=
      c.handler.togglePauseState ∧
    (configureStreamsLocked u c env).client.pauseStateNotify=c.pauseStateNotify ∧
    (configureStreamsLocked u c env).client.handler.requests=c.handler.requests ∧
    (configureStreamsLocked u c env).client.handler.streamingRequests=
      c.handler.streamingRequests ∧
    ((configureStreamsLocked u c env).client.state=.ERROR ↔ c.state=.ERROR) := by
  unfold configureStreamsLocked
  by_cases hs : c.state≠.NOT_CONFIGURED ∧ c.state≠.CONFIGURED
  · rw [if_pos hs]
    exact ⟨rfl,rfl,rfl,rfl,Iff.rfl⟩
  have sound : c.state≠.ERROR := by
    intro h
    exact hs ⟨by rw [h]; decide,by rw [h]; decide⟩
  rw [if_neg hs]
  dsimp only
  split_ifs
  all_goals
    refine ⟨rfl,rfl,rfl,rfl,?_⟩
    simp [internalUpdateStatusLocked,sound]

end Reconfigure

section Resume

theorem togglePause_pending (h : RequestHandler M) (pause : Bool) :
    (h.togglePause pause).2=false ↔ h.requests=[] ∧ h.streamingRequests=[] := by
  simp [RequestHandler.togglePause]

theorem setErrorState_error (c : DeviceClient M) :
    c.setErrorStateLocked.1.state=.ERROR ∨ c.setErrorStateLocked.1=c ∧
      (c.state=.NOT_INITIALIZED ∨ c.state=.CLOSED) := by
  unfold setErrorStateLocked
  split_ifs with h
  · rcases h with h|h
    · exact Or.inl h
    · exact Or.inr ⟨rfl,h⟩
  all_goals exact Or.inl rfl

/-- With a request pending the pause is undone, or the device fails. -/
theorem resume_pending (hp : c.RequestPending) :
    (c.internalResumeLocked env).client.PauseUndone := by
  have pending : ¬(c.handler.togglePause false).2=false := by
    rw [togglePause_pending]
    intro h
    cases hp with
    | inl some => exact some h.1
    | inr some => exact some h.2
  unfold internalResumeLocked
  rw [if_neg pending]
  dsimp only
  generalize hw : waitUntilStateThenRelock _ true env.running=waited
  have unpaused : waited.2.handler.togglePauseState=false := by
    rw [← hw]
    unfold waitUntilStateThenRelock
    split_ifs <;> rfl
  by_cases ok : waited.1=0
  · rw [if_neg (not_not.mpr ok)]
    exact fun _ => ⟨unpaused,rfl⟩
  · rw [if_pos ok]
    intro sound
    cases setErrorState_error waited.2 with
    | inl failed => exact absurd failed sound
    | inr kept => exact ⟨by rw [kept.1]; exact unpaused,rfl⟩

/-- With none pending the notifications stay held back. -/
theorem resume_idle (hp : ¬c.RequestPending) (hn : c.pauseStateNotify=true) :
    (c.internalResumeLocked env).client.PauseUndone ↔ c.state=.ERROR := by
  have idle : (c.handler.togglePause false).2=false := by
    rw [togglePause_pending]
    simpa [RequestPending] using hp
  have kept : (c.internalResumeLocked env).client=
      { c with handler := (c.handler.togglePause false).1 } := by
    rw [internalResumeLocked,if_pos idle]
  rw [kept]
  constructor
  · intro h
    by_contra sound
    have undone := (h sound).2
    simp [hn] at undone
  · intro failed sound
    exact absurd failed sound

theorem resume_undone (env : ClientEnv M) (hn : c.pauseStateNotify=true) :
    (c.internalResumeLocked env).client.PauseUndone ↔ c.state=.ERROR ∨ c.RequestPending := by
  by_cases hp : c.RequestPending
  · exact ⟨fun _ => Or.inr hp,fun _ => resume_pending hp⟩
  · rw [resume_idle hp hn]
    simp [hp]

/-- An exit on the way leaves a sound device paused. -/
theorem paused_undone (ht : c.handler.togglePauseState=true) :
    c.PauseUndone ↔ c.state=.ERROR := by
  constructor
  · intro h
    by_contra sound
    have undone := (h sound).1
    simp [ht] at undone
  · intro failed sound
    exact absurd failed sound

/-- The end that the calls share undoes the pause if it gets there with a request pending. -/
theorem reconfigured_undone (env : ClientEnv M) (hr : c.reconfig=true)
    (ht : c.handler.togglePauseState=true) (hn : c.pauseStateNotify=true) :
    (reconfigureAndResume u c env).client.PauseUndone ↔
      c.state=.ERROR ∨ Reconfigures u env c ∧ c.RequestPending := by
  obtain ⟨toggle,notify,requests,streaming,error⟩ := configure_flags u c env
  unfold reconfigureAndResume
  by_cases ok : (configureStreamsLocked u c env).ret=0
  · have reconfigures := (configure_ok u env hr).mp ok
    have pending : (configureStreamsLocked u c env).client.RequestPending ↔ c.RequestPending := by
      unfold RequestPending
      rw [requests,streaming]
    rw [if_neg (not_not.mpr ok),resume_undone env (notify.trans hn),error,pending]
    simp [reconfigures]
  · have broken : ¬Reconfigures u env c := fun h => ok ((configure_ok u env hr).mpr h)
    rw [if_pos ok,paused_undone (toggle.trans ht),error]
    simp [broken]

end Resume

section Calls

theorem idled_flags (c : DeviceClient M) (env : ClientEnv M) :
    (c.idled env).2.handler.togglePauseState=true ∧ (c.idled env).2.pauseStateNotify=true := by
  unfold idled waitUntilStateThenRelock
  split_ifs <;> exact ⟨rfl,rfl⟩

/-- The pause ends where its wait does, and breaks the device if that failed. -/
theorem pause_idled (c : DeviceClient M) (env : ClientEnv M) :
    (c.internalPauseAndWaitLocked env).ret=(c.idled env).1 ∧
    ((c.idled env).1=0 → (c.internalPauseAndWaitLocked env).client=(c.idled env).2) ∧
    ((c.idled env).1≠0 →
      (c.internalPauseAndWaitLocked env).client=(c.idled env).2.setErrorStateLocked.1) := by
  have same : c.internalPauseAndWaitLocked env=
      if (c.idled env).1≠0 then ⟨(c.idled env).1,(c.idled env).2.setErrorStateLocked.1,
        (c.idled env).2.setErrorStateLocked.2⟩ else ⟨(c.idled env).1,(c.idled env).2,[]⟩ := rfl
  rw [same]
  split_ifs with h
  · exact ⟨rfl,fun ok => absurd ok h,fun _ => rfl⟩
  · exact ⟨rfl,fun _ => rfl,fun bad => absurd bad h⟩

/-- Where the idle wait failed the device fails, unless it was closed meanwhile. -/
theorem failed_undone (hw : (c.idled env).1≠0) :
    (c.internalPauseAndWaitLocked env).client.setErrorStateLocked.1.PauseUndone ↔
      (c.idled env).2.state≠.NOT_INITIALIZED ∧ (c.idled env).2.state≠.CLOSED := by
  have flags := c.idled_flags env
  rw [(c.pause_idled env).2.2 hw]
  by_cases hs : (c.idled env).2.state=.NOT_INITIALIZED ∨ (c.idled env).2.state=.CLOSED
  · have kept : (c.idled env).2.setErrorStateLocked.1=(c.idled env).2 := by
      rw [setErrorStateLocked,if_pos (Or.inr hs)]
    have sound : (c.idled env).2.state≠.ERROR := by
      intro h
      rcases hs with same|same
      · cases h.symm.trans same
      · cases h.symm.trans same
    rw [kept,kept,paused_undone flags.1]
    constructor
    · intro failed
      exact absurd failed sound
    · intro h
      cases hs with
      | inl same => exact absurd same h.1
      | inr same => exact absurd same h.2
  · have failed : (c.idled env).2.setErrorStateLocked.1.state=.ERROR := by
      cases setErrorState_error (c.idled env).2 with
      | inl failed => exact failed
      | inr kept => exact absurd kept.2 hs
    have again : (c.idled env).2.setErrorStateLocked.1.setErrorStateLocked.1=
        (c.idled env).2.setErrorStateLocked.1 := by
      generalize (c.idled env).2.setErrorStateLocked.1=d at failed
      rw [setErrorStateLocked,if_pos (Or.inl failed)]
    rw [again]
    constructor
    · intro _
      exact not_or.mp hs
    · intro _ sound
      exact absurd failed sound

/-- A call that pauses undoes it when its idle wait fails for good, or when what follows does. -/
theorem paused_call (call : ClientCall) (hp : c.Pauses call) {failed done : DeviceClient M}
    (hf : failed=(c.internalPauseAndWaitLocked env).client.setErrorStateLocked.1)
    (hd : (c.idled env).1=0 → (done.PauseUndone ↔ (c.idled env).2.state=.ERROR ∨
      Resumes u env (c.idled env).2 call ∧ (c.idled env).2.RequestPending)) :
    (if (c.internalPauseAndWaitLocked env).ret≠0 then failed else done).PauseUndone ↔
      c.Undoes u env call := by
  unfold Undoes
  rw [(c.pause_idled env).1]
  by_cases hw : (c.idled env).1=0
  · rw [if_neg (not_not.mpr hw),hd hw]
    simp [hw,hp]
  · rw [if_pos hw,hf,failed_undone hw]
    simp [hw,hp]

/-- What a call does without a pause cannot leave one. -/
theorem unpaused_call (call : ClientCall) (hp : ¬c.Pauses call) {done : DeviceClient M}
    (hd : done.PauseUndone) : done.PauseUndone ↔ c.Undoes u env call :=
  ⟨fun _ h => absurd h hp,fun _ => hd⟩

theorem addStream_undone (ht : c.handler.togglePauseState=true) (hn : c.pauseStateNotify=true)
    (p : CameraStreamParameters) (callback : Bool) (before : List ClientEffect) :
    (addStream u c env p true before).client.PauseUndone ↔ c.state=.ERROR ∨
      Resumes u env c (.createStream p callback) ∧ c.RequestPending := by
  have exit : ¬Resumes u env c (.createStream p callback) → (c.PauseUndone ↔ c.state=.ERROR ∨
      Resumes u env c (.createStream p callback) ∧ c.RequestPending) := by
    intro hr
    rw [paused_undone ht]
    simp [hr]
  unfold addStream
  by_cases hb : p.format=.BLOB ∧ c.blobBufferSize p≤0
  · rw [if_pos hb]
    exact exit fun h => absurd (h.1 hb.1) (not_lt.mpr hb.2)
  rw [if_neg hb]
  by_cases ha : env.added<0
  · rw [if_pos ha]
    exact exit fun h => absurd h.2.1 (not_le.mpr ha)
  rw [if_neg ha]
  have sized : p.format=.BLOB → 0 < c.blobBufferSize p := fun h => not_le.mp fun hz => hb ⟨h,hz⟩
  have continued := reconfigured_undone (u := u) (c := withStream u c p) env rfl ht hn
  have resumes : Resumes u env c (.createStream p callback) ↔
      Reconfigures u env (withStream u c p) :=
    ⟨fun h => h.2.2,fun h => ⟨sized,not_lt.mp ha,h⟩⟩
  rw [resumes]
  dsimp only
  rw [if_pos rfl]
  split_ifs
  · exact continued
  · exact continued

theorem addInputStream_undone (ht : c.handler.togglePauseState=true)
    (hn : c.pauseStateNotify=true) (p : CameraInputStreamParameters)
    (before : List ClientEffect) :
    (addInputStream u c env p true before).client.PauseUndone ↔ c.state=.ERROR ∨
      Resumes u env c (.createInputStream p) ∧ c.RequestPending :=
  reconfigured_undone (u := u) (c := { c with
    reconfig := true
    inputStream := ⟨c.nextStreamId,p.width,p.height,p.format⟩
    nextStreamId := c.nextStreamId+1 }) env rfl ht hn

theorem dropStream_undone (ht : c.handler.togglePauseState=true) (hn : c.pauseStateNotify=true)
    (id : Int) (before : List ClientEffect) :
    (dropStream u c env id false before).client.PauseUndone ↔ c.state=.ERROR ∨
      Resumes u env c (.deleteStream id false) ∧ c.RequestPending := by
  have exit : ∀ d : DeviceClient M,d.handler=c.handler → d.state=c.state →
      ¬Resumes u env c (.deleteStream id false) → (d.PauseUndone ↔ c.state=.ERROR ∨
        Resumes u env c (.deleteStream id false) ∧ c.RequestPending) := by
    intro d hh hst hr
    rw [paused_undone (by rw [hh]; exact ht),hst]
    simp [hr]
  unfold dropStream
  by_cases hi : id=c.inputStream.streamId
  · rw [if_pos hi]
    exact exit _ rfl rfl fun h => h.1 hi
  rw [if_neg hi]
  cases hv : c.streams.valueFor id with
  | none =>
    refine exit _ rfl rfl fun h => ?_
    obtain ⟨s,found,-⟩ := h.2
    simp [hv] at found
  | some s =>
    dsimp only
    by_cases hactive : c.handler.isStreamActive s.id=true
    · rw [if_pos hactive]
      refine exit _ rfl rfl fun h => ?_
      obtain ⟨t,found,idle,-⟩ := h.2
      rw [hv] at found
      cases found
      simp [hactive] at idle
    rw [if_neg hactive]
    have reached : Resumes u env c (.deleteStream id false) ↔
        (c.streams.removeItem id).items=[] ∨
          Reconfigures u env { c with streams := c.streams.removeItem id } := by
      constructor
      · intro h
        obtain ⟨t,-,-,last⟩ := h.2
        exact last
      · intro h
        exact ⟨hi,s,hv,by simpa using hactive,h⟩
    rw [reached]
    unfold removeStream
    dsimp only
    rw [if_neg (by simp)]
    by_cases hempty : (c.streams.removeItem id).items=[]
    · have last : (c.withoutStream s id false).streams.items=[] := hempty
      rw [if_pos last]
      have resumed := resume_undone (c := c.withoutStream s id false) env hn
      simp only [hempty,true_or,true_and]
      exact resumed
    · have more : ¬(c.withoutStream s id false).streams.items=[] := hempty
      have due : (c.withoutStream s id false).reconfig=true := by simp [withoutStream,hempty]
      rw [if_neg more]
      have continued := reconfigured_undone (u := u) (c := c.withoutStream s id false) env due ht hn
      simp only [hempty,false_or]
      exact continued

theorem createStream_undone (hs : c.state≠.ERROR) (hu : c.Undone) (p : CameraStreamParameters)
    (callback : Bool) : (createStream u c env p callback).client.PauseUndone ↔
      c.Undoes u env (.createStream p callback) := by
  have flags := c.idled_flags env
  unfold createStream
  cases callback with
  | false => exact unpaused_call _ (by simp [Pauses]) fun _ => hu
  | true =>
    simp only [Bool.true_eq_false,if_false]
    cases hst : c.state with
    | ERROR => exact absurd hst hs
    | NOT_INITIALIZED | CLOSED => exact unpaused_call _ (by simp [Pauses,hst]) fun _ => hu
    | NOT_CONFIGURED | CONFIGURED =>
      refine unpaused_call _ (by simp [Pauses,hst]) ?_
      unfold addStream
      simp only [Bool.false_eq_true,if_false,ne_eq,not_true_eq_false]
      split_ifs <;> exact fun _ => hu
    | RUNNING =>
      dsimp only
      rw [apply_ite ClientResult.client]
      refine paused_call (.createStream p true) ⟨rfl,hst⟩ rfl fun hw => ?_
      rw [(c.pause_idled env).2.1 hw]
      exact addStream_undone flags.1 flags.2 p true _

theorem createInputStream_undone (hs : c.state≠.ERROR) (hu : c.Undone)
    (p : CameraInputStreamParameters) : (createInputStream u c env p).client.PauseUndone ↔
      c.Undoes u env (.createInputStream p) := by
  have flags := c.idled_flags env
  unfold createInputStream
  by_cases hc : p.callbacks=false
  · rw [if_pos hc]
    exact unpaused_call _ (by simp [Pauses,hc]) fun _ => hu
  rw [if_neg hc]
  by_cases hi : 0 ≤ c.inputStream.streamId
  · rw [if_pos hi]
    exact unpaused_call (.createInputStream p)
      (fun h => absurd h.2.1 (not_lt.mpr hi)) fun _ => hu
  rw [if_neg hi]
  cases hst : c.state with
  | ERROR => exact absurd hst hs
  | NOT_INITIALIZED | CLOSED | NOT_CONFIGURED | CONFIGURED =>
    exact unpaused_call _ (by simp [Pauses,hst]) fun _ => hu
  | RUNNING =>
    have valid : p.callbacks=true := by simpa using hc
    dsimp only
    rw [apply_ite ClientResult.client]
    refine paused_call (.createInputStream p) ⟨valid,not_le.mp hi,hst⟩ rfl fun hw => ?_
    rw [(c.pause_idled env).2.1 hw]
    exact addInputStream_undone flags.1 flags.2 p _

/-- A stream that is cached is dropped without a pause. -/
theorem dropCached_undone (hu : c.Undone) (id : Int) :
    (dropStream u c env id true []).client.PauseUndone := by
  unfold dropStream
  by_cases hi : id=c.inputStream.streamId
  · rw [if_pos hi]
    exact fun _ => hu
  rw [if_neg hi]
  cases c.streams.valueFor id with
  | none => exact fun _ => hu
  | some s =>
    dsimp only
    by_cases hactive : c.handler.isStreamActive s.id=true
    · rw [if_pos hactive]
      exact fun _ => hu
    · rw [if_neg hactive]
      unfold removeStream
      dsimp only
      rw [if_pos rfl]
      exact fun _ => hu

theorem deleteStream_undone (hs : c.state≠.ERROR) (hu : c.Undone) (id : Int) (cache : Bool) :
    (deleteStream u c env id cache).client.PauseUndone ↔
      c.Undoes u env (.deleteStream id cache) := by
  have flags := c.idled_flags env
  unfold deleteStream
  cases cache with
  | true =>
    have unpaused : ¬c.Pauses (.deleteStream id true) := by simp [Pauses]
    cases hst : c.state with
    | ERROR => exact absurd hst hs
    | NOT_INITIALIZED | CLOSED => exact unpaused_call _ unpaused fun _ => hu
    | NOT_CONFIGURED | CONFIGURED | RUNNING => exact unpaused_call _ unpaused (dropCached_undone hu id)
  | false =>
    cases hst : c.state with
    | ERROR => exact absurd hst hs
    | NOT_INITIALIZED | CLOSED => exact unpaused_call _ (by simp [Pauses,hst]) fun _ => hu
    | NOT_CONFIGURED | CONFIGURED | RUNNING =>
      dsimp only
      rw [if_neg (by simp),apply_ite ClientResult.client]
      refine paused_call (.deleteStream id false) ⟨rfl,by simp [hst]⟩ rfl fun hw => ?_
      rw [(c.pause_idled env).2.1 hw]
      exact dropStream_undone flags.1 flags.2 id _

/-- For every call on an unpaused device that has not failed: every exit between the pause and
InternalResumeLocked, and InternalResumeLocked itself with nothing pending, leaves it paused. -/
theorem pause_undone_iff (u : BufferUsage) (c : DeviceClient M) (env : ClientEnv M)
    (call : ClientCall) (hs : c.state≠.ERROR) (hu : c.Undone) :
    (c.perform u env call).client.PauseUndone ↔ c.Undoes u env call := by
  cases call with
  | createStream p callback => exact createStream_undone hs hu p callback
  | createInputStream p => exact createInputStream_undone hs hu p
  | deleteStream id cache => exact deleteStream_undone hs hu id cache

end Calls
section Tests

def preview (id : Int) : Camera3Stream :=
  let s := Camera3Stream.construct .android id 0 ⟨640,480,.YCBCR_420_888,⟨0⟩,2⟩ true
  ((s.beginConfigure .android).stream.endConfigure .android id).stream

def repeating : CaptureRequest Unit := ⟨(),[1],⟨0,0,0,0,false⟩,false⟩

/-- A client as Initialize leaves it, but for the state and the streams. -/
def sampleClient (state : State) (streams : KeyedVector Int Camera3Stream)
    (streamingRequests : List (CaptureRequest Unit)) : DeviceClient Unit where
  state := state
  streams := streams
  deletedStreams := []
  nextStreamId := 2
  reconfig := false
  inputStream := ⟨-1,0,0,.other 0⟩
  camFeatureFlags := 0
  batchSize := 1
  frameNumber := 0
  pauseStateNotify := false
  handler :=
    { requests := []
      streamingRequests := streamingRequests
      currentRequest := ⟨(),[],⟨-1,0,0,0,false⟩,false⟩
      oldRequest := ⟨(),[],⟨-1,0,0,0,false⟩,false⟩
      configurationUpdate := false
      togglePauseState := false
      pausedState := streamingRequests.isEmpty
      currentFrameNumber := 0
      currentInputFrameNumber := 0
      streamingLastFrameNumber := NO_IN_FLIGHT_REPEATING_FRAMES
      monitorId := 0
      batchSize := 1
      errorCb := true
      markCb := true }
  availableStreamConfigs := []
  jpegMaxSize := []
  errorCb := true
  idleCb := true

def previews : KeyedVector Int Camera3Stream :=
  (KeyedVector.empty.add 0 (preview 0)).add 1 (preview 1)

/-- Both waits end well; the handler has no request in hand. -/
def calm (streamingRequests : List (CaptureRequest Unit)) : ClientEnv Unit :=
  let waited (state : State) : Waited Unit :=
    ⟨0,state,previews,[],streamingRequests,⟨(),[],⟨-1,0,0,0,false⟩,false⟩⟩
  ⟨waited .CONFIGURED,waited .RUNNING,0,fun id => id,true⟩

/-- Stream 0 is deleted while a request on stream 1 repeats. -/
theorem pause_undone_repeating : ((sampleClient .RUNNING previews [repeating]).perform .android
    (calm [repeating]) (.deleteStream 0 false)).client.PauseUndone := by
  apply (pause_undone_iff .android (sampleClient .RUNNING previews [repeating]) (calm [repeating])
    (.deleteStream 0 false) (by decide) ⟨rfl,rfl⟩).mpr
  intro _
  have stays : Resumes .android (calm [repeating])
      ((sampleClient .RUNNING previews [repeating]).idled (calm [repeating])).2
      (.deleteStream 0 false) := by
    refine ⟨by decide,preview 0,rfl,by decide,Or.inr ⟨by decide,rfl,?_⟩⟩
    intro id s hv
    have one : previews.removeItem 0=KeyedVector.empty.add 1 (preview 1) := rfl
    change (previews.removeItem 0).valueFor id=some s at hv
    rw [one,KeyedVector.valueFor_add] at hv
    split_ifs at hv with hid
    · cases Option.some.inj hv
      subst hid
      exact ⟨by decide,by decide⟩
    · cases hv
  exact Or.inr ⟨by decide,Or.inr ⟨stays,Or.inr (by decide)⟩⟩

/-- DeleteStream of an unknown stream leaves a fresh client paused. -/
theorem unknown_stream_leaves_paused : ¬∀ (u : BufferUsage) (c : DeviceClient Unit) env call,
    c.state≠.ERROR → c.Undone → (c.perform u env call).client.PauseUndone := by
  intro all
  have undone := all .android (sampleClient .NOT_CONFIGURED KeyedVector.empty []) (calm [])
    (.deleteStream 5 false) (by decide) ⟨rfl,rfl⟩ (by decide)
  exact absurd undone.1 (by decide)

end Tests
end DeviceClient
end IotMedia.Camera

import IotMedia.Camera.IdleWorld
import IotMedia.Camera.InternalPause
import IotMedia.Framework.Run

namespace IotMedia.Camera

open IotMedia.Framework

theorem Camera3Monitor.streamEffects_next (m : Camera3Monitor) (effects : List StreamEffect) :
    (effects.foldl streamEffect m).nextMonitor=m.nextMonitor := by
  induction effects generalizing m with
  | nil => rfl
  | cons effect effects ih =>
    rw [List.foldl_cons,ih]
    cases effect <;> rfl

namespace IdleWorld

variable {M : Type} [CameraMetadata M] {u : BufferUsage} {w : IdleWorld M}
  {phase phase' : ConfigurePhase} {next next' : Int} {n n' : KeyedVector Int Camera3Stream}

/-- The client in the middle of a configuration. -/
def during (w : IdleWorld M) (phase : ConfigurePhase) (streams : KeyedVector Int Camera3Stream)
    (m : Camera3Monitor) : IdleWorld M :=
  { w with client := { w.client with streams := streams },monitor := m,phase := phase }

/-- The configuration gets there, with the next monitor that is to be acquired. -/
def Reaches (u : BufferUsage) (w : IdleWorld M) (phase : ConfigurePhase) (next : Int)
    (streams : KeyedVector Int Camera3Stream) : Prop :=
  ∃ steps m,Run (Step u) w steps (w.during phase streams m) ∧ m.nextMonitor=next

theorem Reaches.step (h : Reaches u w phase next n) (i : IdleStep M)
    (go : ∀ m,m.nextMonitor=next → ∃ m',m'.nextMonitor=next' ∧
      (w.during phase n m).perform u i=some (w.during phase' n' m')) :
    Reaches u w phase' next' n' := by
  obtain ⟨steps,m,run,counted⟩ := h
  obtain ⟨m',counted',done⟩ := go m counted
  exact ⟨steps++[i],m',.snoc run done,counted'⟩

/-- What AcquireMonitor answers to each stream in turn. -/
def acquiredIds (w : IdleWorld M) (added : Int → Bool) (id : Int) : Int :=
  if added id then w.monitor.nextMonitor+w.client.streams.keys.idxOf id else -ENOMEM

section Loops

/-! The rounds of the three loops of ConfigureStreamsLocked are steps. -/

theorem begin_round {id : Int} {todo : List Int} {s : Camera3Stream}
    (h : Reaches u w (.beginning (id::todo)) next n) (hv : n.valueFor id=some s) :
    Reaches u w (if (DeviceClient.beginStream u id s).1=0 then .beginning todo else .done) next
      (n.replaceValueFor id (DeviceClient.beginStream u id s).2.1) := by
  refine h.step .beginConfigure fun m counted => ?_
  refine ⟨(s.beginConfigure u).effects.foldl Camera3Monitor.streamEffect m,?_,?_⟩
  · rw [Camera3Monitor.streamEffects_next,counted]
  · have nosys : -ENOSYS≠0 := by decide
    simp only [perform,during,hv,Option.map_some,onStream,DeviceClient.beginStream]
    by_cases refused : (s.beginConfigure u).ret.isNone=true
    · simp [refused,nosys]
    · simp [refused]

theorem abort_round {id : Int} {todo : List Int} {s : Camera3Stream}
    (h : Reaches u w (.aborting (id::todo)) next n) (hv : n.valueFor id=some s)
    (ha : s.isConfigureActive=true) :
    Reaches u w (if (DeviceClient.abortStream u id s).1=0 then .aborting todo else .done) next
      (n.replaceValueFor id (DeviceClient.abortStream u id s).2.1) := by
  refine h.step .abortConfigure fun m counted => ?_
  refine ⟨(s.abortConfigure u).effects.foldl Camera3Monitor.streamEffect m,?_,?_⟩
  · rw [Camera3Monitor.streamEffects_next,counted]
  · simp only [perform,during,hv,Option.map_some,onStream,DeviceClient.abortStream,if_pos ha]
    by_cases fine : (s.abortConfigure u).ret=0
    · simp [fine]
    · simp [fine]

theorem end_round (added : Int → Bool) {id : Int} {todo before : List Int} {s : Camera3Stream}
    (keys : w.client.streams.keys=before++id::todo)
    (h : Reaches u w (.ending (id::todo)) (w.monitor.nextMonitor+before.length) n)
    (hv : n.valueFor id=some s) (ha : s.isConfigureActive=true) :
    Reaches u w (if (DeviceClient.endStream u (w.acquiredIds added) id s).1=0 then .ending todo
        else .done) (w.monitor.nextMonitor+(before++[id]).length)
      (n.replaceValueFor id (DeviceClient.endStream u (w.acquiredIds added) id s).2.1) := by
  have fresh : id∉before := by
    have nodup := w.client.streams.keys_nodup
    rw [keys] at nodup
    exact fun hm => (List.nodup_append.mp nodup).2.2 id hm id List.mem_cons_self rfl
  have place : w.client.streams.keys.idxOf id=before.length := by
    rw [keys,List.idxOf_append_of_notMem fresh]
    simp
  refine h.step (.endConfigure (added id)) fun m counted => ?_
  have answer : (m.acquireMonitor (added id)).1=w.acquiredIds added id := by
    rw [acquiredIds,place,← counted]
    cases added id <;> rfl
  refine ⟨(s.endConfigure u (w.acquiredIds added id)).effects.foldl Camera3Monitor.streamEffect
    (m.acquireMonitor (added id)).2,?_,?_⟩
  · rw [Camera3Monitor.streamEffects_next,List.length_append]
    cases added id <;> simp [Camera3Monitor.acquireMonitor,counted] <;> omega
  · simp only [perform,during,hv,Option.map_some,onStream,endStream,DeviceClient.endStream,
      if_pos ha,answer]
    by_cases fine : (s.endConfigure u (w.acquiredIds added id)).ret=0
    · simp [fine]
    · simp [fine]

end Loops

/-- The configuration is over, and leaves this client. -/
def Ends (u : BufferUsage) (w : IdleWorld M) (client : DeviceClient M) : Prop :=
  ∃ steps w',Run (Step u) w steps w' ∧ w'.phase=.done ∧ w'.client=client

theorem Reaches.ends (h : Reaches u w .done next n) : Ends u w { w.client with streams := n } := by
  obtain ⟨steps,m,run,-⟩ := h
  exact ⟨steps,_,run,rfl,rfl⟩

theorem Reaches.finish {client : DeviceClient M} (h : Reaches u w phase next n)
    (go : ∀ m,∃ w',(w.during phase n m).perform u .finishConfigure=some w' ∧ w'.phase=.done ∧
      w'.client=client) : Ends u w client := by
  obtain ⟨steps,m,run,-⟩ := h
  obtain ⟨w',done,ended,left⟩ := go m
  have last : Step u (w.during phase n m) .finishConfigure w' := done
  exact ⟨steps++[.finishConfigure],w',.snoc run last,ended,left⟩

/-- The HAL refused: the streams are aborted one by one. -/
theorem abort_run (h : Reaches u w (.aborting n.keys) next n)
    (active : ∀ id s,n.valueFor id=some s → s.isConfigureActive=true) :
    Ends u w (if (n.tryEach (DeviceClient.abortStream u)).1≠0 then
        { w.client with streams := (n.tryEach (DeviceClient.abortStream u)).2.1 }
      else { w.client with
        streams := (n.tryEach (DeviceClient.abortStream u)).2.1
        state := .NOT_CONFIGURED
        reconfig := true }) := by
  rcases KeyedVector.tryEach_rule (f := DeviceClient.abortStream u)
    (P := fun todo n => Reaches u w (.aborting todo) next n)
    (fun id todo n s h hv old fine => by simpa [fine] using abort_round h hv (active id s old)) h
    with ⟨fine,aborted⟩|⟨id,todo,n,s,h,hv,old,failed,code,streams⟩
  · rw [if_neg (not_not.mpr fine)]
    exact aborted.finish fun m => ⟨_,rfl,rfl,rfl⟩
  · rw [if_pos (by rw [code]; exact failed),streams]
    have done := abort_round h hv (active id s old)
    rw [if_neg failed] at done
    exact done.ends

/-- The HAL accepted: the streams get their monitors one by one. -/
theorem end_run (added : Int → Bool) (keys : n.keys=w.client.streams.keys)
    (h : Reaches u w (.ending n.keys) w.monitor.nextMonitor n)
    (active : ∀ id s,n.valueFor id=some s → s.isConfigureActive=true) :
    Ends u w (if (n.tryEach (DeviceClient.endStream u (w.acquiredIds added))).1≠0 then
        { w.client with streams := (n.tryEach (DeviceClient.endStream u (w.acquiredIds added))).2.1 }
      else { w.client with
        streams := (n.tryEach (DeviceClient.endStream u (w.acquiredIds added))).2.1
        state := .CONFIGURED
        handler := w.client.handler.finishConfiguration w.client.batchSize
        reconfig := false
        frameNumber := 0
        deletedStreams := [] }) := by
  rcases KeyedVector.tryEach_rule (f := DeviceClient.endStream u (w.acquiredIds added))
    (P := fun todo n => ∃ before,w.client.streams.keys=before++todo ∧
      Reaches u w (.ending todo) (w.monitor.nextMonitor+before.length) n)
    (fun id todo n s h hv old fine => by
      obtain ⟨before,split,h⟩ := h
      refine ⟨before++[id],by rw [split]; simp,?_⟩
      simpa [fine] using end_round added split h hv (active id s old))
    ⟨[],keys.symm,by simpa using h⟩
    with ⟨fine,before,-,ended⟩|⟨id,todo,n,s,⟨before,split,h⟩,hv,old,failed,code,streams⟩
  · rw [if_neg (not_not.mpr fine)]
    exact ended.finish fun m => ⟨_,rfl,rfl,rfl⟩
  · rw [if_pos (by rw [code]; exact failed),streams]
    have done := end_round added split h hv (active id s old)
    rw [if_neg failed] at done
    exact done.ends

/-- A reconfiguration that nothing interrupts is ConfigureStreamsLocked of the client. -/
theorem configure_run (u : BufferUsage) (w : IdleWorld M) (env : ClientEnv M)
    (added : Int → Bool) (hd : w.phase=.done)
    (hs : w.client.state=.NOT_CONFIGURED ∨ w.client.state=.CONFIGURED)
    (hr : w.client.reconfig=true) (ha : env.acquired=w.acquiredIds added) :
    Ends u w (DeviceClient.configureStreamsLocked u w.client env).client := by
  have configurable : ¬(w.client.state≠.NOT_CONFIGURED ∧ w.client.state≠.CONFIGURED) :=
    fun h => hs.elim h.1 h.2
  have start : Reaches u w (.beginning w.client.streams.keys) w.monitor.nextMonitor
      w.client.streams := by
    have here : Reaches u w w.phase w.monitor.nextMonitor w.client.streams :=
      ⟨[],w.monitor,.nil,rfl⟩
    refine here.step .configureStreams fun m counted => ⟨m,counted,?_⟩
    simp [perform,during,unlocked,hs,hr,hd]
  unfold DeviceClient.configureStreamsLocked
  rw [if_neg configurable,if_neg (by simp [hr])]
  dsimp only
  rcases KeyedVector.tryEach_rule (f := DeviceClient.beginStream u)
    (P := fun todo n => Reaches u w (.beginning todo) w.monitor.nextMonitor n)
    (fun id todo n s h hv _ fine => by simpa [fine] using begin_round h hv) start with
    ⟨fine,begun⟩|⟨id,todo,n,s,h,hv,-,failed,code,streams⟩
  · rw [if_neg (not_not.mpr fine)]
    have keys := w.client.streams.keys_tryEach (DeviceClient.beginStream u)
    have active : ∀ id s,(w.client.streams.tryEach (DeviceClient.beginStream u)).2.1.valueFor id=
        some s → s.isConfigureActive=true := by
      intro id s hv
      rw [KeyedVector.tryEach_valueFor _ _ fine] at hv
      obtain ⟨old,hold,rfl⟩ := Option.map_eq_some_iff.mp hv
      have begins := (KeyedVector.tryEach_ok _ _).mp fine id old hold
      exact DeviceClient.beginConfigure_active ((DeviceClient.beginStream_ok id old).mp begins)
    have asked : Reaches u w (if env.configured then .ending w.client.streams.keys
        else .aborting w.client.streams.keys) w.monitor.nextMonitor
        (w.client.streams.tryEach (DeviceClient.beginStream u)).2.1 :=
      begun.step (.configured env.configured) fun m counted => ⟨m,counted,by
        simp [perform,during,keys]⟩
    rw [← keys] at asked
    cases hc : env.configured with
    | false =>
      rw [hc] at asked
      have aborted := abort_run asked active
      rw [if_pos rfl]
      split_ifs at aborted ⊢
      · exact aborted
      · exact aborted
    | true =>
      rw [hc] at asked
      have ended := end_run added keys asked active
      rw [if_neg (by simp),ha]
      split_ifs at ended ⊢
      · exact ended
      · exact ended
  · rw [if_pos (by rw [code]; exact failed),streams]
    have done := begin_round h hv
    rw [if_neg failed] at done
    exact done.ends

end IdleWorld
end IotMedia.Camera

import IotMedia.Camera.InternalPause
import IotMedia.Camera.SubmitRequests
import IotMedia.Framework.Registry
import IotMedia.Framework.Run

namespace IotMedia.Camera

open IotMedia.Framework

/-- A call in InternalResumeLocked; CreateStream with the object that it allocated, DeleteStream
with what it returns afterwards. -/
inductive ResumedCall
  | createStream (newStream : Nat)
  | createInputStream
  | deleteStream (res : Int)
  deriving DecidableEq

/-- Where a call waits, with lock_ released. -/
inductive ClientWait
  | idle (call : ClientCall)
  | running (call : ResumedCall)

/-- The client between the segments of its calls: the Camera3Stream objects that streams_ and
deleted_streams_ hold, the calls that wait, and the ids that the create calls returned. -/
structure ClientWorld (M : Type) where
  client : DeviceClient M
  objects : Registry Int
  waiting : List ClientWait
  returned : List Int

/-- What a thread that holds lock_ does: a call up to its first wait, or on from there with the
result of the wait; `elsewhere` is all that happens to the client otherwise. -/
inductive ClientStep (M : Type)
  | call (call : ClientCall) (env : ClientEnv M)
  | configureStreams (batchSize camFeatureFlags : Nat) (env : ClientEnv M)
  | generateCaptureRequest (env : ClientEnv M)
  | wake (i : Nat) (res : Int) (env : ClientEnv M)
  | elsewhere (client : DeviceClient M)

/-- How a call goes on. -/
inductive Onward
  | done (res : Int)
  | resume (call : ResumedCall)
  | reconfigure (call : ResumedCall)

def Onward.reconfigures : Onward → Bool
  | .reconfigure _ => true
  | _ => false

namespace ClientWorld

variable {M : Type}

/-- Where the body of a call leaves the client, and how the call goes on. -/
structure Segment (M : Type) where
  world : ClientWorld M
  onward : Onward

/-- The lines behind InternalResumeLocked. -/
def finish (w : ClientWorld M) : ResumedCall → ClientWorld M × Int
  | .createStream _ =>
    ({ w with
      client := { w.client with nextStreamId := w.client.nextStreamId+1 }
      returned := w.returned++[w.client.nextStreamId] },w.client.nextStreamId)
  | .createInputStream =>
    ({ w with returned := w.returned++[w.client.inputStream.streamId] },
      w.client.inputStream.streamId)
  | .deleteStream res => (w,res)

/-- The world in which InternalPauseAndWaitLocked waits or goes on. -/
def paused (w : ClientWorld M) : ClientWorld M :=
  { w with client := { w.client with
    handler := (w.client.handler.togglePause true).1
    pauseStateNotify := true } }

section Bodies

variable (u : BufferUsage)

/-- CreateStream after its checks of the state, up to the reconfiguration. -/
def addStream (w : ClientWorld M) (env : ClientEnv M) (outputConfiguration : CameraStreamParameters)
    (wasActive : Bool) : Segment M :=
  if outputConfiguration.format=.BLOB ∧ w.client.blobBufferSize outputConfiguration≤0 then
    ⟨w,.done (-EINVAL)⟩
  else if env.added<0 then ⟨{ w with objects := w.objects.lose },.done env.added⟩
  else
    let added := { w with
      client := w.client.withStream u outputConfiguration
      objects := w.objects.add w.client.nextStreamId }
    if wasActive then ⟨added,.reconfigure (.createStream w.objects.allocated)⟩
    else
      let finished := added.finish (.createStream w.objects.allocated)
      ⟨finished.1,.done finished.2⟩

def addInputStream (w : ClientWorld M) (inputConfiguration : CameraInputStreamParameters)
    (wasActive : Bool) : Segment M :=
  let added := { w with client := { w.client with
    reconfig := true
    inputStream := ⟨w.client.nextStreamId,inputConfiguration.width,inputConfiguration.height,
      inputConfiguration.format⟩
    nextStreamId := w.client.nextStreamId+1 } }
  if wasActive then ⟨added,.reconfigure .createInputStream⟩
  else
    let finished := added.finish .createInputStream
    ⟨finished.1,.done finished.2⟩

/-- DeleteStream after its checks of the state, up to the reconfiguration. -/
def dropStream (w : ClientWorld M) (streamId : Int) (cache : Bool) : Segment M :=
  if streamId=w.client.inputStream.streamId then
    ⟨{ w with client := { w.client with
      inputStream := { w.client.inputStream with streamId := -1 } } },.done 0⟩
  else
    match w.client.streams.valueFor streamId with
    | none => ⟨w,.done (-EINVAL)⟩
    | some stream =>
      if w.client.handler.isStreamActive stream.id then ⟨w,.done (-ENOSYS)⟩
      else
        let client := w.client.withoutStream stream streamId cache
        if cache then
          ⟨{ w with client := client,objects := w.objects.retire streamId },.done stream.close.ret⟩
        else
          let dropped := { w with client := client,objects := w.objects.drop streamId }
          if client.streams.items=[] then
            ⟨dropped,.resume (.deleteStream stream.close.ret)⟩
          else ⟨dropped,.reconfigure (.deleteStream 0)⟩

def body (w : ClientWorld M) (env : ClientEnv M) (wasActive : Bool) : ClientCall → Segment M
  | .createStream p _ => w.addStream u env p wasActive
  | .createInputStream p => w.addInputStream p wasActive
  | .deleteStream id cache => w.dropStream id cache

/-- ConfigureStreamsLocked, which deletes the streams of deleted_streams_ if it gets there. -/
def configureStreamsLocked (w : ClientWorld M) (env : ClientEnv M) : Int × ClientWorld M :=
  let configured := w.client.configureStreamsLocked u env
  (configured.ret,{ w with
    client := configured.client
    objects := if configured.ret=0 ∧ w.client.reconfig then w.objects.reclaim else w.objects })

/-- InternalResumeLocked and what follows, unless it waits. -/
def internalResumeLocked (w : ClientWorld M) (call : ResumedCall) : ClientWorld M × Option Int :=
  let toggled := w.client.handler.togglePause false
  let resumed : DeviceClient M := { w.client with handler := toggled.1 }
  if toggled.2=false then
    let finished := { w with client := resumed }.finish call
    (finished.1,some finished.2)
  else if resumed.state=.RUNNING then
    let finished := { w with client := { resumed with pauseStateNotify := false } }.finish call
    (finished.1,some finished.2)
  else ({ w with client := resumed,waiting := w.waiting++[.running call] },none)

/-- The rest of a call, up to its next wait; without a wait with its result. -/
def goOn (env : ClientEnv M) (s : Segment M) : ClientWorld M × Option Int :=
  match s.onward with
  | .done res => (s.world,some res)
  | .resume call => s.world.internalResumeLocked call
  | .reconfigure call =>
    let configured := s.world.configureStreamsLocked u env
    if configured.1≠0 then (configured.2,some configured.1)
    else configured.2.internalResumeLocked call

/-- InternalPauseAndWaitLocked, and on if it does not wait. -/
def internalPauseAndWaitLocked (w : ClientWorld M) (env : ClientEnv M) (call : ClientCall) :
    ClientWorld M × Option Int :=
  if w.client.state=.RUNNING then ({ w.paused with waiting := w.waiting++[.idle call] },none)
  else goOn u env (w.paused.body u env true call)

/-- The checks of the three calls. -/
def start (w : ClientWorld M) (env : ClientEnv M) (call : ClientCall) : ClientWorld M × Option Int :=
  match call with
  | .createStream _ callback =>
    if callback=false then (w,some (-EINVAL))
    else
      match w.client.state with
      | .ERROR | .NOT_INITIALIZED | .CLOSED => (w,some (-ENOSYS))
      | .NOT_CONFIGURED | .CONFIGURED => goOn u env (w.body u env false call)
      | .RUNNING => w.internalPauseAndWaitLocked u env call
  | .createInputStream p =>
    if p.callbacks=false then (w,some (-EINVAL))
    else if 0 ≤ w.client.inputStream.streamId then (w,some (-ENOSYS))
    else
      match w.client.state with
      | .ERROR | .NOT_INITIALIZED | .CLOSED => (w,some (-ENOSYS))
      | .NOT_CONFIGURED | .CONFIGURED => goOn u env (w.body u env false call)
      | .RUNNING => w.internalPauseAndWaitLocked u env call
  | .deleteStream _ cache =>
    match w.client.state with
    | .ERROR | .NOT_INITIALIZED | .CLOSED => (w,some (-ENOSYS))
    | .NOT_CONFIGURED | .CONFIGURED | .RUNNING =>
      if cache then goOn u env (w.body u env false call)
      else w.internalPauseAndWaitLocked u env call

/-- A call goes on after its wait. -/
def awake (w : ClientWorld M) (res : Int) (env : ClientEnv M) :
    ClientWait → ClientWorld M × Option Int
  | .idle call =>
    if res≠0 then
      ({ w with client := w.client.setErrorStateLocked.1.setErrorStateLocked.1 },some res)
    else goOn u env (w.body u env true call)
  | .running call =>
    let waited := if res≠0 then w.client.setErrorStateLocked.1 else w.client
    let finished := { w with client := { waited with pauseStateNotify := false } }.finish call
    (finished.1,some finished.2)

/-- What the steps `elsewhere` cannot touch. -/
def Apart (c c' : DeviceClient M) : Prop :=
  c'.streams.keys=c.streams.keys ∧ c'.deletedStreams=c.deletedStreams ∧
    c'.nextStreamId=c.nextStreamId ∧ c'.inputStream=c.inputStream

/-- With the result of the call, if one returns. -/
def perform (w : ClientWorld M) : ClientStep M → Option (ClientWorld M × Option Int)
  | .call call env => some (w.start u env call)
  | .configureStreams batchSize camFeatureFlags env =>
    let configured := { w with client := { w.client with
      batchSize := batchSize
      camFeatureFlags := w.client.camFeatureFlags ||| camFeatureFlags } }.configureStreamsLocked u env
    some (configured.2,some configured.1)
  | .generateCaptureRequest env =>
    if w.client.state=.NOT_CONFIGURED ∨ w.client.reconfig then
      some ((w.configureStreamsLocked u env).2,none)
    else some (w,none)
  | .wake i res env =>
    (w.waiting[i]?).map fun wait => { w with waiting := w.waiting.eraseIdx i }.awake u res env wait
  | .elsewhere client => some ({ w with client := client },none)

end Bodies

/-- A wait answers with zero or an error. -/
def Allowed (w : ClientWorld M) : ClientStep M → Prop
  | .wake _ res _ => res ≤ 0
  | .elsewhere client => Apart w.client client
  | _ => True

def Step (u : BufferUsage) (w : ClientWorld M) (step : ClientStep M) (w' : ClientWorld M) : Prop :=
  w.Allowed step ∧ ∃ ret,w.perform u step=some (w',ret)

/-- A step but `elsewhere`, for runs that are evaluated. -/
def next (u : BufferUsage) (w : ClientWorld M) (step : ClientStep M) : Option (ClientWorld M) :=
  match step with
  | .elsewhere _ => none
  | .wake _ res _ => if res ≤ 0 then (w.perform u step).map Prod.fst else none
  | _ => (w.perform u step).map Prod.fst

theorem Step.of_next (u : BufferUsage) (w : ClientWorld M) (step : ClientStep M)
    (w' : ClientWorld M) (h : w.next u step=some w') : Step u w step w' := by
  have performed (r : Option (ClientWorld M × Option Int)) (hr : r.map Prod.fst=some w') :
      ∃ ret,r=some (w',ret) := by
    obtain ⟨⟨after,ret⟩,rfl,rfl⟩ := Option.map_eq_some_iff.mp hr
    exact ⟨ret,rfl⟩
  cases step with
  | call | configureStreams | generateCaptureRequest => exact ⟨trivial,performed _ h⟩
  | wake i res env =>
    rw [next] at h
    split_ifs at h with fine
    exact ⟨fine,performed _ h⟩
  | elsewhere client => cases h

/-- The client as it is constructed. -/
def construct (c : DeviceClient M) : ClientWorld M where
  client := { c with
    streams := KeyedVector.empty
    deletedStreams := []
    nextStreamId := 0
    inputStream := { c.inputStream with streamId := -1 } }
  objects := Registry.empty
  waiting := []
  returned := []

/-- The step comes to the body of a call, in a world that has changed so far, and with the answers
of this environment. -/
inductive Enters (w : ClientWorld M) : ClientStep M → ClientCall → ClientWorld M → ClientEnv M →
    Bool → Prop
  | createStream {p env} (hc : w.client.state=.NOT_CONFIGURED ∨ w.client.state=.CONFIGURED) :
      Enters w (.call (.createStream p true) env) (.createStream p true) w env false
  | createInputStream {p env} (hp : p.callbacks=true) (hi : w.client.inputStream.streamId<0)
      (hc : w.client.state=.NOT_CONFIGURED ∨ w.client.state=.CONFIGURED) :
      Enters w (.call (.createInputStream p) env) (.createInputStream p) w env false
  | deleteCached {id env}
      (hc : w.client.state=.NOT_CONFIGURED ∨ w.client.state=.CONFIGURED ∨ w.client.state=.RUNNING) :
      Enters w (.call (.deleteStream id true) env) (.deleteStream id true) w env false
  | deleteIdle {id env} (hc : w.client.state=.NOT_CONFIGURED ∨ w.client.state=.CONFIGURED) :
      Enters w (.call (.deleteStream id false) env) (.deleteStream id false)
        w.paused env true
  | awake {i call env} (hi : w.waiting[i]?=some (.idle call)) :
      Enters w (.wake i 0 env) call { w with waiting := w.waiting.eraseIdx i } env true

variable {u : BufferUsage} {w w' : ClientWorld M} {step : ClientStep M} {ret : Option Int}

theorem invalid_negative : -EINVAL<0 ∧ -ENOSYS<0 := by decide

/-- A call fails its checks, or comes to its body, or to its idle wait. -/
theorem start_cases (call : ClientCall) (env : ClientEnv M) :
    (∃ res : Int,res<0 ∧ w.start u env call=(w,some res)) ∨
    (∃ w₁ active,Enters w (.call call env) call w₁ env active ∧
      w.start u env call=goOn u env (w₁.body u env active call)) ∨
    w.start u env call=({ w.paused with waiting := w.waiting++[.idle call] },none) := by
  obtain ⟨invalid,nosys⟩ := invalid_negative
  cases call with
  | createStream p callback =>
    cases callback with
    | false => exact Or.inl ⟨-EINVAL,invalid,rfl⟩
    | true =>
      cases hs : w.client.state with
      | NOT_CONFIGURED =>
        exact Or.inr (Or.inl ⟨w,false,.createStream (Or.inl hs),by simp [start,hs]⟩)
      | CONFIGURED =>
        exact Or.inr (Or.inl ⟨w,false,.createStream (Or.inr hs),by simp [start,hs]⟩)
      | RUNNING => exact Or.inr (Or.inr (by simp [start,hs,internalPauseAndWaitLocked]))
      | ERROR | NOT_INITIALIZED | CLOSED =>
        exact Or.inl ⟨-ENOSYS,nosys,by simp [start,hs]⟩
  | createInputStream p =>
    cases hp : p.callbacks with
    | false => exact Or.inl ⟨-EINVAL,invalid,by simp [start,hp]⟩
    | true =>
      by_cases hi : 0 ≤ w.client.inputStream.streamId
      · exact Or.inl ⟨-ENOSYS,nosys,by simp [start,hp,hi]⟩
      have none : w.client.inputStream.streamId<0 := by omega
      cases hs : w.client.state with
      | NOT_CONFIGURED =>
        exact Or.inr (Or.inl ⟨w,false,.createInputStream hp none (Or.inl hs),
          by simp [start,hp,hi,hs]⟩)
      | CONFIGURED =>
        exact Or.inr (Or.inl ⟨w,false,.createInputStream hp none (Or.inr hs),
          by simp [start,hp,hi,hs]⟩)
      | RUNNING => exact Or.inr (Or.inr (by simp [start,hp,hi,hs,internalPauseAndWaitLocked]))
      | ERROR | NOT_INITIALIZED | CLOSED =>
        exact Or.inl ⟨-ENOSYS,nosys,by simp [start,hp,hi,hs]⟩
  | deleteStream id cache =>
    cases cache with
    | true =>
      cases hs : w.client.state with
      | NOT_CONFIGURED =>
        exact Or.inr (Or.inl ⟨w,false,.deleteCached (Or.inl hs),by simp [start,hs]⟩)
      | CONFIGURED =>
        exact Or.inr (Or.inl ⟨w,false,.deleteCached (Or.inr (Or.inl hs)),by simp [start,hs]⟩)
      | RUNNING =>
        exact Or.inr (Or.inl ⟨w,false,.deleteCached (Or.inr (Or.inr hs)),by simp [start,hs]⟩)
      | ERROR | NOT_INITIALIZED | CLOSED =>
        exact Or.inl ⟨-ENOSYS,nosys,by simp [start,hs]⟩
    | false =>
      cases hs : w.client.state with
      | NOT_CONFIGURED =>
        exact Or.inr (Or.inl ⟨w.paused,true,.deleteIdle (Or.inl hs),
          by simp [start,hs,internalPauseAndWaitLocked]⟩)
      | CONFIGURED =>
        exact Or.inr (Or.inl ⟨w.paused,true,.deleteIdle (Or.inr hs),
          by simp [start,hs,internalPauseAndWaitLocked]⟩)
      | RUNNING => exact Or.inr (Or.inr (by simp [start,hs,internalPauseAndWaitLocked]))
      | ERROR | NOT_INITIALIZED | CLOSED =>
        exact Or.inl ⟨-ENOSYS,nosys,by simp [start,hs]⟩

/-- What a step comes to, and the result of the call that returns. -/
inductive Outcome (u : BufferUsage) (w : ClientWorld M) :
    ClientStep M → ClientWorld M → Option Int → Prop
  | refused {call env} {res : Int} (negative : res<0) : Outcome u w (.call call env) w (some res)
  | waits {call env} : Outcome u w (.call call env)
      { w.paused with waiting := w.waiting++[.idle call] } none
  | entered {step call w₁ env active} (enters : Enters w step call w₁ env active) :
      Outcome u w step (goOn u env (w₁.body u env active call)).1
        (goOn u env (w₁.body u env active call)).2
  | timedOut {i call env} {res : Int} (hi : w.waiting[i]?=some (.idle call)) (negative : res<0) :
      Outcome u w (.wake i res env) { w with
        client := w.client.setErrorStateLocked.1.setErrorStateLocked.1
        waiting := w.waiting.eraseIdx i } (some res)
  | resumed {i res env call} (hi : w.waiting[i]?=some (.running call)) (client : DeviceClient M)
      (apart : Apart w.client client) : Outcome u w (.wake i res env)
        ({ w with client := client,waiting := w.waiting.eraseIdx i }.finish call).1
        (some ({ w with client := client,waiting := w.waiting.eraseIdx i }.finish call).2)
  | configured {batchSize camFeatureFlags env} :
      Outcome u w (.configureStreams batchSize camFeatureFlags env)
        ({ w with client := { w.client with
          batchSize := batchSize
          camFeatureFlags := w.client.camFeatureFlags ||| camFeatureFlags } }.configureStreamsLocked
            u env).2
        (some ({ w with client := { w.client with
          batchSize := batchSize
          camFeatureFlags := w.client.camFeatureFlags ||| camFeatureFlags } }.configureStreamsLocked
            u env).1)
  | generated {env} (due : w.client.state=.NOT_CONFIGURED ∨ w.client.reconfig=true) :
      Outcome u w (.generateCaptureRequest env) (w.configureStreamsLocked u env).2 none
  | undue {env} (undue : ¬(w.client.state=.NOT_CONFIGURED ∨ w.client.reconfig=true)) :
      Outcome u w (.generateCaptureRequest env) w none
  | elsewhere {client} (apart : Apart w.client client) :
      Outcome u w (.elsewhere client) { w with client := client } none

theorem Apart.refl (c : DeviceClient M) : Apart c c := ⟨rfl,rfl,rfl,rfl⟩

theorem setErrorState_apart (c : DeviceClient M) : Apart c c.setErrorStateLocked.1 := by
  obtain ⟨state,pause,-,failed⟩ := c.setErrorState_eq
  rw [failed]
  exact ⟨rfl,rfl,rfl,rfl⟩

theorem Outcome.of {r : ClientWorld M × Option Int} (h : Outcome u w step r.1 r.2)
    (equal : r=(w',ret)) : Outcome u w step w' ret := by
  rw [equal] at h
  exact h

theorem Step.outcome (h : Step u w step w') :
    ∃ ret,w.perform u step=some (w',ret) ∧ Outcome u w step w' ret := by
  obtain ⟨allowed,ret,done⟩ := h
  refine ⟨ret,done,?_⟩
  cases step with
  | call call env =>
    have started : w.start u env call=(w',ret) := Option.some.inj done
    rcases start_cases (u := u) (w := w) call env with
      ⟨res,negative,equal⟩|⟨w₁,active,enters,equal⟩|equal
    · exact (Outcome.refused negative).of (equal.symm.trans started)
    · exact (Outcome.entered enters).of (equal.symm.trans started)
    · exact Outcome.waits.of (equal.symm.trans started)
  | configureStreams batchSize camFeatureFlags env =>
    exact Outcome.configured.of (Option.some.inj done)
  | generateCaptureRequest env =>
    rw [perform] at done
    split_ifs at done with due
    · exact (Outcome.generated due).of (Option.some.inj done)
    · exact (Outcome.undue due).of (Option.some.inj done)
  | wake i res env =>
    obtain ⟨wait,hi,equal⟩ := Option.map_eq_some_iff.mp done
    cases wait with
    | idle call =>
      by_cases fine : res=0
      · subst fine
        exact (Outcome.entered (.awake hi)).of equal
      · have negative : res<0 := lt_of_le_of_ne allowed fine
        rw [awake,if_pos fine] at equal
        exact (Outcome.timedOut hi negative).of equal
    | running call =>
      refine (Outcome.resumed hi _ ?_).of equal
      by_cases fine : res≠0
      · rw [if_pos fine]
        exact setErrorState_apart w.client
      · rw [if_neg fine]
        exact Apart.refl w.client
  | elsewhere client => exact (Outcome.elsewhere allowed).of (Option.some.inj done)

section Configure

/-- A configuration touches none of the streams' keys. -/
theorem configure_keys (c : DeviceClient M) (env : ClientEnv M) :
    (c.configureStreamsLocked u env).client.streams.keys=c.streams.keys ∧
    (c.configureStreamsLocked u env).client.nextStreamId=c.nextStreamId ∧
    (c.configureStreamsLocked u env).client.inputStream=c.inputStream := by
  unfold DeviceClient.configureStreamsLocked
  dsimp only
  split_ifs <;> simp [DeviceClient.internalUpdateStatusLocked]

/-- ConfigureStreamsLocked deletes the streams of deleted_streams_ if it gets to its end. -/
theorem configure_objects (w : ClientWorld M) (env : ClientEnv M) :
    (w.configureStreamsLocked u env).2.objects=
      if (w.client.configureStreamsLocked u env).ret=0 ∧ w.client.reconfig=true
      then w.objects.reclaim else w.objects := rfl

end Configure

section Onward

variable {env : ClientEnv M} {s : Segment M}

theorem finish_objects (w : ClientWorld M) (call : ResumedCall) :
    (w.finish call).1.objects=w.objects ∧ (w.finish call).1.client.streams=w.client.streams := by
  cases call <;> exact ⟨rfl,rfl⟩

theorem resume_objects (w : ClientWorld M) (call : ResumedCall) :
    (w.internalResumeLocked call).1.objects=w.objects ∧
    (w.internalResumeLocked call).1.client.streams=w.client.streams := by
  unfold internalResumeLocked
  dsimp only
  split_ifs
  · exact finish_objects _ call
  · exact finish_objects _ call
  · exact ⟨rfl,rfl⟩

/-- InternalResumeLocked returns at once, and the call with it, or waits. -/
theorem resume_cases (w : ClientWorld M) (call : ResumedCall) : ∃ client,Apart w.client client ∧
    (w.internalResumeLocked call=(({ w with client := client }.finish call).1,
        some ({ w with client := client }.finish call).2) ∨
      w.internalResumeLocked call=({ w with
        client := client
        waiting := w.waiting++[.running call] },none)) := by
  unfold internalResumeLocked
  dsimp only
  let resumed : DeviceClient M :=
    { w.client with handler := (w.client.handler.togglePause false).1 }
  by_cases idle : (w.client.handler.togglePause false).2=false
  · rw [if_pos idle]
    exact ⟨resumed,Apart.refl w.client,Or.inl rfl⟩
  rw [if_neg idle]
  by_cases runs : w.client.state=.RUNNING
  · rw [if_pos runs]
    exact ⟨{ resumed with pauseStateNotify := false },Apart.refl w.client,Or.inl rfl⟩
  · rw [if_neg runs]
    exact ⟨resumed,Apart.refl w.client,Or.inr rfl⟩

/-- Behind its body a call touches the objects only by its reconfiguration. -/
theorem goOn_objects (u : BufferUsage) (env : ClientEnv M) (s : Segment M) :
    (goOn u env s).1.objects=
        (if s.onward.reconfigures=true ∧ (s.world.client.configureStreamsLocked u env).ret=0 ∧
            s.world.client.reconfig=true
          then s.world.objects.reclaim else s.world.objects) ∧
      (goOn u env s).1.client.streams.keys=s.world.client.streams.keys := by
  unfold goOn
  cases hs : s.onward with
  | done res => simp [Onward.reconfigures]
  | resume call =>
    obtain ⟨objects,streams⟩ := resume_objects s.world call
    simp [Onward.reconfigures,objects,streams]
  | reconfigure call =>
    obtain ⟨keys,-⟩ := configure_keys (u := u) s.world.client env
    have objects := configure_objects (u := u) s.world env
    dsimp only
    by_cases failed : (s.world.configureStreamsLocked u env).1≠0
    · have ret : (s.world.client.configureStreamsLocked u env).ret≠0 := failed
      rw [if_pos failed,if_neg (fun h => ret h.2.1),objects,if_neg (fun h => ret h.1)]
      exact ⟨rfl,keys⟩
    · obtain ⟨same,streams⟩ := resume_objects (s.world.configureStreamsLocked u env).2 call
      rw [if_neg failed,same,streams,objects]
      refine ⟨?_,keys⟩
      simp only [Onward.reconfigures,true_and]

end Onward

section Body

/-- The size of the new stream is known, and CreateStream allocates it. -/
def Allocates (w : ClientWorld M) (p : CameraStreamParameters) : Prop :=
  ¬(p.format=.BLOB ∧ w.client.blobBufferSize p≤0)

/-- DeleteStream takes the id for that of an output stream that no request names. -/
def Removes (w : ClientWorld M) (id : Int) : Prop :=
  id≠w.client.inputStream.streamId ∧ ∃ stream,w.client.streams.valueFor id=some stream ∧
    w.client.handler.isStreamActive stream.id=false

variable {env : ClientEnv M} {active : Bool} {p : CameraStreamParameters} {id : Int} {cache : Bool}

/-- The three ends of CreateStream's body. -/
theorem addStream_cases (u : BufferUsage) (w : ClientWorld M) (env : ClientEnv M)
    (p : CameraStreamParameters) (active : Bool) :
    ¬w.Allocates p ∧ w.addStream u env p active=⟨w,.done (-EINVAL)⟩ ∨
    w.Allocates p ∧ env.added<0 ∧
      w.addStream u env p active=⟨{ w with objects := w.objects.lose },.done env.added⟩ ∨
    w.Allocates p ∧ 0 ≤ env.added ∧ w.addStream u env p active=
      (let added := { w with
        client := w.client.withStream u p
        objects := w.objects.add w.client.nextStreamId }
      if active then ⟨added,.reconfigure (.createStream w.objects.allocated)⟩
      else ⟨(added.finish (.createStream w.objects.allocated)).1,
        .done (added.finish (.createStream w.objects.allocated)).2⟩) := by
  unfold addStream Allocates
  by_cases blob : p.format=.BLOB ∧ w.client.blobBufferSize p≤0
  · rw [if_pos blob]
    exact Or.inl ⟨not_not.mpr blob,rfl⟩
  rw [if_neg blob]
  by_cases full : env.added<0
  · rw [if_pos full]
    exact Or.inr (Or.inl ⟨blob,full,rfl⟩)
  · rw [if_neg full]
    exact Or.inr (Or.inr ⟨blob,by omega,rfl⟩)

/-- The ends of DeleteStream's body. -/
theorem dropStream_cases (w : ClientWorld M) (id : Int) (cache : Bool) :
    id=w.client.inputStream.streamId ∧ w.dropStream id cache=⟨{ w with client := { w.client with
      inputStream := { w.client.inputStream with streamId := -1 } } },.done 0⟩ ∨
    id≠w.client.inputStream.streamId ∧ ¬w.Removes id ∧ (∃ res : Int,res<0 ∧
      w.dropStream id cache=⟨w,.done res⟩) ∨
    w.Removes id ∧ ∃ stream,w.client.streams.valueFor id=some stream ∧
      w.dropStream id cache=⟨{ w with
        client := w.client.withoutStream stream id cache
        objects := if cache then w.objects.retire id else w.objects.drop id },
        if cache then .done stream.close.ret
        else if (w.client.streams.removeItem id).items=[] then .resume (.deleteStream stream.close.ret)
        else .reconfigure (.deleteStream 0)⟩ := by
  obtain ⟨invalid,nosys⟩ := invalid_negative
  unfold dropStream
  by_cases input : id=w.client.inputStream.streamId
  · rw [if_pos input]
    exact Or.inl ⟨input,rfl⟩
  rw [if_neg input]
  refine Or.inr ?_
  cases found : w.client.streams.valueFor id with
  | none =>
    refine Or.inl ⟨input,?_,-EINVAL,invalid,rfl⟩
    rintro ⟨-,stream,some_,-⟩
    rw [found] at some_
    cases some_
  | some stream =>
    dsimp only
    cases busy : w.client.handler.isStreamActive stream.id with
    | true =>
      rw [if_pos rfl]
      refine Or.inl ⟨input,?_,-ENOSYS,nosys,rfl⟩
      rintro ⟨-,other,some_,idle⟩
      cases Option.some.inj (found.symm.trans some_)
      rw [busy] at idle
      cases idle
    | false =>
      rw [if_neg Bool.false_ne_true]
      refine Or.inr ⟨⟨input,stream,found,busy⟩,stream,rfl,?_⟩
      cases cache with
      | true => rfl
      | false =>
        have streams : (w.client.withoutStream stream id false).streams=
            w.client.streams.removeItem id := rfl
        rw [streams]
        simp only [Bool.false_eq_true,if_false]
        split_ifs <;> rfl

end Body

section Agree

/-- The keys of streams_ are those that objects are registered under. -/
def Agrees (w : ClientWorld M) : Prop :=
  ∀ id,id∈w.objects.registered.keys ↔ id∈w.client.streams.keys

theorem Agrees.congr (h : w.Agrees)
    (objects : ∀ id,id∈w'.objects.registered.keys ↔ id∈w.objects.registered.keys)
    (keys : w'.client.streams.keys=w.client.streams.keys) : w'.Agrees := by
  intro id
  rw [objects,keys]
  exact h id

theorem finish_agrees (h : w.Agrees) (call : ResumedCall) : (w.finish call).1.Agrees := by
  obtain ⟨objects,streams⟩ := finish_objects w call
  exact h.congr (fun id => by rw [objects]) (by rw [streams])

theorem configure_agrees (h : w.Agrees) (u : BufferUsage) (env : ClientEnv M) :
    (w.configureStreamsLocked u env).2.Agrees := by
  refine h.congr ?_ (configure_keys w.client env).1
  intro id
  rw [configure_objects]
  split_ifs <;> rfl

theorem body_agrees (h : w.Agrees) (u : BufferUsage) (env : ClientEnv M) (active : Bool)
    (call : ClientCall) : (w.body u env active call).world.Agrees := by
  cases call with
  | createStream p callback =>
    have grown : ({ w with
        client := w.client.withStream u p
        objects := w.objects.add w.client.nextStreamId } : ClientWorld M).Agrees := by
      intro id
      rw [Registry.add,KeyedVector.mem_keys_add,h id]
      exact (KeyedVector.mem_keys_add _ _ _ id).symm
    rw [body]
    obtain ⟨-,equal⟩|⟨-,-,equal⟩|⟨-,-,equal⟩ := addStream_cases u w env p active
    · rw [equal]
      exact h
    · rw [equal]
      exact h
    · rw [equal]
      dsimp only
      split_ifs
      · exact grown
      · exact grown
  | createInputStream p =>
    rw [body,addInputStream]
    dsimp only
    split_ifs
    · exact h
    · exact h
  | deleteStream id cache =>
    rw [body]
    obtain ⟨-,equal⟩|⟨-,-,res,-,equal⟩|⟨-,stream,-,equal⟩ := dropStream_cases w id cache
    · rw [equal]
      exact h
    · rw [equal]
      exact h
    · rw [equal]
      intro other
      have keys : other∈(w.objects.registered.removeItem id).keys ↔
          other∈(w.client.streams.removeItem id).keys := by
        rw [KeyedVector.mem_keys_removeItem,KeyedVector.mem_keys_removeItem,h other]
      cases cache <;> exact keys

theorem goOn_agrees {s : Segment M} (h : s.world.Agrees) (u : BufferUsage) (env : ClientEnv M) :
    (goOn u env s).1.Agrees := by
  obtain ⟨objects,keys⟩ := goOn_objects u env s
  refine h.congr ?_ keys
  intro id
  rw [objects]
  split_ifs <;> rfl

/-- What a body finds is as it was before the step. -/
theorem Enters.same {call : ClientCall} {w₁ : ClientWorld M} {env : ClientEnv M} {active : Bool}
    (h : Enters w step call w₁ env active) :
    w₁.objects=w.objects ∧ w₁.returned=w.returned ∧ w₁.client={ w.client with
      handler := { w.client.handler with togglePauseState := w₁.client.handler.togglePauseState }
      pauseStateNotify := w₁.client.pauseStateNotify } := by
  cases h <;> exact ⟨rfl,rfl,rfl⟩

theorem Enters.performs {call : ClientCall} {w₁ : ClientWorld M} {env : ClientEnv M} {active : Bool}
    (h : Enters w step call w₁ env active) (u : BufferUsage) :
    w.perform u step=some (goOn u env (w₁.body u env active call)) := by
  cases h with
  | createStream hc => rcases hc with hc|hc <;> simp [perform,start,hc]
  | createInputStream hp hi hc =>
    have none : ¬0 ≤ w.client.inputStream.streamId := by omega
    rcases hc with hc|hc <;> simp [perform,start,hp,none,hc]
  | deleteCached hc => rcases hc with hc|hc|hc <;> simp [perform,start,hc]
  | deleteIdle hc =>
    rcases hc with hc|hc <;> simp [perform,start,hc,internalPauseAndWaitLocked]
  | awake hi => simp [perform,hi,ClientWorld.awake]

theorem Enters.unique {call call' : ClientCall} {w₁ w₂ : ClientWorld M} {env env' : ClientEnv M}
    {active active' : Bool} (h : Enters w step call w₁ env active)
    (h' : Enters w step call' w₂ env' active') :
    call=call' ∧ w₁=w₂ ∧ env=env' ∧ active=active' := by
  cases h with
  | createStream | createInputStream | deleteCached | deleteIdle =>
    cases h'
    exact ⟨rfl,rfl,rfl,rfl⟩
  | awake hi =>
    cases h' with
    | awake hi' =>
      have same := hi.symm.trans hi'
      cases Option.some.inj same
      exact ⟨rfl,rfl,rfl,rfl⟩

theorem Step.agrees (h : Step u w step w') (ha : w.Agrees) : w'.Agrees := by
  obtain ⟨ret,-,outcome⟩ := h.outcome
  cases outcome with
  | refused => exact ha
  | waits => exact ha
  | entered enters =>
    obtain ⟨objects,-,client⟩ := enters.same
    refine goOn_agrees (body_agrees (ha.congr (fun id => by rw [objects]) ?_) _ _ _ _) _ _
    rw [client]
  | timedOut =>
    have failed := setErrorState_apart w.client
    have again := setErrorState_apart w.client.setErrorStateLocked.1
    exact ha.congr (fun _ => Iff.rfl) (again.1.trans failed.1)
  | @resumed i res env call hi client apart =>
    have moved : ({ w with client := client,waiting := w.waiting.eraseIdx i } :
        ClientWorld M).Agrees := ha.congr (fun _ => Iff.rfl) apart.1
    exact finish_agrees moved call
  | @configured batchSize camFeatureFlags env =>
    have set : ({ w with client := { w.client with
        batchSize := batchSize
        camFeatureFlags := w.client.camFeatureFlags ||| camFeatureFlags } } :
        ClientWorld M).Agrees := ha
    exact configure_agrees set u env
  | generated => exact configure_agrees ha u _
  | undue => exact ha
  | elsewhere apart => exact ha.congr (fun _ => Iff.rfl) apart.1

end Agree

section Samples

def previewParameters : CameraStreamParameters := ⟨640,480,.YCBCR_420_888,⟨0⟩,2⟩

/-- Both waits end well, streams_ has room, and the HAL accepts. -/
def smooth : ClientEnv Unit := DeviceClient.calm []

/-- A device that is open, without streams. -/
def opened : ClientWorld Unit := construct (DeviceClient.sampleClient .NOT_CONFIGURED
  KeyedVector.empty [])

end Samples
end ClientWorld
end IotMedia.Camera

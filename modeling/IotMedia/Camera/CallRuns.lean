import IotMedia.Camera.ClientCalls

namespace IotMedia.Camera

open IotMedia.Framework

namespace DeviceClient

variable {M : Type}

/-- The client behind a wait. -/
def afterWait (c : DeviceClient M) (w : Waited M) : DeviceClient M :=
  { c with
    state := w.state
    streams := w.streams
    handler := { c.handler with
      requests := w.requests
      streamingRequests := w.streamingRequests
      currentRequest := w.currentRequest } }

/-- A call behind its checks and its pause. -/
def onward (u : BufferUsage) (c : DeviceClient M) (env : ClientEnv M) (wasActive : Bool)
    (before : List ClientEffect) : ClientCall → ClientResult M
  | .createStream p _ => addStream u c env p wasActive before
  | .createInputStream p => addInputStream u c env p wasActive before
  | .deleteStream id cache => dropStream u c env id cache before

/-- A call that pauses, from there. -/
def pauseOnward (u : BufferUsage) (c : DeviceClient M) (env : ClientEnv M) (call : ClientCall) :
    ClientResult M :=
  let paused := c.internalPauseAndWaitLocked env
  if paused.ret≠0 then
    let failed := paused.client.setErrorStateLocked
    ⟨paused.ret,failed.1,paused.effects++failed.2⟩
  else paused.client.onward u env true paused.effects call

theorem wait_there {c : DeviceClient M} {active : Bool} (there : active=decide (c.state=.RUNNING))
    (w : Waited M) : c.waitUntilStateThenRelock active w=(0,c) := if_pos there

theorem wait_waits {c : DeviceClient M} {active : Bool} (away : active≠decide (c.state=.RUNNING))
    (w : Waited M) : c.waitUntilStateThenRelock active w=(w.res,c.afterWait w) := if_neg away

/-- InternalResumeLocked without a wait for nothing, at once, or after its wait. -/
theorem resume_client (c : DeviceClient M) (env : ClientEnv M) :
    (c.internalResumeLocked env).client=
      let resumed := { c with handler := (c.handler.togglePause false).1 }
      if (c.handler.togglePause false).2=false then resumed
      else if c.state=.RUNNING then { resumed with pauseStateNotify := false }
      else
        let waited := resumed.afterWait env.running
        { (if env.running.res≠0 then waited.setErrorStateLocked.1 else waited) with
          pauseStateNotify := false } := by
  unfold internalResumeLocked
  dsimp only
  by_cases idle : (c.handler.togglePause false).2=false
  · rw [if_pos idle,if_pos idle]
  rw [if_neg idle,if_neg idle]
  by_cases runs : c.state=.RUNNING
  · rw [if_pos runs,wait_there (by simp [runs])]
    rfl
  · rw [if_neg runs,wait_waits (by simp [runs])]
    by_cases failed : env.running.res≠0
    · rw [if_pos failed,if_pos failed]
    · rw [if_neg failed,if_neg failed]

end DeviceClient

namespace ClientWorld

variable {M : Type} {u : BufferUsage} {env : ClientEnv M} {w w' : ClientWorld M}

def waitOf (env : ClientEnv M) : ClientWait → Waited M
  | .idle _ => env.idle
  | .running _ => env.running

/-- A call that has come so far returns, if during its waits only that runs which the
environment says. -/
inductive Completes (u : BufferUsage) (env : ClientEnv M) :
    ClientWorld M × Option Int → ClientWorld M → Int → Prop
  | returns {w : ClientWorld M} {res : Int} : Completes u env (w,some res) w res
  | wakes {w w' : ClientWorld M} {others : List ClientWait} {wait : ClientWait}
      {r : ClientWorld M × Option Int} {res : Int} (waits : w.waiting=others++[wait])
      (step : ({ w with client := w.client.afterWait (waitOf env wait) } : ClientWorld M).perform u
        (.wake others.length (waitOf env wait).res env)=some r)
      (rest : Completes u env r w' res) : Completes u env (w,none) w' res

/-- So it ends as the call of the client does that is one function. -/
def Agree (u : BufferUsage) (env : ClientEnv M) (w : ClientWorld M)
    (r : ClientWorld M × Option Int) (d : ClientResult M) : Prop :=
  ∃ w',Completes u env r w' d.ret ∧ w'.client=d.client ∧ w'.waiting=w.waiting

theorem Completes.result {r : ClientWorld M × Option Int} {res res' : Int}
    (h : Completes u env r w' res) (same : res=res') : Completes u env r w' res' := same ▸ h

theorem wakes_last {wait : ClientWait} {others : List ClientWait} {w' : ClientWorld M} {res : Int}
    (waits : w.waiting=others++[wait])
    (rest : Completes u env (({ w with
      client := w.client.afterWait (waitOf env wait)
      waiting := others } : ClientWorld M).awake u (waitOf env wait).res env wait) w' res) :
    Completes u env (w,none) w' res := by
  refine .wakes waits ?_ rest
  simp [perform,waits,List.eraseIdx_append_of_length_le]

section Resume

theorem resume_completes (w : ClientWorld M) (call : ResumedCall) :
    Completes u env (w.internalResumeLocked call)
      ({ w with client := (w.client.internalResumeLocked env).client }.finish call).1
      ({ w with client := (w.client.internalResumeLocked env).client }.finish call).2 := by
  rw [DeviceClient.resume_client]
  unfold internalResumeLocked
  dsimp only
  by_cases idle : (w.client.handler.togglePause false).2=false
  · rw [if_pos idle,if_pos idle]
    exact .returns
  rw [if_neg idle,if_neg idle]
  by_cases runs : w.client.state=.RUNNING
  · rw [if_pos runs,if_pos runs]
    exact .returns
  · rw [if_neg runs,if_neg runs]
    let resumed : ClientWorld M := { w with
      client := { w.client with handler := (w.client.handler.togglePause false).1 }
      waiting := w.waiting++[.running call] }
    have waits : resumed.waiting=w.waiting++[.running call] := rfl
    exact wakes_last waits .returns

/-- The lines that end a call while captures are paused. -/
theorem reconfigure_completes (u : BufferUsage) (env : ClientEnv M) (w : ClientWorld M)
    (call : ResumedCall) :
    let r := DeviceClient.reconfigureAndResume u w.client env
    ∃ objects,if r.ret≠0
      then Completes u env (goOn u env ⟨w,.reconfigure call⟩)
        { w with client := r.client,objects := objects } r.ret
      else Completes u env (goOn u env ⟨w,.reconfigure call⟩)
        ({ w with client := r.client,objects := objects }.finish call).1
        ({ w with client := r.client,objects := objects }.finish call).2 := by
  have objects := configure_objects (u := u) w env
  refine ⟨(w.configureStreamsLocked u env).2.objects,?_⟩
  unfold DeviceClient.reconfigureAndResume goOn
  dsimp only
  by_cases failed : (w.client.configureStreamsLocked u env).ret≠0
  · have ret : (w.configureStreamsLocked u env).1≠0 := failed
    rw [if_pos failed,if_pos failed,if_pos ret]
    exact .returns
  · have ret : ¬(w.configureStreamsLocked u env).1≠0 := failed
    rw [if_neg failed,if_neg ret]
    simp only [ne_eq,not_true_eq_false,if_false]
    exact resume_completes _ call

theorem reconfigure_input (c : DeviceClient M) :
    (DeviceClient.reconfigureAndResume u c env).client.inputStream=c.inputStream := by
  obtain ⟨-,-,configured⟩ := configure_keys (u := u) c env
  unfold DeviceClient.reconfigureAndResume
  dsimp only
  split_ifs
  · exact configured
  rw [DeviceClient.resume_client]
  dsimp only
  split_ifs
  · exact configured
  · exact configured
  · exact (setErrorState_apart _).2.2.2.trans configured
  · exact configured

end Resume

section Bodies

theorem addStream_agree (w : ClientWorld M) (p : CameraStreamParameters) (active : Bool)
    (before : List ClientEffect) : Agree u env w (goOn u env (w.addStream u env p active))
      (DeviceClient.addStream u w.client env p active before) := by
  unfold addStream DeviceClient.addStream
  by_cases blob : p.format=.BLOB ∧ w.client.blobBufferSize p≤0
  · rw [if_pos blob,if_pos blob]
    exact ⟨_,.returns,rfl,rfl⟩
  rw [if_neg blob,if_neg blob]
  by_cases full : env.added<0
  · rw [if_pos full,if_pos full]
    exact ⟨_,.returns,rfl,rfl⟩
  rw [if_neg full,if_neg full]
  cases active with
  | false => exact ⟨_,.returns,rfl,rfl⟩
  | true =>
    obtain ⟨objects,completes⟩ := reconfigure_completes u env { w with
      client := w.client.withStream u p
      objects := w.objects.add w.client.nextStreamId } (.createStream w.objects.allocated)
    simp only [if_true]
    by_cases failed : (DeviceClient.reconfigureAndResume u (w.client.withStream u p) env).ret≠0
    · rw [if_pos failed] at completes ⊢
      exact ⟨_,completes,rfl,rfl⟩
    · rw [if_neg failed] at completes ⊢
      exact ⟨_,completes,rfl,rfl⟩

theorem addInputStream_agree (w : ClientWorld M) (p : CameraInputStreamParameters) (active : Bool)
    (before : List ClientEffect) : Agree u env w (goOn u env (w.addInputStream p active))
      (DeviceClient.addInputStream u w.client env p active before) := by
  unfold addInputStream DeviceClient.addInputStream
  cases active with
  | false => exact ⟨_,.returns,rfl,rfl⟩
  | true =>
    let added : DeviceClient M := { w.client with
      reconfig := true
      inputStream := ⟨w.client.nextStreamId,p.width,p.height,p.format⟩
      nextStreamId := w.client.nextStreamId+1 }
    obtain ⟨objects,completes⟩ := reconfigure_completes u env
      { w with client := added } .createInputStream
    simp only [if_true]
    by_cases failed : (DeviceClient.reconfigureAndResume u added env).ret≠0
    · rw [if_pos failed] at completes ⊢
      exact ⟨_,completes,rfl,rfl⟩
    · rw [if_neg failed] at completes ⊢
      have id : (DeviceClient.reconfigureAndResume u added env).client.inputStream.streamId=
          w.client.nextStreamId := by rw [reconfigure_input]
      exact ⟨_,completes.result id,rfl,rfl⟩

theorem dropStream_agree (w : ClientWorld M) (id : Int) (cache : Bool)
    (before : List ClientEffect) : Agree u env w (goOn u env (w.dropStream id cache))
      (DeviceClient.dropStream u w.client env id cache before) := by
  unfold dropStream DeviceClient.dropStream
  by_cases input : id=w.client.inputStream.streamId
  · rw [if_pos input,if_pos input]
    exact ⟨_,.returns,rfl,rfl⟩
  rw [if_neg input,if_neg input]
  cases w.client.streams.valueFor id with
  | none => exact ⟨_,.returns,rfl,rfl⟩
  | some stream =>
    dsimp only
    by_cases busy : w.client.handler.isStreamActive stream.id=true
    · rw [if_pos busy,if_pos busy]
      exact ⟨_,.returns,rfl,rfl⟩
    rw [if_neg busy,if_neg busy]
    unfold DeviceClient.removeStream
    cases cache with
    | true => exact ⟨_,.returns,rfl,rfl⟩
    | false =>
      simp only [Bool.false_eq_true,if_false]
      by_cases last : (w.client.withoutStream stream id false).streams.items=[]
      · rw [if_pos last,if_pos last]
        exact ⟨_,resume_completes _ _,rfl,rfl⟩
      rw [if_neg last,if_neg last]
      obtain ⟨objects,completes⟩ := reconfigure_completes u env { w with
        client := w.client.withoutStream stream id false
        objects := w.objects.drop id } (.deleteStream 0)
      by_cases failed : (DeviceClient.reconfigureAndResume u
          (w.client.withoutStream stream id false) env).ret≠0
      · rw [if_pos failed] at completes
        exact ⟨_,completes,rfl,rfl⟩
      · rw [if_neg failed] at completes
        have ret := not_not.mp failed
        exact ⟨_,completes.result ret.symm,rfl,rfl⟩

theorem body_agree (u : BufferUsage) (env : ClientEnv M) (w : ClientWorld M) (call : ClientCall)
    (active : Bool) (before : List ClientEffect) : Agree u env w (goOn u env (w.body u env active call))
      (w.client.onward u env active before call) := by
  cases call with
  | createStream p callback => exact w.addStream_agree p active before
  | createInputStream p => exact w.addInputStream_agree p active before
  | deleteStream id cache => exact w.dropStream_agree id cache before

end Bodies

section Calls

theorem pause_agree (w : ClientWorld M) (call : ClientCall) :
    Agree u env w (w.internalPauseAndWaitLocked u env call) (w.client.pauseOnward u env call) := by
  unfold internalPauseAndWaitLocked DeviceClient.pauseOnward DeviceClient.internalPauseAndWaitLocked
  dsimp only
  by_cases runs : w.client.state=.RUNNING
  · rw [if_pos runs,DeviceClient.wait_waits (by simp [runs])]
    dsimp only
    by_cases failed : env.idle.res≠0
    · rw [if_pos failed,if_pos failed]
      refine ⟨{ w with client :=
        (w.paused.client.afterWait env.idle).setErrorStateLocked.1.setErrorStateLocked.1 },
        wakes_last rfl ?_,rfl,rfl⟩
      rw [waitOf,awake,if_pos failed]
      exact .returns
    · rw [if_neg failed,if_neg failed]
      obtain ⟨w',completes,client,waiting⟩ := body_agree u env { w with
        client := w.paused.client.afterWait env.idle } call true []
      refine ⟨w',wakes_last rfl ?_,client,waiting⟩
      rw [waitOf,awake,if_neg failed]
      exact completes
  · rw [if_neg runs,DeviceClient.wait_there (by simp [runs])]
    exact body_agree u env w.paused call true []

theorem start_agree (u : BufferUsage) (env : ClientEnv M) (w : ClientWorld M) (call : ClientCall) :
    Agree u env w (w.start u env call) (w.client.perform u env call) := by
  have refused {res : Int} : Agree u env w (w,some res) ⟨res,w.client,[]⟩ := ⟨w,.returns,rfl,rfl⟩
  cases call with
  | createStream p callback =>
    unfold start DeviceClient.perform DeviceClient.createStream
    cases callback with
    | false => exact refused
    | true =>
      simp only [Bool.true_eq_false,if_false]
      cases hs : w.client.state with
      | ERROR | NOT_INITIALIZED | CLOSED => exact refused
      | NOT_CONFIGURED | CONFIGURED => exact w.addStream_agree p false []
      | RUNNING => exact w.pause_agree (.createStream p true)
  | createInputStream p =>
    unfold start DeviceClient.perform DeviceClient.createInputStream
    by_cases none : p.callbacks=false
    · simp only [none,if_true]
      exact refused
    by_cases taken : 0 ≤ w.client.inputStream.streamId
    · simp only [none,taken,if_true]
      exact refused
    simp only [none,taken,if_false]
    cases hs : w.client.state with
    | ERROR | NOT_INITIALIZED | CLOSED => exact refused
    | NOT_CONFIGURED | CONFIGURED => exact w.addInputStream_agree p false []
    | RUNNING => exact w.pause_agree (.createInputStream p)
  | deleteStream id cache =>
    unfold start DeviceClient.perform DeviceClient.deleteStream
    cases hs : w.client.state with
    | ERROR | NOT_INITIALIZED | CLOSED => exact refused
    | NOT_CONFIGURED | CONFIGURED | RUNNING =>
      cases cache with
      | true => exact w.dropStream_agree id true []
      | false => exact w.pause_agree (.deleteStream id false)

/-- A call whose steps no other step comes between, but for what its waits leave, is the call of
DeviceClient. -/
theorem call_agree (u : BufferUsage) (env : ClientEnv M) (w : ClientWorld M) (call : ClientCall) :
    ∃ r,w.perform u (.call call env)=some r ∧ Agree u env w r (w.client.perform u env call) :=
  ⟨_,rfl,start_agree u env w call⟩

end Calls

end ClientWorld
end IotMedia.Camera

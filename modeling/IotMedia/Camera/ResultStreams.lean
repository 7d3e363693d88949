import IotMedia.Camera.QueuedSubmissions
import IotMedia.Camera.ReturnedBuffers

namespace IotMedia.Camera

open IotMedia.Framework

/-- The buffers handed out for the request that the thread submits. -/
def SubmitStage.buffers {M : Type} : SubmitStage M → List StreamBuffer
  | .acquiring _ request _ | .marked _ request => request.outputBuffers
  | _ => []

namespace GuardWorld

variable {M : Type} [CameraMetadata M] {u : BufferUsage} {w w' : GuardWorld M}

/-- What a step of the thread does to buffers: those it gets are of the streams it has come to, and
no stream changes its id. -/
structure Carries (w w' : GuardWorld M) : Prop where
  buffers : w'.stage.buffers=[] ∨ w'.handler.currentRequest=w.handler.currentRequest ∧
    ∀ b∈w'.stage.buffers,b∈w.stage.buffers ∨
      ∃ id∈w.stage.streams,b.streamId=(w.submission.streams id).id
  ids : ∀ id,(w'.submission.streams id).id=(w.submission.streams id).id
  pending : ∀ S,w.submission.client.Within S → w'.submission.client.Within S

omit [CameraMetadata M] in
theorem Carries.call {handler : RequestHandler M}
    (current : handler.currentRequest=w.handler.currentRequest) :
    Carries w (w.onHandler handler) :=
  ⟨Or.inr ⟨current,fun _ hb => Or.inl hb⟩,fun _ => rfl,fun _ h => h⟩

omit [CameraMetadata M] in
theorem Carries.none {handler : RequestHandler M} {stage : SubmitStage M} (h : stage.buffers=[]) :
    Carries w { w.onHandler handler with stage := stage } :=
  ⟨Or.inl h,fun _ => rfl,fun _ h => h⟩

omit [CameraMetadata M] in
/-- The thread calls a stream, which keeps its id. -/
theorem onStream_ids {i : Int} {s : Camera3Stream} (same : s.id=(w.submission.streams i).id)
    (id : Int) : ((w.onStream i s).submission.streams id).id=(w.submission.streams id).id := by
  by_cases here : id=i
  · subst here
    simp [onStream,same]
  · simp [onStream,here]

theorem step_carries {step : GuardStep M} (h : Step u w step w') : Carries w w' := by
  cases h.moved with
  | queueRequestList | setRepeatingRequests | clearRepeatingRequests | clear | togglePause
  | finishConfiguration => exact .call rfl
  | got | idle | chooseSettings | finishRequest => exact .none rfl
  | @bufferRefused next request i todo waitRes alloc at_ failed =>
    have same := ((w.submission.streams i).getBuffer_id u request.frameNumber waitRes alloc).1
    exact ⟨Or.inl rfl,onStream_ids same,fun _ h => h⟩
  | @bufferGot next request i todo waitRes alloc at_ fine =>
    obtain ⟨same,buffer⟩ :=
      (w.submission.streams i).getBuffer_id u request.frameNumber waitRes alloc
    refine ⟨Or.inr ⟨rfl,?_⟩,onStream_ids same,fun _ h => h⟩
    intro b hb
    rw [at_]
    rcases List.mem_append.mp hb with old|new
    · exact Or.inl old
    · exact Or.inr ⟨i,List.mem_cons_self,buffer b (Option.mem_toList.mp new)⟩
  | markRefused | processed | processRefused =>
    exact ⟨Or.inl rfl,fun _ => rfl,fun _ h => h⟩
  | marked at_ fine =>
    refine ⟨Or.inr ⟨rfl,?_⟩,fun _ => rfl,?_⟩
    · rw [at_]
      exact fun _ hb => Or.inl hb
    · exact fun S h => PendingRequests.markPendingRequest_stays h _ _ _
  | @returnBuffer frameNumber i todo at_ =>
    have same : (Submission.returnMapped frameNumber (w.submission.streams i)).stream.id=
        (w.submission.streams i).id := Camera3Stream.returnBuffer_id _ _
    exact ⟨Or.inl rfl,onStream_ids same,fun _ h => h⟩

end GuardWorld

/-- The client with its submissions, the handler's thread, whose handler is the client's, and the
buffers of the HAL: `atHal` has the frame and the stream of each that it has not reported. -/
structure ResultWorld (M : Type) where
  world : ClientWorld M
  reprocRequests : List (CaptureRequest M)
  nextRequestId : Int
  repeatingRequests : List Int
  stage : SubmitStage M
  pending : PendingRequests M
  atHal : List (Nat × Int)
  /-- The ids that ReturnOutputBuffers has looked up and not found. -/
  missing : List Int
  /-- What each DeleteStream has returned that has taken its stream out of streams_. -/
  deleted : List Int

inductive ResultStep (M : Type)
  | client (step : ClientStep M)
  | submitRequestList (requests : List (Camera3Request M)) (streaming : Bool)
      (env : SubmitListEnv M)
  | thread (step : GuardStep M)
  | message (msg : HalMessage)

/-- The streams whose buffers are passed to ReturnBufferToClient. -/
def returnedStreams {M : Type} (events : List (ResultEvent M)) : List Int :=
  events.filterMap fun
    | .returnBufferToClient b _ _ => some b.streamId
    | _ => none

/-- Stands for the stream behind a pointer to none of streams_; the thread comes to no such one. -/
def strayStream : Camera3Stream :=
  Camera3Stream.construct .android INVALID_ID 0 ⟨0,0,.other 0,⟨0⟩,0⟩ false

namespace ResultWorld

variable {M : Type}

def client (w : ResultWorld M) : DeviceClient M := w.world.client

def submit (w : ResultWorld M) : SubmitClient M :=
  ⟨w.client,w.reprocRequests,w.nextRequestId,w.repeatingRequests⟩

/-- A submission is queued; if it has configured the device the streams of deleted_streams_ are
deleted. -/
def onSubmit (w : ResultWorld M) (s : SubmitClient M) : ResultWorld M :=
  { w with
    world := { w.world with
      client := s.client
      objects := if s.client.deletedStreams=[] then w.world.objects.reclaim else w.world.objects }
    reprocRequests := s.reprocRequests
    nextRequestId := s.nextRequestId
    repeatingRequests := s.repeatingRequests }

/-- What the handler's thread works on. -/
def guard (w : ResultWorld M) : GuardWorld M where
  submission := ⟨w.client.handler,fun id => (w.client.streams.valueFor id).getD strayStream,w.pending⟩
  stage := w.stage

def onGuard (w : ResultWorld M) (g : GuardWorld M) : ResultWorld M :=
  { w with
    world := { w.world with client := { w.client with
      handler := g.handler
      streams := w.client.streams.mapValues fun id _ => g.submission.streams id } }
    stage := g.stage
    pending := g.submission.client }

/-- The buffers of the request that the HAL accepts. -/
def handedOver (w : ResultWorld M) : GuardStep M → List (Nat × Int)
  | .processCaptureRequest true =>
    match w.stage with
    | .marked _ request => request.outputBuffers.map fun b => (request.frameNumber,b.streamId)
    | _ => []
  | _ => []

variable [RequestMetadata M]

/-- A submission that aborts the process is no step. -/
def perform (u : BufferUsage) (w : ResultWorld M) : ResultStep M → Option (ResultWorld M)
  | .client step => (w.world.perform u step).map fun r => { w with
      world := r.1
      deleted := w.deleted++w.world.deletion r.1 r.2 step }
  | .submitRequestList requests streaming env =>
    let queued := w.submit.queueSubmission u env requests streaming
    match queued.ret with
    | .error .fault => none
    | _ => some (w.onSubmit queued.submit)
  | .thread step => (w.guard.perform u step).map fun g => { w.onGuard g with
      atHal := w.atHal++w.handedOver step }
  | .message msg =>
    let received := w.pending.receive msg
    some { w with
      pending := received.1
      atHal := w.atHal.diff (PendingRequests.reported msg)
      missing := w.missing++(returnedStreams received.2).filter fun id => id∉w.client.streams.keys }

omit [RequestMetadata M] in
/-- Requests come from submissions, entries from the thread; the HAL reports buffers that it has,
and what else happens to the client leaves its requests and the ids of its streams. -/
def Allowed (w : ResultWorld M) : ResultStep M → Prop
  | .client (.elsewhere c) => ClientWorld.Apart w.client c ∧ c.handler=w.client.handler ∧ c.Keyed
  | .client step => w.world.Allowed step
  | .submitRequestList _ _ _ => True
  | .thread (.queueRequestList _) | .thread (.setRepeatingRequests _) => False
  | .thread _ => True
  | .message (.markPendingRequest _ _ _) => False
  | .message msg => (PendingRequests.reported msg).Subperm w.atHal

def Step (u : BufferUsage) (w : ResultWorld M) (step : ResultStep M) (w' : ResultWorld M) : Prop :=
  w.Allowed step ∧ w.perform u step=some w'

def construct (c : DeviceClient M) (monitorId : Int) (errorCb markCb : Bool)
    (s : PendingRequests M) : ResultWorld M where
  world := .construct { c with handler := RequestHandler.construct monitorId errorCb markCb }
  reprocRequests := []
  nextRequestId := 0
  repeatingRequests := []
  stage := .idle
  pending := { s with
    pendingRequests := KeyedVector.empty
    pendingErrorRequests := KeyedVector.empty }
  atHal := []
  missing := []
  deleted := []

/-- Every buffer that is handed out for a frame and not returned to the client is of a stream in
streams_, so that ReturnOutputBuffers has found each; and a DeleteStream that has taken its stream
out has returned zero, or waits to return it. -/
structure Sound (w : ResultWorld M) : Prop where
  submitted : ∀ b∈w.stage.buffers,b.streamId∈w.client.streams.keys
  atHal : ∀ b∈w.atHal,b.2∈w.client.streams.keys
  held : w.pending.Within { id | id∈w.client.streams.keys }
  found : w.missing=[]
  deleted : ∀ res∈w.deleted++w.world.lastWaits,res=0

/-- The HAL has a buffer of the stream, or one waits for the shutter of its frame. -/
def InFlight (w : ResultWorld M) (id : Int) : Prop :=
  (∃ b∈w.atHal,b.2=id) ∨ ∃ f r,w.pending.pendingRequests.valueFor f=some r ∧
    ∃ b∈r.pendingBuffers,b.streamId=id

/-- A DeleteStream that takes its stream out of streams_ finds none of its buffers in flight, and
Close succeeds, or without `cache` and with streams left the reconfiguration. -/
def Spares (u : BufferUsage) (w : ResultWorld M) : ResultStep M → Prop
  | .client step => ∀ id cache w₁ env active,
    ClientWorld.Enters w.world step (.deleteStream id cache) w₁ env active → w₁.Removes id →
      ¬w.InFlight id ∧ w₁.RemovesWell u env id cache
  | _ => True

/-- The handler's requests name streams of streams_, the thread works on its current request, and
the buffers it has are of that request's streams. -/
structure Inv (w : ResultWorld M) : Prop where
  consistent : w.client.Consistent
  covered : w.guard.Covered
  buffers : ∀ b∈w.stage.buffers,b.streamId∈w.client.handler.currentRequest.streams

variable {u : BufferUsage} {w w' : ResultWorld M}

omit [RequestMetadata M] in
/-- The streams of the current request are in streams_. -/
theorem Inv.registered (hi : w.Inv) {id : Int}
    (named : id∈w.client.handler.currentRequest.streams) : id∈w.client.streams.keys := by
  by_contra missing
  exact (hi.consistent.named id missing).1 named

omit [RequestMetadata M] in
theorem Inv.carry (hi : w.Inv) (consistent : w'.client.Consistent)
    (current : w'.client.handler.currentRequest=w.client.handler.currentRequest)
    (stage : w'.stage=w.stage) : w'.Inv := by
  refine ⟨consistent,?_,?_⟩
  · intro id come
    have before : id∈w.stage.streams := by
      rw [← stage]
      exact come
    show id∈w'.client.handler.currentRequest.streams
    rw [current]
    exact hi.covered id before
  · intro b hb
    rw [stage] at hb
    rw [current]
    exact hi.buffers b hb

theorem construct_inv (c : DeviceClient M) (monitorId : Int) (errorCb markCb : Bool)
    (s : PendingRequests M) : (construct c monitorId errorCb markCb s).Inv := by
  have keyed : (construct c monitorId errorCb markCb s).client.Keyed := fun _ hp => by cases hp
  refine ⟨⟨keyed,?_⟩,fun _ hi => (by cases hi),fun _ hb => (by cases hb)⟩
  exact fun id _ => ⟨List.not_mem_nil,fun _ hr => (by cases hr),fun _ hr => (by cases hr)⟩

theorem construct_sound (c : DeviceClient M) (monitorId : Int) (errorCb markCb : Bool)
    (s : PendingRequests M) : (construct c monitorId errorCb markCb s).Sound :=
  ⟨fun _ hb => (by cases hb),fun _ hb => (by cases hb),fun _ _ hr => (by cases hr),rfl,
    fun _ hr => (by cases hr)⟩

section Keep

omit [RequestMetadata M] in
/-- What a step must leave alone for a state to stay sound. -/
theorem Sound.keep (h : w.Sound) (hi : w'.Inv)
    (keys : ∀ id∈w.client.streams.keys,id∈w'.client.streams.keys) (atHal : w'.atHal=w.atHal)
    (pending : w'.pending=w.pending) (missing : w'.missing=w.missing)
    (deleted : ∀ res∈w'.deleted++w'.world.lastWaits,res∈w.deleted++w.world.lastWaits) :
    w'.Sound := by
  refine ⟨fun b hb => hi.registered (hi.buffers b hb),?_,?_,missing.trans h.found,
    fun res hres => h.deleted res (deleted res hres)⟩
  · intro b hb
    rw [atHal] at hb
    exact keys b.2 (h.atHal b hb)
  · rw [pending]
    exact fun f r hr b hb => keys _ (h.held f r hr b hb)

theorem thread_inv (hi : w.Inv) {step : GuardStep M} (allowed : w.Allowed (.thread step))
    {g : GuardWorld M} (h : w.guard.perform u step=some g) : (w.onGuard g).Inv := by
  have proceeds := GuardWorld.step_proceeds (u := u) h
  have carries := GuardWorld.step_carries (u := u) h
  have own (id : Int) (found : id∈w.client.streams.keys) :
      (w.guard.submission.streams id).id=id := by
    obtain ⟨s,hs⟩ := (KeyedVector.mem_keys_iff _ _).mp found
    have stream : w.guard.submission.streams id=s := by
      show (w.client.streams.valueFor id).getD strayStream=s
      rw [hs]
      rfl
    rw [stream]
    exact KeyedVector.each_iff.mp hi.consistent.keyed id s hs
  have spares (id : Int) : GuardWorld.Spares id w.guard step := by
    cases step with
    | queueRequestList | setRepeatingRequests => cases allowed
    | _ => trivial
  have keys : (w.onGuard g).client.streams.keys=w.client.streams.keys :=
    KeyedVector.keys_mapValues _ _
  refine ⟨⟨?_,?_⟩,proceeds.covered hi.covered,?_⟩
  · refine KeyedVector.Each.mapValues hi.consistent.keyed fun id s found _ => ?_
    rw [carries.ids id]
    exact own id ((KeyedVector.mem_keys_iff _ _).mpr ⟨s,found⟩)
  · intro id missing
    rw [keys] at missing
    have unnamed : GuardWorld.Unnamed id w.guard.handler := hi.consistent.named id missing
    exact GuardWorld.step_unnamed (u := u) unnamed (spares id) h
  · rcases carries.buffers with none|⟨current,carried⟩
    · intro b hb
      have gone : b∈g.stage.buffers := hb
      rw [none] at gone
      cases gone
    · intro b hb
      show b.streamId∈g.handler.currentRequest.streams
      rw [current]
      rcases carried b hb with old|⟨id,come,same⟩
      · exact hi.buffers b old
      · -- a buffer just got is of a stream of the current request
        have named := hi.covered id come
        rw [same,own id (hi.registered named)]
        exact named

theorem thread_sound (hi : w.Inv) (hs : w.Sound) {step : GuardStep M}
    (allowed : w.Allowed (.thread step)) {g : GuardWorld M} (h : w.guard.perform u step=some g) :
    ({ w.onGuard g with atHal := w.atHal++w.handedOver step } : ResultWorld M).Sound := by
  have after := thread_inv hi allowed h
  have carries := GuardWorld.step_carries (u := u) h
  have keys : (w.onGuard g).client.streams.keys=w.client.streams.keys :=
    KeyedVector.keys_mapValues _ _
  refine ⟨fun b hb => after.registered (after.buffers b hb),?_,?_,hs.found,hs.deleted⟩
  · intro b hb
    show b.2∈(w.onGuard g).client.streams.keys
    rw [keys]
    rcases List.mem_append.mp hb with old|handed
    · exact hs.atHal b old
    · unfold handedOver at handed
      split at handed
      · split at handed
        next next request stage =>
          obtain ⟨buffer,kept,rfl⟩ := List.mem_map.mp handed
          have submitted : buffer∈w.stage.buffers := by
            rw [stage]
            exact kept
          exact hi.registered (hi.buffers buffer submitted)
        · cases handed
      · cases handed
  · show g.submission.client.Within { id | id∈(w.onGuard g).client.streams.keys }
    rw [keys]
    exact carries.pending _ hs.held

theorem submitted {requests : List (Camera3Request M)} {streaming : Bool} {env : SubmitListEnv M}
    (h : w.perform u (.submitRequestList requests streaming env)=some w') :
    w'=w.onSubmit (w.submit.queueSubmission u env requests streaming).submit := by
  rw [perform] at h
  split at h
  · cases h
  · exact (Option.some.inj h).symm

theorem submit_inv (hi : w.Inv) {requests : List (Camera3Request M)} {streaming : Bool}
    {env : SubmitListEnv M} {s : SubmitClient M}
    (h : (w.submit.queueSubmission u env requests streaming).submit=s) : (w.onSubmit s).Inv := by
  have submits := SubmitClient.queueSubmission_submits (u := u) w.submit env requests streaming
  rw [h] at submits
  exact hi.carry (submits.consistent hi.consistent) submits.current rfl

theorem submit_sound (hi : w.Inv) (hs : w.Sound) {requests : List (Camera3Request M)}
    {streaming : Bool} {env : SubmitListEnv M} {s : SubmitClient M}
    (h : (w.submit.queueSubmission u env requests streaming).submit=s) : (w.onSubmit s).Sound := by
  have submits := SubmitClient.queueSubmission_submits (u := u) w.submit env requests streaming
  rw [h] at submits
  refine hs.keep (submit_inv hi h) ?_ rfl rfl rfl fun _ hres => hres
  intro id found
  show id∈s.client.streams.keys
  rw [submits.keys]
  exact found

omit [RequestMetadata M] in
theorem mem_returnedStreams {events : List (ResultEvent M)} {id : Int}
    (h : id∈returnedStreams events) : ∃ f,∃ b∈returnedFor f events,b.streamId=id := by
  obtain ⟨event,found,same⟩ := List.mem_filterMap.mp h
  split at same
  next b ts f =>
    cases Option.some.inj same
    refine ⟨f,b,List.mem_filterMap.mpr ⟨_,found,?_⟩,rfl⟩
    simp [ResultEvent.returnedFor]
  · cases same

theorem message_sound (hs : w.Sound) {msg : HalMessage} (allowed : w.Allowed (.message msg))
    (h : w.perform u (.message msg)=some w') : w'.Sound := by
  have from_hal : ∀ b∈PendingRequests.reported msg,b.2∈w.client.streams.keys := by
    intro b hb
    cases msg with
    | markPendingRequest | shutter | error | writeMetadata | flush => cases hb
    | captureResult result =>
      have held : (PendingRequests.reported (.captureResult result)).Subperm w.atHal := allowed
      exact hs.atHal b (held.subset hb)
  have stays := PendingRequests.receive_stays hs.held msg from_hal
  cases Option.some.inj h
  refine ⟨hs.submitted,fun b hb => hs.atHal b (List.diff_subset _ _ hb),stays.held,?_,hs.deleted⟩
  show w.missing++_=[]
  rw [hs.found,List.nil_append,List.filter_eq_nil_iff]
  intro id returned
  obtain ⟨f,b,hb,rfl⟩ := mem_returnedStreams returned
  have known : b.streamId∈w.client.streams.keys := stays.returned f b hb
  simpa using known

section Client

variable {step : ClientStep M} {after : ClientWorld M} {ret : Option Int}
omit [RequestMetadata M]

/-- A call of the client touches none of the requests that the handler has. -/
theorem client_work (h : ClientWorld.Step u w.world step after) (own : ∀ c,step≠.elsewhere c) :
    after.client.handler.work=w.client.handler.work := by
  refine h.rule (P := fun c => c.handler.work=w.client.handler.work) ?_ ?_ ?_ ?_ own rfl
  · exact fun same _ work => work.trans same
  · exact fun c env same => (DeviceClient.configure_work u c env).trans same
  · exact fun c p same => same
  · exact fun id cache w₁ env active s _ _ _ same => same

theorem client_step (allowed : w.Allowed (.client step)) (h : w.world.perform u step=some (after,ret)) :
    ClientWorld.Step u w.world step after := by
  refine ⟨?_,ret,h⟩
  cases step with
  | elsewhere c => exact allowed.1
  | _ => exact allowed

theorem client_inv (hi : w.Inv) (allowed : w.Allowed (.client step))
    (h : w.world.perform u step=some (after,ret)) (deleted : List Int) :
    ({ w with world := after,deleted := deleted } : ResultWorld M).Inv := by
  have taken := client_step allowed h
  by_cases own : ∀ c,step≠.elsewhere c
  · exact hi.carry (taken.consistent own hi.consistent)
      (congrArg Prod.fst (client_work taken own)) rfl
  · push Not at own
    obtain ⟨c,rfl⟩ := own
    obtain ⟨⟨keys,-⟩,handler,keyed⟩ := allowed
    cases Option.some.inj h
    have kept : ∀ id∈w.client.streams.keys,id∈c.streams.keys := by
      rw [keys]
      exact fun _ found => found
    exact hi.carry (hi.consistent.congr keyed kept (congrArg RequestHandler.work handler))
      (congrArg RequestHandler.currentRequest handler) rfl

/-- A client step that takes no stream out of streams_ leaves all as it should be. -/
theorem client_keeps (hi : w.Inv) (hs : w.Sound) (allowed : w.Allowed (.client step))
    (h : w.world.perform u step=some (after,ret)) (stays : ∀ id,¬w.world.Deletes step id) :
    ({ w with
      world := after
      deleted := w.deleted++w.world.deletion after ret step } : ResultWorld M).Sound := by
  have taken := client_step allowed h
  refine hs.keep (client_inv hi allowed h _) ?_ rfl rfl rfl ?_
  · intro id found
    by_cases own : ∀ c,step≠.elsewhere c
    · exact (taken.keys own found).resolve_right (stays id)
    · push Not at own
      obtain ⟨c,rfl⟩ := own
      cases Option.some.inj h
      show id∈c.streams.keys
      rw [allowed.1.1]
      exact found
  · intro res hres
    rw [List.append_assoc] at hres
    rcases List.mem_append.mp hres with old|new
    · exact List.mem_append_left _ old
    refine List.mem_append_right _ ?_
    by_cases own : ∀ c,step≠.elsewhere c
    · exact taken.unremoved h own stays res new
    · push Not at own
      obtain ⟨c,rfl⟩ := own
      cases Option.some.inj h
      exact new

/-- One that takes a stream out does if no buffer of it is in flight, and it returns zero. -/
theorem client_removes (hi : w.Inv) (hs : w.Sound) (allowed : w.Allowed (.client step))
    (h : w.world.perform u step=some (after,ret)) {id : Int} {cache active : Bool}
    {w₁ : ClientWorld M} {env : ClientEnv M}
    (enters : ClientWorld.Enters w.world step (.deleteStream id cache) w₁ env active)
    (removes : w₁.Removes id) :
    ({ w with
      world := after
      deleted := w.deleted++w.world.deletion after ret step } : ResultWorld M).Sound ↔
    ¬w.InFlight id ∧ w₁.RemovesWell u env id cache := by
  have taken := client_step allowed h
  have own : ∀ c,step≠.elsewhere c := by
    rintro c rfl
    cases enters
  have invariant := client_inv hi allowed h (w.deleted++w.world.deletion after ret step)
  obtain ⟨-,gone⟩ := taken.removed enters removes
  obtain ⟨s,found,-⟩ := removes.2
  have removal := taken.removal h enters removes found
  have keeps (i : Int) (other : i≠id) (there : i∈w.client.streams.keys) :
      i∈after.client.streams.keys := by
    refine (taken.keys own there).resolve_right ?_
    rintro ⟨cache',w₂,env',active',enters',-⟩
    cases (enters.unique enters').1
    exact other rfl
  constructor
  · intro sound
    refine ⟨?_,(ClientWorld.removalResult_zero found env cache).mp ?_⟩
    · rintro (⟨b,hb,rfl⟩|⟨f,r,hr,b,hb,rfl⟩)
      · exact gone (sound.atHal b hb)
      · exact gone (sound.held f r hr b hb)
    · refine sound.deleted _ ?_
      rw [List.append_assoc]
      exact List.mem_append_right _ ((removal _).mpr (Or.inl rfl))
  · rintro ⟨landed,well⟩
    refine ⟨fun b hb => invariant.registered (invariant.buffers b hb),?_,?_,hs.found,?_⟩
    · intro b hb
      exact keeps b.2 (fun same => landed (Or.inl ⟨b,hb,same⟩)) (hs.atHal b hb)
    · intro f r hr b hb
      exact keeps _ (fun same => landed (Or.inr ⟨f,r,hr,b,hb,same⟩)) (hs.held f r hr b hb)
    · intro res hres
      rw [List.append_assoc] at hres
      rcases List.mem_append.mp hres with old|new
      · exact hs.deleted res (List.mem_append_left _ old)
      rcases (removal res).mp new with rfl|waits
      · exact (ClientWorld.removalResult_zero found env cache).mpr well
      · refine hs.deleted res (List.mem_append_right _ ?_)
        rw [ClientWorld.mem_lastWaits] at waits ⊢
        exact enters.before.2 _ waits

theorem client_sound_iff (hi : w.Inv) (hs : w.Sound) (allowed : w.Allowed (.client step))
    (h : w.world.perform u step=some (after,ret)) :
    ({ w with
      world := after
      deleted := w.deleted++w.world.deletion after ret step } : ResultWorld M).Sound ↔
    w.Spares u (.client step) := by
  by_cases gone : ∃ id,w.world.Deletes step id
  · obtain ⟨id,cache,w₁,env,active,enters,removes⟩ := gone
    rw [client_removes hi hs allowed h enters removes]
    constructor
    · intro spares id' cache' w₂ env' active' enters' _
      obtain ⟨same,rfl,rfl,-⟩ := enters.unique enters'
      cases same
      exact spares
    · exact fun spares => spares id cache w₁ env active enters removes
  · push Not at gone
    refine iff_of_true (client_keeps hi hs allowed h gone) ?_
    intro id cache w₁ env active enters removes
    exact absurd ⟨cache,w₁,env,active,enters,removes⟩ (gone id)

end Client

/-- What one step does to the invariant. -/
theorem step_inv {step : ResultStep M} (hi : w.Inv) (h : Step u w step w') : w'.Inv := by
  obtain ⟨allowed,done⟩ := h
  cases step with
  | client step =>
    obtain ⟨⟨after,ret⟩,performed,rfl⟩ := Option.map_eq_some_iff.mp done
    exact client_inv hi allowed performed _
  | submitRequestList requests streaming env =>
    rw [submitted done]
    exact submit_inv hi rfl
  | thread step =>
    obtain ⟨g,performed,rfl⟩ := Option.map_eq_some_iff.mp done
    have after := thread_inv hi allowed performed
    exact ⟨after.consistent,after.covered,after.buffers⟩
  | message msg =>
    cases Option.some.inj done
    exact hi.carry hi.consistent rfl rfl

theorem step_sound_iff {step : ResultStep M} (hi : w.Inv) (hs : w.Sound) (h : Step u w step w') :
    w'.Sound ↔ w.Spares u step := by
  obtain ⟨allowed,done⟩ := h
  cases step with
  | client step =>
    obtain ⟨⟨after,ret⟩,performed,rfl⟩ := Option.map_eq_some_iff.mp done
    exact client_sound_iff hi hs allowed performed
  | submitRequestList requests streaming env =>
    rw [submitted done]
    exact iff_of_true (submit_sound hi hs rfl) trivial
  | thread step =>
    obtain ⟨g,performed,rfl⟩ := Option.map_eq_some_iff.mp done
    exact iff_of_true (thread_sound hi hs allowed performed) trivial
  | message msg => exact iff_of_true (message_sound hs allowed done) trivial

end Keep

/-- In a run in which every DeleteStream that takes its stream out finds none of its buffers in
flight and succeeds, the results find their streams; the first that does not ends that. -/
theorem results_find_streams (u : BufferUsage) (c : DeviceClient M) (monitorId : Int)
    (errorCb markCb : Bool) (s : PendingRequests M) (steps : List (ResultStep M))
    (hr : Run (Guarded (Spares u) (Step u)) (construct c monitorId errorCb markCb s) steps w) :
    w.Sound ∧ ∀ step w',Step u w step w' → (w'.Sound ↔ w.Spares u step) := by
  refine hr.kept_iff_guard (I := Inv) ?_ ?_ (construct_inv c monitorId errorCb markCb s)
    (construct_sound c monitorId errorCb markCb s)
  · intro t step t' hi _ h _
    exact step_inv hi h
  · intro t step t' hi hs h
    exact step_sound_iff hi hs h

section Tests

open StreamCalls (RequestPack previewCalls calmCalls strayRequest)

/-- A step but `elsewhere`, for runs that are evaluated. -/
def next (u : BufferUsage) (w : ResultWorld M) (step : ResultStep M) : Option (ResultWorld M) :=
  match step with
  | .client (.elsewhere _) | .thread (.queueRequestList _) | .thread (.setRepeatingRequests _)
  | .message (.markPendingRequest _ _ _) => none
  | .client (.wake _ res _) => if res ≤ 0 then w.perform u step else none
  | .message msg =>
    if (PendingRequests.reported msg).Subperm w.atHal then w.perform u step else none
  | _ => w.perform u step

theorem Step.of_next (u : BufferUsage) (w : ResultWorld M) (step : ResultStep M) (w' : ResultWorld M)
    (h : w.next u step=some w') : Step u w step w' := by
  cases step with
  | client step =>
    cases step with
    | elsewhere => cases h
    | wake i res env =>
      rw [next] at h
      split_ifs at h with fine
      exact ⟨fine,h⟩
    | call | configureStreams | generateCaptureRequest => exact ⟨trivial,h⟩
  | submitRequestList => exact ⟨trivial,h⟩
  | thread step =>
    cases step with
    | queueRequestList | setRepeatingRequests => cases h
    | _ => exact ⟨trivial,h⟩
  | message msg =>
    cases msg with
    | markPendingRequest => cases h
    | shutter | captureResult | error | writeMetadata | flush =>
      simp only [next] at h
      split_ifs at h with held
      exact ⟨held,h⟩

/-- A device that is open, without streams. -/
def openedWorld : ResultWorld RequestPack :=
  construct { previewCalls.client with state := .NOT_CONFIGURED } 0 true true
    { PendingRequests.plain with
      pendingRequests := KeyedVector.empty
      pendingErrorRequests := KeyedVector.empty
      resultMetadataQueue := some [] }

def openStream : ResultStep RequestPack :=
  .client (.call (.createStream ClientWorld.previewParameters true) calmCalls.toClientEnv)

/-- A request for stream 0 comes to the HAL. -/
def handOverSteps : List (ResultStep RequestPack) :=
  [openStream,.client (.configureStreams 1 0 calmCalls.toClientEnv),
    .submitRequestList [strayRequest []] false calmCalls,
    .thread .getRequest,.thread .chooseSettings,.thread (.getBuffer 0 (some 7)),
    .thread (.markRequest 0),.thread (.processCaptureRequest true),.thread .finishRequest]

/-- The HAL reports its buffer. -/
def reportSteps : List (ResultStep RequestPack) :=
  [.message (.captureResult ⟨0,0,[],[⟨0,7,.OK,some 7⟩],false,0⟩),.message (.shutter 0 5)]

/-- Stream 0 is deleted once its buffer is back, and stream 1 stays. -/
def deleteReturned : ResultStep RequestPack :=
  .client (.call (.deleteStream 0 false) calmCalls.toClientEnv)

/-- Nothing is in flight, and the device takes the configuration without stream 0. -/
def Removable (w : ResultWorld RequestPack) : Prop :=
  w.atHal=[] ∧ (∀ e∈w.pending.pendingRequests.items,e.2.pendingBuffers=[]) ∧
  (w.world.paused.client.streams.valueFor 0).map (fun s =>
    ClientWorld.removalResult .android w.world.paused calmCalls.toClientEnv s 0 false)=some 0

instance (w : ResultWorld RequestPack) : Decidable w.Removable :=
  inferInstanceAs (Decidable (_∧_∧_))

theorem Removable.spares {w : ResultWorld RequestPack} (h : w.Removable) :
    w.Spares .android deleteReturned := by
  obtain ⟨reported,returned,well⟩ := h
  intro id cache w₁ env active enters _
  cases enters with
  | deleteIdle =>
    obtain ⟨s,found,zero⟩ := Option.map_eq_some_iff.mp well
    refine ⟨?_,(ClientWorld.removalResult_zero found _ _).mp zero⟩
    intro flying
    rcases flying with ⟨b,hb,-⟩|⟨f,r,hr,b,hb,-⟩
    · rw [reported] at hb
      cases hb
    · have empty : r.pendingBuffers=[] :=
        returned (f,r) ((KeyedVector.valueFor_eq_some _ f r).mp hr)
      rw [empty] at hb
      cases hb

theorem results_find_streams_first : ∃ w,Run (Step .android) openedWorld
    (openStream::handOverSteps++reportSteps++[deleteReturned]) w ∧
    w.client.streams.keys=[1] ∧ w.Sound := by
  obtain ⟨t,run,landed⟩ := Run.of_exec_any (p := fun t : ResultWorld RequestPack =>
    decide (t.Removable ∧ (t.next .android deleteReturned).any
      fun w => decide (w.client.streams.keys=[1]))) openedWorld
    (openStream::handOverSteps++reportSteps) (Step.of_next .android) (by decide)
  obtain ⟨removable,deletes⟩ := of_decide_eq_true landed
  obtain ⟨w,last,left⟩ := (Option.any_eq_true _ _).mp deletes
  have before : Run (Guarded (Spares .android) (Step .android)) openedWorld
      (openStream::handOverSteps++reportSteps) t := by
    refine run.guard fun step hstep t => ?_
    cases step with
    | client step =>
      have none : step=.call (.createStream ClientWorld.previewParameters true)
          calmCalls.toClientEnv ∨ step=.configureStreams 1 0 calmCalls.toClientEnv := by
        simpa [openStream,handOverSteps,reportSteps] using hstep
      intro id cache w₁ env active enters _
      rcases none with rfl|rfl <;> cases enters
    | submitRequestList | thread | message => trivial
  have whole := before.snoc ⟨removable.spares,Step.of_next .android t deleteReturned w last⟩
  exact ⟨w,whole.unguard,of_decide_eq_true left,
    (results_find_streams .android _ 0 true true _ _ whole).1⟩

/-- DeleteStream takes stream 0 out while the HAL has a buffer of it, and fails; the result does
not find the stream. -/
theorem result_misses_stream : ¬∀ (u : BufferUsage) (c : DeviceClient RequestPack) monitorId errorCb
    markCb s steps w,Run (Step u) (construct c monitorId errorCb markCb s) steps w → w.Sound := by
  intro all
  obtain ⟨w,run,misses⟩ := Run.of_exec_any (p := fun w : ResultWorld RequestPack =>
      decide (w.missing=[0])) openedWorld
    (handOverSteps++[.client (.call (.deleteStream 0 true) calmCalls.toClientEnv)]++reportSteps)
    (Step.of_next .android) (by decide)
  have sound := all .android _ 0 true true _ _ w run
  exact absurd (sound.found.symm.trans (of_decide_eq_true misses)) (by decide)

end Tests

end ResultWorld
end IotMedia.Camera

import IotMedia.Camera.SubmittedRequests
import IotMedia.Camera.CancelRequest
import IotMedia.Daemon.VideoBuffers

namespace IotMedia.Daemon

open IotMedia.Framework IotMedia.Camera IotMedia.Camera.RequestMetadata

/-- What the camera thread does next: take a message, or handle the one it has; CameraStart holds
mCameraMutex over its last two points. -/
inductive CameraPoint
  | pop
  | handle (event : UmdCameraMessage)
  | initCameraParams
  | submitRequest
  | ended
  deriving DecidableEq

/-- CameraStart is past its configuration. -/
def CameraPoint.locked (p : CameraPoint) : Prop := p=.initCameraParams ∨ p=.submitRequest

instance (p : CameraPoint) : Decidable p.locked := inferInstanceAs (Decidable (_∨_))

/-- The members of UmdCamera that make the repeating request, with the device client. -/
structure SettingsDelivery (M : Type) where
  submit : SubmitClient M
  metadata : M
  streamIds : List Int := []
  mRequestId : Int := -1
  mVideoBufferThread : Bool := false
  mMsg : List UmdCameraMessage := []
  point : CameraPoint := .pop
  /-- The last call of SubmitRequest since the last CameraStop, with its result. -/
  last : Option (Camera3Request M × Int) := none

inductive DeliveryLabel (M : Type)
  | setCameraMetadata (metadata : M)
  | push (m : UmdCameraMessage)
  | pop
  | configureFails (client : DeviceClient M) (created : Option Int)
  | configure (client : DeviceClient M) (streamId : Int)
  | initCameraParams (metadata : M)
  | submitRequest (env : SubmitListEnv M)
  | cameraStop
  | elsewhere (client : DeviceClient M)

namespace SettingsDelivery

variable {M : Type} [RequestMetadata M]

/-- SetCameraMetadataLocked. -/
def setCameraMetadataLocked (w : SettingsDelivery M) (metadata : M) : SettingsDelivery M :=
  { w with
    metadata := CameraMetadata.append CameraMetadata.empty metadata
    mMsg := w.mMsg++[.CAMERA_SUBMIT_REQUEST] }

omit [RequestMetadata M] in
/-- mRequest. -/
def request (w : SettingsDelivery M) : Camera3Request M := ⟨w.metadata,w.streamIds⟩

omit [RequestMetadata M] in
/-- CameraStop, with the deletion of the streams in the client left to what happens elsewhere. -/
def cameraStop (w : SettingsDelivery M) : SettingsDelivery M :=
  if w.mVideoBufferThread=false then w
  else { w with
    submit := (w.submit.cancelRequest w.mRequestId).2
    mVideoBufferThread := false
    streamIds := []
    last := none }

omit [RequestMetadata M] in
/-- What the client does in the meantime leaves its repeating list and the streams of the request
alone, and an error stays. -/
structure Meanwhile (w : SettingsDelivery M) (client : DeviceClient M) : Prop where
  repeating : client.handler.streamingRequests=w.submit.client.handler.streamingRequests
  works : client.Works → w.submit.client.Works
  registered : ∀ id∈w.streamIds,id∈client.streams.keys ∧ id≠client.inputStream.streamId

omit [RequestMetadata M] in
def withClient (w : SettingsDelivery M) (client : DeviceClient M) : SettingsDelivery M :=
  { w with submit := { w.submit with client := client } }

/-- The control requests and the gadget's callbacks run beside the camera thread. CameraStart over a
thread that was not joined ends the process, and so does an abort in the client. -/
inductive Step (u : BufferUsage) :
    SettingsDelivery M → DeliveryLabel M → SettingsDelivery M → Prop
  | setCameraMetadata {w : SettingsDelivery M} {metadata : M} (free : ¬w.point.locked)
      (untagged : findEntry (CameraMetadata.append CameraMetadata.empty metadata)
        .ANDROID_REQUEST_INPUT_STREAMS=none) :
    Step u w (.setCameraMetadata metadata) (w.setCameraMetadataLocked metadata)
  | push {w : SettingsDelivery M} {m : UmdCameraMessage} (m_ne : m≠.CAMERA_SUBMIT_REQUEST) :
    Step u w (.push m) { w with mMsg := w.mMsg++[m] }
  | pop {w : SettingsDelivery M} {m : UmdCameraMessage} {ms : List UmdCameraMessage}
      (at_ : w.point=.pop) (first : w.mMsg=m::ms) :
    Step u w .pop { w with mMsg := ms,point := .handle m }
  | configureFails {w : SettingsDelivery M} {client : DeviceClient M} {created : Option Int}
      (at_ : w.point=.handle .CAMERA_START) (joined : w.mVideoBufferThread=false)
      (meanwhile : w.Meanwhile client)
      -- EndConfigure fails after CreateStream
      (added : ∀ id,created=some id → id∈client.streams.keys ∧ id≠client.inputStream.streamId) :
    Step u w (.configureFails client created)
      { w.withClient client with
        streamIds := w.streamIds++created.toList
        mVideoBufferThread := true
        point := .pop }
  | configure {w : SettingsDelivery M} {client : DeviceClient M} {streamId : Int}
      (at_ : w.point=.handle .CAMERA_START) (joined : w.mVideoBufferThread=false)
      (meanwhile : w.Meanwhile client)
      (added : streamId∈client.streams.keys ∧ streamId≠client.inputStream.streamId) :
    Step u w (.configure client streamId)
      { w.withClient client with
        streamIds := w.streamIds++[streamId]
        mVideoBufferThread := true
        point := .initCameraParams }
  | initCameraParams {w : SettingsDelivery M} {metadata : M} (at_ : w.point=.initCameraParams)
      (untagged : findEntry (CameraMetadata.append CameraMetadata.empty metadata)
        .ANDROID_REQUEST_INPUT_STREAMS=none) :
    Step u w (.initCameraParams metadata)
      { w.setCameraMetadataLocked metadata with point := .submitRequest }
  | submitRequest {w : SettingsDelivery M} {env : SubmitListEnv M} {res : Int}
      (at_ : w.point=.submitRequest ∨ w.point=.handle .CAMERA_SUBMIT_REQUEST)
      (ret : (w.submit.queueSubmission u env [w.request] true).ret=.ok res) :
    Step u w (.submitRequest env)
      { w with
        submit := (w.submit.queueSubmission u env [w.request] true).submit
        mRequestId := res
        last := some (w.request,res)
        point := .pop }
  | cameraStop {w : SettingsDelivery M} (at_ : w.point=.handle .CAMERA_STOP) :
    Step u w .cameraStop { w.cameraStop with point := .pop }
  | terminate {w : SettingsDelivery M} (at_ : w.point=.handle .CAMERA_TERMINATE) :
    Step u w .cameraStop { w.cameraStop with point := .ended }
  | elsewhere {w : SettingsDelivery M} {client : DeviceClient M} (meanwhile : w.Meanwhile client) :
    Step u w (.elsewhere client) (w.withClient client)

omit [RequestMetadata M] in
def repeating (w : SettingsDelivery M) : List (CaptureRequest M) :=
  w.submit.client.handler.streamingRequests

/-- A new camera with the default request of an open device. -/
structure Start (w : SettingsDelivery M) : Prop where
  untagged : findEntry w.metadata .ANDROID_REQUEST_INPUT_STREAMS=none
  numbered : 0 ≤ w.submit.nextRequestId
  unsubmitted : w.repeating=[] ∧ w.submit.repeatingRequests=[]
  fresh : w.streamIds=[] ∧ w.mRequestId= -1 ∧ w.mVideoBufferThread=false ∧ w.last=none
  quiet : w.point=.pop ∧ w.mMsg=[]

/-- With no submission on its way, the last one had the settings as they are; if it was accepted,
the handler repeats one request, which stands for mRequest. -/
def Delivered (w : SettingsDelivery M) : Prop :=
  w.point=.pop → .CAMERA_SUBMIT_REQUEST∉w.mMsg → ∀ r id,w.last=some (r,id) →
    r.metadata=w.metadata ∧ (0 ≤ id → r=w.request ∧
      ∃ q,w.repeating=[q] ∧ DeviceClient.StandsFor id r 0 q)

section Submission

variable {u : BufferUsage} {env : SubmitListEnv M} {s : SubmitClient M} {r : Camera3Request M}

/-- A submission leaves the streams of the client. -/
theorem queueSubmission_kept (s : SubmitClient M) (env : SubmitListEnv M)
    (requests : List (Camera3Request M)) (streaming : Bool) :
    (s.queueSubmission u env requests streaming).submit.client.streams.keys=s.client.streams.keys ∧
    (s.queueSubmission u env requests streaming).submit.client.inputStream=
      s.client.inputStream := by
  refine ⟨(SubmitClient.queueSubmission_submits s env requests streaming).keys,?_⟩
  have queued (ms : List M) (t : SubmitClient M) : (t.queueRequests u env ms
      streaming).2.client.inputStream=t.client.inputStream := by
    have kept := (DeviceClient.getRequestList_kept u env.toClientEnv ms t.client 0).inputStream
    unfold SubmitClient.queueRequests
    dsimp only
    split_ifs
    all_goals exact kept
  rw [SubmitClient.queueSubmission_from]
  split_ifs
  · rfl
  unfold SubmitClient.queueSubmissionFrom
  cases s.client.state with
  | ERROR | NOT_INITIALIZED | CLOSED => rfl
  | NOT_CONFIGURED | CONFIGURED | RUNNING =>
    dsimp only
    cases s.client.checkRequests s.nextRequestId requests with
    | error stop => cases stop <;> rfl
    | ok ms =>
      have after := queued ms { s with nextRequestId := s.nextRequestId+requests.length }
      dsimp only
      split_ifs
      all_goals exact after

/-- What is repeated for a request that was accepted under an id. -/
structure Repeats (s : SubmitClient M) (r : Camera3Request M) (id : Int) : Prop where
  listed : id∈s.repeatingRequests
  streams : r.streamIds≠[]
  one : ∃ q,s.client.handler.streamingRequests=[q] ∧ DeviceClient.StandsFor id r 0 q

/-- SubmitRequest of an output request: it is refused and the repeating list stays, or it takes the
list's place. -/
theorem submission_cases [ErasableMetadata M] (output : s.client.OutputRequest r)
    (numbered : 0 ≤ s.nextRequestId) {res : Int}
    (ret : (s.queueSubmission u env [r] true).ret=.ok res) :
    s.nextRequestId ≤ (s.queueSubmission u env [r] true).submit.nextRequestId ∧
    (res<0 ∧ (s.queueSubmission u env [r] true).submit.repeatingRequests=s.repeatingRequests ∨
      0 ≤ res ∧ (s.queueSubmission u env [r] true).submit.repeatingRequests=
        s.repeatingRequests++[res] ∧
      Repeats (s.queueSubmission u env [r] true).submit r res) := by
  have outputs : ∀ q∈[r],s.client.OutputRequest q := by simpa using output
  rw [SubmitClient.queueSubmission_from,if_neg (List.cons_ne_nil _ _)] at ret ⊢
  have next : s.nextRequestId≤
      (s.queueSubmissionFrom u env s.nextRequestId [r] true).submit.nextRequestId := by
    rcases SubmitClient.queueSubmissionFrom_next (u := u) s env s.nextRequestId [r] true with
      same|counted
    · exact same.ge
    · rw [counted]
      exact Int.le_add_of_nonneg_right (Int.natCast_nonneg _)
  refine ⟨next,?_⟩
  rcases SubmitClient.queueSubmissionFrom_cases (u := u) s env s.nextRequestId [r] true with
    ⟨refused,same,-⟩|⟨waits,accepted,-,added,-,ms,checked,-⟩
  · obtain ⟨code,negative,ret_⟩ :=
      SubmitClient.queueSubmissionFrom_refused outputs s.nextRequestId refused
    rw [ret_] at ret
    cases ret
    exact .inl ⟨negative,same⟩
  · rw [accepted] at ret
    cases ret
    obtain ⟨-,list,stands,-,repeating⟩ :=
      SubmitClient.queued_outputs outputs s.nextRequestId waits
    have streams : r.streamIds≠[] := by
      rcases DeviceClient.checkRequests_outputs outputs s.nextRequestId with ⟨-,full⟩|bad
      · exact (full r List.mem_cons_self).2
      · rw [bad] at checked
        cases checked
    rw [if_pos rfl] at added repeating
    refine .inr ⟨numbered,added,?_,streams,?_⟩
    · rw [added]
      exact List.mem_append_right _ List.mem_cons_self
    · cases stands with
      | cons first rest =>
        cases rest
        exact ⟨_,repeating,first⟩

end Submission

/-- What the camera thread still has to submit the settings for. -/
def Pending (w : SettingsDelivery M) : Prop :=
  .CAMERA_SUBMIT_REQUEST∈w.mMsg ∨ w.point=.handle .CAMERA_SUBMIT_REQUEST ∨ w.point=.submitRequest

/-- A submission that was accepted is repeated, and is one for the streams as they are. -/
structure Inv (w : SettingsDelivery M) : Prop where
  untagged : findEntry w.metadata .ANDROID_REQUEST_INPUT_STREAMS=none
  numbered : 0 ≤ w.submit.nextRequestId
  registered : ∀ id∈w.streamIds,
    id∈w.submit.client.streams.keys ∧ id≠w.submit.client.inputStream.streamId
  threaded : w.mVideoBufferThread=false → w.streamIds=[]
  ids : ∀ id∈w.submit.repeatingRequests,0 ≤ id
  last : ∀ r id,w.last=some (r,id) → w.mRequestId=id ∧ (r.metadata=w.metadata ∨ w.Pending) ∧
    (0 ≤ id → r.streamIds=w.streamIds ∧ Repeats w.submit r id)
  unsent : w.last=none → w.submit.client.Works → w.mRequestId∉w.submit.repeatingRequests

variable {u : BufferUsage} {w v : SettingsDelivery M} {l : DeliveryLabel M}

omit [RequestMetadata M] in
theorem Meanwhile.repeats {client : DeviceClient M} (h : w.Meanwhile client) :
    (w.withClient client).repeating=w.repeating := h.repeating

theorem Repeats.withClient {client : DeviceClient M} {r : Camera3Request M} {id : Int}
    (h : w.Meanwhile client) (repeats : Repeats w.submit r id) :
    Repeats (w.withClient client).submit r id := by
  obtain ⟨listed,streams,q,one,stands⟩ := repeats
  exact ⟨listed,streams,q,h.repeating.trans one,stands⟩

/-- CameraStart comes when nothing of an accepted submission is left. -/
theorem Inv.joined (h : w.Inv) (joined : w.mVideoBufferThread=false) {r : Camera3Request M}
    {id : Int} (last : w.last=some (r,id)) : id<0 := by
  by_contra accepted
  obtain ⟨streams,repeats⟩ := (h.last r id last).2.2 (not_lt.mp accepted)
  exact repeats.streams (streams.trans (h.threaded joined))

omit [RequestMetadata M] in
/-- CancelRequest either takes back all that is repeated, or changes nothing. -/
theorem cancelRequest_cases (s : SubmitClient M) (id : Int) :
    s.client.Works ∧ id∈s.repeatingRequests ∧
      (s.cancelRequest id).2.client.handler.streamingRequests=[] ∧
      (s.cancelRequest id).2={ s with
        client := { s.client with handler := s.client.handler.clearRepeatingRequests.1 }
        repeatingRequests := [] } ∨
    (s.client.Works → id∉s.repeatingRequests) ∧ (s.cancelRequest id).2=s := by
  by_cases works : s.client.Works
  · rw [SubmitClient.cancelRequest_works works]
    split_ifs with listed
    · exact .inl ⟨works,listed,rfl,rfl⟩
    · exact .inr ⟨fun _ => listed,rfl⟩
  · rw [SubmitClient.cancelRequest_away works]
    exact .inr ⟨fun now => absurd now works,rfl⟩

theorem Inv.cameraStop (h : w.Inv) {stop : UmdCameraMessage} (at_ : w.point=.handle stop)
    (stop_ne : stop≠.CAMERA_SUBMIT_REQUEST) (p : CameraPoint) :
    ({ w.cameraStop with point := p } : SettingsDelivery M).Inv := by
  obtain ⟨untagged,numbered,registered,threaded,ids,last,unsent⟩ := h
  unfold SettingsDelivery.cameraStop
  cases thread : w.mVideoBufferThread with
  | false =>
    rw [if_pos rfl]
    refine ⟨untagged,numbered,registered,threaded,ids,fun r id there => ?_,unsent⟩
    obtain ⟨same,current,accepted⟩ := last r id there
    refine ⟨same,?_,accepted⟩
    rcases current with current|queued|handled|submitting
    · exact .inl current
    · exact .inr (.inl queued)
    · cases at_.symm.trans handled
      exact absurd rfl stop_ne
    · cases at_.symm.trans submitting
  | true =>
    rw [if_neg Bool.false_ne_true.symm]
    rcases cancelRequest_cases w.submit w.mRequestId with ⟨-,-,-,same⟩|⟨away,same⟩
    · simp only [same]
      exact ⟨untagged,numbered,by simp,fun _ => rfl,by simp,by simp,by simp⟩
    · simp only [same]
      exact ⟨untagged,numbered,by simp,fun _ => rfl,ids,by simp,fun _ => away⟩

theorem Inv.meanwhile (h : w.Inv) {client : DeviceClient M} (meanwhile : w.Meanwhile client) :
    (w.withClient client).Inv := by
  refine ⟨h.untagged,h.numbered,meanwhile.registered,h.threaded,h.ids,fun r id there => ?_,
    fun none works => h.unsent none (meanwhile.works works)⟩
  obtain ⟨same,current,accepted⟩ := h.last r id there
  exact ⟨same,current,fun taken => ⟨(accepted taken).1,(accepted taken).2.withClient meanwhile⟩⟩

/-- CameraStart before its submission. -/
theorem Inv.configured (h : w.Inv) (at_ : w.point=.handle .CAMERA_START)
    (joined : w.mVideoBufferThread=false) {client : DeviceClient M}
    (meanwhile : w.Meanwhile client) (created : List Int)
    (added : ∀ id∈created,id∈client.streams.keys ∧ id≠client.inputStream.streamId)
    (p : CameraPoint) :
    ({ w.withClient client with
      streamIds := w.streamIds++created
      mVideoBufferThread := true
      point := p } : SettingsDelivery M).Inv := by
  refine ⟨h.untagged,h.numbered,fun id member => ?_,fun thread => (by cases thread),h.ids,
    fun r id there => ?_,fun none works => h.unsent none (meanwhile.works works)⟩
  · rcases List.mem_append.mp member with old|new
    · exact meanwhile.registered id old
    · exact added id new
  · obtain ⟨same,current,-⟩ := h.last r id there
    refine ⟨same,?_,fun accepted => absurd (h.joined joined there) (not_lt.mpr accepted)⟩
    rcases current with current|queued|handled|submitting
    · exact .inl current
    · exact .inr (.inl queued)
    · cases at_.symm.trans handled
    · cases at_.symm.trans submitting

theorem Inv.step [ErasableMetadata M] (h : w.Inv) (step : Step u w l v) : v.Inv := by
  cases step with
  | setCameraMetadata free untagged =>
    refine ⟨untagged,h.numbered,h.registered,h.threaded,h.ids,fun r id there => ?_,h.unsent⟩
    obtain ⟨same,-,accepted⟩ := h.last r id there
    exact ⟨same,.inr (.inl (List.mem_append_right _ List.mem_cons_self)),accepted⟩
  | push m_ne =>
    refine ⟨h.untagged,h.numbered,h.registered,h.threaded,h.ids,fun r id there => ?_,h.unsent⟩
    obtain ⟨same,current,accepted⟩ := h.last r id there
    refine ⟨same,?_,accepted⟩
    rcases current with current|queued|busy
    · exact .inl current
    · exact .inr (.inl (List.mem_append_left _ queued))
    · exact .inr (.inr busy)
  | @pop m ms at_ first =>
    refine ⟨h.untagged,h.numbered,h.registered,h.threaded,h.ids,fun r id there => ?_,h.unsent⟩
    obtain ⟨same,current,accepted⟩ := h.last r id there
    refine ⟨same,?_,accepted⟩
    rcases current with current|queued|handled|submitting
    · exact .inl current
    · rw [first] at queued
      rcases List.mem_cons.mp queued with rfl|later
      · exact .inr (.inr (.inl rfl))
      · exact .inr (.inl later)
    · cases at_.symm.trans handled
    · cases at_.symm.trans submitting
  | @configureFails client created at_ joined meanwhile added =>
    exact h.configured at_ joined meanwhile _ (by simpa using added) _
  | @configure client streamId at_ joined meanwhile added =>
    exact h.configured at_ joined meanwhile _ (by simpa using added) _
  | initCameraParams at_ untagged =>
    refine ⟨untagged,h.numbered,h.registered,h.threaded,h.ids,fun r id there => ?_,h.unsent⟩
    obtain ⟨same,-,accepted⟩ := h.last r id there
    exact ⟨same,.inr (.inr (.inr rfl)),accepted⟩
  | @submitRequest env res at_ ret =>
    have output : w.submit.client.OutputRequest w.request := ⟨h.registered,h.untagged⟩
    obtain ⟨keys,input⟩ := queueSubmission_kept (u := u) w.submit env [w.request] true
    obtain ⟨next,ends⟩ := submission_cases output h.numbered ret
    refine ⟨h.untagged,h.numbered.trans next,?_,h.threaded,?_,?_,by simp⟩
    · simp only [keys,input]
      exact h.registered
    · intro id listed
      rcases ends with ⟨-,same⟩|⟨accepted,added,-⟩
      · rw [same] at listed
        exact h.ids id listed
      · rw [added] at listed
        rcases List.mem_append.mp listed with old|new
        · exact h.ids id old
        · rw [List.mem_singleton.mp new]
          exact accepted
    · intro r id there
      cases Option.some.inj there
      refine ⟨rfl,.inl rfl,fun accepted => ⟨rfl,?_⟩⟩
      rcases ends with ⟨refused,-⟩|⟨-,-,repeats⟩
      · exact absurd accepted (not_le.mpr refused)
      · exact repeats
  | cameraStop at_ => exact h.cameraStop at_ (by decide) _
  | terminate at_ => exact h.cameraStop at_ (by decide) _
  | elsewhere meanwhile => exact h.meanwhile meanwhile

theorem Start.inv (start : w.Start) : w.Inv := by
  obtain ⟨untagged,numbered,⟨-,listed⟩,⟨streams,-,-,last⟩,-⟩ := start
  refine ⟨untagged,numbered,by simp [streams],fun _ => streams,by simp [listed],by simp [last],?_⟩
  simp [listed]

theorem inv_of_run [ErasableMetadata M] {labels : List (DeliveryLabel M)} (start : w.Start)
    (hr : Run (Step u) w labels v) : v.Inv :=
  hr.invariant (fun _ _ _ h step => h.step step) start.inv

/-- However control requests, the gadget's callbacks and the camera thread interleave: with no
submission on its way, the last SubmitRequest since the last CameraStop had the settings as they
are, and where it was accepted the handler repeats just the one request that stands for it. -/
theorem settings_delivered [ErasableMetadata M] {labels : List (DeliveryLabel M)} (start : w.Start)
    (hr : Run (Step u) w labels v) : v.Delivered := by
  intro at_ none r id last
  have inv := inv_of_run start hr
  obtain ⟨-,current,accepted⟩ := inv.last r id last
  have same : r.metadata=v.metadata := by
    rcases current with current|queued|handled|submitting
    · exact current
    · exact absurd queued none
    · cases at_.symm.trans handled
    · cases at_.symm.trans submitting
  refine ⟨same,fun taken => ?_⟩
  obtain ⟨streams,repeats⟩ := accepted taken
  refine ⟨?_,repeats.one⟩
  cases r
  cases same
  cases streams
  rfl

section Preview

open StreamCalls (RequestPack previewCalls calmCalls strayRequest)

/-- An open camera with the default request. -/
def preview : SettingsDelivery RequestPack where
  submit := previewCalls.submit
  metadata := (strayRequest []).metadata

theorem preview_start : preview.Start := ⟨rfl,by decide,⟨rfl,rfl⟩,⟨rfl,rfl,rfl,rfl⟩,rfl,rfl⟩

def previewStarted : SettingsDelivery RequestPack :=
  { preview with
    streamIds := [0]
    mVideoBufferThread := true
    mMsg := [.CAMERA_SUBMIT_REQUEST]
    submit := (preview.submit.queueSubmission .android calmCalls
      [⟨(strayRequest []).metadata,[0]⟩] true).submit
    mRequestId := 0
    last := some (⟨(strayRequest []).metadata,[0]⟩,0) }

/-- The camera is started with stream 0. -/
theorem preview_starts : ∃ labels,Run (Step .android) preview labels previewStarted := by
  have meanwhile :
      Meanwhile { preview with point := .handle .CAMERA_START } preview.submit.client :=
    ⟨rfl,id,by simp [preview]⟩
  have pushed := (Run.nil : Run (Step .android) preview [] preview).snoc
    (.push (m := .CAMERA_START) (by decide))
  have popped := pushed.snoc (.pop rfl rfl)
  have configured := popped.snoc (i := .configure preview.submit.client 0)
    (.configure rfl rfl meanwhile (by decide))
  have told := configured.snoc (i := .initCameraParams (strayRequest []).metadata)
    (.initCameraParams rfl rfl)
  exact ⟨_,told.snoc (i := .submitRequest calmCalls)
    (.submitRequest (.inl rfl) rfl)⟩

/-- The submission that InitCameraParamsLocked has asked for is made as well. -/
theorem settings_delivered_preview : ∃ labels v,Run (Step .android) preview labels v ∧
    ∃ q,v.repeating=[q] ∧ DeviceClient.StandsFor 1 ⟨(strayRequest []).metadata,[0]⟩ 0 q := by
  obtain ⟨labels,started⟩ := preview_starts
  have again := (started.snoc (.pop rfl rfl)).snoc
    (i := .submitRequest calmCalls) (.submitRequest (.inr rfl) rfl)
  exact ⟨_,_,again,((settings_delivered preview_start again rfl (by decide) _ _ rfl).2
    (by decide)).2⟩

end Preview

/-- CameraStop ends what the handler repeats, if anything, exactly if the device has no error and
the last SubmitRequest was accepted: one that failed has overwritten mRequestId. -/
theorem stop_ends_iff [ErasableMetadata M] {labels : List (DeliveryLabel M)} (start : w.Start)
    (hr : Run (Step u) w labels v) (thread : v.mVideoBufferThread=true) :
    v.cameraStop.repeating=[] ↔
      v.repeating=[] ∨ v.submit.client.Works ∧ ∃ r id,v.last=some (r,id) ∧ 0 ≤ id := by
  have inv := inv_of_run start hr
  have stopped : v.cameraStop.repeating=
      (v.submit.cancelRequest v.mRequestId).2.client.handler.streamingRequests := by
    unfold SettingsDelivery.cameraStop
    rw [if_neg (by simp [thread])]
    rfl
  rw [stopped]
  rcases cancelRequest_cases v.submit v.mRequestId with ⟨works,listed,empty,-⟩|⟨away,same⟩
  · refine iff_of_true empty (.inr ⟨works,?_⟩)
    cases last : v.last with
    | none => exact absurd listed (inv.unsent last works)
    | some p =>
      refine ⟨p.1,p.2,rfl,?_⟩
      rw [← (inv.last p.1 p.2 last).1]
      exact inv.ids _ listed
  · rw [same]
    constructor
    · exact .inl
    · rintro (empty|⟨works,r,id,last,accepted⟩)
      · exact empty
      · obtain ⟨named,-,repeats⟩ := inv.last r id last
        exact absurd (named ▸ (repeats accepted).2.listed) (away works)

section Refused

open StreamCalls (RequestPack previewCalls calmCalls strayRequest)

/-- A stream's reconfiguration fails in the HAL when the settings are submitted again: CameraStop
asks for the error's id, and the request goes on. -/
theorem stop_ends_iff_refused : ∃ labels v,Run (Step .android) preview labels v ∧
    v.point=.handle .CAMERA_STOP ∧ v.cameraStop.repeating≠[] := by
  obtain ⟨labels,started⟩ := preview_starts
  have meanwhile : Meanwhile
      { previewStarted with point := .handle .CAMERA_SUBMIT_REQUEST,mMsg := [] }
      { previewStarted.submit.client with reconfig := true } := ⟨rfl,id,by decide⟩
  have refused := ((started.snoc (.pop rfl rfl)).snoc (.elsewhere meanwhile)).snoc
    (i := .submitRequest { calmCalls with configured := false }) (.submitRequest (.inr rfl) rfl)
  have stopping := (refused.snoc (.push (m := .CAMERA_STOP) (by decide))).snoc (.pop rfl rfl)
  refine ⟨_,_,stopping,rfl,?_⟩
  intro ended
  rcases (stop_ends_iff preview_start stopping rfl).mp ended with none|⟨-,r,id,last,accepted⟩
  · cases none
  · cases last
    exact absurd accepted (by decide)

end Refused

end SettingsDelivery

end IotMedia.Daemon

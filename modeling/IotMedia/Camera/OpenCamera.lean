import IotMedia.Camera.ErrorState
import IotMedia.Camera.ThreadHelper
import IotMedia.Framework.MachineInt

namespace IotMedia.Camera

open IotMedia.Framework

def EALREADY : Int := 114

/-- Run as a whole; `created` says whether std::thread gets its thread. -/
def ThreadHelperState.run (created : Bool) : ThreadHelperState → Int × ThreadHelperState
  | .kActive => (-EALREADY,.kActive)
  | .kToIdle | .kIdle | .kInactive => if created then (0,.kActive) else (-EINTR,.kInactive)

/-- The entries of a camera's characteristics that the client reads. -/
structure CameraCharacteristics where
  partialResultCount : List Int
  availableCapabilities : List Nat
  availableStreamConfigs : List Int
  jpegMaxSize : List Int

/-- The interface that a callback brings, with the status OK or another one; a call that fails in
transport has no callback. -/
abbrev InterfaceAnswer := Option (Bool × Option Nat)

/-- The pointer that the callback sets where the status is OK. -/
def castFrom (answer : InterfaceAnswer) (old : Option Nat) : Option Nat :=
  match answer with
  | some (true,interface) => interface
  | _ => old

/-- What Initialize meets: the provider, its camera ids, whether it answers for its vendor tags, and
the results of making and setting their descriptor. -/
structure InitializeEnv where
  service : Option Nat
  cameraIdList : Option (List String)
  vendorTags : Bool
  createDescriptor : Int
  setDescriptor : Int

/-- What OpenCamera meets: the answers of the HAL, the latter two none without an answer, and of the
two threads. -/
structure OpenEnv where
  deviceInterface : InterfaceAnswer
  session : InterfaceAnswer
  characteristics : Option (Bool × CameraCharacteristics)
  resultMetadataQueue : Option Bool
  monitorCreated : Bool
  acquired : Int
  handlerCreated : Bool

inductive OpenEffect
  | closeSession (session : Nat)
  | clearVendorTags
  | client (effect : ClientEffect)

/-- The fields of Camera3DeviceClient that opening a camera reads and writes; an interface is none
where its pointer is null, and clientCount is shared by all clients. -/
structure OpeningClient (M : Type) where
  client : DeviceClient M
  id : Nat
  clientCount : Nat
  cameraProvider : Option Nat
  cameraDevice : Option Nat
  cameraSession : Option Nat
  cameraDeviceNames : List String
  numberOfCameras : Nat
  allocDeviceInterface : Bool
  resultMetadataQueue : Bool
  partialResultCount : Int
  isPartialResultSupported : Bool
  isHfrSupported : Bool
  monitorThread : ThreadHelperState
  handlerThread : ThreadHelperState

structure OpenResult (M : Type) where
  ret : Int
  client : OpeningClient M
  effects : List OpenEffect

def CONSTRAINED_HIGH_SPEED_VIDEO : Nat := 9

def RequestHandler.initializeHandler {M : Type} (s : RequestHandler M) (errorCb : Bool) (acquired : Int) :
    RequestHandler M :=
  { s with
    errorCb := errorCb
    markCb := true
    monitorId := acquired }

namespace OpeningClient

variable {M : Type}

/-- The label exit of Initialize. -/
def abandonInitialize (c : OpeningClient M) (res : Int) : OpenResult M :=
  ⟨res,{ c with
    allocDeviceInterface := false
    cameraProvider := none
    cameraDeviceNames := [] },if c.clientCount=0 then [.clearVendorTags] else []⟩

def finishInitialize (c : OpeningClient M) : OpenResult M :=
  ⟨0,{ c with
    clientCount := (c.clientCount+1)%2^32
    allocDeviceInterface := true
    client := { c.client with
      state := .CLOSED
      nextStreamId := 0
      reconfig := true } },[]⟩

/-- Initialize; res is still 0 where the vendor tags cannot be asked for. -/
def initializeClient (c : OpeningClient M) (env : InitializeEnv) : OpenResult M :=
  if c.client.state≠.NOT_INITIALIZED then c.abandonInitialize (-ENOSYS)
  else
    let c := { c with cameraProvider := env.service }
    if env.service=none then c.abandonInitialize (-ENOSYS)
    else
      let names := c.cameraDeviceNames++env.cameraIdList.getD []
      let c := { c with cameraDeviceNames := names,numberOfCameras := names.length%2^32 }
      if c.clientCount=0 then
        if env.vendorTags=false then c.abandonInitialize 0
        else if env.createDescriptor≠0 then c.abandonInitialize env.createDescriptor
        else if env.setDescriptor≠0 then c.abandonInitialize env.setDescriptor
        else c.finishInitialize
      else c.finishInitialize

/-- The label exit of OpenCamera; state_ stays. -/
def abandonOpen (c : OpeningClient M) (res : Int) (effects : List OpenEffect) : OpenResult M :=
  ⟨res,{ c with cameraDevice := none,cameraSession := none },
    effects++c.cameraSession.toList.map .closeSession⟩

/-- The characteristics replace device_info_ whatever their status is. -/
def describe (c : OpeningClient M) (info : CameraCharacteristics) : OpeningClient M :=
  { c with client := { c.client with
      availableStreamConfigs := info.availableStreamConfigs
      jpegMaxSize := info.jpegMaxSize } }

def readSupport (c : OpeningClient M) (info : CameraCharacteristics) : OpeningClient M :=
  let count := info.partialResultCount.head?.map IntType.u32.cast
  { c with
    partialResultCount := count.getD c.partialResultCount
    isPartialResultSupported := (count.map fun n => decide (1<n)).getD c.isPartialResultSupported
    isHfrSupported :=
      c.isHfrSupported || info.availableCapabilities.contains CONSTRAINED_HIGH_SPEED_VIDEO }

/-- OpenCamera from `id_ = idx`: the result of the monitor's Run is not kept. -/
def startThreads (c : OpeningClient M) (idx : Nat) (env : OpenEnv) : OpenResult M :=
  let c := { c with
    id := idx
    monitorThread := (c.monitorThread.run env.monitorCreated).2
    client := { c.client with
      state := .NOT_CONFIGURED
      handler := c.client.handler.initializeHandler c.client.errorCb env.acquired } }
  let ran := c.handlerThread.run env.handlerCreated
  let c := { c with handlerThread := ran.2 }
  if ran.1<0 then
    let failed := c.client.setErrorStateLocked
    abandonOpen { c with client := failed.1 } ran.1 (failed.2.map .client)
  else ⟨ran.1,c,[]⟩

/-- OpenCamera; the calls of the HAL that fail do not set res. -/
def openCamera (c : OpeningClient M) (idx : Nat) (env : OpenEnv) : OpenResult M :=
  if c.numberOfCameras ≤ idx then ⟨-EINVAL,c,[]⟩
  else if c.cameraProvider=none then ⟨-ENODEV,c,[]⟩
  else if c.cameraDevice≠none then ⟨-EINVAL,c,[]⟩
  else if c.client.state≠.CLOSED then c.abandonOpen (-ENOSYS) []
  else
    let c := { c with cameraDevice := castFrom env.deviceInterface c.cameraDevice }
    if env.deviceInterface=none ∨ c.cameraDevice=none then c.abandonOpen 0 []
    else
      let c := { c with cameraSession := castFrom env.session c.cameraSession }
      if env.session=none ∨ c.cameraSession=none then c.abandonOpen 0 []
      else
        match env.characteristics with
        | none => c.abandonOpen 0 []
        | some (statusOk,info) =>
          let c := c.describe info
          if statusOk=false then c.abandonOpen 0 []
          else
            match env.resultMetadataQueue with
            | none => c.abandonOpen 0 []
            | some valid =>
              startThreads (readSupport { c with resultMetadataQueue := valid } info) idx env

/-- The fields that a failed call is to leave as they were. -/
structure SameOpening (c d : OpeningClient M) : Prop where
  state : d.client.state=c.client.state
  device : d.cameraDevice=c.cameraDevice
  session : d.cameraSession=c.cameraSession

/-- The call returns 0 only if it has done its work, and can be repeated where it fails. -/
structure Reports (expected : State) (done : OpeningClient M → Prop) (c : OpeningClient M)
    (r : OpenResult M) : Prop where
  success : r.ret=0 → done r.client
  repeatable : r.ret≠0 → c.client.state=expected → SameOpening c r.client

def Initialized (c : OpeningClient M) : Prop :=
  c.client.state=.CLOSED ∧ c.allocDeviceInterface=true

def Opened (c : OpeningClient M) : Prop :=
  c.client.state=.NOT_CONFIGURED ∧ c.cameraDevice≠none ∧ c.cameraSession≠none ∧
    c.handlerThread=.kActive

/-- The first client finds a provider that does not answer for its vendor tags. -/
def LosesVendorTags (c : OpeningClient M) (env : InitializeEnv) : Prop :=
  c.client.state=.NOT_INITIALIZED ∧ env.service≠none ∧ c.clientCount=0 ∧ env.vendorTags=false

/-- The checks before the first call of OpenCamera refuse it. -/
def RefusesOpen (c : OpeningClient M) (idx : Nat) : Prop :=
  c.numberOfCameras ≤ idx ∨ c.cameraProvider=none ∨ c.cameraDevice≠none ∨ c.client.state≠.CLOSED

/-- Every call of the HAL answers and leaves what it is asked for. -/
structure Answered (c : OpeningClient M) (env : OpenEnv) : Prop where
  device : env.deviceInterface≠none ∧ castFrom env.deviceInterface c.cameraDevice≠none
  session : env.session≠none ∧ castFrom env.session c.cameraSession≠none
  characteristics : ∃ info,env.characteristics=some (true,info)
  resultMetadataQueue : env.resultMetadataQueue≠none

/-- The request handler's thread is not there yet and is started. -/
def Starts (c : OpeningClient M) (env : OpenEnv) : Prop :=
  c.handlerThread≠.kActive ∧ env.handlerCreated=true

variable {c : OpeningClient M}

theorem abandonInitialize_same (c : OpeningClient M) (res : Int) :
    SameOpening c (c.abandonInitialize res).client := ⟨rfl,rfl,rfl⟩

/-- A failing Initialize has changed neither the state nor the two interfaces. -/
theorem initialize_repeatable (c : OpeningClient M) (env : InitializeEnv)
    (failed : (c.initializeClient env).ret≠0) : SameOpening c (c.initializeClient env).client := by
  unfold initializeClient at failed ⊢
  dsimp only at failed ⊢
  split_ifs at failed ⊢ with away missing first silent undescribed unset
  · exact abandonInitialize_same c _
  · exact ⟨rfl,rfl,rfl⟩
  · exact ⟨rfl,rfl,rfl⟩
  · exact ⟨rfl,rfl,rfl⟩
  · exact ⟨rfl,rfl,rfl⟩
  · exact absurd rfl failed
  · exact absurd rfl failed

/-- The only way to fail with 0. -/
theorem initialize_success_iff (c : OpeningClient M) (env : InitializeEnv) :
    ((c.initializeClient env).ret=0 → Initialized (c.initializeClient env).client) ↔
      ¬c.LosesVendorTags env := by
  have code : (-ENOSYS : Int)≠0 := by decide
  unfold initializeClient LosesVendorTags
  dsimp only
  split_ifs with away missing first silent undescribed unset
  · exact iff_of_true (fun ok => absurd ok code) fun lost => away lost.1
  · exact iff_of_true (fun ok => absurd ok code) fun lost => lost.2.1 missing
  · refine iff_of_false (fun reports => ?_)
      (not_not.mpr ⟨not_not.mp away,missing,first,silent⟩)
    have state : c.client.state=.CLOSED := (reports rfl).1
    rw [not_not.mp away] at state
    cases state
  · exact iff_of_true (fun ok => absurd ok undescribed) fun lost => silent lost.2.2.2
  · exact iff_of_true (fun ok => absurd ok unset) fun lost => silent lost.2.2.2
  · exact iff_of_true (fun _ => ⟨rfl,rfl⟩) fun lost => silent lost.2.2.2
  · exact iff_of_true (fun _ => ⟨rfl,rfl⟩) fun lost => first lost.2.2.1

/-- The refusals: the first three leave before the lock is taken, the last one by the label exit. -/
theorem refused_cases {idx : Nat} (env : OpenEnv) (refused : c.RefusesOpen idx) :
    (∃ res,res≠0 ∧ c.openCamera idx env=⟨res,c,[]⟩) ∨
      c.client.state≠.CLOSED ∧ c.openCamera idx env=c.abandonOpen (-ENOSYS) [] := by
  unfold openCamera
  by_cases unknown : c.numberOfCameras ≤ idx
  · rw [if_pos unknown]
    exact Or.inl ⟨_,by decide,rfl⟩
  rw [if_neg unknown]
  by_cases missing : c.cameraProvider=none
  · rw [if_pos missing]
    exact Or.inl ⟨_,by decide,rfl⟩
  rw [if_neg missing]
  by_cases open_ : c.cameraDevice≠none
  · rw [if_pos open_]
    exact Or.inl ⟨_,by decide,rfl⟩
  rw [if_neg open_]
  have away : c.client.state≠.CLOSED := by
    rcases refused with h|h|h|h
    · exact absurd h unknown
    · exact absurd h missing
    · exact absurd h open_
    · exact h
  rw [if_pos away]
  exact Or.inr ⟨away,rfl⟩

theorem closed_of_accepted {idx : Nat} (accepted : ¬c.RefusesOpen idx) :
    c.client.state=.CLOSED := by
  by_contra away
  exact accepted (Or.inr (Or.inr (Or.inr away)))

theorem refused_open {idx : Nat} (env : OpenEnv) (refused : c.RefusesOpen idx) :
    Reports .CLOSED Opened c (c.openCamera idx env) := by
  rcases refused_cases env refused with ⟨res,failed,same⟩|⟨away,same⟩
  · rw [same]
    exact ⟨fun ok => absurd ok failed,fun _ _ => ⟨rfl,rfl,rfl⟩⟩
  · rw [same]
    have failed : (-ENOSYS : Int)≠0 := by decide
    exact ⟨fun ok => absurd ok failed,fun _ closed => absurd closed away⟩

/-- A HAL call fails: 0 is returned, without a device. -/
theorem unanswered_open {idx : Nat} {env : OpenEnv} (accepted : ¬c.RefusesOpen idx)
    (fails : ¬c.Answered env) :
    (c.openCamera idx env).ret=0 ∧ (c.openCamera idx env).client.cameraDevice=none ∧
      (c.openCamera idx env).client.client.state=c.client.state := by
  unfold RefusesOpen at accepted
  push Not at accepted
  obtain ⟨known,provider,closedDevice,closed⟩ := accepted
  unfold openCamera
  rw [if_neg (not_le.mpr known),if_neg provider,if_neg (not_not.mpr closedDevice),
    if_neg (not_not.mpr closed)]
  dsimp only
  by_cases device : env.deviceInterface=none ∨ castFrom env.deviceInterface c.cameraDevice=none
  · rw [if_pos device]
    exact ⟨rfl,rfl,rfl⟩
  rw [if_neg device]
  by_cases session : env.session=none ∨ castFrom env.session c.cameraSession=none
  · rw [if_pos session]
    exact ⟨rfl,rfl,rfl⟩
  rw [if_neg session]
  cases described : env.characteristics with
  | none => exact ⟨rfl,rfl,rfl⟩
  | some info =>
    obtain ⟨statusOk,info⟩ := info
    cases statusOk with
    | false => exact ⟨rfl,rfl,rfl⟩
    | true =>
      cases queue : env.resultMetadataQueue with
      | none => exact ⟨rfl,rfl,rfl⟩
      | some valid =>
        exact absurd ⟨not_or.mp device,not_or.mp session,⟨info,described⟩,by simp [queue]⟩ fails

/-- All HAL calls succeed, and the threads are started. -/
theorem answered_open {idx : Nat} {env : OpenEnv} (accepted : ¬c.RefusesOpen idx)
    (answered : c.Answered env) : ∃ d : OpeningClient M,
      c.openCamera idx env=d.startThreads idx env ∧ d.cameraDevice≠none ∧ d.cameraSession≠none ∧
        d.handlerThread=c.handlerThread := by
  unfold RefusesOpen at accepted
  push Not at accepted
  obtain ⟨known,provider,closedDevice,closed⟩ := accepted
  obtain ⟨info,described⟩ := answered.characteristics
  obtain ⟨valid,queue⟩ := Option.ne_none_iff_exists'.mp answered.resultMetadataQueue
  refine ⟨readSupport { describe { c with
      cameraDevice := castFrom env.deviceInterface c.cameraDevice
      cameraSession := castFrom env.session c.cameraSession } info with
    resultMetadataQueue := valid } info,?_,answered.device.2,answered.session.2,rfl⟩
  unfold openCamera
  rw [if_neg (not_le.mpr known),if_neg provider,if_neg (not_not.mpr closedDevice),
    if_neg (not_not.mpr closed)]
  dsimp only
  rw [if_neg (not_or.mpr answered.device),if_neg (not_or.mpr answered.session),described,queue]
  rfl

theorem run_starts (created : Bool) (thread : ThreadHelperState) :
    (thread.run created).1=0 ∧ (thread.run created).2=.kActive ∧ thread≠.kActive ∧ created=true ∨
      (thread.run created).1<0 ∧ ¬(thread≠.kActive ∧ created=true) := by
  cases thread <;> cases created <;> decide

theorem started_open (c : OpeningClient M) (idx : Nat) {env : OpenEnv}
    (ok : (c.handlerThread.run env.handlerCreated).1=0)
    (active : (c.handlerThread.run env.handlerCreated).2=.kActive) (device : c.cameraDevice≠none)
    (session : c.cameraSession≠none) :
    (c.startThreads idx env).ret=0 ∧ Opened (c.startThreads idx env).client := by
  unfold startThreads
  dsimp only
  rw [if_neg (by rw [ok]; decide)]
  exact ⟨ok,rfl,device,session,active⟩

theorem setErrorState_opened {c : DeviceClient M} (opened : c.state=.NOT_CONFIGURED) :
    c.setErrorStateLocked.1.state=.ERROR := by
  rcases c.setErrorState_error with error|⟨-,away⟩
  · exact error
  · rw [opened] at away
    rcases away with h|h <;> cases h

/-- The Run of the request handler fails after state_ has gone on. -/
theorem unstarted_state (c : OpeningClient M) (idx : Nat) {env : OpenEnv}
    (fails : (c.handlerThread.run env.handlerCreated).1<0) :
    (c.startThreads idx env).ret≠0 ∧ (c.startThreads idx env).client.client.state=.ERROR := by
  unfold startThreads
  dsimp only
  rw [if_pos fails]
  exact ⟨ne_of_lt fails,setErrorState_opened rfl⟩

/-- OpenCamera reports its failure where no call of the HAL is made, and else only where there is
none. -/
theorem open_reports_iff (c : OpeningClient M) (idx : Nat) (env : OpenEnv) :
    Reports .CLOSED Opened c (c.openCamera idx env) ↔
      c.RefusesOpen idx ∨ c.Answered env ∧ c.Starts env := by
  by_cases refused : c.RefusesOpen idx
  · exact iff_of_true (refused_open env refused) (Or.inl refused)
  rw [or_iff_right refused]
  have closed := closed_of_accepted refused
  by_cases answered : c.Answered env
  swap
  · obtain ⟨ok,gone,-⟩ := unanswered_open refused answered
    exact iff_of_false (fun reports => (reports.success ok).2.1 gone) fun h => answered h.1
  rw [and_iff_right answered]
  obtain ⟨d,same,device,session,thread⟩ := answered_open refused answered
  rw [same,Starts,← thread]
  rcases run_starts env.handlerCreated d.handlerThread with ⟨ok,active,starts⟩|⟨fails,stays⟩
  · obtain ⟨ret,opened⟩ := started_open d idx ok active device session
    exact iff_of_true ⟨fun _ => opened,fun failed => absurd ret failed⟩ starts
  · obtain ⟨failed,error⟩ := unstarted_state d idx fails
    refine iff_of_false (fun reports => ?_) stays
    have state := (reports.repeatable failed closed).state
    rw [error,closed] at state
    cases state

/-- Opening a camera reports its failures exactly where these calls do not fail. -/
theorem opening_reports_iff (c : OpeningClient M) (given : InitializeEnv) (idx : Nat)
    (env : OpenEnv) :
    (Reports .NOT_INITIALIZED Initialized c (c.initializeClient given) ↔
      ¬c.LosesVendorTags given) ∧
    (Reports .CLOSED Opened c (c.openCamera idx env) ↔
      c.RefusesOpen idx ∨ c.Answered env ∧ c.Starts env) := by
  refine ⟨?_,open_reports_iff c idx env⟩
  rw [← initialize_success_iff]
  exact ⟨fun reports => reports.success,
    fun success => ⟨success,fun failed _ => initialize_repeatable c given failed⟩⟩

def newClient : OpeningClient Unit where
  client := DeviceClient.sampleClient .NOT_INITIALIZED KeyedVector.empty []
  id := 0
  clientCount := 0
  cameraProvider := none
  cameraDevice := none
  cameraSession := none
  cameraDeviceNames := []
  numberOfCameras := 0
  allocDeviceInterface := false
  resultMetadataQueue := false
  partialResultCount := 0
  isPartialResultSupported := false
  isHfrSupported := false
  monitorThread := .kInactive
  handlerThread := .kInactive

def oneCamera : InitializeEnv := ⟨some 1,some ["0"],true,0,0⟩

/-- The camera is in use elsewhere: its open has another status than OK. -/
def inUse : OpenEnv where
  deviceInterface := some (true,some 2)
  session := some (false,none)
  characteristics := some (true,⟨[],[],[],[]⟩)
  resultMetadataQueue := some true
  monitorCreated := true
  acquired := 0
  handlerCreated := true

theorem open_failure_unreported : ¬∀ (c : OpeningClient Unit) given idx env,
    Reports .NOT_INITIALIZED Initialized c (c.initializeClient given) ∧
      Reports .CLOSED Opened c (c.openCamera idx env) := by
  intro all
  have reports := (all (newClient.initializeClient oneCamera).client oneCamera 0 inUse).2
  have opened := reports.success rfl
  exact opened.2.1 rfl

/-! The client of the other modules goes through the same states. -/

theorem refused_client {idx : Nat} (env : OpenEnv) (refused : c.RefusesOpen idx) :
    (c.openCamera idx env).client.client=c.client := by
  rcases refused_cases env refused with ⟨res,-,same⟩|⟨-,same⟩
  · rw [same]
  · rw [same,abandonOpen]

/-- The provider is there, and the first client gets its vendor tags. -/
def Provided (c : OpeningClient M) (env : InitializeEnv) : Prop :=
  env.service≠none ∧ (c.clientCount=0 →
    env.vendorTags=true ∧ env.createDescriptor=0 ∧ env.setDescriptor=0)

theorem initializeClient_client (c : OpeningClient M) (env : InitializeEnv) {ready : Bool}
    (h : ready=true ↔ c.Provided env) :
    (c.initializeClient env).client.client=c.client.initializeClient ready := by
  unfold initializeClient DeviceClient.initializeClient
  dsimp only
  by_cases away : c.client.state≠.NOT_INITIALIZED
  · rw [if_pos away,if_pos (Or.inl away)]
    rfl
  rw [if_neg away]
  by_cases provided : c.Provided env
  · rw [if_neg provided.1,if_neg (not_or.mpr ⟨away,by simp [h.mpr provided]⟩)]
    by_cases first : c.clientCount=0
    · obtain ⟨tags,created,set_⟩ := provided.2 first
      rw [if_pos first,if_neg (by simp [tags]),if_neg (not_not.mpr created),
        if_neg (not_not.mpr set_)]
      rfl
    · rw [if_neg first]
      rfl
  · have unready : ready=false := by
      rw [← Bool.not_eq_true,h]
      exact provided
    rw [if_pos (Or.inr unready)]
    split_ifs with missing first silent undescribed unset
    · rfl
    · rfl
    · rfl
    · rfl
    · exact absurd ⟨missing,fun _ => ⟨by simpa using silent,not_not.mp undescribed,
        not_not.mp unset⟩⟩ provided
    · exact absurd ⟨missing,fun zero => absurd zero first⟩ provided

/-- The state is that of OpenCamera without its calls. -/
theorem openCamera_state (c : OpeningClient M) (idx : Nat) (env : OpenEnv) {opened runs : Bool}
    (ho : opened=true ↔ ¬c.RefusesOpen idx ∧ c.Answered env) (hr : runs=true ↔ c.Starts env) :
    (c.openCamera idx env).client.client.state=(c.client.openCamera opened runs).state := by
  unfold DeviceClient.openCamera
  by_cases through : ¬c.RefusesOpen idx ∧ c.Answered env
  · obtain ⟨refused,answered⟩ := through
    have closed := closed_of_accepted refused
    obtain ⟨d,same,device,session,thread⟩ := answered_open refused answered
    rw [if_neg (not_or.mpr ⟨not_not.mpr closed,by simp [ho.mpr ⟨refused,answered⟩]⟩),same]
    dsimp only
    rcases run_starts env.handlerCreated d.handlerThread with ⟨ok,active,starts⟩|⟨fails,stays⟩
    · rw [thread] at starts
      rw [if_pos (hr.mpr starts)]
      exact (started_open d idx ok active device session).2.1
    · rw [thread] at stays
      rw [if_neg (fun runs => stays (hr.mp runs)),(unstarted_state d idx fails).2]
      exact (setErrorState_opened rfl).symm
  · have unopened : opened=false := by
      rw [← Bool.not_eq_true,ho]
      exact through
    rw [if_pos (Or.inr unopened)]
    by_cases refused : c.RefusesOpen idx
    · rw [refused_client env refused]
    · exact (unanswered_open refused fun answered => through ⟨refused,answered⟩).2.2

end OpeningClient
end IotMedia.Camera

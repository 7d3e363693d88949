import IotMedia.Camera.DeviceClient
import IotMedia.Framework.LockOrder

namespace IotMedia.Camera

open IotMedia.Framework
open IotMedia.Framework.LockOp

/-- The mutexes lock_ and pending_requests_lock_ of the device client. -/
inductive ClientMutex
  | lock
  | pendingRequestsLock
  deriving DecidableEq

/-- The methods a client may call, with what decides their acquisitions: whether the checks
before lock_ pass, and the rounds of the waits that give lock_ up and take it again; of
WaitUntilIdle the rounds after the first. -/
inductive ApiCall
  | initializeClient
  | openCamera (checked : Bool)
  | beginConfigure
  | endConfigure (checked : Bool)
  | createStream (waits : Nat)
  | createInputStream (waits : Nat)
  | deleteStream (waits : Nat)
  | createDefaultRequest
  | submitRequestList (requests waits : Nat)
  | returnStreamBuffer
  | cancelRequest
  | getCameraInfo
  | getNumberOfCameras
  | getRequestIds
  | waitUntilIdle (state : State) (more : Nat)
  | flush
  | prepare
  | tearDown

/-- The loop of WaitUntilStateThenRelock. -/
def waitRounds (waits : Nat) : List (LockOp ClientMutex) :=
  (List.replicate waits [.release .lock,.acquire .lock]).flatten

def lockedSection (waits : Nat) : List (LockOp ClientMutex) :=
  .acquire .lock::waitRounds waits++[.release .lock]

/-- The rounds of WaitUntilStateThenRelock(false): none unless the camera runs, and then one at
least, that a state update or the time-out ends. -/
def drainRounds : State → Nat → Nat
  | .RUNNING,more => more+1
  | _,_ => 0

/-- WaitUntilIdle where WaitUntilDrainedLocked gets to its end. -/
def drainSection (waits : Nat) : List (LockOp ClientMutex) :=
  .acquire .lock::waitRounds waits++
    [.acquire .pendingRequestsLock,.release .pendingRequestsLock,.release .lock]

/-- SetErrorState and SetErrorStateV. -/
def setErrorState : List (LockOp ClientMutex) := lockedSection 0

namespace ApiCall

def script : ApiCall → List (LockOp ClientMutex)
  | .initializeClient | .createDefaultRequest | .returnStreamBuffer | .cancelRequest | .prepare
  | .tearDown => lockedSection 0
  | .openCamera checked | .endConfigure checked => if checked then lockedSection 0 else []
  | .createStream waits | .createInputStream waits | .deleteStream waits => lockedSection waits
  | .submitRequestList requests waits => if requests=0 then [] else lockedSection waits
  | .beginConfigure | .getCameraInfo | .getNumberOfCameras | .getRequestIds => []
  | .flush => lockedSection 0++lockedSection 0
  | .waitUntilIdle state more =>
    match state with
    | .NOT_INITIALIZED | .CLOSED | .NOT_CONFIGURED => lockedSection 0
    | .CONFIGURED | .ERROR | .RUNNING => drainSection (drainRounds state more)

/-- The call takes lock_. -/
def Locks : ApiCall → Prop
  | .openCamera checked | .endConfigure checked => checked=true
  | .submitRequestList requests _ => requests≠0
  | .beginConfigure | .getCameraInfo | .getNumberOfCameras | .getRequestIds => False
  | _ => True

/-- A WaitUntilIdle that gets to the end of WaitUntilDrainedLocked. -/
def Drains : ApiCall → Prop
  | .waitUntilIdle state _ => state=.CONFIGURED ∨ state=.ERROR ∨ state=.RUNNING
  | _ => False

end ApiCall

/-- What a HAL message makes the client do with pending_requests_lock_ held, if the message takes
it, each event with the methods its StreamCallback calls; and what it does without it. -/
structure MessageTrace (M : Type) where
  underLock : Option (List (ResultEvent M × List ApiCall))
  unlocked : List (ResultEvent M)

/-- What the threads run. `callbacks` gives the methods that the StreamCallback of each event
calls, `s` is the state the message meets. -/
inductive EntryPoint (M : Type)
  | handleCaptureResult (s : PendingRequests M) (result : CaptureResult)
      (callbacks : Nat → List ApiCall)
  | notifyShutter (s : PendingRequests M) (frameNumber : Nat) (timestamp : Int)
      (callbacks : Nat → List ApiCall)
  | notifyError (s : PendingRequests M) (errorCode : ErrorCode) (frameNumber : Nat)
  | notifyUnknown
  | markPendingRequest
  | setErrorStateV
  | notifyStatus
  | api (call : ApiCall)

variable {M : Type}

/-- The StreamCallback is called for a buffer that is not in error. -/
def ResultEvent.script (event : ResultEvent M) (calls : List ApiCall) :
    List (LockOp ClientMutex) :=
  match event with
  | .setErr _ => setErrorState
  | .returnBufferToClient b _ _ =>
    if b.status=.OK then (calls.map ApiCall.script).flatten else []
  | .shutterCb _ _ | .resultCb _ _ | .errorCb _ _ => []

/-- The event takes lock_. -/
def ResultEvent.Locks (event : ResultEvent M) (calls : List ApiCall) : Prop :=
  match event with
  | .setErr _ => True
  | .returnBufferToClient b _ _ => b.status=.OK ∧ ∃ call∈calls,call.Locks
  | .shutterCb _ _ | .resultCb _ _ | .errorCb _ _ => False

/-- The event's StreamCallback drains. -/
def ResultEvent.Drains (event : ResultEvent M) (calls : List ApiCall) : Prop :=
  match event with
  | .returnBufferToClient b _ _ => b.status=.OK ∧ ∃ call∈calls,call.Drains
  | .setErr _ | .shutterCb _ _ | .resultCb _ _ | .errorCb _ _ => False

namespace MessageTrace

def script (trace : MessageTrace M) : List (LockOp ClientMutex) :=
  (match trace.underLock with
  | none => []
  | some events => .acquire .pendingRequestsLock::
      (events.map fun e => e.1.script e.2).flatten++[.release .pendingRequestsLock])++
  (trace.unlocked.map fun e => e.script []).flatten

/-- An event with pending_requests_lock_ held takes lock_. -/
def Locks (trace : MessageTrace M) : Prop :=
  ∃ events,trace.underLock=some events ∧ ∃ e∈events,e.1.Locks e.2

/-- An event with pending_requests_lock_ held drains. -/
def Drains (trace : MessageTrace M) : Prop :=
  ∃ events,trace.underLock=some events ∧ ∃ e∈events,e.1.Drains e.2

end MessageTrace

namespace EntryPoint

section Script

variable [CameraMetadata M]

def withCallbacks (events : List (ResultEvent M)) (callbacks : Nat → List ApiCall) :
    List (ResultEvent M × List ApiCall) :=
  events.mapIdx fun i e => (e,callbacks i)

def handleCaptureResultTrace (s : PendingRequests M) (result : CaptureResult)
    (callbacks : Nat → List ApiCall) : MessageTrace M :=
  let events := (s.handleCaptureResult result).2
  if result.result=[] ∧ result.outputBuffers=[] then ⟨none,[]⟩
  else if s.isPartialResultSupported=false ∧ result.result≠[] ∧ result.partialResult≠1 then
    ⟨none,events⟩
  else
    match s.readResultMetadata result.fmqResultSize with
    | .error _ => ⟨none,events⟩
    | .ok _ => ⟨some (withCallbacks events callbacks),[]⟩

def notifyShutterTrace (s : PendingRequests M) (frameNumber : Nat) (timestamp : Int)
    (callbacks : Nat → List ApiCall) : MessageTrace M :=
  let events := (s.notifyShutter frameNumber timestamp).2
  match s.pendingRequests.valueFor frameNumber with
  | none => ⟨some [],events⟩
  | some _ => ⟨some (withCallbacks events callbacks),[]⟩

def notifyErrorTrace (s : PendingRequests M) (errorCode : ErrorCode) (frameNumber : Nat) :
    MessageTrace M :=
  let events := (s.notifyError errorCode frameNumber).2
  match errorCode with
  | .ERROR_DEVICE | .other _ => ⟨none,events⟩
  | .ERROR_REQUEST | .ERROR_RESULT | .ERROR_BUFFER => ⟨some [],events⟩

/-- The trace of a HAL message; the other entry points have none. -/
def trace : EntryPoint M → MessageTrace M
  | .handleCaptureResult s result callbacks => handleCaptureResultTrace s result callbacks
  | .notifyShutter s frameNumber timestamp callbacks =>
    notifyShutterTrace s frameNumber timestamp callbacks
  | .notifyError s errorCode frameNumber => notifyErrorTrace s errorCode frameNumber
  | .notifyUnknown | .markPendingRequest | .setErrorStateV | .notifyStatus | .api _ => ⟨none,[]⟩

def script : EntryPoint M → List (LockOp ClientMutex)
  | .markPendingRequest => [.acquire .pendingRequestsLock,.release .pendingRequestsLock]
  | .notifyUnknown | .setErrorStateV => setErrorState
  | .notifyStatus => lockedSection 0
  | .api call => call.script
  | .handleCaptureResult s result callbacks => (handleCaptureResultTrace s result callbacks).script
  | .notifyShutter s frameNumber timestamp callbacks =>
    (notifyShutterTrace s frameNumber timestamp callbacks).script
  | .notifyError s errorCode frameNumber => (notifyErrorTrace s errorCode frameNumber).script

end Script

variable [CameraMetadata M]

/-- With pending_requests_lock_ held a SET_ERR is raised, or a StreamCallback takes lock_. -/
def LocksUnderPending (e : EntryPoint M) : Prop := e.trace.Locks

/-- With pending_requests_lock_ held a StreamCallback drains. -/
def CallbackDrains (e : EntryPoint M) : Prop := e.trace.Drains

/-- The client calls a WaitUntilIdle that drains. -/
def Drains (e : EntryPoint M) : Prop := ∃ call,e=.api call ∧ call.Drains

end EntryPoint

section Scripts

variable {held : List ClientMutex} {a b : ClientMutex}

@[simp] theorem waitRounds_held (waits : Nat) :
    heldAfter (.lock::held) (waitRounds waits)=.lock::held := by
  apply heldAfter_flatten
  intro round hr
  have same : round=[.release .lock,.acquire .lock] := List.eq_of_mem_replicate hr
  simp [same,LockOp.apply]

theorem waitRounds_nests (waits : Nat) (h : Nests (.lock::held) (waitRounds waits) a b) :
    b=.lock ∧ a∈held := by
  have rounds : ∀ round∈List.replicate waits [LockOp.release ClientMutex.lock,.acquire .lock],
      heldAfter (.lock::held) round=.lock::held := by
    intro round hr
    have same := List.eq_of_mem_replicate hr
    simp [same,LockOp.apply]
  obtain ⟨round,hr,inner⟩ := (nests_flatten rounds).mp h
  have same := List.eq_of_mem_replicate hr
  rw [same,nests_cons,nests_cons] at inner
  simpa [LockOp.apply,eq_comm] using inner

@[simp] theorem lockedSection_held (waits : Nat) : heldAfter held (lockedSection waits)=held := by
  simp [lockedSection,LockOp.apply]

theorem lockedSection_nests (waits : Nat) :
    Nests held (lockedSection waits) a b ↔ b=.lock ∧ a∈held := by
  rw [lockedSection,List.cons_append,nests_cons,nests_append]
  constructor
  · intro h
    rcases h with ⟨first,ha⟩|inner|last
    · exact ⟨by simpa [eq_comm] using first,ha⟩
    · exact waitRounds_nests waits inner
    · simp [nests_cons] at last
  · intro h
    exact Or.inl ⟨by rw [h.1],h.2⟩

@[simp] theorem drainSection_held (waits : Nat) : heldAfter held (drainSection waits)=held := by
  simp [drainSection,LockOp.apply]

theorem drainSection_nests (waits : Nat) : Nests held (drainSection waits) a b ↔
    b=.lock ∧ a∈held ∨ b=.pendingRequestsLock ∧ (a=.lock ∨ a∈held) := by
  rw [drainSection,List.cons_append,nests_cons,nests_append,LockOp.apply,waitRounds_held]
  have last : Nests (.lock::held) [.acquire .pendingRequestsLock,.release .pendingRequestsLock,
      .release .lock] a b ↔ b=.pendingRequestsLock ∧ (a=.lock ∨ a∈held) := by
    simp [nests_cons,eq_comm]
  rw [last]
  constructor
  · intro h
    rcases h with ⟨first,ha⟩|inner|last
    · exact Or.inl ⟨by simpa [eq_comm] using first,ha⟩
    · exact Or.inl (waitRounds_nests waits inner)
    · exact Or.inr last
  · intro h
    cases h with
    | inl h => exact Or.inl ⟨by rw [h.1],h.2⟩
    | inr h => exact Or.inr (Or.inr h)

namespace ApiCall

@[simp] theorem script_held (call : ApiCall) : heldAfter held call.script=held := by
  cases call with
  | openCamera checked | endConfigure checked => cases checked <;> simp [script]
  | submitRequestList requests waits => by_cases hr : requests=0 <;> simp [script,hr]
  | waitUntilIdle state waits => cases state <;> simp [script]
  | _ => simp [script]

/-- A call acquires lock_ with what it is called with, and pending_requests_lock_ after it. -/
theorem script_nests (call : ApiCall) : Nests held call.script a b ↔
    call.Locks ∧ b=.lock ∧ a∈held ∨
    call.Drains ∧ b=.pendingRequestsLock ∧ (a=.lock ∨ a∈held) := by
  cases call with
  | openCamera checked | endConfigure checked =>
    cases checked <;> simp [script,Locks,Drains,lockedSection_nests]
  | submitRequestList requests waits =>
    by_cases hr : requests=0 <;> simp [script,Locks,Drains,hr,lockedSection_nests]
  | waitUntilIdle state more =>
    cases state <;> simp [script,Locks,Drains,lockedSection_nests,drainSection_nests]
  | flush => simp [script,Locks,Drains,nests_append,lockedSection_nests]
  | _ => simp [script,Locks,Drains,lockedSection_nests]

/-- A script that is not empty starts with lock_. -/
theorem script_starts (call : ApiCall) :
    call.script=[] ∨ ∃ rest,call.script=.acquire .lock::rest := by
  cases call with
  | openCamera checked | endConfigure checked =>
    cases checked <;> simp [script,lockedSection]
  | submitRequestList requests waits =>
    by_cases hr : requests=0 <;> simp [script,hr,lockedSection]
  | waitUntilIdle state more =>
    cases state <;> simp [script,lockedSection,drainSection]
  | _ => simp [script,lockedSection]

end ApiCall

namespace ResultEvent

variable (event : ResultEvent M) (calls : List ApiCall)

theorem calls_held : ∀ block∈calls.map ApiCall.script,heldAfter held block=held := by
  intro block hb
  obtain ⟨call,-,rfl⟩ := List.mem_map.mp hb
  exact call.script_held

@[simp] theorem script_held : heldAfter held (event.script calls)=held := by
  cases event with
  | setErr error => simp [script,setErrorState]
  | returnBufferToClient b timestamp frameNumber =>
    unfold script
    dsimp only
    split_ifs
    · exact heldAfter_flatten (calls_held calls)
    · rfl
  | _ => simp [script]

theorem script_nests : Nests held (event.script calls) a b ↔
    event.Locks calls ∧ b=.lock ∧ a∈held ∨
    event.Drains calls ∧ b=.pendingRequestsLock ∧ (a=.lock ∨ a∈held) := by
  cases event with
  | setErr error => simp [script,setErrorState,Locks,Drains,lockedSection_nests]
  | returnBufferToClient b timestamp frameNumber =>
    unfold script Locks Drains
    dsimp only
    by_cases hok : b.status=.OK
    · rw [if_pos hok,nests_flatten (calls_held calls)]
      simp only [List.mem_map,exists_exists_and_eq_and,ApiCall.script_nests,hok,true_and]
      grind
    · simp [hok]
  | _ => simp [script,Locks,Drains]

theorem script_starts : event.script calls=[] ∨ ∃ rest,event.script calls=.acquire .lock::rest := by
  cases event with
  | setErr error => simp [script,setErrorState,lockedSection]
  | returnBufferToClient b timestamp frameNumber =>
    unfold script
    dsimp only
    split_ifs
    · apply starts_flatten
      intro block hb
      obtain ⟨call,-,rfl⟩ := List.mem_map.mp hb
      exact call.script_starts
    · exact Or.inl rfl
  | _ => simp [script]

end ResultEvent

namespace MessageTrace

variable (trace : MessageTrace M)

theorem events_held (events : List (ResultEvent M × List ApiCall)) :
    ∀ block∈events.map fun e => e.1.script e.2,heldAfter held block=held := by
  intro block hb
  obtain ⟨e,-,rfl⟩ := List.mem_map.mp hb
  exact e.1.script_held e.2

theorem unlocked_held (events : List (ResultEvent M)) :
    ∀ block∈events.map fun e => e.script [],heldAfter held block=held := by
  intro block hb
  obtain ⟨e,-,rfl⟩ := List.mem_map.mp hb
  exact e.script_held []

/-- What happens with pending_requests_lock_ held leaves nothing held. -/
theorem locked_held (events : List (ResultEvent M × List ApiCall)) :
    heldAfter [] (.acquire .pendingRequestsLock::
      (events.map fun e => e.1.script e.2).flatten++[.release .pendingRequestsLock])=[] := by
  rw [List.cons_append,heldAfter_cons,heldAfter_append,LockOp.apply,
    heldAfter_flatten (events_held events)]
  rfl

theorem script_held : heldAfter [] trace.script=[] := by
  obtain ⟨underLock,unlocked⟩ := trace
  unfold script
  rw [heldAfter_append]
  cases underLock with
  | none => exact heldAfter_flatten (unlocked_held unlocked)
  | some events =>
    dsimp only
    rw [locked_held]
    exact heldAfter_flatten (unlocked_held unlocked)

/-- What happens after pending_requests_lock_ is released takes one mutex at a time. -/
theorem unlocked_nests (events : List (ResultEvent M)) :
    ¬Nests [] (events.map fun e => e.script []).flatten a b := by
  rw [nests_flatten (unlocked_held events)]
  intro h
  obtain ⟨block,hb,inner⟩ := h
  obtain ⟨e,-,rfl⟩ := List.mem_map.mp hb
  rw [e.script_nests] at inner
  cases e <;> simp [ResultEvent.Locks,ResultEvent.Drains] at inner

theorem script_nests : Nests [] trace.script a b ↔
    trace.Locks ∧ a=.pendingRequestsLock ∧ b=.lock ∨
    trace.Drains ∧ b=.pendingRequestsLock ∧ (a=.lock ∨ a=.pendingRequestsLock) := by
  obtain ⟨underLock,unlocked⟩ := trace
  unfold script Locks Drains
  rw [nests_append]
  cases underLock with
  | none => simp [unlocked_nests]
  | some events =>
    dsimp only
    rw [locked_held,List.cons_append,nests_cons,nests_append,LockOp.apply,
      nests_flatten (events_held events)]
    simp only [unlocked_nests,nests_cons,not_nests_nil,List.mem_map,exists_exists_and_eq_and,
      ResultEvent.script_nests,List.mem_singleton]
    grind

/-- Where no StreamCallback drains, pending_requests_lock_ and then lock_ is what a message
nests, and it opens them so. -/
theorem script_opens (hd : ¬trace.Drains) (hn : Nests [] trace.script a b) :
    Opens trace.script a b := by
  have locks : trace.Locks ∧ a=.pendingRequestsLock ∧ b=.lock := by
    cases trace.script_nests.mp hn with
    | inl locks => exact locks
    | inr drains => exact absurd drains.1 hd
  obtain ⟨-,rfl,rfl⟩ := locks
  obtain ⟨underLock,unlocked⟩ := trace
  unfold script at hn ⊢
  cases underLock with
  | none => exact absurd hn (unlocked_nests unlocked)
  | some events =>
    dsimp only at hn ⊢
    have starts : (events.map fun e => e.1.script e.2).flatten=[] ∨
        ∃ rest,(events.map fun e => e.1.script e.2).flatten=.acquire .lock::rest := by
      apply starts_flatten
      intro block hb
      obtain ⟨e,-,rfl⟩ := List.mem_map.mp hb
      exact e.1.script_starts e.2
    cases starts with
    | inl nothing =>
      rw [nothing,nests_append] at hn
      simp [nests_cons,LockOp.apply,unlocked_nests] at hn
    | inr first =>
      obtain ⟨rest,same⟩ := first
      rw [same]
      exact ⟨[],rest++[.release .pendingRequestsLock]++
        (unlocked.map fun e => e.script []).flatten,by simp,rfl⟩

end MessageTrace

/-- A drain ends its rounds with lock_ in hand. -/
theorem drainSection_opens (waits : Nat) :
    Opens (drainSection waits) .lock .pendingRequestsLock := by
  have rounds : ∀ waits,.acquire .lock::waitRounds waits=
      (List.replicate waits [LockOp.acquire ClientMutex.lock,.release .lock]).flatten++
        [.acquire .lock] := by
    intro waits
    induction waits with
    | zero => rfl
    | succ waits ih =>
      have one : .acquire .lock::waitRounds (waits+1)=
          .acquire .lock::.release .lock::.acquire .lock::waitRounds waits := rfl
      rw [one,ih]
      rfl
  refine ⟨(List.replicate waits [.acquire .lock,.release .lock]).flatten,
    [.release .pendingRequestsLock,.release .lock],?_,?_⟩
  · rw [drainSection,rounds]
    simp
  · apply heldAfter_flatten
    intro round hr
    have same := List.eq_of_mem_replicate hr
    rw [same]
    rfl

theorem ApiCall.script_opens (call : ApiCall) (hn : Nests [] call.script a b) :
    Opens call.script a b := by
  have drains : call.Drains ∧ b=.pendingRequestsLock ∧ a=.lock := by
    simpa using call.script_nests.mp hn
  obtain ⟨hd,rfl,rfl⟩ := drains
  cases call with
  | waitUntilIdle state more =>
    have same : (ApiCall.waitUntilIdle state more).script=
        drainSection (drainRounds state more) := by
      rcases hd with rfl|rfl|rfl <;> rfl
    rw [same]
    exact drainSection_opens _
  | _ => cases hd

namespace EntryPoint

variable [CameraMetadata M] (e : EntryPoint M)

theorem script_held : heldAfter [] e.script=[] := by
  cases e with
  | handleCaptureResult | notifyShutter | notifyError => exact MessageTrace.script_held _
  | notifyUnknown | setErrorStateV | notifyStatus => exact lockedSection_held 0
  | markPendingRequest => rfl
  | api call => exact call.script_held

/-- The script of a message is that of its trace. -/
theorem message_nests (same : e.script=e.trace.script) (hd : ¬e.Drains) :
    Nests [] e.script a b ↔
    e.LocksUnderPending ∧ a=.pendingRequestsLock ∧ b=.lock ∨
    e.CallbackDrains ∧ b=.pendingRequestsLock ∧ (a=.lock ∨ a=.pendingRequestsLock) ∨
    e.Drains ∧ a=.lock ∧ b=.pendingRequestsLock := by
  rw [same,e.trace.script_nests]
  simp only [hd,false_and,or_false]
  rfl

theorem script_nests : Nests [] e.script a b ↔
    e.LocksUnderPending ∧ a=.pendingRequestsLock ∧ b=.lock ∨
    e.CallbackDrains ∧ b=.pendingRequestsLock ∧ (a=.lock ∨ a=.pendingRequestsLock) ∨
    e.Drains ∧ a=.lock ∧ b=.pendingRequestsLock := by
  cases e with
  | handleCaptureResult | notifyShutter | notifyError =>
    exact message_nests _ rfl (by simp [Drains])
  | notifyUnknown | setErrorStateV | notifyStatus =>
    simp [script,setErrorState,lockedSection_nests,LocksUnderPending,CallbackDrains,Drains,trace,
      MessageTrace.Locks,MessageTrace.Drains]
  | markPendingRequest =>
    simp [script,nests_cons,LocksUnderPending,CallbackDrains,Drains,trace,LockOp.apply,
      MessageTrace.Locks,MessageTrace.Drains]
  | api call =>
    simp [script,ApiCall.script_nests,LocksUnderPending,CallbackDrains,Drains,trace,
      MessageTrace.Locks,MessageTrace.Drains]
    tauto

/-- What an entry point nests, it opens, unless it nests a mutex in itself. -/
theorem script_opens (self : ∀ m,¬Nests [] e.script m m) (hn : Nests [] e.script a b) :
    Opens e.script a b := by
  have calm : ¬e.CallbackDrains := by
    intro h
    exact self .pendingRequestsLock (e.script_nests.mpr (Or.inr (Or.inl ⟨h,rfl,Or.inr rfl⟩)))
  cases e with
  | handleCaptureResult | notifyShutter | notifyError => exact MessageTrace.script_opens _ calm hn
  | notifyUnknown | setErrorStateV | notifyStatus =>
    exact absurd hn (by simp [script,setErrorState,lockedSection_nests])
  | markPendingRequest => exact absurd hn (by simp [script,nests_cons,LockOp.apply])
  | api call => exact call.script_opens hn

/-- No StreamCallback drains, and no thread drains while another one's message takes lock_ with
pending_requests_lock_ held. -/
def Ordered {ι : Type} (threads : ι → List (EntryPoint M)) : Prop :=
  (∀ i,∀ e∈threads i,¬e.CallbackDrains) ∧
  ∀ i j,i≠j → ∀ e∈threads i,∀ f∈threads j,e.Drains → ¬f.LocksUnderPending

/-- Any number of threads that each run any entry points: nobody comes to wait for ever exactly
when no StreamCallback drains and no drain meets a message that takes lock_. -/
theorem no_circular_wait_iff {ι : Type} [DecidableEq ι] (threads : ι → List (EntryPoint M)) :
    (∀ is s,Run LockState.Step (LockState.start fun i => ((threads i).map script).flatten) is s →
      ¬s.SelfWait ∧ ¬s.CircularWait) ↔ Ordered threads := by
  have balanced : ∀ i,∀ p∈(threads i).map script,heldAfter [] p=[] := by
    intro i p hp
    obtain ⟨e,-,rfl⟩ := List.mem_map.mp hp
    exact e.script_held
  have opens : ∀ i,∀ p∈(threads i).map script,(∀ m,¬Nests [] p m m) →
      ∀ a b,Nests [] p a b → Opens p a b := by
    intro i p hp self a b hn
    obtain ⟨e,-,rfl⟩ := List.mem_map.mp hp
    exact e.script_opens self hn
  rw [LockState.no_wait_iff balanced opens]
  constructor
  · intro h
    have calm : ∀ i,∀ e∈threads i,¬e.CallbackDrains := by
      intro i e he hd
      exact h.1 i e.script (List.mem_map_of_mem he) .pendingRequestsLock
        (e.script_nests.mpr (Or.inr (Or.inl ⟨hd,rfl,Or.inr rfl⟩)))
    refine ⟨calm,?_⟩
    intro i j hij e he f hf drains locks
    exact h.2 i j hij e.script (List.mem_map_of_mem he) f.script (List.mem_map_of_mem hf) .lock
      .pendingRequestsLock (by decide) (e.script_nests.mpr (Or.inr (Or.inr ⟨drains,rfl,rfl⟩)))
      (f.script_nests.mpr (Or.inl ⟨locks,rfl,rfl⟩))
  · intro h
    constructor
    · intro i p hp m hn
      obtain ⟨e,he,rfl⟩ := List.mem_map.mp hp
      rcases e.script_nests.mp hn with ⟨-,same,other⟩|⟨drains,-⟩|⟨-,same,other⟩
      · exact absurd (same.symm.trans other) (by decide)
      · exact h.1 i e he drains
      · exact absurd (same.symm.trans other) (by decide)
    · intro i j hij p hp q hq a b hab first second
      obtain ⟨e,he,rfl⟩ := List.mem_map.mp hp
      obtain ⟨f,hf,rfl⟩ := List.mem_map.mp hq
      have left := e.script_nests.mp first
      have right := f.script_nests.mp second
      rcases left with ⟨locks,rfl,rfl⟩|⟨drains,-⟩|⟨drains,rfl,rfl⟩
      · rcases right with ⟨-,same,-⟩|⟨drains,-⟩|⟨drains,-⟩
        · exact hab same.symm
        · exact h.1 j f hf drains
        · exact h.2 j i hij.symm f hf e he drains locks
      · exact h.1 i e he drains
      · rcases right with ⟨locks,-⟩|⟨drains,-⟩|⟨-,same,-⟩
        · exact h.2 i j hij e he f hf drains locks
        · exact h.1 j f hf drains
        · exact hab same.symm

/-- Frame 0 with one buffer, after its shutter. -/
def shuttered : PendingRequests PlainMetadata :=
  ((PendingRequests.plain.markPendingRequest 0 1 ⟨0,0,0,0,false⟩).notifyShutter 0 5).1

def oneBuffer : CaptureResult := ⟨0,0,[],[⟨0,0,.OK,some 7⟩],false,0⟩

/-- The HAL returns the buffer to a StreamCallback that gives it back at once, while the client
has waited one round for the camera to be idle. -/
def returnAndDrain : Bool → List (EntryPoint PlainMetadata)
  | true => [.handleCaptureResult shuttered oneBuffer fun _ => [.returnStreamBuffer]]
  | false => [.api (.waitUntilIdle .RUNNING 0)]

theorem drain_blocks_return : ¬∀ (threads : Bool → List (EntryPoint PlainMetadata)) is s,
    Run LockState.Step (LockState.start fun i => ((threads i).map script).flatten) is s →
      ¬s.SelfWait ∧ ¬s.CircularWait := by
  intro all
  have hal : ((returnAndDrain true).map script).flatten=[.acquire .pendingRequestsLock,
    .acquire .lock,.release .lock,.release .pendingRequestsLock] := by decide
  have client : ((returnAndDrain false).map script).flatten=[.acquire .lock,.release .lock,
    .acquire .lock,.acquire .pendingRequestsLock,.release .pendingRequestsLock,
    .release .lock] := by decide
  have self : ∀ i m,¬Nests [] ((returnAndDrain i).map script).flatten m m := by
    intro i m
    apply not_nests_clean
    cases i with
    | true =>
      rw [hal]
      simp [Clean,LockOp.apply]
    | false =>
      rw [client]
      simp [Clean,LockOp.apply]
  obtain ⟨is,s,run,wait⟩ := LockState.reach_circularWait
    (fun i => ((returnAndDrain i).map script).flatten) (i := true) (j := false)
    (by decide) (a := .pendingRequestsLock) (b := .lock) (by decide) self
    ⟨[],_,hal,rfl⟩
    ⟨[.acquire .lock,.release .lock],_,client,rfl⟩
  exact (all returnAndDrain is s run).2 wait

end EntryPoint
end Scripts
end IotMedia.Camera

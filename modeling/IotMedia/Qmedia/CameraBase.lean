import Mathlib.Logic.Function.Basic
import Mathlib.Tactic.SplitIfs

namespace IotMedia.Qmedia

/-- The calls of CameraDevice.StateCallback. -/
inductive CameraCallback
  | onOpened
  | onDisconnected
  | onError
  | onClosed
  deriving DecidableEq

def CameraCallback.failure : CameraCallback → Bool
  | .onDisconnected | .onError => true
  | .onOpened | .onClosed => false

/-- A device as the camera service has it, as documented: an open that it accepts is answered by
onOpened or by a failure, an open device may fail, and close() is answered by onClosed. -/
inductive DeviceState
  | absent
  | opening
  | opened
  | failed
  | closing
  | closed
  deriving DecidableEq

/-- How CameraManager.openCamera ends: the service takes the open; it refuses it, as that of a camera
in use, which is thrown and called back as well; or there is an exception and no callback. -/
inductive OpenOutcome
  | accepted
  | refused (error : Bool)
  | thrown
  deriving DecidableEq

namespace OpenOutcome

def device : OpenOutcome → DeviceState
  | .accepted => .opening
  | .refused _ => .failed
  | .thrown => .absent

def messages : OpenOutcome → List CameraCallback
  | .refused error => [if error then .onError else .onDisconnected]
  | .accepted | .thrown => []

end OpenOutcome

/-- CameraDevice.close(). -/
def DeviceState.close : DeviceState → DeviceState
  | .opening | .opened | .failed => .closing
  | .absent => .absent
  | .closing => .closing
  | .closed => .closed

theorem DeviceState.close_settled (d : DeviceState) :
    d.close≠.opening ∧ d.close≠.opened ∧ d.close≠.failed := by
  cases d <;> decide

/-- What the UI thread does next in startCamera and closeCamera; between the two it is `started`,
and `stopped` otherwise. -/
inductive UiPoint
  | stopped
  | openCamera
  | started
  | checkDevice
  | closeDevice
  | clearDevice
  | awaitClosed
  | release
  | quitSafely
  | join
  deriving DecidableEq

/-- What the background thread does next, by the callback that it is in. -/
inductive BackgroundPoint
  | absent
  | looping
  | openedRelease
  | openedAssign
  | openedRequest
  | openedSession
  | failedRelease
  | failedClose
  | failedClear
  | closedClear
  | closedRelease
  deriving DecidableEq

/-- The points from which neither the lock's count of opens nor the device is touched. -/
def BackgroundPoint.plain : BackgroundPoint → Bool
  | .looping | .openedRequest | .openedSession | .closedClear | .closedRelease => true
  | .absent | .openedRelease | .openedAssign | .failedRelease | .failedClose | .failedClear => false

def CameraCallback.entry : CameraCallback → BackgroundPoint
  | .onOpened => .openedRelease
  | .onDisconnected | .onError => .failedRelease
  | .onClosed => .closedClear

/-- CameraBase, as far as its lock and its device go. The devices are numbered by startCamera. -/
structure CameraBase where
  /-- The permits of mCameraOpenCloseLock. -/
  permits : Nat := 1
  mCameraDevice : Option Nat := none
  /-- mStreamSurfaceHolder is not null. -/
  mStreamSurfaceHolder : Bool := true
  ui : UiPoint := .stopped
  background : BackgroundPoint := .absent
  quitting : Bool := false
  messages : List CameraCallback := []
  session : Nat := 0
  device : Nat → DeviceState := fun _ => .absent
  /-- The permit of startCamera has been given back. -/
  answered : Bool := true
  /-- onClosed has given back the permit of closeCamera. -/
  returned : Bool := false
  /-- The calls of createCaptureSession. -/
  created : Nat := 0
  /-- The calls of closeCamera that gave up waiting for onClosed. -/
  timedOut : Nat := 0
  crashed : Bool := false

inductive CameraLabel
  | startCamera
  | startTimedOut
  | openCamera (outcome : OpenOutcome)
  | closeCamera
  | checkDevice
  | closeDevice
  | clearDevice
  | tryAcquire
  | timedOut
  | release
  | quitSafely
  | join
  | opened
  | fail (device : Nat) (callback : CameraCallback)
  | closed (device : Nat)
  | dispatch
  | background

namespace CameraBase

/-- A message to a handler whose thread has quit is dropped. -/
def post (w : CameraBase) (n : Nat) (c : CameraCallback) : CameraBase :=
  { w with
    messages :=
      if n=w.session ∧ w.background≠.absent ∧ w.quitting=false then w.messages++[c]
      else w.messages }

def setDevice (w : CameraBase) (n : Nat) (d : DeviceState) : CameraBase :=
  { w with device := Function.update w.device n d }

def close (w : CameraBase) (n : Nat) : CameraBase := w.setDevice n (w.device n).close

def crash (w : CameraBase) : CameraBase := { w with crashed := true }

/-- A call of the device in createAndStartCameraSession: the exception of a failed device is caught
there, that of a closed one or of a null reference is not. -/
def useDevice (w done : CameraBase) : CameraBase :=
  match w.mCameraDevice.map w.device with
  | some .opened => done
  | some .failed => { w with background := .looping }
  | some .absent | some .opening | some .closing | some .closed | none => w.crash

/-- The next statement of the callback that the background thread is in. -/
def runBackground (w : CameraBase) : Option CameraBase :=
  match w.background with
  | .absent | .looping => none
  | .openedRelease =>
    some { w with permits := w.permits+1,answered := true,background := .openedAssign }
  | .openedAssign =>
    some { w with mCameraDevice := some w.session,background := .openedRequest }
  | .openedRequest => some (w.useDevice { w with background := .openedSession })
  | .openedSession =>
    if w.mStreamSurfaceHolder then
      some (w.useDevice { w with created := w.created+1,background := .looping })
    else some w.crash
  | .failedRelease =>
    some { w with permits := w.permits+1,answered := true,background := .failedClose }
  | .failedClose => some { w.close w.session with background := .failedClear }
  | .failedClear => some { w with mCameraDevice := none,background := .looping }
  | .closedClear => some { w with mStreamSurfaceHolder := false,background := .closedRelease }
  | .closedRelease =>
    some { w with permits := w.permits+1,returned := true,background := .looping }

/-- The steps of the UI thread, of the camera service and of the background thread. -/
def perform (w : CameraBase) : CameraLabel → Option CameraBase
  | .startCamera =>
    if w.ui=.stopped ∧ 0<w.permits then
      some { w with permits := w.permits-1,ui := .openCamera,answered := false }
    else none
  | .startTimedOut => if w.ui=.stopped ∧ w.permits=0 then some w.crash else none
  | .openCamera outcome =>
    if w.ui=.openCamera then
      some { w with
        session := w.session+1
        background := .looping
        quitting := false
        messages := outcome.messages
        device := Function.update w.device (w.session+1) outcome.device
        ui := .started }
    else none
  | .closeCamera =>
    if w.ui=.started ∧ 0<w.permits then
      some { w with permits := w.permits-1,ui := .checkDevice,returned := false }
    else none
  | .checkDevice =>
    if w.ui=.checkDevice then
      some { w with ui := if w.mCameraDevice=none then .awaitClosed else .closeDevice }
    else none
  | .closeDevice =>
    if w.ui=.closeDevice then
      match w.mCameraDevice with
      | none => some w.crash
      | some n => some { w.close n with ui := .clearDevice }
    else none
  | .clearDevice =>
    if w.ui=.clearDevice then some { w with mCameraDevice := none,ui := .awaitClosed } else none
  | .tryAcquire =>
    if w.ui=.awaitClosed ∧ 0<w.permits then some { w with permits := w.permits-1,ui := .release }
    else none
  | .timedOut =>
    if w.ui=.awaitClosed ∧ w.permits=0 then
      some { w with timedOut := w.timedOut+1,ui := .release }
    else none
  | .release =>
    if w.ui=.release then some { w with permits := w.permits+1,ui := .quitSafely } else none
  | .quitSafely => if w.ui=.quitSafely then some { w with quitting := true,ui := .join } else none
  | .join =>
    if w.ui=.join ∧ w.background=.looping ∧ w.messages=[] then
      some { w with background := .absent,ui := .stopped }
    else none
  | .opened =>
    if w.device w.session=.opening then
      some ((w.setDevice w.session .opened).post w.session .onOpened)
    else none
  | .fail n c =>
    if c.failure ∧ (w.device n=.opening ∨ w.device n=.opened ∨ w.device n=.failed) then
      some ((w.setDevice n .failed).post n c)
    else none
  | .closed n =>
    if w.device n=.closing then some ((w.setDevice n .closed).post n .onClosed) else none
  | .dispatch =>
    match w.background,w.messages with
    | .looping,c::messages => some { w with background := c.entry,messages := messages }
    | _,_ => none
  | .background => w.runBackground

/-- An uncaught exception ends the process. -/
def Step (w : CameraBase) (l : CameraLabel) (w' : CameraBase) : Prop :=
  w.crashed=false ∧ w.perform l=some w'

/-- closeCamera has taken its permit and not yet taken the one of onClosed. -/
def waits (w : CameraBase) : Bool :=
  w.ui=.checkDevice || w.ui=.closeDevice || w.ui=.clearDevice || w.ui=.awaitClosed

/-- The permits that startCamera and closeCamera have taken and that are still to come back. -/
def owed (w : CameraBase) : Nat :=
  (if w.answered then 0 else 1)+
    (if w.waits ∧ w.returned=false ∨ w.ui=.release then 1 else 0)

/-- No open is under way, and closeCamera has made its test of mCameraDevice and the close. -/
def pastClose (w : CameraBase) : Bool :=
  w.ui≠.started && w.ui≠.checkDevice && w.ui≠.closeDevice

/-- The lock has one permit, but for those owed, and closeCamera leaves no device open. -/
structure Exclusive (w : CameraBase) : Prop where
  balanced : w.permits+w.owed=1
  shut : w.pastClose=true → ∀ n,w.device n≠.opening ∧ w.device n≠.opened

/-- A failure gives back a permit only as the answer to startCamera, onClosed only to a closeCamera
that waits, and closeCamera does not look between onOpened's release and its assignment. -/
def Sound (w : CameraBase) : CameraLabel → Prop
  | .background =>
    (w.background=.failedRelease → w.answered=false) ∧
      (w.background=.closedRelease → w.waits=true ∧ w.returned=false)
  | .checkDevice => ¬(w.background=.openedAssign ∧ w.device w.session=.opened)
  | _ => True

instance (w : CameraBase) : (l : CameraLabel) → Decidable (w.Sound l)
  | .background => inferInstanceAs (Decidable ((_ → _) ∧ (_ → _)))
  | .checkDevice => inferInstanceAs (Decidable (¬_))
  | .startCamera | .startTimedOut | .openCamera _ | .closeCamera | .closeDevice | .clearDevice
  | .tryAcquire | .timedOut | .release | .quitSafely | .join | .opened | .fail _ _ | .closed _
  | .dispatch => inferInstanceAs (Decidable True)

end CameraBase
end IotMedia.Qmedia

import IotMedia.Daemon.VideoBuffers
import Mathlib.Data.List.Basic

namespace IotMedia.Daemon

open IotMedia.Framework

/-- How CreateStream ends: with the stream's id, or with an error, which the client's
ConfigureStreamsLocked may raise when the stream is already among its streams. -/
inductive CreateOutcome
  | created (id : Nat)
  | failed
  | failedRegistered (id : Nat)
  deriving DecidableEq

/-- How the calls that a message leads to end: of CameraStart, whether mVsetup has a size,
BeginConfigure succeeds, the format is known, and EndConfigure and SubmitRequest succeed; of
CameraStop, whether DeleteStream takes the stream out of the client, whatever it returns. -/
structure SessionOutcome where
  sized : Bool := true
  begun : Bool := true
  supported : Bool := true
  create : CreateOutcome := .failed
  ended : Bool := true
  submitted : Bool := true
  removes : Nat → Bool := fun _ => true

/-- What the camera thread keeps of a session, with the streams it has created that are registered
in the device client. mVideoBufferThread says whether there is a thread, which is never joined but
right before it is given up; an assignment over it ends the process. -/
structure CameraSession where
  mVideoBufferThread : Bool := false
  streamIds : List Nat := []
  registered : List Nat := []
  running : Bool := true
  overwritten : Bool := false

namespace CameraSession

variable (s : CameraSession) (o : SessionOutcome)

/-- CameraStart from BeginConfigure on, with the result. -/
def configureStream : CameraSession×Bool :=
  if o.begun=false then (s,false)
  else if o.supported=false then (s,false)
  else
    match o.create with
    | .failed => (s,false)
    | .failedRegistered id => ({ s with registered := s.registered.insert id },false)
    | .created id =>
      let s := { s with
        registered := s.registered.insert id
        streamIds := s.streamIds++[id] }
      if o.ended=false then (s,false)
      else if o.submitted=false then (s,false)
      else (s,true)

def CameraStart : CameraSession×Bool :=
  let s := { s with
    overwritten := s.mVideoBufferThread
    mVideoBufferThread := true }
  if s.overwritten then (s,false)
  else if o.sized=false then (s,false)
  else s.configureStream o

/-- The loop of CameraStop. -/
def deleteStreams (removes : Nat → Bool) : List Nat → List Nat → List Nat
  | [],registered => registered
  | id::ids,registered =>
    deleteStreams removes ids (if removes id then registered.filter (·≠id) else registered)

def CameraStop : CameraSession×Bool :=
  if s.mVideoBufferThread=false then (s,true)
  else ({ s with
    mVideoBufferThread := false
    registered := deleteStreams o.removes s.streamIds s.registered
    streamIds := [] },true)

/-- One turn of cameraThreadHandler; CameraSubmitRequest leaves threads and streams alone. -/
def handleMessage : UmdCameraMessage → CameraSession
  | .CAMERA_START => (s.CameraStart o).1
  | .CAMERA_STOP => (s.CameraStop o).1
  | .CAMERA_SUBMIT_REQUEST => s
  | .CAMERA_TERMINATE => { (s.CameraStop o).1 with running := false }

/-- The camera thread takes a message, as long as it runs. -/
def Step (s : CameraSession) (m : UmdCameraMessage×SessionOutcome) (t : CameraSession) : Prop :=
  s.running=true ∧ s.overwritten=false ∧ t=s.handleMessage m.2 m.1

/-- No thread is overwritten, and the ids are those of the streams registered, at most one. -/
structure Sound : Prop where
  kept : s.overwritten=false
  matches_ : ∀ id,id∈s.streamIds ↔ id∈s.registered
  single : s.streamIds.length≤1

/-- CAMERA_START comes when there is no thread, and a CreateStream that it fails in leaves no stream
registered; where there is one, CameraStop gets every stream out of the client. -/
def Orderly (s : CameraSession) : UmdCameraMessage×SessionOutcome → Prop
  | (.CAMERA_START,o) => s.mVideoBufferThread=false ∧
      (o.sized=true → o.begun=true → o.supported=true → ∀ id,o.create≠.failedRegistered id)
  | (.CAMERA_STOP,o) | (.CAMERA_TERMINATE,o) =>
    s.mVideoBufferThread=true → ∀ id∈s.streamIds,o.removes id=true
  | (.CAMERA_SUBMIT_REQUEST,_) => True

/-- Without a thread there is no stream. -/
def Stopped : Prop := s.mVideoBufferThread=false → s.streamIds=[]

variable {s o} {t : CameraSession} {m : UmdCameraMessage×SessionOutcome}

theorem mem_deleteStreams {removes : Nat → Bool} {ids registered : List Nat} {id : Nat} :
    id∈deleteStreams removes ids registered ↔
      id∈registered ∧ (id∈ids → removes id=false) := by
  induction ids generalizing registered with
  | nil => simp [deleteStreams]
  | cons x ids ih =>
    rw [deleteStreams,ih]
    cases taken : removes x with
    | false =>
      simp only [Bool.false_eq_true,if_false,List.mem_cons]
      constructor
      · rintro ⟨present,later⟩
        refine ⟨present,?_⟩
        rintro (rfl|here)
        · exact taken
        · exact later here
      · rintro ⟨present,all⟩
        exact ⟨present,fun here => all (.inr here)⟩
    | true =>
      simp only [if_true,List.mem_filter,decide_eq_true_eq,List.mem_cons]
      constructor
      · rintro ⟨⟨present,other⟩,later⟩
        refine ⟨present,?_⟩
        rintro (same|here)
        · exact absurd same other
        · exact later here
      · rintro ⟨present,all⟩
        refine ⟨⟨present,?_⟩,fun here => all (.inr here)⟩
        rintro rfl
        exact absurd ((all (.inl rfl)).symm.trans taken) (by decide)

/-- CameraStop leaves a sound session if and only if no stream stays behind. -/
theorem stop_sound_iff (sound : s.Sound) :
    (s.CameraStop o).1.Sound ↔
      (s.mVideoBufferThread=true → ∀ id∈s.streamIds,o.removes id=true) := by
  obtain ⟨kept,matching,single⟩ := sound
  cases thread : s.mVideoBufferThread with
  | false =>
    rw [CameraStop,if_pos thread]
    exact iff_of_true ⟨kept,matching,single⟩ (fun h => by cases h)
  | true =>
    rw [CameraStop,if_neg (by simp [thread])]
    constructor
    · rintro ⟨-,emptied,-⟩ _ id listed
      by_contra left
      have stays : id∈deleteStreams o.removes s.streamIds s.registered :=
        mem_deleteStreams.mpr ⟨(matching id).mp listed,fun _ => Bool.eq_false_of_not_eq_true left⟩
      exact List.not_mem_nil ((emptied id).mpr stays)
    · intro removed
      refine ⟨kept,fun id => iff_of_false List.not_mem_nil ?_,Nat.zero_le 1⟩
      intro stays
      obtain ⟨present,left⟩ := mem_deleteStreams.mp stays
      have listed := (matching id).mpr present
      exact absurd ((removed rfl id listed).symm.trans (left listed)) (by decide)

/-- CameraStart of a session without thread and streams leaves a sound one if and only if a
CreateStream that fails leaves no stream registered. -/
theorem configure_sound_iff (sound : s.Sound) (empty : s.streamIds=[]) :
    (s.configureStream o).1.Sound ↔
      (o.begun=true → o.supported=true → ∀ id,o.create≠.failedRegistered id) := by
  have registered : s.registered=[] := by
    refine List.eq_nil_iff_forall_not_mem.mpr fun id present => ?_
    have listed := (sound.matches_ id).mpr present
    rw [empty] at listed
    exact List.not_mem_nil listed
  rw [configureStream]
  by_cases begun : o.begun=false
  · rw [if_pos begun]
    exact iff_of_true sound (by simp [begun])
  by_cases supported : o.supported=false
  · rw [if_neg begun,if_pos supported]
    exact iff_of_true sound (by simp [supported])
  rw [if_neg begun,if_neg supported]
  cases create : o.create with
  | failed => exact iff_of_true sound (by simp)
  | failedRegistered id =>
    refine iff_of_false ?_ ?_
    · intro supposed
      have listed := (supposed.matches_ id).mpr List.mem_insert_self
      rw [empty] at listed
      exact List.not_mem_nil listed
    · intro never
      exact never (by simpa using begun) (by simpa using supported) id rfl
  | created id =>
    refine iff_of_true ?_ (by simp)
    have one : Sound { s with
        registered := s.registered.insert id
        streamIds := s.streamIds++[id] } := by
      refine ⟨sound.kept,fun x => ?_,by simp [empty]⟩
      simp [empty,registered]
    dsimp only
    split_ifs <;> exact one

theorem configureStream_thread :
    (s.configureStream o).1.mVideoBufferThread=s.mVideoBufferThread := by
  unfold configureStream
  split
  · rfl
  split
  · rfl
  split
  · rfl
  · rfl
  · dsimp only
    split_ifs <;> rfl

theorem CameraStart_thread : (s.CameraStart o).1.mVideoBufferThread=true := by
  unfold CameraStart
  dsimp only
  split_ifs
  · rfl
  · rfl
  · exact configureStream_thread

theorem CameraStop_stopped (stopped : s.Stopped) : (s.CameraStop o).1.Stopped := by
  unfold CameraStop
  split_ifs
  · exact stopped
  · exact fun _ => rfl

theorem stopped_step (stopped : s.Stopped) (step : Step s m t) : t.Stopped := by
  obtain ⟨message,o⟩ := m
  obtain ⟨-,-,rfl⟩ := step
  cases message with
  | CAMERA_START =>
    intro gone
    exact absurd (CameraStart_thread.symm.trans gone) (by decide)
  | CAMERA_STOP => exact CameraStop_stopped stopped
  | CAMERA_SUBMIT_REQUEST => exact stopped
  | CAMERA_TERMINATE =>
    exact CameraStop_stopped stopped

theorem sound_step_iff (sound : s.Sound) (stopped : s.Stopped) (step : Step s m t) :
    t.Sound ↔ s.Orderly m := by
  obtain ⟨message,o⟩ := m
  obtain ⟨-,-,rfl⟩ := step
  cases message with
  | CAMERA_START =>
    cases thread : s.mVideoBufferThread with
    | true =>
      refine iff_of_false ?_ (fun orderly => by cases thread.symm.trans orderly.1)
      intro supposed
      have kept := supposed.kept
      simp [handleMessage,CameraStart,thread] at kept
    | false =>
      have begun : Sound { s with
          overwritten := s.mVideoBufferThread
          mVideoBufferThread := true } := ⟨thread,sound.matches_,sound.single⟩
      have configured := configure_sound_iff (o := o) begun (stopped thread)
      have sizes : (s.CameraStart o).1.Sound ↔ (o.sized=true → (configureStream { s with
          overwritten := s.mVideoBufferThread
          mVideoBufferThread := true } o).1.Sound) := by
        rw [CameraStart]
        dsimp only
        rw [if_neg (by simp [thread])]
        split_ifs with sized
        · exact iff_of_true begun (by simp [sized])
        · exact ⟨fun h _ => h,fun h => h (Bool.eq_true_of_not_eq_false sized)⟩
      refine (sizes.trans (imp_congr_right fun _ => configured)).trans ?_
      exact ⟨fun h => ⟨thread,h⟩,fun h => h.2⟩
  | CAMERA_STOP => exact stop_sound_iff sound
  | CAMERA_SUBMIT_REQUEST => exact iff_of_true sound trivial
  | CAMERA_TERMINATE =>
    exact Iff.trans ⟨fun h => ⟨h.kept,h.matches_,h.single⟩,fun h => ⟨h.kept,h.matches_,h.single⟩⟩
      (stop_sound_iff sound)

/-- A camera that has not been started. -/
def unstarted : CameraSession := {}

/-- The session is sound as long as its messages are orderly, and no longer. -/
theorem sound_of_orderly {messages : List (UmdCameraMessage×SessionOutcome)}
    (hr : Run (Guarded Orderly Step) unstarted messages s) :
    s.Sound ∧ ∀ m t,Step s m t → (t.Sound ↔ s.Orderly m) := by
  refine hr.kept_iff_guard (I := Stopped) ?_ ?_ (fun _ => rfl) ⟨rfl,?_,Nat.zero_le 1⟩
  · intro s m t stopped _ step _
    exact stopped_step stopped step
  · intro s m t stopped sound step
    exact sound_step_iff sound stopped step
  · exact fun id => iff_of_false List.not_mem_nil List.not_mem_nil

/-- Started, asked for a frame and stopped, then started with a format that is not known. -/
def restarted : List (UmdCameraMessage×SessionOutcome) :=
  [(.CAMERA_START,{ create := .created 0 }),(.CAMERA_SUBMIT_REQUEST,{}),(.CAMERA_STOP,{}),
    (.CAMERA_START,{ supported := false })]

theorem sound_restarted :
    ∃ s,Run (Guarded Orderly Step) unstarted restarted s ∧ s.Sound := by
  have follows : Follows (fun s m => s.Orderly m ∧ s.running=true ∧ s.overwritten=false)
      (fun s m => s.handleMessage m.2 m.1) unstarted restarted :=
    ⟨⟨⟨rfl,fun _ _ _ => nofun⟩,rfl,rfl⟩,⟨trivial,rfl,rfl⟩,⟨fun _ _ _ => rfl,rfl,rfl⟩,
      ⟨⟨rfl,nofun⟩,rfl,rfl⟩,trivial⟩
  have run : Run (Guarded Orderly Step) unstarted restarted _ :=
    Run.of_follows (fun _ _ h => ⟨h.1,h.2.1,h.2.2,rfl⟩) follows
  exact ⟨_,run,(sound_of_orderly run).1⟩

/-- A second CAMERA_START. -/
theorem start_overwrites : ¬∀ messages s,Run Step unstarted messages s → s.Sound := by
  intro supposed
  have twice : Run Step unstarted
      [(.CAMERA_START,{ create := .created 0 }),(.CAMERA_START,{ create := .created 1 })] _ :=
    (Run.nil.snoc ⟨rfl,rfl,rfl⟩).snoc ⟨rfl,rfl,rfl⟩
  exact absurd (supposed _ _ twice).kept (by decide)

end CameraSession

end IotMedia.Daemon

import IotMedia.Framework.Run
import Mathlib.Data.List.Nodup
import Mathlib.Logic.Function.Basic
import Mathlib.Tactic.Tauto

namespace IotMedia.Qmedia

open IotMedia.Framework

inductive Encoder
  | video
  | audio
  deriving DecidableEq

inductive MuxerState
  | initialized
  | started
  | stopped
  | released
  deriving DecidableEq

/-- What the documentation says of a muxer: the tracks are added before it is started, samples are
written while it is, and each other call throws. -/
structure DocumentedMuxer where
  state : MuxerState := .initialized
  tracks : List Encoder := []
  samples : List (Int×Int) := []

namespace DocumentedMuxer

def addTrack (m : DocumentedMuxer) (e : Encoder) : Option (DocumentedMuxer×Int) :=
  if m.state=.initialized then some ({ m with tracks := m.tracks++[e] },m.tracks.length) else none

def start (m : DocumentedMuxer) : Option DocumentedMuxer :=
  if m.state=.initialized ∧ m.tracks≠[] then some { m with state := .started } else none

def writeSampleData (m : DocumentedMuxer) (trackIndex presentationTimeUs : Int) :
    Option DocumentedMuxer :=
  if m.state=.started ∧ 0 ≤ trackIndex ∧ trackIndex < m.tracks.length then
    some { m with samples := m.samples++[(trackIndex,presentationTimeUs)] }
  else none

def stop (m : DocumentedMuxer) : Option DocumentedMuxer :=
  if m.state=.started then some { m with state := .stopped } else none

def release (m : DocumentedMuxer) : DocumentedMuxer := { m with state := .released }

/-- The track that an index stands for. -/
def trackOf (m : DocumentedMuxer) (trackIndex : Int) : Option Encoder :=
  if 0 ≤ trackIndex then m.tracks[trackIndex.toNat]? else none

/-- The times of the samples in an encoder's track. -/
def times (m : DocumentedMuxer) (e : Encoder) : List Int :=
  m.samples.filterMap fun s => if m.trackOf s.1=some e then some s.2 else none

end DocumentedMuxer

/-- android.media.MediaMuxer, which the tree does not contain: the references to muxers, with the
calls that may throw. Each shows what the documentation says of the calls made so far. -/
class MediaMuxer (X : Type) where
  null : X
  create : X
  addTrack : X → Encoder → Option (X×Int)
  start : X → Option X
  writeSampleData : X → Int → Int → Option X
  stop : X → Option X
  release : X → X
  shows : X → DocumentedMuxer
  shows_null : shows null={ state := .released }
  shows_create : shows create={}
  shows_addTrack (m : X) (e : Encoder) :
    (addTrack m e).map (Prod.map shows id)=(shows m).addTrack e
  shows_start (m : X) : (start m).map shows=(shows m).start
  shows_writeSampleData (m : X) (trackIndex presentationTimeUs : Int) :
    (writeSampleData m trackIndex presentationTimeUs).map shows=
      (shows m).writeSampleData trackIndex presentationTimeUs
  shows_stop (m : X) : (stop m).map shows=(shows m).stop
  shows_release (m : X) : shows (release m)=(shows m).release

instance : MediaMuxer DocumentedMuxer where
  null := { state := .released }
  create := {}
  addTrack := DocumentedMuxer.addTrack
  start := DocumentedMuxer.start
  writeSampleData := DocumentedMuxer.writeSampleData
  stop := DocumentedMuxer.stop
  release := DocumentedMuxer.release
  shows := id
  shows_null := rfl
  shows_create := rfl
  shows_addTrack := fun m e => by simp
  shows_start := fun m => by simp
  shows_writeSampleData := fun m i t => by simp
  shows_stop := fun m => by simp
  shows_release := fun _ => rfl

namespace DocumentedMuxer

variable {m : DocumentedMuxer}

theorem addTrack_initialized (h : m.state=.initialized) (e : Encoder) :
    MediaMuxer.addTrack m e=some ({ m with tracks := m.tracks++[e] },(m.tracks.length : Int)) :=
  if_pos h

theorem start_initialized (h : m.state=.initialized) (tracks : m.tracks≠[]) :
    MediaMuxer.start m=some { m with state := .started } := if_pos ⟨h,tracks⟩

theorem writeSampleData_started (h : m.state=.started) {i : Int}
    (bound : 0 ≤ i ∧ i < m.tracks.length) (t : Int) :
    MediaMuxer.writeSampleData m i t=some { m with samples := m.samples++[(i,t)] } :=
  if_pos ⟨h,bound⟩

theorem stop_started (h : m.state=.started) :
    MediaMuxer.stop m=some { m with state := .stopped } := if_pos h

@[simp] theorem release_released (m : DocumentedMuxer) :
    MediaMuxer.release m={ m with state := .released } := rfl

end DocumentedMuxer

/-- What the run() of VideoEncoderThread or AudioEncoderThread does next. -/
inductive EncoderPoint
  | absent
  | dequeueOutputBuffer
  | acquire
  | addTrack
  | startMuxer
  | setStarted
  | release
  | awaitTime
  | stampTime
  | writeSampleData (presentationTimeUs : Int)
  | ended
  deriving DecidableEq

namespace EncoderPoint

/-- The points at which the thread has the permit of mMuxerLock. -/
def locked : EncoderPoint → Bool
  | .addTrack | .startMuxer | .setStarted | .release => true
  | .absent | .dequeueOutputBuffer | .acquire | .awaitTime | .stampTime | .writeSampleData _
  | .ended => false

/-- The points after a test of mMuxerStarted. -/
def writing : EncoderPoint → Bool
  | .awaitTime | .stampTime | .writeSampleData _ => true
  | .absent | .dequeueOutputBuffer | .acquire | .addTrack | .startMuxer | .setStarted | .release
  | .ended => false

/-- The format has been announced, and its track is not there yet. -/
def adding : EncoderPoint → Bool
  | .acquire | .addTrack => true
  | .absent | .dequeueOutputBuffer | .startMuxer | .setStarted | .release | .awaitTime | .stampTime
  | .writeSampleData _ | .ended => false

def resting : EncoderPoint → Bool
  | .absent | .ended => true
  | .dequeueOutputBuffer | .acquire | .addTrack | .startMuxer | .setStarted | .release | .awaitTime
  | .stampTime | .writeSampleData _ => false

end EncoderPoint

/-- MediaCodecRecorder, as far as its muxer goes. -/
structure MuxerSession (X : Type) where
  mIsAudioEnabled : Bool
  mMuxer : X
  /-- The thread that has the permit. -/
  mMuxerLock : Option Encoder := none
  mMuxerCreated : Bool := false
  mMuxerStarted : Bool := false
  mMuxerTrackCount : Nat := 0
  /-- mVideoTrackIndex and mAudioTrackIndex. -/
  trackIndex : Encoder → Int := fun e => match e with | .video => 0 | .audio => -1
  mPresentationTimeUs : Int := -1
  oldTimeStampUs : Int := 0
  point : Encoder → EncoderPoint := fun _ => .absent
  recording : Bool := false
  /-- The encoder has announced its format in this session. -/
  announced : Encoder → Bool := fun _ => false
  /-- The samples of this session, with the encoders they come from. -/
  written : List (Encoder×Int) := []
  threw : Bool := false

inductive MuxerLabel
  | start
  | announce (e : Encoder)
  | acquire (e : Encoder)
  | addTrack (e : Encoder)
  | startMuxer (e : Encoder)
  | setStarted (e : Encoder)
  | release (e : Encoder)
  | outputBuffer (e : Encoder) (presentationTimeUs : Int)
  | awaitTime
  | stampTime
  | writeSampleData (e : Encoder)
  | leave (e : Encoder)
  | timestamp (presentationTimeUs : Int)
  | stop

namespace MuxerSession

section Threads

variable {X : Type}

def goTo (w : MuxerSession X) (e : Encoder) (p : EncoderPoint) : MuxerSession X :=
  { w with point := Function.update w.point e p }

def throws (w : MuxerSession X) : MuxerSession X := { w with threw := true }

/-- The test before mMuxer.start(). -/
def due (w : MuxerSession X) (e : Encoder) : Bool :=
  w.mMuxerTrackCount=(if e=Encoder.audio ∨ w.mIsAudioEnabled then 2 else 1) && !w.mMuxerStarted

/-- start() makes a thread for each encoder it uses. -/
def firstPoint (w : MuxerSession X) (e : Encoder) : EncoderPoint :=
  if e=.video ∨ w.mIsAudioEnabled then .dequeueOutputBuffer else .absent

/-- An encoder announces its output format once in a session. -/
def AnnouncesOnce (w : MuxerSession X) : MuxerLabel → Prop
  | .announce e => w.announced e=false
  | _ => True

/-- The recorder's clock does not go back. -/
def ClockForward (w : MuxerSession X) : MuxerLabel → Prop
  | .timestamp t => w.mPresentationTimeUs ≤ t
  | _ => True

/-- What a thread has written, by encoder. -/
def timesIn (written : List (Encoder×Int)) (e : Encoder) : List Int :=
  written.filterMap fun s => if s.1=e then some s.2 else none

def timesOf (w : MuxerSession X) (e : Encoder) : List Int := timesIn w.written e

variable [MediaMuxer X]

/-- The muxer has every track that the session records. -/
def Full (w : MuxerSession X) : Prop :=
  Encoder.video∈(MediaMuxer.shows w.mMuxer).tracks ∧
    (w.mIsAudioEnabled=true → Encoder.audio∈(MediaMuxer.shows w.mMuxer).tracks)

/-- No muxer has been created yet. -/
def created (mIsAudioEnabled : Bool) : MuxerSession X where
  mIsAudioEnabled := mIsAudioEnabled
  mMuxer := MediaMuxer.null

def addTrack (w : MuxerSession X) (e : Encoder) : MuxerSession X :=
  let counted := { w with mMuxerTrackCount := w.mMuxerTrackCount+1 }
  match MediaMuxer.addTrack w.mMuxer e with
  | some (m,i) =>
    { counted with
      mMuxer := m
      trackIndex := Function.update w.trackIndex e i }.goTo e .startMuxer
  | none => counted.throws

def startMuxer (w : MuxerSession X) (e : Encoder) : MuxerSession X :=
  if w.due e then
    match MediaMuxer.start w.mMuxer with
    | some m => { w with mMuxer := m }.goTo e .setStarted
    | none => w.throws
  else w.goTo e .release

def writeSampleData (w : MuxerSession X) (e : Encoder) (presentationTimeUs : Int) : MuxerSession X :=
  match MediaMuxer.writeSampleData w.mMuxer (w.trackIndex e) presentationTimeUs with
  | some m =>
    { w with
      mMuxer := m
      oldTimeStampUs := if e=Encoder.audio then presentationTimeUs else w.oldTimeStampUs
      written := w.written++[(e,presentationTimeUs)] }.goTo e .dequeueOutputBuffer
  | none => w.throws

def releaseMuxer (w : MuxerSession X) : MuxerSession X :=
  match if w.mMuxerStarted then MediaMuxer.stop w.mMuxer else some w.mMuxer with
  | some m =>
    { w with
      mMuxer := if w.mMuxerCreated then MediaMuxer.release m else m
      mMuxerCreated := false
      mMuxerStarted := false
      mMuxerTrackCount := 0
      recording := false }
  | none => w.throws

def start (w : MuxerSession X) : MuxerSession X :=
  { w with
    mMuxer := MediaMuxer.create
    mMuxerCreated := true
    oldTimeStampUs := 0
    point := w.firstPoint
    recording := true
    announced := fun _ => false
    written := [] }

/-- start() and stop() come in turns; a thread leaves its loop at any turn. An exception ends the
process. -/
inductive Step : MuxerSession X → MuxerLabel → MuxerSession X → Prop
  | start {w : MuxerSession X} (alive : w.threw=false) (stopped : w.recording=false) :
    Step w .start w.start
  | announce {w : MuxerSession X} {e : Encoder} (alive : w.threw=false)
      (at_ : w.point e=.dequeueOutputBuffer) :
    Step w (.announce e)
      { w.goTo e .acquire with announced := Function.update w.announced e true }
  | acquire {w : MuxerSession X} {e : Encoder} (alive : w.threw=false) (at_ : w.point e=.acquire)
      (free : w.mMuxerLock=none) :
    Step w (.acquire e)
      ({ w with mMuxerLock := some e }.goTo e (if w.mMuxerCreated then .addTrack else .release))
  | addTrack {w : MuxerSession X} {e : Encoder} (alive : w.threw=false) (at_ : w.point e=.addTrack) :
    Step w (.addTrack e) (w.addTrack e)
  | startMuxer {w : MuxerSession X} {e : Encoder} (alive : w.threw=false)
      (at_ : w.point e=.startMuxer) : Step w (.startMuxer e) (w.startMuxer e)
  | setStarted {w : MuxerSession X} {e : Encoder} (alive : w.threw=false)
      (at_ : w.point e=.setStarted) :
    Step w (.setStarted e) ({ w with mMuxerStarted := true }.goTo e .release)
  | release {w : MuxerSession X} {e : Encoder} (alive : w.threw=false) (at_ : w.point e=.release) :
    Step w (.release e) ({ w with mMuxerLock := none }.goTo e .dequeueOutputBuffer)
  | outputBuffer {w : MuxerSession X} {e : Encoder} {t : Int} (alive : w.threw=false)
      (at_ : w.point e=.dequeueOutputBuffer) (started : w.mMuxerStarted=true)
      (later : e=.audio → w.oldTimeStampUs<t) :
    Step w (.outputBuffer e t)
      (w.goTo e (if e=.video ∧ w.mIsAudioEnabled then .awaitTime else .writeSampleData t))
  | awaitTime {w : MuxerSession X} (alive : w.threw=false) (at_ : w.point .video=.awaitTime)
      (there : w.mPresentationTimeUs≠-1) : Step w .awaitTime (w.goTo .video .stampTime)
  | stampTime {w : MuxerSession X} (alive : w.threw=false) (at_ : w.point .video=.stampTime) :
    Step w .stampTime (w.goTo .video (.writeSampleData w.mPresentationTimeUs))
  | writeSampleData {w : MuxerSession X} {e : Encoder} {t : Int} (alive : w.threw=false)
      (at_ : w.point e=.writeSampleData t) : Step w (.writeSampleData e) (w.writeSampleData e t)
  | leave {w : MuxerSession X} {e : Encoder} (alive : w.threw=false)
      (at_ : w.point e=.dequeueOutputBuffer) : Step w (.leave e) (w.goTo e .ended)
  | timestamp {w : MuxerSession X} {t : Int} (alive : w.threw=false) (running : w.recording=true)
      (audio : w.mIsAudioEnabled=true) :
    Step w (.timestamp t) { w with mPresentationTimeUs := t }
  | stop {w : MuxerSession X} (alive : w.threw=false) (running : w.recording=true)
      (joined : ∀ e,(w.point e).resting=true) : Step w .stop w.releaseMuxer

end Threads

section Documented

/-! The muxer does what the documentation says. -/

/-- The protocol of the two threads and the muxer. -/
structure Sound (w : MuxerSession DocumentedMuxer) : Prop where
  alive : w.threw=false
  lock : ∀ e,(w.point e).locked=true → w.mMuxerLock=some e
  idle : w.recording=false →
    (∀ e,(w.point e).resting=true) ∧ w.mMuxerStarted=false ∧ w.mMuxerTrackCount=0
  silent : w.mIsAudioEnabled=false → w.point .audio=.absent
  count : w.recording=true → w.mMuxerTrackCount=w.mMuxer.tracks.length
  open_ : w.recording=true → w.mMuxer.state=.initialized ∨ w.mMuxer.state=.started
  nodup : w.mMuxer.tracks.Nodup
  own : ∀ e∈w.mMuxer.tracks,w.recording=true → (w.point e).adding=false
  fresh : ∀ e,w.recording=true → w.announced e=false →
    e∉w.mMuxer.tracks ∧ (w.point e).adding=false
  mine : ∀ e,w.point e=.startMuxer → e∈w.mMuxer.tracks
  index : ∀ e∈w.mMuxer.tracks,w.mMuxer.trackOf (w.trackIndex e)=some e
  flag : w.mMuxer.state=.started ↔ w.mMuxerStarted=true ∨ ∃ e,w.point e=.setStarted
  full : w.mMuxer.state=.started → w.Full
  writing : ∀ e,(w.point e).writing=true → w.mMuxerStarted=true
  empty : w.mMuxer.state=.initialized → w.mMuxer.samples=[]

variable {w v : MuxerSession DocumentedMuxer} {l : MuxerLabel} {e : Encoder}

@[simp] theorem goTo_self (w : MuxerSession DocumentedMuxer) (e : Encoder) (p : EncoderPoint) :
    (w.goTo e p).point e=p := by
  simp [goTo]

theorem goTo_other {e' : Encoder} (other : e'≠e) (p : EncoderPoint) :
    (w.goTo e p).point e'=w.point e' := by
  simp [goTo,other]

/-- A thread that is under way does so in a session. -/
theorem Sound.running (h : w.Sound) (busy : (w.point e).resting=false) : w.recording=true := by
  by_contra stopped
  have rests := (h.idle (by simpa using stopped)).1 e
  rw [busy] at rests
  cases rests

theorem Sound.enabled (h : w.Sound) (busy : w.point e≠.absent) :
    e=.video ∨ w.mIsAudioEnabled=true := by
  cases e with
  | video => exact .inl rfl
  | audio =>
    by_contra off
    exact busy (h.silent (by simpa using off))

/-- The permit is with one thread. -/
theorem Sound.alone (h : w.Sound) {k : Encoder} (here : (w.point e).locked=true)
    (there : (w.point k).locked=true) : k=e :=
  Option.some.inj ((h.lock k there).symm.trans (h.lock e here))

/-- The protocol without what it says of one thread that is under way. -/
structure SoundBut (w : MuxerSession DocumentedMuxer) (e : Encoder) : Prop where
  alive : w.threw=false
  running : w.recording=true
  lock : ∀ k,k≠e → (w.point k).locked=true → w.mMuxerLock=some k
  silent : w.mIsAudioEnabled=false → e=.video ∧ w.point .audio=.absent
  count : w.mMuxerTrackCount=w.mMuxer.tracks.length
  open_ : w.mMuxer.state=.initialized ∨ w.mMuxer.state=.started
  nodup : w.mMuxer.tracks.Nodup
  own : ∀ k,k≠e → k∈w.mMuxer.tracks → (w.point k).adding=false
  fresh : ∀ k,w.announced k=false → k∉w.mMuxer.tracks ∧ (k≠e → (w.point k).adding=false)
  mine : ∀ k,k≠e → w.point k=.startMuxer → k∈w.mMuxer.tracks
  index : ∀ k∈w.mMuxer.tracks,w.mMuxer.trackOf (w.trackIndex k)=some k
  full : w.mMuxer.state=.started → w.Full
  writing : ∀ k,k≠e → (w.point k).writing=true → w.mMuxerStarted=true
  empty : w.mMuxer.state=.initialized → w.mMuxer.samples=[]

theorem Sound.but (h : w.Sound) (busy : (w.point e).resting=false) : w.SoundBut e := by
  have running := h.running busy
  refine ⟨h.alive,running,fun k _ => h.lock k,fun off => ⟨?_,h.silent off⟩,h.count running,
    h.open_ running,h.nodup,fun k _ there => h.own k there running,fun k untold => ?_,
    fun k _ => h.mine k,h.index,h.full,fun k _ => h.writing k,h.empty⟩
  · refine (h.enabled fun absent => ?_).resolve_right (by simp [off])
    rw [absent] at busy
    cases busy
  · obtain ⟨away,resting⟩ := h.fresh k running untold
    exact ⟨away,fun _ => resting⟩

/-- The thread goes on to a point at which the protocol has it. -/
theorem SoundBut.goTo (h : w.SoundBut e) {p : EncoderPoint}
    (lock : p.locked=true → w.mMuxerLock=some e) (own : e∈w.mMuxer.tracks → p.adding=false)
    (fresh : w.announced e=false → p.adding=false) (mine : p=.startMuxer → e∈w.mMuxer.tracks)
    (flag : w.mMuxer.state=.started ↔
      w.mMuxerStarted=true ∨ p=.setStarted ∨ ∃ k,k≠e ∧ w.point k=.setStarted)
    (writing : p.writing=true → w.mMuxerStarted=true) : (w.goTo e p).Sound where
  alive := h.alive
  lock := (Function.forall_update_iff w.point
    fun k q => q.locked=true → w.mMuxerLock=some k).mpr ⟨lock,h.lock⟩
  idle := fun stopped => absurd (stopped.symm.trans h.running) Bool.false_ne_true
  silent := by
    intro off
    obtain ⟨rfl,absent⟩ := h.silent off
    rw [goTo_other (by simp)]
    exact absent
  count := fun _ => h.count
  open_ := fun _ => h.open_
  nodup := h.nodup
  own := fun k there _ => (Function.forall_update_iff w.point
    fun k q => k∈w.mMuxer.tracks → q.adding=false).mpr ⟨own,h.own⟩ k there
  fresh := fun k _ untold => ⟨(h.fresh k untold).1,(Function.forall_update_iff w.point
    fun k q => w.announced k=false → q.adding=false).mpr
      ⟨fresh,fun k other untold => (h.fresh k untold).2 other⟩ k untold⟩
  mine := (Function.forall_update_iff w.point
    fun k q => q=.startMuxer → k∈w.mMuxer.tracks).mpr ⟨mine,h.mine⟩
  index := h.index
  flag := flag.trans (or_congr_right (Function.exists_update_iff w.point
    fun _ q => q=.setStarted).symm)
  full := h.full
  writing := (Function.forall_update_iff w.point
    fun _ q => q.writing=true → w.mMuxerStarted=true).mpr ⟨writing,h.writing⟩
  empty := h.empty

/-- A thread that has the permit sees no other at the point after start(). -/
theorem Sound.flag_locked (h : w.Sound) (here : (w.point e).locked=true)
    (before : w.point e≠.setStarted) :
    (¬∃ k,w.point k=.setStarted) ∧ (w.mMuxer.state=.started ↔ w.mMuxerStarted=true) := by
  have none : ¬∃ k,w.point k=.setStarted := by
    rintro ⟨k,now⟩
    have same := h.alone (e := e) (k := k) here (by rw [now]; rfl)
    rw [same] at now
    exact before now
  exact ⟨none,h.flag.trans (or_iff_left none)⟩

/-- Without a call of the muxer the others' part stays. -/
theorem Sound.flag_kept (h : w.Sound) {p : EncoderPoint}
    (same : p=.setStarted ↔ w.point e=.setStarted) : w.mMuxer.state=.started ↔
      w.mMuxerStarted=true ∨ p=.setStarted ∨ ∃ k,k≠e ∧ w.point k=.setStarted := by
  rw [h.flag,same]
  refine or_congr_right ⟨?_,?_⟩
  · rintro ⟨k,now⟩
    by_cases here : k=e
    · exact .inl (here ▸ now)
    · exact .inr ⟨k,here,now⟩
  · rintro (now|⟨k,-,now⟩)
    · exact ⟨e,now⟩
    · exact ⟨k,now⟩

theorem Sound.goTo (h : w.Sound) (busy : (w.point e).resting=false) {p : EncoderPoint}
    (lock : p.locked=true → w.mMuxerLock=some e) (adding : p.adding=false)
    (mine : p=.startMuxer → e∈w.mMuxer.tracks)
    (started : p=.setStarted ↔ w.point e=.setStarted)
    (writing : p.writing=true → w.mMuxerStarted=true) : (w.goTo e p).Sound :=
  (h.but busy).goTo lock (fun _ => adding) (fun _ => adding) mine (h.flag_kept started) writing

/-- Two different tracks are both there are. -/
theorem all_of_two {tracks : List Encoder} (nodup : tracks.Nodup) (two : tracks.length=2)
    (e : Encoder) : e∈tracks := by
  obtain ⟨a,b,rfl⟩ := List.length_eq_two.mp two
  have different : a≠b := by simpa using nodup
  cases a <;> cases b <;> cases e <;> simp at different ⊢

theorem trackOf_new (m : DocumentedMuxer) (e : Encoder) :
    ({ m with tracks := m.tracks++[e] } : DocumentedMuxer).trackOf m.tracks.length=some e := by
  simp [DocumentedMuxer.trackOf]

theorem trackOf_old {m : DocumentedMuxer} {i : Int} {k : Encoder} (e : Encoder)
    (there : m.trackOf i=some k) :
    ({ m with tracks := m.tracks++[e] } : DocumentedMuxer).trackOf i=some k := by
  unfold DocumentedMuxer.trackOf at there ⊢
  split_ifs at there ⊢ with nonneg
  exact List.getElem?_append_left (List.getElem?_eq_some_iff.mp there).1 ▸ there

/-- An index that stands for a track is one to write to. -/
theorem trackOf_bound {m : DocumentedMuxer} {i : Int} {k : Encoder} (there : m.trackOf i=some k) :
    0 ≤ i ∧ i < m.tracks.length := by
  unfold DocumentedMuxer.trackOf at there
  split_ifs at there with nonneg
  have bound := (List.getElem?_eq_some_iff.mp there).1
  omega

/-- The muxer has no track of an encoder that comes to add it, and is not started. -/
theorem Sound.adds (h : w.Sound) (at_ : w.point e=.addTrack) :
    w.mMuxer.state=.initialized ∧ e∉w.mMuxer.tracks := by
  have running := h.running (e := e) (by rw [at_]; rfl)
  have missing : e∉w.mMuxer.tracks := by
    intro there
    have added := h.own e there running
    rw [at_] at added
    cases added
  refine ⟨(h.open_ running).resolve_right fun started => missing ?_,missing⟩
  obtain ⟨video,audio⟩ := h.full started
  cases e with
  | video => exact video
  | audio => exact audio ((h.enabled (by rw [at_]; simp)).resolve_left (by simp))

theorem Sound.addTrack (h : w.Sound) (at_ : w.point e=.addTrack) : (w.addTrack e).Sound := by
  obtain ⟨initialized,missing⟩ := h.adds at_
  have here : (w.point e).locked=true := by rw [at_]; rfl
  have but := h.but (e := e) (by rw [at_]; rfl)
  obtain ⟨none,flag⟩ := h.flag_locked here (by rw [at_]; simp)
  have told : w.announced e=true := by
    by_contra untold
    have adding := (h.fresh e but.running (by simpa using untold)).2
    rw [at_] at adding
    cases adding
  unfold MuxerSession.addTrack
  rw [DocumentedMuxer.addTrack_initialized initialized]
  have added : SoundBut { w with
      mMuxerTrackCount := w.mMuxerTrackCount+1
      mMuxer := { w.mMuxer with tracks := w.mMuxer.tracks++[e] }
      trackIndex := Function.update w.trackIndex e w.mMuxer.tracks.length } e := by
    refine ⟨h.alive,but.running,but.lock,but.silent,?_,.inl initialized,?_,fun k other there => ?_,
      fun k untold => ?_,fun k other at_ => List.mem_append_left _ (but.mine k other at_),
      fun k there => ?_,fun started => absurd (initialized.symm.trans started) (by simp),
      but.writing,but.empty⟩
    · simp [but.count]
    · refine List.nodup_append.mpr ⟨h.nodup,List.nodup_singleton e,fun a there b new => ?_⟩
      rw [List.mem_singleton.mp new]
      exact ne_of_mem_of_not_mem there missing
    · exact but.own k other (by simpa [other] using there)
    · have other : k≠e := by
        rintro rfl
        exact absurd (told.symm.trans untold) (by simp)
      obtain ⟨away,resting⟩ := but.fresh k untold
      exact ⟨by simpa [other] using away,resting⟩
    · by_cases same : k=e
      · subst same
        simp only [Function.update_self]
        exact trackOf_new w.mMuxer k
      · have old : k∈w.mMuxer.tracks := by simpa [same] using there
        simp only [Function.update_of_ne same]
        exact trackOf_old e (h.index k old)
  refine added.goTo (fun _ => h.lock e here) (fun _ => rfl) (fun _ => rfl) (fun _ => by simp) ?_
    (fun on => by cases on)
  refine flag.trans (or_iff_left ?_).symm
  rintro (now|⟨k,-,now⟩)
  · cases now
  · exact none ⟨k,now⟩

/-- start() comes when every track has been added. -/
theorem Sound.due_full (h : w.Sound) (at_ : w.point e=.startMuxer) (due : w.due e=true) :
    w.mMuxer.state=.initialized ∧ w.Full := by
  have but := h.but (e := e) (by rw [at_]; rfl)
  have flag := (h.flag_locked (e := e) (by rw [at_]; rfl) (by rw [at_]; simp)).2
  simp only [MuxerSession.due,Bool.and_eq_true,decide_eq_true_eq,Bool.not_eq_true'] at due
  obtain ⟨counted,unstarted⟩ := due
  refine ⟨but.open_.resolve_right fun started => ?_,?_⟩
  · exact absurd (unstarted.symm.trans (flag.mp started)) Bool.false_ne_true
  rw [but.count] at counted
  split_ifs at counted with both
  · exact ⟨all_of_two h.nodup counted _,fun _ => all_of_two h.nodup counted _⟩
  · obtain ⟨video,off⟩ := not_or.mp both
    cases e with
    | video => exact ⟨h.mine .video at_,fun on => absurd on off⟩
    | audio => exact absurd rfl video

theorem Sound.startMuxer (h : w.Sound) (at_ : w.point e=.startMuxer) :
    (w.startMuxer e).Sound := by
  have busy : (w.point e).resting=false := by rw [at_]; rfl
  have here := h.lock e (by rw [at_]; rfl)
  unfold MuxerSession.startMuxer
  by_cases due : w.due e=true
  · obtain ⟨initialized,full⟩ := h.due_full at_ due
    have but := h.but busy
    rw [if_pos due,DocumentedMuxer.start_initialized initialized
      (List.ne_nil_of_mem (h.mine e at_))]
    have started : SoundBut { w with mMuxer := { w.mMuxer with state := .started } } e :=
      ⟨h.alive,but.running,but.lock,but.silent,but.count,.inr rfl,h.nodup,but.own,but.fresh,
        but.mine,h.index,fun _ => full,but.writing,fun now => by cases now⟩
    exact started.goTo (fun _ => here) (fun _ => rfl) (fun _ => rfl) (fun now => by cases now)
      (iff_of_true rfl (.inr (.inl rfl))) (fun on => by cases on)
  · rw [if_neg due]
    exact h.goTo busy (fun _ => here) rfl (by simp) (by simp [at_]) (fun on => by cases on)

theorem Sound.setStarted (h : w.Sound) (at_ : w.point e=.setStarted) :
    ({ w with mMuxerStarted := true }.goTo e .release).Sound := by
  have but := h.but (e := e) (by rw [at_]; rfl)
  have started := h.flag.mpr (.inr ⟨e,at_⟩)
  have flagged : SoundBut { w with mMuxerStarted := true } e :=
    ⟨h.alive,but.running,but.lock,but.silent,but.count,but.open_,h.nodup,but.own,but.fresh,but.mine,
      h.index,h.full,fun _ _ _ => rfl,h.empty⟩
  exact flagged.goTo (fun _ => h.lock e (by rw [at_]; rfl)) (fun _ => rfl) (fun _ => rfl) (by simp)
    (iff_of_true started (.inl rfl)) (fun on => by cases on)

/-- A sample is written to the started muxer, under the index of the thread's own track. -/
theorem Sound.writes (h : w.Sound) {t : Int} (at_ : w.point e=.writeSampleData t) :
    w.mMuxer.state=.started ∧ w.mMuxer.trackOf (w.trackIndex e)=some e := by
  have started := h.flag.mpr (.inl (h.writing e (by rw [at_]; rfl)))
  obtain ⟨video,audio⟩ := h.full started
  refine ⟨started,h.index e ?_⟩
  cases e with
  | video => exact video
  | audio => exact audio ((h.enabled (by rw [at_]; simp)).resolve_left (by simp))

theorem writeSampleData_eq (h : w.Sound) {t : Int} (at_ : w.point e=.writeSampleData t) :
    w.writeSampleData e t={ w with
      mMuxer := { w.mMuxer with samples := w.mMuxer.samples++[(w.trackIndex e,t)] }
      oldTimeStampUs := if e=Encoder.audio then t else w.oldTimeStampUs
      written := w.written++[(e,t)] }.goTo e .dequeueOutputBuffer := by
  obtain ⟨started,own⟩ := h.writes at_
  unfold MuxerSession.writeSampleData
  rw [DocumentedMuxer.writeSampleData_started started (trackOf_bound own)]

theorem Sound.writeSampleData (h : w.Sound) {t : Int} (at_ : w.point e=.writeSampleData t) :
    (w.writeSampleData e t).Sound := by
  have but := h.but (e := e) (by rw [at_]; rfl)
  have started := (h.writes at_).1
  rw [writeSampleData_eq h at_]
  have written : SoundBut { w with
      mMuxer := { w.mMuxer with samples := w.mMuxer.samples++[(w.trackIndex e,t)] }
      oldTimeStampUs := if e=Encoder.audio then t else w.oldTimeStampUs
      written := w.written++[(e,t)] } e :=
    ⟨h.alive,but.running,but.lock,but.silent,but.count,but.open_,h.nodup,but.own,but.fresh,but.mine,
      h.index,h.full,but.writing,fun now => absurd (started.symm.trans now) (by simp)⟩
  exact written.goTo (fun on => by cases on) (fun _ => rfl) (fun _ => rfl) (by simp)
    (h.flag_kept (by simp [at_])) (fun on => by cases on)

/-- stop() ends a session whose threads have been joined. -/
theorem Sound.releaseMuxer (h : w.Sound)
    (joined : ∀ e,(w.point e).resting=true) : w.releaseMuxer.Sound := by
  have away : ∀ e p,w.point e=p → p.resting=true := fun e p at_ => at_ ▸ joined e
  have flag : w.mMuxer.state=.started ↔ w.mMuxerStarted=true := by
    refine h.flag.trans (or_iff_left ?_)
    rintro ⟨e,at_⟩
    cases away e _ at_
  have ended (m : DocumentedMuxer) (tracks : m.tracks=w.mMuxer.tracks) (state : m.state≠.started)
      (empty : m.state=.initialized → m.samples=[]) : Sound { w with
        mMuxer := m
        mMuxerCreated := false
        mMuxerStarted := false
        mMuxerTrackCount := 0
        recording := false } := by
    refine ⟨h.alive,fun e on => ?_,fun _ => ⟨joined,rfl,rfl⟩,h.silent,
      fun on => absurd on Bool.false_ne_true,fun on => absurd on Bool.false_ne_true,
      tracks ▸ h.nodup,fun _ _ on => absurd on Bool.false_ne_true,
      fun _ on => absurd on Bool.false_ne_true,fun e at_ => absurd (away e _ at_) Bool.false_ne_true,
      fun e there => ?_,?_,fun now => absurd now state,fun e on => ?_,empty⟩
    · exact h.lock e on
    · have old := h.index e (by simpa [tracks] using there)
      simpa [DocumentedMuxer.trackOf,tracks] using old
    · refine iff_of_false state ?_
      rintro (on|⟨e,at_⟩)
      · cases on
      · cases away e _ at_
    · have rests := joined e
      cases at_ : w.point e <;> simp [at_,EncoderPoint.writing,EncoderPoint.resting] at on rests
  unfold MuxerSession.releaseMuxer
  cases started : w.mMuxerStarted with
  | true =>
    rw [if_pos rfl,DocumentedMuxer.stop_started (flag.mpr started)]
    dsimp only
    split_ifs
    · exact ended _ rfl (by simp) (by simp)
    · exact ended _ rfl (by simp) (by simp)
  | false =>
    have quiet : w.mMuxer.state≠.started := fun now => by
      rw [flag,started] at now
      cases now
    rw [if_neg (by simp)]
    dsimp only
    split_ifs
    · exact ended _ rfl (by simp) (by simp)
    · exact ended _ rfl quiet h.empty

theorem firstPoint_cases (w : MuxerSession DocumentedMuxer) (e : Encoder) :
    w.firstPoint e=.dequeueOutputBuffer ∨ w.firstPoint e=.absent := by
  unfold firstPoint
  split_ifs
  · exact .inl rfl
  · exact .inr rfl

theorem Sound.start (h : w.Sound) (stopped : w.recording=false) : w.start.Sound := by
  obtain ⟨-,unstarted,counted⟩ := h.idle stopped
  have calm (p : EncoderPoint → Prop) (dequeue : ¬p .dequeueOutputBuffer) (absent : ¬p .absent)
      (e : Encoder) : ¬p (w.firstPoint e) := by
    rcases w.firstPoint_cases e with at_|at_ <;> rw [at_]
    · exact dequeue
    · exact absent
  refine ⟨h.alive,fun e on => ?_,fun now => absurd now (by simp [MuxerSession.start]),fun off => ?_,
    fun _ => counted,fun _ => .inl rfl,List.nodup_nil,fun e there => absurd there List.not_mem_nil,
    fun e _ _ => ⟨List.not_mem_nil,?_⟩,fun e at_ => ?_,fun e there => absurd there List.not_mem_nil,
    ?_,fun now => absurd now (by simp [MuxerSession.start]),fun e on => ?_,fun _ => rfl⟩
  · exact absurd on (calm (fun p => p.locked=true) (by decide) (by decide) e)
  · simpa [MuxerSession.start,firstPoint] using off
  · have adds := calm (fun p => p.adding=true) (by decide) (by decide) e
    exact (Bool.not_eq_true _).mp adds
  · exact absurd at_ (calm (fun p => p=.startMuxer) (by decide) (by decide) e)
  · refine iff_of_false (by simp [MuxerSession.start]) ?_
    rintro (on|⟨e,at_⟩)
    · exact absurd (unstarted.symm.trans on) (by simp)
    · exact absurd at_ (calm (fun p => p=.setStarted) (by decide) (by decide) e)
  · exact absurd on (calm (fun p => p.writing=true) (by decide) (by decide) e)

theorem Sound.step (h : w.Sound) (once : w.AnnouncesOnce l) (step : Step w l v) : v.Sound := by
  cases step with
  | start alive stopped => exact h.start stopped
  | @announce e alive at_ =>
    have but := h.but (e := e) (by rw [at_]; rfl)
    have told : SoundBut { w with announced := Function.update w.announced e true } e := by
      refine ⟨h.alive,but.running,but.lock,but.silent,but.count,but.open_,h.nodup,but.own,
        fun k untold => ?_,but.mine,h.index,h.full,but.writing,h.empty⟩
      have other : k≠e := by
        rintro rfl
        simp at untold
      exact but.fresh k (by simpa [other] using untold)
    have missing : e∉w.mMuxer.tracks := (but.fresh e once).1
    exact told.goTo (fun on => by cases on) (fun there => absurd there missing)
      (fun untold => by simp at untold) (by simp) (h.flag_kept (by simp [at_]))
      (fun on => by cases on)
  | @acquire e alive at_ free =>
    have but := h.but (e := e) (by rw [at_]; rfl)
    have held : SoundBut { w with mMuxerLock := some e } e := by
      refine ⟨h.alive,but.running,fun k other on => ?_,but.silent,but.count,but.open_,h.nodup,
        but.own,but.fresh,but.mine,h.index,h.full,but.writing,h.empty⟩
      cases free.symm.trans (h.lock k on)
    have missing : e∉w.mMuxer.tracks := by
      intro there
      have adding := h.own e there but.running
      rw [at_] at adding
      cases adding
    have told : w.announced e=true := by
      by_contra untold
      have adding := (h.fresh e but.running (by simpa using untold)).2
      rw [at_] at adding
      cases adding
    refine held.goTo (fun _ => rfl) (fun there => absurd there missing)
      (fun untold => absurd (told.symm.trans untold) (by simp)) ?_ (h.flag_kept ?_) ?_
    all_goals split_ifs <;> simp [at_,EncoderPoint.writing]
  | addTrack alive at_ => exact h.addTrack at_
  | startMuxer alive at_ => exact h.startMuxer at_
  | setStarted alive at_ => exact h.setStarted at_
  | @release e alive at_ =>
    have but := h.but (e := e) (by rw [at_]; rfl)
    have free : SoundBut { w with mMuxerLock := none } e := by
      refine ⟨h.alive,but.running,fun k other on => ?_,but.silent,but.count,but.open_,h.nodup,
        but.own,but.fresh,but.mine,h.index,h.full,but.writing,h.empty⟩
      exact absurd (h.alone (e := e) (by rw [at_]; rfl) on) other
    exact free.goTo (fun on => by cases on) (fun _ => rfl) (fun _ => rfl) (by simp)
      (h.flag_kept (by simp [at_])) (fun on => by cases on)
  | @outputBuffer e t alive at_ started later =>
    refine h.goTo (by rw [at_]; rfl) ?_ ?_ ?_ ?_ fun _ => started
    all_goals split_ifs <;> simp [at_,EncoderPoint.locked,EncoderPoint.adding]
  | awaitTime alive at_ there =>
    exact h.goTo (by rw [at_]; rfl) (fun on => by cases on) rfl (by simp) (by simp [at_])
      (fun _ => h.writing .video (by rw [at_]; rfl))
  | stampTime alive at_ =>
    exact h.goTo (by rw [at_]; rfl) (fun on => by cases on) rfl (by simp) (by simp [at_])
      (fun _ => h.writing .video (by rw [at_]; rfl))
  | writeSampleData alive at_ => exact h.writeSampleData at_
  | leave alive at_ =>
    exact h.goTo (by rw [at_]; rfl) (fun on => by cases on) rfl (by simp) (by simp [at_])
      (fun on => by cases on)
  | timestamp alive running audio =>
    exact ⟨h.alive,h.lock,h.idle,h.silent,h.count,h.open_,h.nodup,h.own,h.fresh,h.mine,h.index,
      h.flag,h.full,h.writing,h.empty⟩
  | stop alive running joined => exact h.releaseMuxer joined

theorem created_sound (mIsAudioEnabled : Bool) : Sound (created mIsAudioEnabled) where
  alive := rfl
  lock := fun _ on => by cases on
  idle := fun _ => ⟨fun _ => rfl,rfl,rfl⟩
  silent := fun _ => rfl
  count := fun on => by cases on
  open_ := fun on => by cases on
  nodup := List.nodup_nil
  own := fun _ there => by cases there
  fresh := fun _ on => by cases on
  mine := fun _ at_ => by cases at_
  index := fun _ there => by cases there
  flag := by simp [created,MediaMuxer.null]
  full := fun now => by cases now
  writing := fun _ on => by cases on
  empty := fun now => by cases now

section Times

theorem timesIn_snoc (written : List (Encoder×Int)) (e k : Encoder) (t : Int) :
    timesIn (written++[(e,t)]) k=timesIn written k++if e=k then [t] else [] := by
  simp only [timesIn,List.filterMap_append,List.filterMap_cons,List.filterMap_nil]
  split_ifs <;> rfl

theorem times_write {m : DocumentedMuxer} {i t : Int} {e : Encoder} (own : m.trackOf i=some e)
    (k : Encoder) : ({ m with samples := m.samples++[(i,t)] } : DocumentedMuxer).times k=
      m.times k++if e=k then [t] else [] := by
  have same : ∀ j,({ m with samples := m.samples++[(i,t)] } : DocumentedMuxer).trackOf j=m.trackOf j :=
    fun _ => rfl
  simp only [DocumentedMuxer.times,same,List.filterMap_append,List.filterMap_cons,List.filterMap_nil,own,
    Option.some.injEq]
  split_ifs <;> rfl

/-- Audio times go up. -/
structure Timed (w : MuxerSession DocumentedMuxer) : Prop where
  audio : (w.timesOf .audio).Pairwise (· < ·)
  old : ∀ t∈w.timesOf .audio,t ≤ w.oldTimeStampUs
  next : ∀ t,w.point .audio=.writeSampleData t → w.oldTimeStampUs<t

/-- The video times follow the recorder's clock. -/
structure Clocked (w : MuxerSession DocumentedMuxer) : Prop where
  video : (w.timesOf .video).Pairwise (· ≤ ·)
  passed : ∀ t∈w.timesOf .video,t ≤ w.mPresentationTimeUs
  next : ∀ t,w.point .video=.writeSampleData t →
    t ≤ w.mPresentationTimeUs ∧ ∀ s∈w.timesOf .video,s ≤ t

/-- What a step does to the times: a session starts, nothing happens to them, a thread takes the
time of a sample, it writes the sample, or the recorder reads its clock. -/
inductive TimeMove (w : MuxerSession DocumentedMuxer) (l : MuxerLabel)
    (v : MuxerSession DocumentedMuxer) : Prop
  | starts (none : v.written=[]) (calm : ∀ k t,v.point k≠.writeSampleData t)
  | rests (written : v.written=w.written) (old : v.oldTimeStampUs=w.oldTimeStampUs)
      (clock : v.mPresentationTimeUs=w.mPresentationTimeUs)
      (kept : ∀ k t,v.point k=.writeSampleData t → w.point k=.writeSampleData t)
  | takes (e : Encoder) (t : Int) (same : v=w.goTo e (.writeSampleData t))
      (audio : e=.audio → w.oldTimeStampUs<t)
      (video : e=.video → w.mIsAudioEnabled=true → t=w.mPresentationTimeUs)
  | writes (e : Encoder) (t : Int) (at_ : w.point e=.writeSampleData t)
      (written : v.written=w.written++[(e,t)])
      (old : v.oldTimeStampUs=if e=Encoder.audio then t else w.oldTimeStampUs)
      (clock : v.mPresentationTimeUs=w.mPresentationTimeUs)
      (kept : ∀ k s,v.point k=.writeSampleData s → k≠e ∧ w.point k=.writeSampleData s)
  | ticks (t : Int) (label : l=.timestamp t) (same : v={ w with mPresentationTimeUs := t })

theorem goTo_kept {p : EncoderPoint} (away : ∀ t,p≠.writeSampleData t) (k : Encoder) (t : Int)
    (at_ : (w.goTo e p).point k=.writeSampleData t) : k≠e ∧ w.point k=.writeSampleData t := by
  by_cases same : k=e
  · subst same
    rw [goTo_self] at at_
    exact absurd at_ (away t)
  · rw [goTo_other same] at at_
    exact ⟨same,at_⟩

/-- addTrack() comes before the first sample. -/
theorem Sound.addTrack_eq (h : w.Sound) (at_ : w.point e=.addTrack) :
    w.mMuxer.samples=[] ∧ w.addTrack e={ w with
      mMuxerTrackCount := w.mMuxerTrackCount+1
      mMuxer := { w.mMuxer with tracks := w.mMuxer.tracks++[e] }
      trackIndex := Function.update w.trackIndex e w.mMuxer.tracks.length }.goTo e .startMuxer := by
  have initialized := (h.adds at_).1
  refine ⟨h.empty initialized,?_⟩
  unfold MuxerSession.addTrack
  rw [DocumentedMuxer.addTrack_initialized initialized]

/-- start() of the muxer leaves its tracks and samples. -/
theorem Sound.startMuxer_eq (h : w.Sound) (at_ : w.point e=.startMuxer) :
    ∃ state p,(∀ t,p≠.writeSampleData t) ∧
      w.startMuxer e={ w with mMuxer := { w.mMuxer with state := state } }.goTo e p := by
  unfold MuxerSession.startMuxer
  by_cases due : w.due e=true
  · obtain ⟨initialized,-⟩ := h.due_full at_ due
    rw [if_pos due,DocumentedMuxer.start_initialized initialized
      (List.ne_nil_of_mem (h.mine e at_))]
    exact ⟨_,.setStarted,by simp,rfl⟩
  · rw [if_neg due]
    exact ⟨w.mMuxer.state,.release,by simp,rfl⟩

theorem Sound.releaseMuxer_eq (h : w.Sound) :
    ∃ state,w.releaseMuxer={ w with
      mMuxer := { w.mMuxer with state := state }
      mMuxerCreated := false
      mMuxerStarted := false
      mMuxerTrackCount := 0
      recording := false } := by
  unfold MuxerSession.releaseMuxer
  cases started : w.mMuxerStarted with
  | true =>
    rw [if_pos rfl,DocumentedMuxer.stop_started (h.flag.mpr (.inl started))]
    dsimp only
    split_ifs
    · exact ⟨.released,rfl⟩
    · exact ⟨.stopped,rfl⟩
  | false =>
    rw [if_neg (by simp)]
    dsimp only
    split_ifs
    · exact ⟨.released,rfl⟩
    · exact ⟨w.mMuxer.state,rfl⟩

theorem Sound.timeMove (sound : w.Sound) (step : Step w l v) : TimeMove w l v := by
  have moves {u : MuxerSession DocumentedMuxer} {e : Encoder} {p : EncoderPoint}
      (written : u.written=w.written) (old : u.oldTimeStampUs=w.oldTimeStampUs)
      (clock : u.mPresentationTimeUs=w.mPresentationTimeUs) (point : u.point=w.point)
      (away : ∀ t,p≠.writeSampleData t) : TimeMove w l (u.goTo e p) :=
    .rests written old clock fun k t at_ => point ▸ (goTo_kept away k t at_).2
  cases step with
  | start =>
    refine .starts rfl fun k t at_ => ?_
    rcases w.firstPoint_cases k with first|first <;> cases first.symm.trans at_
  | @announce e alive at_ =>
    exact .rests rfl rfl rfl fun k t now => (goTo_kept (w := w) (by simp) k t now).2
  | acquire alive at_ free =>
    refine moves rfl rfl rfl rfl fun t => ?_
    split_ifs <;> simp
  | addTrack alive at_ =>
    rw [(sound.addTrack_eq at_).2]
    exact moves rfl rfl rfl rfl (by simp)
  | startMuxer alive at_ =>
    obtain ⟨state,p,away,same⟩ := sound.startMuxer_eq at_
    rw [same]
    exact moves rfl rfl rfl rfl away
  | setStarted | release | awaitTime | leave => exact moves rfl rfl rfl rfl (by simp)
  | @outputBuffer e t alive at_ started later =>
    by_cases await : e=.video ∧ w.mIsAudioEnabled=true
    · rw [if_pos await]
      exact moves rfl rfl rfl rfl (by simp)
    · rw [if_neg await]
      exact .takes e t rfl later fun video on => absurd ⟨video,on⟩ await
  | stampTime alive at_ => exact .takes .video _ rfl (by simp) fun _ _ => rfl
  | @writeSampleData e t alive at_ =>
    rw [writeSampleData_eq sound at_]
    exact .writes e t at_ rfl rfl rfl fun k s now => goTo_kept (w := w) (by simp) k s now
  | @timestamp t alive running audio => exact .ticks t rfl rfl
  | stop =>
    obtain ⟨state,same⟩ := sound.releaseMuxer_eq
    rw [same]
    exact .rests rfl rfl rfl fun _ _ at_ => at_

theorem Timed.step (h : w.Timed) (move : TimeMove w l v) : v.Timed := by
  cases move with
  | starts none calm =>
    have empty : v.timesOf .audio=[] := by rw [timesOf,none]; rfl
    refine ⟨empty ▸ List.Pairwise.nil,fun t there => ?_,fun t at_ => absurd at_ (calm _ t)⟩
    rw [empty] at there
    cases there
  | rests written old clock kept =>
    have same : v.timesOf .audio=w.timesOf .audio := by rw [timesOf,written,timesOf]
    refine ⟨same ▸ h.audio,fun t there => ?_,fun t at_ => ?_⟩
    · rw [old]
      exact h.old t (same ▸ there)
    · rw [old]
      exact h.next t (kept .audio t at_)
  | takes e t same audio =>
    subst same
    refine ⟨h.audio,h.old,fun s at_ => ?_⟩
    by_cases own : e=.audio
    · subst own
      rw [goTo_self] at at_
      cases at_
      exact audio rfl
    · rw [goTo_other (Ne.symm own)] at at_
      exact h.next s at_
  | writes e t at_ written old clock kept =>
    have more : v.timesOf .audio=w.timesOf .audio++if e=.audio then [t] else [] := by
      rw [timesOf,written,timesIn_snoc,timesOf]
    by_cases own : e=.audio
    · subst own
      have after := h.next t at_
      rw [if_pos rfl] at more old
      refine ⟨?_,fun s there => ?_,fun s now => absurd rfl (kept .audio s now).1⟩
      · rw [more]
        refine List.pairwise_append.mpr ⟨h.audio,List.pairwise_singleton _ _,fun a there b new => ?_⟩
        have before := h.old a there
        rw [List.mem_singleton.mp new]
        omega
      · rw [more] at there
        rw [old]
        rcases List.mem_append.mp there with before|new
        · exact Int.le_trans (h.old s before) (Int.le_of_lt after)
        · exact Int.le_of_eq (List.mem_singleton.mp new)
    · rw [if_neg own] at old
      rw [if_neg own,List.append_nil] at more
      refine ⟨more ▸ h.audio,fun s there => ?_,fun s now => ?_⟩
      · rw [old]
        exact h.old s (more ▸ there)
      · rw [old]
        exact h.next s (kept .audio s now).2
  | ticks t label same =>
    subst same
    exact ⟨h.audio,h.old,h.next⟩

theorem Clocked.step (on : w.mIsAudioEnabled=true) (h : w.Clocked) (forward : w.ClockForward l)
    (move : TimeMove w l v) : v.Clocked := by
  cases move with
  | starts none calm =>
    have empty : v.timesOf .video=[] := by rw [timesOf,none]; rfl
    refine ⟨empty ▸ List.Pairwise.nil,fun t there => ?_,fun t at_ => absurd at_ (calm _ t)⟩
    rw [empty] at there
    cases there
  | rests written old clock kept =>
    have same : v.timesOf .video=w.timesOf .video := by rw [timesOf,written,timesOf]
    refine ⟨same ▸ h.video,fun t there => ?_,fun t at_ => ?_⟩
    · rw [clock]
      exact h.passed t (same ▸ there)
    · rw [clock,same]
      exact h.next t (kept .video t at_)
  | takes e t same audio video =>
    subst same
    refine ⟨h.video,h.passed,fun s at_ => ?_⟩
    by_cases own : e=.video
    · subst own
      rw [goTo_self] at at_
      cases at_
      rw [video rfl on]
      exact ⟨Int.le_refl _,h.passed⟩
    · rw [goTo_other (Ne.symm own)] at at_
      exact h.next s at_
  | writes e t at_ written old clock kept =>
    have more : v.timesOf .video=w.timesOf .video++if e=.video then [t] else [] := by
      rw [timesOf,written,timesIn_snoc,timesOf]
    by_cases own : e=.video
    · subst own
      obtain ⟨bound,last⟩ := h.next t at_
      rw [if_pos rfl] at more
      refine ⟨?_,fun s there => ?_,fun s now => absurd rfl (kept .video s now).1⟩
      · rw [more]
        refine List.pairwise_append.mpr ⟨h.video,List.pairwise_singleton _ _,fun a there b new => ?_⟩
        rw [List.mem_singleton.mp new]
        exact last a there
      · rw [more] at there
        rw [clock]
        rcases List.mem_append.mp there with before|new
        · exact h.passed s before
        · exact List.mem_singleton.mp new ▸ bound
    · rw [if_neg own,List.append_nil] at more
      refine ⟨more ▸ h.video,fun s there => ?_,fun s now => ?_⟩
      · rw [clock]
        exact h.passed s (more ▸ there)
      · rw [clock,more]
        exact h.next s (kept .video s now).2
  | ticks t label same =>
    subst same label
    have forward : w.mPresentationTimeUs ≤ t := forward
    refine ⟨h.video,fun s there => Int.le_trans (h.passed s there) forward,fun s now => ?_⟩
    obtain ⟨bound,later⟩ := h.next s now
    exact ⟨Int.le_trans bound forward,later⟩

/-- Each encoder's samples are those in its track. -/
theorem tracks_step (sound : w.Sound) (h : ∀ e,w.mMuxer.times e=w.timesOf e) (step : Step w l v)
    (e : Encoder) : v.mMuxer.times e=v.timesOf e := by
  cases step with
  | start => rfl
  | @addTrack k alive at_ =>
    obtain ⟨empty,same⟩ := sound.addTrack_eq at_
    have none : w.timesOf e=[] := by
      rw [← h e,DocumentedMuxer.times,empty]
      rfl
    rw [same]
    refine Eq.trans ?_ none.symm
    simp [goTo,DocumentedMuxer.times,empty]
  | @startMuxer k alive at_ =>
    obtain ⟨state,p,-,same⟩ := sound.startMuxer_eq at_
    rw [same]
    exact h e
  | @writeSampleData k t alive at_ =>
    rw [writeSampleData_eq sound at_]
    refine (times_write (sound.writes at_).2 e).trans ?_
    rw [h e]
    exact (timesIn_snoc w.written k e t).symm
  | stop =>
    obtain ⟨state,same⟩ := sound.releaseMuxer_eq
    rw [same]
    exact h e
  | _ => exact h e

end Times

theorem Step.enabled (step : Step w l v) : v.mIsAudioEnabled=w.mIsAudioEnabled := by
  cases step with
  | addTrack =>
    unfold MuxerSession.addTrack
    dsimp only
    split <;> rfl
  | startMuxer =>
    unfold MuxerSession.startMuxer
    split
    · split <;> rfl
    · rfl
  | writeSampleData =>
    unfold MuxerSession.writeSampleData
    split <;> rfl
  | stop =>
    unfold MuxerSession.releaseMuxer
    split <;> rfl
  | _ => rfl

/-- What every state of a run meets. -/
structure Records (w : MuxerSession DocumentedMuxer) : Prop where
  sound : w.Sound
  tracks : ∀ e,w.mMuxer.times e=w.timesOf e
  timed : w.Timed

theorem Records.step (h : w.Records) (once : w.AnnouncesOnce l) (step : Step w l v) : v.Records :=
  ⟨h.sound.step once step,tracks_step h.sound h.tracks step,h.timed.step (h.sound.timeMove step)⟩

theorem created_records (mIsAudioEnabled : Bool) : Records (created mIsAudioEnabled) :=
  ⟨created_sound _,fun _ => rfl,List.Pairwise.nil,fun _ there => absurd there List.not_mem_nil,
    fun t at_ => by cases at_⟩

end Documented

section View

/-! Any muxer is seen through what the documentation says of it. -/

variable {X : Type} [MediaMuxer X] {w v : MuxerSession X} {l : MuxerLabel}

def view (w : MuxerSession X) : MuxerSession DocumentedMuxer :=
  { w with mMuxer := MediaMuxer.shows w.mMuxer }

theorem view_created (mIsAudioEnabled : Bool) :
    (created (X := X) mIsAudioEnabled).view=created mIsAudioEnabled := by
  simp only [view,created,MediaMuxer.shows_null]
  rfl

theorem view_addTrack (w : MuxerSession X) (e : Encoder) :
    (w.addTrack e).view=w.view.addTrack e := by
  have shown := MediaMuxer.shows_addTrack w.mMuxer e
  change _=MediaMuxer.addTrack w.view.mMuxer e at shown
  unfold addTrack
  rw [← shown]
  cases MediaMuxer.addTrack w.mMuxer e <;> rfl

theorem view_startMuxer (w : MuxerSession X) (e : Encoder) :
    (w.startMuxer e).view=w.view.startMuxer e := by
  have shown := MediaMuxer.shows_start w.mMuxer
  change _=MediaMuxer.start w.view.mMuxer at shown
  unfold startMuxer
  rw [← shown,show w.view.due e=w.due e from rfl]
  split_ifs
  · cases MediaMuxer.start w.mMuxer <;> rfl
  · rfl

theorem view_writeSampleData (w : MuxerSession X) (e : Encoder) (t : Int) :
    (w.writeSampleData e t).view=w.view.writeSampleData e t := by
  have shown := MediaMuxer.shows_writeSampleData w.mMuxer (w.trackIndex e) t
  change _=MediaMuxer.writeSampleData w.view.mMuxer (w.view.trackIndex e) t at shown
  unfold writeSampleData
  rw [← shown]
  cases MediaMuxer.writeSampleData w.mMuxer (w.trackIndex e) t <;> rfl

theorem view_releaseMuxer (w : MuxerSession X) : w.releaseMuxer.view=w.view.releaseMuxer := by
  have shown := MediaMuxer.shows_stop w.mMuxer
  change _=MediaMuxer.stop w.view.mMuxer at shown
  have released (m : X) (created : Bool) :
      MediaMuxer.shows (if created then MediaMuxer.release m else m)=
        if created then MediaMuxer.release (MediaMuxer.shows m) else MediaMuxer.shows m := by
    cases created
    · rfl
    · exact MediaMuxer.shows_release m
  unfold releaseMuxer
  rw [show w.view.mMuxerStarted=w.mMuxerStarted from rfl,← shown]
  cases w.mMuxerStarted with
  | false =>
    simp only [view,released,Bool.false_eq_true,if_false]
    rfl
  | true =>
    cases MediaMuxer.stop w.mMuxer with
    | none => rfl
    | some m =>
      simp only [view,released,if_true,Option.map_some]
      rfl

theorem Step.view (step : Step w l v) : Step w.view l v.view := by
  cases step with
  | start alive stopped =>
    have created : w.start.view=w.view.start := by
      simp only [MuxerSession.view,MuxerSession.start,MediaMuxer.shows_create]
      rfl
    rw [created]
    exact .start alive stopped
  | announce alive at_ => exact .announce alive at_
  | acquire alive at_ free => exact .acquire alive at_ free
  | addTrack alive at_ =>
    rw [view_addTrack]
    exact .addTrack alive at_
  | startMuxer alive at_ =>
    rw [view_startMuxer]
    exact .startMuxer alive at_
  | setStarted alive at_ => exact .setStarted alive at_
  | release alive at_ => exact .release alive at_
  | outputBuffer alive at_ started later => exact .outputBuffer alive at_ started later
  | awaitTime alive at_ there => exact .awaitTime alive at_ there
  | stampTime alive at_ => exact .stampTime alive at_
  | writeSampleData alive at_ =>
    rw [view_writeSampleData]
    exact .writeSampleData alive at_
  | leave alive at_ => exact .leave alive at_
  | timestamp alive running audio => exact .timestamp alive running audio
  | stop alive running joined =>
    rw [view_releaseMuxer]
    exact .stop alive running joined

/-- A run with any muxer is one with the documented muxer. -/
theorem run_view {mIsAudioEnabled : Bool} {labels : List MuxerLabel}
    (hr : Run (Guarded AnnouncesOnce Step) (created mIsAudioEnabled) labels w) :
    Run (Guarded AnnouncesOnce Step) (created mIsAudioEnabled) labels w.view := by
  have seen : Run (Guarded AnnouncesOnce Step) (created (X := X) mIsAudioEnabled).view labels
      w.view :=
    hr.refines (I := fun _ => True) view (fun _ _ _ _ _ => trivial)
      (fun _ _ _ _ step => ⟨step.1,step.2.view⟩) trivial
  rwa [view_created] at seen

/-- However the two encoder threads interleave over any number of sessions: no call of the muxer
throws, a muxer that is started has the track of each encoder once, what an encoder thread has
written is in its own track in this order, and the audio times go up. -/
theorem muxer_calls_legal {mIsAudioEnabled : Bool} {labels : List MuxerLabel}
    (hr : Run (Guarded AnnouncesOnce Step) (created mIsAudioEnabled) labels w) :
    w.threw=false ∧ ((MediaMuxer.shows w.mMuxer).state=.started →
        (MediaMuxer.shows w.mMuxer).tracks.Nodup ∧ w.Full) ∧
      (∀ e,(MediaMuxer.shows w.mMuxer).times e=w.timesOf e) ∧
      ((MediaMuxer.shows w.mMuxer).times .audio).Pairwise (· < ·) := by
  have records := (run_view hr).invariant (P := Records) (fun _ _ _ h step => h.step step.1 step.2)
    (created_records _)
  refine ⟨records.sound.alive,fun started => ⟨records.sound.nodup,records.sound.full started⟩,
    records.tracks,?_⟩
  have audio : (w.view.mMuxer.times .audio).Pairwise (· < ·) := by
    rw [records.tracks]
    exact records.timed.audio
  exact audio

/-- With audio the video times never go back while the recorder's clock does not. -/
theorem video_times_follow {labels : List MuxerLabel}
    (hr : Run (Guarded (fun w l => AnnouncesOnce w l ∧ ClockForward w l) Step)
      (created true) labels w) :
    ((MediaMuxer.shows w.mMuxer).times .video).Pairwise (· ≤ ·) ∧
      ∀ t∈(MediaMuxer.shows w.mMuxer).times .video,t ≤ w.mPresentationTimeUs := by
  have seen : Run (Guarded (fun w l => AnnouncesOnce w l ∧ ClockForward w l) Step)
      (created (X := X) true).view labels w.view :=
    hr.refines (I := fun _ => True) view (fun _ _ _ _ _ => trivial)
      (fun _ _ _ _ step => ⟨step.1,step.2.view⟩) trivial
  rw [view_created] at seen
  have both : w.view.Records ∧ w.view.mIsAudioEnabled=true ∧ w.view.Clocked := by
    refine seen.invariant (P := fun w => w.Records ∧ w.mIsAudioEnabled=true ∧ w.Clocked) ?_
      ⟨created_records true,rfl,List.Pairwise.nil,fun _ there => absurd there List.not_mem_nil,
        fun t at_ => by cases at_⟩
    rintro w l v ⟨records,on,clocked⟩ ⟨⟨once,forward⟩,step⟩
    exact ⟨records.step once step,step.enabled.trans on,
      clocked.step on forward (records.sound.timeMove step)⟩
  obtain ⟨records,-,clocked⟩ := both
  have video := records.tracks .video
  change (MediaMuxer.shows w.mMuxer).times .video=_ at video
  rw [video]
  exact ⟨clocked.video,clocked.passed⟩

end View

section Recording

/-- The step that a label stands for, if it can be taken; a time is taken at writeSampleData. -/
def next (w : MuxerSession DocumentedMuxer) :
    MuxerLabel → Option (MuxerSession DocumentedMuxer)
  | .start => if w.threw=false ∧ w.recording=false then some w.start else none
  | .announce e =>
    if w.threw=false ∧ w.point e=.dequeueOutputBuffer then
      some { w.goTo e .acquire with announced := Function.update w.announced e true }
    else none
  | .acquire e =>
    if w.threw=false ∧ w.point e=.acquire ∧ w.mMuxerLock=none then
      some ({ w with mMuxerLock := some e }.goTo e (if w.mMuxerCreated then .addTrack else .release))
    else none
  | .addTrack e => if w.threw=false ∧ w.point e=.addTrack then some (w.addTrack e) else none
  | .startMuxer e => if w.threw=false ∧ w.point e=.startMuxer then some (w.startMuxer e) else none
  | .setStarted e =>
    if w.threw=false ∧ w.point e=.setStarted then
      some ({ w with mMuxerStarted := true }.goTo e .release)
    else none
  | .release e =>
    if w.threw=false ∧ w.point e=.release then
      some ({ w with mMuxerLock := none }.goTo e .dequeueOutputBuffer)
    else none
  | .outputBuffer e t =>
    if w.threw=false ∧ w.point e=.dequeueOutputBuffer ∧ w.mMuxerStarted=true ∧
        (e=.audio → w.oldTimeStampUs<t) then
      some (w.goTo e (if e=.video ∧ w.mIsAudioEnabled then .awaitTime else .writeSampleData t))
    else none
  | .awaitTime =>
    if w.threw=false ∧ w.point .video=.awaitTime ∧ w.mPresentationTimeUs≠-1 then
      some (w.goTo .video .stampTime)
    else none
  | .stampTime =>
    if w.threw=false ∧ w.point .video=.stampTime then
      some (w.goTo .video (.writeSampleData w.mPresentationTimeUs))
    else none
  | .writeSampleData e =>
    match w.threw,w.point e with
    | false,.writeSampleData t => some (w.writeSampleData e t)
    | _,_ => none
  | .leave e =>
    if w.threw=false ∧ w.point e=.dequeueOutputBuffer then some (w.goTo e .ended) else none
  | .timestamp t =>
    if w.threw=false ∧ w.recording=true ∧ w.mIsAudioEnabled=true then
      some { w with mPresentationTimeUs := t }
    else none
  | .stop =>
    if w.threw=false ∧ w.recording=true ∧ (w.point .video).resting=true ∧
        (w.point .audio).resting=true then
      some w.releaseMuxer
    else none

theorem Step.of_next (w : MuxerSession DocumentedMuxer) (l : MuxerLabel)
    (v : MuxerSession DocumentedMuxer) (h : w.next l=some v) : Step w l v := by
  cases l with
  | writeSampleData e =>
    simp only [next] at h
    split at h
    next t alive at_ =>
      cases h
      exact .writeSampleData alive at_
    · cases h
  | stop =>
    obtain ⟨can,same⟩ := Option.ite_none_right_eq_some.mp h
    cases same
    exact .stop can.1 can.2.1 fun e => by
      cases e
      · exact can.2.2.1
      · exact can.2.2.2
  | _ =>
    obtain ⟨can,same⟩ := Option.ite_none_right_eq_some.mp h
    cases same
    constructor
    all_goals tauto

instance (w : MuxerSession DocumentedMuxer) (l : MuxerLabel) : Decidable (w.AnnouncesOnce l) :=
  match l with
  | .announce e => inferInstanceAs (Decidable (w.announced e=false))
  | .start | .acquire _ | .addTrack _ | .startMuxer _ | .setStarted _ | .release _
  | .outputBuffer _ _ | .awaitTime | .stampTime | .writeSampleData _ | .leave _ | .timestamp _
  | .stop => isTrue trivial

instance (w : MuxerSession DocumentedMuxer) (l : MuxerLabel) : Decidable (w.ClockForward l) :=
  match l with
  | .timestamp t => inferInstanceAs (Decidable (w.mPresentationTimeUs ≤ t))
  | .start | .announce _ | .acquire _ | .addTrack _ | .startMuxer _ | .setStarted _ | .release _
  | .outputBuffer _ _ | .awaitTime | .stampTime | .writeSampleData _ | .leave _ | .stop =>
    isTrue trivial

/-- The encoders announce their formats one after the other, and each writes a sample. -/
def recordedLabels : List MuxerLabel :=
  [.start,.timestamp 5,.announce .video,.announce .audio,.acquire .video,.addTrack .video,
    .startMuxer .video,.release .video,.acquire .audio,.addTrack .audio,.startMuxer .audio,
    .setStarted .audio,.release .audio,.outputBuffer .audio 4,.writeSampleData .audio,
    .outputBuffer .video 0,.awaitTime,.stampTime,.writeSampleData .video]

theorem recorded : ∃ w,Run (Guarded (fun w l => AnnouncesOnce w l ∧ ClockForward w l) Step)
    (created (X := DocumentedMuxer) true) recordedLabels w ∧ w.mMuxer.samples=[(1,4),(0,5)] := by
  obtain ⟨w,run,samples⟩ := Run.of_exec_guarded
    (G := fun w l => AnnouncesOnce w l ∧ ClockForward w l)
    (p := fun w : MuxerSession DocumentedMuxer => decide (w.mMuxer.samples=[(1,4),(0,5)]))
    (created true) recordedLabels Step.of_next (by decide)
  exact ⟨w,run,of_decide_eq_true samples⟩

theorem muxer_calls_legal_recorded : ∃ w : MuxerSession DocumentedMuxer,
    w.mMuxer.samples=[(1,4),(0,5)] ∧ w.threw=false ∧ ∀ e,w.mMuxer.times e=w.timesOf e := by
  obtain ⟨w,run,samples⟩ := recorded
  have legal := muxer_calls_legal (run.guard_mono fun _ _ h => h.1)
  exact ⟨w,samples,legal.1,legal.2.2.1⟩

theorem video_times_follow_recorded : ∃ w : MuxerSession DocumentedMuxer,
    w.mMuxer.samples=[(1,4),(0,5)] ∧ ∀ t∈w.mMuxer.times .video,t ≤ w.mPresentationTimeUs := by
  obtain ⟨w,run,samples⟩ := recorded
  exact ⟨w,samples,(video_times_follow run).2⟩

end Recording

end MuxerSession

end IotMedia.Qmedia

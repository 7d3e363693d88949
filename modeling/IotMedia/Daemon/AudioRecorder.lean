import IotMedia.Framework.Ledger
import IotMedia.Framework.MachineInt
import IotMedia.Framework.Run

namespace IotMedia.Daemon

open IotMedia.Framework

inductive AudioFormat
  | AUDIO_FORMAT_S8
  | AUDIO_FORMAT_S16_LE
  | AUDIO_FORMAT_S24_LE
  | AUDIO_FORMAT_S24_3LE
  | AUDIO_FORMAT_S32_LE
  | AUDIO_FORMAT_MAX
  deriving DecidableEq

inductive PcmFormat
  | PCM_FORMAT_INVALID
  | PCM_FORMAT_S8
  | PCM_FORMAT_S16_LE
  | PCM_FORMAT_S24_LE
  | PCM_FORMAT_S24_3LE
  | PCM_FORMAT_S32_LE
  deriving DecidableEq

def AudioRecorderToPcmFormat : AudioFormat → PcmFormat
  | .AUDIO_FORMAT_S8 => .PCM_FORMAT_S8
  | .AUDIO_FORMAT_S16_LE => .PCM_FORMAT_S16_LE
  | .AUDIO_FORMAT_S24_LE => .PCM_FORMAT_S24_LE
  | .AUDIO_FORMAT_S24_3LE => .PCM_FORMAT_S24_3LE
  | .AUDIO_FORMAT_S32_LE => .PCM_FORMAT_S32_LE
  | .AUDIO_FORMAT_MAX => .PCM_FORMAT_INVALID

def ENODEV : Int := 19
def EINVAL : Int := 22
def ENOMEM : Int := 12

section DeviceName

/-- The conversion %u of sscanf with what it leaves. -/
def scanUnsigned (s : List Char) : Option (Int × List Char) :=
  let s := s.dropWhile fun c => c∈[' ','\t','\n','\r','\x0b','\x0c']
  let signed : Bool × List Char :=
    match s with
    | '-'::rest => (true,rest)
    | '+'::rest => (false,rest)
    | _ => (false,s)
  let digits := signed.2.takeWhile Char.isDigit
  let value : Int := digits.foldl (fun n c => n*10+(c.toNat - '0'.toNat : Nat)) 0
  if digits=[] then none
  else some (IntType.u32.cast (if signed.1 then -value else value),signed.2.drop digits.length)

/-- Card and device of a name such as "hw:0,1". -/
def deviceNumbers (mAudioDev : List Char) : Option (Int × Int) :=
  match mAudioDev with
  | 'h' :: 'w' :: ':' :: numbers =>
    if mAudioDev.length<4 then none
    else match scanUnsigned numbers with
      | some (pcm_card,','::rest) => (scanUnsigned rest).map fun dev => (pcm_card,dev.1)
      | _ => none
  | _ => none

example : deviceNumbers "hw:0, 1".toList=some (0,1) := by decide

example : deviceNumbers "hw:0".toList=none := by decide

end DeviceName

/-- What the mixer's controls are set to. -/
inductive ControlSetting
  | enum (name value : String)
  | value (name : String) (id : Nat) (value : Int)
  deriving DecidableEq

section Mixer

variable (answer : ControlSetting → Option Int)

/-- The controls one after the other until one is missing or cannot be set. -/
def setControls : List ControlSetting → Int
  | [] => 0
  | c::cs =>
    match answer c with
    | none => -ENODEV
    | some ret => if ret≠0 then ret else setControls cs

def SetMixerConfiguration : Int :=
  setControls answer [.enum "TX_CDC_DMA_TX_3 Channels" "One",.value "TX_AIF1_CAP Mixer DEC2" 0 1,
    .enum "TX DMIC MUX2" "DMIC0",.value "TX_DEC2 Volume" 0 112,
    .value "MultiMedia1 Mixer TX_CDC_DMA_TX_3" 0 1]

end Mixer

/-- A mixer or pcm handle, numbered in the order of opening. -/
inductive AudioHandle
  | mixer (number : Nat)
  | pcm (number : Nat)
  deriving DecidableEq

namespace AudioHandle

@[simp] def number : AudioHandle → Nat
  | .mixer n | .pcm n => n

end AudioHandle

inductive AudioEvent
  | mixerOpen (pcm_card : Int) (number : Nat)
  | mixerClose (number : Nat)
  | pcmOpen (pcm_card pcm_dev : Int) (number : Nat)
  | pcmClose (number : Nat)
  /-- The destructor of AudioStream, and whether the recorder thread is running then. -/
  | deleteStream (running : Bool)
  deriving DecidableEq

namespace AudioEvent

@[simp] def opens : AudioEvent → Option AudioHandle
  | .mixerOpen _ n => some (.mixer n)
  | .pcmOpen _ _ n => some (.pcm n)
  | .mixerClose _ | .pcmClose _ | .deleteStream _ => none

@[simp] def closes : AudioEvent → Option AudioHandle
  | .mixerClose n => some (.mixer n)
  | .pcmClose n => some (.pcm n)
  | .mixerOpen _ _ | .pcmOpen _ _ _ | .deleteStream _ => none

end AudioEvent

/-- AudioThreadHandler: at its test, in GetBuffer, in pcm_read, or over. -/
inductive AudioThreadPoint
  | testRecording
  | getBuffer
  | pcmRead
  | ended
  deriving DecidableEq

/-- The members of AudioRecorder, how many handles have been opened, whether Stop waits at its join,
whether the last call was a Stop that has returned, and what has happened. -/
structure AudioRecorder where
  mAudioDev : List Char
  format : AudioFormat
  mCallback : Bool
  mPcm : Option Nat := none
  mMixer : Option Nat := none
  mThread : Option AudioThreadPoint := none
  mRecording : Bool := false
  mBufSize : Nat := 0
  mAudioStream : Bool := false
  mErrorCode : Int := 0
  opened : Nat := 0
  joining : Bool := false
  stopped : Bool := false
  log : List AudioEvent := []

/-- What Start is told. -/
structure StartOutcome where
  mixer : Bool
  controls : ControlSetting → Option Int
  pcm : Bool
  bufferSize : Nat
  init : Int

inductive RecorderStep
  | start (o : StartOutcome)
  | stop
  | join
  | testRecording
  | getBuffer (res : Int) (null : Bool)
  | pcmRead (res : Int)

namespace AudioRecorder

/-- The recorder thread is there and not over. -/
def running (r : AudioRecorder) : Bool :=
  match r.mThread with
  | some point => point≠.ended
  | none => false

def mixerOpen (r : AudioRecorder) (pcm_card : Int) (opens : Bool) : AudioRecorder :=
  if opens then { r with
    mMixer := some r.opened
    opened := r.opened+1
    log := r.log++[.mixerOpen pcm_card r.opened] }
  else { r with mMixer := none }

def pcmOpen (r : AudioRecorder) (pcm_card pcm_dev : Int) (opens : Bool) : AudioRecorder :=
  if opens then { r with
    mPcm := some r.opened
    opened := r.opened+1
    log := r.log++[.pcmOpen pcm_card pcm_dev r.opened] }
  else { r with mPcm := none }

/-- The destruction of what mAudioStream leads to. -/
def deleteStream (r : AudioRecorder) : AudioRecorder :=
  if r.mAudioStream then { r with
    mAudioStream := false
    log := r.log++[.deleteStream r.running] }
  else r

/-- The new stream replaces an old one. -/
def newStream (r : AudioRecorder) : AudioRecorder := { r.deleteStream with mAudioStream := true }

def newThread (r : AudioRecorder) : AudioRecorder :=
  if r.mThread.isNone then { r with mRecording := true,mThread := some .testRecording } else r

/-- Start from mixer_open on. -/
def openDevice (r : AudioRecorder) (pcm_card pcm_dev : Int) (o : StartOutcome) :
    Int × AudioRecorder :=
  let r := r.mixerOpen pcm_card o.mixer
  if r.mMixer.isNone then (-ENODEV,r)
  else if SetMixerConfiguration o.controls≠0 then (-EINVAL,r)
  else
    let r := r.pcmOpen pcm_card pcm_dev o.pcm
    if r.mPcm.isNone then (-ENODEV,r)
    else
      let r := { r with mBufSize := o.bufferSize }
      if r.mBufSize=0 then (-EINVAL,r)
      else
        let r := r.newStream
        if o.init≠0 then (o.init,r) else (0,r.newThread)

def Start (r : AudioRecorder) (o : StartOutcome) : Int × AudioRecorder :=
  let r := { r with mErrorCode := 0 }
  if r.mCallback=false then (-EINVAL,r)
  else if AudioRecorderToPcmFormat r.format=.PCM_FORMAT_INVALID then (-EINVAL,r)
  else match deviceNumbers r.mAudioDev with
    | none => (-EINVAL,r)
    | some (pcm_card,pcm_dev) => r.openDevice pcm_card pcm_dev o

def mixerClose (r : AudioRecorder) : AudioRecorder :=
  match r.mMixer with
  | some n => { r with mMixer := none,log := r.log++[.mixerClose n] }
  | none => r

def pcmClose (r : AudioRecorder) : AudioRecorder :=
  match r.mPcm with
  | some n => { r with mPcm := none,log := r.log++[.pcmClose n] }
  | none => r

/-- Stop once the thread is joined; what MixerRelease brings is only logged. -/
def release (r : AudioRecorder) : Int × AudioRecorder :=
  let r := ({ r with mThread := none }).mixerClose.pcmClose.deleteStream
  (r.mErrorCode,r)

/-- The thread's next point, and its error where it leaves the loop with one. -/
def threadAt (r : AudioRecorder) (point : AudioThreadPoint) : AudioRecorder :=
  { r with mThread := some point }

def threadFails (r : AudioRecorder) (res : Int) : AudioRecorder :=
  { r with mThread := some .ended,mErrorCode := res }

/-- Start and Stop hold mMutex; while Stop waits in join only the thread goes on. -/
def perform (r : AudioRecorder) : RecorderStep → Option AudioRecorder
  | .start o => if r.joining then none else some { (r.Start o).2 with stopped := false }
  | .stop =>
    if r.joining then none
    else some { r with mRecording := false,joining := true,stopped := false }
  | .join =>
    if r.joining ∧ r.running=false then some { r.release.2 with joining := false,stopped := true }
    else none
  | .testRecording =>
    if r.mThread=some .testRecording then
      some (r.threadAt (if r.mRecording then .getBuffer else .ended))
    else none
  | .getBuffer res null =>
    if r.mThread=some .getBuffer then
      some (if res≠0 then r.threadFails res
        else if null then r.threadFails (-ENOMEM)
        else r.threadAt .pcmRead)
    else none
  | .pcmRead res =>
    if r.mThread=some .pcmRead then
      some (if res=0 then r.threadAt .testRecording else r.threadFails res)
    else none

def Step (r : AudioRecorder) (step : RecorderStep) (r' : AudioRecorder) : Prop :=
  r.perform step=some r'

def construct (mAudioDev : List Char) (format : AudioFormat) (mCallback : Bool) : AudioRecorder :=
  { mAudioDev := mAudioDev,format := format,mCallback := mCallback }

/-- The checks that Start makes before it opens anything. -/
def accepts (r : AudioRecorder) : Bool :=
  r.mCallback && (AudioRecorderToPcmFormat r.format≠.PCM_FORMAT_INVALID) &&
    (deviceNumbers r.mAudioDev).isSome

/-- A Start that gets to mixer_open finds no mixer that is still open. -/
def Clean (r : AudioRecorder) : RecorderStep → Prop
  | .start _ => r.accepts=true → r.mMixer=none
  | _ => True

/-- After a Stop each handle is closed once, and no stream is destroyed under the thread. -/
structure Kept (r : AudioRecorder) : Prop where
  closed : r.stopped=true → Balanced AudioEvent.opens AudioEvent.closes r.log
  streams : .deleteStream true∉r.log

variable {r r' : AudioRecorder} {step : RecorderStep} {h : AudioHandle}

/-- The handles that the members lead to. -/
def held (r : AudioRecorder) : Set AudioHandle :=
  fun h => match h with
    | .mixer n => r.mMixer=some n
    | .pcm n => r.mPcm=some n

@[simp] theorem mixer_mem_held {n : Nat} : .mixer n∈r.held ↔ r.mMixer=some n := Iff.rfl

@[simp] theorem pcm_mem_held {n : Nat} : .pcm n∈r.held ↔ r.mPcm=some n := Iff.rfl

theorem held_eq (mixer : r'.mMixer=r.mMixer) (pcm : r'.mPcm=r.mPcm) : r'.held=r.held := by
  ext h
  cases h with
  | mixer n => rw [mixer_mem_held,mixer_mem_held,mixer]
  | pcm n => rw [pcm_mem_held,pcm_mem_held,pcm]

section Extends

/-! What every piece of the code does to the handles, whatever it finds. -/

/-- Handles are numbered on as they are opened, and only what a member led to is closed. -/
structure Extends (r r' : AudioRecorder) : Prop where
  log : ∃ es,r'.log=r.log++es ∧ (∀ h∈es.filterMap AudioEvent.opens,r.opened ≤ h.number) ∧
    ∀ h∈es.filterMap AudioEvent.closes,h∈r.held ∨ r.opened ≤ h.number
  held : ∀ h∈r'.held,h∈r.held ∨ r.opened ≤ h.number
  opened : r.opened ≤ r'.opened

theorem Extends.trans {q : AudioRecorder} (first : Extends q r) (second : Extends r r') :
    Extends q r' := by
  have earlier : ∀ h,h∈r.held ∨ r.opened ≤ h.number → h∈q.held ∨ q.opened ≤ h.number := by
    rintro h (member|later)
    · exact first.held h member
    · exact .inr (first.opened.trans later)
  obtain ⟨es,logged,opens,closes⟩ := first.log
  obtain ⟨es',logged',opens',closes'⟩ := second.log
  refine ⟨⟨es++es',by rw [logged',logged,List.append_assoc],?_,?_⟩,?_,
    first.opened.trans second.opened⟩
  · intro h mem
    rw [List.filterMap_append,List.mem_append] at mem
    exact mem.elim (opens h) fun mem => first.opened.trans (opens' h mem)
  · intro h mem
    rw [List.filterMap_append,List.mem_append] at mem
    exact mem.elim (closes h) fun mem => earlier h (closes' h mem)
  · exact fun h mem => earlier h (second.held h mem)

/-- Something else is written. -/
theorem Extends.same (log : r'.log=r.log) (mixer : r'.mMixer=r.mMixer) (pcm : r'.mPcm=r.mPcm)
    (opened : r'.opened=r.opened) : Extends r r' := by
  refine ⟨⟨[],by simp [log],by simp,by simp⟩,?_,opened.ge⟩
  rw [held_eq mixer pcm]
  exact fun h mem => .inl mem

theorem mixerOpen_extends (r : AudioRecorder) (pcm_card : Int) (opens : Bool) :
    Extends r (r.mixerOpen pcm_card opens) := by
  cases opens with
  | true =>
    refine ⟨⟨[.mixerOpen pcm_card r.opened],rfl,by simp,by simp⟩,?_,Nat.le_succ _⟩
    intro h mem
    cases h with
    | mixer n =>
      have same : r.opened=n := Option.some_inj.mp mem
      exact .inr same.le
    | pcm n => exact .inl mem
  | false =>
    refine ⟨⟨[],by simp [mixerOpen],by simp,by simp⟩,?_,le_rfl⟩
    intro h mem
    cases h with
    | mixer n => simp [mixerOpen] at mem
    | pcm n => exact .inl mem

theorem pcmOpen_extends (r : AudioRecorder) (pcm_card pcm_dev : Int) (opens : Bool) :
    Extends r (r.pcmOpen pcm_card pcm_dev opens) := by
  cases opens with
  | true =>
    refine ⟨⟨[.pcmOpen pcm_card pcm_dev r.opened],rfl,by simp,by simp⟩,?_,Nat.le_succ _⟩
    intro h mem
    cases h with
    | mixer n => exact .inl mem
    | pcm n =>
      have same : r.opened=n := Option.some_inj.mp mem
      exact .inr same.le
  | false =>
    refine ⟨⟨[],by simp [pcmOpen],by simp,by simp⟩,?_,le_rfl⟩
    intro h mem
    cases h with
    | mixer n => exact .inl mem
    | pcm n => simp [pcmOpen] at mem

theorem deleteStream_extends (r : AudioRecorder) : Extends r r.deleteStream := by
  unfold deleteStream
  split
  · exact ⟨⟨[.deleteStream r.running],rfl,by simp,by simp⟩,fun h mem => .inl mem,le_rfl⟩
  · exact .same rfl rfl rfl rfl

theorem newStream_extends (r : AudioRecorder) : Extends r r.newStream :=
  (deleteStream_extends r).trans (.same rfl rfl rfl rfl)

theorem newThread_extends (r : AudioRecorder) : Extends r r.newThread := by
  unfold newThread
  split <;> exact .same rfl rfl rfl rfl

theorem mixerClose_extends (r : AudioRecorder) : Extends r r.mixerClose := by
  unfold mixerClose
  split
  next n present =>
    refine ⟨⟨[.mixerClose n],rfl,by simp,by simp [present]⟩,?_,le_rfl⟩
    intro h mem
    cases h with
    | mixer n => simp at mem
    | pcm n => exact .inl mem
  · exact .same rfl rfl rfl rfl

theorem pcmClose_extends (r : AudioRecorder) : Extends r r.pcmClose := by
  unfold pcmClose
  split
  next n present =>
    refine ⟨⟨[.pcmClose n],rfl,by simp,by simp [present]⟩,?_,le_rfl⟩
    intro h mem
    cases h with
    | mixer n => exact .inl mem
    | pcm n => simp at mem
  · exact .same rfl rfl rfl rfl

/-- Start once it has been at mixer_open. -/
theorem openDevice_rest (r : AudioRecorder) (pcm_card pcm_dev : Int) (o : StartOutcome) :
    Extends (r.mixerOpen pcm_card o.mixer) (r.openDevice pcm_card pcm_dev o).2 := by
  let m := r.mixerOpen pcm_card o.mixer
  have mixer : Extends m m := .same rfl rfl rfl rfl
  have pcm := pcmOpen_extends m pcm_card pcm_dev o.pcm
  have sized : Extends m { m.pcmOpen pcm_card pcm_dev o.pcm with mBufSize := o.bufferSize } :=
    pcm.trans (.same rfl rfl rfl rfl)
  have stream := sized.trans (newStream_extends _)
  unfold openDevice
  dsimp only
  split
  · exact mixer
  split
  · exact mixer
  split
  · exact pcm
  split
  · exact sized
  split
  · exact stream
  · exact stream.trans (newThread_extends _)

theorem openDevice_extends (r : AudioRecorder) (pcm_card pcm_dev : Int) (o : StartOutcome) :
    Extends r (r.openDevice pcm_card pcm_dev o).2 :=
  (mixerOpen_extends r pcm_card o.mixer).trans (openDevice_rest r pcm_card pcm_dev o)

theorem start_extends (r : AudioRecorder) (o : StartOutcome) : Extends r (r.Start o).2 := by
  have cleared : Extends r { r with mErrorCode := 0 } := .same rfl rfl rfl rfl
  unfold Start
  dsimp only
  split
  · exact cleared
  split
  · exact cleared
  split
  · exact cleared
  · exact cleared.trans (openDevice_extends _ _ _ o)

theorem release_extends (r : AudioRecorder) : Extends r r.release.2 := by
  have joined : Extends r { r with mThread := none } := .same rfl rfl rfl rfl
  exact ((joined.trans (mixerClose_extends _)).trans (pcmClose_extends _)).trans
    (deleteStream_extends _)

theorem step_extends (hs : Step r step r') : Extends r r' := by
  unfold Step perform at hs
  cases step with
  | start o =>
    dsimp only at hs
    split_ifs at hs
    cases hs
    exact (start_extends r o).trans (.same rfl rfl rfl rfl)
  | join =>
    dsimp only at hs
    split_ifs at hs
    cases hs
    exact (release_extends r).trans (.same rfl rfl rfl rfl)
  | stop | testRecording | getBuffer | pcmRead =>
    dsimp only at hs
    split_ifs at hs
    all_goals
      cases hs
      exact .same rfl rfl rfl rfl

/-- A handle that is open and that no member leads to. -/
structure Lost (h : AudioHandle) (r : AudioRecorder) : Prop where
  uneven : (r.log.filterMap AudioEvent.opens).count h≠(r.log.filterMap AudioEvent.closes).count h
  gone : h∉r.held
  old : h.number<r.opened

theorem Lost.extends (lost : Lost h r) (he : Extends r r') : Lost h r' := by
  obtain ⟨es,logged,opens,closes⟩ := he.log
  have new : ¬(h∈r.held ∨ r.opened ≤ h.number) := by
    rintro (member|later)
    · exact lost.gone member
    · exact absurd lost.old (not_lt.mpr later)
  have opened : (es.filterMap AudioEvent.opens).count h=0 :=
    List.count_eq_zero_of_not_mem fun mem => new (.inr (opens h mem))
  have closed : (es.filterMap AudioEvent.closes).count h=0 :=
    List.count_eq_zero_of_not_mem fun mem => new (closes h mem)
  refine ⟨?_,fun member => new (he.held h member),lost.old.trans_le he.opened⟩
  rw [logged,List.filterMap_append,List.filterMap_append,List.count_append,List.count_append,
    opened,closed]
  exact lost.uneven

end Extends

section Tracked

/-- The handles that are open are those that the members lead to. -/
structure Tracked (r : AudioRecorder) : Prop where
  ledger : Ledger AudioEvent.opens AudioEvent.closes r.log r.held
  old : ∀ h∈r.held,h.number<r.opened

theorem Tracked.same (ht : Tracked r) (log : r'.log=r.log) (mixer : r'.mMixer=r.mMixer)
    (pcm : r'.mPcm=r.mPcm) (opened : r'.opened=r.opened) : Tracked r' := by
  refine ⟨?_,?_⟩
  · rw [log,held_eq mixer pcm]
    exact ht.ledger
  · rw [held_eq mixer pcm,opened]
    exact ht.old

/-- A handle is opened into a member that leads to none. -/
theorem Tracked.opening (ht : Tracked r) {e : AudioEvent} (opens : e.opens=some h)
    (closes : e.closes=none) (fresh : h.number=r.opened) (log : r'.log=r.log++[e])
    (opened : r'.opened=r.opened+1) (held : r'.held=insert h r.held) : Tracked r' := by
  have absent : h∉r.held := fun mem => absurd (ht.old h mem) (by omega)
  refine ⟨?_,?_⟩
  · rw [log,held]
    exact ht.ledger.opening absent (by rw [List.filterMap_cons_some opens,List.filterMap_nil])
      (by rw [List.filterMap_cons_none closes,List.filterMap_nil])
  · rw [held,opened]
    intro h' mem
    rcases mem with rfl|mem
    · omega
    · have before := ht.old h' mem
      omega

theorem Tracked.closing (ht : Tracked r) {e : AudioEvent} (opens : e.opens=none)
    (closes : e.closes=some h) (present : h∈r.held) (log : r'.log=r.log++[e])
    (opened : r'.opened=r.opened) (held : r'.held=r.held \ {k | k∈[h]}) : Tracked r' := by
  refine ⟨?_,?_⟩
  · rw [log,held]
    exact ht.ledger.closing (by simpa using present) (List.nodup_singleton h)
      (by rw [List.filterMap_cons_none opens,List.filterMap_nil])
      (by rw [List.filterMap_cons_some closes,List.filterMap_nil])
  · rw [held,opened]
    exact fun h' mem => ht.old h' mem.1

theorem mixerOpen_tracked (ht : Tracked r) (none : r.mMixer=none) (pcm_card : Int) (opens : Bool) :
    Tracked (r.mixerOpen pcm_card opens) := by
  cases opens with
  | true =>
    refine ht.opening (h := .mixer r.opened) rfl rfl rfl rfl rfl ?_
    ext h
    cases h with
    | mixer n =>
      simp only [Set.mem_insert_iff,mixer_mem_held,none,reduceCtorEq,or_false,
        AudioHandle.mixer.injEq]
      simp [mixerOpen,eq_comm]
    | pcm n => simp [mixerOpen]
  | false => exact ht.same rfl (by simp [mixerOpen,none]) rfl rfl

theorem pcmOpen_tracked (ht : Tracked r) (none : r.mPcm=none) (pcm_card pcm_dev : Int)
    (opens : Bool) : Tracked (r.pcmOpen pcm_card pcm_dev opens) := by
  cases opens with
  | true =>
    refine ht.opening (h := .pcm r.opened) rfl rfl rfl rfl rfl ?_
    ext h
    cases h with
    | mixer n => simp [pcmOpen]
    | pcm n =>
      simp only [Set.mem_insert_iff,pcm_mem_held,none,reduceCtorEq,or_false,AudioHandle.pcm.injEq]
      simp [pcmOpen,eq_comm]
  | false => exact ht.same rfl rfl (by simp [pcmOpen,none]) rfl

theorem mixerClose_tracked (ht : Tracked r) : Tracked r.mixerClose := by
  unfold mixerClose
  split
  next n present =>
    refine ht.closing (h := .mixer n) rfl rfl present rfl rfl ?_
    ext h
    cases h with
    | mixer m =>
      simp only [Set.mem_sdiff,mixer_mem_held,present,Option.some_inj]
      simp [eq_comm]
    | pcm m => simp
  · exact ht

theorem pcmClose_tracked (ht : Tracked r) : Tracked r.pcmClose := by
  unfold pcmClose
  split
  next n present =>
    refine ht.closing (h := .pcm n) rfl rfl present rfl rfl ?_
    ext h
    cases h with
    | mixer m => simp
    | pcm m =>
      simp only [Set.mem_sdiff,pcm_mem_held,present,Option.some_inj]
      simp [eq_comm]
  · exact ht

theorem deleteStream_tracked (ht : Tracked r) : Tracked r.deleteStream := by
  unfold deleteStream
  split
  · refine ⟨?_,ht.old⟩
    exact ht.ledger.rest (by simp) (by simp)
  · exact ht

end Tracked

section Served

/-- Where no mixer is open nothing is, and no stream has been destroyed under the thread. -/
structure Served (r : AudioRecorder) : Prop where
  tracked : Tracked r
  empty : r.mMixer=none → r.mPcm=none ∧ r.mAudioStream=false ∧ r.mThread=none
  streams : .deleteStream true∉r.log

theorem Served.of_mixer {n : Nat} (ht : Tracked r) (present : r.mMixer=some n)
    (streams : .deleteStream true∉r.log) : Served r := by
  refine ⟨ht,?_,streams⟩
  intro none
  rw [present] at none
  cases none

theorem deleteStream_none (none : r.mAudioStream=false) : r.deleteStream=r := by
  simp [deleteStream,none]

/-- A stream where there is none replaces nothing. -/
theorem newStream_served {n : Nat} (ht : Tracked r) (present : r.mMixer=some n)
    (none : r.mAudioStream=false) (streams : .deleteStream true∉r.log) :
    Served r.newStream ∧ r.newStream.mMixer=some n := by
  rw [newStream,deleteStream_none none]
  exact ⟨.of_mixer (ht.same rfl rfl rfl rfl) present streams,present⟩

theorem newThread_served {n : Nat} (hs : Served r) (present : r.mMixer=some n) :
    Served r.newThread := by
  unfold newThread
  split
  · exact .of_mixer (hs.tracked.same rfl rfl rfl rfl) present hs.streams
  · exact hs

theorem pcmOpen_streams (streams : .deleteStream true∉r.log) (pcm_card pcm_dev : Int)
    (opens : Bool) : .deleteStream true∉(r.pcmOpen pcm_card pcm_dev opens).log := by
  cases opens with
  | true => simpa [pcmOpen] using streams
  | false => exact streams

theorem pcmOpen_rest (r : AudioRecorder) (pcm_card pcm_dev : Int) (opens : Bool) :
    (r.pcmOpen pcm_card pcm_dev opens).mMixer=r.mMixer ∧
      (r.pcmOpen pcm_card pcm_dev opens).mAudioStream=r.mAudioStream := by
  cases opens <;> exact ⟨rfl,rfl⟩

theorem openDevice_served (hs : Served r) (none : r.mMixer=none) (pcm_card pcm_dev : Int)
    (o : StartOutcome) : Served (r.openDevice pcm_card pcm_dev o).2 := by
  obtain ⟨no_pcm,no_stream,no_thread⟩ := hs.empty none
  have mixer := mixerOpen_tracked hs.tracked none pcm_card o.mixer
  unfold openDevice
  cases opened : o.mixer with
  | false =>
    rw [opened] at mixer
    exact ⟨mixer,fun _ => ⟨no_pcm,no_stream,no_thread⟩,hs.streams⟩
  | true =>
    rw [opened] at mixer
    have safe : .deleteStream true∉(r.mixerOpen pcm_card true).log := by
      simpa [mixerOpen] using hs.streams
    have pcm := pcmOpen_tracked mixer no_pcm pcm_card pcm_dev o.pcm
    have safe' := pcmOpen_streams safe pcm_card pcm_dev o.pcm
    obtain ⟨present,stream⟩ := pcmOpen_rest (r.mixerOpen pcm_card true) pcm_card pcm_dev o.pcm
    have present : _=some r.opened := present
    have stream : _=false := stream.trans no_stream
    have sized : ∀ n,Tracked { (r.mixerOpen pcm_card true).pcmOpen pcm_card pcm_dev o.pcm with
        mBufSize := n } := fun n => pcm.same rfl rfl rfl rfl
    dsimp only
    split
    · exact .of_mixer mixer rfl safe
    split
    · exact .of_mixer mixer rfl safe
    split
    · exact .of_mixer pcm present safe'
    split
    · exact .of_mixer (sized _) present safe'
    have served := newStream_served (sized o.bufferSize) present stream safe'
    split
    · exact served.1
    · exact newThread_served served.1 served.2

theorem accepts_eq_true : r.accepts=true ↔ r.mCallback=true ∧
    AudioRecorderToPcmFormat r.format≠.PCM_FORMAT_INVALID ∧
      (deviceNumbers r.mAudioDev).isSome=true := by
  simp [accepts,and_assoc]

/-- Start either changes nothing but the error code or opens the device. -/
theorem start_cases (r : AudioRecorder) (o : StartOutcome) :
    r.accepts=false ∧ (r.Start o).2={ r with mErrorCode := 0 } ∨
    r.accepts=true ∧ ∃ pcm_card pcm_dev,
      r.Start o=({ r with mErrorCode := 0 } : AudioRecorder).openDevice pcm_card pcm_dev o := by
  unfold Start
  dsimp only
  split
  next missing => exact .inl ⟨by simp [accepts,missing],rfl⟩
  next callback =>
    split
    next invalid => exact .inl ⟨by simp [accepts,invalid],rfl⟩
    next format =>
      split
      next name => exact .inl ⟨by simp [accepts,name],rfl⟩
      next pcm_card pcm_dev name =>
        refine .inr ⟨accepts_eq_true.mpr ⟨by simpa using callback,format,?_⟩,pcm_card,pcm_dev,rfl⟩
        rw [name]
        rfl

theorem Served.same (hs : Served r) (log : r'.log=r.log) (mixer : r'.mMixer=r.mMixer)
    (pcm : r'.mPcm=r.mPcm) (opened : r'.opened=r.opened) (stream : r'.mAudioStream=r.mAudioStream)
    (thread : r.mThread=none → r'.mThread=none) : Served r' := by
  refine ⟨hs.tracked.same log mixer pcm opened,?_,by rw [log]; exact hs.streams⟩
  intro none
  rw [mixer] at none
  obtain ⟨no_pcm,no_stream,no_thread⟩ := hs.empty none
  exact ⟨pcm.trans no_pcm,stream.trans no_stream,thread no_thread⟩

theorem start_served (hs : Served r) (clean : r.accepts=true → r.mMixer=none) (o : StartOutcome) :
    Served (r.Start o).2 := by
  have cleared : Served { r with mErrorCode := 0 } := hs.same rfl rfl rfl rfl rfl id
  obtain ⟨-,same⟩|⟨accepted,pcm_card,pcm_dev,same⟩ := start_cases r o
  · rw [same]
    exact cleared
  · rw [same]
    exact openDevice_served cleared (clean accepted) pcm_card pcm_dev o

/-- The thread is over, so that nothing runs when the stream is destroyed. -/
theorem release_served (hs : Served r) : Served r.release.2 ∧ r.release.2.mMixer=none := by
  have joined : Tracked { r with mThread := none } := hs.tracked.same rfl rfl rfl rfl
  have closed := deleteStream_tracked (pcmClose_tracked (mixerClose_tracked joined))
  have members : r.release.2.mMixer=none ∧ r.release.2.mPcm=none ∧
      r.release.2.mAudioStream=false ∧ r.release.2.mThread=none := by
    cases hm : r.mMixer <;> cases hp : r.mPcm <;> cases hst : r.mAudioStream <;>
      simp [release,mixerClose,pcmClose,deleteStream,hm,hp,hst]
  refine ⟨⟨closed,fun _ => members.2,?_⟩,members.1⟩
  have safe := hs.streams
  cases hm : r.mMixer <;> cases hp : r.mPcm <;> cases hst : r.mAudioStream <;>
    simp [release,mixerClose,pcmClose,deleteStream,hm,hp,hst,running,safe]

/-- The invariant of a run whose Starts are all clean. -/
def Inv (r : AudioRecorder) : Prop := Served r ∧ (r.stopped=true → r.mMixer=none)

theorem step_inv (hi : Inv r) (clean : Clean r step) (hs : Step r step r') : Inv r' := by
  obtain ⟨served,after⟩ := hi
  unfold Step perform at hs
  cases step with
  | start o =>
    dsimp only at hs
    split_ifs at hs
    cases hs
    exact ⟨(start_served served clean o).same rfl rfl rfl rfl rfl id,fun h => by cases h⟩
  | join =>
    dsimp only at hs
    split_ifs at hs
    cases hs
    obtain ⟨released,none⟩ := release_served served
    exact ⟨released.same rfl rfl rfl rfl rfl id,fun _ => none⟩
  | stop =>
    dsimp only at hs
    split_ifs at hs
    cases hs
    exact ⟨served.same rfl rfl rfl rfl rfl id,fun h => by cases h⟩
  | testRecording | getBuffer | pcmRead =>
    dsimp only at hs
    split_ifs at hs with at_
    all_goals
      cases hs
      exact ⟨served.same rfl rfl rfl rfl rfl fun none => by simp [at_] at none,after⟩

theorem Inv.kept (hi : Inv r) : Kept r := by
  refine ⟨?_,hi.1.streams⟩
  intro stopped
  have none := hi.2 stopped
  have no_pcm := (hi.1.empty none).1
  apply hi.1.tracked.ledger.balanced_iff.mpr
  ext h
  cases h with
  | mixer n => simp [none]
  | pcm n => simp [no_pcm]

/-- The member that led to a mixer leads to another one, or to none. -/
theorem mixerOpen_lost (ht : Tracked r) {n : Nat} (present : r.mMixer=some n) (pcm_card : Int)
    (opens : Bool) : Lost (.mixer n) (r.mixerOpen pcm_card opens) := by
  have old : n<r.opened := ht.old (.mixer n) present
  have open_ := ht.ledger.held (.mixer n) present
  cases opens with
  | true =>
    refine ⟨?_,?_,old.trans (Nat.lt_succ_self _)⟩
    · have other : AudioHandle.mixer r.opened≠.mixer n := by
        intro same
        cases same
        exact absurd old (lt_irrefl _)
      have closes : [AudioEvent.mixerOpen pcm_card r.opened].filterMap AudioEvent.closes=[] := rfl
      simp only [mixerOpen,if_true,List.filterMap_append,List.count_append]
      simp [other,open_,closes]
    · intro mem
      have same : r.opened=n := Option.some_inj.mp mem
      omega
  | false =>
    refine ⟨?_,fun mem => by simp [mixerOpen] at mem,old⟩
    have same : (r.mixerOpen pcm_card false).log=r.log := rfl
    rw [same]
    omega

theorem unclean_lost (hi : Inv r) (unclean : ¬Clean r step) (hs : Step r step r') :
    ∃ h,Lost h r' := by
  cases step with
  | start o =>
    obtain ⟨accepted,present⟩ : r.accepts=true ∧ r.mMixer≠none := by
      simpa [Clean] using unclean
    obtain ⟨n,present⟩ := Option.ne_none_iff_exists'.mp present
    have cleared : Tracked { r with mErrorCode := 0 } := hi.1.tracked.same rfl rfl rfl rfl
    unfold Step perform at hs
    dsimp only at hs
    split_ifs at hs
    cases hs
    obtain ⟨refused,-⟩|⟨-,pcm_card,pcm_dev,same⟩ := start_cases r o
    · rw [refused] at accepted
      cases accepted
    · have lost := (mixerOpen_lost cleared present pcm_card o.mixer).extends
        (openDevice_rest _ pcm_card pcm_dev o)
      rw [same]
      exact ⟨_,lost.extends (.same rfl rfl rfl rfl)⟩
  | _ => exact absurd trivial unclean

/-- A handle that is lost is not closed by any Stop. -/
theorem Lost.not_kept (lost : Lost h r) (stopped : r.stopped=true) : ¬Kept r :=
  fun kept => lost.uneven ((kept.closed stopped).closed h)

end Served

section Runs

variable {name : List Char} {format : AudioFormat} {callback : Bool} {steps : List RecorderStep}

theorem construct_recorder_inv : Inv (construct name format callback) := by
  refine ⟨⟨⟨?_,?_⟩,fun _ => ⟨rfl,rfl,rfl⟩,by simp [construct]⟩,fun _ => rfl⟩
  · have nothing : (construct name format callback).held=∅ := by
      ext h
      cases h <;> simp [construct]
    rw [nothing]
    exact Ledger.nil
  · intro h mem
    cases h <;> simp [construct] at mem

theorem guarded_inv (hr : Run (Guarded Clean Step) (construct name format callback) steps r) :
    Inv r :=
  hr.invariant (fun _ _ _ hi h => step_inv hi h.1 h.2) construct_recorder_inv

/-- A run is one of clean Starts, or a handle is lost. -/
theorem clean_or_lost (hr : Run Step (construct name format callback) steps r) :
    Run (Guarded Clean Step) (construct name format callback) steps r ∨ ∃ h,Lost h r := by
  induction hr with
  | nil => exact .inl .nil
  | @snoc _ q r step _ hs ih =>
    obtain guarded|⟨h,lost⟩ := ih
    · by_cases clean : Clean q step
      · exact .inl (.snoc guarded ⟨clean,hs⟩)
      · exact .inr (unclean_lost (guarded_inv guarded) clean hs)
    · exact .inr ⟨h,lost.extends (step_extends hs)⟩

/-- Runs of clean Starts keep both parts in every state, and a run that Stop ends does so only if
its Starts are clean. -/
theorem handles_closed (hr : Run Step (construct name format callback) steps r) :
    (Run (Guarded Clean Step) (construct name format callback) steps r → Kept r) ∧
    (r.stopped=true → Kept r →
      Run (Guarded Clean Step) (construct name format callback) steps r) := by
  refine ⟨fun guarded => (guarded_inv guarded).kept,?_⟩
  intro stopped kept
  obtain guarded|⟨h,lost⟩ := clean_or_lost hr
  · exact guarded
  · exact absurd kept (lost.not_kept stopped)

/-- Nothing fails. -/
def smoothStart : StartOutcome := ⟨true,fun _ => some 0,true,4096,0⟩

def recorded : List RecorderStep :=
  [.start smoothStart,.testRecording,.getBuffer 0 false,.stop,.pcmRead 0,.testRecording,.join]

instance (r : AudioRecorder) (step : RecorderStep) : Decidable (Clean r step) := by
  cases step <;> unfold Clean <;> infer_instance

theorem handles_closed_recorded : ∃ r,
    Run Step (construct "hw:0,1".toList .AUDIO_FORMAT_S16_LE true) recorded r ∧
    r.log=[.mixerOpen 0 0,.pcmOpen 0 1 1,.mixerClose 0,.pcmClose 1,.deleteStream false] ∧
    Kept r := by
  obtain ⟨r,guarded,logged⟩ := Run.of_exec_guarded (f := perform) (G := Clean)
    (p := fun r => r.log=[.mixerOpen 0 0,.pcmOpen 0 1 1,.mixerClose 0,.pcmClose 1,
      .deleteStream false]) (construct "hw:0,1".toList .AUDIO_FORMAT_S16_LE true) recorded
    (fun _ _ _ performed => performed) rfl
  have run : Run Step _ recorded r := guarded.unguard
  exact ⟨r,run,by simpa using logged,(handles_closed run).1 guarded⟩

/-- Start twice. -/
theorem second_start_loses : ¬∀ name format callback steps r,
    Run Step (construct name format callback) steps r → Kept r := by
  intro all
  have run : Run Step (construct "hw:0,1".toList .AUDIO_FORMAT_S16_LE true)
      [.start smoothStart,.start smoothStart,.stop,.testRecording,.join] _ :=
    Run.of_exec (f := perform) (fun _ _ _ h => h) rfl
  have closed := ((all _ _ _ _ _ run).closed rfl).closed (.mixer 0)
  revert closed
  decide

end Runs

end AudioRecorder
end IotMedia.Daemon

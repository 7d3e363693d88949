import IotMedia.Framework.RunningFlags

namespace IotMedia.Qmedia

open IotMedia.Framework WorkerSession

/-- The threads that raise mVideoDecoderRunning, mVideoEncoderRunning, mAudioEncoderRunning and
mAudioRecorderRunning. -/
inductive CodecWorker
  | videoDecoderHandler
  | VideoEncoderThread
  | AudioEncoderThread
  | AudioRecorderThread
  deriving DecidableEq

namespace CodecWorker

/-- All loops but the audio recorder's are also left at the end of their streams. -/
def breaks : CodecWorker → Bool
  | .videoDecoderHandler | .VideoEncoderThread | .AudioEncoderThread => true
  | .AudioRecorderThread => false

/-- releaseVideoEncoder and releaseAudioEncoder, and the end of the recorder, which stops the audio
encoder. -/
def lowers : CodecWorker → List CodecWorker
  | .videoDecoderHandler => []
  | .VideoEncoderThread => [.VideoEncoderThread]
  | .AudioEncoderThread => [.AudioEncoderThread]
  | .AudioRecorderThread => [.AudioEncoderThread]

end CodecWorker

/-- start() and stop() of MediaCodecDecoder. -/
def decoderScript : WorkerScript CodecWorker where
  starts := [.videoDecoderHandler]
  stops := [.lower .videoDecoderHandler,.join [.videoDecoderHandler]]
  breaks := CodecWorker.breaks
  lowers := CodecWorker.lowers
  stops_started := by simp
  lowers_started := by decide

/-- start() and stop() of MediaCodecRecorder. -/
def recorderScript (mIsAudioEnabled : Bool) : WorkerScript CodecWorker where
  starts := .VideoEncoderThread::
    if mIsAudioEnabled then [.AudioEncoderThread,.AudioRecorderThread] else []
  stops := [.lower .VideoEncoderThread,.join [.VideoEncoderThread]]++
    if mIsAudioEnabled then
      [.lower .AudioRecorderThread,.join [.AudioEncoderThread,.AudioRecorderThread]]
    else []
  breaks := CodecWorker.breaks
  lowers := CodecWorker.lowers
  stops_started := by cases mIsAudioEnabled <;> simp
  lowers_started := by cases mIsAudioEnabled <;> decide

inductive CodecSession
  | decoder
  | recorder (mIsAudioEnabled : Bool)

namespace CodecSession

def script : CodecSession → WorkerScript CodecWorker
  | .decoder => decoderScript
  | .recorder mIsAudioEnabled => recorderScript mIsAudioEnabled

/-- A flag that is lowered in a run of the session stays low whatever follows, and its worker leaves
its loop at the next test. -/
def StopKept (session : CodecSession) : Prop :=
  ∀ running steps s,Run (Step session.script) (begin session.script running) steps s →
    ∀ i f t,Lowers s i f → Step session.script s i t → StaysLow session.script t f

section Sessions

variable (session : CodecSession) {running : CodecWorker → Bool}
  {steps : List (WorkerStep CodecWorker)} {s t : WorkerSession CodecWorker}
  {i : WorkerStep CodecWorker} {f : CodecWorker}

/-- A worker that has been started and not scheduled undoes the stop. -/
theorem not_stopKept (hr : Run (Step session.script) (begin session.script running) steps s)
    (lowers : Lowers s i f) (taken : Step session.script s i t) (started : s.point f=.started) :
    ¬session.StopKept := by
  intro kept
  exact not_staysLow lowers taken started (kept _ _ _ hr _ _ _ lowers taken)

/-- Wherever in a run a flag is lowered, by stop(), by its own worker or, for the audio encoder, by
the recorder's, it stays low and its worker leaves its loop at the next test exactly if the worker
has been scheduled and has raised it before. -/
theorem stop_kept_iff_raised
    (hr : Run (Step session.script) (begin session.script running) steps s)
    (lowers : Lowers s i f) (taken : Step session.script s i t) :
    StaysLow session.script t f ↔ Raised s f :=
  staysLow_iff (begun_of_run hr) lowers taken

end Sessions

/-- A decoder that is stopped when its thread runs. -/
theorem stop_kept_iff_raised_running : ∃ s t,
    Run (Step (script .decoder)) (begin (script .decoder) fun _ => false)
      [.start,.raise .videoDecoderHandler] s ∧
    Step (script .decoder) s .stop t ∧ StaysLow (script .decoder) t .videoDecoderHandler := by
  have run : Run (Step (script .decoder)) (begin (script .decoder) fun _ => false)
      [.start,.raise .videoDecoderHandler] ⟨_,_,_,_⟩ := Run.of_exec (fun _ _ _ h => h) rfl
  have kept := stop_kept_iff_raised .decoder (i := .stop) (f := .videoDecoderHandler) run
    ⟨rfl,_,rfl⟩ rfl
  exact ⟨_,_,run,rfl,kept.mpr (by decide)⟩

/-- A decoder and a recorder that are stopped before their threads run. -/
theorem late_worker_undoes_stop : ¬StopKept .decoder ∧
    ∀ mIsAudioEnabled,¬StopKept (.recorder mIsAudioEnabled) := by
  constructor
  · have run : Run (Step (script .decoder)) (begin (script .decoder) fun _ => false) [.start]
        ⟨_,_,_,_⟩ := Run.of_exec (fun _ _ _ h => h) rfl
    exact not_stopKept .decoder (i := .stop) (f := .videoDecoderHandler) run ⟨rfl,_,rfl⟩ rfl rfl
  · rintro (_|_)
    · have run : Run (Step (script (.recorder false)))
          (begin (script (.recorder false)) fun _ => false) [.start] ⟨_,_,_,_⟩ :=
        Run.of_exec (fun _ _ _ h => h) rfl
      exact not_stopKept (.recorder false) (i := .stop) (f := .VideoEncoderThread) run
        ⟨rfl,_,rfl⟩ rfl rfl
    · have run : Run (Step (script (.recorder true)))
          (begin (script (.recorder true)) fun _ => false) [.start,.start,.start] ⟨_,_,_,_⟩ :=
        Run.of_exec (fun _ _ _ h => h) rfl
      exact not_stopKept (.recorder true) (i := .stop) (f := .VideoEncoderThread) run
        ⟨rfl,_,rfl⟩ rfl rfl

end CodecSession

end IotMedia.Qmedia

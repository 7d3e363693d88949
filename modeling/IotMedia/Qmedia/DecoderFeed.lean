import Mathlib.Data.List.Basic
import Mathlib.Tactic.Common

namespace IotMedia.Qmedia

structure Sample where
  data : List UInt8
  time : Int
  deriving DecidableEq

/-- MediaExtractor, by the samples from the current one on. -/
class MediaExtractor (E : Type) where
  samples : E → List Sample
  /-- What the buffer has afterwards, and the size of the sample. -/
  readSampleData : E → List UInt8 → List UInt8 × Int
  advance : E → Bool × E
  getSampleTime : E → Int
  readSampleData_current {e : E} {s : Sample} {later : List Sample} (buffer : List UInt8) :
    samples e=s::later →
      readSampleData e buffer=(s.data++buffer.drop s.data.length,(s.data.length : Int))
  advance_samples (e : E) : samples (advance e).2=(samples e).tail
  advance_more (e : E) : (advance e).1=true ↔ (samples e).tail≠[]
  getSampleTime_current {e : E} {s : Sample} {later : List Sample} :
    samples e=s::later → getSampleTime e=s.time

/-- What an input buffer is queued with. -/
structure InputBuffer where
  data : List UInt8
  presentationTimeUs : Int
  flags : UInt32
  deriving DecidableEq

structure BufferInfo where
  size : Int
  presentationTimeUs : Int
  flags : UInt32
  deriving DecidableEq

namespace MediaCodec

def BUFFER_FLAG_END_OF_STREAM : UInt32 := 4

def INFO_TRY_AGAIN_LATER : Int := -1
def INFO_OUTPUT_FORMAT_CHANGED : Int := -2
def INFO_OUTPUT_BUFFERS_CHANGED : Int := -3

end MediaCodec

open MediaCodec

/-- What one pass of the loop is given: the flag, the input buffer and what is in it, the output
buffer and its info. -/
structure DecoderPass where
  mVideoDecoderRunning : Bool
  index : Int
  inputBuffer : List UInt8
  outIndex : Int
  newBufferInfo : BufferInfo
  deriving DecidableEq

/-- What the loop changes: the extractor, the input buffers queued, the output buffers released and
whether they were rendered. -/
structure DecoderFeed (E : Type) where
  mExtractor : E
  queued : List (Int × InputBuffer) := []
  released : List (Int × Bool) := []

namespace DecoderFeed

variable {E : Type} [MediaExtractor E]

open MediaExtractor

/-- The buffer's contents from an offset on. -/
def queueInputBuffer (t : DecoderFeed E) (index : Int) (contents : List UInt8) (offset size : Nat)
    (presentationTimeUs : Int) (flags : UInt32) : DecoderFeed E :=
  { t with
    queued := t.queued++[(index,⟨(contents.drop offset).take size,presentationTimeUs,flags⟩)] }

/-- The input side of a pass. -/
def feedInput (t : DecoderFeed E) (index : Int) (inputBuffer : List UInt8) : DecoderFeed E :=
  if 0 ≤ index then
    let (inputBuffer,sampleSize) := readSampleData t.mExtractor inputBuffer
    let (more,mExtractor) := advance t.mExtractor
    let t := { t with mExtractor }
    if more ∧ 0<sampleSize then
      t.queueInputBuffer index inputBuffer 0 sampleSize.toNat (getSampleTime mExtractor) 0
    else
      t.queueInputBuffer index inputBuffer 0 0 0 BUFFER_FLAG_END_OF_STREAM
  else t

/-- The output side of a pass. -/
def drainOutput (t : DecoderFeed E) (outIndex : Int) (newBufferInfo : BufferInfo) : DecoderFeed E :=
  if outIndex=INFO_OUTPUT_BUFFERS_CHANGED ∨ outIndex=INFO_OUTPUT_FORMAT_CHANGED ∨
      outIndex=INFO_TRY_AGAIN_LATER then t
  else { t with released := t.released++[(outIndex,decide (newBufferInfo.size≠0))] }

end DecoderFeed

/-- The last frame has been rendered. -/
def DecoderPass.ends (p : DecoderPass) : Bool :=
  p.newBufferInfo.flags &&& BUFFER_FLAG_END_OF_STREAM≠0

namespace VideoDecoderHandler

open DecoderFeed

variable {E : Type} [MediaExtractor E]

/-- The loop of run, for the passes that it is given. -/
def run (endOfStream : Bool) : List DecoderPass → DecoderFeed E → DecoderFeed E
  | [],t => t
  | p::passes,t =>
    if p.mVideoDecoderRunning then
      let t := (t.feedInput p.index p.inputBuffer).drainOutput p.outIndex p.newBufferInfo
      if p.ends then t
      else if endOfStream then t
      else run endOfStream passes t
    else t

end VideoDecoderHandler

/-! The passes that are made before the loop is left. -/

def DecoderPass.made (endOfStream : Bool) : List DecoderPass → List DecoderPass
  | [] => []
  | p::passes =>
    if p.mVideoDecoderRunning then
      p::if p.ends || endOfStream then [] else made endOfStream passes
    else []

/-- The input buffers that were to be had until the loop is left. -/
def DecoderPass.inputs (endOfStream : Bool) (passes : List DecoderPass) : Nat :=
  (made endOfStream passes).countP fun p => 0 ≤ p.index

/-- The clip as a decoder is fed with it. -/
def Sample.clip (samples : List Sample) : List InputBuffer :=
  samples.map (fun s => ⟨s.data,s.time,0⟩)++[⟨[],0,BUFFER_FLAG_END_OF_STREAM⟩]

def Sample.SameTime (samples : List Sample) : Prop :=
  ∀ s∈samples,∀ s'∈samples,s.time=s'.time

/-- What the loop queues for the input buffers to be had, from a sample on. -/
def Sample.fed : Nat → List Sample → List InputBuffer
  | 0,_ => []
  | k+1,s::s'::later => ⟨s.data,s'.time,0⟩::fed k (s'::later)
  | k+1,_ => ⟨[],0,BUFFER_FLAG_END_OF_STREAM⟩::fed k []

open DecoderPass (inputs) in
/-- As far as there are input buffers, the samples go to the decoder with their times, then one end
of stream. -/
def FedFaithfully {E : Type} [MediaExtractor E] (mExtractor : E) (endOfStream : Bool)
    (passes : List DecoderPass) : Prop :=
  (VideoDecoderHandler.run endOfStream passes ⟨mExtractor,[],[]⟩).queued.map Prod.snd=
    (Sample.clip (MediaExtractor.samples mExtractor)).take (inputs endOfStream passes)

namespace DecoderFeed

variable {E : Type} [MediaExtractor E] {t : DecoderFeed E} {index : Int}

open MediaExtractor

omit [MediaExtractor E] in
@[simp] theorem drainOutput_mExtractor (outIndex : Int) (newBufferInfo : BufferInfo) :
    (t.drainOutput outIndex newBufferInfo).mExtractor=t.mExtractor := by
  unfold drainOutput
  split_ifs <;> rfl

omit [MediaExtractor E] in
@[simp] theorem drainOutput_queued (outIndex : Int) (newBufferInfo : BufferInfo) :
    (t.drainOutput outIndex newBufferInfo).queued=t.queued := by
  unfold drainOutput
  split_ifs <;> rfl

theorem feedInput_none (h : ¬0 ≤ index) (inputBuffer : List UInt8) :
    t.feedInput index inputBuffer=t := if_neg h

/-- With another sample behind the current one, the current one is queued with the time of the
other. -/
theorem feedInput_more {s s' : Sample} {later : List Sample} (h : 0 ≤ index)
    (hs : samples t.mExtractor=s::s'::later) (nonempty : s.data≠[]) (inputBuffer : List UInt8) :
    t.feedInput index inputBuffer=
      { t with
        mExtractor := (advance t.mExtractor).2
        queued := t.queued++[(index,⟨s.data,s'.time,0⟩)] } := by
  have size : 0<(s.data.length : Int) := by
    have length := List.length_pos_of_ne_nil nonempty
    omega
  have more : (advance t.mExtractor).1=true := (advance_more _).mpr (by simp [hs])
  have next : samples (advance t.mExtractor).2=s'::later := by
    rw [advance_samples,hs,List.tail_cons]
  simp only [feedInput,if_pos h,readSampleData_current inputBuffer hs]
  rw [if_pos ⟨more,size⟩,getSampleTime_current next]
  simp [queueInputBuffer]

/-- At the last sample and behind it the end of the stream is queued. -/
theorem feedInput_last (h : 0 ≤ index) (hs : (samples t.mExtractor).tail=[])
    (inputBuffer : List UInt8) :
    t.feedInput index inputBuffer=
      { t with
        mExtractor := (advance t.mExtractor).2
        queued := t.queued++[(index,⟨[],0,BUFFER_FLAG_END_OF_STREAM⟩)] } := by
  have none : ¬(advance t.mExtractor).1=true := by simp [advance_more,hs]
  have refused : ¬((advance t.mExtractor).1=true ∧
      0<(readSampleData t.mExtractor inputBuffer).2) := fun both => none both.1
  simp only [feedInput,if_pos h]
  rw [if_neg refused]
  simp [queueInputBuffer]

/-- What one input buffer is queued with is the next thing that is fed. -/
theorem feedInput_fed (nonempty : ∀ s∈samples t.mExtractor,s.data≠[]) (h : 0 ≤ index)
    (inputBuffer : List UInt8) :
    samples (t.feedInput index inputBuffer).mExtractor=(samples t.mExtractor).tail ∧
      ∃ b,(t.feedInput index inputBuffer).queued=t.queued++[(index,b)] ∧
        ∀ k,Sample.fed (k+1) (samples t.mExtractor)=
          b::Sample.fed k (samples t.mExtractor).tail := by
  match hs : samples t.mExtractor with
  | [] =>
    rw [feedInput_last h (by rw [hs,List.tail_nil])]
    exact ⟨by rw [advance_samples,hs],_,rfl,fun k => rfl⟩
  | [s] =>
    rw [feedInput_last h (by rw [hs,List.tail_cons])]
    exact ⟨by rw [advance_samples,hs],_,rfl,fun k => rfl⟩
  | s::s'::later =>
    rw [feedInput_more h hs (nonempty s (by simp [hs]))]
    exact ⟨by rw [advance_samples,hs],_,rfl,fun k => rfl⟩

end DecoderFeed

namespace VideoDecoderHandler

variable {E : Type} [MediaExtractor E] {endOfStream : Bool} {t : DecoderFeed E}

open MediaExtractor DecoderFeed

/-- A pass that is made, and the rest of the run if it does not leave the loop. -/
theorem run_cons {p : DecoderPass} (h : p.mVideoDecoderRunning=true) (passes : List DecoderPass) :
    run endOfStream (p::passes) t=
      if p.ends || endOfStream then
        (t.feedInput p.index p.inputBuffer).drainOutput p.outIndex p.newBufferInfo
      else
        run endOfStream passes
          ((t.feedInput p.index p.inputBuffer).drainOutput p.outIndex p.newBufferInfo) := by
  simp only [run,if_pos h]
  cases p.ends <;> cases endOfStream <;> rfl

theorem inputs_cons {p : DecoderPass} (h : p.mVideoDecoderRunning=true)
    (passes : List DecoderPass) :
    DecoderPass.inputs endOfStream (p::passes)=
      (if p.ends || endOfStream then 0 else DecoderPass.inputs endOfStream passes)+
        (if 0 ≤ p.index then 1 else 0) := by
  unfold DecoderPass.inputs
  rw [DecoderPass.made,if_pos h,List.countP_cons]
  cases p.ends <;> cases endOfStream <;> simp

/-- One pass, and what is fed after it. -/
theorem pass_queued (nonempty : ∀ s∈samples t.mExtractor,s.data≠[]) (p : DecoderPass) (k : Nat) :
    (t.feedInput p.index p.inputBuffer).queued.map Prod.snd++
        Sample.fed k (samples (t.feedInput p.index p.inputBuffer).mExtractor)=
      t.queued.map Prod.snd++
        Sample.fed (k+if 0 ≤ p.index then 1 else 0) (samples t.mExtractor) := by
  split_ifs with available
  · obtain ⟨rest,b,queued,next⟩ := feedInput_fed nonempty available p.inputBuffer
    rw [rest,queued,next]
    simp
  · rw [feedInput_none available,Nat.add_zero]

theorem pass_nonempty (nonempty : ∀ s∈samples t.mExtractor,s.data≠[]) (p : DecoderPass) :
    ∀ s∈samples (t.feedInput p.index p.inputBuffer).mExtractor,s.data≠[] := by
  by_cases available : 0 ≤ p.index
  · rw [(feedInput_fed nonempty available p.inputBuffer).1]
    intro s hs
    exact nonempty s (List.mem_of_mem_tail hs)
  · rw [feedInput_none available]
    exact nonempty

/-- Over a run, what is queued follows from the samples and the input buffers alone. -/
theorem run_queued (passes : List DecoderPass) (nonempty : ∀ s∈samples t.mExtractor,s.data≠[]) :
    (run endOfStream passes t).queued.map Prod.snd=t.queued.map Prod.snd++
      Sample.fed (DecoderPass.inputs endOfStream passes) (samples t.mExtractor) := by
  induction passes generalizing t with
  | nil => simp [run,DecoderPass.inputs,DecoderPass.made,Sample.fed]
  | cons p passes ih =>
    by_cases running : p.mVideoDecoderRunning=true
    · rw [inputs_cons running,← pass_queued nonempty p,run_cons running]
      split_ifs with left
      · simp [Sample.fed]
      · have rest := ih (t := (t.feedInput p.index p.inputBuffer).drainOutput p.outIndex
          p.newBufferInfo) (by simpa using pass_nonempty nonempty p)
        simpa using rest
    · have none : DecoderPass.inputs endOfStream (p::passes)=0 := by
        simp [DecoderPass.inputs,DecoderPass.made,running]
      simp [run,running,none,Sample.fed]

end VideoDecoderHandler

namespace Sample

variable {samples : List Sample}

theorem sameTime_cons {s s' : Sample} :
    SameTime (s::s'::samples) ↔ s'.time=s.time ∧ SameTime (s'::samples) := by
  constructor
  · intro same
    exact ⟨same s' (by simp) s (by simp),fun t ht u hu => same t (.tail _ ht) u (.tail _ hu)⟩
  · rintro ⟨first,same⟩
    have head (t : Sample) (ht : t∈s::s'::samples) : t.time=s'.time := by
      rcases List.mem_cons.mp ht with rfl|later
      · exact first.symm
      · exact same t later s' (by simp)
    intro t ht u hu
    rw [head t ht,head u hu]

/-- Fed as the clip, the samples have to have the time of the one behind each. -/
theorem fed_eq_clip_iff (nonempty : ∀ s∈samples,s.data≠[]) (k : Nat) :
    fed k samples=(clip samples).take k ↔
      samples=[] ∧ k ≤ 1 ∨
        k<samples.length ∧ SameTime (samples.take (k+1)) := by
  induction k generalizing samples with
  | zero =>
    cases samples with
    | nil => simp [fed]
    | cons s later => simp [fed,SameTime]
  | succ k ih =>
    match samples with
    | [] =>
      cases k with
      | zero => simp [fed,clip]
      | succ k => simp [fed,clip]
    | [s] =>
      have first := nonempty s (by simp)
      simp [fed,clip,first.symm]
    | s::s'::later =>
      have behind : ∀ t∈s'::later,t.data≠[] := fun t ht => nonempty t (List.mem_cons_of_mem s ht)
      have rest := ih behind
      have heads : fed (k+1) (s::s'::later)=(clip (s::s'::later)).take (k+1) ↔
          s'.time=s.time ∧ fed k (s'::later)=(clip (s'::later)).take k := by
        simp [fed,clip]
      have times : SameTime ((s::s'::later).take (k+1+1)) ↔
          s'.time=s.time ∧ SameTime ((s'::later).take (k+1)) := sameTime_cons
      have count : k+1<(s::s'::later).length ↔ k<(s'::later).length := by simp
      rw [heads,rest,times,count]
      simp only [reduceCtorEq,false_and,false_or]
      tauto

end Sample

section Faithful

variable {E : Type} [MediaExtractor E] {endOfStream : Bool}

/-- The decoder is fed the clip as long as there are no more input buffers than samples before the
last, all with one time up to the one behind them; and an empty clip once. -/
theorem fedFaithfully_iff (mExtractor : E) (passes : List DecoderPass)
    (nonempty : ∀ s∈MediaExtractor.samples mExtractor,s.data≠[]) :
    FedFaithfully mExtractor endOfStream passes ↔
      MediaExtractor.samples mExtractor=[] ∧ DecoderPass.inputs endOfStream passes ≤ 1 ∨
        DecoderPass.inputs endOfStream passes<(MediaExtractor.samples mExtractor).length ∧
          Sample.SameTime ((MediaExtractor.samples mExtractor).take
            (DecoderPass.inputs endOfStream passes+1)) := by
  rw [← Sample.fed_eq_clip_iff nonempty,FedFaithfully,
    VideoDecoderHandler.run_queued passes nonempty,List.map_nil,List.nil_append]

end Faithful

/-- An extractor that has its samples in a list. -/
instance : MediaExtractor (List Sample) where
  samples e := e
  readSampleData e buffer :=
    match e with
    | [] => (buffer,-1)
    | s::_ => (s.data++buffer.drop s.data.length,(s.data.length : Int))
  advance e := (decide (e.tail≠[]),e.tail)
  getSampleTime e := (e.head?.map Sample.time).getD (-1)
  readSampleData_current buffer h := by rw [h]
  advance_samples _ := rfl
  advance_more e := decide_eq_true_iff
  getSampleTime_current h := by rw [h]; rfl

section Clip

/-- A pass with an input buffer and no output buffer. -/
def DecoderPass.waiting : DecoderPass where
  mVideoDecoderRunning := true
  index := 0
  inputBuffer := []
  outIndex := INFO_TRY_AGAIN_LATER
  newBufferInfo := ⟨0,0,0⟩

theorem fedFaithfully_iff_still :
    FedFaithfully ([⟨[1],0⟩,⟨[2],0⟩] : List Sample) false [.waiting] ↔
      ([⟨[1],0⟩,⟨[2],0⟩] : List Sample)=[] ∧ DecoderPass.inputs false [.waiting] ≤ 1 ∨
        DecoderPass.inputs false [.waiting]<([⟨[1],0⟩,⟨[2],0⟩] : List Sample).length ∧
          Sample.SameTime (([⟨[1],0⟩,⟨[2],0⟩] : List Sample).take
            (DecoderPass.inputs false [.waiting]+1)) :=
  fedFaithfully_iff ([⟨[1],0⟩,⟨[2],0⟩] : List Sample) [.waiting] (by decide)

/-- Two frames, and an input buffer for each buffer of the clip and one more. -/
theorem last_frame_lost : ¬∀ (samples : List Sample) (passes : List DecoderPass),
    (∀ s∈samples,s.data≠[]) → FedFaithfully samples false passes := by
  intro fed
  have wrong := fed [⟨[1],0⟩,⟨[2],33333⟩] [.waiting,.waiting,.waiting,.waiting] (by decide)
  have queued : (VideoDecoderHandler.run false [.waiting,.waiting,.waiting,.waiting]
      ⟨([⟨[1],0⟩,⟨[2],33333⟩] : List Sample),[],[]⟩).queued.map Prod.snd=
        [⟨[1],33333,0⟩,⟨[],0,4⟩,⟨[],0,4⟩,⟨[],0,4⟩] := by decide
  rw [FedFaithfully,queued] at wrong
  revert wrong
  decide

end Clip

end IotMedia.Qmedia

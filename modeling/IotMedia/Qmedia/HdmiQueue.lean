import IotMedia.Framework.Fifo
import IotMedia.Framework.Run

namespace IotMedia.Qmedia

open IotMedia.Framework

inductive RecordPoint
  | allocate
  | read (bData : Nat)
  | add (bData : Nat)
  deriving DecidableEq

inductive PlaybackPoint
  | test
  | remove
  | write (bData : Nat)
  deriving DecidableEq

/-- The reads whose array is not added yet. -/
@[simp] def RecordPoint.pending : RecordPoint → Nat
  | .allocate | .read _ => 0
  | .add _ => 1

/-- The arrays removed and not written yet. -/
@[simp] def PlaybackPoint.removed : PlaybackPoint → Nat
  | .test | .remove => 0
  | .write _ => 1

def AUDIO_QUEUE_SIZE : Nat := 8

/-- The two threads that one start() has spawned. An array is its index in `arrays`, `C` is what an
array can contain. -/
structure HdmiQueue (C : Type) where
  arrays : List C := []
  /-- The references that the queue has. -/
  mAudioQueue : List Nat := []
  record : RecordPoint := .allocate
  playback : PlaybackPoint := .test
  /-- What the recorder has put into the array, read by read. -/
  chunks : List C := []
  /-- What the array had at each write to the track. -/
  written : List C := []

inductive HdmiQueueLabel (C : Type)
  | allocate (contents : C)
  | read (chunk : C)
  | add
  | test
  | remove
  | write
  deriving DecidableEq

namespace HdmiQueue

variable {C : Type}

/-- An add to a full queue throws, it is no step. -/
def perform (s : HdmiQueue C) : HdmiQueueLabel C → Option (HdmiQueue C)
  | .allocate contents =>
    match s.record with
    | .allocate =>
      some
        { s with
          arrays := s.arrays++[contents]
          record := .read s.arrays.length }
    | _ => none
  | .read chunk =>
    match s.record with
    | .read bData =>
      some
        { s with
          arrays := s.arrays.set bData chunk
          record := .add bData
          chunks := s.chunks++[chunk] }
    | _ => none
  | .add =>
    match s.record with
    | .add bData =>
      if s.mAudioQueue.length < AUDIO_QUEUE_SIZE then
        some
          { s with
            mAudioQueue := s.mAudioQueue++[bData]
            record := .read bData }
      else none
    | _ => none
  | .test =>
    match s.playback with
    | .test => some { s with playback := if s.mAudioQueue=[] then .test else .remove }
    | _ => none
  | .remove =>
    match s.playback,s.mAudioQueue with
    | .remove,bData::queue =>
      some
        { s with
          mAudioQueue := queue
          playback := .write bData }
    | _,_ => none
  | .write =>
    match s.playback with
    | .write bData => (s.arrays[bData]?).map fun contents =>
        { s with
          playback := .test
          written := s.written++[contents] }
    | _ => none

def Step (s : HdmiQueue C) (l : HdmiQueueLabel C) (t : HdmiQueue C) : Prop := s.perform l=some t

def start : HdmiQueue C := {}

/-- At a write the array still has what it had when its turn was added: no other contents have been
read into it since. -/
def Current (s : HdmiQueue C) (l : HdmiQueueLabel C) : Prop :=
  l=.write → s.chunks[s.written.length]?=s.chunks.getLast?

instance [DecidableEq C] (s : HdmiQueue C) (l : HdmiQueueLabel C) : Decidable (Current s l) :=
  inferInstanceAs (Decidable (_ → _))

/-- What a step does. -/
inductive Moved (s : HdmiQueue C) : HdmiQueueLabel C → HdmiQueue C → Prop
  | allocate {contents : C} (at_ : s.record=.allocate) : Moved s (.allocate contents)
      { s with
        arrays := s.arrays++[contents]
        record := .read s.arrays.length }
  | read {chunk : C} {bData : Nat} (at_ : s.record=.read bData) : Moved s (.read chunk)
      { s with
        arrays := s.arrays.set bData chunk
        record := .add bData
        chunks := s.chunks++[chunk] }
  | add {bData : Nat} (at_ : s.record=.add bData) : Moved s .add
      { s with
        mAudioQueue := s.mAudioQueue++[bData]
        record := .read bData }
  | test (at_ : s.playback=.test) : Moved s .test
      { s with playback := if s.mAudioQueue=[] then .test else .remove }
  | remove {bData : Nat} {queue : List Nat} (at_ : s.playback=.remove)
      (front : s.mAudioQueue=bData::queue) : Moved s .remove
      { s with
        mAudioQueue := queue
        playback := .write bData }
  | write {bData : Nat} {contents : C} (at_ : s.playback=.write bData)
      (has : s.arrays[bData]?=some contents) : Moved s .write
      { s with
        playback := .test
        written := s.written++[contents] }

variable {s t : HdmiQueue C} {l : HdmiQueueLabel C}

theorem Step.moved (h : Step s l t) : Moved s l t := by
  cases l with
  | allocate contents =>
    cases at_ : s.record <;> simp only [Step,perform,at_,Option.some.injEq,reduceCtorEq] at h
    subst h
    exact .allocate at_
  | read chunk =>
    cases at_ : s.record <;> simp only [Step,perform,at_,Option.some.injEq,reduceCtorEq] at h
    subst h
    exact .read at_
  | add =>
    cases at_ : s.record <;> simp only [Step,perform,at_,Option.ite_none_right_eq_some,
      Option.some.injEq,reduceCtorEq] at h
    obtain ⟨-,rfl⟩ := h
    exact .add at_
  | test =>
    cases at_ : s.playback <;> simp only [Step,perform,at_,Option.some.injEq,reduceCtorEq] at h
    subst h
    exact .test at_
  | remove =>
    cases at_ : s.playback <;> cases front : s.mAudioQueue <;>
      simp only [Step,perform,at_,front,Option.some.injEq,reduceCtorEq] at h
    subst h
    exact .remove at_ front
  | write =>
    cases at_ : s.playback <;> simp only [Step,perform,at_,Option.map_eq_some_iff,reduceCtorEq] at h
    obtain ⟨contents,has,rfl⟩ := h
    exact .write at_ has

/-- There is one array, which has what was read last. -/
structure Inv (s : HdmiQueue C) : Prop where
  fresh : s.record=.allocate → s.arrays=[] ∧ s.chunks=[]
  there : s.record≠.allocate → 0 < s.arrays.length
  reads : ∀ bData,s.record=.read bData ∨ s.record=.add bData → bData=0
  queued : ∀ bData∈s.mAudioQueue,bData=0
  writes : ∀ bData,s.playback=.write bData → bData=0
  last : s.chunks≠[] → s.arrays[0]?=s.chunks.getLast?
  count : s.written.length+s.playback.removed+s.mAudioQueue.length+s.record.pending=s.chunks.length

theorem start_inv : Inv (start : HdmiQueue C) := by
  refine ⟨fun _ => ⟨rfl,rfl⟩,?_,?_,?_,?_,?_,rfl⟩ <;> simp [start]

theorem step_inv (h : Inv s) (step : Step s l t) : Inv t := by
  obtain ⟨fresh,there,reads,queued,writes,last,count⟩ := h
  cases step.moved with
  | allocate at_ =>
    obtain ⟨none,unread⟩ := fresh at_
    refine ⟨by simp,by simp,by simp [none],queued,writes,by simp [unread],?_⟩
    simpa [at_] using count
  | @read chunk bData at_ =>
    obtain rfl := reads bData (.inl at_)
    have array := there (by simp [at_])
    refine ⟨by simp,by simpa using array,by simp,queued,writes,fun _ => ?_,?_⟩
    · rw [List.getElem?_set_self array,List.getLast?_concat]
    · simpa [at_] using count
  | @add bData at_ =>
    obtain rfl := reads bData (.inr at_)
    refine ⟨by simp,fun _ => there (by simp [at_]),by simp,?_,writes,last,?_⟩
    · rintro bData hb
      rcases List.mem_append.mp hb with before|new
      · exact queued bData before
      · exact List.mem_singleton.mp new
    · simpa [at_,Nat.add_assoc] using count
  | test at_ =>
    refine ⟨fresh,there,reads,queued,?_,last,?_⟩
    · dsimp only
      split_ifs <;> simp
    · rw [← count,at_]
      dsimp only
      split_ifs <;> rfl
  | @remove bData queue at_ front =>
    rw [front] at queued
    refine ⟨fresh,there,reads,fun b hb => queued b (List.mem_cons_of_mem _ hb),?_,last,?_⟩
    · rintro b writing
      cases writing
      exact queued bData List.mem_cons_self
    · rw [← count,at_,front]
      simp only [PlaybackPoint.removed,List.length_cons]
      omega
  | @write bData contents at_ has =>
    refine ⟨fresh,there,reads,queued,by simp,last,?_⟩
    rw [← count,at_]
    simp

/-- What is written is what was read last. -/
theorem write_latest {bData : Nat} {contents : C} (h : Inv s) (at_ : s.playback=.write bData)
    (has : s.arrays[bData]?=some contents) : s.chunks.getLast?=some contents := by
  have some_read : s.chunks≠[] := by
    have count := h.count
    rintro none
    simp only [at_,none,PlaybackPoint.removed,List.length_nil] at count
    omega
  rw [← h.last some_read,← h.writes bData at_]
  exact has

theorem step_kept (h : Inv s) (order : s.written <+: s.chunks) (step : Step s l t) :
    t.written <+: t.chunks ↔ Current s l := by
  cases step.moved with
  | @write bData contents at_ has =>
    rw [prefix_snoc_iff order,← write_latest h at_ has]
    simp [Current]
  | read at_ =>
    simp only [Current,reduceCtorEq,false_implies,iff_true]
    exact order.trans (List.prefix_append _ _)
  | _ =>
    simp only [Current,reduceCtorEq,false_implies,iff_true]
    exact order

/-- The chunks are played as they were recorded in every run whose writes all find the contents of
their turn, and a write that finds others breaks it. -/
theorem played_as_recorded {labels : List (HdmiQueueLabel C)}
    (hr : Run (Guarded Current Step) start labels s) :
    s.written <+: s.chunks ∧
      ∀ l t,Step s l t → (t.written <+: t.chunks ↔ Current s l) :=
  hr.kept_iff_guard (I := Inv) (P := fun s => s.written <+: s.chunks)
    (fun _ _ _ h _ step _ => step_inv h step) (fun _ _ _ h order step => step_kept h order step)
    start_inv (List.prefix_refl _)

/-- One chunk after the other. -/
def alternating : List (HdmiQueueLabel Nat) :=
  [.allocate 0,.read 1,.add,.test,.remove,.write,.read 2,.add,.test,.remove,.write]

theorem played_as_recorded_alternating : ∃ s : HdmiQueue Nat,
    Run (Guarded Current Step) start alternating s ∧ s.written=[1,2] ∧ s.written <+: s.chunks := by
  obtain ⟨s,run,written⟩ := Run.of_exec_guarded (f := perform) (G := Current)
    (p := fun s : HdmiQueue Nat => decide (s.written=[1,2])) start alternating (fun _ _ _ h => h)
    (by decide)
  exact ⟨s,run,of_decide_eq_true written,(played_as_recorded run).1⟩

/-- The second chunk is read before the first is written. -/
def ahead : List (HdmiQueueLabel Nat) := [.allocate 0,.read 1,.add,.read 2,.test,.remove,.write]

theorem chunk_overwritten : ¬∀ labels (s : HdmiQueue Nat),Run Step start labels s →
    s.written <+: s.chunks := by
  intro supposed
  obtain ⟨s,run,broken⟩ := Run.of_exec_any (f := perform)
    (p := fun s : HdmiQueue Nat => decide (¬s.written <+: s.chunks)) start ahead (fun _ _ _ h => h)
    (by decide)
  exact of_decide_eq_true broken (supposed ahead s run)

end HdmiQueue

end IotMedia.Qmedia

import IotMedia.Framework.Run
import Mathlib.Logic.Function.Basic
import Mathlib.Tactic.Common

namespace IotMedia.Qmedia

open IotMedia.Framework

inductive HdmiWorker
  | record
  | playback
  deriving DecidableEq

@[simp] theorem HdmiWorker.not_playback {w : HdmiWorker} : ¬w=.playback ↔ w=.record := by
  cases w <;> simp

/-- What a worker thread does next; only the playback thread releases once more at its end. -/
inductive WorkerPoint
  | absent
  | setRunning
  | release
  | loop
  | releaseAtEnd
  | ended
  deriving DecidableEq

/-- What the caller of start() and stop() does next. -/
inductive HdmiCaller
  | idle
  | startAcquire
  | startThread (worker : HdmiWorker)
  | started
  | stopAcquire
  | stopRelease
  | clear (worker : HdmiWorker)
  | join (worker : HdmiWorker)
  deriving DecidableEq

namespace WorkerPoint

def hasSet : WorkerPoint → Bool
  | .absent | .setRunning => false
  | .release | .loop | .releaseAtEnd | .ended => true

def hasReleased : WorkerPoint → Bool
  | .absent | .setRunning | .release => false
  | .loop | .releaseAtEnd | .ended => true

/-- Where the loop of the thread is left to. -/
def afterLoop : HdmiWorker → WorkerPoint
  | .record => .ended
  | .playback => .releaseAtEnd

/-- The permits that the thread has given so far. -/
def released : HdmiWorker → WorkerPoint → Nat
  | _,.absent | _,.setRunning | _,.release => 0
  | _,.loop | _,.releaseAtEnd => 1
  | .record,.ended => 1
  | .playback,.ended => 2

end WorkerPoint

namespace HdmiCaller

/-- The thread exists, as far as mRecordThread and mPlaybackThread say. -/
def live : HdmiCaller → HdmiWorker → Bool
  | .idle,_ | .startAcquire,_ | .startThread .record,_ => false
  | .startThread .playback,w => w=.record
  | .started,_ | .stopAcquire,_ | .stopRelease,_ | .clear _,_ | .join .record,_ => true
  | .join .playback,w => w=.playback

/-- stop() has cleared the flag of the thread. -/
def cleared : HdmiCaller → HdmiWorker → Bool
  | .idle,_ | .startAcquire,_ | .startThread _,_ | .started,_ | .stopAcquire,_ | .stopRelease,_ |
    .clear .record,_ => false
  | .clear .playback,w => w=.record
  | .join _,_ => true

/-- stop() has acquired. -/
def stops : HdmiCaller → Bool
  | .idle | .startAcquire | .startThread _ | .started | .stopAcquire => false
  | .stopRelease | .clear _ | .join _ => true

/-- The permits that the caller has taken, less those that a thread already joined has given. -/
def taken : HdmiCaller → Nat
  | .idle | .startAcquire => 0
  | .startThread _ | .started | .stopAcquire | .clear _ | .join .record => 2
  | .stopRelease => 4
  | .join .playback => 1

end HdmiCaller

structure HdmiAudio where
  /-- The permits of the semaphore. -/
  mRecordPlaybackSemaphore : Nat := 2
  /-- isAudioRecordThreadRunning and isAudioPlaybackThreadRunning. -/
  running : HdmiWorker → Bool := fun _ => false
  thread : HdmiWorker → WorkerPoint := fun _ => .absent
  caller : HdmiCaller := .idle
  /-- The calls of stop() that have returned. -/
  stopped : Nat := 0

/-- The thread that takes its next step. -/
inductive HdmiThread
  | caller
  | worker (worker : HdmiWorker)
  deriving DecidableEq

namespace HdmiAudio

def spawn (s : HdmiAudio) (w : HdmiWorker) (caller : HdmiCaller) : HdmiAudio :=
  { s with
    thread := Function.update s.thread w .setRunning
    caller := caller }

def clear (s : HdmiAudio) (w : HdmiWorker) (caller : HdmiCaller) : HdmiAudio :=
  { s with
    running := Function.update s.running w false
    caller := caller }

/-- The caller of start() and stop(), with an HDMI device there. -/
def call (s : HdmiAudio) : Option HdmiAudio :=
  match s.caller with
  | .idle => some { s with caller := .startAcquire }
  | .startAcquire =>
    if 2 ≤ s.mRecordPlaybackSemaphore then
      some
        { s with
          mRecordPlaybackSemaphore := s.mRecordPlaybackSemaphore-2
          caller := .startThread .record }
    else none
  | .startThread .record => some (s.spawn .record (.startThread .playback))
  | .startThread .playback => some (s.spawn .playback .started)
  | .started => some { s with caller := .stopAcquire }
  | .stopAcquire =>
    if 2 ≤ s.mRecordPlaybackSemaphore then
      some
        { s with
          mRecordPlaybackSemaphore := s.mRecordPlaybackSemaphore-2
          caller := .stopRelease }
    else none
  | .stopRelease =>
    some
      { s with
        mRecordPlaybackSemaphore := s.mRecordPlaybackSemaphore+2
        caller := .clear .record }
  | .clear .record => some (s.clear .record (.clear .playback))
  | .clear .playback => some (s.clear .playback (.join .record))
  | .join .record =>
    if s.thread .record=.ended then
      some
        { s with
          thread := Function.update s.thread .record .absent
          caller := .join .playback }
    else none
  | .join .playback =>
    if s.thread .playback=.ended then
      some
        { s with
          thread := Function.update s.thread .playback .absent
          caller := .idle
          stopped := s.stopped+1 }
    else none

/-- The run() of the two threads. -/
def work (s : HdmiAudio) (w : HdmiWorker) : Option HdmiAudio :=
  match s.thread w with
  | .absent | .ended => none
  | .setRunning =>
    some
      { s with
        running := Function.update s.running w true
        thread := Function.update s.thread w .release }
  | .release =>
    some
      { s with
        mRecordPlaybackSemaphore := s.mRecordPlaybackSemaphore+1
        thread := Function.update s.thread w .loop }
  | .loop =>
    if s.running w=true then some s
    else some { s with thread := Function.update s.thread w (WorkerPoint.afterLoop w) }
  | .releaseAtEnd =>
    some
      { s with
        mRecordPlaybackSemaphore := s.mRecordPlaybackSemaphore+1
        thread := Function.update s.thread w .ended }

def perform (s : HdmiAudio) : HdmiThread → Option HdmiAudio
  | .caller => s.call
  | .worker w => s.work w

def Step (s : HdmiAudio) (l : HdmiThread) (t : HdmiAudio) : Prop := s.perform l=some t

def start : HdmiAudio := {}

/-- stop() clears a flag only where both threads have set theirs, no thread sets its flag where
stop() has cleared it, and the semaphore has its two permits whenever no call is going on. -/
structure Handshake (s : HdmiAudio) : Prop where
  clears : ∀ w,s.caller=.clear w → ∀ v,(s.thread v).hasSet=true
  sets : ∀ w,s.thread w=.setRunning → s.caller.cleared w=false
  permits : s.caller=.idle → s.mRecordPlaybackSemaphore=2

/-- The step is not the end of a stop(). -/
def Stopless (s : HdmiAudio) (l : HdmiThread) : Prop := l=.caller → s.caller≠.join .playback

instance (s : HdmiAudio) (l : HdmiThread) : Decidable (Stopless s l) :=
  inferInstanceAs (Decidable (_ → _))

/-- What the caller's point says about a thread and its flag. -/
structure Placed (c : HdmiCaller) (w : HdmiWorker) (p : WorkerPoint) (running : Bool) : Prop where
  live : p=.absent ↔ c.live w=false
  atEnd : w=.record → p≠.releaseAtEnd
  uncleared : c.cleared w=false → p.hasSet=true → running=true ∧ (p=.release ∨ p=.loop)

/-- The permits that the threads have given. -/
def given (thread : HdmiWorker → WorkerPoint) : Nat :=
  (thread .record).released .record+(thread .playback).released .playback

/-- Each stop() leaves one permit too many. -/
structure Inv (s : HdmiAudio) : Prop where
  placed : ∀ w,Placed s.caller w (s.thread w) (s.running w)
  permits : s.mRecordPlaybackSemaphore+s.caller.taken=2+s.stopped+given s.thread

variable {s t : HdmiAudio} {c c' : HdmiCaller} {w : HdmiWorker} {p : WorkerPoint} {r : Bool}

theorem Placed.call (h : Placed c w p r) (live : c'.live w=c.live w)
    (cleared : c'.cleared w=c.cleared w) : Placed c' w p r := by
  refine ⟨?_,h.atEnd,?_⟩
  · rw [live]
    exact h.live
  · rw [cleared]
    exact h.uncleared

theorem Placed.clear (h : Placed c w p r) (live : c'.live w=c.live w)
    (cleared : c'.cleared w=true) : Placed c' w p false := by
  refine ⟨?_,h.atEnd,by simp [cleared]⟩
  rw [live]
  exact h.live

theorem placed_absent (live : c.live w=false) : Placed c w .absent r :=
  ⟨by simp [live],by simp,by simp [WorkerPoint.hasSet]⟩

theorem placed_spawned (live : c.live w=true) : Placed c w .setRunning r :=
  ⟨by simp [live],by simp,by simp [WorkerPoint.hasSet]⟩

theorem Placed.absent (h : Placed c w p r) (live : c.live w=false) : p=.absent := h.live.mpr live

theorem Placed.alive (h : Placed c w p r) (there : p≠.absent) : c.live w=true := by
  by_contra gone
  exact there (h.live.mpr (by simpa using gone))

theorem given_update (thread : HdmiWorker → WorkerPoint) (w : HdmiWorker) (p : WorkerPoint) :
    given (Function.update thread w p)+(thread w).released w=given thread+p.released w := by
  cases w
  · rw [given,Function.update_self,Function.update_of_ne (by simp),given]
    omega
  · rw [given,Function.update_self,Function.update_of_ne (by simp),given]
    omega

theorem start_inv : Inv start := ⟨fun _ => placed_absent rfl,rfl⟩

/-- The caller is at another point, the threads are where they were. -/
theorem Inv.call (h : Inv s) {permits : Nat} (live : ∀ w,c.live w=s.caller.live w)
    (cleared : ∀ w,c.cleared w=s.caller.cleared w)
    (balance : permits+c.taken=s.mRecordPlaybackSemaphore+s.caller.taken) :
    Inv
      { s with
        mRecordPlaybackSemaphore := permits
        caller := c } :=
  ⟨fun w => (h.placed w).call (live w) (cleared w),balance.trans h.permits⟩

/-- One thread is at another point. -/
theorem Inv.move (h : Inv s) (thread : t.thread=Function.update s.thread w p)
    (moved : Placed t.caller w p (t.running w))
    (others : ∀ v,v≠w → Placed t.caller v (s.thread v) (t.running v))
    (balance : t.mRecordPlaybackSemaphore+t.caller.taken+s.stopped+(s.thread w).released w=
      s.mRecordPlaybackSemaphore+s.caller.taken+t.stopped+p.released w) : Inv t := by
  refine ⟨fun v => ?_,?_⟩
  · rw [thread]
    by_cases eq : v=w
    · rw [eq,Function.update_self]
      exact moved
    · rw [Function.update_of_ne eq]
      exact others v eq
  · have permits := h.permits
    have shifted := given_update s.thread w p
    rw [thread]
    omega

/-- A thread is spawned where there is none. -/
theorem Inv.spawn (h : Inv s) (gone : s.caller.live w=false) (live : c.live w=true)
    (lives : ∀ v,v≠w → c.live v=s.caller.live v) (cleared : ∀ v,c.cleared v=s.caller.cleared v)
    (taken : c.taken=s.caller.taken) : Inv (s.spawn w c) := by
  refine h.move rfl (placed_spawned live)
    (fun v hv => (h.placed v).call (lives v hv) (cleared v)) ?_
  rw [(h.placed w).absent gone]
  simp only [HdmiAudio.spawn,WorkerPoint.released,taken]

theorem Inv.clear (h : Inv s) (live : ∀ v,c.live v=s.caller.live v) (done : c.cleared w=true)
    (cleared : ∀ v,v≠w → c.cleared v=s.caller.cleared v) (taken : c.taken=s.caller.taken) :
    Inv (s.clear w c) := by
  refine ⟨fun v => ?_,?_⟩
  · by_cases eq : v=w
    · subst eq
      simpa [HdmiAudio.clear] using (h.placed v).clear (live v) done
    · simpa [HdmiAudio.clear,eq] using (h.placed v).call (live v) (cleared v eq)
  · have permits := h.permits
    simpa only [HdmiAudio.clear,taken] using permits

theorem call_inv (h : Inv s) (hc : s.call=some t) : Inv t := by
  rcases at_ : s.caller with _|_|w|_|_|_|w|w
  case idle | started =>
    simp only [call,at_,Option.some.injEq] at hc
    subst hc
    exact h.call (by simp [at_,HdmiCaller.live]) (by simp [at_,HdmiCaller.cleared])
      (by simp [at_,HdmiCaller.taken])
  case startAcquire | stopAcquire =>
    simp only [call,at_,Option.ite_none_right_eq_some,Option.some.injEq] at hc
    obtain ⟨enough,rfl⟩ := hc
    refine h.call (by simp [at_,HdmiCaller.live]) (by simp [at_,HdmiCaller.cleared]) ?_
    simp only [at_,HdmiCaller.taken]
    omega
  case stopRelease =>
    simp only [call,at_,Option.some.injEq] at hc
    subst hc
    refine h.call (by simp [at_,HdmiCaller.live]) (by simp [at_,HdmiCaller.cleared]) ?_
    simp only [at_,HdmiCaller.taken]
  case startThread =>
    cases w
    all_goals
      simp only [call,at_,Option.some.injEq] at hc
      subst hc
      exact h.spawn (by rw [at_]; rfl) rfl (by simp [at_,HdmiCaller.live])
        (by simp [at_,HdmiCaller.cleared]) (by rw [at_]; rfl)
  case clear =>
    cases w
    all_goals
      simp only [call,at_,Option.some.injEq] at hc
      subst hc
      exact h.clear (by simp [at_,HdmiCaller.live]) rfl (by simp [at_,HdmiCaller.cleared])
        (by rw [at_]; rfl)
  case join =>
    cases w with
    | record =>
      simp only [call,at_,Option.ite_none_right_eq_some,Option.some.injEq] at hc
      obtain ⟨ended,rfl⟩ := hc
      refine h.move rfl (placed_absent rfl) (fun v hv => ?_) ?_
      · cases v with
        | record => exact absurd rfl hv
        | playback =>
          exact (h.placed .playback).call (by simp [at_,HdmiCaller.live])
            (by simp [at_,HdmiCaller.cleared])
      · simp only [at_,ended,HdmiCaller.taken,WorkerPoint.released]
        omega
    | playback =>
      simp only [call,at_,Option.ite_none_right_eq_some,Option.some.injEq] at hc
      obtain ⟨ended,rfl⟩ := hc
      refine h.move rfl (placed_absent rfl) (fun v hv => ?_) ?_
      · have gone : s.caller.live v=false := by simpa [at_,HdmiCaller.live] using hv
        rw [(h.placed v).absent gone]
        exact placed_absent rfl
      · simp only [at_,ended,HdmiCaller.taken,WorkerPoint.released]
        omega

theorem work_inv (h : Inv s) (hw : s.work w=some t) : Inv t := by
  have here := h.placed w
  cases at_ : s.thread w with
  | absent | ended => simp [work,at_] at hw
  | setRunning =>
    simp only [work,at_,Option.some.injEq] at hw
    subst hw
    refine h.move rfl ⟨?_,by simp,by simp⟩ (fun v hv => ?_) ?_
    · simp [here.alive (by simp [at_])]
    · simpa [hv] using h.placed v
    · simp only [at_,WorkerPoint.released]
  | release =>
    simp only [work,at_,Option.some.injEq] at hw
    subst hw
    refine h.move rfl ⟨?_,by simp,?_⟩ (fun v hv => h.placed v) ?_
    · simp [here.alive (by simp [at_])]
    · intro uncleared set
      exact ⟨(here.uncleared uncleared (by rw [at_]; rfl)).1,.inr rfl⟩
    · simp only [at_,WorkerPoint.released]
      omega
  | loop =>
    simp only [work,at_] at hw
    split_ifs at hw with running
    · cases hw
      exact h
    · cases hw
      -- the flag is cleared only by stop(), after which the thread may go
      have cleared : s.caller.cleared w=true := by
        by_contra uncleared
        exact running (here.uncleared (by simpa using uncleared) (by rw [at_]; rfl)).1
      refine h.move rfl ⟨?_,?_,by simp [cleared]⟩ (fun v hv => h.placed v) ?_
      · cases w <;> simp [WorkerPoint.afterLoop,here.alive (by simp [at_])]
      · rintro rfl
        simp [WorkerPoint.afterLoop]
      · cases w <;> simp only [at_,WorkerPoint.afterLoop,WorkerPoint.released]
  | releaseAtEnd =>
    simp only [work,at_,Option.some.injEq] at hw
    subst hw
    have playback : w≠.record := fun record => here.atEnd record at_
    refine h.move rfl ⟨?_,by simp,?_⟩ (fun v hv => h.placed v) ?_
    · simp [here.alive (by simp [at_])]
    · intro uncleared set
      have late := (here.uncleared uncleared (by rw [at_]; rfl)).2
      simp [at_] at late
    · cases w with
      | record => exact absurd rfl playback
      | playback =>
        simp only [at_,WorkerPoint.released]
        omega

theorem step_inv {l : HdmiThread} (h : Inv s) (step : Step s l t) : Inv t := by
  cases l with
  | caller => exact call_inv h step
  | worker w => exact work_inv h step

theorem Inv.idle (h : Inv s) (idle : s.caller=.idle) : s.mRecordPlaybackSemaphore=2+s.stopped := by
  have permits := h.permits
  have gone := fun w => (h.placed w).absent (by rw [idle]; rfl)
  simpa [idle,given,gone,HdmiCaller.taken,WorkerPoint.released] using permits

/-- The permits grow by one with every start() and stop(). -/
theorem permits_after_stops {labels : List HdmiThread} (hr : Run Step start labels s)
    (idle : s.caller=.idle) : s.mRecordPlaybackSemaphore=2+s.stopped := by
  exact (hr.invariant (P := Inv) (fun _ _ _ h step => step_inv h step) start_inv).idle idle

/-- Until the first stop() has returned its acquire proves that both threads have released. -/
def Settled (s : HdmiAudio) : Prop :=
  s.stopped=0 → s.caller.stops=true → ∀ w,s.caller.live w=true → (s.thread w).hasReleased=true

theorem Placed.released_le (h : Placed c w p r) (uncleared : c.cleared w=false) :
    p.released w ≤ 1 ∧ (p.released w=1 → p.hasReleased=true) := by
  cases p with
  | absent | setRunning | release | loop =>
    simp [WorkerPoint.released,WorkerPoint.hasReleased]
  | releaseAtEnd | ended =>
    have late := (h.uncleared uncleared rfl).2
    simp at late

theorem hasSet_of_hasReleased (h : p.hasReleased=true) : p.hasSet=true := by
  cases p <;> simp_all [WorkerPoint.hasReleased,WorkerPoint.hasSet]

theorem stops_of_cleared (h : c.cleared w=true) : c.stops=true := by
  cases c with
  | clear | join => rfl
  | _ => simp [HdmiCaller.cleared] at h

theorem acquired_released (h : Inv s) (first : s.stopped=0) (at_ : s.caller=.stopAcquire)
    (enough : 2 ≤ s.mRecordPlaybackSemaphore) (w : HdmiWorker) :
    (s.thread w).hasReleased=true := by
  have permits := h.permits
  rw [at_,first,HdmiCaller.taken,given] at permits
  have record := (h.placed .record).released_le (by rw [at_]; rfl)
  have playback := (h.placed .playback).released_le (by rw [at_]; rfl)
  cases w
  · exact record.2 (by omega)
  · exact playback.2 (by omega)

theorem call_settled (h : Inv s) (settled : s.Settled) (hc : s.call=some t) : t.Settled := by
  intro first stops w live
  rcases at_ : s.caller with _|_|w'|_|_|_|w'|w'
  case idle | started =>
    simp only [call,at_,Option.some.injEq] at hc
    subst hc
    simp [HdmiCaller.stops] at stops
  case startAcquire =>
    simp only [call,at_,Option.ite_none_right_eq_some,Option.some.injEq] at hc
    obtain ⟨enough,rfl⟩ := hc
    simp [HdmiCaller.stops] at stops
  case startThread =>
    cases w'
    all_goals
      simp only [call,at_,Option.some.injEq] at hc
      subst hc
      simp [spawn,HdmiCaller.stops] at stops
  case stopAcquire =>
    simp only [call,at_,Option.ite_none_right_eq_some,Option.some.injEq] at hc
    obtain ⟨enough,rfl⟩ := hc
    exact acquired_released h first at_ enough w
  case stopRelease =>
    simp only [call,at_,Option.some.injEq] at hc
    subst hc
    exact settled first (by rw [at_]; rfl) w (by rw [at_]; rfl)
  case clear =>
    cases w'
    all_goals
      simp only [call,at_,Option.some.injEq] at hc
      subst hc
      exact settled first (by rw [at_]; rfl) w (by rw [at_]; rfl)
  case join =>
    cases w' with
    | record =>
      simp only [call,at_,Option.ite_none_right_eq_some,Option.some.injEq] at hc
      obtain ⟨ended,rfl⟩ := hc
      have other : w=.playback := by simpa [HdmiCaller.live] using live
      subst other
      simpa using settled first (by rw [at_]; rfl) .playback (by rw [at_]; rfl)
    | playback =>
      simp only [call,at_,Option.ite_none_right_eq_some,Option.some.injEq] at hc
      obtain ⟨ended,rfl⟩ := hc
      exact absurd first (Nat.succ_ne_zero _)

/-- A thread takes no step back. -/
theorem work_spec (hw : s.work w=some t) : t.caller=s.caller ∧ t.stopped=s.stopped ∧
    (∀ v,(s.thread v).hasReleased=true → (t.thread v).hasReleased=true) := by
  cases at_ : s.thread w with
  | absent | ended => simp [work,at_] at hw
  | loop =>
    simp only [work,at_] at hw
    split_ifs at hw with running
    · cases hw
      exact ⟨rfl,rfl,fun v h => h⟩
    · cases hw
      refine ⟨rfl,rfl,fun v released => ?_⟩
      by_cases eq : v=w
      · subst eq
        cases v <;> simp [WorkerPoint.afterLoop,WorkerPoint.hasReleased]
      · simpa [eq] using released
  | setRunning | release | releaseAtEnd =>
    simp only [work,at_,Option.some.injEq] at hw
    subst hw
    refine ⟨rfl,rfl,fun v released => ?_⟩
    by_cases eq : v=w
    · subst eq
      simp_all [WorkerPoint.hasReleased]
    · simpa [eq] using released

theorem work_settled (settled : s.Settled) (hw : s.work w=some t) : t.Settled := by
  obtain ⟨caller,stopped,onward⟩ := work_spec hw
  intro first stops v live
  rw [caller] at stops live
  exact onward v (settled (stopped ▸ first) stops v live)

/-- A state of the first start() and stop(). -/
structure FirstCycle (s : HdmiAudio) : Prop where
  inv : Inv s
  settled : s.Settled
  first : s.stopped=0

theorem FirstCycle.handshake (h : FirstCycle s) : Handshake s := by
  refine ⟨fun w clears v => ?_,fun w sets => ?_,fun idle => ?_⟩
  · have released := h.settled h.first (by rw [clears]; rfl) v (by rw [clears]; rfl)
    exact hasSet_of_hasReleased released
  · by_contra cleared
    have stops := stops_of_cleared (eq_true_of_ne_false cleared)
    have alive := (h.inv.placed w).alive (by simp [sets])
    have released := h.settled h.first stops w alive
    simp [sets,WorkerPoint.hasReleased] at released
  · rw [h.inv.idle idle,h.first]

theorem call_stopped (hc : s.call=some t) (going : s.caller≠.join .playback) :
    t.stopped=s.stopped := by
  unfold call at hc
  split at hc
  case h_11 at_ => exact absurd at_ going
  all_goals
    try split_ifs at hc
    cases hc
    rfl

theorem step_firstCycle {l : HdmiThread} (h : FirstCycle s) (step : Step s l t)
    (going : Stopless s l) : FirstCycle t := by
  cases l with
  | caller =>
    exact ⟨call_inv h.inv step,call_settled h.inv h.settled step,
      (call_stopped step (going rfl)).trans h.first⟩
  | worker w =>
    exact ⟨work_inv h.inv step,work_settled h.settled step,(work_spec step).2.1.trans h.first⟩

/-- The stop() that returns leaves a third permit. -/
theorem stop_breaks {l : HdmiThread} (h : Inv s) (step : Step s l t) (stop : ¬Stopless s l) :
    ¬Handshake t := by
  obtain ⟨rfl,at_⟩ := Classical.not_imp.mp stop
  rw [not_not] at at_
  have after := call_inv h step
  simp only [Step,perform,call,at_,Option.ite_none_right_eq_some,Option.some.injEq] at step
  obtain ⟨ended,rfl⟩ := step
  intro handshake
  have more := (handshake.permits rfl).symm.trans (after.idle rfl)
  simp only at more
  omega

/-- The handshake holds in every run in which no stop() has returned, and the first that returns
breaks it. -/
theorem handshake_until_stopped {labels : List HdmiThread}
    (hr : Run (Guarded Stopless Step) start labels s) :
    s.Handshake ∧ ∀ l t,Step s l t → (t.Handshake ↔ Stopless s l) := by
  have starts : FirstCycle start := ⟨start_inv,by simp [Settled,start,HdmiCaller.stops],rfl⟩
  refine hr.kept_iff_guard (I := FirstCycle) ?_ ?_ starts starts.handshake
  · exact fun s l t h _ step going => step_firstCycle h step going
  · intro s l t h _ step
    refine ⟨fun kept => ?_,fun going => (step_firstCycle h step going).handshake⟩
    by_contra stop
    exact stop_breaks h.inv step stop kept

/-- A start() and a stop(), in which each thread is as fast as it can be. -/
def cycle : List HdmiThread :=
  List.replicate 4 .caller++List.replicate 2 (.worker .record)++
    List.replicate 2 (.worker .playback)++List.replicate 5 .caller++
    [.worker .record,.worker .playback,.worker .playback,.caller,.caller]

/-- A start(), and a stop() that goes on where only the playback thread has come so far. -/
def hasty : List HdmiThread :=
  List.replicate 4 .caller++List.replicate 2 (.worker .playback)++List.replicate 3 .caller

theorem handshake_until_stopped_first : ∃ s,Run (Guarded Stopless Step) start
    (cycle.take 11) s ∧ s.caller=.clear .record ∧ s.Handshake := by
  obtain ⟨s,run,clears⟩ := Run.of_exec_guarded (f := perform) (G := Stopless)
    (p := fun s => decide (s.caller=.clear .record)) start (cycle.take 11) (fun _ _ _ h => h)
    (by decide)
  exact ⟨s,run,of_decide_eq_true clears,(handshake_until_stopped run).1⟩

/-- With the third permit one of the two releases is enough for the acquire. -/
theorem second_stop_hasty : ∃ s,Run Step start (cycle++hasty) s ∧ s.caller=.clear .record ∧
    s.thread .record=.setRunning := by
  obtain ⟨s,run,early⟩ := Run.of_exec_any (f := perform)
    (p := fun s => decide (s.caller=.clear .record ∧ s.thread .record=.setRunning)) start
    (cycle++hasty) (fun _ _ _ h => h) (by decide)
  exact ⟨s,run,of_decide_eq_true early⟩

theorem handshake_broken : ¬∀ labels s,Run Step start labels s → s.Handshake := by
  intro supposed
  obtain ⟨s,run,clears,late⟩ := second_stop_hasty
  have set := (supposed _ s run).clears .record clears .record
  rw [late] at set
  cases set

end HdmiAudio

end IotMedia.Qmedia

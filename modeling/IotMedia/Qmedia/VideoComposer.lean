import IotMedia.Framework.CheckedCounter
import IotMedia.Framework.MachineInt
import IotMedia.Framework.Run
import Mathlib.Logic.Function.Basic
import Mathlib.Tactic.Ring

namespace IotMedia.Qmedia

open IotMedia.Framework

/-- What CompositionThread does next: look for a frame of an input, take it out of the count, update
the texture, or draw what the inputs show. -/
inductive CompositionPoint
  | waitFrame (input : Nat)
  | decrementAndGet (input : Nat)
  | updateTexImage (input : Nat) (count : Int)
  | drawFrame
  deriving DecidableEq

/-- The next input of the loop over mInputSurface, if there is one. -/
def CompositionPoint.next (mInstances input : Nat) : CompositionPoint :=
  if input < mInstances then .waitFrame input else .drawFrame

/-- A frame put out, with the updates that each input's texture had seen by then, and the frames that
had been signalled to it when the loop over the inputs began. -/
structure ComposedFrame where
  presentationTime : Int
  updated : Nat → Nat
  signalled : Nat → Nat

/-- The composition thread and the threads that tell the inputs of new frames. -/
structure VideoComposer (T : Type) where
  mInstances : Nat
  mOutputFrameInterval : Int
  mOutputTimestamp : Int := 0
  /-- The count of each input's FrameSync. -/
  mFrameSync : Nat → CheckedCounter Unit Unit := fun _ => {}
  /-- The input whose notifyFrame the thread is in. -/
  notifying : T → Option Nat := fun _ => none
  point : CompositionPoint := .next mInstances 0
  signalled : Nat → Nat := fun _ => 0
  updated : Nat → Nat := fun _ => 0
  /-- What had been signalled when the loop over the inputs began. -/
  passBegan : Nat → Nat := fun _ => 0
  swapped : List ComposedFrame := []

inductive ComposerLabel
  | onFrameAvailable (input : Nat)
  | seeRoom (input : Nat)
  | incrementAndGet (input : Nat)
  | seeFrame (input : Nat)
  | decrementAndGet (input : Nat)
  | updateTexImage (input : Nat)
  | drawFrame

/-- The size that InputComposerSurface gives its FrameSync. -/
def mSize : Int := 10

namespace VideoComposer

variable {T : Type} [DecidableEq T]

def sync (v : VideoComposer T) (input : Nat) (s : CheckedCounter Unit Unit) :
    Nat → CheckedCounter Unit Unit := Function.update v.mFrameSync input s

/-- The frames of an input are signalled by one thread, `owner` says which. A look that does not
find what it looks for is repeated after a wait, and changes nothing. drawFrame needs the first
input's texture. -/
inductive Step (owner : Nat → T) : VideoComposer T → ComposerLabel → VideoComposer T → Prop
  | onFrameAvailable {v : VideoComposer T} {i : Nat} (input : i<v.mInstances)
      (free : v.notifying (owner i)=none) :
    Step owner v (.onFrameAvailable i)
      { v with notifying := Function.update v.notifying (owner i) (some i) }
  | seeRoom {v : VideoComposer T} {i : Nat} (called : v.notifying (owner i)=some i)
      (before : ()∉(v.mFrameSync i).raising) (room : (v.mFrameSync i).count < mSize) :
    Step owner v (.seeRoom i) { v with mFrameSync := v.sync i ((v.mFrameSync i).seeRoom ()) }
  | incrementAndGet {v : VideoComposer T} {i : Nat} (called : v.notifying (owner i)=some i)
      (seen : ()∈(v.mFrameSync i).raising) :
    Step owner v (.incrementAndGet i)
      { v with
        mFrameSync := v.sync i ((v.mFrameSync i).raise ())
        notifying := Function.update v.notifying (owner i) none
        signalled := Function.update v.signalled i (v.signalled i+1) }
  | seeFrame {v : VideoComposer T} {i : Nat} (at_ : v.point=.waitFrame i)
      (frame : 0<(v.mFrameSync i).count) :
    Step owner v (.seeFrame i)
      { v with
        mFrameSync := v.sync i ((v.mFrameSync i).seeSome ())
        point := .decrementAndGet i }
  | decrementAndGet {v : VideoComposer T} {i : Nat} (at_ : v.point=.decrementAndGet i) :
    Step owner v (.decrementAndGet i)
      { v with
        mFrameSync := v.sync i ((v.mFrameSync i).lower ())
        point := .updateTexImage i ((v.mFrameSync i).count-1) }
  | updateTexImage {v : VideoComposer T} {i : Nat} {count : Int}
      (at_ : v.point=.updateTexImage i count) :
    Step owner v (.updateTexImage i)
      { v with
        updated := Function.update v.updated i (v.updated i+1)
        point :=
          -- awaitFrame goes on while frames are left; where it fails the loop is left
          if 0<count then .waitFrame i
          else if 0 ≤ count then .next v.mInstances (i+1)
          else .drawFrame }
  | drawFrame {v : VideoComposer T} (at_ : v.point=.drawFrame) (first : 0<v.mInstances) :
    Step owner v .drawFrame
      { v with
        swapped := v.swapped++[⟨v.mOutputTimestamp,v.updated,v.passBegan⟩]
        mOutputTimestamp := IntType.i64.cast (v.mOutputTimestamp+v.mOutputFrameInterval)
        passBegan := v.signalled
        point := .next v.mInstances 0 }

/-- The inputs have been added, and no frame has come. -/
def begin (mInstances : Nat) (mOutputFrameInterval : Int) : VideoComposer T where
  mInstances := mInstances
  mOutputFrameInterval := mOutputFrameInterval

/-- What the frame before the `k`-th shows; before the first, nothing. -/
def shownBefore (swapped : List ComposedFrame) (k input : Nat) : Nat :=
  match k with
  | 0 => 0
  | k+1 => (swapped[k]?.map fun f => f.updated input).getD 0

/-- The output frames are evenly timed, in a long, and each shows a new frame of every input, and all
that were signalled before its loop over the inputs. -/
def Composed (v : VideoComposer T) : Prop :=
  ∀ (k : Nat) f,v.swapped[k]?=some f →
    f.presentationTime=IntType.i64.cast (k*v.mOutputFrameInterval) ∧
    ∀ i,i<v.mInstances → shownBefore v.swapped k i<f.updated i ∧ f.signalled i ≤ f.updated i

end VideoComposer

namespace CompositionPoint

/-- The inputs before it have been updated in this loop. -/
def reached (mInstances : Nat) : CompositionPoint → Nat
  | .waitFrame i | .decrementAndGet i | .updateTexImage i _ => i
  | .drawFrame => mInstances

/-- The input whose frame has left the count and has not come to the texture. -/
@[simp] def updating : CompositionPoint → Option Nat
  | .updateTexImage i _ => some i
  | .waitFrame _ | .decrementAndGet _ | .drawFrame => none

@[simp] def lowering : CompositionPoint → Option Nat
  | .decrementAndGet i => some i
  | .waitFrame _ | .updateTexImage _ _ | .drawFrame => none

theorem next_reached {mInstances input : Nat} (within : input ≤ mInstances) :
    (next mInstances input).reached mInstances=input := by
  unfold next
  split_ifs with h
  · rfl
  · exact within.antisymm' (by simpa using h)

theorem next_updating (mInstances input : Nat) : (next mInstances input).updating=none := by
  unfold next
  split_ifs <;> rfl

theorem next_lowering (mInstances input : Nat) : (next mInstances input).lowering=none := by
  unfold next
  split_ifs <;> rfl

theorem next_input {mInstances input j : Nat}
    (at_ : next mInstances input=.waitFrame j ∨ next mInstances input=.decrementAndGet j) :
    j < mInstances := by
  unfold next at at_
  split_ifs at at_ with h
  · rcases at_ with at_|at_
    · cases at_
      exact h
    · cases at_
  · rcases at_ with at_|at_ <;> cases at_

theorem next_ne_update (mInstances input j : Nat) (count : Int) :
    next mInstances input≠.updateTexImage j count := by
  unfold next
  split_ifs <;> simp

end CompositionPoint

namespace VideoComposer

variable {T : Type} [DecidableEq T]

/-- Each input's count is what was signalled and not taken, and bounded on both sides. -/
structure Counts (v : VideoComposer T) : Prop where
  room : ∀ i,(v.mFrameSync i).RoomBound mSize
  some_ : ∀ i,(v.mFrameSync i).SomeBound
  lowering : ∀ i,()∈(v.mFrameSync i).lowering ↔ v.point.lowering=some i
  counted : ∀ i,(v.mFrameSync i).count+v.updated i+(if v.point.updating=some i then 1 else 0)=
    v.signalled i

variable {owner : Nat → T} {v w : VideoComposer T} {l : ComposerLabel} {i : Nat}

omit [DecidableEq T] in
theorem sync_other {s : CheckedCounter Unit Unit} {j : Nat} (other : j≠i) :
    v.sync i s j=v.mFrameSync j := by
  rw [sync,Function.update_of_ne other]

omit [DecidableEq T] in
@[simp] theorem sync_self {s : CheckedCounter Unit Unit} : v.sync i s i=s := by
  rw [sync,Function.update_self]

omit [DecidableEq T] in
/-- A step of one input's FrameSync keeps the bounds of all. -/
theorem Counts.bounds {s : CheckedCounter Unit Unit} {cl : CounterLabel Unit Unit} (h : v.Counts)
    (step : CheckedCounter.Step mSize (v.mFrameSync i) cl s) (j : Nat) :
    (v.sync i s j).RoomBound mSize ∧ (v.sync i s j).SomeBound := by
  by_cases same : j=i
  · subst same
    rw [sync_self]
    exact ⟨(h.room j).step step,(h.some_ j).step step⟩
  · rw [sync_other same]
    exact ⟨h.room j,h.some_ j⟩

theorem Counts.step (h : v.Counts) (step : Step owner v l w) : w.Counts := by
  obtain ⟨room,some_,lowering,counted⟩ := h
  have before : v.Counts := ⟨room,some_,lowering,counted⟩
  cases step with
  | onFrameAvailable input free => exact ⟨room,some_,lowering,counted⟩
  | @seeRoom i called fresh below =>
    have bounds := before.bounds (.seeRoom below fresh)
    refine ⟨fun j => (bounds j).1,fun j => (bounds j).2,fun j => ?_,fun j => ?_⟩
    · by_cases same : j=i
      · subst same
        simpa [CheckedCounter.seeRoom] using lowering j
      · simpa [sync_other same] using lowering j
    · by_cases same : j=i
      · subst same
        simpa [CheckedCounter.seeRoom] using counted j
      · simpa [sync_other same] using counted j
  | @incrementAndGet i called seen =>
    have bounds := before.bounds (.raise seen)
    refine ⟨fun j => (bounds j).1,fun j => (bounds j).2,fun j => ?_,fun j => ?_⟩
    · by_cases same : j=i
      · subst same
        simpa [CheckedCounter.raise] using lowering j
      · simpa [sync_other same] using lowering j
    · have now := counted j
      by_cases same : j=i
      · subst same
        simp only [sync_self,CheckedCounter.raise,Function.update_self]
        push_cast
        omega
      · simpa [sync_other same,same] using now
  | @seeFrame i at_ frame =>
    have fresh : ()∉(v.mFrameSync i).lowering := by simp [lowering,at_]
    have bounds := before.bounds (.seeSome frame fresh)
    refine ⟨fun j => (bounds j).1,fun j => (bounds j).2,fun j => ?_,fun j => ?_⟩
    · by_cases same : j=i
      · subst same
        simp [CheckedCounter.seeSome]
      · have now := lowering j
        simp only [at_] at now
        simpa [sync_other same,Ne.symm same] using now
    · have now := counted j
      simp only [at_] at now
      by_cases same : j=i
      · subst same
        simpa [CheckedCounter.seeSome] using now
      · simpa [sync_other same] using now
  | @decrementAndGet i at_ =>
    have seen : ()∈(v.mFrameSync i).lowering := by simp [lowering,at_]
    have bounds := before.bounds (.lower seen)
    refine ⟨fun j => (bounds j).1,fun j => (bounds j).2,fun j => ?_,fun j => ?_⟩
    · by_cases same : j=i
      · subst same
        simp [CheckedCounter.lower]
      · have now := lowering j
        simp only [at_] at now
        simpa [sync_other same,Ne.symm same] using now
    · have now := counted j
      simp only [at_] at now
      by_cases same : j=i
      · subst same
        simp only [sync_self,CheckedCounter.lower,CompositionPoint.updating]
        simp at now ⊢
        omega
      · simpa [sync_other same,Ne.symm same] using now
  | @updateTexImage i count at_ =>
    have point : ∀ p : CompositionPoint,p=(if 0<count then .waitFrame i
        else if 0 ≤ count then .next v.mInstances (i+1) else .drawFrame) →
        p.lowering=none ∧ p.updating=none := by
      rintro p rfl
      split_ifs
      · exact ⟨rfl,rfl⟩
      · exact ⟨CompositionPoint.next_lowering _ _,CompositionPoint.next_updating _ _⟩
      · exact ⟨rfl,rfl⟩
    obtain ⟨noLowering,noUpdating⟩ := point _ rfl
    refine ⟨room,some_,fun j => ?_,fun j => ?_⟩
    · have now := lowering j
      rw [noLowering]
      simpa [at_] using now
    · have now := counted j
      simp only [at_,CompositionPoint.updating] at now
      simp only [noUpdating]
      by_cases same : j=i
      · subst same
        simp at now ⊢
        omega
      · simpa [same,Ne.symm same] using now
  | drawFrame at_ first =>
    refine ⟨room,some_,fun j => ?_,fun j => ?_⟩
    · rw [CompositionPoint.next_lowering]
      simpa [at_] using lowering j
    · rw [CompositionPoint.next_updating]
      simpa [at_] using counted j

omit [DecidableEq T] in
/-- The composition thread never finds a count below what it is about to take. -/
theorem Counts.taken_le (h : v.Counts) (i : Nat) :
    (if v.point.lowering=some i then 1 else 0) ≤ (v.mFrameSync i).count := by
  have bound := (h.some_ i).single rfl
  split_ifs with at_
  · have seen := (h.lowering i).mpr at_
    have one : 0<(v.mFrameSync i).lowering.card := Finset.card_pos.mpr ⟨(),seen⟩
    omega
  · omega

omit [DecidableEq T] in
theorem Counts.count_le (h : v.Counts) (i : Nat) : (v.mFrameSync i).count ≤ mSize := by
  have bound := h.room i
  unfold CheckedCounter.RoomBound at bound
  simp only [Fintype.card_unit] at bound
  omega

/-- The inputs that a loop has behind it show a new frame, and all that were signalled when it began;
the frame that is being taken is the last of them or others are left behind it. -/
structure Fresh (v : VideoComposer T) : Prop where
  within : v.point.reached v.mInstances ≤ v.mInstances
  passed : ∀ j,j<v.point.reached v.mInstances →
    shownBefore v.swapped v.swapped.length j<v.updated j ∧ v.passBegan j ≤ v.updated j
  shown : ∀ j,shownBefore v.swapped v.swapped.length j ≤ v.updated j
  began : ∀ j,v.passBegan j ≤ v.signalled j
  taking : ∀ i count,v.point=.updateTexImage i count →
    i<v.mInstances ∧ 0 ≤ count ∧ (v.passBegan i : Int) ≤ count+v.updated i+1
  input : ∀ i,v.point=.waitFrame i ∨ v.point=.decrementAndGet i → i<v.mInstances
  clock : v.mOutputTimestamp=IntType.i64.cast (v.swapped.length*v.mOutputFrameInterval)

theorem shownBefore_last (swapped : List ComposedFrame) (f : ComposedFrame) (i : Nat) :
    shownBefore (swapped++[f]) (swapped++[f]).length i=f.updated i := by
  simp [shownBefore]

theorem shownBefore_old {swapped : List ComposedFrame} {f : ComposedFrame} {k i : Nat}
    (old : k ≤ swapped.length) : shownBefore (swapped++[f]) k i=shownBefore swapped k i := by
  cases k with
  | zero => rfl
  | succ k =>
    have inside : k<swapped.length := by omega
    simp only [shownBefore,List.getElem?_append_left inside]

/-- What the loop has taken out of the count is behind it, or the frame being taken. -/
theorem Fresh.decrementAndGet {i : Nat} (counts : v.Counts) (h : v.Fresh)
    (step : Step owner v (.decrementAndGet i) w) : w.Fresh := by
  obtain ⟨within,passed,shown,began,taking,input,clock⟩ := h
  cases step with
  | decrementAndGet at_ =>
    have here := input i (.inr at_)
    have count := counts.counted i
    have least := counts.taken_le i
    have before := began i
    simp [at_] at count least
    simp only [at_,CompositionPoint.reached] at within passed
    refine ⟨within,passed,shown,began,?_,by simp,clock⟩
    intro j c same
    cases same
    refine ⟨here,by omega,?_⟩
    show (v.passBegan i : Int) ≤ (v.mFrameSync i).count-1+v.updated i+1
    omega

/-- The texture shows one frame more; the loop goes on with what is left of the input, or with the
next one. -/
theorem Fresh.updateTexImage {i : Nat} (h : v.Fresh)
    (step : Step owner v (.updateTexImage i) w) : w.Fresh := by
  obtain ⟨within,passed,shown,began,taking,input,clock⟩ := h
  cases step with
  | @updateTexImage _ count at_ =>
    obtain ⟨here,left,all⟩ := taking i count at_
    simp only [at_,CompositionPoint.reached] at within passed
    have shown_ : ∀ j,shownBefore v.swapped v.swapped.length j≤
        Function.update v.updated i (v.updated i+1) j := by
      intro j
      have now := shown j
      by_cases same : j=i
      · subst same
        simp only [Function.update_self]
        omega
      · simpa [same] using now
    have earlier : ∀ j,j < i → shownBefore v.swapped v.swapped.length j<
        Function.update v.updated i (v.updated i+1) j ∧
        v.passBegan j ≤ Function.update v.updated i (v.updated i+1) j := by
      intro j before
      simpa [before.ne] using passed j before
    by_cases more : 0<count
    · simp only [more,if_true]
      exact ⟨within,earlier,shown_,began,by simp,by simpa using here,clock⟩
    · simp only [more,if_false,left,if_true]
      have reached := CompositionPoint.next_reached (Nat.succ_le_of_lt here)
      refine ⟨by rw [reached]; exact here,?_,shown_,began,?_,?_,clock⟩
      · intro j before
        rw [reached] at before
        by_cases same : j=i
        · subst same
          have now := shown j
          simp only [Function.update_self]
          omega
        · exact earlier j (by omega)
      · exact fun j c at_ => absurd at_ (CompositionPoint.next_ne_update _ _ j c)
      · exact fun j at_ => CompositionPoint.next_input at_

theorem Fresh.drawFrame (h : v.Fresh) (step : Step owner v .drawFrame w) : w.Fresh := by
  obtain ⟨within,passed,shown,began,taking,input,clock⟩ := h
  cases step with
  | drawFrame at_ first =>
    have reached : (CompositionPoint.next v.mInstances 0).reached v.mInstances=0 :=
      CompositionPoint.next_reached (Nat.zero_le _)
    refine ⟨by rw [reached]; exact Nat.zero_le _,fun j before => ?_,fun j => ?_,fun j => le_rfl,
      ?_,?_,?_⟩
    · rw [reached] at before
      omega
    · rw [shownBefore_last]
    · exact fun j c at_ => absurd at_ (CompositionPoint.next_ne_update _ _ j c)
    · exact fun j at_ => CompositionPoint.next_input at_
    · have next : ((v.swapped.length+1 : Nat) : Int)*v.mOutputFrameInterval=
          v.swapped.length*v.mOutputFrameInterval+v.mOutputFrameInterval := by
        push_cast
        ring
      show IntType.i64.cast (v.mOutputTimestamp+v.mOutputFrameInterval)=_
      rw [clock,IntType.cast_add_cast,List.length_append,List.length_singleton,next]

theorem Fresh.step (counts : v.Counts) (fresh : v.Fresh) (step : Step owner v l w) :
    w.Fresh := by
  have ⟨within,passed,shown,began,taking,input,clock⟩ := fresh
  have taken := step
  cases step with
  | onFrameAvailable | seeRoom => exact ⟨within,passed,shown,began,taking,input,clock⟩
  | @incrementAndGet i called seen =>
    refine ⟨within,passed,shown,fun j => ?_,taking,input,clock⟩
    have now := began j
    by_cases same : j=i
    · subst same
      simp only [Function.update_self]
      omega
    · simpa [same] using now
  | @seeFrame i at_ frame =>
    have here := input i (.inl at_)
    simp only [at_,CompositionPoint.reached] at within passed
    refine ⟨within,passed,shown,began,by simp,?_,clock⟩
    simpa using here
  | decrementAndGet => exact fresh.decrementAndGet counts taken
  | updateTexImage => exact fresh.updateTexImage taken
  | drawFrame => exact fresh.drawFrame taken

theorem Composed.step (fresh : v.Fresh) (h : v.Composed) (step : Step owner v l w) :
    w.Composed := by
  cases step with
  | drawFrame at_ first =>
    intro k f there
    by_cases old : k<v.swapped.length
    · rw [List.getElem?_append_left old] at there
      obtain ⟨time,frames⟩ := h k f there
      refine ⟨time,fun i inside => ?_⟩
      rw [shownBefore_old old.le]
      exact frames i inside
    · obtain rfl : k=v.swapped.length := by
        have bound := (List.getElem?_eq_some_iff.mp there).1
        rw [List.length_append,List.length_singleton] at bound
        omega
      rw [List.getElem?_append_right le_rfl,Nat.sub_self] at there
      cases Option.some.inj there
      refine ⟨fresh.clock,fun i inside => ?_⟩
      rw [shownBefore_old le_rfl]
      exact fresh.passed i (by rw [at_]; exact inside)
  | _ => exact h

omit [DecidableEq T] in
theorem begin_point (mInstances : Nat) (mOutputFrameInterval : Int) :
    (begin (T := T) mInstances mOutputFrameInterval).point=.next mInstances 0 := rfl

omit [DecidableEq T] in
theorem begin_counts (mInstances : Nat) (mOutputFrameInterval : Int) :
    (begin (T := T) mInstances mOutputFrameInterval).Counts := by
  refine ⟨fun i => ?_,fun i => ?_,fun i => ?_,fun i => ?_⟩
  · exact CheckedCounter.roomBound_start (by decide)
  · exact CheckedCounter.someBound_start
  · rw [begin_point,CompositionPoint.next_lowering]
    simp [begin]
  · rw [begin_point,CompositionPoint.next_updating]
    simp [begin]

omit [DecidableEq T] in
theorem begin_fresh (mInstances : Nat) (mOutputFrameInterval : Int) :
    (begin (T := T) mInstances mOutputFrameInterval).Fresh := by
  have reached : (CompositionPoint.next mInstances 0).reached mInstances=0 :=
    CompositionPoint.next_reached (Nat.zero_le _)
  refine ⟨reached.trans_le (Nat.zero_le _),fun j before => ?_,fun j => le_rfl,fun j => le_rfl,
    fun j c at_ => absurd at_ (CompositionPoint.next_ne_update _ _ j c),
    fun j at_ => CompositionPoint.next_input at_,by simp [begin]; rfl⟩
  exact absurd (reached ▸ before) (Nat.not_lt_zero j)

/-- What every state of a run meets. -/
structure Sound (v : VideoComposer T) : Prop where
  counts : v.Counts
  fresh : v.Fresh
  composed : v.Composed

theorem sound_of_run {mInstances : Nat} {mOutputFrameInterval : Int} {labels : List ComposerLabel}
    (hr : Run (Step owner) (begin mInstances mOutputFrameInterval) labels v) :
    v.Sound ∧ v.mInstances=mInstances ∧ v.mOutputFrameInterval=mOutputFrameInterval := by
  refine hr.invariant (P := fun v => v.Sound ∧ v.mInstances=mInstances ∧
    v.mOutputFrameInterval=mOutputFrameInterval) ?_ ?_
  · rintro v l w ⟨⟨counts,fresh,composed⟩,instances,interval⟩ step
    refine ⟨⟨counts.step step,fresh.step counts step,composed.step fresh step⟩,?_,?_⟩
    · rw [← instances]
      cases step <;> rfl
    · rw [← interval]
      cases step <;> rfl
  · exact ⟨⟨begin_counts _ _,begin_fresh _ _,fun k f there => by simp [begin] at there⟩,rfl,rfl⟩

/-- However frames come in, the `k`-th output frame is presented at `k` intervals, as far as a long
goes, shows of every input a frame that the one before did not, and everything that was signalled
before its loop over the inputs began. A texture is updated only for a frame that was signalled; the
count of no input ever leaves 0..10, so that awaitFrame never fails. -/
theorem composed_frames {mInstances : Nat} {mOutputFrameInterval : Int}
    {labels : List ComposerLabel}
    (hr : Run (Step owner) (begin mInstances mOutputFrameInterval) labels v) :
    (∀ (k : Nat) f,v.swapped[k]?=some f →
      f.presentationTime=IntType.i64.cast (k*mOutputFrameInterval) ∧
      ∀ i,i < mInstances → shownBefore v.swapped k i<f.updated i ∧ f.signalled i ≤ f.updated i) ∧
    (∀ i,v.updated i ≤ v.signalled i ∧ 0 ≤ (v.mFrameSync i).count ∧
      (v.mFrameSync i).count ≤ mSize) ∧
    ∀ i count,v.point=.updateTexImage i count → 0 ≤ count := by
  obtain ⟨⟨counts,fresh,composed⟩,rfl,rfl⟩ := sound_of_run hr
  refine ⟨composed,fun i => ?_,fun i count at_ => (fresh.taking i count at_).2.1⟩
  have counted := counts.counted i
  have least := counts.taken_le i
  have nonneg : 0 ≤ (v.mFrameSync i).count := by
    split_ifs at least <;> omega
  refine ⟨?_,nonneg,counts.count_le i⟩
  split_ifs at counted <;> omega

/-- A frame comes for the one input of a composer at 30 frames a second, and is drawn. The
interval is that of 1.0E9F / 30, in which a float rounds up. -/
theorem composed_frames_first : ∃ v : VideoComposer Unit,v.swapped.length=1 ∧
    ∀ (k : Nat) f,v.swapped[k]?=some f → f.presentationTime=IntType.i64.cast (k*33333334) ∧
      ∀ i,i<1 → shownBefore v.swapped k i<f.updated i ∧ f.signalled i ≤ f.updated i := by
  have called := (Run.nil : Run (Step fun _ => ()) (begin 1 33333334) [] _).snoc
    (.onFrameAvailable (i := 0) (by decide) rfl)
  have seen := called.snoc (.seeRoom (i := 0) rfl (by decide) (by decide))
  have raised := seen.snoc (.incrementAndGet (i := 0) rfl (by decide))
  have found := raised.snoc (.seeFrame (i := 0) rfl (by decide))
  have taken := found.snoc (.decrementAndGet (i := 0) rfl)
  have shown := taken.snoc (.updateTexImage (i := 0) rfl)
  have drawn := shown.snoc (.drawFrame rfl (by decide))
  exact ⟨_,rfl,(composed_frames drawn).1⟩

section Waiting

/-! Whether the wait for an input's frame can be in vain. -/

/-- The composition thread stays in its wait for the input whatever happens. -/
def WaitsForever (owner : Nat → T) (v : VideoComposer T) (i : Nat) : Prop :=
  ∀ labels w,Run (Step owner) v labels w → w.point=.waitFrame i

/-- A thread is in notifyFrame of inputs that it signals, and of the one where it has seen room. -/
structure Callers (owner : Nat → T) (v : VideoComposer T) : Prop where
  called : ∀ t j,v.notifying t=some j → owner j=t ∧ j<v.mInstances
  raising : ∀ j,()∈(v.mFrameSync j).raising → v.notifying (owner j)=some j

theorem Callers.step (h : v.Callers owner) (step : Step owner v l w) : w.Callers owner := by
  obtain ⟨called,raising⟩ := h
  have same_caller {t : T} {j k : Nat} (hj : v.notifying t=some j) (hk : v.notifying t=some k) :
      j=k := Option.some.inj (hj.symm.trans hk)
  cases step with
  | @onFrameAvailable i input free =>
    refine ⟨fun t j at_ => ?_,fun j seen => ?_⟩
    · by_cases same : t=owner i
      · subst same
        simp only [Function.update_self] at at_
        cases at_
        exact ⟨rfl,input⟩
      · simp only [Function.update_of_ne same] at at_
        exact called t j at_
    · have at_ := raising j seen
      have other : owner j≠owner i := by
        intro same
        rw [same,free] at at_
        cases at_
      simp only [Function.update_of_ne other]
      exact at_
  | @seeRoom i at_ before room =>
    refine ⟨called,fun j seen => ?_⟩
    by_cases same : j=i
    · subst same
      exact at_
    · simp only [sync_other same] at seen
      exact raising j seen
  | @incrementAndGet i at_ seen =>
    refine ⟨fun t j now => ?_,fun j now => ?_⟩
    · by_cases same : t=owner i
      · subst same
        simp only [Function.update_self] at now
        cases now
      · simp only [Function.update_of_ne same] at now
        exact called t j now
    · by_cases same : j=i
      · subst same
        simp [CheckedCounter.raise] at now
      · simp only [sync_other same] at now
        have calls := raising j now
        have other : owner j≠owner i := by
          intro equal
          rw [equal] at calls
          exact same (same_caller calls at_)
        simp only [Function.update_of_ne other]
        exact calls
  | @seeFrame i at_ frame | @decrementAndGet i at_ =>
    refine ⟨called,fun j seen => ?_⟩
    by_cases same : j=i
    · subst same
      exact raising j (by simpa [CheckedCounter.seeSome,CheckedCounter.lower] using seen)
    · simp only [sync_other same] at seen
      exact raising j seen
  | updateTexImage | drawFrame => exact ⟨called,raising⟩

theorem callers_of_run {mInstances : Nat} {mOutputFrameInterval : Int} {labels : List ComposerLabel}
    (hr : Run (Step owner) (begin mInstances mOutputFrameInterval) labels v) : v.Callers owner := by
  refine hr.invariant (fun _ _ _ h step => h.step step) ⟨fun t j at_ => ?_,fun j seen => ?_⟩
  · cases at_
  · simp [begin] at seen

/-- A thread that has seen room lets the composition thread go on. -/
theorem goes_on_raising (at_ : v.point=.waitFrame i) (called : v.notifying (owner i)=some i)
    (seen : ()∈(v.mFrameSync i).raising) (nonneg : 0 ≤ (v.mFrameSync i).count) :
    ∃ labels w,Run (Step owner) v labels w ∧ w.point=.decrementAndGet i := by
  have first := (Run.nil : Run (Step owner) v [] v).snoc (.incrementAndGet called seen)
  have second := first.snoc (.seeFrame at_ (by simp [CheckedCounter.raise]; omega))
  exact ⟨_,_,second,rfl⟩

theorem goes_on_calling (at_ : v.point=.waitFrame i) (called : v.notifying (owner i)=some i)
    (nonneg : 0 ≤ (v.mFrameSync i).count) (room : (v.mFrameSync i).count < mSize) :
    ∃ labels w,Run (Step owner) v labels w ∧ w.point=.decrementAndGet i := by
  by_cases seen : ()∈(v.mFrameSync i).raising
  · exact goes_on_raising at_ called seen nonneg
  · have first := (Run.nil : Run (Step owner) v [] v).snoc (.seeRoom called seen room)
    obtain ⟨labels,w,rest,there⟩ := goes_on_raising (v := { v with
      mFrameSync := v.sync i ((v.mFrameSync i).seeRoom ()) }) at_ called
      (by simp [CheckedCounter.seeRoom]) (by simpa [CheckedCounter.seeRoom] using nonneg)
    exact ⟨_,w,first.append rest,there⟩

/-- A thread that signals one input only does not keep the composition thread waiting. -/
theorem goes_on (callers : v.Callers owner) (at_ : v.point=.waitFrame i) (inside : i<v.mInstances)
    (own : ∀ j,j<v.mInstances → owner j=owner i → j=i) (nonneg : 0 ≤ (v.mFrameSync i).count)
    (empty : (v.mFrameSync i).count ≤ 0) :
    ∃ labels w,Run (Step owner) v labels w ∧ w.point=.decrementAndGet i := by
  have room : (v.mFrameSync i).count < mSize := empty.trans_lt (by decide)
  cases called : v.notifying (owner i) with
  | none =>
    have first := (Run.nil : Run (Step owner) v [] v).snoc (.onFrameAvailable inside called)
    obtain ⟨labels,w,rest,there⟩ := goes_on_calling (v := { v with
      notifying := Function.update v.notifying (owner i) (some i) }) at_
      (Function.update_self (owner i) _ _) nonneg room
    exact ⟨_,w,first.append rest,there⟩
  | some j =>
    obtain ⟨same,inside_⟩ := callers.called _ j called
    obtain rfl := own j inside_ same
    exact goes_on_calling at_ called nonneg room

/-- The thread that signals input `i` is kept in notifyFrame of the full input `j`. -/
structure Blocked (owner : Nat → T) (i j : Nat) (v : VideoComposer T) : Prop where
  point : v.point=.waitFrame i
  empty : (v.mFrameSync i).count ≤ 0
  called : v.notifying (owner i)=some j
  full : mSize ≤ (v.mFrameSync j).count
  before : ()∉(v.mFrameSync j).raising
  shared : owner j=owner i

theorem Blocked.step {j : Nat} (h : Blocked owner i j v) (step : Step owner v l w) :
    Blocked owner i j w := by
  obtain ⟨point,empty,called,full,before,shared⟩ := h
  -- another input that a thread works on is signalled by another thread
  have apart {k : Nat} (at_ : v.notifying (owner k)=some k) (other : k≠j) : owner k≠owner i := by
    intro same
    rw [same,called] at at_
    exact other (Option.some.inj at_).symm
  cases step with
  | @onFrameAvailable k input free =>
    have other : owner i≠owner k := by
      intro same
      rw [← same,called] at free
      cases free
    exact ⟨point,empty,by simpa only [Function.update_of_ne other] using called,full,before,shared⟩
  | @seeRoom k at_ fresh room =>
    have other : k≠j := by
      rintro rfl
      omega
    have different : i≠k := by
      rintro rfl
      exact apart at_ other rfl
    refine ⟨point,?_,called,?_,?_,shared⟩
    · simpa only [sync_other different] using empty
    · simpa only [sync_other other.symm] using full
    · simpa only [sync_other other.symm] using before
  | @incrementAndGet k at_ seen =>
    have other : k≠j := by
      rintro rfl
      exact before seen
    have different : i≠k := by
      rintro rfl
      exact apart at_ other rfl
    refine ⟨point,?_,?_,?_,?_,shared⟩
    · simpa only [sync_other different] using empty
    · simpa only [Function.update_of_ne (apart at_ other).symm] using called
    · simpa only [sync_other other.symm] using full
    · simpa only [sync_other other.symm] using before
  | @seeFrame k at_ frame =>
    cases at_.symm.trans point
    omega
  | decrementAndGet at_ | updateTexImage at_ | drawFrame at_ => cases at_.symm.trans point

theorem Blocked.forever {j : Nat} (h : Blocked owner i j v) : WaitsForever owner v i := by
  intro labels w hr
  exact (hr.invariant (P := Blocked owner i j) (fun _ _ _ h step => h.step step) h).point

/-- No thread is in notifyFrame, and no frame is left. -/
structure Idle (v : VideoComposer T) : Prop where
  free : ∀ t,v.notifying t=none
  empty : ∀ k,v.mFrameSync k={}

/-- One frame comes in for the input and is taken. -/
theorem Idle.round (owner : Nat → T) (idle : v.Idle) (at_ : v.point=.waitFrame i)
    (inside : i<v.mInstances) :
    ∃ labels w,Run (Step owner) v labels w ∧ w.Idle ∧ w.mInstances=v.mInstances ∧
      w.point=.next v.mInstances (i+1) := by
  have empty := idle.empty i
  have called := (Run.nil : Run (Step owner) v [] v).snoc (.onFrameAvailable inside (idle.free _))
  have seen := called.snoc (.seeRoom (i := i) (Function.update_self _ _ _) (by simp [empty])
    (by simp [empty,mSize]))
  have raised := seen.snoc (.incrementAndGet (i := i) (Function.update_self _ _ _)
    (by simp [CheckedCounter.seeRoom]))
  have found := raised.snoc (.seeFrame (i := i) at_
    (by simp [CheckedCounter.raise,CheckedCounter.seeRoom,empty]))
  have taken := found.snoc (.decrementAndGet (i := i) rfl)
  have shown := taken.snoc (.updateTexImage (i := i) rfl)
  refine ⟨_,_,shown,⟨fun t => ?_,fun k => ?_⟩,rfl,?_⟩
  · by_cases same : t=owner i
    · simp [same]
    · simp [same,idle.free t]
  · by_cases same : k=i
    · subst same
      simp [CheckedCounter.lower,CheckedCounter.seeSome,CheckedCounter.raise,CheckedCounter.seeRoom,
        empty]
    · simp [sync_other same,idle.empty k]
  · simp [CheckedCounter.seeSome,CheckedCounter.raise,CheckedCounter.seeRoom,empty]

/-- Frame by frame the composition thread comes to each input. -/
theorem reaches_input (owner : Nat → T) (mInstances : Nat) (mOutputFrameInterval : Int)
    (inside : i < mInstances) :
    ∃ labels w,Run (Step owner) (begin mInstances mOutputFrameInterval) labels w ∧ w.Idle ∧
      w.mInstances=mInstances ∧ w.point=.waitFrame i := by
  induction i with
  | zero =>
    refine ⟨[],_,.nil,⟨fun _ => rfl,fun _ => rfl⟩,rfl,?_⟩
    rw [begin_point,CompositionPoint.next,if_pos inside]
  | succ i ih =>
    obtain ⟨labels,v,before,idle,instances,at_⟩ := ih (Nat.lt_of_succ_lt inside)
    obtain ⟨more,w,round,idle_,same,next⟩ := idle.round owner at_
      (by rw [instances]; exact Nat.lt_of_succ_lt inside)
    refine ⟨_,w,before.append round,idle_,same.trans instances,?_⟩
    rw [next,instances,CompositionPoint.next,if_pos inside]

/-- Frames come in for another input until its count is full. -/
theorem fills (owner : Nat → T) {j : Nat} (idle : v.Idle) (at_ : v.point=.waitFrame i) (other : i≠j)
    (inside : j<v.mInstances) (c : Nat) (fits : (c : Int) ≤ mSize) :
    ∃ labels w,Run (Step owner) v labels w ∧ (∀ t,w.notifying t=none) ∧
      w.mFrameSync i={} ∧ w.mFrameSync j={ count := c } ∧ w.point=.waitFrame i ∧
      w.mInstances=v.mInstances := by
  induction c with
  | zero => exact ⟨[],v,.nil,idle.free,idle.empty i,idle.empty j,at_,rfl⟩
  | succ c ih =>
    obtain ⟨labels,w,before,free,empty,count,point,instances⟩ := ih (by push_cast at fits; omega)
    have called := before.snoc
      (.onFrameAvailable (i := j) (by rw [instances]; exact inside) (free _))
    have seen := called.snoc (.seeRoom (i := j) (Function.update_self _ _ _) (by simp [count])
      (by simp only [count]; push_cast at fits; omega))
    have raised := seen.snoc (.incrementAndGet (i := j) (Function.update_self _ _ _)
      (by simp [CheckedCounter.seeRoom]))
    refine ⟨_,_,raised,fun t => ?_,?_,?_,point,instances⟩
    · by_cases same : t=owner j
      · simp [same]
      · simp [same,free t]
    · simpa only [sync_other other] using empty
    · simp [CheckedCounter.raise,CheckedCounter.seeRoom,count]

/-- A thread that signals two inputs can keep the composition thread waiting for one of them. -/
theorem shared_blocks {mInstances : Nat} (mOutputFrameInterval : Int) {j : Nat}
    (inside : i < mInstances) (inside' : j < mInstances) (other : i≠j) (shared : owner i=owner j) :
    ∃ labels w,Run (Step owner) (begin mInstances mOutputFrameInterval) labels w ∧
      WaitsForever owner w i := by
  obtain ⟨labels,v,before,idle,rfl,at_⟩ := reaches_input owner mInstances
    mOutputFrameInterval inside
  obtain ⟨more,w,filled,free,empty,full,point,instances⟩ := fills owner idle at_ other
    inside' 10 le_rfl
  have called := (before.append filled).snoc
    (.onFrameAvailable (i := j) (by rw [instances]; exact inside') (free _))
  refine ⟨_,_,called,Blocked.forever (j := j) ⟨point,?_,?_,?_,?_,shared.symm⟩⟩
  · rw [empty]
  · rw [shared]
    exact Function.update_self _ _ _
  · rw [full]
    exact le_rfl
  · simp [full]

/-- The composition thread can come to wait for an input for ever exactly if one thread signals two
inputs: it may be held up at one of them that is full while the other has no frame. -/
theorem waits_forever_iff (owner : Nat → T) (mInstances : Nat) (mOutputFrameInterval : Int) :
    (∃ labels v i,Run (Step owner) (begin mInstances mOutputFrameInterval) labels v ∧
      WaitsForever owner v i) ↔
    ∃ i j,i < mInstances ∧ j < mInstances ∧ i≠j ∧ owner i=owner j := by
  constructor
  · rintro ⟨labels,v,i,hr,forever⟩
    by_contra none
    obtain ⟨sound,rfl,-⟩ := sound_of_run hr
    have at_ := forever [] v .nil
    have inside := sound.fresh.input i (.inl at_)
    have least := sound.counts.taken_le i
    rw [at_] at least
    by_cases frame : 0<(v.mFrameSync i).count
    · have goes : Run (Step owner) v [.seeFrame i] _ := .snoc .nil (.seeFrame at_ frame)
      cases forever _ _ goes
    · have own : ∀ j,j<v.mInstances → owner j=owner i → j=i := by
        intro j inside_ shared
        by_contra other
        exact none ⟨j,i,inside_,inside,other,shared⟩
      obtain ⟨more,w,goes,there⟩ := goes_on (callers_of_run hr) at_ inside own
        (by simpa using least) (by omega)
      cases there.symm.trans (forever _ _ goes)
  · rintro ⟨i,j,inside,inside',other,shared⟩
    obtain ⟨labels,w,hr,forever⟩ := shared_blocks mOutputFrameInterval inside inside' other shared
    exact ⟨labels,w,i,hr,forever⟩

end Waiting

end VideoComposer

end IotMedia.Qmedia

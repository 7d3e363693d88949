import IotMedia.Camera.InternalPause
import IotMedia.Framework.Run
import IotMedia.Framework.SharedLog

namespace IotMedia.Camera

open IotMedia.Framework

/-- The client with current_state_updates_, state_listeners_ and the calls that are in
WaitUntilStateThenRelock, each with its startIndex; `history` is all updates ever recorded. -/
structure StateWaits (M : Type) where
  client : DeviceClient M
  currentStateUpdates : List State
  stateListeners : Nat
  waiters : List (LogReader Bool)
  history : List State

/-- A call up to its wait, the recording of an update, and what a call does from the end of a wait,
whose result it is given. -/
inductive StateWaitStep
  | waitUntilStateThenRelock (active : Bool)
  | internalUpdateStatusLocked (state : State)
  | woken (i : Nat) (res : Int)

namespace StateWaits

variable {M : Type}

def Matches (active : Bool) (state : State) : Prop := active=decide (state=.RUNNING)

instance (active : Bool) (state : State) : Decidable (Matches active state) :=
  inferInstanceAs (Decidable (active=decide (state=.RUNNING)))

def internalUpdateStatusLocked (w : StateWaits M) (state : State) : StateWaits M :=
  { w with
    client := w.client.internalUpdateStatusLocked state
    currentStateUpdates := w.currentStateUpdates++[state]
    history := w.history++[state] }

/-- With the result if the call does not wait. -/
def waitUntilStateThenRelock (w : StateWaits M) (active : Bool) : StateWaits M × Option Int :=
  let updates := if w.stateListeners=0 then [] else w.currentStateUpdates
  let startIndex := if w.stateListeners=0 then 0 else w.currentStateUpdates.length
  if Matches active w.client.state then ({ w with currentStateUpdates := updates },some 0)
  else ({ w with
    currentStateUpdates := updates
    stateListeners := w.stateListeners+1
    waiters := w.waiters++[⟨active,startIndex,w.history.length⟩] },none)

def leave (w : StateWaits M) (i : Nat) : StateWaits M :=
  { w with
    stateListeners := w.stateListeners-1
    waiters := w.waiters.eraseIdx i }

def woken (w : StateWaits M) (i : Nat) (res : Int) : StateWaits M × Option Int :=
  match w.waiters[i]? with
  | none => (w,none)
  | some waiter =>
    if res≠0 then (w.leave i,some res)
    else if ∃ s∈w.currentStateUpdates.drop waiter.start,Matches waiter.label s then
      (w.leave i,some 0)
    else if Matches waiter.label w.client.state then (w.leave i,some 0)
    else (w,none)

def perform (w : StateWaits M) : StateWaitStep → StateWaits M × Option Int
  | .waitUntilStateThenRelock active => w.waitUntilStateThenRelock active
  | .internalUpdateStatusLocked state => (w.internalUpdateStatusLocked state,none)
  | .woken i res => w.woken i res

def Step (w : StateWaits M) (step : StateWaitStep) (w' : StateWaits M) : Prop :=
  w'=(w.perform step).1

structure Start (w : StateWaits M) : Prop where
  stateListeners : w.stateListeners=0
  waiters : w.waiters=[]

/-- current_state_updates_ as a log that the waiting calls read. -/
def log (w : StateWaits M) : SharedLog State Bool := ⟨w.currentStateUpdates,w.waiters,w.history⟩

/-- No transition is missed and none invented. -/
structure SeesTransitions (w : StateWaits M) : Prop where
  within : ∀ r∈w.waiters,r.start ≤ w.currentStateUpdates.length
  uncut : w.waiters≠[] → ∀ step,w.currentStateUpdates<+:(w.perform step).1.currentStateUpdates
  returned : ∀ active,(w.perform (.waitUntilStateThenRelock active)).2=some 0 →
    Matches active w.client.state
  justified : ∀ (i : Nat) r res,w.waiters[i]?=some r → (w.perform (.woken i res)).2=some 0 →
    Matches r.label w.client.state ∨ ∃ s∈w.history.drop r.since,Matches r.label s
  noticed : ∀ (i : Nat) r,w.waiters[i]?=some r → (∃ s∈w.history.drop r.since,Matches r.label s) →
    (w.perform (.woken i 0)).2=some 0

structure Inv (w : StateWaits M) : Prop where
  listeners : w.stateListeners=w.waiters.length
  sound : w.log.Sound

variable {w w' : StateWaits M}

theorem Inv.alone (hi : Inv w) : w.stateListeners=0 ↔ w.waiters=[] := by
  rw [hi.listeners,List.length_eq_zero_iff]

/-- A call that waits enters the log. -/
theorem wait_log (hi : Inv w) {active : Bool} (away : ¬Matches active w.client.state) :
    (w.waitUntilStateThenRelock active).1.log=w.log.enter active := by
  unfold waitUntilStateThenRelock
  rw [if_neg away]
  unfold SharedLog.enter
  by_cases none_ : w.waiters=[]
  · have zero := hi.alone.mpr none_
    simp [log,zero,none_]
  · have some_ : w.stateListeners≠0 := fun zero => none_ (hi.alone.mp zero)
    simp [log,some_,none_]

theorem Inv.wait (hi : Inv w) (active : Bool) : Inv (w.waitUntilStateThenRelock active).1 := by
  by_cases there : Matches active w.client.state
  · have stays : (w.waitUntilStateThenRelock active).1={ w with currentStateUpdates :=
        if w.stateListeners=0 then [] else w.currentStateUpdates } := by
      rw [waitUntilStateThenRelock,if_pos there]
    rw [stays]
    refine ⟨hi.listeners,?_⟩
    by_cases none_ : w.waiters=[]
    · exact SharedLog.Sound.unused none_
    · have some_ : w.stateListeners≠0 := fun zero => none_ (hi.alone.mp zero)
      rw [if_neg some_]
      exact hi.sound
  · have sound := wait_log hi there ▸ hi.sound.enter active
    refine ⟨?_,sound⟩
    simp [waitUntilStateThenRelock,there,hi.listeners]

theorem Inv.leave (hi : Inv w) {i : Nat} (there : i<w.waiters.length) : Inv (w.leave i) := by
  refine ⟨?_,hi.sound.leave i⟩
  show w.stateListeners-1=(w.waiters.eraseIdx i).length
  rw [List.length_eraseIdx_of_lt there,hi.listeners]

theorem Inv.woken (hi : Inv w) (i : Nat) (res : Int) : Inv (w.woken i res).1 := by
  unfold StateWaits.woken
  cases found : w.waiters[i]? with
  | none => exact hi
  | some r =>
    have there : i<w.waiters.length := (List.getElem?_eq_some_iff.mp found).1
    dsimp only
    split_ifs
    · exact hi.leave there
    · exact hi.leave there
    · exact hi.leave there
    · exact hi

theorem step_inv (hi : Inv w) {step : StateWaitStep} (h : Step w step w') : Inv w' := by
  cases h
  cases step with
  | waitUntilStateThenRelock active => exact hi.wait active
  | internalUpdateStatusLocked state => exact ⟨hi.listeners,hi.sound.write state⟩
  | woken i res => exact hi.woken i res

/-- What a waiter scans is what has been recorded since it registered. -/
theorem Inv.scans (hi : Inv w) {r : LogReader Bool} (hr : r∈w.waiters) :
    w.currentStateUpdates.drop r.start=w.history.drop r.since := hi.sound.unread r hr

theorem Inv.uncut (hi : Inv w) (some_ : w.waiters≠[]) (step : StateWaitStep) :
    w.currentStateUpdates<+:(w.perform step).1.currentStateUpdates := by
  have busy : w.stateListeners≠0 := fun zero => some_ (hi.alone.mp zero)
  cases step with
  | waitUntilStateThenRelock active =>
    simp only [perform,waitUntilStateThenRelock]
    split_ifs
    all_goals exact List.prefix_rfl
  | internalUpdateStatusLocked state => exact List.prefix_append _ _
  | woken i res =>
    simp only [perform,StateWaits.woken]
    cases w.waiters[i]? with
    | none => exact List.prefix_rfl
    | some r =>
      dsimp only
      split_ifs
      all_goals exact List.prefix_rfl

theorem Inv.seesTransitions (hi : Inv w) : w.SeesTransitions := by
  refine ⟨hi.sound.start,hi.uncut,?_,?_,?_⟩
  · intro active done
    by_contra away
    simp only [perform,waitUntilStateThenRelock,if_neg away] at done
    cases done
  · intro i r res found done
    have hr : r∈w.waiters := List.mem_of_getElem? found
    simp only [perform,StateWaits.woken,found] at done
    split_ifs at done with failed seen there
    · exact absurd (Option.some.inj done) failed
    · right
      rw [← hi.scans hr]
      exact seen
    · exact Or.inl there
  · intro i r found recorded
    have hr : r∈w.waiters := List.mem_of_getElem? found
    rw [← hi.scans hr] at recorded
    simp only [perform,StateWaits.woken,found]
    rw [if_neg (fun h => h rfl),if_pos recorded]

theorem start_inv (hs : Start w) : Inv w := by
  refine ⟨?_,SharedLog.Sound.unused hs.waiters⟩
  rw [hs.stateListeners,hs.waiters]
  rfl

/-- Any number of waits and updates in any interleaving. -/
theorem sees_transitions {steps : List StateWaitStep} (hs : Start w) (hr : Run Step w steps w') :
    w'.SeesTransitions :=
  (hr.invariant (fun _ _ _ hi h => step_inv hi h) (start_inv hs)).seesTransitions

section Tests

/-- A call waits for STATE_RUNNING, which comes and goes while another waits for its end. -/
def flickering : List StateWaitStep :=
  [.waitUntilStateThenRelock true,.internalUpdateStatusLocked .RUNNING,
    .waitUntilStateThenRelock false,.internalUpdateStatusLocked .CONFIGURED]

theorem sees_transitions_flickering : ∃ w : StateWaits Unit,
    Run Step ⟨DeviceClient.sampleClient .CONFIGURED DeviceClient.previews [],[],0,[],[]⟩ flickering w ∧
      (w.perform (.woken 0 0)).2=some 0 ∧ w.SeesTransitions := by
  obtain ⟨w,run,noticed⟩ := Run.of_exec_any (f := fun w step => some (w.perform step).1) (r := Step)
    (p := fun w : StateWaits Unit => decide ((w.perform (.woken 0 0)).2=some 0))
    ⟨DeviceClient.sampleClient .CONFIGURED DeviceClient.previews [],[],0,[],[]⟩ flickering
    (fun _ _ _ h => (Option.some.inj h).symm) (by decide)
  exact ⟨w,run,of_decide_eq_true noticed,sees_transitions ⟨rfl,rfl⟩ run⟩

end Tests

end StateWaits
end IotMedia.Camera

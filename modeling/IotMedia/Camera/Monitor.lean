import IotMedia.Camera.Types
import IotMedia.Framework.KeyedVector

namespace IotMedia.Camera

open IotMedia.Framework

inductive MonitorState
  | IDLE
  | ACTIVE
  deriving DecidableEq

structure StateTransition where
  id : Int
  state : MonitorState
  deriving DecidableEq

/-- Without monitor_updated_, which only ends the wait of ThreadLoop before its timeout does. -/
structure Camera3Monitor where
  inputQueue : List StateTransition
  nextMonitor : Int
  monitorStates : KeyedVector Int MonitorState
  compositeState : MonitorState
  updatedStates : List MonitorState

namespace Camera3Monitor

def construct : Camera3Monitor := ⟨[],0,KeyedVector.empty,.IDLE,[]⟩

/-- `added` says whether monitor_states_ took the new entry. -/
def acquireMonitor (m : Camera3Monitor) (added : Bool) : Int × Camera3Monitor :=
  let id := m.nextMonitor
  if added then
    (id,{ m with nextMonitor := id+1,monitorStates := m.monitorStates.add id .IDLE })
  else (-ENOMEM,{ m with nextMonitor := id+1 })

def releaseMonitor (m : Camera3Monitor) (id : Int) : Camera3Monitor :=
  { m with monitorStates := m.monitorStates.removeItem id }

def changeState (m : Camera3Monitor) (id : Int) (state : MonitorState) : Camera3Monitor :=
  { m with inputQueue := m.inputQueue++[⟨id,state⟩] }

def changeStateToIdle (m : Camera3Monitor) (id : Int) : Camera3Monitor := m.changeState id .IDLE

def changeStateToActive (m : Camera3Monitor) (id : Int) : Camera3Monitor :=
  m.changeState id .ACTIVE

def buildCompositeState (states : KeyedVector Int MonitorState) : MonitorState :=
  if states.items.any fun e => e.2=.ACTIVE then .ACTIVE else .IDLE

/-- The loop of ThreadLoop over input_queue_: the states after it, the last composite state, and
what it adds to updated_states_. -/
def transitions (states : KeyedVector Int MonitorState) (oldState : MonitorState) :
    List StateTransition → KeyedVector Int MonitorState × MonitorState × List MonitorState
  | [] => (states,oldState,[])
  | t::ts =>
    match states.valueFor t.id with
    | none => transitions states oldState ts
    | some _ =>
      let states := states.replaceValueFor t.id t.state
      let newState := buildCompositeState states
      let rest := transitions states newState ts
      (rest.1,rest.2.1,if newState≠oldState then newState::rest.2.2 else rest.2.2)

/-- ThreadLoop up to its calls of idle_notify_. -/
def threadLoop (m : Camera3Monitor) : Camera3Monitor :=
  let oldState := buildCompositeState m.monitorStates
  let updated := if oldState≠m.compositeState then m.updatedStates++[oldState]
    else m.updatedStates
  let done := transitions m.monitorStates oldState m.inputQueue
  { m with
    inputQueue := []
    monitorStates := done.1
    compositeState := done.2.1
    updatedStates := updated++done.2.2 }

/-- The next call of idle_notify_: whether it says idle. -/
def notify (m : Camera3Monitor) : Option (Bool × Camera3Monitor) :=
  match m.updatedStates with
  | [] => none
  | state::rest => some (decide (state=.IDLE),{ m with updatedStates := rest })

/-- The state of a monitor after the queued transitions. -/
def stateAfter (queue : List StateTransition) (id : Int) (state : MonitorState) : MonitorState :=
  queue.foldl (fun state t => if t.id=id then t.state else state) state

/-- The monitor knows, or will know from its queue, that `id` is active. -/
def KnownActive (m : Camera3Monitor) (id : Int) : Prop :=
  (m.monitorStates.valueFor id).map (stateAfter m.inputQueue id)=some .ACTIVE

instance (m : Camera3Monitor) (id : Int) : Decidable (m.KnownActive id) :=
  inferInstanceAs (Decidable (_=_))

variable {m : Camera3Monitor} {id other : Int}

section Known

theorem changeState_active (hm : id∈m.monitorStates.keys) :
    (m.changeStateToActive id).KnownActive id := by
  obtain ⟨state,hs⟩ := (m.monitorStates.mem_keys_iff id).mp hm
  show (m.monitorStates.valueFor id).map (stateAfter (m.inputQueue++[⟨id,.ACTIVE⟩]) id)=_
  rw [hs]
  simp [stateAfter]

theorem changeState_other (state : MonitorState) (hne : id≠other) :
    (m.changeState other state).KnownActive id ↔ m.KnownActive id := by
  have same : stateAfter (m.inputQueue++[⟨other,state⟩]) id=stateAfter m.inputQueue id := by
    funext old
    simp [stateAfter,hne.symm]
  show (m.monitorStates.valueFor id).map (stateAfter (m.inputQueue++[⟨other,state⟩]) id)=_ ↔ _
  rw [same]
  exact Iff.rfl

theorem releaseMonitor_other (hne : id≠other) :
    (m.releaseMonitor other).KnownActive id ↔ m.KnownActive id := by
  have same : (m.releaseMonitor other).monitorStates.valueFor id=m.monitorStates.valueFor id := by
    rw [releaseMonitor,KeyedVector.valueFor_removeItem,if_neg hne]
  unfold KnownActive
  rw [same]
  exact Iff.rfl

theorem acquireMonitor_other (added : Bool) (hne : id≠m.nextMonitor) :
    (m.acquireMonitor added).2.KnownActive id ↔ m.KnownActive id := by
  have same : (m.acquireMonitor added).2.monitorStates.valueFor id=
      m.monitorStates.valueFor id := by
    cases added with
    | false => rfl
    | true => simp [acquireMonitor,hne]
  have queue : (m.acquireMonitor added).2.inputQueue=m.inputQueue := by
    cases added <;> rfl
  unfold KnownActive
  rw [same,queue]

theorem transitions_valueFor (states : KeyedVector Int MonitorState) (oldState : MonitorState)
    (queue : List StateTransition) (id : Int) :
    (transitions states oldState queue).1.valueFor id=
      (states.valueFor id).map (stateAfter queue id) := by
  induction queue generalizing states oldState with
  | nil =>
    have same : stateAfter [] id=fun state => state := rfl
    simp [transitions,same]
  | cons t ts ih =>
    rw [transitions]
    cases ht : states.valueFor t.id with
    | none =>
      dsimp only
      rw [ih]
      by_cases hid : t.id=id
      · rw [← hid,ht]
        rfl
      · have same : stateAfter (t::ts) id=stateAfter ts id := by
          funext state
          simp [stateAfter,hid]
        rw [same]
    | some old =>
      dsimp only
      rw [ih,KeyedVector.valueFor_replaceValueFor]
      by_cases hid : id=t.id
      · rw [if_pos hid,hid,ht]
        simp [stateAfter]
      · have same : stateAfter (t::ts) id=stateAfter ts id := by
          funext state
          simp [stateAfter,Ne.symm hid]
        rw [if_neg hid,same]

/-- A round of ThreadLoop turns what was queued into what is known. -/
theorem threadLoop_known : m.threadLoop.KnownActive id ↔ m.KnownActive id := by
  have value := transitions_valueFor m.monitorStates (buildCompositeState m.monitorStates)
    m.inputQueue id
  have same : stateAfter [] id=fun state => state := rfl
  show ((transitions _ _ _).1.valueFor id).map (stateAfter [] id)=_ ↔ _
  rw [value,same]
  simp [KnownActive]

theorem threadLoop_keys : id∈m.threadLoop.monitorStates.keys ↔ id∈m.monitorStates.keys := by
  have value := transitions_valueFor m.monitorStates (buildCompositeState m.monitorStates)
    m.inputQueue id
  rw [KeyedVector.mem_keys_iff,KeyedVector.mem_keys_iff]
  show (∃ v,(transitions _ _ _).1.valueFor id=some v) ↔ _
  rw [value]
  constructor
  · intro h
    obtain ⟨v,hv⟩ := h
    obtain ⟨old,ho,-⟩ := Option.map_eq_some_iff.mp hv
    exact ⟨old,ho⟩
  · intro h
    obtain ⟨old,ho⟩ := h
    exact ⟨_,by rw [ho]; rfl⟩

theorem build_active : buildCompositeState m.monitorStates=.ACTIVE ↔
    ∃ id,m.monitorStates.valueFor id=some .ACTIVE := by
  unfold buildCompositeState
  constructor
  · intro h
    split_ifs at h with hany
    obtain ⟨e,he,active⟩ := List.any_eq_true.mp hany
    refine ⟨e.1,(m.monitorStates.valueFor_eq_some e.1 _).mpr ?_⟩
    have same : e.2=.ACTIVE := by simpa using active
    rw [← same]
    exact he
  · intro h
    obtain ⟨id,hid⟩ := h
    have mem := (m.monitorStates.valueFor_eq_some id _).mp hid
    rw [if_pos (List.any_eq_true.mpr ⟨_,mem,by simp⟩)]

/-- With an empty queue a known active monitor is one in monitor_states_. -/
theorem KnownActive.build (h : m.KnownActive id) (hq : m.inputQueue=[]) :
    buildCompositeState m.monitorStates=.ACTIVE := by
  rw [build_active]
  refine ⟨id,?_⟩
  have same : stateAfter m.inputQueue id=fun state => state := by rw [hq]; rfl
  unfold KnownActive at h
  rw [same] at h
  simpa using h

end Known

section Composite

/-- The composite state covers monitor_states_, and the last notification tells it. -/
structure Composed (m : Camera3Monitor) : Prop where
  covers : buildCompositeState m.monitorStates=.ACTIVE → m.compositeState=.ACTIVE
  tells : ∀ state∈m.updatedStates.getLast?,state=m.compositeState

theorem construct_composed : construct.Composed := by
  constructor
  · intro h
    cases h
  · intro state h
    cases h

theorem transitions_composite (states : KeyedVector Int MonitorState)
    (queue : List StateTransition) :
    (transitions states (buildCompositeState states) queue).2.1=
      buildCompositeState (transitions states (buildCompositeState states) queue).1 := by
  induction queue generalizing states with
  | nil => rfl
  | cons t ts ih =>
    rw [transitions]
    cases states.valueFor t.id with
    | none => exact ih states
    | some old => exact ih (states.replaceValueFor t.id t.state)

/-- What the loop adds ends with the last composite state; nothing is added while it stays. -/
theorem transitions_updated (states : KeyedVector Int MonitorState) (oldState : MonitorState)
    (queue : List StateTransition) :
    ((transitions states oldState queue).2.2=[] →
      (transitions states oldState queue).2.1=oldState) ∧
    ∀ state∈(transitions states oldState queue).2.2.getLast?,
      state=(transitions states oldState queue).2.1 := by
  induction queue generalizing states oldState with
  | nil => exact ⟨fun _ => rfl,fun state h => by cases h⟩
  | cons t ts ih =>
    rw [transitions]
    cases states.valueFor t.id with
    | none => exact ih states oldState
    | some old =>
      dsimp only
      obtain ⟨stays,last⟩ := ih (states.replaceValueFor t.id t.state)
        (buildCompositeState (states.replaceValueFor t.id t.state))
      by_cases changed : buildCompositeState (states.replaceValueFor t.id t.state)≠oldState
      · rw [if_pos changed]
        refine ⟨fun h => absurd h (List.cons_ne_nil _ _),?_⟩
        intro state h
        rw [List.getLast?_cons] at h
        cases hl : (transitions (states.replaceValueFor t.id t.state)
            (buildCompositeState (states.replaceValueFor t.id t.state)) ts).2.2.getLast? with
        | none =>
          rw [hl] at h
          have same := stays (List.getLast?_eq_none_iff.mp hl)
          rw [same]
          exact (Option.mem_some_iff.mp h).symm
        | some final =>
          rw [hl] at h
          have same : final=state := by simpa using h
          rw [← same]
          exact last final hl
      · rw [if_neg changed]
        exact ⟨fun h => (stays h).trans (not_not.mp changed),last⟩

theorem threadLoop_composed : m.updatedStates=[] → m.threadLoop.Composed := by
  intro delivered
  obtain ⟨stays,last⟩ := transitions_updated m.monitorStates (buildCompositeState m.monitorStates)
    m.inputQueue
  constructor
  · intro h
    show (transitions _ _ _).2.1=_
    rw [transitions_composite]
    exact h
  · intro state h
    show state=(transitions _ _ _).2.1
    change state∈(_++(transitions _ _ _).2.2).getLast? at h
    rw [List.getLast?_append] at h
    cases hl : (transitions m.monitorStates (buildCompositeState m.monitorStates)
        m.inputQueue).2.2.getLast? with
    | none =>
      rw [hl,delivered] at h
      rw [stays (List.getLast?_eq_none_iff.mp hl)]
      split_ifs at h
      · simpa [eq_comm] using h
      · simp at h
    | some final =>
      rw [hl] at h
      have same : final=state := by simpa using h
      rw [← same]
      exact last final hl

/-- A round that notifies of nothing leaves the composite state. -/
theorem threadLoop_silent (h : m.threadLoop.updatedStates=[]) :
    m.threadLoop.compositeState=m.compositeState := by
  obtain ⟨before,after⟩ := List.append_eq_nil_iff.mp h
  have stays := (transitions_updated m.monitorStates (buildCompositeState m.monitorStates)
    m.inputQueue).1 after
  show (transitions _ _ _).2.1=_
  rw [stays]
  split_ifs at before with changed
  · simp at before
  · exact not_not.mp changed

theorem notify_composed {idle : Bool} {next : Camera3Monitor} (hc : m.Composed)
    (h : m.notify=some (idle,next)) : next.Composed := by
  unfold notify at h
  cases hu : m.updatedStates with
  | nil => simp [hu] at h
  | cons state rest =>
    simp only [hu,Option.some.injEq,Prod.mk.injEq] at h
    obtain ⟨-,rfl⟩ := h
    refine ⟨hc.covers,?_⟩
    intro last hl
    apply hc.tells
    rw [hu,List.getLast?_cons]
    have found : rest.getLast?=some last := hl
    rw [found]
    rfl

/-- The last notification says idle exactly when the composite state is. -/
theorem notify_last {idle : Bool} {next : Camera3Monitor} (hc : m.Composed)
    (h : m.notify=some (idle,next)) (hl : next.updatedStates=[]) :
    next.compositeState=.ACTIVE ↔ idle=false := by
  unfold notify at h
  cases hu : m.updatedStates with
  | nil => simp [hu] at h
  | cons state rest =>
    simp only [hu,Option.some.injEq,Prod.mk.injEq] at h
    obtain ⟨rfl,rfl⟩ := h
    have empty : rest=[] := hl
    have last : state=m.compositeState := by
      apply hc.tells
      rw [hu,empty]
      rfl
    show m.compositeState=.ACTIVE ↔ _
    rw [← last]
    cases state <;> simp

theorem releaseMonitor_composed (hc : m.Composed) (id : Int) : (m.releaseMonitor id).Composed := by
  refine ⟨?_,hc.tells⟩
  intro h
  obtain ⟨other,active⟩ := build_active.mp h
  apply hc.covers
  rw [releaseMonitor,KeyedVector.valueFor_removeItem] at active
  split_ifs at active
  exact build_active.mpr ⟨other,active⟩

theorem acquireMonitor_composed (hc : m.Composed) (added : Bool) :
    (m.acquireMonitor added).2.Composed := by
  cases added with
  | false => exact ⟨hc.covers,hc.tells⟩
  | true =>
    refine ⟨?_,hc.tells⟩
    intro h
    obtain ⟨other,active⟩ := build_active.mp h
    apply hc.covers
    simp only [acquireMonitor,if_true,KeyedVector.valueFor_add] at active
    split_ifs at active
    · cases active
    · exact build_active.mpr ⟨other,active⟩

theorem changeState_composed (hc : m.Composed) (id : Int) (state : MonitorState) :
    (m.changeState id state).Composed := ⟨hc.covers,hc.tells⟩

end Composite
end Camera3Monitor
end IotMedia.Camera

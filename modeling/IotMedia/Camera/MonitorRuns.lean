import IotMedia.Camera.Monitor
import IotMedia.Framework.Run
import Mathlib.Data.List.Chain

namespace IotMedia.Camera

open IotMedia.Framework

/-- The monitor, the values passed to idle_notify_ so far, and of each registered monitor the last
transition queued for its id since its acquisition. -/
structure MonitorWorld where
  monitor : Camera3Monitor
  notified : List Bool
  told : Int → Option MonitorState

inductive MonitorStep
  | acquireMonitor (added : Bool)
  | releaseMonitor (id : Int)
  | changeState (id : Int) (state : MonitorState)
  | threadLoop

namespace Camera3Monitor

/-- All the calls of idle_notify_ that a round of ThreadLoop makes. -/
def deliver (m : Camera3Monitor) : List Bool × Camera3Monitor :=
  (m.updatedStates.map fun state => decide (state=.IDLE),{ m with updatedStates := [] })

/-- Delivered at once or call by call, it is the same. -/
theorem notify_deliver {m next : Camera3Monitor} {idle : Bool} (h : m.notify=some (idle,next)) :
    m.deliver=(idle::next.deliver.1,next.deliver.2) := by
  unfold notify at h
  cases hu : m.updatedStates with
  | nil => simp [hu] at h
  | cons state rest =>
    simp only [hu,Option.some.injEq,Prod.mk.injEq] at h
    obtain ⟨rfl,rfl⟩ := h
    simp [deliver,hu]

end Camera3Monitor

namespace MonitorWorld

def perform (w : MonitorWorld) : MonitorStep → MonitorWorld
  | .acquireMonitor added =>
    { w with
      monitor := (w.monitor.acquireMonitor added).2
      told := if added then Function.update w.told w.monitor.nextMonitor (some .IDLE) else w.told }
  | .releaseMonitor id =>
    { w with
      monitor := w.monitor.releaseMonitor id
      told := Function.update w.told id none }
  | .changeState id state =>
    { w with
      monitor := w.monitor.changeState id state
      told := Function.update w.told id ((w.told id).map fun _ => state) }
  | .threadLoop =>
    { w with
      monitor := w.monitor.threadLoop.deliver.2
      notified := w.notified++w.monitor.threadLoop.deliver.1 }

/-- A transition is queued for INVALID_ID or an id that was given out before. -/
def Allowed (w : MonitorWorld) : MonitorStep → Prop
  | .changeState id _ => id < w.monitor.nextMonitor
  | _ => True

def Step (w : MonitorWorld) (step : MonitorStep) (w' : MonitorWorld) : Prop :=
  w.Allowed step ∧ w'=w.perform step

def start : MonitorWorld := ⟨Camera3Monitor.construct,[],fun _ => none⟩

/-- The values passed alternate, beginning with active. -/
def Alternates (w : MonitorWorld) : Prop := (true::w.notified).IsChain (· ≠ ·)

/-- The last value passed; idle if there is none yet. -/
def lastIdle (w : MonitorWorld) : Bool := w.notified.getLast?.getD true

/-- The last value and the composite state are idle exactly when no registered monitor is active. -/
def Settled (w : MonitorWorld) : Prop :=
  (w.lastIdle=true ↔ ∀ id,w.told id≠some .ACTIVE) ∧
  (w.monitor.compositeState=.IDLE ↔ ∀ id,w.told id≠some .ACTIVE)

structure Inv (w : MonitorWorld) : Prop where
  alternates : w.Alternates
  last : w.lastIdle=decide (w.monitor.compositeState=.IDLE)
  delivered : w.monitor.updatedStates=[]
  told : ∀ id,(w.monitor.monitorStates.valueFor id).map
    (Camera3Monitor.stateAfter w.monitor.inputQueue id)=w.told id
  queued : ∀ t∈w.monitor.inputQueue,t.id < w.monitor.nextMonitor

variable {w w' : MonitorWorld}

section Keep

open Camera3Monitor

/-- What the loop adds to updated_states_ alternates, beginning with a change. -/
theorem transitions_chain (states : KeyedVector Int MonitorState) (oldState : MonitorState)
    (queue : List StateTransition) :
    (oldState::(transitions states oldState queue).2.2).IsChain (· ≠ ·) := by
  induction queue generalizing states oldState with
  | nil => exact List.isChain_singleton _
  | cons t ts ih =>
    rw [transitions]
    cases states.valueFor t.id with
    | none => exact ih states oldState
    | some old =>
      dsimp only
      have rest := ih (states.replaceValueFor t.id t.state)
        (buildCompositeState (states.replaceValueFor t.id t.state))
      split_ifs with changed
      · exact List.isChain_cons_cons.mpr ⟨changed.symm,rest⟩
      · rw [not_not.mp changed] at rest ⊢
        exact rest

/-- The notifications of a round alternate, beginning with a change of the composite state. -/
theorem threadLoop_chain {m : Camera3Monitor} (hd : m.updatedStates=[]) :
    (m.compositeState::m.threadLoop.updatedStates).IsChain (· ≠ ·) := by
  have rest := transitions_chain m.monitorStates (buildCompositeState m.monitorStates) m.inputQueue
  show (m.compositeState::(_++_)).IsChain _
  rw [hd]
  split_ifs with changed
  · exact List.isChain_cons_cons.mpr ⟨changed.symm,rest⟩
  · rw [not_not.mp changed] at rest ⊢
    exact rest

theorem threadLoop_last {m : Camera3Monitor} (hd : m.updatedStates=[]) :
    m.threadLoop.updatedStates.getLast?.getD m.compositeState=m.threadLoop.compositeState := by
  cases hl : m.threadLoop.updatedStates.getLast? with
  | none => exact (threadLoop_silent (List.getLast?_eq_none_iff.mp hl)).symm
  | some state => exact (threadLoop_composed hd).tells state hl

theorem threadLoop_inv (hi : Inv w) : Inv (w.perform .threadLoop) := by
  have chain := threadLoop_chain hi.delivered
  have final := threadLoop_last hi.delivered
  have values : (w.perform .threadLoop).notified=
      w.notified++w.monitor.threadLoop.updatedStates.map fun state => decide (state=.IDLE) := rfl
  refine ⟨?_,?_,rfl,?_,?_⟩
  · have apart : ∀ a b : MonitorState,a≠b → decide (a=.IDLE)≠decide (b=.IDLE) := by
      intro a b
      cases a <;> cases b <;> simp
    have mapped : ((w.monitor.compositeState::w.monitor.threadLoop.updatedStates).map
        fun state => decide (state=.IDLE)).IsChain (· ≠ ·) := by
      rw [List.isChain_map]
      exact chain.imp apart
    rw [List.map_cons,List.isChain_cons] at mapped
    unfold Alternates
    rw [values,← List.cons_append,List.isChain_append]
    refine ⟨hi.alternates,mapped.2,?_⟩
    intro x hx y hy
    have here : x=w.lastIdle := by
      rw [List.getLast?_cons] at hx
      exact (Option.mem_some_iff.mp hx).symm
    rw [here,hi.last]
    exact mapped.1 y hy
  · show ((w.perform .threadLoop).notified.getLast?).getD true=_
    rw [values,List.getLast?_append,List.getLast?_map]
    show _=decide (w.monitor.threadLoop.compositeState=.IDLE)
    rw [← final]
    cases w.monitor.threadLoop.updatedStates.getLast? with
    | none => exact hi.last
    | some state => rfl
  · intro id
    show ((transitions _ _ _).1.valueFor id).map (stateAfter [] id)=w.told id
    have same : stateAfter [] id=fun state => state := rfl
    rw [transitions_valueFor,same,Option.map_id']
    exact hi.told id
  · intro t ht
    cases ht

/-- No queued transition is for the monitor that is acquired next. -/
theorem Inv.unqueued (hi : Inv w) :
    stateAfter w.monitor.inputQueue w.monitor.nextMonitor=fun state => state := by
  funext state
  have other : ∀ t∈w.monitor.inputQueue,t.id≠w.monitor.nextMonitor :=
    fun t ht => (hi.queued t ht).ne
  revert other
  generalize w.monitor.inputQueue=queue
  intro other
  induction queue with
  | nil => rfl
  | cons t ts ih =>
    have rest := ih fun q hq => other q (List.mem_cons_of_mem t hq)
    simpa [stateAfter,other t List.mem_cons_self] using rest

theorem acquireMonitor_inv (hi : Inv w) (added : Bool) :
    Inv (w.perform (.acquireMonitor added)) := by
  have queued : ∀ t∈w.monitor.inputQueue,t.id < w.monitor.nextMonitor+1 := by
    intro t ht
    have before := hi.queued t ht
    omega
  cases added with
  | false => exact ⟨hi.alternates,hi.last,hi.delivered,hi.told,queued⟩
  | true =>
    refine ⟨hi.alternates,hi.last,hi.delivered,?_,queued⟩
    intro id
    show ((w.monitor.monitorStates.add w.monitor.nextMonitor .IDLE).valueFor id).map
      (stateAfter w.monitor.inputQueue id)=Function.update w.told w.monitor.nextMonitor _ id
    rw [KeyedVector.valueFor_add]
    by_cases fresh : id=w.monitor.nextMonitor
    · rw [fresh,hi.unqueued]
      simp
    · rw [if_neg fresh,Function.update_of_ne fresh]
      exact hi.told id

theorem step_inv (hi : Inv w) (step : MonitorStep) (h : Step w step w') : Inv w' := by
  obtain ⟨allowed,rfl⟩ := h
  cases step with
  | acquireMonitor added => exact acquireMonitor_inv hi added
  | releaseMonitor other =>
    refine ⟨hi.alternates,hi.last,hi.delivered,?_,hi.queued⟩
    intro id
    show ((w.monitor.monitorStates.removeItem other).valueFor id).map
      (stateAfter w.monitor.inputQueue id)=Function.update w.told other none id
    rw [KeyedVector.valueFor_removeItem]
    by_cases same : id=other
    · simp [same]
    · rw [if_neg same,Function.update_of_ne same]
      exact hi.told id
  | changeState other state =>
    refine ⟨hi.alternates,hi.last,hi.delivered,?_,?_⟩
    · intro id
      show (w.monitor.monitorStates.valueFor id).map
        (stateAfter (w.monitor.inputQueue++[⟨other,state⟩]) id)=
          Function.update w.told other ((w.told other).map fun _ => state) id
      by_cases same : id=other
      · rw [same,Function.update_self,← hi.told other,Option.map_map]
        congr 1
        funext old
        simp [stateAfter]
      · rw [Function.update_of_ne same,← hi.told id]
        congr 1
        funext old
        simp [stateAfter,Ne.symm same]
    · intro t ht
      rcases List.mem_append.mp ht with before|now
      · exact hi.queued t before
      · rw [List.mem_singleton.mp now]
        exact allowed
  | threadLoop => exact threadLoop_inv hi

theorem start_inv : Inv start :=
  ⟨List.isChain_singleton _,rfl,rfl,fun _ => rfl,fun t ht => by cases ht⟩

/-- With everything delivered the composite state is what the registered monitors were told. -/
theorem threadLoop_settled (hi : Inv w) : (w.perform .threadLoop).Settled := by
  have next := threadLoop_inv hi
  have composite : (w.perform .threadLoop).monitor.compositeState=.IDLE ↔
      ∀ id,w.told id≠some .ACTIVE := by
    show (transitions _ _ _).2.1=.IDLE ↔ _
    rw [transitions_composite]
    have active : buildCompositeState (w.perform .threadLoop).monitor.monitorStates=.ACTIVE ↔
        ∃ id,w.told id=some .ACTIVE := by
      rw [build_active]
      apply exists_congr
      intro id
      have value := next.told id
      have same : stateAfter (w.perform .threadLoop).monitor.inputQueue id=fun state => state := rfl
      rw [same,Option.map_id'] at value
      rw [value]
      exact Iff.rfl
    rw [← not_exists,← active]
    show buildCompositeState (w.perform .threadLoop).monitor.monitorStates=.IDLE ↔ _
    cases buildCompositeState (w.perform .threadLoop).monitor.monitorStates <;> simp
  refine ⟨?_,composite⟩
  rw [next.last,decide_eq_true_iff]
  exact composite

end Keep
section Stray

open Camera3Monitor

/-! Two worlds that differ in queued transitions for ids that are not registered any more. -/

/-- The id of the transition is registered, or not given out yet. -/
def Lives (m : Camera3Monitor) (t : StateTransition) : Bool :=
  t.id∈m.monitorStates.keys || m.nextMonitor ≤ t.id

structure Alike (w v : MonitorWorld) : Prop where
  notified : w.notified=v.notified
  told : w.told=v.told
  next : w.monitor.nextMonitor=v.monitor.nextMonitor
  states : w.monitor.monitorStates=v.monitor.monitorStates
  composite : w.monitor.compositeState=v.monitor.compositeState
  updated : w.monitor.updatedStates=v.monitor.updatedStates
  queue : w.monitor.inputQueue.filter (Lives w.monitor)=
    v.monitor.inputQueue.filter (Lives v.monitor)

variable {v : MonitorWorld}

/-- The loop passes over transitions for ids that are not registered. -/
theorem transitions_filter (states : KeyedVector Int MonitorState) (oldState : MonitorState)
    (queue : List StateTransition) {p : StateTransition → Bool}
    (hp : ∀ t,t.id∈states.keys → p t=true) :
    transitions states oldState (queue.filter p)=transitions states oldState queue := by
  induction queue generalizing states oldState with
  | nil => rfl
  | cons t ts ih =>
    cases hv : states.valueFor t.id with
    | none =>
      have skipped : transitions states oldState (t::ts)=transitions states oldState ts := by
        rw [transitions,hv]
      rw [skipped,List.filter_cons]
      split_ifs
      · rw [transitions,hv]
        exact ih states oldState hp
      · exact ih states oldState hp
    | some old =>
      have kept : p t=true := hp t ((states.mem_keys_iff t.id).mpr ⟨old,hv⟩)
      rw [List.filter_cons_of_pos kept,transitions,transitions,hv]
      dsimp only
      rw [ih]
      intro q hq
      rw [KeyedVector.keys_replaceValueFor] at hq
      exact hp q hq

theorem lives_congr {m n : Camera3Monitor} (hs : m.monitorStates=n.monitorStates)
    (hn : m.nextMonitor=n.nextMonitor) : Lives m=Lives n := by
  funext t
  rw [Lives,Lives,hs,hn]

/-- What lives no longer than before stays the same on both sides. -/
theorem Alike.filter (h : Alike w v) {m n : Camera3Monitor} (hs : m.monitorStates=n.monitorStates)
    (hn : m.nextMonitor=n.nextMonitor) (hl : ∀ t,Lives m t=true → Lives w.monitor t=true) :
    w.monitor.inputQueue.filter (Lives m)=v.monitor.inputQueue.filter (Lives n) := by
  have queue := h.queue
  rw [lives_congr h.states.symm h.next.symm] at queue
  have again : ∀ q : List StateTransition,
      q.filter (Lives m)=(q.filter (Lives w.monitor)).filter (Lives m) := by
    intro q
    rw [List.filter_filter]
    apply List.filter_congr
    intro t _
    cases hm : Lives m t with
    | false => rfl
    | true => simp [hl t hm]
  rw [again,queue,← again,lives_congr hs hn]

theorem Alike.step (h : Alike w v) (step : MonitorStep) :
    Alike (w.perform step) (v.perform step) := by
  cases step with
  | acquireMonitor added =>
    have next : w.monitor.nextMonitor+1=v.monitor.nextMonitor+1 := by rw [h.next]
    cases added with
    | false =>
      refine ⟨h.notified,h.told,next,h.states,h.composite,h.updated,?_⟩
      refine h.filter (m := (w.monitor.acquireMonitor false).2)
        (n := (v.monitor.acquireMonitor false).2) h.states next ?_
      intro t ht
      simp only [Lives,acquireMonitor,Bool.false_eq_true,if_false,Bool.or_eq_true,
        decide_eq_true_eq] at ht ⊢
      exact ht.imp_right fun later => by omega
    | true =>
      have states : w.monitor.monitorStates.add w.monitor.nextMonitor .IDLE=
          v.monitor.monitorStates.add v.monitor.nextMonitor .IDLE := by rw [h.states,h.next]
      refine ⟨h.notified,?_,next,states,h.composite,h.updated,?_⟩
      · show Function.update _ _ _=Function.update _ _ _
        rw [h.told,h.next]
      · refine h.filter (m := (w.monitor.acquireMonitor true).2)
          (n := (v.monitor.acquireMonitor true).2) states next ?_
        intro t ht
        simp only [Lives,acquireMonitor,if_true,Bool.or_eq_true,decide_eq_true_eq,
          KeyedVector.mem_keys_add] at ht ⊢
        rcases ht with (fresh|old)|later
        · exact Or.inr (by omega)
        · exact Or.inl old
        · exact Or.inr (by omega)
  | releaseMonitor id =>
    have states : w.monitor.monitorStates.removeItem id=v.monitor.monitorStates.removeItem id := by
      rw [h.states]
    refine ⟨h.notified,?_,h.next,states,h.composite,h.updated,?_⟩
    · show Function.update _ _ _=Function.update _ _ _
      rw [h.told]
    · refine h.filter (m := w.monitor.releaseMonitor id) (n := v.monitor.releaseMonitor id)
        states h.next ?_
      intro t ht
      simp only [Lives,Bool.or_eq_true,decide_eq_true_eq] at ht ⊢
      exact ht.imp_left fun kept => ((KeyedVector.mem_keys_removeItem _ _ _).mp kept).2
  | changeState id state =>
    refine ⟨h.notified,?_,h.next,h.states,h.composite,h.updated,?_⟩
    · show Function.update _ _ _=Function.update _ _ _
      rw [h.told]
    · show (w.monitor.inputQueue++_).filter (Lives w.monitor)=
        (v.monitor.inputQueue++_).filter (Lives v.monitor)
      rw [List.filter_append,List.filter_append,h.queue,lives_congr h.states h.next]
  | threadLoop =>
    have loop : transitions w.monitor.monitorStates (buildCompositeState w.monitor.monitorStates)
        w.monitor.inputQueue=
        transitions v.monitor.monitorStates (buildCompositeState v.monitor.monitorStates)
          v.monitor.inputQueue := by
      rw [← transitions_filter _ _ w.monitor.inputQueue (p := Lives w.monitor)
        (fun t ht => by simp [Lives,ht]),h.queue,transitions_filter _ _ v.monitor.inputQueue
        (fun t ht => by simpa [Lives,h.states] using Or.inl ht),h.states]
    have updated : w.monitor.threadLoop.updatedStates=v.monitor.threadLoop.updatedStates := by
      show (if _ then _ else _)++_=(if _ then _ else _)++_
      rw [loop,h.states,h.composite,h.updated]
    refine ⟨?_,h.told,h.next,?_,?_,rfl,rfl⟩
    · show w.notified++w.monitor.threadLoop.updatedStates.map _=
        v.notified++v.monitor.threadLoop.updatedStates.map _
      rw [h.notified,updated]
    · show (transitions _ _ _).1=(transitions _ _ _).1
      rw [loop]
    · show (transitions _ _ _).2.1=(transitions _ _ _).2.1
      rw [loop]

theorem Alike.run (h : Alike w v) (steps : List MonitorStep) :
    Alike (steps.foldl perform w) (steps.foldl perform v) := by
  induction steps generalizing w v with
  | nil => exact h
  | cons step steps ih => exact ih (h.step step)

/-- A transition for a registered id below the counter is passed over. -/
theorem Inv.stray (hi : Inv w) {id : Int} (hid : id < w.monitor.nextMonitor)
    (hn : w.told id=none) (state : MonitorState) :
    Alike (w.perform (.changeState id state)) w := by
  have absent : id∉w.monitor.monitorStates.keys := by
    rw [← KeyedVector.valueFor_none]
    have value := hi.told id
    rw [hn] at value
    exact Option.map_eq_none_iff.mp value
  refine ⟨rfl,?_,rfl,rfl,rfl,rfl,?_⟩
  · show Function.update w.told id ((w.told id).map _)=w.told
    rw [hn]
    exact Function.update_eq_self_iff.mpr hn.symm
  · have dead : Lives w.monitor ⟨id,state⟩=false := by simp [Lives,absent,hid]
    show (w.monitor.inputQueue++[(⟨id,state⟩ : StateTransition)]).filter (Lives w.monitor)=_
    rw [List.filter_append,List.filter_singleton,dead]
    simp

end Stray

/-- In every run the values passed to idle_notify_ alternate, beginning with active; after each
ThreadLoop the last value and the composite state agree with the registered monitors; and a
transition queued for an id that is not registered any more changes nothing later on. -/
theorem notifications_sound {w : MonitorWorld} {steps : List MonitorStep}
    (hr : Run Step start steps w) :
    w.Alternates ∧ (w.perform .threadLoop).Settled ∧
    ∀ id state,id < w.monitor.nextMonitor → w.told id=none → ∀ later : List MonitorStep,
      (later.foldl perform (w.perform (.changeState id state))).notified=
        (later.foldl perform w).notified ∧
      (later.foldl perform (w.perform (.changeState id state))).monitor.monitorStates=
        (later.foldl perform w).monitor.monitorStates ∧
      (later.foldl perform (w.perform (.changeState id state))).monitor.compositeState=
        (later.foldl perform w).monitor.compositeState := by
  have inv : Inv w := hr.invariant (fun _ step _ hi h => step_inv hi step h) start_inv
  refine ⟨inv.alternates,threadLoop_settled inv,?_⟩
  intro id state hid hn later
  have alike := (inv.stray hid hn state).run later
  exact ⟨alike.notified,alike.states,alike.composite⟩

/-- Monitor 0 is active, released, and told idle too late; monitor 1 is active then. -/
def lateSteps : List MonitorStep :=
  [.acquireMonitor true,.changeState 0 .ACTIVE,.threadLoop,.releaseMonitor 0,.threadLoop,
    .acquireMonitor true,.changeState 0 .IDLE,.changeState 1 .ACTIVE,.threadLoop]

theorem notifications_sound_late : ∃ w,Run Step start lateSteps w ∧
    w.notified=[false,true,false] ∧ w.Alternates ∧ (w.perform .threadLoop).Settled := by
  have run : Run Step start lateSteps (lateSteps.foldl perform start) := by
    apply Run.of_follows (a := Allowed) (fun _ _ h => ⟨h,rfl⟩)
    refine ⟨trivial,?_,trivial,trivial,trivial,trivial,?_,?_,trivial,trivial⟩ <;>
      show (_ : Int) < _ <;> decide
  have sound := notifications_sound run
  exact ⟨_,run,by decide,sound.1,sound.2.1⟩

end MonitorWorld
end IotMedia.Camera

import IotMedia.Camera.PrepareHandler
import IotMedia.Camera.TableMoves

namespace IotMedia.Camera

open IotMedia.Framework

/-- The calls that the prepare handler makes. -/
def StreamCall.prepares : StreamCall → Bool
  | .beginPrepare | .prepareBuffer _ | .endPrepare => true
  | _ => false

namespace Camera3Stream

variable {u : BufferUsage} {s : Camera3Stream}

def PrepareActive (s : Camera3Stream) : Prop := s.status=.prepareActive

theorem getBufferLocked_status (u : BufferUsage) (s : Camera3Stream) (frame : Option Int)
    (alloc : Option Handle) :
    (s.getBufferLocked u frame alloc).stream.status=s.status := by
  have outcome := s.getBufferLocked_outcome u frame alloc
  generalize s.getBufferLocked u frame alloc=r at outcome ⊢
  cases outcome with
  | allocates active answer room handed =>
    subst handed
    rfl
  | _ => rfl

theorem getBufferWoken_status (u : BufferUsage) (s : Camera3Stream) (frame waitRes : Int)
    (alloc : Option Handle) :
    (s.getBufferWoken u frame waitRes alloc).stream.status=s.status := by
  unfold getBufferWoken
  split_ifs
  · rfl
  · exact getBufferLocked_status u s _ alloc

theorem getBuffer_status (u : BufferUsage) (s : Camera3Stream) (frame waitRes : Int)
    (alloc : Option Handle) : (s.getBuffer u frame waitRes alloc).stream.status=s.status := by
  unfold getBuffer
  split_ifs
  · rfl
  · exact getBufferWoken_status u s frame waitRes alloc
  · exact getBufferLocked_status u s _ alloc

theorem returnBufferLocked_status (s : Camera3Stream) (handle : Option Handle) :
    (s.returnBufferLocked handle).stream.status=s.status := by
  rcases s.returnBufferLocked_cases handle with ⟨same,-⟩|⟨h,v,l,-,-,-,-,-,eq⟩
  · rw [same]
  · rw [eq]

theorem returnBufferToClient_status {status : BufferStatus} {timestamp frame : Int}
    {r : StreamResult Unit} (h : s.returnBufferToClient status timestamp frame=some r) :
    r.stream.status=s.status := by
  obtain ⟨handle,-,⟨-,rfl⟩|⟨-,rfl⟩⟩ := returnBufferToClient_cases h
  · rfl
  · exact returnBufferLocked_status _ _

theorem endConfigure_prepareActive (u : BufferUsage) (s : Camera3Stream) (acquired : Int) :
    (s.endConfigure u acquired).stream.PrepareActive ↔ s.PrepareActive := by
  unfold endConfigure
  by_cases active : s.isConfigureActive=true
  · have other : ¬s.PrepareActive := by
      intro prepare
      simp [isConfigureActive,show s.status=.prepareActive from prepare] at active
    rw [if_pos active]
    refine iff_of_false ?_ other
    dsimp only
    split_ifs
    · exact other
    all_goals simp [PrepareActive]
  · rw [if_neg active]

theorem tearDown_status (s : Camera3Stream) : s.tearDown.stream.status=s.status := by
  unfold tearDown
  split_ifs <;> rfl

theorem close_prepareActive (s : Camera3Stream) :
    s.close.stream.PrepareActive ↔ s.PrepareActive := by
  unfold close PrepareActive
  cases hs : s.status <;> simp only [closeLocked,hs]
  all_goals
    split_ifs <;> simp [hs]

end Camera3Stream

namespace StreamWorld

open Camera3Stream

variable {u : BufferUsage} {w w' : StreamWorld} {c : StreamCall}

/-- The other calls of a stream neither begin nor end a prepare. -/
theorem perform_prepareActive (other : c.prepares=false) (done : w.perform u c=some w') :
    w'.stream.PrepareActive ↔ w.stream.PrepareActive := by
  have kept {s t : Camera3Stream} (same : t.status=s.status) :
      t.PrepareActive ↔ s.PrepareActive := by
    unfold PrepareActive
    rw [same]
  cases c with
  | getBuffer frame alloc =>
    simp only [perform] at done
    split_ifs at done
    · cases done
      exact Iff.rfl
    · cases done
      exact kept (getBuffer_status u w.stream frame 0 alloc)
  | wakeGetBuffer frame waitRes alloc =>
    simp only [perform] at done
    split_ifs at done
    cases done
    exact kept (getBufferWoken_status u w.stream frame waitRes alloc)
  | returnBuffer handle =>
    cases done
    exact kept (returnBufferLocked_status w.stream handle)
  | returnBufferToClient status timestamp frame =>
    obtain ⟨r,hr,rfl⟩ := Option.map_eq_some_iff.mp done
    exact kept (returnBufferToClient_status hr)
  | beginConfigure =>
    cases done
    show (w.stream.beginConfigure u).stream.PrepareActive ↔ _
    cases hs : w.stream.status <;> simp [beginConfigure,PrepareActive,hs]
  | endConfigure acquired =>
    cases done
    exact endConfigure_prepareActive u w.stream acquired
  | abortConfigure =>
    cases done
    show (w.stream.abortConfigure u).stream.PrepareActive ↔ _
    cases hs : w.stream.status <;>
      simp [abortConfigure,isConfigureActive,PrepareActive,hs]
  | tearDown =>
    cases done
    exact kept (tearDown_status w.stream)
  | close =>
    cases done
    exact close_prepareActive w.stream
  | beginPrepare | prepareBuffer | endPrepare => cases other

end StreamWorld

/-- The calls of the prepare handler, ThreadLoop in its parts between which the lock is free, and
those of others on a stream. -/
inductive PrepareCall (P : Type)
  | prepare (stream : P) (run : Int)
  | clear
  | threadLoop
  | prepareBuffer (alloc : Option Handle)
  | finishStream
  | other (stream : P) (c : StreamCall)

structure PrepareSystem (P : Type) where
  handler : Camera3PrepareHandler P
  streams : P → StreamWorld

namespace PrepareSystem

open Camera3Stream

variable {P : Type} [DecidableEq P]

def onStream {α : Type} (streams : P → StreamWorld) (p : P) (r : StreamResult α) :
    P → StreamWorld := Function.update streams p ((streams p).after r)

/-- EndPrepare of each stream. -/
def endAll (streams : P → StreamWorld) (ps : List P) : P → StreamWorld :=
  ps.foldl (fun streams p => onStream streams p (streams p).stream.endPrepareLocked) streams

def perform (u : BufferUsage) (w : PrepareSystem P) : PrepareCall P → Option (PrepareSystem P)
  | .prepare p run =>
    let begun := (w.streams p).stream.beginPrepare
    some ⟨(w.handler.prepare p begun.ret run).handler,onStream w.streams p begun⟩
  | .clear =>
    let cleared := w.handler.clear
    some ⟨cleared.handler,endAll w.streams cleared.ended⟩
  | .threadLoop =>
    if w.handler.prepareRunning ∧ w.handler.stage=.locked then
      let looped := w.handler.threadLoop
      some ⟨looped.handler,endAll w.streams looped.ended⟩
    else none
  | .prepareBuffer alloc =>
    match w.handler.stage,w.handler.preparedStream with
    | .preparing,some p =>
      let r := (w.streams p).stream.prepareBuffer u alloc
      let answered := w.handler.prepareBuffer r.ret
      some ⟨answered.handler,endAll (onStream w.streams p r) answered.ended⟩
    | _,_ => none
  | .finishStream =>
    if w.handler.stage=.prepared then
      some { w with handler := w.handler.finishStream.handler }
    else none
  | .other p c =>
    if c.prepares then none
    else ((w.streams p).perform u c).map fun world =>
      { w with streams := Function.update w.streams p world }

def Step (u : BufferUsage) (w : PrepareSystem P) (call : PrepareCall P) (w' : PrepareSystem P) :
    Prop := w.perform u call=some w'

/-- The streams that the handler is to prepare: prepared_stream_ is not among them once its
PrepareBuffer is done and ThreadLoop is about to drop it. -/
def owned (h : Camera3PrepareHandler P) : List P :=
  h.streams++if h.stage=.prepared then [] else h.preparedStream.toList

/-- The streams in STATUS_PREPARE_ACTIVE are those that the handler is to prepare, once each, and
its thread runs while there are any. -/
structure Attended (w : PrepareSystem P) : Prop where
  active : ∀ p,(w.streams p).stream.PrepareActive ↔ p∈owned w.handler
  once : (owned w.handler).Nodup
  worker : ∀ p,(w.streams p).stream.PrepareActive → w.handler.prepareRunning=true

/-- Run does not fail for a stream whose prepare has begun. -/
def Starts (w : PrepareSystem P) : PrepareCall P → Prop
  | .prepare p run => (w.streams p).stream.beginPrepare.ret= -ENODATA →
      w.handler.prepareRunning=false → run=0
  | _ => True

instance (w : PrepareSystem P) : (call : PrepareCall P) → Decidable (w.Starts call)
  | .prepare _ _ => inferInstanceAs (Decidable (_=_ → _=_ → _=_))
  | .clear | .threadLoop | .prepareBuffer _ | .finishStream | .other _ _ =>
    inferInstanceAs (Decidable True)

variable {u : BufferUsage} {w w' : PrepareSystem P} {call : PrepareCall P}

omit [DecidableEq P] in
theorem endPrepareLocked_inactive (s : Camera3Stream) :
    ¬s.endPrepareLocked.stream.PrepareActive := by
  unfold endPrepareLocked PrepareActive
  split_ifs with hs
  · exact hs
  · simp

theorem onStream_active {α : Type} (streams : P → StreamWorld) (p q : P) (r : StreamResult α) :
    (onStream streams p r q).stream.PrepareActive ↔
      if q=p then r.stream.PrepareActive else (streams q).stream.PrepareActive := by
  unfold onStream
  split_ifs with same
  · rw [same,Function.update_self]
    rfl
  · rw [Function.update_of_ne same]

theorem endAll_active (streams : P → StreamWorld) (ps : List P) (q : P) :
    (endAll streams ps q).stream.PrepareActive ↔
      q∉ps ∧ (streams q).stream.PrepareActive := by
  induction ps generalizing streams with
  | nil => simp [endAll]
  | cons p ps ih =>
    rw [endAll,List.foldl_cons,← endAll,ih,onStream_active,List.mem_cons,not_or]
    split_ifs with same
    · exact iff_of_false (fun h => endPrepareLocked_inactive _ h.2) fun h => h.1.1 same
    · rw [and_iff_right same]

/-- The thread runs while the handler has streams or ThreadLoop is past its first lines. -/
def Busy (h : Camera3PrepareHandler P) : Prop :=
  h.streams≠[] ∨ h.preparedStream≠none ∨ h.stage≠.locked → h.prepareRunning=true

omit [DecidableEq P] in
theorem busy_of_owned {h : Camera3PrepareHandler P} (busy : Busy h) {p : P} (mem : p∈owned h) :
    h.prepareRunning=true := by
  refine busy ?_
  rcases List.mem_append.mp mem with queued|current
  · exact .inl (List.ne_nil_of_mem queued)
  · refine .inr (.inl ?_)
    intro none_prepared
    rw [none_prepared] at current
    split_ifs at current <;> cases current

theorem step_busy (busy : Busy w.handler) (h : Step u w call w') : Busy w'.handler := by
  unfold Step at h
  cases call with
  | prepare p run =>
    cases h
    show Busy (w.handler.prepare p _ run).handler
    unfold Camera3PrepareHandler.prepare
    split_ifs with _ _ running
    · exact busy
    · exact busy
    · exact fun _ => running
    · exact busy
    · exact fun _ => rfl
  | clear =>
    cases h
    exact fun held => busy (held.elim (fun h => absurd rfl h) .inr)
  | threadLoop =>
    simp only [perform] at h
    split_ifs at h with ready
    cases h
    show Busy w.handler.threadLoop.handler
    unfold Camera3PrepareHandler.threadLoop
    cases current : w.handler.preparedStream with
    | none =>
      cases queue : w.handler.streams with
      | nil =>
        rintro (queued|held|stage)
        · exact absurd rfl queued
        · exact absurd rfl held
        · exact absurd ready.2 stage
      | cons p rest => exact fun _ => ready.1
    | some p =>
      dsimp only
      split_ifs <;> exact fun _ => ready.1
  | prepareBuffer alloc =>
    simp only [perform] at h
    split at h
    · next p stage current =>
      cases h
      have running := busy (.inr (.inr (by simp [stage])))
      show Busy (w.handler.prepareBuffer _).handler
      unfold Camera3PrepareHandler.prepareBuffer
      split_ifs <;> exact fun _ => running
    · cases h
  | finishStream =>
    simp only [perform] at h
    split_ifs at h with stage
    cases h
    exact fun _ => busy (.inr (.inr (by simp [stage])))
  | other p c =>
    simp only [perform] at h
    split_ifs at h
    obtain ⟨world,-,rfl⟩ := Option.map_eq_some_iff.mp h
    exact busy

omit [DecidableEq P] in
/-- A step that leaves both the handler's streams and the active ones. -/
theorem Attended.keeps (h : w.Attended) (busy : Busy w'.handler)
    (same : (owned w'.handler).Perm (owned w.handler))
    (active : ∀ p,(w'.streams p).stream.PrepareActive ↔ (w.streams p).stream.PrepareActive) :
    w'.Attended := by
  have owns (p : P) : (w'.streams p).stream.PrepareActive ↔ p∈owned w'.handler := by
    rw [active,h.active,same.mem_iff]
  exact ⟨owns,same.nodup_iff.mpr h.once,fun p hp => busy_of_owned busy ((owns p).mp hp)⟩

omit [DecidableEq P] in
/-- A step that drops some of the handler's streams and ends their prepare. -/
theorem Attended.ends (h : w.Attended) (busy : Busy w'.handler) {ended : List P}
    (split : (owned w.handler).Perm (ended++owned w'.handler))
    (active : ∀ p,(w'.streams p).stream.PrepareActive ↔
      p∉ended ∧ (w.streams p).stream.PrepareActive) : w'.Attended := by
  obtain ⟨-,once,apart⟩ := List.nodup_append.mp (split.nodup_iff.mp h.once)
  have owns (p : P) : (w'.streams p).stream.PrepareActive ↔ p∈owned w'.handler := by
    rw [active,h.active,split.mem_iff,List.mem_append]
    constructor
    · rintro ⟨kept,mem⟩
      exact mem.resolve_left kept
    · exact fun mem => ⟨fun gone => apart p gone p mem rfl,.inr mem⟩
  exact ⟨owns,once,fun p hp => busy_of_owned busy ((owns p).mp hp)⟩

omit [DecidableEq P] in
/-- A step that begins the prepare of a stream and gives it to the handler. -/
theorem Attended.begins (h : w.Attended) (busy : Busy w'.handler) {p : P}
    (new : p∉owned w.handler) (more : (owned w'.handler).Perm (p::owned w.handler))
    (active : ∀ q,(w'.streams q).stream.PrepareActive ↔
      q=p ∨ (w.streams q).stream.PrepareActive) : w'.Attended := by
  have owns (q : P) : (w'.streams q).stream.PrepareActive ↔ q∈owned w'.handler := by
    rw [active,h.active,more.mem_iff,List.mem_cons]
  exact ⟨owns,more.nodup_iff.mpr (List.nodup_cons.mpr ⟨new,h.once⟩),
    fun q hq => busy_of_owned busy ((owns q).mp hq)⟩

/-- A step that leaves the handler's streams, on one stream that it leaves active or not. -/
theorem Attended.touches {α : Type} (h : w.Attended) (busy : Busy w'.handler) {p : P}
    {r : StreamResult α} (streams : w'.streams=onStream w.streams p r)
    (same : (owned w'.handler).Perm (owned w.handler))
    (active : r.stream.PrepareActive ↔ (w.streams p).stream.PrepareActive) : w'.Attended := by
  refine h.keeps busy same ?_
  intro q
  rw [streams,onStream_active]
  split_ifs with here
  · rw [here,active]
  · exact Iff.rfl

theorem beginPrepare_active (s : Camera3Stream) :
    s.beginPrepare.stream.PrepareActive ↔ s.PrepareActive ∨ s.beginPrepare.ret= -ENODATA := by
  have apart : -ENOSYS≠ -ENODATA := by decide
  unfold beginPrepare PrepareActive
  split_ifs <;> simp [apart]

omit [DecidableEq P] in
theorem beginPrepare_inactive {s : Camera3Stream} (begun : s.beginPrepare.ret= -ENODATA) :
    ¬s.PrepareActive := by
  intro active
  rw [Camera3Stream.beginPrepare,if_pos (by rw [active]; decide)] at begun
  cases begun

omit [DecidableEq P] in
/-- Prepare gives its stream to the thread, which runs already or starts. -/
theorem owned_prepare {h : Camera3PrepareHandler P} {run : Int}
    (started : h.prepareRunning=false → run=0) (p : P) :
    (owned (h.prepare p (-ENODATA) run).handler).Perm (p::owned h) := by
  have pushed : (owned { h with streams := h.streams++[p] }).Perm (p::owned h) := by
    unfold owned
    rw [List.append_assoc]
    exact List.perm_middle
  unfold Camera3PrepareHandler.prepare
  rw [if_neg (by decide),if_neg (not_not.mpr rfl)]
  split_ifs with running failed
  · exact pushed
  · exact absurd (started (Bool.eq_false_iff.mpr running)) failed
  · exact pushed

omit [DecidableEq P] in
theorem prepare_refused {h : Camera3PrepareHandler P} {begun run : Int}
    (refused : begun≠ -ENODATA ∨ h.prepareRunning=false ∧ run≠0) (p : P) :
    (h.prepare p begun run).handler=h := by
  unfold Camera3PrepareHandler.prepare
  split_ifs with _ none running failed
  · rfl
  · rfl
  · have idle := (refused.resolve_left none).1
    rw [running] at idle
    cases idle
  · rfl
  · exact absurd (not_not.mp failed) (refused.resolve_left none).2

theorem prepare_attended_iff {p : P} {run : Int} (h : w.Attended) (busy : Busy w.handler)
    (step : Step u w (.prepare p run) w') : w'.Attended ↔ w.Starts (.prepare p run) := by
  have still := step_busy busy step
  cases step
  by_cases begun : (w.streams p).stream.beginPrepare.ret= -ENODATA
  · have inactive := beginPrepare_inactive begun
    have active (q : P) :
        (onStream w.streams p (w.streams p).stream.beginPrepare q).stream.PrepareActive ↔
          q=p ∨ (w.streams q).stream.PrepareActive := by
      rw [onStream_active]
      split_ifs with here
      · exact iff_of_true ((beginPrepare_active _).mpr (.inr begun)) (.inl here)
      · rw [or_iff_right here]
    rw [begun] at still ⊢
    by_cases started : w.handler.prepareRunning=false → run=0
    · refine iff_of_true ?_ fun _ => started
      exact h.begins still (fun mem => inactive ((h.active p).mpr mem)) (owned_prepare started p)
        active
    · obtain ⟨idle,failed⟩ := Classical.not_imp.mp started
      refine iff_of_false ?_ fun starts => started (starts begun)
      intro after
      -- p is active now, and the handler that was to take it is as before.
      have mem := (after.active p).mp ((active p).mpr (.inl rfl))
      rw [prepare_refused (.inr ⟨idle,failed⟩)] at mem
      exact inactive ((h.active p).mpr mem)
  · refine iff_of_true ?_ fun hb => absurd hb begun
    refine h.touches still rfl (.of_eq (congrArg owned (prepare_refused (.inl begun) p))) ?_
    rw [beginPrepare_active,or_iff_left begun]

theorem clear_attended (h : w.Attended) (busy : Busy w.handler) (step : Step u w .clear w') :
    w'.Attended := by
  have still := step_busy busy step
  cases step
  exact h.ends still (List.Perm.refl (w.handler.streams++_)) (endAll_active _ _)

omit [DecidableEq P] in
theorem owned_threadLoop {h : Camera3PrepareHandler P} (entered : h.stage=.locked) :
    (owned h).Perm (h.threadLoop.ended++owned h.threadLoop.handler) := by
  unfold Camera3PrepareHandler.threadLoop
  cases current : h.preparedStream with
  | none =>
    cases queue : h.streams with
    | nil => simp [owned,current,queue,entered]
    | cons p rest =>
      simpa [owned,current,queue,entered] using (List.perm_append_singleton p rest).symm
  | some p =>
    by_cases abort : h.abortPrepare=true
    · simp [abort,owned,current,entered]
    · simp [abort,owned,current,entered]

theorem threadLoop_attended (h : w.Attended) (busy : Busy w.handler)
    (step : Step u w .threadLoop w') : w'.Attended := by
  have still := step_busy busy step
  simp only [Step,perform] at step
  split_ifs at step with ready
  cases step
  exact h.ends still (owned_threadLoop ready.2) (endAll_active _ _)

/-- A call of PrepareBuffer on a stream whose prepare is active ends the prepare when it has no
error. -/
theorem prepareBuffer_active {s : Camera3Stream} (active : s.status=.prepareActive)
    (alloc : Option Handle) : (s.prepareBuffer u alloc).stream.PrepareActive ↔
      (s.prepareBuffer u alloc).ret≠0 := by
  rcases prepareBuffer_cases u active alloc with ⟨l,-,eq,-⟩|⟨h,l,-,-,-,eq⟩
  · rw [eq]
    exact iff_of_true active (show -ENODEV≠0 by decide)
  · rw [eq]
    split_ifs
    · exact iff_of_true active (show -ENODATA≠0 by decide)
    · exact iff_of_false nofun (not_not.mpr rfl)

theorem prepareBuffer_attended {alloc : Option Handle} (h : w.Attended) (busy : Busy w.handler)
    (step : Step u w (.prepareBuffer alloc) w') : w'.Attended := by
  have still := step_busy busy step
  simp only [Step,perform] at step
  split at step
  · next p stage current =>
    cases step
    have active : (w.streams p).stream.PrepareActive := by
      refine (h.active p).mpr (List.mem_append_right _ ?_)
      simp [stage,current]
    have after := prepareBuffer_active (u := u) active alloc
    generalize (w.streams p).stream.prepareBuffer u alloc=r at still after ⊢
    by_cases again : r.ret= -ENODATA
    · have eq : w.handler.prepareBuffer r.ret=⟨1,{ w.handler with stage := .locked },[],[]⟩ :=
        if_pos again
      rw [eq] at still ⊢
      refine h.touches still rfl ?_ (iff_of_true (after.mpr (by rw [again]; decide)) active)
      simp [owned,stage]
    · have eq : w.handler.prepareBuffer r.ret=
          ⟨1,{ w.handler with stage := .prepared },if r.ret≠0 then [p] else [],[]⟩ := by
        simp [Camera3PrepareHandler.prepareBuffer,again,current]
      rw [eq] at still ⊢
      refine h.ends still (?_ : (owned w.handler).Perm ([p]++_)) ?_
      · simp [owned,stage,current]
      · intro q
        rw [endAll_active,onStream_active,after,List.mem_singleton]
        by_cases here : q=p
        · rw [if_pos here]
          refine iff_of_false ?_ fun h => h.1 here
          rintro ⟨kept,failed⟩
          rw [here,if_pos failed] at kept
          exact kept (List.mem_singleton_self p)
        · rw [if_neg here]
          refine and_congr_left' (iff_of_true ?_ here)
          split_ifs
          · exact fun mem => here (List.mem_singleton.mp mem)
          · exact List.not_mem_nil
  · cases step

theorem finishStream_attended (h : w.Attended) (busy : Busy w.handler)
    (step : Step u w .finishStream w') : w'.Attended := by
  have still := step_busy busy step
  simp only [Step,perform] at step
  split_ifs at step with stage
  cases step
  refine h.keeps still ?_ fun _ => Iff.rfl
  simp [owned,stage,Camera3PrepareHandler.finishStream]

theorem other_attended {p : P} {c : StreamCall} (h : w.Attended) (busy : Busy w.handler)
    (step : Step u w (.other p c) w') : w'.Attended := by
  have still := step_busy busy step
  simp only [Step,perform] at step
  split_ifs at step with prepares
  obtain ⟨world,done,rfl⟩ := Option.map_eq_some_iff.mp step
  refine h.keeps still (.refl _) ?_
  intro q
  dsimp only
  by_cases here : q=p
  · rw [here,Function.update_self]
    exact StreamWorld.perform_prepareActive (Bool.eq_false_iff.mpr prepares) done
  · rw [Function.update_of_ne here]

theorem step_attended_iff (busy : Busy w.handler) (h : w.Attended) (step : Step u w call w') :
    w'.Attended ↔ w.Starts call := by
  cases call with
  | prepare p run => exact prepare_attended_iff h busy step
  | clear => exact iff_of_true (clear_attended h busy step) trivial
  | threadLoop => exact iff_of_true (threadLoop_attended h busy step) trivial
  | prepareBuffer alloc => exact iff_of_true (prepareBuffer_attended h busy step) trivial
  | finishStream => exact iff_of_true (finishStream_attended h busy step) trivial
  | other p c => exact iff_of_true (other_attended h busy step) trivial

/-- The handler as constructed, with streams none of which is in STATUS_PREPARE_ACTIVE. In a run
in which the thread starts for every stream whose prepare begins, the active streams are always
those that the handler is to prepare, and a step keeps that exactly when the thread starts. -/
theorem attended_iff_starts (u : BufferUsage) {prepareCb : Bool} {streams : P → StreamWorld}
    {steps : List (PrepareCall P)} (none_active : ∀ p,¬(streams p).stream.PrepareActive)
    (hr : Run (Guarded Starts (Step u)) ⟨.construct prepareCb,streams⟩ steps w) :
    w.Attended ∧ ∀ call w',Step u w call w' → (w'.Attended ↔ w.Starts call) := by
  refine hr.kept_iff_guard (I := fun w => Busy w.handler) ?_ ?_ ?_ ?_
  · intro w call w' busy _ step _
    exact step_busy busy step
  · intro w call w' busy attended step
    exact step_attended_iff busy attended step
  · rintro (queued|held|stage)
    · exact absurd rfl queued
    · exact absurd rfl held
    · exact absurd rfl stage
  · exact ⟨fun p => iff_of_false (none_active p) List.not_mem_nil,List.nodup_nil,
      fun p active => absurd active (none_active p)⟩

def previewPrepare : PrepareSystem Unit := ⟨.construct true,fun _ => StreamWorld.preview⟩

def configuring : List (PrepareCall Unit) := [.other () .beginConfigure,.other () (.endConfigure 0)]

/-- The thread starts, allocates both buffers and ends. -/
def prepared : List (PrepareCall Unit) := configuring++[.prepare () 0,.threadLoop,
  .prepareBuffer (some 5),.threadLoop,.prepareBuffer (some 6),.finishStream,.threadLoop]

theorem attended_prepared : ∃ w,
    Run (Guarded Starts (Step .android)) previewPrepare prepared w ∧ w.Attended := by
  obtain ⟨w,hr,-⟩ := Run.of_exec_guarded (f := perform .android) (G := Starts)
    (p := fun _ => true) previewPrepare prepared (fun _ _ _ h => h) (by decide)
  have none_active (p : Unit) : ¬(previewPrepare.streams p).stream.PrepareActive := by
    show StreamWorld.preview.stream.status≠.prepareActive
    decide
  exact ⟨w,hr,(attended_iff_starts .android none_active hr).1⟩

/-- Run fails: the stream is active and no worker has it. -/
theorem failed_run_blocks : ¬∀ steps w,Run (Step .android) previewPrepare steps w →
    w.Attended := by
  intro supposed
  obtain ⟨w,hr,hw⟩ := Run.of_exec_any (r := Step .android) (f := perform .android)
    (p := fun w => (w.streams ()).stream.status=.prepareActive ∧ owned w.handler=[])
    previewPrepare (configuring++[.prepare () (-1)]) (fun _ _ _ h => h) (by decide)
  obtain ⟨active,unowned⟩ := of_decide_eq_true hw
  have mem := ((supposed _ w hr).active ()).mp active
  rw [unowned] at mem
  cases mem

end PrepareSystem
end IotMedia.Camera

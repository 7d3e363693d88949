import IotMedia.Framework.Run
import Mathlib.Logic.Function.Basic
import Mathlib.Data.List.Basic

namespace IotMedia.Framework

/-! Threads that raise a flag, loop while it is raised and lower some flags on their way out. A flag
goes by the name of the thread that raises it. -/

inductive WorkerPoint (W : Type)
  | created
  | started
  | test
  | body
  | leaving (flags : List W)
  deriving DecidableEq

/-- What the thread that stops the others does: the joins of one block are given up together. -/
inductive StopCommand (W : Type)
  | lower (flag : W)
  | join (workers : List W)
  deriving DecidableEq

/-- The threads in the order of their starts, the commands that stop them, which loops can also be
left at a break, and the flags that each thread lowers at last. A flag is lowered by threads only
that are started after its own, and by the commands only if its own is started. -/
structure WorkerScript (W : Type) where
  starts : List W
  stops : List (StopCommand W)
  breaks : W → Bool
  lowers : W → List W
  stops_started : ∀ f,.lower f∈stops → f∈starts
  lowers_started : ∀ i (h : i<starts.length),∀ f∈lowers starts[i],f∈starts.take (i+1)

structure WorkerSession (W : Type) where
  running : W → Bool
  point : W → WorkerPoint W := fun _ => .created
  starting : List W
  stopping : List (StopCommand W)

inductive WorkerStep (W : Type)
  | start
  | stop
  | interrupt
  | raise (w : W)
  | test (w : W)
  | pass (w : W)
  | leave (w : W)
  | lower (w : W)
  deriving DecidableEq

namespace WorkerSession

variable {W : Type} [DecidableEq W]

/-- One step of one thread. A join returns when the thread has ended or when it is interrupted. -/
def perform (c : WorkerScript W) (s : WorkerSession W) : WorkerStep W → Option (WorkerSession W)
  | .start =>
    match s.starting with
    | w::starting =>
      if s.point w=.created then
        some { s with
          point := Function.update s.point w .started
          starting }
      else none
    | [] => none
  | .stop =>
    match s.starting,s.stopping with
    | [],.lower f::stopping =>
      some { s with
        running := Function.update s.running f false
        stopping }
    | [],.join []::stopping => some { s with stopping }
    | [],.join (w::ws)::stopping =>
      if s.point w=.leaving [] then some { s with stopping := .join ws::stopping } else none
    | _,_ => none
  | .interrupt =>
    match s.starting,s.stopping with
    | [],.join _::stopping => some { s with stopping }
    | _,_ => none
  | .raise w =>
    if s.point w=.started then
      some { s with
        running := Function.update s.running w true
        point := Function.update s.point w .test }
    else none
  | .test w =>
    if s.point w=.test then
      some { s with
        point := Function.update s.point w (if s.running w then .body else .leaving (c.lowers w)) }
    else none
  | .pass w =>
    if s.point w=.body then some { s with point := Function.update s.point w .test } else none
  | .leave w =>
    if s.point w=.body ∧ c.breaks w then
      some { s with point := Function.update s.point w (.leaving (c.lowers w)) }
    else none
  | .lower w =>
    match s.point w with
    | .leaving (f::flags) =>
      some { s with
        running := Function.update s.running f false
        point := Function.update s.point w (.leaving flags) }
    | _ => none

def Step (c : WorkerScript W) (s : WorkerSession W) (step : WorkerStep W) (t : WorkerSession W) :
    Prop := perform c s step=some t

/-- Before the first start, with the flags as they were left. -/
def begin (c : WorkerScript W) (running : W → Bool) : WorkerSession W where
  running
  starting := c.starts
  stopping := c.stops

/-- The step lowers the flag. -/
def Lowers (s : WorkerSession W) : WorkerStep W → W → Prop
  | .stop,f => s.starting=[] ∧ ∃ stopping,s.stopping=.lower f::stopping
  | .lower w,f => ∃ flags,s.point w=.leaving (f::flags)
  | _,_ => False

/-- The thread has run and raised its flag. -/
def Raised (s : WorkerSession W) (f : W) : Prop := s.point f≠.created ∧ s.point f≠.started

instance (s : WorkerSession W) (f : W) : Decidable (s.Raised f) := inferInstanceAs (Decidable (_∧_))

/-- The flag stays low whatever happens, and its thread leaves its loop at the next test. -/
def StaysLow (c : WorkerScript W) (s : WorkerSession W) (f : W) : Prop :=
  ∀ steps t,Run (Step c) s steps t →
    t.running f=false ∧ ∀ u,Step c t (.test f) u → u.point f=.leaving (c.lowers f)

/-- What a step can do, thread by thread. -/
inductive Moved (c : WorkerScript W) (s : WorkerSession W) :
    WorkerStep W → WorkerSession W → Prop
  | start {starting : List W} (w : W) : s.starting=w::starting → s.point w=.created →
      Moved c s .start { s with point := Function.update s.point w .started,starting }
  | command {stopping : List (StopCommand W)} (f : W) :
      s.starting=[] → s.stopping=.lower f::stopping →
      Moved c s .stop { s with running := Function.update s.running f false,stopping }
  | join {i : WorkerStep W} (stopping : List (StopCommand W)) :
      (∀ f,.lower f∈stopping → .lower f∈s.stopping) → Moved c s i { s with stopping }
  | raise (w : W) : s.point w=.started →
      Moved c s (.raise w) { s with
        running := Function.update s.running w true
        point := Function.update s.point w .test }
  | move {i : WorkerStep W} (w : W) (point : WorkerPoint W) : s.point w=.test ∨ s.point w=.body →
      (point=.test ∨ point=.body ∨ point=.leaving (c.lowers w)) →
      Moved c s i { s with point := Function.update s.point w point }
  | lower {flags : List W} (w f : W) : s.point w=.leaving (f::flags) →
      Moved c s (.lower w) { s with
        running := Function.update s.running f false
        point := Function.update s.point w (.leaving flags) }

variable {c : WorkerScript W} {s t : WorkerSession W} {i : WorkerStep W} {f w : W}

theorem Step.moved (h : Step c s i t) : Moved c s i t := by
  unfold Step at h
  cases i with
  | start =>
    simp only [perform] at h
    split at h
    · next w starting at_ =>
      split_ifs at h with created
      cases h
      exact .start w at_ created
    · cases h
  | stop =>
    simp only [perform] at h
    split at h
    · next f stopping idle at_ =>
      cases h
      exact .command f idle at_
    · next stopping idle at_ =>
      cases h
      exact .join stopping fun f later => by simp [at_,later]
    · next w ws stopping idle at_ =>
      split_ifs at h
      cases h
      exact .join _ fun f later => by simpa [at_] using later
    · cases h
  | interrupt =>
    simp only [perform] at h
    split at h
    · next ws stopping idle at_ =>
      cases h
      exact .join stopping fun f later => by simp [at_,later]
    · cases h
  | raise w =>
    simp only [perform] at h
    split_ifs at h with at_
    cases h
    exact .raise w at_
  | test w =>
    simp only [perform] at h
    split_ifs at h with at_ low
    · cases h
      exact .move w _ (.inl at_) (.inr (.inl rfl))
    · cases h
      exact .move w _ (.inl at_) (.inr (.inr rfl))
  | pass w =>
    simp only [perform] at h
    split_ifs at h with at_
    cases h
    exact .move w _ (.inr at_) (.inl rfl)
  | leave w =>
    simp only [perform] at h
    split_ifs at h with at_
    cases h
    exact .move w _ (.inr at_.1) (.inr (.inr rfl))
  | lower w =>
    simp only [perform] at h
    split at h
    · next f flags at_ =>
      cases h
      exact .lower w f at_
    · cases h

/-- A session on its way: the threads started are the first ones of the script, and what is left to
lower is of the script too. -/
structure Begun (c : WorkerScript W) (s : WorkerSession W) : Prop where
  started : ∃ first,c.starts=first++s.starting ∧ ∀ w,s.point w≠.created ↔ w∈first
  stopping : ∀ f,.lower f∈s.stopping → .lower f∈c.stops
  leaving : ∀ w flags,s.point w=.leaving flags → ∀ f∈flags,f∈c.lowers w

omit [DecidableEq W] in
theorem begin_begun (running : W → Bool) : Begun c (begin c running) where
  started := ⟨[],rfl,by simp [begin]⟩
  stopping _ h := h
  leaving _ _ h := by cases h

/-- A thread that has been started goes on, and the others stay where they are. -/
theorem Begun.move (b : Begun c s) {point : WorkerPoint W} (running : W → Bool)
    (begun : s.point w≠.created) (on : point≠.created)
    (lowers : ∀ flags,point=.leaving flags → ∀ f∈flags,f∈c.lowers w) :
    Begun c { s with running,point := Function.update s.point w point } := by
  obtain ⟨first,starts,points⟩ := b.started
  refine ⟨⟨first,starts,fun v => ?_⟩,b.stopping,?_⟩
  · by_cases same : v=w
    · subst same
      simpa [on] using (points v).mp begun
    · simpa [same] using points v
  · intro v flags leaving
    by_cases same : v=w
    · subst same
      exact lowers flags (by simpa using leaving)
    · exact b.leaving v flags (by simpa [same] using leaving)

theorem Begun.step (b : Begun c s) (h : Step c s i t) : Begun c t := by
  cases h.moved with
  | start w at_ created =>
    obtain ⟨first,starts,points⟩ := b.started
    refine ⟨⟨first++[w],by simp [starts,at_],fun v => ?_⟩,b.stopping,?_⟩
    · by_cases same : v=w
      · simp [same]
      · simpa [same] using points v
    · intro v flags leaving
      by_cases same : v=w
      · simp [same] at leaving
      · exact b.leaving v flags (by simpa [same] using leaving)
  | command f idle at_ =>
    exact ⟨b.started,fun g later => b.stopping g (by simp [at_,later]),b.leaving⟩
  | join stopping fewer => exact ⟨b.started,fun f later => b.stopping f (fewer f later),b.leaving⟩
  | raise w at_ => exact b.move _ (by simp [at_]) (by simp) (by simp)
  | move w point at_ next =>
    refine b.move _ ?_ ?_ ?_
    · rcases at_ with at_|at_ <;> simp [at_]
    · rcases next with rfl|rfl|rfl <;> simp
    · rintro flags rfl f lowered
      rcases next with same|same|same
      · cases same
      · cases same
      · cases same
        exact lowered
  | lower w f at_ =>
    refine b.move _ (by simp [at_]) (by simp) ?_
    rintro flags same g lowered
    cases same
    exact b.leaving w _ at_ g (List.mem_cons_of_mem f lowered)

theorem begun_of_run {running : W → Bool} {steps : List (WorkerStep W)}
    (hr : Run (Step c) (begin c running) steps s) : Begun c s :=
  hr.invariant (fun _ _ _ b h => b.step h) (begin_begun running)

omit [DecidableEq W] in
/-- A flag is lowered only after its thread has been started. -/
theorem Begun.lowers_started (b : Begun c s) (h : Lowers s i f) : s.point f≠.created := by
  obtain ⟨first,starts,points⟩ := b.started
  refine (points f).mpr ?_
  cases i with
  | stop =>
    obtain ⟨idle,stopping,at_⟩ := h
    have started := c.stops_started f (b.stopping f (by simp [at_]))
    rwa [starts,idle,List.append_nil] at started
  | lower w =>
    obtain ⟨flags,at_⟩ := h
    have lowered := b.leaving w _ at_ f List.mem_cons_self
    obtain ⟨k,within,rfl⟩ := List.mem_iff_getElem.mp ((points w).mp (by simp [at_]))
    have before : k<c.starts.length := by
      rw [starts,List.length_append]
      omega
    have here : c.starts[k]=first[k] := by simp [starts,within]
    have started := c.lowers_started k before f (by rwa [here])
    rw [starts,List.take_append_of_le_length (by omega)] at started
    exact List.mem_of_mem_take started
  | _ => exact h.elim

/-- The step that lowers a flag leaves it low, and its thread where it was unless that is the one
that lowers it. -/
theorem Lowers.step (h : Lowers s i f) (taken : Step c s i t) :
    t.running f=false ∧ (Raised s f → Raised t f) ∧ (s.point f=.started → t.point f=.started) := by
  cases i with
  | stop =>
    obtain ⟨idle,stopping,at_⟩ := h
    simp only [Step,perform,idle,at_,Option.some.injEq] at taken
    subst taken
    exact ⟨by simp,fun raised => raised,fun started => started⟩
  | lower w =>
    obtain ⟨flags,at_⟩ := h
    simp only [Step,perform,at_,Option.some.injEq] at taken
    subst taken
    refine ⟨by simp,?_,?_⟩
    · rintro ⟨created,started⟩
      by_cases same : f=w
      · simp [Raised,same]
      · exact ⟨by simpa [same] using created,by simpa [same] using started⟩
    · intro started
      have other : f≠w := by
        rintro rfl
        simp [at_] at started
      simpa [other] using started
  | _ => exact h.elim

/-- A thread that has raised its flag does not do so again. -/
theorem Step.low (h : Step c s i t) (raised : Raised s f) (low : s.running f=false) :
    Raised t f ∧ t.running f=false := by
  obtain ⟨created,started⟩ := raised
  have point {w : W} {point : WorkerPoint W} (h : point≠.created) (h' : point≠.started) :
      Function.update s.point w point f≠.created ∧ Function.update s.point w point f≠.started := by
    by_cases same : f=w
    · simp [same,h,h']
    · simp [same,created,started]
  have flag (g : W) : Function.update s.running g false f=false := by
    by_cases same : f=g
    · simp [same]
    · simp [same,low]
  cases h.moved with
  | start w at_ fresh =>
    have other : f≠w := by
      rintro rfl
      exact created fresh
    exact ⟨⟨by simpa [other] using created,by simpa [other] using started⟩,low⟩
  | command g => exact ⟨⟨created,started⟩,flag g⟩
  | join => exact ⟨⟨created,started⟩,low⟩
  | raise w at_ =>
    have other : f≠w := by
      rintro rfl
      exact started at_
    exact ⟨point (by simp) (by simp),by simpa [other] using low⟩
  | move w next _ point_ =>
    refine ⟨point ?_ ?_,low⟩
    · rcases point_ with rfl|rfl|rfl <;> simp
    · rcases point_ with rfl|rfl|rfl <;> simp
  | lower w g => exact ⟨point (by simp) (by simp),flag g⟩

/-- A thread that runs after its flag has been lowered raises it again. -/
theorem not_staysLow (h : Lowers s i f) (taken : Step c s i t) (started : s.point f=.started) :
    ¬StaysLow c t f := by
  intro stays
  have raise : Step c t (.raise f)
      { t with
        running := Function.update t.running f true
        point := Function.update t.point f .test } := if_pos ((h.step taken).2.2 started)
  have low := (stays _ _ (.snoc .nil raise)).1
  simp at low

/-- A flag that has been lowered stays low exactly if its thread had raised it before. -/
theorem staysLow_iff (b : Begun c s) (h : Lowers s i f) (taken : Step c s i t) :
    StaysLow c t f ↔ Raised s f := by
  obtain ⟨low,still,-⟩ := h.step taken
  constructor
  · intro stays
    exact ⟨b.lowers_started h,fun started => not_staysLow h taken started stays⟩
  · intro raised steps u hr
    have later : Raised u f ∧ u.running f=false :=
      hr.invariant (P := fun u => Raised u f ∧ u.running f=false)
        (fun _ _ _ p h => h.low p.1 p.2) ⟨still raised,low⟩
    refine ⟨later.2,fun v tested => ?_⟩
    simp only [Step,perform] at tested
    split_ifs at tested with at_ high
    · simp [later.2] at high
    · cases tested
      simp

end WorkerSession

end IotMedia.Framework

import Mathlib.Data.List.Induction

namespace IotMedia.Framework

variable {σ ι : Type}

/-- A finite run of a labelled step relation, its labels in the order of the steps. -/
inductive Run (step : σ → ι → σ → Prop) (s : σ) : List ι → σ → Prop
  | nil : Run step s [] s
  | snoc {is : List ι} {t u : σ} {i : ι} :
      Run step s is t → step t i u → Run step s (is++[i]) u

/-- The steps taken from a state and with a label that meet `G`. -/
def Guarded (G : σ → ι → Prop) (step : σ → ι → σ → Prop) : σ → ι → σ → Prop :=
  fun s i t => G s i ∧ step s i t

variable {step step' : σ → ι → σ → Prop} {s t u : σ} {is js : List ι}

/-- What one step preserves holds after every run. -/
theorem Run.invariant {P : σ → Prop} (keep : ∀ t i u, P t → step t i u → P u)
    (hr : Run step s is t) (hs : P s) : P t := by
  induction hr with
  | nil => exact hs
  | snoc _ hstep ih => exact keep _ _ _ ih hstep

theorem Run.append (hr : Run step s is t) (hk : Run step t js u) :
    Run step s (is++js) u := by
  induction hk with
  | nil => simpa using hr
  | snoc _ hstep ih =>
    rw [← List.append_assoc]
    exact .snoc ih hstep

theorem Run.cons {i : ι} (h : step s i t) (hr : Run step t is u) : Run step s (i::is) u := by
  have first : Run step s [i] t := .snoc .nil h
  exact first.append hr

/-- A guard that every label of a run meets can be added. -/
theorem Run.guard {G : σ → ι → Prop} (hr : Run step s is t) (hg : ∀ i∈is,∀ t,G t i) :
    Run (Guarded G step) s is t := by
  induction hr with
  | nil => exact .nil
  | snoc _ hstep ih =>
    have before := ih fun i hi => hg i (List.mem_append_left _ hi)
    exact .snoc before ⟨hg _ (List.mem_append_right _ List.mem_cons_self) _,hstep⟩

theorem Run.unguard {G : σ → ι → Prop} (hr : Run (Guarded G step) s is t) : Run step s is t := by
  induction hr with
  | nil => exact .nil
  | snoc _ hstep ih => exact .snoc ih hstep.2

theorem Run.guard_mono {G G' : σ → ι → Prop} (imp : ∀ s i,G s i → G' s i)
    (hr : Run (Guarded G step) s is t) : Run (Guarded G' step) s is t := by
  induction hr with
  | nil => exact .nil
  | snoc _ hstep ih => exact .snoc ih ⟨imp _ _ hstep.1,hstep.2⟩

/-- A property that a step keeps exactly where it meets `G` holds after a run of such steps, and a
further step keeps it exactly where it meets `G`. `I` is what the step lemma needs besides. -/
theorem Run.kept_iff_guard {G : σ → ι → Prop} {I P : σ → Prop}
    (inv : ∀ t i u,I t → P t → step t i u → G t i → I u)
    (kept : ∀ t i u,I t → P t → step t i u → (P u ↔ G t i))
    (hr : Run (Guarded G step) s is t) (hi : I s) (hp : P s) :
    P t ∧ ∀ i u,step t i u → (P u ↔ G t i) := by
  have both : I t ∧ P t := by
    refine hr.invariant (P := fun t => I t ∧ P t) ?_ ⟨hi,hp⟩
    rintro t i u ⟨ht,pt⟩ ⟨guard,hstep⟩
    exact ⟨inv t i u ht pt hstep guard,(kept t i u ht pt hstep).mpr guard⟩
  exact ⟨both.2,fun i u hstep => kept t i u both.1 both.2 hstep⟩

/-- A run whose every step another relation takes under a map of the states is a run of that one. -/
theorem Run.simulate {τ κ : Type} {below : τ → κ → τ → Prop} (abs : σ → τ) (label : σ → ι → κ)
    (sim : ∀ s i t,step s i t → below (abs s) (label s i) (abs t)) (hr : Run step s is t) :
    ∃ ks,Run below (abs s) ks (abs t) := by
  induction hr with
  | nil => exact ⟨[],.nil⟩
  | snoc _ hstep ih =>
    obtain ⟨ks,before⟩ := ih
    exact ⟨_,.snoc before (sim _ _ _ hstep)⟩

/-- The same where the map of the states relies on what every step keeps, with the labels. -/
theorem Run.refines {τ : Type} {below : τ → ι → τ → Prop} {I : σ → Prop} (abs : σ → τ)
    (keep : ∀ s i t,I s → step s i t → I t)
    (sim : ∀ s i t,I s → step s i t → below (abs s) i (abs t)) (hr : Run step s is t)
    (hs : I s) : Run below (abs s) is (abs t) := by
  induction hr with
  | nil => exact .nil
  | snoc before hstep ih => exact .snoc ih (sim _ _ _ (before.invariant keep hs) hstep)

/-- Execution of a list of labels by a partial step function. -/
def exec (next : σ → ι → Option σ) : σ → List ι → Option σ
  | s,[] => some s
  | s,i::is => (next s i).bind fun t => exec next t is

theorem exec_append (f : σ → ι → Option σ) (s : σ) (is js : List ι) :
    exec f s (is++js)=(exec f s is).bind fun t => exec f t js := by
  induction is generalizing s with
  | nil => rfl
  | cons i is ih =>
    simp only [List.cons_append,exec,Option.bind_assoc]
    exact congrArg _ (funext ih)

variable {r : σ → ι → σ → Prop}

/-- An evaluated execution is a run; traces are replayed through this. -/
theorem Run.of_exec {f : σ → ι → Option σ} (sub : ∀ s i t, f s i=some t → r s i t)
    (h : exec f s is=some t) : Run r s is t := by
  induction is generalizing s with
  | nil =>
    obtain rfl : s=t := by simpa [exec] using h
    exact .nil
  | cons i is ih =>
    obtain ⟨u,hu,hrest⟩ := Option.bind_eq_some_iff.mp h
    exact Run.cons (sub _ _ _ hu) (ih hrest)

/-- An execution that ends in a state with a decidable property gives such a run. -/
theorem Run.of_exec_any {f : σ → ι → Option σ} {p : σ → Bool} (s : σ) (is : List ι)
    (sub : ∀ s i t, f s i=some t → r s i t) (h : (exec f s is).any p=true) :
    ∃ t,Run r s is t ∧ p t=true := by
  cases he : exec f s is with
  | none => simp [he] at h
  | some t => exact ⟨t,Run.of_exec sub he,by simpa [he] using h⟩

/-- The same with a guard that is decided along the way. -/
theorem Run.of_exec_guarded {f : σ → ι → Option σ} {G : σ → ι → Prop} [∀ s i,Decidable (G s i)]
    {p : σ → Bool} (s : σ) (is : List ι) (sub : ∀ s i t, f s i=some t → r s i t)
    (h : (exec (fun s i => if G s i then f s i else none) s is).any p=true) :
    ∃ t,Run (Guarded G r) s is t ∧ p t=true := by
  refine Run.of_exec_any s is ?_ h
  intro s i t taken
  split_ifs at taken with guard
  exact ⟨guard,sub s i t taken⟩

/-- Each label is allowed where a total step function has led. -/
def Follows (allowed : σ → ι → Prop) (next : σ → ι → σ) : σ → List ι → Prop
  | _,[] => True
  | s,i::is => allowed s i ∧ Follows allowed next (next s i) is

theorem Follows.left {a : σ → ι → Prop} {f : σ → ι → σ} {js : List ι}
    (h : Follows a f s (is++js)) : Follows a f s is := by
  induction is generalizing s with
  | nil => exact trivial
  | cons i is ih => exact ⟨h.1,ih h.2⟩

theorem Run.of_follows {a : σ → ι → Prop} {f : σ → ι → σ}
    (sub : ∀ s i,a s i → r s i (f s i)) (h : Follows a f s is) :
    Run r s is (is.foldl f s) := by
  induction is generalizing s with
  | nil => exact .nil
  | cons i is ih =>
    exact Run.cons (sub s i h.1) (ih h.2)

end IotMedia.Framework

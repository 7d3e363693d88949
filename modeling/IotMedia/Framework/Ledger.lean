import Mathlib.Data.List.Infix
import Mathlib.Data.List.Nodup
import Mathlib.Data.Set.Insert

namespace IotMedia.Framework

variable {ε κ : Type} [DecidableEq κ] {opens closes : ε → Option κ}

/-- Each key is closed after it is opened and before it is opened again, and at the end all keys are
closed. -/
structure Balanced (opens closes : ε → Option κ) (l : List ε) : Prop where
  sane : ∀ p,p <+: l → ∀ k,(p.filterMap closes).count k ≤ (p.filterMap opens).count k ∧
    (p.filterMap opens).count k ≤ (p.filterMap closes).count k+1
  closed : ∀ k,(l.filterMap opens).count k=(l.filterMap closes).count k

/-- The same with the keys that are still open. -/
structure Ledger (opens closes : ε → Option κ) (l : List ε) (S : Set κ) : Prop where
  sane : ∀ p,p <+: l → ∀ k,(p.filterMap closes).count k ≤ (p.filterMap opens).count k ∧
    (p.filterMap opens).count k ≤ (p.filterMap closes).count k+1
  held : ∀ k∈S,(l.filterMap opens).count k=(l.filterMap closes).count k+1
  closed : ∀ k,k∉S → (l.filterMap opens).count k=(l.filterMap closes).count k

variable {l l' : List ε} {S : Set κ}

theorem Ledger.nil : Ledger opens closes [] ∅ := by
  refine ⟨fun p hp k => ?_,fun k hk => absurd hk (Set.notMem_empty k),fun k _ => rfl⟩
  rw [List.prefix_nil.mp hp]
  simp

theorem Ledger.balanced_iff (h : Ledger opens closes l S) : Balanced opens closes l ↔ S=∅ := by
  constructor
  · intro balanced
    rw [Set.eq_empty_iff_forall_notMem]
    intro k hk
    have held := h.held k hk
    have closed := balanced.closed k
    omega
  · rintro rfl
    exact ⟨h.sane,fun k => h.closed k (Set.notMem_empty k)⟩

/-- A prefix of a longer history is one of the old history, or goes on after it. -/
theorem prefix_append_split {p : List ε} (h : p <+: l++l') : p <+: l ∨ ∃ q,q <+: l' ∧ p=l++q := by
  obtain ⟨r,eq⟩ := h
  rcases List.append_eq_append_iff.mp eq with ⟨a,rfl,-⟩|⟨q,rfl,rfl⟩
  · exact .inl (List.prefix_append p a)
  · exact .inr ⟨q,List.prefix_append q r,rfl⟩

/-- A part of the history that opens a key that is not open. -/
theorem Ledger.opening (h : Ledger opens closes l S) {k : κ} (hk : k∉S)
    (ho : l'.filterMap opens=[k]) (hc : l'.filterMap closes=[]) :
    Ledger opens closes (l++l') (insert k S) := by
  have whole (q : κ) : ((l++l').filterMap opens).count q=(l.filterMap opens).count q+[k].count q ∧
      ((l++l').filterMap closes).count q=(l.filterMap closes).count q := by
    simp [List.filterMap_append,ho,hc]
  have once : (l.filterMap opens).count k=(l.filterMap closes).count k := h.closed k hk
  have other {q : κ} (hq : q≠k) : [k].count q=0 := List.count_eq_zero_of_not_mem (by simpa using hq)
  refine ⟨fun p hp q => ?_,fun q hq => ?_,fun q hq => ?_⟩
  · rcases prefix_append_split hp with old|⟨r,hr,rfl⟩
    · exact h.sane p old q
    · have closed : r.filterMap closes=[] := List.prefix_nil.mp (hc ▸ hr.filterMap closes)
      have part := (hr.filterMap opens).sublist.count_le q
      rw [ho] at part
      have before := h.sane l List.prefix_rfl q
      simp only [List.filterMap_append,closed,List.append_nil,List.count_append]
      by_cases same : q=k
      · subst same
        rw [List.count_singleton_self] at part
        omega
      · rw [other same] at part
        omega
  · obtain ⟨opened,closed⟩ := whole q
    by_cases same : q=k
    · subst same
      rw [List.count_singleton_self] at opened
      omega
    · have held := h.held q (hq.resolve_left same)
      rw [other same] at opened
      omega
  · obtain ⟨opened,closed⟩ := whole q
    have done := h.closed q fun hS => hq (Set.mem_insert_of_mem k hS)
    have different : q≠k := by
      rintro rfl
      exact hq (Set.mem_insert q S)
    rw [other different] at opened
    omega

/-- A part of the history that closes keys that are open, each of them once. -/
theorem Ledger.closing (h : Ledger opens closes l S) {ks : List κ} (hs : ∀ k∈ks,k∈S)
    (once : ks.Nodup) (ho : l'.filterMap opens=[]) (hc : l'.filterMap closes=ks) :
    Ledger opens closes (l++l') (S \ {k | k∈ks}) := by
  have whole (k : κ) : ((l++l').filterMap opens).count k=(l.filterMap opens).count k ∧
      ((l++l').filterMap closes).count k=(l.filterMap closes).count k+ks.count k := by
    simp [List.filterMap_append,ho,hc]
  refine ⟨fun p hp k => ?_,fun k hk => ?_,fun k hk => ?_⟩
  · rcases prefix_append_split hp with old|⟨q,hq,rfl⟩
    · exact h.sane p old k
    · have opened : q.filterMap opens=[] := List.prefix_nil.mp (ho ▸ hq.filterMap opens)
      have part := (hq.filterMap closes).sublist.count_le k
      rw [hc] at part
      have some_more := h.sane l List.prefix_rfl k
      simp only [List.filterMap_append,opened,List.append_nil,List.count_append]
      by_cases mem : k∈ks
      · have held := h.held k (hs k mem)
        rw [List.count_eq_one_of_mem once mem] at part
        omega
      · rw [List.count_eq_zero_of_not_mem mem] at part
        omega
  · obtain ⟨opened,closed⟩ := whole k
    have held := h.held k hk.1
    have absent : ks.count k=0 := List.count_eq_zero_of_not_mem hk.2
    omega
  · obtain ⟨opened,closed⟩ := whole k
    by_cases mem : k∈ks
    · have held := h.held k (hs k mem)
      rw [List.count_eq_one_of_mem once mem] at closed
      omega
    · have done := h.closed k fun hS => hk ⟨hS,mem⟩
      rw [List.count_eq_zero_of_not_mem mem] at closed
      omega

/-- A part of the history that opens and closes nothing. -/
theorem Ledger.rest (h : Ledger opens closes l S) (ho : l'.filterMap opens=[])
    (hc : l'.filterMap closes=[]) : Ledger opens closes (l++l') S := by
  have unchanged : S \ {k | k∈([] : List κ)}=S := by
    ext k
    simp
  rw [← unchanged]
  exact h.closing (by simp) List.nodup_nil ho hc

end IotMedia.Framework

import Mathlib.Data.Set.Insert

namespace IotMedia.Framework

/-- The resources of a pool that are in use, and who holds them. -/
structure Custody (R P : Type) where
  used : Set R
  holds : R → P → Prop

namespace Custody

variable {R P : Type}

/-- A resource has one holder at most, and is in use while it has one. -/
structure Single (c : Custody R P) : Prop where
  single : ∀ {r p o},c.holds r p → c.holds r o → p=o
  used : ∀ {r p},c.holds r p → r∈c.used

/-- Whatever is in use has a holder. -/
def Covered (c : Custody R P) : Prop := ∀ r∈c.used,∃ p,c.holds r p

/-- In use, with nobody who could give it back. -/
def Lost (c : Custody R P) (r : R) : Prop := r∈c.used ∧ ∀ p,¬c.holds r p

/-- What one step does: at most one resource is taken from the pool, goes to another holder, is
given back, or is lost by its holder, which is told by the index. -/
inductive Transfer (c : Custody R P) : Option R → Custody R P → Prop
  | still {d : Custody R P} (used : d.used=c.used) (holds : ∀ r p,d.holds r p ↔ c.holds r p) :
    Transfer c none d
  | take {d : Custody R P} {r : R} {p : P} (free : r∉c.used) (used : d.used=insert r c.used)
      (holds : ∀ q o,d.holds q o ↔ c.holds q o ∨ q=r ∧ o=p) : Transfer c none d
  | move {d : Custody R P} {r : R} {p p' : P} (held : c.holds r p) (used : d.used=c.used)
      (holds : ∀ q o,d.holds q o ↔ c.holds q o ∧ q≠r ∨ q=r ∧ o=p') : Transfer c none d
  | giveBack {d : Custody R P} {r : R} {p : P} (held : c.holds r p) (used : d.used=c.used \ {r})
      (holds : ∀ q o,d.holds q o ↔ c.holds q o ∧ q≠r) : Transfer c none d
  | lose {d : Custody R P} {r : R} {p : P} (held : c.holds r p) (used : d.used=c.used)
      (holds : ∀ q o,d.holds q o ↔ c.holds q o ∧ q≠r) : Transfer c (some r) d

variable {c d : Custody R P} {r : R} {l : Option R}

theorem Single.transfer (h : Single c) (t : Transfer c l d) : Single d := by
  cases t with
  | still used holds =>
    refine ⟨fun one other => ?_,fun one => ?_⟩
    · exact h.single ((holds _ _).mp one) ((holds _ _).mp other)
    · rw [used]
      exact h.used ((holds _ _).mp one)
  | take free used holds =>
    refine ⟨fun one other => ?_,fun one => ?_⟩
    · rcases (holds _ _).mp one with old|⟨rfl,rfl⟩
      · rcases (holds _ _).mp other with old'|⟨rfl,rfl⟩
        · exact h.single old old'
        · exact absurd (h.used old) free
      · rcases (holds _ _).mp other with old'|⟨-,rfl⟩
        · exact absurd (h.used old') free
        · rfl
    · rw [used]
      rcases (holds _ _).mp one with old|⟨rfl,-⟩
      · exact Set.mem_insert_of_mem _ (h.used old)
      · exact Set.mem_insert _ _
  | move held used holds =>
    refine ⟨fun one other => ?_,fun one => ?_⟩
    · rcases (holds _ _).mp one with ⟨old,away⟩|⟨here,rfl⟩
      · rcases (holds _ _).mp other with ⟨old',-⟩|⟨here,-⟩
        · exact h.single old old'
        · exact absurd here away
      · rcases (holds _ _).mp other with ⟨-,away⟩|⟨-,rfl⟩
        · exact absurd here away
        · rfl
    · rw [used]
      rcases (holds _ _).mp one with ⟨old,-⟩|⟨rfl,-⟩
      · exact h.used old
      · exact h.used held
  | giveBack held used holds =>
    refine ⟨fun one other => ?_,fun one => ?_⟩
    · exact h.single ((holds _ _).mp one).1 ((holds _ _).mp other).1
    · rw [used]
      exact ⟨h.used ((holds _ _).mp one).1,((holds _ _).mp one).2⟩
  | lose held used holds =>
    refine ⟨fun one other => ?_,fun one => ?_⟩
    · exact h.single ((holds _ _).mp one).1 ((holds _ _).mp other).1
    · rw [used]
      exact h.used ((holds _ _).mp one).1

/-- Seen from a holder that has nothing else, its resource is what it alone holds. -/
theorem Single.away {p : P} (h : Single c) (held : c.holds r p) (only : ∀ {q},c.holds q p → q=r)
    (q : R) (o : P) : c.holds q o ∧ o≠p ↔ c.holds q o ∧ q≠r := by
  refine and_congr_right fun holds => not_congr ⟨?_,?_⟩
  · rintro rfl
    exact only holds
  · rintro rfl
    exact h.single holds held

/-- While nothing is lost every resource in use keeps a holder. -/
theorem Covered.transfer (h : Covered c) (t : Transfer c none d) : Covered d := by
  cases t with
  | still used holds =>
    intro q hq
    rw [used] at hq
    obtain ⟨p,held⟩ := h q hq
    exact ⟨p,(holds q p).mpr held⟩
  | take free used holds =>
    intro q hq
    rw [used] at hq
    rcases Set.mem_insert_iff.mp hq with rfl|old
    · exact ⟨_,(holds q _).mpr (.inr ⟨rfl,rfl⟩)⟩
    · obtain ⟨p,held⟩ := h q old
      exact ⟨p,(holds q p).mpr (.inl held)⟩
  | @move _ r _ p' held used holds =>
    intro q hq
    rw [used] at hq
    by_cases same : q=r
    · exact ⟨p',(holds q p').mpr (.inr ⟨same,rfl⟩)⟩
    · obtain ⟨p,held⟩ := h q hq
      exact ⟨p,(holds q p).mpr (.inl ⟨held,same⟩)⟩
  | giveBack held used holds =>
    intro q hq
    rw [used] at hq
    obtain ⟨p,held⟩ := h q hq.1
    exact ⟨p,(holds q p).mpr ⟨held,hq.2⟩⟩

/-- Nothing finds a lost resource again: it is not free, and nobody can give it back. -/
theorem Lost.transfer (h : Lost c r) (t : Transfer c l d) : Lost d r := by
  obtain ⟨inUse,nobody⟩ := h
  cases t with
  | still used holds =>
    rw [Lost,used]
    exact ⟨inUse,fun p one => nobody p ((holds r p).mp one)⟩
  | take free used holds =>
    rw [Lost,used]
    refine ⟨Set.mem_insert_of_mem _ inUse,fun p one => ?_⟩
    rcases (holds r p).mp one with old|⟨rfl,-⟩
    · exact nobody p old
    · exact free inUse
  | move held used holds =>
    rw [Lost,used]
    refine ⟨inUse,fun p one => ?_⟩
    rcases (holds r p).mp one with ⟨old,-⟩|⟨rfl,-⟩
    · exact nobody p old
    · exact nobody _ held
  | giveBack held used holds =>
    rw [Lost,used]
    refine ⟨⟨inUse,?_⟩,fun p one => nobody p ((holds r p).mp one).1⟩
    rintro rfl
    exact nobody _ held
  | lose held used holds =>
    rw [Lost,used]
    exact ⟨inUse,fun p one => nobody p ((holds r p).mp one).1⟩

theorem Single.lost (h : Single c) (t : Transfer c (some r) d) : Lost d r := by
  cases t with
  | lose held used holds =>
    rw [Lost,used]
    exact ⟨h.used held,fun p one => ((holds r p).mp one).2 rfl⟩

end Custody
end IotMedia.Framework

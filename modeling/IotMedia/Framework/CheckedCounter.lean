import Mathlib.Data.Fintype.Card

namespace IotMedia.Framework

/-! A counter that some threads raise after they have seen it below a size, and others lower after
they have seen it above zero. A look and the change that follows it are two steps. -/

structure CheckedCounter (P C : Type) where
  count : Int := 0
  /-- The threads between their look and their change. -/
  raising : Finset P := ∅
  lowering : Finset C := ∅

inductive CounterLabel (P C : Type)
  | seeRoom (p : P)
  | raise (p : P)
  | seeSome (c : C)
  | lower (c : C)

namespace CheckedCounter

variable {P C : Type} [DecidableEq P] [DecidableEq C]

def seeRoom (s : CheckedCounter P C) (p : P) : CheckedCounter P C :=
  { s with raising := insert p s.raising }

def raise (s : CheckedCounter P C) (p : P) : CheckedCounter P C :=
  { s with
    count := s.count+1
    raising := s.raising.erase p }

def seeSome (s : CheckedCounter P C) (c : C) : CheckedCounter P C :=
  { s with lowering := insert c s.lowering }

def lower (s : CheckedCounter P C) (c : C) : CheckedCounter P C :=
  { s with
    count := s.count-1
    lowering := s.lowering.erase c }

inductive Step (size : Int) : CheckedCounter P C → CounterLabel P C → CheckedCounter P C → Prop
  | seeRoom {s : CheckedCounter P C} {p : P} (room : s.count<size) (fresh : p∉s.raising) :
    Step size s (.seeRoom p) (s.seeRoom p)
  | raise {s : CheckedCounter P C} {p : P} (seen : p∈s.raising) :
    Step size s (.raise p) (s.raise p)
  | seeSome {s : CheckedCounter P C} {c : C} (some_ : 0<s.count) (fresh : c∉s.lowering) :
    Step size s (.seeSome c) (s.seeSome c)
  | lower {s : CheckedCounter P C} {c : C} (seen : c∈s.lowering) :
    Step size s (.lower c) (s.lower c)

/-- Every thread that has seen room may still raise the counter: all but the last of them to look
bring it above the size. -/
def RoomBound [Fintype P] (size : Int) (s : CheckedCounter P C) : Prop :=
  s.count+s.raising.card ≤ size+Fintype.card P-1

/-- The same below zero. -/
def SomeBound [Fintype C] (s : CheckedCounter P C) : Prop :=
  1-Fintype.card C ≤ s.count-s.lowering.card

variable {size : Int} {s t : CheckedCounter P C} {l : CounterLabel P C}

theorem RoomBound.step [Fintype P] (h : s.RoomBound size) (step : Step size s l t) :
    t.RoomBound size := by
  unfold RoomBound at h ⊢
  cases step with
  | @seeRoom p room fresh =>
    have all : (insert p s.raising).card ≤ Fintype.card P := Finset.card_le_univ _
    simp only [seeRoom]
    omega
  | @raise p seen =>
    have fewer := Finset.card_erase_add_one seen
    simp only [raise]
    omega
  | seeSome some_ fresh => exact h
  | lower seen =>
    simp only [lower]
    omega

theorem SomeBound.step [Fintype C] (h : s.SomeBound) (step : Step size s l t) : t.SomeBound := by
  unfold SomeBound at h ⊢
  cases step with
  | seeRoom room fresh => exact h
  | raise seen =>
    simp only [raise]
    omega
  | @seeSome c some_ fresh =>
    have all : (insert c s.lowering).card ≤ Fintype.card C := Finset.card_le_univ _
    simp only [seeSome]
    omega
  | @lower c seen =>
    have fewer := Finset.card_erase_add_one seen
    simp only [lower]
    omega

omit [DecidableEq P] [DecidableEq C] in
theorem roomBound_start [Fintype P] (positive : 0<size) :
    RoomBound size ({} : CheckedCounter P C) := by
  have none : (({} : CheckedCounter P C).raising).card=0 := rfl
  have zero : ({} : CheckedCounter P C).count=0 := rfl
  unfold RoomBound
  omega

omit [DecidableEq P] [DecidableEq C] in
theorem someBound_start [Fintype C] [Nonempty C] : SomeBound ({} : CheckedCounter P C) := by
  have none : (({} : CheckedCounter P C).lowering).card=0 := rfl
  have zero : ({} : CheckedCounter P C).count=0 := rfl
  have inhabited : 0<Fintype.card C := Fintype.card_pos
  unfold SomeBound
  omega

omit [DecidableEq P] [DecidableEq C] in
/-- The only thread that lowers the counter finds it where it saw it, or higher. -/
theorem SomeBound.single [Fintype C] (h : s.SomeBound) (one : Fintype.card C=1) :
    (s.lowering.card : Int) ≤ s.count := by
  unfold SomeBound at h
  omega

end CheckedCounter

end IotMedia.Framework

import Mathlib.Algebra.Order.Floor.Semiring
import Mathlib.Analysis.Real.Sqrt
import Mathlib.Data.Nat.Sqrt

namespace IotMedia.Framework

section Ceilings

/-- The square root rounded up. -/
def ceilSqrt (n : Nat) : Nat := if n=0 then 0 else Nat.sqrt (n-1)+1

/-- The quotient rounded up. -/
def ceilQuot (n g : Nat) : Nat := (n+g-1)/g

variable {n g k : Nat}

theorem ceilSqrt_le_iff : ceilSqrt n ≤ k ↔ n ≤ k*k := by
  unfold ceilSqrt
  split_ifs with zero
  · simp [zero]
  · rw [Nat.add_one_le_iff,Nat.sqrt_lt]
    omega

theorem ceilQuot_le_iff (hg : 0<g) : ceilQuot n g ≤ k ↔ n ≤ g*k := by
  rw [ceilQuot,← Nat.lt_add_one_iff,Nat.div_lt_iff_lt_mul hg,Nat.add_one_mul,Nat.mul_comm k]
  omega

theorem ceilSqrt_eq (n : Nat) : ceilSqrt n=⌈√(n : ℝ)⌉₊ := by
  refine le_antisymm (ceilSqrt_le_iff.mpr ?_) (Nat.ceil_le.mpr ?_)
  · have root := Nat.le_ceil √(n : ℝ)
    have square := Real.sqrt_le_left (by positivity) |>.mp root
    rw [sq] at square
    exact_mod_cast square
  · have square := ceilSqrt_le_iff.mp (le_refl (ceilSqrt n))
    rw [Real.sqrt_le_left (by positivity),sq]
    exact_mod_cast square

theorem ceilQuot_eq (n : Nat) (hg : 0<g) : ceilQuot n g=⌈(n : ℝ)/g⌉₊ := by
  have positive : (0 : ℝ)<g := by exact_mod_cast hg
  have bound (k : Nat) : (n : ℝ)/g ≤ k ↔ n ≤ g*k := by
    rw [div_le_iff₀ positive,mul_comm]
    exact_mod_cast Iff.rfl
  refine le_antisymm ((ceilQuot_le_iff hg).mpr ((bound _).mp (Nat.le_ceil _))) (Nat.ceil_le.mpr ?_)
  exact (bound _).mpr ((ceilQuot_le_iff hg).mp le_rfl)

end Ceilings

/-- Some cells of one row of a grid, from a column on. -/
structure GridTile where
  row : Int
  column : Int
  span : Int
  deriving DecidableEq

namespace GridTile

def Covers (p : GridTile) (row column : Int) : Prop :=
  p.row=row ∧ p.column ≤ column ∧ column<p.column+p.span

end GridTile

/-- Tiles that lie in the rows of a grid and have each of its cells once. -/
structure GridTiling (g r : Int) (ps : List GridTile) : Prop where
  inside : ∀ p∈ps,0 ≤ p.row ∧ p.row<r ∧ 0 ≤ p.column ∧ p.column+p.span ≤ g
  disjoint : ps.Pairwise fun p q => ∀ row column,¬(p.Covers row column ∧ q.Covers row column)
  covered : ∀ row column,0 ≤ row → row<r → 0 ≤ column → column<g → ∃ p∈ps,p.Covers row column

section Filling

/-! Tiles laid in reading order. -/

variable {g r filled row column : Int} {ps : List GridTile} {p : GridTile}

/-- The tiles have the first cells in reading order, each once. -/
structure FilledTo (g filled : Int) (ps : List GridTile) : Prop where
  inside : ∀ p∈ps,0 ≤ p.row ∧ 0 ≤ p.column ∧ 0<p.span ∧ p.column+p.span ≤ g
  disjoint : ps.Pairwise fun p q => ∀ row column,¬(p.Covers row column ∧ q.Covers row column)
  cells : ∀ row column,0 ≤ row → 0 ≤ column → column<g →
    ((∃ p∈ps,p.Covers row column) ↔ g*row+column<filled)

theorem FilledTo.nil (hg : 0<g) : FilledTo g 0 [] := by
  refine ⟨by simp,List.Pairwise.nil,?_⟩
  intro row column hrow hcolumn _
  have product := Int.mul_nonneg hg.le hrow
  simp
  omega

/-- A row and a column are told from the number of the cell. -/
theorem cell_unique {row' column' : Int} (hg : 0<g) (hc : 0 ≤ column) (hc' : column<g)
    (hd : 0 ≤ column') (hd' : column'<g) (same : g*row+column=g*row'+column') :
    row=row' ∧ column=column' := by
  have rows : row=row' := by
    have quotient (row column : Int) (hc : 0 ≤ column) (hc' : column<g) :
        (g*row+column)/g=row := by
      rw [Int.add_comm,Int.add_mul_ediv_left _ _ hg.ne',Int.ediv_eq_zero_of_lt hc hc',zero_add]
    rw [← quotient row column hc hc',same,quotient row' column' hd hd']
  exact ⟨rows,by rw [rows] at same; omega⟩

/-- The tile at a cell covers the cells from there on. -/
theorem covers_iff (hg : 0<g) (hp : 0 ≤ p.column) (hs : p.column+p.span ≤ g) (hc : 0 ≤ column)
    (hc' : column<g) : p.Covers row column ↔
      g*p.row+p.column ≤ g*row+column ∧ g*row+column<g*p.row+p.column+p.span := by
  constructor
  · rintro ⟨rfl,low,high⟩
    omega
  · rintro ⟨low,high⟩
    have shifted : g*row+column=g*p.row+(p.column+(g*row+column-(g*p.row+p.column))) := by omega
    obtain ⟨rows,columns⟩ := cell_unique hg hc hc' (by omega) (by omega) shifted
    exact ⟨rows.symm,by omega,by omega⟩

/-- One tile more, from the next cell on and within its row. -/
theorem FilledTo.snoc (h : FilledTo g filled ps) (hg : 0<g) (hr : 0 ≤ p.row) (hc : 0 ≤ p.column)
    (hp : 0<p.span) (hs : p.column+p.span ≤ g) (next : g*p.row+p.column=filled) :
    FilledTo g (filled+p.span) (ps++[p]) := by
  refine ⟨?_,?_,?_⟩
  · intro q hq
    rcases List.mem_append.mp hq with old|new
    · exact h.inside q old
    · rw [List.mem_singleton.mp new]
      exact ⟨hr,hc,hp,hs⟩
  · refine List.pairwise_append.mpr ⟨h.disjoint,List.pairwise_singleton _ _,?_⟩
    rintro q hq p' hp' row column ⟨old,new⟩
    obtain rfl := List.mem_singleton.mp hp'
    obtain ⟨qrow,qcolumn,-,qspan⟩ := h.inside q hq
    obtain ⟨same,low,high⟩ := id old
    have column_nonneg : 0 ≤ column := by omega
    have column_lt : column<g := by omega
    have row_nonneg : 0 ≤ row := by omega
    have before := (h.cells row column row_nonneg column_nonneg column_lt).mp ⟨q,hq,old⟩
    have after := (covers_iff hg hc hs column_nonneg column_lt).mp new
    omega
  · intro row column hrow hcolumn hlt
    have old := h.cells row column hrow hcolumn hlt
    have new : p.Covers row column ↔ _ := covers_iff hg hc hs hcolumn hlt
    constructor
    · rintro ⟨q,hq,covers⟩
      rcases List.mem_append.mp hq with earlier|last
      · have before := old.mp ⟨q,earlier,covers⟩
        omega
      · rw [List.mem_singleton.mp last,new] at covers
        omega
    · intro before
      by_cases earlier : g*row+column<filled
      · obtain ⟨q,hq,covers⟩ := old.mpr earlier
        exact ⟨q,List.mem_append_left _ hq,covers⟩
      · exact ⟨p,by simp,new.mpr (by omega)⟩

theorem FilledTo.tiling (h : FilledTo g (g*r) ps) (hg : 0<g) : GridTiling g r ps := by
  refine ⟨?_,h.disjoint,?_⟩
  · intro p hp
    obtain ⟨row,column,span,within⟩ := h.inside p hp
    have before := (h.cells p.row p.column row column (by omega)).mp ⟨p,hp,rfl,le_rfl,by omega⟩
    refine ⟨row,?_,column,within⟩
    by_contra beyond
    have product := Int.mul_le_mul_of_nonneg_left (not_lt.mp beyond) hg.le
    omega
  · intro row column hrow hr hcolumn hc
    refine (h.cells row column hrow hcolumn hc).mpr ?_
    have product := Int.mul_le_mul_of_nonneg_left (Int.add_one_le_of_lt hr) hg.le
    rw [Int.mul_add,Int.mul_one] at product
    omega

end Filling

end IotMedia.Framework

import IotMedia.Framework.GridTiling
import IotMedia.Framework.MachineInt

namespace IotMedia.Qmedia

open IotMedia.Framework IntType

/-- The arguments of glViewport. -/
structure Viewport where
  x : Int
  y : Int
  width : Int
  height : Int
  deriving DecidableEq

namespace CompositionRenderer

/-- What the loop of drawFrame changes, and the cells that it has drawn to. -/
structure DrawState where
  gridsOccupied : Int := 0
  extra : Int
  tiles : List GridTile := []
  deriving DecidableEq

def gridSize (mInstances : Nat) : Nat := ceilSqrt mInstances

def numberVertically (mInstances : Nat) : Nat := ceilQuot mInstances (gridSize mInstances)

/-- One pass of the loop, in the arithmetic of int. -/
def drawInstance (gridSize : Int) (s : DrawState) : DrawState :=
  let row := s.gridsOccupied.tdiv gridSize
  let column := s.gridsOccupied.tmod gridSize
  if 0<s.extra ∧ column=i32.cast (gridSize-2) then
    { gridsOccupied := i32.cast (s.gridsOccupied+2)
      extra := i32.cast (s.extra-1)
      tiles := s.tiles++[⟨row,column,2⟩] }
  else
    { s with
      gridsOccupied := i32.cast (s.gridsOccupied+1)
      tiles := s.tiles++[⟨row,column,1⟩] }

def begin (mInstances : Nat) : DrawState where
  extra := i32.cast (i32.cast (gridSize mInstances*numberVertically mInstances)-mInstances)

/-- The loop. -/
def drawn (mInstances : Nat) : DrawState :=
  (drawInstance (gridSize mInstances))^[mInstances] (begin mInstances)

/-- The pixels of a tile. -/
def viewport (gridSize numberVertically width height : Int) (p : GridTile) : Viewport where
  x := i32.cast (p.column*width.tdiv gridSize)
  y := i32.cast (p.row*height.tdiv numberVertically)
  width := i32.cast (width.tdiv gridSize*p.span)
  height := height.tdiv numberVertically

/-- The viewports of drawFrame, the instances in their order. -/
def drawFrame (mInstances : Nat) (width height : Int) : List Viewport :=
  (drawn mInstances).tiles.map
    (viewport (gridSize mInstances) (numberVertically mInstances) width height)

/-- The viewports tile the grid, the counts come out even, and whatever the size of the surface they
are inside it. -/
structure GridTiled (mInstances : Nat) : Prop where
  tiling : GridTiling (gridSize mInstances) (numberVertically mInstances) (drawn mInstances).tiles
  instances : (drawn mInstances).tiles.length=mInstances
  extra : (drawn mInstances).extra=0
  occupied : (drawn mInstances).gridsOccupied=gridSize mInstances*numberVertically mInstances
  inside : ∀ width height,i32.Holds width → i32.Holds height → 0 ≤ width → 0 ≤ height →
    ∀ v∈drawFrame mInstances width height,0 ≤ v.x ∧ 0 ≤ v.y ∧ 0 ≤ v.width ∧ 0 ≤ v.height ∧
      v.x+v.width ≤ width ∧ v.y+v.height ≤ height

section Grid

/-! The shape of the grid. -/

variable {n : Nat}

theorem gridSize_pos (hn : 1 ≤ n) : 0<gridSize n := by
  by_contra zero
  have square := ceilSqrt_le_iff.mp (not_lt.mp zero : ceilSqrt n ≤ 0)
  omega

/-- The ceilings of the source. -/
theorem gridSize_numberVertically (hn : 1 ≤ n) :
    gridSize n=⌈√(n : ℝ)⌉₊ ∧ numberVertically n=⌈(n : ℝ)/gridSize n⌉₊ :=
  ⟨ceilSqrt_eq n,ceilQuot_eq n (gridSize_pos hn)⟩

/-- The instances fill the grid up to less than one cell for each row. -/
theorem missing_lt_rows (hn : 1 ≤ n) :
    n ≤ gridSize n*numberVertically n ∧ gridSize n*numberVertically n<n+numberVertically n ∧
      numberVertically n ≤ gridSize n ∧ 0<numberVertically n := by
  have positive := gridSize_pos hn
  have fits : n ≤ gridSize n*numberVertically n := (ceilQuot_le_iff positive).mp le_rfl
  have square : numberVertically n ≤ gridSize n :=
    (ceilQuot_le_iff positive).mpr (ceilSqrt_le_iff.mp le_rfl)
  have rows : 0<numberVertically n := by
    by_contra zero
    rw [Nat.eq_zero_of_not_pos zero] at fits
    omega
  refine ⟨fits,?_,square,rows⟩
  obtain ⟨g,hg⟩ : ∃ g,gridSize n=g+1 := ⟨gridSize n-1,by omega⟩
  obtain ⟨r,hr⟩ : ∃ r,numberVertically n=r+1 := ⟨numberVertically n-1,by omega⟩
  -- neither a column less nor a row less would do
  have column : g*g<n := by
    by_contra few
    have smaller := ceilSqrt_le_iff.mpr (not_lt.mp few)
    have same : gridSize n ≤ g := smaller
    omega
  have row : gridSize n*r<n := by
    by_contra few
    have smaller := (ceilQuot_le_iff positive).mpr (not_lt.mp few)
    have same : numberVertically n ≤ r := smaller
    omega
  have less : g*(r+1)<n := by
    rcases Nat.lt_or_ge r g with narrow|even
    · exact (Nat.mul_le_mul_left g narrow).trans_lt column
    · have same : r=g := by omega
      rw [hg] at row
      subst same
      linarith
  rw [hg,hr]
  linarith

end Grid

section Loop

variable {g r : Int} {n k : Nat} {s : DrawState}

/-- The loop after `k` passes: the next cell, the doubles that there is still room for, and the
cells left for the instances left. -/
structure Drawing (g r : Int) (n k : Nat) (s : DrawState) : Prop where
  cell : ∃ row column,s.gridsOccupied=g*row+column ∧ 0 ≤ row ∧ 0 ≤ column ∧ column<g ∧
    (s.extra=0 ∨ 0<s.extra ∧ s.extra ≤ r-row ∧ column ≤ g-2)
  count : s.gridsOccupied+(n-k)+s.extra=g*r
  filled : FilledTo g s.gridsOccupied s.tiles
  length : s.tiles.length=k

/-- Row and column of a cell as the code works them out. -/
theorem cell_quotients {row column : Int} (hg : 0<g) (hr : 0 ≤ row) (hc : 0 ≤ column)
    (hc' : column<g) : (g*row+column).tdiv g=row ∧ (g*row+column).tmod g=column := by
  have product := Int.mul_nonneg hg.le hr
  have nonneg : 0 ≤ g*row+column := by omega
  rw [Int.tdiv_eq_ediv_of_nonneg nonneg,Int.tmod_eq_emod_of_nonneg nonneg,Int.add_comm,
    Int.add_mul_ediv_left _ _ hg.ne',Int.add_mul_emod_self_left,Int.ediv_eq_zero_of_lt hc hc',
    Int.emod_eq_of_lt hc hc',zero_add]
  exact ⟨rfl,rfl⟩

/-- The cell behind a tile that ends its row or does not. -/
theorem next_cell {row column span : Int} (hr : 0 ≤ row) (hc : 0 ≤ column) (hp : 0<span)
    (hs : column+span ≤ g) : ∃ row' column',g*row+column+span=g*row'+column' ∧ 0 ≤ row' ∧
      0 ≤ column' ∧ column'<g ∧
      (column+span<g ∧ row'=row ∧ column'=column+span ∨
        column+span=g ∧ row'=row+1 ∧ column'=0) := by
  rcases hs.lt_or_eq with within|last
  · exact ⟨row,column+span,by omega,hr,by omega,within,.inl ⟨within,rfl,rfl⟩⟩
  · refine ⟨row+1,0,?_,by omega,le_rfl,by omega,.inr ⟨last,rfl,rfl⟩⟩
    rw [Int.mul_add,Int.mul_one]
    omega

theorem drawInstance_drawing (h : Drawing g r n k s) (hg : 0<g) (hr : 0<r) (hk : k<n)
    (small : g*r<2147483648) : Drawing g r n (k+1) (drawInstance g s) := by
  obtain ⟨row,column,occupied,row_nonneg,column_nonneg,column_lt,room⟩ := h.cell
  obtain ⟨quotient,remainder⟩ := cell_quotients hg row_nonneg column_nonneg column_lt
  have count := h.count
  have product := Int.mul_nonneg hg.le row_nonneg
  have grid : g ≤ g*r := by
    have rows := Int.mul_le_mul_of_nonneg_left (show 1 ≤ r from hr) hg.le
    omega
  have two : i32.cast (g-2)=g-2 := i32_holds (by omega) (by omega)
  have fewer : i32.cast (s.extra-1)=s.extra-1 := i32_holds (by omega) (by omega)
  have one_more : i32.cast (s.gridsOccupied+1)=s.gridsOccupied+1 := i32_holds (by omega) (by omega)
  rw [← occupied] at quotient remainder
  unfold drawInstance
  dsimp only
  rw [quotient,remainder,two]
  split_ifs with double
  · obtain ⟨extra,last⟩ := double
    have two_more : i32.cast (s.gridsOccupied+2)=s.gridsOccupied+2 :=
      i32_holds (by omega) (by omega)
    rw [two_more,fewer]
    refine ⟨⟨row+1,0,?_,by omega,le_rfl,hg,?_⟩,?_,?_,by simp [h.length]⟩
    · dsimp only
      rw [Int.mul_add,Int.mul_one]
      omega
    · dsimp only
      omega
    · push_cast
      omega
    · have span : (0 : Int)<2 := by decide
      have within : column+2 ≤ g := by omega
      exact h.filled.snoc (p := ⟨row,column,2⟩) hg row_nonneg column_nonneg span within
        occupied.symm
  · rw [one_more]
    obtain ⟨row',column',next,row_nonneg',column_nonneg',column_lt',moved⟩ :=
      next_cell row_nonneg column_nonneg Int.one_pos (show column+1 ≤ g by omega)
    refine ⟨⟨row',column',?_,row_nonneg',column_nonneg',column_lt',?_⟩,?_,?_,by simp [h.length]⟩
    · dsimp only
      omega
    · dsimp only
      omega
    · push_cast
      omega
    · have span : (0 : Int)<1 := by decide
      have within : column+1 ≤ g := by omega
      exact h.filled.snoc (p := ⟨row,column,1⟩) hg row_nonneg column_nonneg span within
        occupied.symm

/-- Every cell is drawn to when the last instance is, a double for each cell that was missing. -/
theorem Drawing.ended (h : Drawing g r n n s) (hg : 0<g) :
    s.extra=0 ∧ s.gridsOccupied=g*r := by
  obtain ⟨row,column,occupied,row_nonneg,column_nonneg,column_lt,room⟩ := h.cell
  have count := h.count
  have extra : s.extra=0 := by
    rcases room with none|⟨missing,rows,double⟩
    · exact none
    · exfalso
      have left : g*(r-row)=column+s.extra := by
        rw [Int.mul_sub]
        omega
      have wide : g-1 ≤ (g-1)*(r-row) := by
        have left_rows : 1 ≤ r-row := by omega
        have more := Int.mul_le_mul_of_nonneg_left left_rows (show 0 ≤ g-1 by omega)
        omega
      rw [Int.sub_mul,left] at wide
      omega
  exact ⟨extra,by omega⟩

/-- What the loop counts stays in int. -/
theorem drawInstance_holds : i32.Holds (drawInstance g s).gridsOccupied := by
  have again (v : Int) : i32.Holds (i32.cast v) := cast_of_wider le_rfl
  unfold drawInstance
  dsimp only
  split_ifs
  · exact again _
  · exact again _

end Loop

section Viewports

/-! The pixels of the tiles. -/

variable {g r size cells : Int}

/-- Some of the cells that a size is divided into. -/
theorem cells_fit (hg : 0<g) (hs : 0 ≤ size) (low : 0 ≤ cells) (high : cells ≤ g) :
    0 ≤ cells*size.tdiv g ∧ cells*size.tdiv g ≤ size := by
  have cell : 0 ≤ size.tdiv g := Int.tdiv_nonneg hs hg.le
  refine ⟨Int.mul_nonneg low cell,?_⟩
  calc cells*size.tdiv g ≤ g*size.tdiv g := Int.mul_le_mul_of_nonneg_right high cell
    _ ≤ size := by
      rw [Int.tdiv_eq_ediv_of_nonneg hs]
      exact Int.mul_ediv_self_le hg.ne'

theorem viewport_inside {width height : Int} {p : GridTile} (hg : 0<g) (hr : 0<r)
    (hw : i32.Holds width) (hh : i32.Holds height) (hw' : 0 ≤ width) (hh' : 0 ≤ height)
    (row : 0 ≤ p.row) (row_lt : p.row<r) (column : 0 ≤ p.column) (span : 0<p.span)
    (within : p.column+p.span ≤ g) :
    0 ≤ (viewport g r width height p).x ∧ 0 ≤ (viewport g r width height p).y ∧
      0 ≤ (viewport g r width height p).width ∧ 0 ≤ (viewport g r width height p).height ∧
      (viewport g r width height p).x+(viewport g r width height p).width ≤ width ∧
      (viewport g r width height p).y+(viewport g r width height p).height ≤ height := by
  have width_lt := (i32_holds_iff.mp hw).2
  have height_lt := (i32_holds_iff.mp hh).2
  obtain ⟨left,left_le⟩ := cells_fit hg hw' column (by omega)
  obtain ⟨wide,wide_le⟩ := cells_fit hg hw' span.le (show p.span ≤ g by omega)
  obtain ⟨-,right_le⟩ := cells_fit hg hw' (show 0 ≤ p.column+p.span by omega) within
  obtain ⟨top,top_le⟩ := cells_fit hr hh' row row_lt.le
  obtain ⟨-,bottom_le⟩ := cells_fit hr hh' (show 0 ≤ p.row+1 by omega) (show p.row+1 ≤ r by omega)
  have cell := Int.tdiv_nonneg hh' hr.le
  rw [Int.mul_comm] at wide wide_le
  rw [Int.add_mul,Int.mul_comm p.span] at right_le
  rw [Int.add_mul,Int.one_mul] at bottom_le
  have x : (viewport g r width height p).x=p.column*width.tdiv g :=
    i32_holds (by omega) (by omega)
  have y : (viewport g r width height p).y=p.row*height.tdiv r := i32_holds (by omega) (by omega)
  have w : (viewport g r width height p).width=width.tdiv g*p.span :=
    i32_holds (by omega) (by omega)
  have h : (viewport g r width height p).height=height.tdiv r := rfl
  rw [x,y,w,h]
  exact ⟨left,top,wide,cell,right_le,bottom_le⟩

end Viewports

section Runs

variable {n : Nat}

/-- With a grid that int can count, the loop is in order from its start on. -/
theorem begin_drawing (hn : 1 ≤ n) (small : gridSize n*numberVertically n<2147483648) :
    Drawing (gridSize n) (numberVertically n) n 0 (begin n) := by
  obtain ⟨fits,missing,square,rows⟩ := missing_lt_rows hn
  have positive := gridSize_pos hn
  have product : i32.cast (gridSize n*numberVertically n : Int)=
      gridSize n*numberVertically n := by
    refine i32_holds ?_ ?_
    · have nonneg : (0 : Int) ≤ gridSize n*numberVertically n := by positivity
      omega
    · exact_mod_cast small
  have extra : (begin n).extra=gridSize n*numberVertically n-n := by
    have fits' : (n : Int) ≤ gridSize n*numberVertically n := by exact_mod_cast fits
    have small' : (gridSize n*numberVertically n : Int)<2147483648 := by exact_mod_cast small
    unfold begin
    rw [product]
    exact i32_holds (by omega) (by omega)
  have occupied : (begin n).gridsOccupied=0 := rfl
  refine ⟨⟨0,0,by simp [occupied],le_rfl,le_rfl,by omega,?_⟩,?_,FilledTo.nil (by omega),rfl⟩
  · rcases Nat.lt_or_ge n (gridSize n*numberVertically n) with more|even
    · right
      have fewer : (gridSize n*numberVertically n : Int)<n+numberVertically n := by
        exact_mod_cast missing
      have more' : (n : Int)<gridSize n*numberVertically n := by exact_mod_cast more
      have wide : 2 ≤ gridSize n := by
        by_contra narrow
        have one : gridSize n=1 := by omega
        rw [one] at more square
        omega
      omega
    · left
      have same : (gridSize n*numberVertically n : Int)=n := by exact_mod_cast even.antisymm fits
      omega
  · rw [extra,occupied]
    push_cast
    omega

theorem drawn_drawing (hn : 1 ≤ n) (small : gridSize n*numberVertically n<2147483648) {k : Nat}
    (hk : k ≤ n) : Drawing (gridSize n) (numberVertically n) n k
      ((drawInstance (gridSize n))^[k] (begin n)) := by
  have positive := gridSize_pos hn
  obtain ⟨-,-,-,rows⟩ := missing_lt_rows hn
  induction k with
  | zero => exact begin_drawing hn small
  | succ k ih =>
    rw [Function.iterate_succ_apply']
    exact drawInstance_drawing (ih (by omega)) (by omega) (by omega) hk (by exact_mod_cast small)

theorem tiled_of_small (hn : 1 ≤ n) (small : gridSize n*numberVertically n<2147483648) :
    GridTiled n := by
  have positive : (0 : Int)<gridSize n := by exact_mod_cast gridSize_pos hn
  obtain ⟨-,-,-,rows⟩ := missing_lt_rows hn
  have drawing : Drawing (gridSize n) (numberVertically n) n n (drawn n) :=
    drawn_drawing hn small le_rfl
  obtain ⟨extra,occupied⟩ := drawing.ended positive
  have tiling := (occupied ▸ drawing.filled).tiling positive
  refine ⟨tiling,drawing.length,extra,occupied,?_⟩
  intro width height hw hh hw' hh' v hv
  obtain ⟨p,hp,rfl⟩ := List.mem_map.mp hv
  obtain ⟨row,row_lt,column,within⟩ := tiling.inside p hp
  obtain ⟨-,-,span,-⟩ := drawing.filled.inside p hp
  exact viewport_inside positive (by omega) hw hh hw' hh' row row_lt column span within

theorem drawn_holds (hn : 1 ≤ n) : i32.Holds (drawn n).gridsOccupied := by
  obtain ⟨k,rfl⟩ : ∃ k,n=k+1 := ⟨n-1,by omega⟩
  unfold drawn
  rw [Function.iterate_succ_apply']
  exact drawInstance_holds

/-- Which grids int can count. -/
theorem grid_small_iff (hn : 1 ≤ n) (hn' : n<2147483648) :
    gridSize n*numberVertically n<2147483648 ↔ n ≤ 2147441940 := by
  have positive := gridSize_pos hn
  obtain ⟨-,-,square,-⟩ := missing_lt_rows hn
  have widest : gridSize n ≤ 46341 := ceilSqrt_le_iff.mpr (by omega)
  constructor
  · intro small
    by_contra many
    have columns : gridSize n=46341 := by
      by_contra other
      have narrow : n ≤ 46340*46340 :=
        ceilSqrt_le_iff.mp (show gridSize n ≤ 46340 by omega)
      omega
    have rows : numberVertically n=46341 := by
      by_contra other
      have low : n ≤ gridSize n*46340 :=
        (ceilQuot_le_iff positive).mp (show numberVertically n ≤ 46340 by omega)
      rw [columns] at low
      omega
    rw [columns,rows] at small
    omega
  · intro few
    have rows : numberVertically n ≤ 46340 := by
      rcases Nat.lt_or_ge (gridSize n) 46341 with narrow|wide
      · omega
      · have columns : gridSize n=46341 := by omega
        refine (ceilQuot_le_iff positive).mpr ?_
        rw [columns]
        omega
    calc gridSize n*numberVertically n ≤ 46341*46340 := Nat.mul_le_mul widest rows
      _ < 2147483648 := by decide

/-- The viewports tile the grid for every number of instances up to the one whose grid int cannot
count. -/
theorem gridTiled_iff (hn : 1 ≤ n) (hn' : n<2147483648) : GridTiled n ↔ n ≤ 2147441940 := by
  rw [← grid_small_iff hn hn']
  constructor
  · intro tiled
    have held := (i32_holds_iff.mp (drawn_holds hn)).2
    rw [tiled.occupied] at held
    exact_mod_cast held
  · exact tiled_of_small hn

theorem gridTiled_iff_seven : GridTiled 7 ↔ 7 ≤ 2147441940 :=
  gridTiled_iff (by decide) (by decide)

example : (drawn 5).tiles=[⟨0,0,1⟩,⟨0,1,2⟩,⟨1,0,1⟩,⟨1,1,1⟩,⟨1,2,1⟩] := by decide +kernel

theorem last_grid_overflows : ¬∀ n : Nat,1 ≤ n → n<2147483648 → GridTiled n := by
  intro tiled
  have held := (i32_holds_iff.mp (drawn_holds (n := 2147441941) (by decide))).2
  rw [(tiled 2147441941 (by decide) (by decide)).occupied] at held
  have few := (grid_small_iff (n := 2147441941) (by decide) (by decide)).mp
    (by exact_mod_cast held)
  omega

end Runs

end CompositionRenderer
end IotMedia.Qmedia

import Foragers.Proofs.Grazing
import Mathlib.Data.List.FinRange

/-! # The board as a torus

Every position denotes one cell, and positions denote the same cell when they
wrap to the same one. A board is known when its cells are known by position, so
what happens to a board is described here by what is found where.
-/

namespace Foragers

@[simp] theorem Position.shift_zero (position : Position) : position.shift 0 0 = position := by
  simp [shift]

namespace Board

/-! ## Positions and indices -/

/-- The position of the cell with a given index. -/
def place (board : Board) (index : Nat) : Position :=
  ⟨(index % board.width : Nat), (index / board.width : Nat)⟩

theorem place_index (board : Board) (position : Position) :
    board.place (board.index position) = board.wrap position := by
  have columnLt := board.column_lt position
  have positive := board.width_pos
  have column : board.index position % board.width = board.column position := by
    rw [index, Nat.mul_add_mod_self_right, Nat.mod_eq_of_lt columnLt]
  have row : board.index position / board.width = board.row position := by
    rw [index, Nat.mul_comm, Nat.mul_add_div positive, Nat.div_eq_of_lt columnLt,
      Nat.add_zero]
  have columnNonneg := Int.emod_nonneg position.x
    (by omega : (board.width : Int) ≠ 0)
  have rowNonneg := Int.emod_nonneg position.y
    (by have := board.height_pos; omega : (board.height : Int) ≠ 0)
  rw [place, column, row, Board.column, Board.row, Int.toNat_of_nonneg columnNonneg,
    Int.toNat_of_nonneg rowNonneg]
  rfl

theorem index_place (board : Board) {index : Nat}
    (bound : index < board.width * board.height) :
    board.index (board.place index) = index := by
  have rowLt : index / board.width < board.height :=
    Nat.div_lt_of_lt_mul bound
  have columnLt : index % board.width < board.width := Nat.mod_lt _ board.width_pos
  have column : board.column (board.place index) = index % board.width := by
    simp only [Board.column, place]
    rw [← Int.natCast_emod, Int.toNat_natCast, Nat.mod_eq_of_lt columnLt]
  have row : board.row (board.place index) = index / board.width := by
    simp only [Board.row, place]
    rw [← Int.natCast_emod, Int.toNat_natCast, Nat.mod_eq_of_lt rowLt]
  rw [Board.index, column, row, Nat.mul_comm]
  exact Nat.div_add_mod index board.width

theorem index_eq_iff (board : Board) (left right : Position) :
    board.index left = board.index right ↔ board.wrap left = board.wrap right := by
  constructor
  · intro same
    rw [← place_index, same, place_index]
  · intro same
    have columnEq : board.column left = board.column right :=
      congrArg (fun position => position.x.toNat) same
    have rowEq : board.row left = board.row right :=
      congrArg (fun position => position.y.toNat) same
    rw [index, index, columnEq, rowEq]

@[simp] theorem wrap_wrap (board : Board) (position : Position) :
    board.wrap (board.wrap position) = board.wrap position := by
  simp [wrap]

theorem wrap_shift_wrap (board : Board) (position : Position) (dx dy : Int) :
    board.wrap ((board.wrap position).shift dx dy) =
      board.wrap (position.shift dx dy) := by
  simp [wrap, Position.shift]

/-- Displacements from one position lead to the same cell when they differ by some times
around the board. -/
theorem wrap_shift_eq_iff (board : Board) (position : Position) (dx dy otherDx otherDy : Int) :
    board.wrap (position.shift dx dy) = board.wrap (position.shift otherDx otherDy) ↔
      (board.width : Int) ∣ dx - otherDx ∧ (board.height : Int) ∣ dy - otherDy := by
  have around (coordinate change other size : Int) :
      (coordinate + change) % size = (coordinate + other) % size ↔ size ∣ change - other := by
    rw [Int.emod_eq_emod_iff_emod_sub_eq_zero, add_sub_add_left_eq_sub,
      Int.dvd_iff_emod_eq_zero]
  simp only [wrap, Position.shift, Position.mk.injEq, around]

theorem wrap_shift_eq_wrap_iff (board : Board) (position : Position) (dx dy : Int) :
    board.wrap (position.shift dx dy) = board.wrap position ↔
      (board.width : Int) ∣ dx ∧ (board.height : Int) ∣ dy := by
  have back := board.wrap_shift_eq_iff position dx dy 0 0
  rwa [Int.sub_zero, Int.sub_zero, Position.shift_zero] at back

/-- A position with the coordinates of a cell, neither of which is to be wrapped. -/
structure Inside (board : Board) (position : Position) : Prop where
  x_nonneg : 0 ≤ position.x
  x_lt : position.x < board.width
  y_nonneg : 0 ≤ position.y
  y_lt : position.y < board.height

theorem inside_wrap (board : Board) (position : Position) :
    board.Inside (board.wrap position) := by
  have width := board.width_pos
  have height := board.height_pos
  constructor
  · exact Int.emod_nonneg position.x (by omega)
  · exact Int.emod_lt_of_pos position.x (by omega)
  · exact Int.emod_nonneg position.y (by omega)
  · exact Int.emod_lt_of_pos position.y (by omega)

theorem Inside.of_size {left right : Board} {position : Position}
    (inside : left.Inside position) (width : right.width = left.width)
    (height : right.height = left.height) : right.Inside position := by
  rcases inside with ⟨left, right, top, bottom⟩
  constructor <;> omega

theorem Inside.wrap_eq {board : Board} {position : Position}
    (inside : board.Inside position) : board.wrap position = position := by
  rcases inside with ⟨left, right, top, bottom⟩
  rw [wrap, Int.emod_eq_of_lt left right, Int.emod_eq_of_lt top bottom]

/-- A wrapped position can be looked up as it is. -/
theorem addresses_wrap (board : Board) (position : Position) :
    board.addresses (board.wrap position) = true := by
  rcases board.inside_wrap position with ⟨left, right, top, bottom⟩
  simp only [addresses, Bool.and_eq_true, decide_eq_true_eq]
  omega

/-! ## Cells by position -/

theorem cellAt_congr (board : Board) {left right : Position}
    (same : board.wrap left = board.wrap right) :
    board.cellAt left = board.cellAt right := by
  have indexEq := (board.index_eq_iff left right).mpr same
  simp only [cellAt, indexEq]

theorem cellAt_place (board : Board) {index : Nat}
    (bound : index < board.width * board.height) :
    board.cellAt (board.place index) = board.cells[index] := by
  simp only [cellAt, board.index_place bound]
  rfl

theorem toList_cells (board : Board) : board.cells.toList = List.ofFn board.cells.get := by
  apply List.ext_getElem
  · simp
  · intro index _ _
    simp [Vector.get]

/-- Boards of one size with the same cells at all positions are the same. -/
theorem ext_cellAt {left right : Board} (width : left.width = right.width)
    (height : left.height = right.height) (ripeCount : left.ripeCount = right.ripeCount)
    (cells : ∀ position, left.cellAt position = right.cellAt position) : left = right := by
  rcases left with ⟨leftWidth, leftHeight, leftCells, leftCount, leftWide, leftHigh⟩
  rcases right with ⟨rightWidth, rightHeight, rightCells, rightCount, rightWide, rightHigh⟩
  simp only at width height ripeCount
  subst width height ripeCount
  have same : leftCells = rightCells := by
    apply Vector.ext
    intro index bound
    have found := cells (place ⟨leftWidth, leftHeight, leftCells, leftCount, leftWide,
      leftHigh⟩ index)
    rw [cellAt_place _ bound] at found
    exact found.trans (cellAt_place ⟨leftWidth, leftHeight, rightCells, leftCount,
      leftWide, leftHigh⟩ bound)
  rw [same]

theorem cellAt_advance (board : Board) (position : Position) :
    board.advance.cellAt position = (board.cellAt position).grow :=
  Vector.getElem_map Cell.grow (board.index_lt position)

@[simp] theorem consume_width (board : Board) (position : Position) :
    (board.consume position).2.width = board.width := by
  simp only [consume]
  split <;> rfl

@[simp] theorem consume_height (board : Board) (position : Position) :
    (board.consume position).2.height = board.height := by
  simp only [consume]
  split <;> rfl

/-- The only cell that a meal changes is the one that is eaten from. -/
theorem cellAt_consume (board : Board) (target position : Position) :
    (board.consume target).2.cellAt position =
      if board.hasFood target = true ∧ board.wrap position = board.wrap target then
        (board.cellAt target).eaten
      else board.cellAt position := by
  simp only [consume, ← board.index_eq_iff, hasFood]
  by_cases ripe : (board.cellAt target).hasFood = true
  · rw [if_pos ripe]
    simp only [ripe, true_and, eq_comm (a := board.index position)]
    exact Vector.getElem_set (board.index_lt target) (board.index_lt position)
  · simp [ripe]

end Board

end Foragers

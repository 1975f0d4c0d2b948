import Foragers.Board.Cell
import Foragers.Compass
import Foragers.Random.Source

namespace Foragers

/-! Boards without an edge: both coordinates wrap around, so every position
denotes a cell. The number of cells with ripe food is kept beside the cells. -/

structure Board where
  width : Nat
  height : Nat
  /-- The cells row by row. -/
  cells : Vector Cell (width * height)
  ripeCount : Nat
  width_pos : 0 < width
  height_pos : 0 < height

namespace Board

def wrap (board : Board) (position : Position) : Position :=
  ⟨position.x % board.width, position.y % board.height⟩

def column (board : Board) (position : Position) : Nat :=
  (position.x % board.width).toNat

def row (board : Board) (position : Position) : Nat :=
  (position.y % board.height).toNat

theorem column_lt (board : Board) (position : Position) :
    board.column position < board.width := by
  have positive := board.width_pos
  have nonneg := Int.emod_nonneg position.x (by omega : (board.width : Int) ≠ 0)
  have below := Int.emod_lt_of_pos position.x (by omega : 0 < (board.width : Int))
  simp only [column]
  omega

theorem row_lt (board : Board) (position : Position) :
    board.row position < board.height := by
  have positive := board.height_pos
  have nonneg := Int.emod_nonneg position.y (by omega : (board.height : Int) ≠ 0)
  have below := Int.emod_lt_of_pos position.y (by omega : 0 < (board.height : Int))
  simp only [row]
  omega

/-- The place of a position's cell in the list of all cells. -/
def index (board : Board) (position : Position) : Nat :=
  board.row position * board.width + board.column position

theorem index_lt (board : Board) (position : Position) :
    board.index position < board.width * board.height := by
  have inRow := board.column_lt position
  have nextRow : (board.row position + 1) * board.width ≤ board.height * board.width :=
    Nat.mul_le_mul_right board.width (board.row_lt position)
  rw [Nat.add_mul, Nat.one_mul] at nextRow
  rw [Nat.mul_comm board.width board.height]
  simp only [index]
  omega

def cellAt (board : Board) (position : Position) : Cell :=
  board.cells.get ⟨board.index position, board.index_lt position⟩

def hasFood (board : Board) (position : Position) : Bool :=
  (board.cellAt position).hasFood

/-- The cell straight ahead, as a position on the board. -/
def neighbour (board : Board) (position : Position) (heading : Heading) : Position :=
  board.wrap (position.ahead heading)

/-- The cells one row at a time, as they are drawn. -/
def rows (board : Board) : List (List Cell) :=
  (List.range board.height).map fun (y : Nat) =>
    (List.range board.width).map fun (x : Nat) => board.cellAt ⟨x, y⟩

/-- Whether a position can be looked up without wrapping it first. Negative
coordinates count from the far edge, at most once across the board. -/
def addresses (board : Board) (position : Position) : Bool :=
  -board.width ≤ position.x && position.x < board.width &&
    -board.height ≤ position.y && position.y < board.height

/-- Eats what the position's cell has to offer and gives the energy gained. -/
def consume (board : Board) (position : Position) : Int × Board :=
  let cell := board.cellAt position
  if cell.hasFood then
    (cell.energy,
      { board with
        cells := board.cells.set (board.index position) cell.eaten (board.index_lt position)
        ripeCount := board.ripeCount - 1 })
  else (0, board)

def advance (board : Board) : Board :=
  { board with
    cells := board.cells.map Cell.grow
    ripeCount := board.ripeCount + board.cells.toArray.countP Cell.ripensNext }

/-- A position of the board, its column being drawn before its row. -/
def randomPosition {σ : Type} [RandomSource σ] (board : Board) (random : σ) :
    Position × σ :=
  let column := RandomSource.below board.width random
  let row := RandomSource.below board.height column.2
  (⟨column.1, row.1⟩, row.2)

end Board

/-- A heading, each one being as likely as the others. -/
def Heading.random {σ : Type} [RandomSource σ] (random : σ) : Heading × σ :=
  let number := RandomSource.below Heading.all.length random
  (Heading.ofNumber number.1, number.2)

end Foragers

import Foragers.Proofs.Feeding
import Foragers.Proofs.Ledger
import Mathlib.Logic.Equiv.Fin.Basic

/-! # Quarter turns of the board

Nothing but eating tells which way is up. Turning the board by a quarter, with the body on
it, and then running a program is the same as running the program and turning afterwards,
as long as the program does not eat. Who eats looks at the cells around it column by
column, and after a quarter turn that is another order.
-/

namespace Foragers

namespace Position

/-- Where a clockwise quarter turn of a board with so many rows takes a position. -/
def rotate (rows : Int) (position : Position) : Position :=
  ⟨rows - 1 - position.y, position.x⟩

/-- Where a position was before the quarter turn. -/
def unrotate (rows : Int) (position : Position) : Position :=
  ⟨position.y, rows - 1 - position.x⟩

@[simp] theorem unrotate_rotate (rows : Int) (position : Position) :
    (position.rotate rows).unrotate rows = position := by
  simp [rotate, unrotate]

@[simp] theorem rotate_unrotate (rows : Int) (position : Position) :
    (position.unrotate rows).rotate rows = position := by
  simp [rotate, unrotate]

theorem rotate_inj {rows : Int} {left right : Position} :
    left.rotate rows = right.rotate rows ↔ left = right := by
  constructor
  · intro same
    rw [← unrotate_rotate rows left, same, unrotate_rotate]
  · intro same
    rw [same]

theorem ahead_rotate (rows : Int) (position : Position) (heading : Heading) :
    (position.rotate rows).ahead heading.turnRight = (position.ahead heading).rotate rows := by
  simp only [rotate, ahead, shift, Heading.turnRight_dx, Heading.turnRight_dy, mk.injEq,
    and_true]
  omega

end Position

/-- Items that are read off in another order are the same items. -/
theorem ofFn_comp_equiv_perm {α : Type} {left right : Nat} (places : Fin left ≃ Fin right)
    (items : Fin right → α) :
    (List.ofFn (items ∘ places)).Perm (List.ofFn items) := by
  have same : left = right := Fin.equiv_iff_eq.mp ⟨places⟩
  subst same
  exact Equiv.Perm.ofFn_comp_perm places items

namespace Board

/-- The board after a clockwise quarter turn. -/
def rotate (board : Board) : Board where
  width := board.height
  height := board.width
  cells := Vector.ofFn fun index : Fin (board.height * board.width) =>
    board.cellAt (Position.unrotate board.height
      ⟨(index % board.height : Nat), (index / board.height : Nat)⟩)
  ripeCount := board.ripeCount
  width_pos := board.height_pos
  height_pos := board.width_pos

variable (board : Board)

/-! ## Cells of the turned board -/

theorem wrap_unrotate_wrap (position : Position) :
    board.wrap ((board.rotate.wrap position).unrotate board.height) =
      board.wrap (position.unrotate board.height) := by
  simp only [wrap, rotate, Position.unrotate, Int.sub_emod_emod, Int.emod_emod]

theorem wrap_rotate (position : Position) :
    board.rotate.wrap (position.rotate board.height) =
      (board.wrap position).rotate board.height := by
  have positive : (0 : Int) < board.height := Int.natCast_pos.mpr board.height_pos
  have lower := Int.emod_nonneg position.y positive.ne'
  have upper := Int.emod_lt_of_pos position.y positive
  have flipped : (board.height - 1 - position.y) % (board.height : Int) =
      board.height - 1 - position.y % board.height := by
    rw [← Int.sub_emod_emod, Int.emod_eq_of_lt] <;> omega
  simp only [wrap, rotate, Position.rotate, flipped]

theorem cellAt_rotate (position : Position) :
    board.rotate.cellAt position = board.cellAt (position.unrotate board.height) := by
  have lookup : board.rotate.cellAt position = board.cellAt
      ((board.rotate.place (board.rotate.index position)).unrotate board.height) :=
    Vector.getElem_ofFn (board.rotate.index_lt position)
  rw [lookup, place_index]
  exact board.cellAt_congr (board.wrap_unrotate_wrap position)

@[simp] theorem cellAt_rotate_rotate (position : Position) :
    board.rotate.cellAt (position.rotate board.height) = board.cellAt position := by
  rw [cellAt_rotate, Position.unrotate_rotate]

@[simp] theorem hasFood_rotate_rotate (position : Position) :
    board.rotate.hasFood (position.rotate board.height) = board.hasFood position := by
  rw [hasFood, cellAt_rotate_rotate, hasFood]

/-- The turned board is the only one in which every cell is found where the quarter turn
takes it and which is otherwise equal. -/
theorem eq_rotate_iff (turned : Board) :
    turned = board.rotate ↔
      turned.width = board.height ∧ turned.height = board.width ∧
        turned.ripeCount = board.ripeCount ∧
        ∀ position, turned.cellAt (position.rotate board.height) = board.cellAt position := by
  constructor
  · rintro rfl
    exact ⟨rfl, rfl, rfl, board.cellAt_rotate_rotate⟩
  · rintro ⟨width, height, ripeCount, cells⟩
    refine ext_cellAt width height ripeCount fun position => ?_
    rw [cellAt_rotate, ← cells, Position.rotate_unrotate]

/-! ## Ripe food on the turned board -/

/-- The index of the cell that a quarter turn brings to an index. -/
def indexBefore (index : Nat) : Nat :=
  board.index ((board.rotate.place index).unrotate board.height)

/-- The index to which a quarter turn brings a cell. -/
def indexTurned (index : Nat) : Nat :=
  board.rotate.index ((board.place index).rotate board.height)

theorem indexTurned_indexBefore {index : Nat} (bound : index < board.height * board.width) :
    board.indexTurned (board.indexBefore index) = index := by
  rw [indexTurned, indexBefore, place_index]
  refine Eq.trans ?_ (board.rotate.index_place bound)
  rw [index_eq_iff, ← wrap_rotate, wrap_wrap, Position.rotate_unrotate]

theorem indexBefore_indexTurned {index : Nat} (bound : index < board.width * board.height) :
    board.indexBefore (board.indexTurned index) = index := by
  rw [indexBefore, indexTurned, place_index]
  refine Eq.trans ?_ (board.index_place bound)
  rw [index_eq_iff, wrap_unrotate_wrap, Position.unrotate_rotate]

def quarterTurn : Fin (board.height * board.width) ≃ Fin (board.width * board.height) where
  toFun index := ⟨board.indexBefore index, board.index_lt _⟩
  invFun index := ⟨board.indexTurned index, board.rotate.index_lt _⟩
  left_inv index := Fin.ext (board.indexTurned_indexBefore index.isLt)
  right_inv index := Fin.ext (board.indexBefore_indexTurned index.isLt)

/-- A quarter turn moves cells and neither makes nor loses any. -/
theorem rotate_perm : board.rotate.cells.toList.Perm board.cells.toList := by
  have after : board.rotate.cells.toList =
      List.ofFn (board.cells.get ∘ board.quarterTurn) :=
    Vector.toList_ofFn
  rw [after, toList_cells]
  exact ofFn_comp_equiv_perm _ _

theorem counted_rotate_iff : board.rotate.Counted ↔ board.Counted := by
  rw [Counted, Counted, board.rotate_perm.countP_eq]
  rfl

/-! ## Meals on the turned board -/

theorem neighbour_rotate (position : Position) (heading : Heading) :
    board.rotate.neighbour (position.rotate board.height) heading.turnRight =
      (board.neighbour position heading).rotate board.height := by
  rw [neighbour, Position.ahead_rotate, wrap_rotate, neighbour]

/-- A position is on a turned cell exactly if it was on that cell before. -/
theorem wrap_eq_wrap_rotate_iff (position target : Position) :
    board.rotate.wrap position = board.rotate.wrap (target.rotate board.height) ↔
      board.wrap (position.unrotate board.height) = board.wrap target := by
  have turned := board.wrap_rotate (position.unrotate board.height)
  rw [Position.rotate_unrotate] at turned
  rw [turned, wrap_rotate, Position.rotate_inj]

theorem consume_rotate (target : Position) :
    board.rotate.consume (target.rotate board.height) =
      ((board.consume target).1, (board.consume target).2.rotate) := by
  have gain : (board.rotate.consume (target.rotate board.height)).1 =
      (board.consume target).1 := by
    simp only [consume, cellAt_rotate_rotate]
    split <;> rfl
  have count : (board.rotate.consume (target.rotate board.height)).2.ripeCount =
      (board.consume target).2.ripeCount := by
    simp only [consume, cellAt_rotate_rotate]
    split <;> rfl
  refine Prod.ext gain (ext_cellAt ?_ ?_ count fun position => ?_)
  · simp [rotate]
  · simp [rotate]
  · -- Both boards are looked up where the position was before the turn.
    simp only [cellAt_consume, cellAt_rotate_rotate, hasFood_rotate_rotate,
      wrap_eq_wrap_rotate_iff]
    simp only [cellAt_rotate, cellAt_consume, consume_height]

end Board

/-! ## Programs on the turned board -/

theorem Heading.turnRight_turnLeft (heading : Heading) :
    heading.turnLeft.turnRight = heading := by
  cases heading <;> rfl

namespace Scene

/-- The scene after a clockwise quarter turn of the board with the body on it. -/
def rotate (scene : Scene) : Scene where
  body := { scene.body with
    position := scene.body.position.rotate scene.board.height
    heading := scene.body.heading.turnRight }
  board := scene.board.rotate

variable (scene : Scene)

theorem visit_rotate (target : Position) :
    scene.rotate.visit (target.rotate scene.board.height) = (scene.visit target).rotate := by
  simp only [visit, rotate, Board.consume_rotate, Board.consume_height]

theorem turn_rotate {change : Heading → Heading}
    (commutes : ∀ heading : Heading, change heading.turnRight = (change heading).turnRight) :
    scene.rotate.turn change = (scene.turn change).rotate := by
  simp only [turn, rotate, commutes]

theorem move_rotate : scene.rotate.move = scene.move.rotate := by
  rw [move, move, ← visit_rotate]
  exact congrArg _ (scene.board.neighbour_rotate _ _)

theorem foodAhead_rotate : scene.rotate.foodAhead = scene.foodAhead := by
  have ahead := scene.board.neighbour_rotate scene.body.position scene.body.heading
  simp only [foodAhead, rotate, ahead, Board.hasFood_rotate_rotate]

theorem sniffWithin_rotate (turns : Nat) :
    sniffWithin turns scene.rotate = (sniffWithin turns scene).rotate := by
  induction turns generalizing scene with
  | zero => rfl
  | succ turns induction =>
      have turned : scene.rotate.turn Heading.turnRight =
          (scene.turn Heading.turnRight).rotate :=
        scene.turn_rotate fun _ => rfl
      simp only [sniffWithin, turned, foodAhead_rotate]
      split
      · rfl
      · exact induction _

theorem execute_rotate {instruction : Instruction} (notEat : instruction ≠ .eat) :
    execute instruction scene.rotate = (execute instruction scene).rotate := by
  cases instruction with
  | move => exact scene.move_rotate
  | eat => exact absurd rfl notEat
  | sniff => exact scene.sniffWithin_rotate 4
  | turnLeft =>
      apply scene.turn_rotate
      intro heading
      rw [Heading.turnLeft_turnRight, Heading.turnRight_turnLeft]
  | turnRight => exact scene.turn_rotate fun _ => rfl

theorem run_rotate {program : Program} (withoutEating : .eat ∉ program) :
    run program scene.rotate = ((run program scene).1.rotate, (run program scene).2) := by
  induction program generalizing scene with
  | nil => rfl
  | cons instruction rest induction =>
      rw [List.mem_cons, not_or] at withoutEating
      have executed := scene.execute_rotate (Ne.symm withoutEating.1)
      have paid : (execute instruction scene).rotate.pay 1 =
          ((execute instruction scene).pay 1).rotate := rfl
      have energy : scene.rotate.body.energy = scene.body.energy := rfl
      simp only [run, energy]
      split
      · rw [executed, paid, induction _ withoutEating.2]
      · rfl

/-- A program that does not eat does on the turned board what it does on the board as it
was: it executes as many instructions and ends with the same energy, and where the body is
then, where it heads and the board are turned by a quarter. -/
theorem quarter_turn_run (program : Program) (withoutEating : .eat ∉ program)
    (scene : Scene) :
    let last := run program scene
    let lastTurned := run program scene.rotate
    (lastTurned.2 = last.2 ∧
      lastTurned.1.body.energy = last.1.body.energy ∧
      lastTurned.1.body.position = last.1.body.position.rotate scene.board.height ∧
      lastTurned.1.body.heading = last.1.body.heading.turnRight ∧
      lastTurned.1.board = last.1.board.rotate) ∧
    (∀ turned : Board, turned = scene.board.rotate ↔
      turned.width = scene.board.height ∧ turned.height = scene.board.width ∧
        turned.ripeCount = scene.board.ripeCount ∧
        ∀ position, turned.cellAt (position.rotate scene.board.height) =
          scene.board.cellAt position) ∧
    (scene.board.rotate.Counted ↔ scene.board.Counted) := by
  intro last lastTurned
  have turnedEq : lastTurned = (last.1.rotate, last.2) := scene.run_rotate withoutEating
  have height : last.1.board.height = scene.board.height :=
    (run_grazed program (.refl scene.board)).height_eq
  refine ⟨?_, scene.board.eq_rotate_iff, scene.board.counted_rotate_iff⟩
  rw [turnedEq]
  refine ⟨rfl, rfl, ?_, rfl, rfl⟩
  rw [← height]
  rfl

/-- The corridor lies on its side, and the food behind the body is to its left end. -/
theorem lodger_quarter_turn :
    Instruction.eat ∉ [Instruction.sniff, .move] ∧
      (lodger .corridor ⟨0, 1⟩).rotate.board.width = 3 ∧
      (run [.sniff, .move] (lodger .corridor ⟨0, 1⟩).rotate).1.body.position = ⟨0, 0⟩ ∧
      (run [.sniff, .move] (lodger .corridor ⟨0, 1⟩).rotate).1.body.heading = .left := by
  have withoutEating : Instruction.eat ∉ [Instruction.sniff, .move] := by decide
  rcases quarter_turn_run _ withoutEating (lodger .corridor ⟨0, 1⟩) with
    ⟨⟨_, _, position, heading, _⟩, _, _⟩
  refine ⟨withoutEating, rfl, ?_, ?_⟩
  · rw [position]
    rfl
  · rw [heading]
    rfl

end Scene

end Foragers

import Foragers.Board.Drawing
import Foragers.Proofs.Torus

/-! # Growth

What can grow on a board is settled when the board is drawn. Meals and rounds of
growth change only what is ripe, and the number of ripe cells goes along.
-/

namespace Foragers

namespace Cell

/-- A cell with food has nothing to ripen. -/
theorem ripensNext_eq_false {cell : Cell} (ripe : cell.hasFood = true) :
    cell.ripensNext = false := by
  simp only [hasFood, ripensNext, Bool.and_eq_true] at ripe ⊢
  simp [ripe.2]

/-- What grows in a cell stays the same, whatever is ripe of it. -/
structure SameGrowth (before after : Cell) : Prop where
  kind_eq : after.kind = before.kind
  energy_eq : after.energy = before.energy
  ripeningTime_eq : after.ripeningTime = before.ripeningTime

namespace SameGrowth

theorem refl (cell : Cell) : SameGrowth cell cell := ⟨rfl, rfl, rfl⟩

theorem eaten {before after : Cell} (same : SameGrowth before after) :
    SameGrowth before after.eaten :=
  ⟨same.kind_eq, same.energy_eq, same.ripeningTime_eq⟩

theorem grow {before after : Cell} (same : SameGrowth before after) :
    SameGrowth before after.grow := by
  rw [Cell.grow]
  split
  · exact ⟨same.kind_eq, same.energy_eq, same.ripeningTime_eq⟩
  · exact same

end SameGrowth

end Cell

namespace Board

/-- The ripe food that is counted beside the cells is what the cells have. -/
def Counted (board : Board) : Prop :=
  board.ripeCount = board.cells.toList.countP Cell.hasFood

theorem countP_grow (cells : List Cell) :
    (cells.map Cell.grow).countP Cell.hasFood =
      cells.countP Cell.hasFood + cells.countP Cell.ripensNext := by
  induction cells with
  | nil => rfl
  | cons cell rest induction =>
      simp only [List.map_cons, List.countP_cons, Cell.hasFood_grow, induction]
      cases ripe : cell.hasFood with
      | true =>
          simp [Cell.ripensNext_eq_false ripe]
          omega
      | false =>
          simp
          omega

theorem Counted.advance {board : Board} (counted : board.Counted) :
    board.advance.Counted := by
  simp only [Counted, Board.advance, Vector.toList_map, countP_grow]
  rw [← Array.countP_toList, counted]
  rfl

theorem Counted.consume {board : Board} (counted : board.Counted) (position : Position) :
    (board.consume position).2.Counted := by
  have bound : board.index position < board.cells.toList.length := by
    simpa using board.index_lt position
  have lookup := board.cellAt_eq_getElem position bound
  simp only [Board.consume]
  split
  · rename_i ripe
    rw [lookup] at ripe
    simp only [Counted, Vector.toList_set, List.countP_set bound, ripe, Cell.hasFood_eaten,
      if_true]
    rw [counted]
    rfl
  · exact counted

/-- A board as it was once, but for what was eaten and what ripened since. -/
structure GrownFrom (first board : Board) : Prop where
  width_eq : board.width = first.width
  height_eq : board.height = first.height
  counted : board.Counted
  sameGrowth : ∀ position, Cell.SameGrowth (first.cellAt position) (board.cellAt position)

namespace GrownFrom

variable {first board : Board}

theorem refl (counted : first.Counted) : GrownFrom first first :=
  ⟨rfl, rfl, counted, fun position => .refl (first.cellAt position)⟩

theorem advance (grown : GrownFrom first board) : GrownFrom first board.advance := by
  refine ⟨grown.width_eq, grown.height_eq, grown.counted.advance, ?_⟩
  intro position
  rw [cellAt_advance]
  exact (grown.sameGrowth position).grow

theorem consume (grown : GrownFrom first board) (target : Position) :
    GrownFrom first (board.consume target).2 := by
  refine ⟨?_, ?_, grown.counted.consume target, ?_⟩
  · rw [consume_width, grown.width_eq]
  · rw [consume_height, grown.height_eq]
  · intro position
    rw [cellAt_consume]
    split
    -- The cell that was eaten from is the one at the position.
    · rename_i eaten
      rw [← board.cellAt_congr eaten.2]
      exact (grown.sameGrowth position).eaten
    · exact grown.sameGrowth position

theorem inside (grown : GrownFrom first board) {position : Position} :
    board.Inside position ↔ first.Inside position :=
  ⟨fun inside => inside.of_size grown.width_eq.symm grown.height_eq.symm,
    fun inside => inside.of_size grown.width_eq grown.height_eq⟩

end GrownFrom

theorem ofCells_counted {rows : List (List Cell)} {board : Board}
    (accepted : ofCells rows = .ok board) : board.Counted := by
  unfold ofCells at accepted
  split at accepted
  · cases accepted
  · cases accepted
  · dsimp only at accepted
    split at accepted
    · cases accepted
    · cases accepted
      rfl

theorem ofLines_counted {energy ripeningTime : Int} {lines : List String} {board : Board}
    (accepted : ofLines energy ripeningTime lines = .ok board) : board.Counted := by
  unfold ofLines at accepted
  split at accepted
  · cases accepted
  · exact ofCells_counted accepted

end Board

end Foragers

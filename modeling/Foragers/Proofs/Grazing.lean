import Foragers.Board.Basic
import Mathlib.Algebra.BigOperators.Group.List.Basic
import Mathlib.Data.List.Forall2
import Mathlib.Tactic.Linarith

/-! # Grazing

What agents do to a board is a sequence of meals. A grazed board differs from
the one before it only in cells whose ripe food was eaten, so the energy that it
lost is the energy of those cells.
-/

namespace Foragers

namespace Cell

/-- The energy that can be eaten from a cell. -/
def offer (cell : Cell) : Int :=
  if cell.hasFood then cell.energy else 0

/-- The energy that a cell lost: that of its food, if it had some and has none. -/
def loss (before after : Cell) : Int :=
  if before.hasFood && !after.hasFood then before.energy else 0

/-- Nothing happened to a cell but that its ripe food may have been eaten. -/
def Grazed (before after : Cell) : Prop :=
  after = before ∨ before.hasFood = true ∧ after = before.eaten

@[simp] theorem offer_eaten (cell : Cell) : cell.eaten.offer = 0 := by
  simp [offer]

namespace Grazed

variable {before after : Cell}

theorem hasFood (grazed : Grazed before after) (ripe : after.hasFood = true) :
    before.hasFood = true := by
  rcases grazed with same | ⟨ripeBefore, _⟩
  · rwa [same] at ripe
  · exact ripeBefore

/-- Only food that was there from the start can still be eaten. -/
theorem eaten (grazed : Grazed before after) (ripe : after.hasFood = true) :
    Grazed before after.eaten := by
  rcases grazed with same | ⟨_, eaten⟩
  · subst same
    exact .inr ⟨ripe, rfl⟩
  · rw [eaten, hasFood_eaten] at ripe
    contradiction

theorem offer_eq (grazed : Grazed before after) :
    before.offer = after.offer + loss before after := by
  rcases grazed with same | ⟨ripe, eaten⟩
  · simp [same, loss]
  · simp [eaten, loss, offer, ripe]

end Grazed

end Cell

namespace Board

/-- The energy of all ripe food on the board. -/
def stock (board : Board) : Int :=
  (board.cells.toList.map Cell.offer).sum

/-- The energy of the cells that had ripe food before and have none after. -/
def loss (before after : Board) : Int :=
  (List.zipWith Cell.loss before.cells.toList after.cells.toList).sum

/-- Nothing happened to a board but that ripe food may have been eaten. -/
structure Grazed (before after : Board) : Prop where
  width_eq : after.width = before.width
  height_eq : after.height = before.height
  cells : List.Forall₂ Cell.Grazed before.cells.toList after.cells.toList

theorem cellAt_eq_getElem (board : Board) (position : Position)
    (bound : board.index position < board.cells.toList.length) :
    board.cellAt position = board.cells.toList[board.index position] := by
  simp [cellAt, Vector.get]

/-- What an eater gains is what the board loses. -/
theorem consume_gain (board : Board) (position : Position) :
    (board.consume position).1 + (board.consume position).2.stock = board.stock := by
  have bound : board.index position < board.cells.toList.length := by
    simpa using board.index_lt position
  have lookup := board.cellAt_eq_getElem position bound
  simp only [consume]
  split
  · rename_i ripe
    have offered : (board.cells.toList[board.index position]).offer =
        (board.cellAt position).energy := by
      rw [← lookup, Cell.offer, if_pos ripe]
    simp only [stock, Vector.toList_set, List.map_set, Cell.offer_eaten]
    rw [List.sum_set', dif_pos (by simpa using bound), List.getElem_map, offered]
    omega
  · simp

namespace Grazed

theorem refl (board : Board) : Grazed board board where
  width_eq := rfl
  height_eq := rfl
  cells := List.forall₂_same.mpr fun _ _ => .inl rfl

private theorem forall₂_set {α β : Type} {R : α → β → Prop} {left : List α}
    {right : List β} {item : β} (related : List.Forall₂ R left right) :
    ∀ (index : Nat) (bound : index < right.length),
      (∀ other, R other right[index] → R other item) →
        List.Forall₂ R left (right.set index item) := by
  induction related with
  | nil =>
      intro index bound
      simp at bound
  | cons first rest induction =>
      intro index bound replaces
      cases index with
      | zero => exact .cons (replaces _ first) rest
      | succ index =>
          exact .cons first (induction index (by simpa using bound) replaces)

theorem consume {before board : Board} (grazed : Grazed before board)
    (position : Position) : Grazed before (board.consume position).2 := by
  have bound : board.index position < board.cells.toList.length := by
    simpa using board.index_lt position
  have lookup := board.cellAt_eq_getElem position bound
  simp only [Board.consume]
  split
  · rename_i ripe
    refine ⟨grazed.width_eq, grazed.height_eq, ?_⟩
    simp only [Vector.toList_set]
    apply forall₂_set grazed.cells _ bound
    intro original originalGrazed
    rw [← lookup] at originalGrazed
    exact originalGrazed.eaten ripe
  · exact grazed

theorem stock_eq {before after : Board} (grazed : Grazed before after) :
    before.stock = after.stock + loss before after := by
  have related := grazed.cells
  simp only [stock, loss]
  -- The induction runs along both lists of cells, which pair up by their places.
  generalize before.cells.toList = earlier at related ⊢
  generalize after.cells.toList = later at related ⊢
  induction related with
  | nil => rfl
  | cons first rest induction =>
      simp only [List.map_cons, List.sum_cons, List.zipWith_cons_cons]
      have head := first.offer_eq
      omega

theorem index_eq {before after : Board} (grazed : Grazed before after)
    (position : Position) : after.index position = before.index position := by
  simp only [index, row, column, grazed.width_eq, grazed.height_eq]

theorem cellAt {before after : Board} (grazed : Grazed before after)
    (position : Position) :
    Cell.Grazed (before.cellAt position) (after.cellAt position) := by
  have bound : before.index position < before.cells.toList.length := by
    simpa using before.index_lt position
  have boundAfter : before.index position < after.cells.toList.length := by
    rwa [← grazed.cells.length_eq]
  have related := grazed.cells.get bound boundAfter
  rw [before.cellAt_eq_getElem position bound]
  rw [after.cellAt_eq_getElem position (by rwa [grazed.index_eq])]
  simpa only [grazed.index_eq, List.get_eq_getElem] using related

theorem hasFood {before after : Board} (grazed : Grazed before after)
    {position : Position} (ripe : after.hasFood position = true) :
    before.hasFood position = true :=
  (grazed.cellAt position).hasFood ripe

end Grazed

end Board

end Foragers

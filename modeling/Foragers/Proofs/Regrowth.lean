import Foragers.Proofs.Growth
import Mathlib.Logic.Function.Iterate

/-! # Regrowth

What was done to a board tells where it has food. A cell that was eaten from has food
again once it grew for as many rounds as it takes to ripen, but for one at least. Each
cell goes its own way, whatever is done to the others.
-/

namespace Foragers

namespace Cell

theorem hasFood_iff (cell : Cell) :
    cell.hasFood = true ↔ cell.kind = .food ∧ cell.ripe = true := by
  simp [hasFood]

@[simp] theorem eaten_grow (cell : Cell) : cell.grow.eaten = cell.eaten := by
  rw [grow]
  split <;> rfl

@[simp] theorem eaten_grow_iterate (cell : Cell) (rounds : Nat) :
    (grow^[rounds] cell).eaten = cell.eaten := by
  induction rounds generalizing cell with
  | zero => rfl
  | succ rounds induction => rw [Function.iterate_succ_apply, induction, eaten_grow]

theorem sameGrowth_grow_iterate (cell : Cell) (rounds : Nat) :
    SameGrowth cell (grow^[rounds] cell) := by
  induction rounds with
  | zero => exact .refl cell
  | succ rounds induction =>
      rw [Function.iterate_succ_apply']
      exact induction.grow

theorem eq_of_ofCharacter? {energy ripeningTime : Int} {character : Char} {cell : Cell}
    (drawn : ofCharacter? energy ripeningTime character = some cell) :
    cell = .empty ∨ cell = .food energy ripeningTime := by
  unfold ofCharacter? at drawn
  split at drawn <;> cases drawn
  · exact .inl rfl
  · exact .inr rfl

/-- Food that is not ripe counts rounds until it is; ripe food stays ripe. -/
theorem hasFood_grow_iterate_iff (cell : Cell) (rounds : Nat) :
    (grow^[rounds] cell).hasFood = true ↔
      cell.kind = .food ∧
        (cell.ripe = true ∨ 1 ≤ rounds ∧ cell.ripeningTime ≤ cell.counter + rounds) := by
  induction rounds generalizing cell with
  | zero => simp [hasFood_iff]
  | succ rounds induction =>
      rw [Function.iterate_succ_apply, induction]
      by_cases food : cell.kind = .food
      · cases ripe : cell.ripe with
        | true => simp [grow, food, ripe]
        | false =>
            simp only [grow, food, ripe, decide_true, Bool.not_false, Bool.and_true, if_true,
              decide_eq_true_eq, true_and, Bool.false_eq_true, false_or]
            omega
      · simp [grow, food]

end Cell

namespace Board

/-- What can be done to a board. -/
inductive Deed where
  | meal (position : Position)
  | growth
  deriving DecidableEq, Repr

/-- The board after some deeds, of which the last one stands first. -/
def after (board : Board) : List Deed → Board
  | [] => board
  | .meal position :: earlier => ((board.after earlier).consume position).2
  | .growth :: earlier => (board.after earlier).advance

/-- The rounds of growth since the cell of a position was last eaten from, if it ever was.
A meal where nothing is ripe does not count. -/
def roundsSinceMeal? (board : Board) (position : Position) : List Deed → Option Nat
  | [] => none
  | .meal target :: earlier =>
      if (board.after earlier).hasFood target = true ∧
          board.wrap target = board.wrap position then some 0
      else roundsSinceMeal? board position earlier
  | .growth :: earlier => (roundsSinceMeal? board position earlier).map (· + 1)

variable (board : Board) (deeds : List Deed)

@[simp] theorem after_width : (board.after deeds).width = board.width := by
  induction deeds with
  | nil => rfl
  | cons deed earlier induction =>
      cases deed with
      | meal position => rw [after, consume_width, induction]
      | growth => exact induction

@[simp] theorem after_height : (board.after deeds).height = board.height := by
  induction deeds with
  | nil => rfl
  | cons deed earlier induction =>
      cases deed with
      | meal position => rw [after, consume_height, induction]
      | growth => exact induction

@[simp] theorem wrap_after (position : Position) :
    (board.after deeds).wrap position = board.wrap position := by
  simp [wrap]

variable {board deeds}

theorem Counted.after (counted : board.Counted) : (board.after deeds).Counted := by
  induction deeds with
  | nil => exact counted
  | cons deed earlier induction =>
      cases deed with
      | meal position => exact induction.consume position
      | growth => exact induction.advance

variable (board deeds)

/-- A cell has grown since it was last eaten from, or from the beginning on. -/
theorem cellAt_after (position : Position) :
    (board.after deeds).cellAt position =
      match board.roundsSinceMeal? position deeds with
      | none => Cell.grow^[deeds.count .growth] (board.cellAt position)
      | some rounds => Cell.grow^[rounds] (board.cellAt position).eaten := by
  induction deeds with
  | nil => rfl
  | cons deed earlier induction =>
      cases deed with
      | meal target =>
          rw [after, cellAt_consume, roundsSinceMeal?, List.count_cons_of_ne (by simp)]
          simp only [wrap_after, eq_comm (a := board.wrap position)]
          split
          · rename_i eaten
            -- The cell at the target is the one at the position.
            have same : (board.after earlier).cellAt target =
                (board.after earlier).cellAt position :=
              (board.after earlier).cellAt_congr (by simpa using eaten.2)
            rw [same, induction]
            cases board.roundsSinceMeal? position earlier with
            | none => exact Cell.eaten_grow_iterate _ _
            | some rounds => exact Cell.eaten_grow_iterate _ _
          · exact induction
      | growth =>
          rw [after, cellAt_advance, induction, roundsSinceMeal?, List.count_cons_self]
          cases board.roundsSinceMeal? position earlier with
          | none => exact (Function.iterate_succ_apply' Cell.grow _ _).symm
          | some rounds => exact (Function.iterate_succ_apply' Cell.grow _ _).symm

/-- Meals and growth never change what a cell grows. -/
theorem sameGrowth_after (position : Position) :
    Cell.SameGrowth (board.cellAt position) ((board.after deeds).cellAt position) := by
  rw [cellAt_after]
  cases board.roundsSinceMeal? position deeds with
  | none => exact Cell.sameGrowth_grow_iterate _ _
  | some rounds =>
      have eaten := Cell.sameGrowth_grow_iterate (board.cellAt position).eaten rounds
      exact ⟨eaten.kind_eq, eaten.energy_eq, eaten.ripeningTime_eq⟩

theorem hasFood_after_of_meal {position : Position} {rounds : Nat}
    (meal : board.roundsSinceMeal? position deeds = some rounds) :
    (board.after deeds).hasFood position = true ↔
      (board.cellAt position).kind = .food ∧
        max 1 (board.cellAt position).ripeningTime ≤ rounds := by
  rw [hasFood, cellAt_after, meal]
  simp only [Cell.hasFood_grow_iterate_iff, Cell.eaten, Bool.false_eq_true, false_or]
  refine and_congr_right fun food => ?_
  omega

theorem hasFood_after_of_noMeal {position : Position}
    (noMeal : board.roundsSinceMeal? position deeds = none) :
    (board.after deeds).hasFood position = true ↔
      (board.cellAt position).kind = .food ∧
        ((board.cellAt position).ripe = true ∨ 1 ≤ deeds.count .growth ∧
          (board.cellAt position).ripeningTime ≤
            (board.cellAt position).counter + deeds.count .growth) := by
  rw [hasFood, cellAt_after, noMeal]
  exact Cell.hasFood_grow_iterate_iff _ _

/-! ## Boards that were drawn -/

theorem ofCells_cells {rows : List (List Cell)} {board : Board}
    (made : ofCells rows = .ok board) : board.cells.toList = rows.flatten := by
  unfold ofCells at made
  split at made
  · cases made
  · cases made
  · dsimp only at made
    split at made
    · cases made
    · cases made
      rfl

theorem cellAt_mem (board : Board) (position : Position) :
    board.cellAt position ∈ board.cells.toList := by
  rw [board.cellAt_eq_getElem position (by simpa using board.index_lt position)]
  exact List.getElem_mem _

theorem readRow_cells {energy ripeningTime : Int} {characters : List Char}
    {cells : List Cell} (read : readRow energy ripeningTime characters = .ok cells) :
    ∀ cell ∈ cells, cell = .empty ∨ cell = .food energy ripeningTime := by
  unfold readRow at read
  split at read
  · rename_i drawn
    cases read
    induction characters generalizing cells with
    | nil =>
        cases drawn
        intro cell member
        cases member
    | cons character rest induction =>
        rw [List.mapM_cons] at drawn
        rcases Option.bind_eq_some_iff.mp drawn with ⟨first, firstDrawn, continued⟩
        rcases Option.bind_eq_some_iff.mp continued with ⟨others, othersDrawn, cellsEq⟩
        cases cellsEq
        intro cell member
        rcases List.mem_cons.mp member with same | later
        · rw [same]
          exact Cell.eq_of_ofCharacter? firstDrawn
        · exact induction othersDrawn cell later
  · cases read

theorem readRows_cells {energy ripeningTime : Int} {line : Nat} {previous : Option Nat}
    {lines : List (List Char)} {rows : List (List Cell)}
    (read : readRows energy ripeningTime line previous lines = .ok rows) :
    ∀ row ∈ rows, ∀ cell ∈ row, cell = .empty ∨ cell = .food energy ripeningTime := by
  induction lines generalizing line previous rows with
  | nil =>
      cases read
      intro row member
      cases member
  | cons characters rest induction =>
      simp only [readRows] at read
      split at read
      · cases read
      · rename_i first firstRead
        split at read
        · split at read
          · cases read
          · rename_i others othersRead
            cases read
            intro row member
            rcases List.mem_cons.mp member with same | later
            · rw [same]
              exact readRow_cells firstRead
            · exact induction othersRead row later
        · cases read

theorem ofLines_made {energy ripeningTime : Int} {lines : List String} {board : Board}
    (drawn : ofLines energy ripeningTime lines = .ok board) :
    ∃ rows, ofCells rows = .ok board ∧
      ∀ row ∈ rows, ∀ cell ∈ row, cell = .empty ∨ cell = .food energy ripeningTime := by
  unfold ofLines at drawn
  split at drawn
  · cases drawn
  · rename_i rows read
    exact ⟨rows, drawn, readRows_cells read⟩

/-- A cell of a board that was drawn is empty, or it has food that is ripe. -/
theorem ofLines_cellAt {energy ripeningTime : Int} {lines : List String} {board : Board}
    (drawn : ofLines energy ripeningTime lines = .ok board) (position : Position) :
    board.cellAt position = .empty ∨ board.cellAt position = .food energy ripeningTime := by
  rcases ofLines_made drawn with ⟨rows, made, cells⟩
  have member := board.cellAt_mem position
  rw [ofCells_cells made] at member
  rcases List.mem_flatten.mp member with ⟨row, rowMember, cellMember⟩
  exact cells row rowMember _ cellMember

theorem ofLines_cellAt_of_food {energy ripeningTime : Int} {lines : List String}
    {board : Board} (drawn : ofLines energy ripeningTime lines = .ok board)
    {position : Position} (food : (board.cellAt position).kind = .food) :
    board.cellAt position = .food energy ripeningTime := by
  rcases ofLines_cellAt drawn position with empty | full
  · rw [empty] at food
    cases food
  · exact full

/-! ## The law of regrowth -/

/-- What holds of a board whose food has one energy and one ripening time, after what
was done to it. -/
structure Regrows (energy ripeningTime : Int) (board : Board) (deeds : List Deed) :
    Prop where
  kind_eq : ∀ position,
    ((board.after deeds).cellAt position).kind = (board.cellAt position).kind
  /-- Food is there unless it was eaten too short a time ago. -/
  hasFood_iff : ∀ position, (board.cellAt position).kind = .food →
    ((board.after deeds).hasFood position = true ↔
      board.roundsSinceMeal? position deeds = none ∨
        ∃ rounds, board.roundsSinceMeal? position deeds = some rounds ∧
          max 1 ripeningTime ≤ rounds)
  barren : ∀ position, (board.cellAt position).kind = .empty →
    (board.after deeds).hasFood position = false
  /-- Who eats where food is gains its energy. -/
  gain : ∀ position, (board.after deeds).hasFood position = true →
    ((board.after deeds).consume position).1 = energy
  /-- Who eats where none is gains nothing and changes nothing. -/
  refused : ∀ position, (board.after deeds).hasFood position = false →
    (board.after deeds).consume position = (0, board.after deeds)
  counted : (board.after deeds).ripeCount =
    (board.after deeds).cells.toList.countP Cell.hasFood

theorem regrows_of_ofLines {energy ripeningTime : Int} {lines : List String} {board : Board}
    (drawn : ofLines energy ripeningTime lines = .ok board) (deeds : List Deed) :
    Regrows energy ripeningTime board deeds where
  kind_eq position := (board.sameGrowth_after deeds position).kind_eq
  hasFood_iff position food := by
    have cell := ofLines_cellAt_of_food drawn food
    cases meal : board.roundsSinceMeal? position deeds with
    | none =>
        rw [board.hasFood_after_of_noMeal deeds meal, cell]
        simp [Cell.food]
    | some rounds =>
        rw [board.hasFood_after_of_meal deeds meal, cell]
        simp [Cell.food]
  barren position empty := by
    have kind := (board.sameGrowth_after deeds position).kind_eq
    rw [empty] at kind
    simp [hasFood, Cell.hasFood, kind]
  gain position ripe := by
    have same := board.sameGrowth_after deeds position
    have food := ((Cell.hasFood_iff _).mp ripe).1
    rw [same.kind_eq] at food
    rw [hasFood] at ripe
    rw [consume, if_pos ripe, same.energy_eq, ofLines_cellAt_of_food drawn food]
    rfl
  refused position unripe := by
    rw [hasFood] at unripe
    rw [consume, unripe]
    rfl
  counted := (ofLines_counted drawn).after

/-- On a board that was drawn, food is found where it was never eaten or has grown again
since, whatever was done to the board. On any board the count of ripe food stays right, and
food that is not ripe has grown ripe when enough rounds are behind it. -/
theorem food_regrows (deeds : List Deed) :
    (∀ {energy ripeningTime : Int} {lines : List String} {board : Board},
      ofLines energy ripeningTime lines = .ok board →
        Regrows energy ripeningTime board deeds) ∧
    ∀ {rows : List (List Cell)} {board : Board}, ofCells rows = .ok board →
      (board.after deeds).ripeCount =
          (board.after deeds).cells.toList.countP Cell.hasFood ∧
        ∀ position, (board.cellAt position).kind = .food →
          (board.cellAt position).ripe = false →
          board.roundsSinceMeal? position deeds = none → 1 ≤ deeds.count .growth →
            ((board.after deeds).hasFood position = true ↔
              (board.cellAt position).ripeningTime ≤
                (board.cellAt position).counter + deeds.count .growth) := by
  refine ⟨fun drawn => regrows_of_ofLines drawn deeds, ?_⟩
  intro rows board made
  refine ⟨(ofCells_counted made).after, ?_⟩
  intro position food unripe noMeal grown
  rw [board.hasFood_after_of_noMeal deeds noMeal]
  simp [food, unripe, grown]

/-- Two cells with ripe food. -/
def glade : Board where
  width := 2
  height := 1
  cells := #v[.food 5 3, .food 5 3]
  ripeCount := 2
  width_pos := Nat.two_pos
  height_pos := Nat.one_pos

/-- Food that was not ripe when its board was made. -/
def seedbed : Board where
  width := 1
  height := 1
  cells := #v[{ kind := .food, energy := 5, ripeningTime := 3, counter := 1 }]
  ripeCount := 0
  width_pos := Nat.one_pos
  height_pos := Nat.one_pos

/-- Three rounds of growth bring food back only if the meal was before all of them, and
the food beside it is not touched. -/
theorem glade_regrows :
    ofLines 5 3 ["xx"] = .ok glade ∧
      (glade.after [.growth, .growth, .meal ⟨0, 0⟩, .growth]).hasFood ⟨0, 0⟩ = false ∧
      (glade.after [.growth, .growth, .meal ⟨0, 0⟩, .growth]).hasFood ⟨1, 0⟩ = true ∧
      (glade.after [.growth, .growth, .growth, .meal ⟨0, 0⟩]).hasFood ⟨0, 0⟩ = true ∧
      ofCells [[{ kind := .food, energy := 5, ripeningTime := 3, counter := 1 }]] =
        .ok seedbed ∧
      (seedbed.after [.growth, .meal ⟨0, 0⟩, .growth]).hasFood ⟨0, 0⟩ = true := by
  have drawn : ofLines 5 3 ["xx"] = .ok glade := rfl
  have made : ofCells [[{ kind := .food, energy := 5, ripeningTime := 3, counter := 1 }]] =
      .ok seedbed := rfl
  have early := (food_regrows [.growth, .growth, .meal ⟨0, 0⟩, .growth]).1 drawn
  have late := (food_regrows [.growth, .growth, .growth, .meal ⟨0, 0⟩]).1 drawn
  have sown := (food_regrows [.growth, .meal ⟨0, 0⟩, .growth]).2 made
  refine ⟨drawn, ?_, ?_, ?_, made, ?_⟩
  · have meal : glade.roundsSinceMeal? ⟨0, 0⟩
        [.growth, .growth, .meal ⟨0, 0⟩, .growth] = some 2 := by
      decide +kernel
    rw [Bool.eq_false_iff, ne_eq, early.hasFood_iff ⟨0, 0⟩ rfl, meal]
    simp
  · rw [early.hasFood_iff ⟨1, 0⟩ rfl]
    exact .inl (by decide +kernel)
  · rw [late.hasFood_iff ⟨0, 0⟩ rfl]
    exact .inr ⟨3, by decide +kernel, by decide⟩
  · rw [sown.2 ⟨0, 0⟩ rfl rfl (by decide +kernel) (by decide)]
    decide

end Board

end Foragers

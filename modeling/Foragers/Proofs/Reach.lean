import Foragers.Proofs.Behaviour
import Foragers.Proofs.Regrowth
import Mathlib.Data.List.Find
import Mathlib.Data.Set.Disjoint
import Mathlib.Order.CompletePartialOrder

/-! # Reach

An instruction looks no further than at the cells next to the body and takes it no
further than onto one of them. So a program depends on the cells within as many
steps as it has instructions and changes no others, and two bodies that cannot
reach a common cell may run their programs in either order.
-/

namespace Foragers

namespace Board

/-! ## Meals -/

/-- The board after somebody ate at some positions, of which the last one stands first. -/
def afterMeals (board : Board) (meals : List Position) : Board :=
  board.after (meals.map Deed.meal)

section

variable (board : Board)

@[simp] theorem afterMeals_width (meals : List Position) :
    (board.afterMeals meals).width = board.width :=
  board.after_width _

@[simp] theorem afterMeals_height (meals : List Position) :
    (board.afterMeals meals).height = board.height :=
  board.after_height _

theorem afterMeals_cons (meal : Position) (earlier : List Position) :
    board.afterMeals (meal :: earlier) = ((board.afterMeals earlier).consume meal).2 := rfl

theorem afterMeals_append (later earlier : List Position) :
    board.afterMeals (later ++ earlier) = (board.afterMeals earlier).afterMeals later := by
  induction later with
  | nil => rfl
  | cons meal later induction =>
      rw [List.cons_append, afterMeals_cons, induction, afterMeals_cons]

theorem consume_congr {left right : Position} (same : board.wrap left = board.wrap right) :
    board.consume left = board.consume right := by
  have index := (board.index_eq_iff left right).mpr same
  have cell := board.cellAt_congr same
  simp only [consume, index, cell]

theorem consume_ripeCount (target : Position) :
    (board.consume target).2.ripeCount =
      board.ripeCount - (board.hasFood target).toNat := by
  simp only [consume, hasFood]
  cases (board.cellAt target).hasFood <;> rfl

variable {board}

theorem cellAt_consume_of_ne {target position : Position}
    (other : board.wrap position ≠ board.wrap target) :
    (board.consume target).2.cellAt position = board.cellAt position := by
  rw [cellAt_consume, if_neg fun eaten => other eaten.2]

theorem hasFood_consume_of_ne {target position : Position}
    (other : board.wrap position ≠ board.wrap target) :
    (board.consume target).2.hasFood position = board.hasFood position := by
  rw [hasFood, cellAt_consume_of_ne other, hasFood]

variable (board)

@[simp] theorem wrap_consume (target position : Position) :
    (board.consume target).2.wrap position = board.wrap position := by
  simp [wrap]

/-- It does not matter which of two meals comes first. -/
theorem consume_comm (first second : Position) :
    ((board.consume first).2.consume second).2 =
      ((board.consume second).2.consume first).2 := by
  by_cases same : board.wrap first = board.wrap second
  · have sameThere : (board.consume second).2.wrap first =
        (board.consume second).2.wrap second := by
      simpa using same
    rw [board.consume_congr same, consume_congr _ sameThere]
  · have other : board.wrap second ≠ board.wrap first := Ne.symm same
    refine ext_cellAt (by simp) (by simp) ?_ fun position => ?_
    · simp only [consume_ripeCount, hasFood_consume_of_ne same, hasFood_consume_of_ne other]
      exact Nat.sub_right_comm _ _ _
    · simp only [cellAt_consume, hasFood_consume_of_ne same, hasFood_consume_of_ne other,
        wrap_consume, cellAt_consume_of_ne same, cellAt_consume_of_ne other]
      -- A position is at one of the two cells at most.
      by_cases atFirst : board.wrap position = board.wrap first
      · simp [atFirst, same]
      · simp [atFirst]

theorem afterMeals_consume (meals : List Position) (target : Position) :
    (board.consume target).2.afterMeals meals =
      ((board.afterMeals meals).consume target).2 := by
  induction meals with
  | nil => rfl
  | cons meal earlier induction =>
      rw [afterMeals_cons, induction, consume_comm, ← afterMeals_cons]

theorem afterMeals_comm (meals others : List Position) :
    (board.afterMeals meals).afterMeals others =
      (board.afterMeals others).afterMeals meals := by
  induction others with
  | nil => rfl
  | cons meal earlier induction =>
      rw [afterMeals_cons, induction, afterMeals_cons, afterMeals_consume]

variable {board}

/-- A meal is only felt in its own cell. -/
theorem cellAt_afterMeals_of_avoid {meals : List Position} {position : Position}
    (avoid : ∀ meal ∈ meals, board.wrap position ≠ board.wrap meal) :
    (board.afterMeals meals).cellAt position = board.cellAt position := by
  induction meals with
  | nil => rfl
  | cons meal earlier induction =>
      have first : (board.afterMeals earlier).wrap position ≠
          (board.afterMeals earlier).wrap meal := by
        simpa [wrap] using avoid meal List.mem_cons_self
      have others := induction fun other member => avoid other (List.mem_cons_of_mem _ member)
      exact (cellAt_consume_of_ne first).trans others

end

/-! ## Boards that agree -/

/-- Boards of one size that have the same cells at some positions. -/
structure AgreeOn (positions : Set Position) (board other : Board) : Prop where
  width_eq : other.width = board.width
  height_eq : other.height = board.height
  cellAt_eq : ∀ position ∈ positions, other.cellAt position = board.cellAt position

namespace AgreeOn

variable {positions fewer : Set Position} {board other : Board}

theorem refl (positions : Set Position) (board : Board) : AgreeOn positions board board :=
  ⟨rfl, rfl, fun _ _ => rfl⟩

theorem mono (agree : AgreeOn positions board other) (subset : fewer ⊆ positions) :
    AgreeOn fewer board other :=
  ⟨agree.width_eq, agree.height_eq, fun position member =>
    agree.cellAt_eq position (subset member)⟩

theorem wrap_eq (agree : AgreeOn positions board other) : other.wrap = board.wrap := by
  funext position
  simp only [wrap, agree.width_eq, agree.height_eq]

theorem neighbour_eq (agree : AgreeOn positions board other) (position : Position)
    (heading : Heading) : other.neighbour position heading = board.neighbour position heading := by
  rw [neighbour, neighbour, agree.wrap_eq]

theorem hasFood_eq (agree : AgreeOn positions board other) {position : Position}
    (member : position ∈ positions) : other.hasFood position = board.hasFood position := by
  rw [hasFood, hasFood, agree.cellAt_eq position member]

theorem gain_eq (agree : AgreeOn positions board other) {target : Position}
    (member : target ∈ positions) : (other.consume target).1 = (board.consume target).1 := by
  simp only [Board.consume, agree.cellAt_eq target member]
  split <;> rfl

/-- The same meal leaves the same cells, also when its own cell is not among them. -/
theorem consume (agree : AgreeOn positions board other) (target : Position) :
    AgreeOn positions (board.consume target).2 (other.consume target).2 := by
  refine ⟨?_, ?_, fun position member => ?_⟩
  · rw [consume_width, consume_width, agree.width_eq]
  · rw [consume_height, consume_height, agree.height_eq]
  · by_cases atTarget : board.wrap position = board.wrap target
    · have atTargetThere : other.wrap position = other.wrap target := by
        rwa [agree.wrap_eq]
      have cell := board.cellAt_congr atTarget
      have cellThere := other.cellAt_congr atTargetThere
      simp only [cellAt_consume, hasFood, ← cell, ← cellThere, atTarget, atTargetThere,
        agree.cellAt_eq position member]
    · have otherThere : other.wrap position ≠ other.wrap target := by
        rwa [agree.wrap_eq]
      rw [cellAt_consume_of_ne atTarget, cellAt_consume_of_ne otherThere,
        agree.cellAt_eq position member]

theorem afterMeals (agree : AgreeOn positions board other) (meals : List Position) :
    AgreeOn positions (board.afterMeals meals) (other.afterMeals meals) := by
  induction meals with
  | nil => exact agree
  | cons meal earlier induction => exact induction.consume meal

/-- Meals at the positions themselves take as many ripe cells from both boards. -/
theorem ripeCount_afterMeals (agree : AgreeOn positions board other) {meals : List Position}
    (within : ∀ meal ∈ meals, meal ∈ positions) :
    ∃ eaten : Nat, (board.afterMeals meals).ripeCount = board.ripeCount - eaten ∧
      (other.afterMeals meals).ripeCount = other.ripeCount - eaten := by
  induction meals with
  | nil => exact ⟨0, rfl, rfl⟩
  | cons meal earlier induction =>
      rcases List.forall_mem_cons.mp within with ⟨first, others⟩
      rcases induction others with ⟨eaten, here, there⟩
      have food := (agree.afterMeals earlier).hasFood_eq first
      refine ⟨eaten + ((board.afterMeals earlier).hasFood meal).toNat, ?_, ?_⟩
      · rw [afterMeals_cons, consume_ripeCount, here, Nat.sub_sub]
      · rw [afterMeals_cons, consume_ripeCount, there, food, Nat.sub_sub]

end AgreeOn

/-! ## Cells within reach -/

/-- The cells at most so many columns and rows from a position. -/
def reach (board : Board) (center : Position) (radius : Nat) : Set Position :=
  {position | ∃ dx dy : Int, |dx| ≤ radius ∧ |dy| ≤ radius ∧
    position = board.wrap (center.shift dx dy)}

section

variable (board : Board) (center : Position)

theorem reach_eq_of_size {left right : Board} (width : left.width = right.width)
    (height : left.height = right.height) : left.reach = right.reach := by
  funext center radius
  simp only [reach, wrap, width, height]

theorem mem_reach {radius : Nat} {dx dy : Int} (columns : |dx| ≤ radius)
    (rows : |dy| ≤ radius) : board.wrap (center.shift dx dy) ∈ board.reach center radius :=
  ⟨dx, dy, columns, rows, rfl⟩

theorem reach_mono {radius wider : Nat} (le : radius ≤ wider) :
    board.reach center radius ⊆ board.reach center wider := by
  rintro position ⟨dx, dy, columns, rows, rfl⟩
  exact board.mem_reach center (by omega) (by omega)

variable {board center}

theorem wrap_of_mem_reach {radius : Nat} {position : Position}
    (member : position ∈ board.reach center radius) : board.wrap position = position := by
  rcases member with ⟨dx, dy, _, _, rfl⟩
  exact board.wrap_wrap _

/-- From a cell one step away what is within the steps that are left is within reach. -/
theorem reach_subset_of_mem {radius : Nat} {target : Position}
    (member : target ∈ board.reach center 1) :
    board.reach target radius ⊆ board.reach center (radius + 1) := by
  rcases member with ⟨dx, dy, columns, rows, rfl⟩
  rintro position ⟨dxLater, dyLater, columnsLater, rowsLater, rfl⟩
  have together : (center.shift dx dy).shift dxLater dyLater =
      center.shift (dx + dxLater) (dy + dyLater) := by
    simp only [Position.shift, Int.add_assoc]
  rw [wrap_shift_wrap, together]
  apply board.mem_reach center
  · have sum := abs_add_le dx dxLater
    push_cast at columns ⊢
    omega
  · have sum := abs_add_le dy dyLater
    push_cast at rows ⊢
    omega

variable (board center)

theorem neighbour_mem_reach (heading : Heading) :
    board.neighbour center heading ∈ board.reach center 1 := by
  apply board.mem_reach center <;> cases heading <;> decide

end

end Board

namespace Scene

open Board

/-! ## Instructions -/

theorem mem_reach_of_mem_neighbours {body : Body} {board : Board} {position : Position}
    (member : position ∈ neighbours ⟨body, board⟩) : position ∈ board.reach body.position 1 := by
  rcases List.mem_map.mp member with ⟨⟨dx, dy⟩, offset, rfl⟩
  have near : ∀ offset ∈ neighbourOffsets, |offset.1| ≤ 1 ∧ |offset.2| ≤ 1 := by decide
  exact board.mem_reach body.position (near _ offset).1 (near _ offset).2

/-- Wherever the cells next to the body are as on a board, an instruction leaves the same
body there, at most one step away, after the same meals next to where it was. -/
structure Confined (instruction : Instruction) (body : Body) (board : Board) (after : Body)
    (meals : List Position) : Prop where
  meals_mem : ∀ meal ∈ meals, meal ∈ board.reach body.position 1
  position_near : after.position = body.position ∨
    after.position ∈ board.reach body.position 1
  execute_eq : ∀ other, AgreeOn (board.reach body.position 1) board other →
    execute instruction ⟨body, other⟩ = ⟨after, other.afterMeals meals⟩

/-- A visit to a cell next to the body is a meal there. -/
theorem visit_of_agree {body : Body} {board other : Board} {target : Position}
    (near : target ∈ board.reach body.position 1)
    (agree : AgreeOn (board.reach body.position 1) board other) :
    visit ⟨body, other⟩ target =
      ⟨(visit ⟨body, board⟩ target).body, other.afterMeals [target]⟩ := by
  simp only [visit, agree.gain_eq near]
  rfl

theorem sniffWithin_of_agree (turns : Nat) (body : Body) (board : Board) :
    ∃ heading, ∀ other, AgreeOn (board.reach body.position 1) board other →
      sniffWithin turns ⟨body, other⟩ = ⟨{ body with heading }, other⟩ := by
  induction turns generalizing body with
  | zero => exact ⟨body.heading, fun _ _ => rfl⟩
  | succ turns induction =>
      have near := board.neighbour_mem_reach body.position body.heading.turnRight
      rcases induction { body with heading := body.heading.turnRight } with ⟨heading, others⟩
      cases food : board.hasFood (board.neighbour body.position body.heading.turnRight) with
      | true =>
          refine ⟨body.heading.turnRight, fun other agree => ?_⟩
          rw [← agree.hasFood_eq near, ← agree.neighbour_eq] at food
          simp only [sniffWithin, turn, foodAhead, food, if_true]
      | false =>
          refine ⟨heading, fun other agree => ?_⟩
          rw [← agree.hasFood_eq near, ← agree.neighbour_eq] at food
          simp only [sniffWithin, turn, foodAhead, food, Bool.false_eq_true, if_false]
          exact others other agree

theorem execute_confined (instruction : Instruction) (body : Body) (board : Board) :
    ∃ after meals, Confined instruction body board after meals := by
  have turned (change : Heading → Heading) {turning : Instruction}
      (turns : ∀ scene, execute turning scene = scene.turn change) :
      Confined turning body board { body with heading := change body.heading } [] :=
    ⟨by simp, .inl rfl, fun other _ => turns ⟨body, other⟩⟩
  cases instruction with
  | move =>
      have near := board.neighbour_mem_reach body.position body.heading
      refine ⟨(visit ⟨body, board⟩ (board.neighbour body.position body.heading)).body,
        [board.neighbour body.position body.heading], List.forall_mem_singleton.mpr near,
        .inr near, fun other agree => ?_⟩
      rw [← visit_of_agree near agree]
      exact congrArg (visit ⟨body, other⟩) (agree.neighbour_eq _ _)
  | eat =>
      have look (other : Board) (agree : AgreeOn (board.reach body.position 1) board other) :
          (neighbours ⟨body, other⟩).find? other.hasFood =
            (neighbours ⟨body, board⟩).find? board.hasFood := by
        have same : neighbours ⟨body, other⟩ = neighbours ⟨body, board⟩ := by
          simp only [neighbours, agree.wrap_eq]
        rw [same]
        exact List.find?_congr fun position member =>
          agree.hasFood_eq (mem_reach_of_mem_neighbours member)
      cases found : (neighbours ⟨body, board⟩).find? board.hasFood with
      | none =>
          refine ⟨body, [], by simp, .inl rfl, fun other agree => ?_⟩
          simp only [execute, eat, look other agree, found]
          rfl
      | some target =>
          have near := mem_reach_of_mem_neighbours (List.mem_of_find?_eq_some found)
          refine ⟨(visit ⟨body, board⟩ target).body, [target],
            List.forall_mem_singleton.mpr near, .inr near, fun other agree => ?_⟩
          rw [← visit_of_agree near agree]
          simp only [execute, eat, look other agree, found]
  | sniff =>
      rcases sniffWithin_of_agree 4 body board with ⟨heading, turns⟩
      exact ⟨{ body with heading }, [], by simp, .inl rfl, turns⟩
  | turnLeft => exact ⟨_, _, turned Heading.turnLeft fun _ => rfl⟩
  | turnRight => exact ⟨_, _, turned Heading.turnRight fun _ => rfl⟩

/-! ## Runs -/

/-- Wherever the cells within reach of the body are as on a board, a program leaves the
same body there and executes as many instructions, after the same meals within reach. -/
structure RunConfined (program : Program) (body : Body) (board : Board) (after : Body)
    (meals : List Position) (executed : Nat) : Prop where
  meals_mem : ∀ meal ∈ meals, meal ∈ board.reach body.position program.length
  run_eq : ∀ other, AgreeOn (board.reach body.position program.length) board other →
    run program ⟨body, other⟩ = (⟨after, other.afterMeals meals⟩, executed)

theorem Confined.reach_subset {instruction : Instruction} {body after : Body} {board : Board}
    {meals : List Position} (confined : Confined instruction body board after meals)
    (radius : Nat) :
    board.reach after.position radius ⊆ board.reach body.position (radius + 1) := by
  rcases confined.position_near with same | near
  · rw [same]
    exact board.reach_mono body.position (Nat.le_succ radius)
  · exact reach_subset_of_mem near

theorem run_confined (program : Program) (body : Body) (board : Board) :
    ∃ after meals executed, RunConfined program body board after meals executed := by
  induction program generalizing body board with
  | nil => exact ⟨body, [], 0, by simp, fun other _ => rfl⟩
  | cons instruction rest induction =>
      by_cases able : 0 ≤ body.energy
      · rcases execute_confined instruction body board with ⟨middle, first, confined⟩
        -- The rest is run where the first instruction leads, on what it leaves.
        rcases induction { middle with energy := middle.energy - 1 }
          (board.afterMeals first) with ⟨after, later, executed, others⟩
        have size : (board.afterMeals first).reach = board.reach :=
          reach_eq_of_size (board.afterMeals_width first) (board.afterMeals_height first)
        have near := board.reach_mono body.position (Nat.le_add_left 1 rest.length)
        have further := confined.reach_subset rest.length
        rcases others with ⟨mealsMem, runEq⟩
        rw [size] at mealsMem runEq
        refine ⟨after, later ++ first, executed + 1, ?_, fun other agree => ?_⟩
        · intro meal member
          rcases List.mem_append.mp member with behind | now
          · exact further (mealsMem meal behind)
          · exact near (confined.meals_mem meal now)
        · have rest := runEq (other.afterMeals first)
            ((agree.mono further).afterMeals first)
          rw [run, if_pos able, confined.execute_eq other (agree.mono near),
            afterMeals_append]
          simp only [pay, rest]
      · refine ⟨body, [], 0, by simp, fun other _ => ?_⟩
        rw [run, if_neg able]
        rfl

end Scene

/-! ## Agents -/

namespace Agent

open Board

/-- Where an agent's program takes it on a board, and how many instructions it executes. -/
def runOn (agent : Agent) (board : Board) : Scene × Nat :=
  Scene.run agent.program ⟨agent.toBody, board⟩

/-- The cells that an agent's program can get to. -/
def reach (agent : Agent) (board : Board) : Set Position :=
  board.reach agent.position agent.program.length

/-- What two boards with the same cells within reach of an agent have in common when its
program was run on each of them. -/
structure RunsAlike (agent : Agent) (board other : Board) : Prop where
  body_eq : (agent.runOn other).1.body = (agent.runOn board).1.body
  executed_eq : (agent.runOn other).2 = (agent.runOn board).2
  /-- The changes are the same meals, all of them within reach. -/
  meals : ∃ meals : List Position, (∀ meal ∈ meals, meal ∈ agent.reach board) ∧
    (agent.runOn board).1.board = board.afterMeals meals ∧
    (agent.runOn other).1.board = other.afterMeals meals
  ripeCount : ∃ eaten : Nat,
    (agent.runOn board).1.board.ripeCount = board.ripeCount - eaten ∧
    (agent.runOn other).1.board.ripeCount = other.ripeCount - eaten
  within : ∀ position ∈ agent.reach board,
    (agent.runOn other).1.board.cellAt position =
      (agent.runOn board).1.board.cellAt position
  beyond : ∀ position, board.wrap position ∉ agent.reach board →
    (agent.runOn board).1.board.cellAt position = board.cellAt position ∧
    (agent.runOn other).1.board.cellAt position = other.cellAt position

theorem runs_alike {agent : Agent} {board other : Board}
    (agree : AgreeOn (agent.reach board) board other) : RunsAlike agent board other := by
  rcases Scene.run_confined agent.program agent.toBody board with
    ⟨after, meals, executed, mealsMem, runEq⟩
  have here : agent.runOn board = (⟨after, board.afterMeals meals⟩, executed) :=
    runEq board (.refl _ board)
  have there : agent.runOn other = (⟨after, other.afterMeals meals⟩, executed) :=
    runEq other agree
  have avoid : ∀ position, board.wrap position ∉ agent.reach board →
      ∀ meal ∈ meals, board.wrap position ≠ board.wrap meal := by
    intro position beyond meal member same
    rw [wrap_of_mem_reach (mealsMem meal member)] at same
    exact beyond (same ▸ mealsMem meal member)
  constructor
  case body_eq => rw [here, there]
  case executed_eq => rw [here, there]
  case meals => exact ⟨meals, mealsMem, by rw [here], by rw [there]⟩
  case ripeCount =>
    rw [here, there]
    exact agree.ripeCount_afterMeals mealsMem
  case within =>
    rw [here, there]
    exact (agree.afterMeals meals).cellAt_eq
  case beyond =>
    intro position beyond
    rw [here, there]
    refine ⟨cellAt_afterMeals_of_avoid (avoid position beyond), ?_⟩
    apply cellAt_afterMeals_of_avoid
    rw [agree.wrap_eq]
    exact avoid position beyond

/-- What becomes of two agents is the same whichever of them runs its program first. -/
structure RunsCommute (first second : Agent) (board : Board) : Prop where
  first_body : (first.runOn (second.runOn board).1.board).1.body =
    (first.runOn board).1.body
  first_executed : (first.runOn (second.runOn board).1.board).2 = (first.runOn board).2
  second_body : (second.runOn (first.runOn board).1.board).1.body =
    (second.runOn board).1.body
  second_executed : (second.runOn (first.runOn board).1.board).2 = (second.runOn board).2
  board_eq : (second.runOn (first.runOn board).1.board).1.board =
    (first.runOn (second.runOn board).1.board).1.board

/-- Meals elsewhere leave the cells within reach of an agent as they are. -/
theorem agreeOn_afterMeals {first second : Agent} {board : Board}
    (apart : Disjoint (first.reach board) (second.reach board)) {meals : List Position}
    (elsewhere : ∀ meal ∈ meals, meal ∈ second.reach board) :
    AgreeOn (first.reach board) board (board.afterMeals meals) := by
  refine ⟨board.afterMeals_width meals, board.afterMeals_height meals, ?_⟩
  intro position near
  apply cellAt_afterMeals_of_avoid
  intro meal member
  have far := elsewhere meal member
  rw [wrap_of_mem_reach near, wrap_of_mem_reach far]
  exact Set.disjoint_iff_forall_ne.mp apart near far

theorem runs_commute {first second : Agent} {board : Board}
    (apart : Disjoint (first.reach board) (second.reach board)) :
    RunsCommute first second board := by
  rcases Scene.run_confined first.program first.toBody board with
    ⟨firstAfter, firstMeals, firstExecuted, firstNear, firstRun⟩
  rcases Scene.run_confined second.program second.toBody board with
    ⟨secondAfter, secondMeals, secondExecuted, secondNear, secondRun⟩
  have firstHere : first.runOn board = _ := firstRun board (.refl _ board)
  have secondHere : second.runOn board = _ := secondRun board (.refl _ board)
  have firstThere : first.runOn (board.afterMeals secondMeals) = _ :=
    firstRun _ (agreeOn_afterMeals apart secondNear)
  have secondThere : second.runOn (board.afterMeals firstMeals) = _ :=
    secondRun _ (agreeOn_afterMeals apart.symm firstNear)
  constructor
  case first_body => rw [firstHere, secondHere, firstThere]
  case first_executed => rw [firstHere, secondHere, firstThere]
  case second_body => rw [firstHere, secondHere, secondThere]
  case second_executed => rw [firstHere, secondHere, secondThere]
  case board_eq =>
    rw [firstHere, secondHere, secondThere, firstThere]
    exact board.afterMeals_comm firstMeals secondMeals

/-- An agent's program reads and changes only cells within its reach. On boards with the same
cells there it makes the same of the agent and changes the boards alike; and agents without
a common cell within reach make the same of each other and of the board in either order. -/
theorem independent_runs (board : Board) :
    (∀ (agent : Agent) (other : Board), AgreeOn (agent.reach board) board other →
      RunsAlike agent board other) ∧
    ∀ first second : Agent, Disjoint (first.reach board) (second.reach board) →
      RunsCommute first second board :=
  ⟨fun _ _ => runs_alike, fun _ _ => runs_commute⟩

/-- A strip of eight cells, four of them with ripe food. -/
def strip : Board where
  width := 8
  height := 1
  cells := #v[.food 5 3, .empty, .food 5 3, .empty, .food 5 3, .empty, .food 5 3, .empty]
  ripeCount := 4
  width_pos := by decide
  height_pos := Nat.zero_lt_one

/-- An agent on the strip that eats what is next to it. -/
def nibbler (id column : Int) : Agent where
  energy := 0
  position := ⟨column, 0⟩
  heading := .up
  id := id
  program := [.eat]

theorem nibbler_near {id column : Int} {position : Position}
    (near : position ∈ (nibbler id column).reach strip) :
    ∃ dx : Int, -1 ≤ dx ∧ dx ≤ 1 ∧ position.x = (column + dx) % 8 := by
  rcases near with ⟨dx, dy, columns, _, rfl⟩
  have bounds := abs_le.mp columns
  exact ⟨dx, bounds.1, bounds.2, rfl⟩

/-- The food in the middle is out of reach of the first agent, and the second one eats it. -/
theorem nibblers_independent :
    AgreeOn ((nibbler 0 1).reach strip) strip (strip.consume ⟨4, 0⟩).2 ∧
      RunsAlike (nibbler 0 1) strip (strip.consume ⟨4, 0⟩).2 ∧
      Disjoint ((nibbler 0 1).reach strip) ((nibbler 1 5).reach strip) ∧
      RunsCommute (nibbler 0 1) (nibbler 1 5) strip ∧
      ((nibbler 1 5).runOn ((nibbler 0 1).runOn strip).1.board).1.board.ripeCount = 2 := by
  have agree : AgreeOn ((nibbler 0 1).reach strip) strip (strip.consume ⟨4, 0⟩).2 := by
    refine ⟨rfl, rfl, fun position near => cellAt_consume_of_ne fun same => ?_⟩
    rcases nibbler_near near with ⟨dx, lower, upper, column⟩
    have target : position.x % 8 = 4 := congrArg Position.x same
    omega
  have apart : Disjoint ((nibbler 0 1).reach strip) ((nibbler 1 5).reach strip) := by
    apply Set.disjoint_left.mpr
    intro position first second
    rcases nibbler_near first with ⟨dx, lower, upper, column⟩
    rcases nibbler_near second with ⟨dxThere, lowerThere, upperThere, columnThere⟩
    omega
  have independent := independent_runs strip
  exact ⟨agree, independent.1 _ _ agree, apart, independent.2 _ _ apart, by decide⟩

end Agent

end Foragers

import Foragers.Proofs.Ledger
import Foragers.Proofs.Torus
import Mathlib.Logic.Equiv.Defs

/-! # Translations of the board

The board has no edge, so nothing that happens in a round tells where on it the
column and the row zero are. Moving all cells and all agents by the same number
of columns and rows and then playing a round is the same as playing the round
and moving everything afterwards.
-/

namespace Foragers

namespace Board

/-- Where a translation takes a position. -/
def carry (board : Board) (dx dy : Int) (position : Position) : Position :=
  board.wrap (position.shift dx dy)

/-- The board with every cell moved by some columns and rows. -/
def translate (board : Board) (dx dy : Int) : Board :=
  { board with
    cells := Vector.ofFn fun index =>
      board.cellAt ((board.place index).shift (-dx) (-dy)) }

variable (board : Board) (dx dy : Int)

theorem carry_eq_of_size {left right : Board} (width : left.width = right.width)
    (height : left.height = right.height) : left.carry = right.carry := by
  funext dx dy position
  simp only [carry, wrap, width, height]

@[simp] theorem wrap_translate : (board.translate dx dy).wrap = board.wrap := rfl

@[simp] theorem carry_consume (position : Position) :
    (board.consume position).2.carry = board.carry :=
  carry_eq_of_size (board.consume_width position) (board.consume_height position)

theorem wrap_shift_back (position : Position) :
    board.wrap ((board.carry dx dy position).shift (-dx) (-dy)) = board.wrap position := by
  rw [carry, wrap_shift_wrap]
  simp [Position.shift]

theorem cellAt_translate (position : Position) :
    (board.translate dx dy).cellAt position =
      board.cellAt (position.shift (-dx) (-dy)) := by
  have lookup : (board.translate dx dy).cellAt position =
      board.cellAt ((board.place (board.index position)).shift (-dx) (-dy)) :=
    Vector.getElem_ofFn (board.index_lt position)
  rw [lookup, place_index]
  exact board.cellAt_congr (board.wrap_shift_wrap position (-dx) (-dy))

@[simp] theorem cellAt_translate_carry (position : Position) :
    (board.translate dx dy).cellAt (board.carry dx dy position) = board.cellAt position := by
  rw [cellAt_translate]
  exact board.cellAt_congr (board.wrap_shift_back dx dy position)

@[simp] theorem hasFood_translate_carry (position : Position) :
    (board.translate dx dy).hasFood (board.carry dx dy position) =
      board.hasFood position := by
  rw [hasFood, cellAt_translate_carry, hasFood]

/-- The translated board is the only one in which every cell is found where the
translation takes it and which is otherwise equal. -/
theorem eq_translate_iff (moved : Board) :
    moved = board.translate dx dy ↔
      moved.width = board.width ∧ moved.height = board.height ∧
        moved.ripeCount = board.ripeCount ∧
        ∀ position, moved.cellAt (board.carry dx dy position) = board.cellAt position := by
  constructor
  · intro same
    subst same
    exact ⟨rfl, rfl, rfl, board.cellAt_translate_carry dx dy⟩
  · rintro ⟨width, height, ripeCount, cells⟩
    refine ext_cellAt width height ripeCount fun position => ?_
    have wraps : moved.wrap = board.wrap := by
      funext other
      simp only [wrap, width, height]
    have found := cells (position.shift (-dx) (-dy))
    rw [cellAt_translate, ← found]
    apply moved.cellAt_congr
    rw [wraps, carry, wrap_wrap]
    simp [Position.shift]

/-- The index of the cell so many columns and rows on. -/
def indexAfter (index : Nat) : Nat :=
  board.index ((board.place index).shift dx dy)

theorem indexAfter_back {index : Nat} (bound : index < board.width * board.height) :
    board.indexAfter (-dx) (-dy) (board.indexAfter dx dy index) = index := by
  simp only [indexAfter, place_index]
  have back := (board.index_eq_iff _ _).mpr
    (board.wrap_shift_back dx dy (board.place index))
  exact back.trans (board.index_place bound)

def slide : Equiv.Perm (Fin (board.width * board.height)) where
  toFun index := ⟨board.indexAfter dx dy index, board.index_lt _⟩
  invFun index := ⟨board.indexAfter (-dx) (-dy) index, board.index_lt _⟩
  left_inv index := Fin.ext (board.indexAfter_back dx dy index.isLt)
  right_inv index := by
    have back := board.indexAfter_back (-dx) (-dy) index.isLt
    rw [Int.neg_neg, Int.neg_neg] at back
    exact Fin.ext back

/-- A translation moves cells and neither makes nor loses any. -/
theorem translate_perm : (board.translate dx dy).cells.toList.Perm board.cells.toList := by
  have after : (board.translate dx dy).cells.toList =
      List.ofFn (board.cells.get ∘ board.slide (-dx) (-dy)) :=
    Vector.toList_ofFn
  rw [after, toList_cells]
  exact Equiv.Perm.ofFn_comp_perm _ _

theorem advance_translate :
    (board.translate dx dy).advance = board.advance.translate dx dy := by
  have ripening := (board.translate_perm dx dy).countP_eq Cell.ripensNext
  refine ext_cellAt rfl rfl ?_ fun position => ?_
  · simp only [advance, translate, ← Array.countP_toList]
    exact congrArg (board.ripeCount + ·) ripening
  · rw [cellAt_advance, cellAt_translate, cellAt_translate, cellAt_advance]

theorem neighbour_translate (position : Position) (heading : Heading) :
    (board.translate dx dy).neighbour (board.carry dx dy position) heading =
      board.carry dx dy (board.neighbour position heading) := by
  simp only [neighbour, carry, wrap_translate, Position.ahead, wrap_shift_wrap]
  simp only [Position.shift, Int.add_right_comm]

/-- A translated position wraps to a translated one if it did before. -/
theorem wrap_shift_back_eq_iff (position target : Position) :
    board.wrap position = board.wrap (board.carry dx dy target) ↔
      board.wrap (position.shift (-dx) (-dy)) = board.wrap target := by
  constructor
  · intro same
    rw [← board.wrap_shift_wrap position, same, wrap_shift_wrap, wrap_shift_back]
  · intro same
    rw [carry, wrap_wrap, ← board.wrap_shift_wrap target, ← same, wrap_shift_wrap]
    simp [Position.shift]

theorem consume_translate (target : Position) :
    (board.translate dx dy).consume (board.carry dx dy target) =
      ((board.consume target).1, (board.consume target).2.translate dx dy) := by
  have gain : ((board.translate dx dy).consume (board.carry dx dy target)).1 =
      (board.consume target).1 := by
    simp only [consume, cellAt_translate_carry]
    split <;> rfl
  have count : ((board.translate dx dy).consume (board.carry dx dy target)).2.ripeCount =
      (board.consume target).2.ripeCount := by
    simp only [consume, cellAt_translate_carry]
    split <;> rfl
  refine Prod.ext gain (ext_cellAt ?_ ?_ count fun position => ?_)
  · simp [translate]
  · simp [translate]
  · simp only [cellAt_consume, cellAt_translate_carry, hasFood_translate_carry,
      wrap_translate, wrap_shift_back_eq_iff]
    simp only [cellAt_translate, cellAt_consume]

end Board

/-! ## Bodies and instructions -/

def Body.translate (board : Board) (dx dy : Int) (body : Body) : Body :=
  { body with position := board.carry dx dy body.position }

namespace Scene

def translate (scene : Scene) (dx dy : Int) : Scene where
  body := scene.body.translate scene.board dx dy
  board := scene.board.translate dx dy

variable (scene : Scene) (dx dy : Int)

theorem visit_translate (target : Position) :
    (scene.translate dx dy).visit (scene.board.carry dx dy target) =
      (scene.visit target).translate dx dy := by
  simp only [visit, translate, Board.consume_translate, Body.translate,
    Board.carry_consume]

theorem turn_translate (change : Heading → Heading) :
    (scene.translate dx dy).turn change = (scene.turn change).translate dx dy := rfl

theorem move_translate : (scene.translate dx dy).move = scene.move.translate dx dy := by
  rw [move, move, ← visit_translate]
  exact congrArg _ (scene.board.neighbour_translate dx dy _ _)

theorem neighbours_translate :
    (scene.translate dx dy).neighbours =
      scene.neighbours.map (scene.board.carry dx dy) := by
  simp only [neighbours, List.map_map]
  apply List.map_congr_left
  intro offset _
  simp only [Function.comp, translate, Body.translate, Board.wrap_translate, Board.carry,
    Board.wrap_shift_wrap]
  simp only [Position.shift, Int.add_right_comm]

theorem eat_translate : (scene.translate dx dy).eat = scene.eat.translate dx dy := by
  have food : (scene.translate dx dy).board.hasFood ∘ scene.board.carry dx dy =
      scene.board.hasFood := by
    funext target
    exact scene.board.hasFood_translate_carry dx dy target
  simp only [eat, neighbours_translate, List.find?_map, food]
  cases scene.neighbours.find? scene.board.hasFood with
  | none => rfl
  | some target => exact scene.visit_translate dx dy target

theorem foodAhead_translate : (scene.translate dx dy).foodAhead = scene.foodAhead := by
  have ahead := scene.board.neighbour_translate dx dy scene.body.position scene.body.heading
  simp only [foodAhead, translate, Body.translate, ahead, Board.hasFood_translate_carry]

theorem sniffWithin_translate (turns : Nat) :
    sniffWithin turns (scene.translate dx dy) =
      (sniffWithin turns scene).translate dx dy := by
  induction turns generalizing scene with
  | zero => rfl
  | succ turns induction =>
      simp only [sniffWithin, turn_translate, foodAhead_translate]
      split
      · rfl
      · exact induction _

theorem execute_translate (instruction : Instruction) :
    execute instruction (scene.translate dx dy) =
      (execute instruction scene).translate dx dy := by
  cases instruction with
  | move => exact scene.move_translate dx dy
  | eat => exact scene.eat_translate dx dy
  | sniff => exact scene.sniffWithin_translate dx dy 4
  | turnLeft => rfl
  | turnRight => rfl

theorem run_translate (program : Program) :
    run program (scene.translate dx dy) =
      ((run program scene).1.translate dx dy, (run program scene).2) := by
  induction program generalizing scene with
  | nil => rfl
  | cons instruction rest induction =>
      have paid : ((execute instruction scene).translate dx dy).pay 1 =
          ((execute instruction scene).pay 1).translate dx dy := rfl
      have energy : (scene.translate dx dy).body.energy = scene.body.energy := rfl
      simp only [run, energy]
      split
      · rw [execute_translate, paid, induction]
      · rfl

end Scene

/-! ## Agents and their turns -/

variable {σ : Type}

namespace Agent

def translate (board : Board) (dx dy : Int) (agent : Agent) : Agent :=
  { agent with toBody := agent.toBody.translate board dx dy }

theorem translate_eq_of_size {left right : Board} (width : left.width = right.width)
    (height : left.height = right.height) : translate left = translate right := by
  have carries := Board.carry_eq_of_size width height
  funext dx dy agent
  simp only [translate, Body.translate, carries]

variable (board : Board) (dx dy : Int)

def Acted.translate (acted : Acted σ) : Acted σ :=
  { acted with
    agent := acted.agent.translate acted.board dx dy
    board := acted.board.translate dx dy }

theorem newborns_map (change : Agent → Agent) (child : Except Fault (Option Agent)) :
    newborns (child.map (Option.map change)) = (newborns child).map change := by
  cases child with
  | error fault => rfl
  | ok child => cases child <;> rfl

def Reproduction.translate (result : Reproduction σ) : Reproduction σ where
  parent := result.parent.translate board dx dy
  random := result.random
  child := result.child.map (Option.map (Agent.translate board dx dy))

variable [RandomSource σ]

theorem liveRound_translate (traits : Traits) (agent : Agent) (random : σ) :
    (agent.translate board dx dy).liveRound traits (board.translate dx dy) random =
      (agent.liveRound traits board random).translate dx dy := by
  have ran := Scene.run_translate
    ⟨{ agent.toBody with energy := agent.energy - traits.roundCost }, board⟩ dx dy
    agent.program
  simp only [Scene.translate, Body.translate] at ran
  simp only [liveRound, translate, Body.translate, ran]
  rfl

/-- Where the parent is has no part in what reproduction comes to. -/
theorem reproduce_translate (traits : Traits) (parent : Agent) (childId : Int)
    (random : σ) :
    (parent.translate board dx dy).reproduce traits childId random =
      (parent.reproduce traits childId random).translate board dx dy := by
  apply Reproduced.reproduce_eq
  have reproduced := parent.reproduce_reproduced traits childId random
  generalize parent.reproduce traits childId random = result at reproduced ⊢
  cases reproduced with
  | refused unable => exact .refused unable
  | failed able fault later cause =>
      have ableThere : (parent.translate board dx dy).canReproduce traits = true := able
      exact .failed ableThere fault later cause
  | born able program later mutated share shared =>
      have ableThere : (parent.translate board dx dy).canReproduce traits = true := able
      exact .born ableThere program later mutated share shared

end Agent

def Surroundings.translate (surroundings : Surroundings σ) (dx dy : Int) :
    Surroundings σ :=
  { surroundings with
    board := surroundings.board.translate dx dy
    unborn := surroundings.unborn.map (Agent.translate surroundings.board dx dy) }

def Turn.translate (taken : Turn σ) (dx dy : Int) : Turn σ where
  agent := taken.agent.translate taken.surroundings.board dx dy
  surroundings := taken.surroundings.translate dx dy
  child := taken.child.map
    (Option.map (Agent.translate taken.surroundings.board dx dy))

def Turns.translate (played : Turns σ) (dx dy : Int) : Turns σ where
  agents := played.agents.map (Agent.translate played.surroundings.board dx dy)
  surroundings := played.surroundings.translate dx dy
  fault := played.fault

namespace Surroundings

variable [RandomSource σ]
variable (traits : Traits) (agent : Agent) (surroundings : Surroundings σ) (dx dy : Int)

theorem breed_translate :
    breed traits (agent.translate surroundings.board dx dy) (surroundings.translate dx dy) =
      (breed traits agent surroundings).translate dx dy := by
  have able : (agent.translate surroundings.board dx dy).canReproduce traits =
      agent.canReproduce traits := rfl
  simp only [breed, able]
  split
  · simp only [Turn.translate, translate, Agent.reproduce_translate,
      Agent.Reproduction.translate, Agent.newborns_map, List.map_append]
  · rfl

theorem turn_translate :
    turn traits (agent.translate surroundings.board dx dy) (surroundings.translate dx dy) =
      (turn traits agent surroundings).translate dx dy := by
  have lived := Agent.liveRound_translate surroundings.board dx dy traits agent
    surroundings.random
  have grazed : surroundings.board.Grazed
      (agent.liveRound traits surroundings.board surroundings.random).board :=
    Scene.run_grazed agent.program (.refl surroundings.board)
  have size := Agent.translate_eq_of_size grazed.width_eq grazed.height_eq
  have bred := breed_translate traits
    (agent.liveRound traits surroundings.board surroundings.random).agent
    (surroundings.after (agent.liveRound traits surroundings.board surroundings.random))
    dx dy
  rw [turn, turn, ← bred]
  simp only [translate, lived, after, Agent.Acted.translate, size]

/-- No turn changes the size of the board. -/
theorem translate_turn :
    Agent.translate (turn traits agent surroundings).surroundings.board =
      Agent.translate surroundings.board := by
  have grazed := turn_grazed traits agent surroundings (.refl surroundings.board)
  exact Agent.translate_eq_of_size grazed.width_eq grazed.height_eq

theorem translate_turns (agents : List Agent) :
    Agent.translate (turns traits agents surroundings).surroundings.board =
      Agent.translate surroundings.board := by
  have grazed : surroundings.board.Grazed
      (turns traits agents surroundings).surroundings.board :=
    (turns_acts traits agents surroundings).preserves
      (fun later => surroundings.board.Grazed later.board)
      (fun _ _ => turn_grazed _ _ _) (.refl _)
  exact Agent.translate_eq_of_size grazed.width_eq grazed.height_eq

theorem turns_translate (agents : List Agent) :
    turns traits (agents.map (Agent.translate surroundings.board dx dy))
        (surroundings.translate dx dy) =
      (turns traits agents surroundings).translate dx dy := by
  induction agents generalizing surroundings with
  | nil => rfl
  | cons agent rest induction =>
      -- The waiting agents are moved on the board as the first one left it.
      have others := induction (turn traits agent surroundings).surroundings
      rw [translate_turn] at others
      rw [List.map_cons, turns, turns, turn_translate]
      simp only [Turn.translate]
      cases (turn traits agent surroundings).child with
      | error fault =>
          simp only [Except.map, Turns.translate, List.map_cons, translate_turn]
      | ok child =>
          simp only [Except.map, others, Turns.translate, List.map_cons, translate_turns]

end Surroundings

/-! ## Rounds -/

namespace World

def translate (world : World σ) (dx dy : Int) : World σ :=
  { world with
    toSurroundings := world.toSurroundings.translate dx dy
    agents := world.agents.map (Agent.translate world.board dx dy) }

variable (world : World σ) (dx dy round : Int)

theorem everyone_translate :
    (world.translate dx dy).everyone =
      world.everyone.map (Agent.translate world.board dx dy) := by
  simp only [everyone, translate, Surroundings.translate, List.map_append]

theorem filter_alive_translate (agents : List Agent) (board : Board) :
    (agents.map (Agent.translate board dx dy)).filter Agent.alive =
      (agents.filter Agent.alive).map (Agent.translate board dx dy) := by
  rw [List.filter_map]
  rfl

theorem settle_translate :
    (world.translate dx dy).settle = world.settle.translate dx dy := by
  simp only [settle, everyone_translate, filter_alive_translate]
  rfl

theorem measure_translate :
    (world.translate dx dy).measure round = world.measure round := by
  simp only [measure, settle_translate, everyone_translate]
  simp only [translate, Surroundings.translate, RoundMetrics.measure, List.length_map,
    List.map_map]
  rfl

theorem conclude_translate :
    (world.translate dx dy).conclude round =
      ((world.conclude round).1.translate dx dy, (world.conclude round).2) := by
  simp only [conclude, settle_translate, measure_translate]
  have nobody : (world.settle.translate dx dy).agents.isEmpty =
      world.settle.agents.isEmpty := by
    simp only [translate, List.isEmpty_map]
  rw [nobody]
  split
  · rfl
  · cases world.measure round <;> rfl

variable [RandomSource σ]

theorem beginRound_translate :
    (world.translate dx dy).beginRound round = (world.beginRound round).translate dx dy := by
  have advanced : Agent.translate world.board.advance = Agent.translate world.board := rfl
  simp only [beginRound, translate, Surroundings.translate, RandomSource.shuffle_map,
    Board.advance_translate, advanced]

theorem act_translate :
    (world.translate dx dy).act = (world.act.1.translate dx dy, world.act.2) := by
  have played := world.toSurroundings.turns_translate world.settings.traits dx dy world.agents
  simp only [act, translate] at played ⊢
  rw [played]
  rfl

/-- Where everybody stands has no part in when a round stops. -/
theorem played_translate :
    (world.translate dx dy).played round = (world.played round).translate dx dy := by
  have turns := (world.beginRound round).toSurroundings.turns_translate
    world.settings.traits dx dy (world.beginRound round).agents
  rw [played, beginRound_translate]
  exact turns

theorem acted_translate :
    (world.translate dx dy).acted round = (world.acted round).translate dx dy := by
  rw [acted, beginRound_translate, act_translate]
  rfl

/-- Nobody's place is counted differently at the end of a round. -/
theorem translate_acted :
    Agent.translate (world.acted round).board = Agent.translate world.board := by
  have grazed := world.acted_grazed round
  exact Agent.translate_eq_of_size grazed.width_eq grazed.height_eq

theorem births_translate :
    (world.translate dx dy).births round =
      (world.births round).map (Agent.translate world.board dx dy) := by
  have queue : ((world.translate dx dy).played round).surroundings.unborn =
      (world.played round).surroundings.unborn.map
        (Agent.translate (world.acted round).board dx dy) := by
    rw [played_translate]
    rfl
  rw [((world.translate dx dy).acts round).unborn_eq, (world.acts round).unborn_eq,
    translate_acted, List.map_append] at queue
  -- Those who waited before the round are the same on both sides.
  exact List.append_cancel_left queue

theorem culled_translate :
    (world.translate dx dy).culled round =
      (world.culled round).map (Agent.translate world.board dx dy) := by
  rw [culled, culled, played_translate]
  simp only [Turns.translate]
  cases (world.played round).fault with
  | some fault => rfl
  | none =>
      simp only [acted_translate, everyone_translate, translate_acted, List.filter_map]
      rfl

/-- A round on a translated board is the round on the board as it was, translated:
with the same faults and measurements, the same draws, births and deaths. -/
theorem step_translate :
    (world.translate dx dy).step round =
        ((world.step round).1.translate dx dy, (world.step round).2) ∧
      (world.translate dx dy).births round =
        (world.births round).map (Agent.translate world.board dx dy) ∧
      (world.translate dx dy).culled round =
        (world.culled round).map (Agent.translate world.board dx dy) ∧
      ∀ moved : Board, moved = world.board.translate dx dy ↔
        moved.width = world.board.width ∧ moved.height = world.board.height ∧
          moved.ripeCount = world.board.ripeCount ∧
          ∀ position, moved.cellAt (world.board.wrap (position.shift dx dy)) =
            world.board.cellAt position := by
  refine ⟨?_, world.births_translate dx dy round, world.culled_translate dx dy round,
    world.board.eq_translate_iff dx dy⟩
  have status : (world.translate dx dy).status = world.status := rfl
  have act : ((world.beginRound round).translate dx dy).act =
      ((world.acted round).translate dx dy, (world.played round).fault) :=
    (world.beginRound round).act_translate dx dy
  have actBefore : (world.beginRound round).act =
      (world.acted round, (world.played round).fault) := rfl
  simp only [step, status, beginRound_translate, act, actBefore]
  split
  · cases (world.played round).fault with
    | some fault => rfl
    | none => exact (world.acted round).conclude_translate dx dy round
  · rfl

end World

end Foragers

import Foragers.Agent.Behaviour
import Foragers.Proofs.Torus

/-! # Behaviour

Whatever an instruction does comes down to three things: the body is put on a
cell of the board, or it turns, and then it pays. What these keep is kept by a
program of any length.

A look at a cell can also be taken without wrapping its position, and then it
fails where there is no such cell. No program ever makes it fail.
-/

namespace Foragers

namespace Scene

theorem sniffWithin_turns (turns : Nat) (scene : Scene) :
    ∃ change, sniffWithin turns scene = scene.turn change := by
  induction turns generalizing scene with
  | zero => exact ⟨id, rfl⟩
  | succ turns induction =>
      simp only [sniffWithin]
      split
      · exact ⟨Heading.turnRight, rfl⟩
      · rcases induction (scene.turn Heading.turnRight) with ⟨change, equal⟩
        exact ⟨change ∘ Heading.turnRight, equal⟩

/-- An instruction takes the body to a cell of the board, where it eats, or only
turns it. -/
theorem execute_cases (instruction : Instruction) (scene : Scene) :
    (∃ position, execute instruction scene = scene.visit (scene.board.wrap position)) ∨
      ∃ change, execute instruction scene = scene.turn change := by
  cases instruction with
  | move => exact .inl ⟨_, rfl⟩
  | eat =>
      simp only [execute, eat]
      cases found : scene.neighbours.find? scene.board.hasFood with
      | none => exact .inr ⟨id, rfl⟩
      | some target =>
          rcases List.mem_map.mp (List.mem_of_find?_eq_some found) with ⟨offset, _, wrapped⟩
          rw [← wrapped]
          exact .inl ⟨_, rfl⟩
  | sniff => exact .inr (sniffWithin_turns 4 scene)
  | turnLeft => exact .inr ⟨_, rfl⟩
  | turnRight => exact .inr ⟨_, rfl⟩

/-- Who visits a cell with food gains its energy. -/
theorem visit_of_food {scene : Scene} {target : Position}
    (food : scene.board.hasFood target = true) :
    scene.visit target = {
      body := { scene.body with
        position := target
        energy := scene.body.energy + (scene.board.cellAt target).energy }
      board := (scene.board.consume target).2 } := by
  rw [Board.hasFood] at food
  have gain : (scene.board.consume target).1 = (scene.board.cellAt target).energy := by
    rw [Board.consume, if_pos food]
  rw [← gain]
  rfl

theorem visit_of_noFood {scene : Scene} {target : Position}
    (noFood : scene.board.hasFood target = false) :
    scene.visit target = { scene with body := { scene.body with position := target } } := by
  rw [Board.hasFood] at noFood
  simp [visit, Board.consume, noFood]

/-- What visits, turns and payments keep is kept to the end of a program. -/
theorem run_preserves (invariant : Scene → Prop)
    (visited : ∀ scene position, invariant scene →
      invariant (scene.visit (scene.board.wrap position)))
    (turned : ∀ scene change, invariant scene → invariant (scene.turn change))
    (paid : ∀ scene cost, invariant scene → invariant (scene.pay cost))
    (program : Program) {scene : Scene} (initially : invariant scene) :
    invariant (run program scene).1 := by
  induction program generalizing scene with
  | nil => exact initially
  | cons instruction rest induction =>
      have executed : invariant (execute instruction scene) := by
        rcases execute_cases instruction scene with ⟨position, visits⟩ | ⟨change, turns⟩
        · rw [visits]
          exact visited scene position initially
        · rw [turns]
          exact turned scene change initially
      simp only [run]
      split
      · exact induction (paid _ 1 executed)
      · exact initially

end Scene

/-! ## Looks that can fail -/

namespace Board

/-- The cell at a position that is not wrapped first, if there is one. -/
def cell? (board : Board) (position : Position) : Option Cell :=
  if board.addresses position then some (board.cellAt position) else none

def hasFood? (board : Board) (position : Position) : Option Bool :=
  (board.cell? position).map Cell.hasFood

def consume? (board : Board) (position : Position) : Option (Int × Board) :=
  (board.cell? position).map fun _ => board.consume position

@[simp] theorem hasFood?_wrap (board : Board) (position : Position) :
    board.hasFood? (board.wrap position) = some (board.hasFood (board.wrap position)) := by
  simp [hasFood?, cell?, addresses_wrap, hasFood]

@[simp] theorem consume?_wrap (board : Board) (position : Position) :
    board.consume? (board.wrap position) = some (board.consume (board.wrap position)) := by
  simp [consume?, cell?, addresses_wrap]

end Board

namespace Scene

def visit? (scene : Scene) (target : Position) : Option Scene := do
  let (gain, board) ← scene.board.consume? target
  return {
    body := { scene.body with position := target, energy := scene.body.energy + gain }
    board }

def move? (scene : Scene) : Option Scene :=
  scene.visit? (scene.board.neighbour scene.body.position scene.body.heading)

/-- The first of some positions with food, unless a look at one before it fails. -/
def findFood? (board : Board) : List Position → Option (Option Position)
  | [] => some none
  | position :: rest => do
      if ← board.hasFood? position then return some position else findFood? board rest

def eat? (scene : Scene) : Option Scene := do
  match ← findFood? scene.board scene.neighbours with
  | some target => scene.visit? target
  | none => return scene

def sniffWithin? : Nat → Scene → Option Scene
  | 0, scene => some scene
  | turns + 1, scene => do
      let turned := scene.turn Heading.turnRight
      let found ← turned.board.hasFood?
        (turned.board.neighbour turned.body.position turned.body.heading)
      if found then return turned else sniffWithin? turns turned

def execute? : Instruction → Scene → Option Scene
  | .move, scene => scene.move?
  | .eat, scene => scene.eat?
  | .sniff, scene => sniffWithin? 4 scene
  | .turnLeft, scene => some (scene.turn Heading.turnLeft)
  | .turnRight, scene => some (scene.turn Heading.turnRight)

/-- Runs a program, unless a look at a cell fails on the way. -/
def run? : Program → Scene → Option (Scene × Nat)
  | [], scene => some (scene, 0)
  | instruction :: rest, scene =>
      if 0 ≤ scene.body.energy then do
        let next ← execute? instruction scene
        let (last, executed) ← run? rest (next.pay 1)
        return (last, executed + 1)
      else some (scene, 0)

theorem visit?_wrap (scene : Scene) (position : Position) :
    scene.visit? (scene.board.wrap position) =
      some (scene.visit (scene.board.wrap position)) := by
  simp [visit?, visit]

theorem findFood?_eq (board : Board) {positions : List Position}
    (wrapped : ∀ position ∈ positions, board.wrap position = position) :
    findFood? board positions = some (positions.find? board.hasFood) := by
  induction positions with
  | nil => rfl
  | cons position rest induction =>
      have first := wrapped position List.mem_cons_self
      have others := induction fun other member =>
        wrapped other (List.mem_cons_of_mem _ member)
      have look := board.hasFood?_wrap position
      rw [first] at look
      rw [findFood?, look, List.find?_cons, others]
      cases board.hasFood position <;> rfl

theorem wrap_of_mem_neighbours {scene : Scene} {position : Position}
    (member : position ∈ scene.neighbours) : scene.board.wrap position = position := by
  rcases List.mem_map.mp member with ⟨offset, _, wrapped⟩
  rw [← wrapped, Board.wrap_wrap]

theorem eat?_eq (scene : Scene) : scene.eat? = some scene.eat := by
  rw [eat?, findFood?_eq scene.board fun _ => wrap_of_mem_neighbours, eat]
  cases found : scene.neighbours.find? scene.board.hasFood with
  | none => rfl
  | some target =>
      have visits := scene.visit?_wrap target
      rwa [wrap_of_mem_neighbours (List.mem_of_find?_eq_some found)] at visits

theorem sniffWithin?_eq (turns : Nat) (scene : Scene) :
    sniffWithin? turns scene = some (sniffWithin turns scene) := by
  induction turns generalizing scene with
  | zero => rfl
  | succ turns induction =>
      simp only [sniffWithin?, sniffWithin, foodAhead, Board.neighbour,
        Board.hasFood?_wrap, induction]
      exact (apply_ite some _ _ _).symm

theorem execute?_eq (instruction : Instruction) (scene : Scene) :
    execute? instruction scene = some (execute instruction scene) := by
  cases instruction with
  | move => exact scene.visit?_wrap _
  | eat => exact scene.eat?_eq
  | sniff => exact sniffWithin?_eq 4 scene
  | turnLeft => rfl
  | turnRight => rfl

/-- No look at a cell ever fails. -/
theorem run?_eq (program : Program) (scene : Scene) :
    run? program scene = some (run program scene) := by
  induction program generalizing scene with
  | nil => rfl
  | cons instruction rest induction =>
      rw [run?, run]
      split
      · rw [execute?_eq]
        simp only [Option.bind_eq_bind, Option.bind_some, induction]
        rfl
      · rfl

end Scene

end Foragers

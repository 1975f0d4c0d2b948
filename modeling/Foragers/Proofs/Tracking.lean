import Foragers.Proofs.Feeding

/-! # Tracking

A body that sniffs turns right until there is food ahead. So it looks to its right first,
then behind, to its left and straight ahead, where the last of four turns has brought it
back to its old heading. A move then takes it onto the food that it has found, or one cell
further if there is none.
-/

namespace Foragers

/-- The headings in the order in which somebody who turns right comes to face them. -/
def Heading.sweep (heading : Heading) : List Heading :=
  [heading.turnRight, heading.opposite, heading.turnLeft, heading]

theorem Heading.mem_sweep (heading other : Heading) : other ∈ heading.sweep := by
  cases heading <;> cases other <;> decide

/-- Only the cell that is eaten from loses its food. -/
theorem Board.hasFood_consume_iff {board : Board} {target : Position}
    (food : board.hasFood target = true) (position : Position) :
    (board.hasFood position = true ∧ (board.consume target).2.hasFood position = false) ↔
      board.wrap position = board.wrap target := by
  by_cases here : board.wrap position = board.wrap target
  · have same := board.cellAt_congr here
    simp only [hasFood, cellAt_consume, here, and_true] at food ⊢
    simp [food, same]
  · simp [hasFood_consume_of_ne here, here]

namespace Scene

/-- The cell next to the body in some direction. -/
def towards (scene : Scene) (heading : Heading) : Position :=
  scene.board.neighbour scene.body.position heading

def foodTowards (scene : Scene) (heading : Heading) : Bool :=
  scene.board.hasFood (scene.towards heading)

variable {scene : Scene}

/-! ## Where the search ends -/

/-- The search ends at the first heading with food ahead, or else after its last turn. -/
theorem sniffWithin_eq (turns : Nat) (scene : Scene) :
    sniffWithin turns scene = scene.turn fun heading =>
      ((List.iterate Heading.turnRight heading.turnRight turns).find?
        scene.foodTowards).getD (Heading.turnRight^[turns] heading) := by
  induction turns generalizing scene with
  | zero => rfl
  | succ turns induction =>
      -- A look follows each turn, so the rest of the search begins one turn further on.
      have ahead : (scene.turn Heading.turnRight).foodAhead =
          scene.foodTowards scene.body.heading.turnRight := rfl
      simp only [sniffWithin, ahead, induction]
      cases found : scene.foodTowards scene.body.heading.turnRight with
      | true => simp [turn, List.iterate, found]
      | false =>
          simp only [turn, List.iterate, List.find?_cons, found]
          rfl

/-- Four turns lead once around, and without food back to where they began. -/
theorem sniff_eq (scene : Scene) :
    scene.sniff = scene.turn fun heading =>
      (heading.sweep.find? scene.foodTowards).getD heading := by
  rw [sniff, sniffWithin_eq]
  congr 1
  funext heading
  cases heading <;> rfl

theorem towards_wrap (scene : Scene) (heading : Heading) :
    scene.board.wrap (scene.towards heading) = scene.towards heading :=
  scene.board.wrap_wrap _

/-! ## Sniffing and moving -/

/-- There is food in a cell next to the body exactly if a cell loses its food. That is the
first one with food, looking right, behind, left and ahead: the body goes there and gains
its energy. Otherwise the body goes straight ahead and nothing else happens. -/
structure TracksFood (scene after : Scene) : Prop where
  fed_iff : (∃ position, scene.board.hasFood position = true ∧
      after.board.hasFood position = false) ↔
    ∃ heading, scene.foodTowards heading = true
  fed_on : ∀ heading, scene.body.heading.sweep.find? scene.foodTowards = some heading →
    ∀ position, (scene.board.hasFood position = true ∧
        after.board.hasFood position = false) ↔
      scene.board.wrap position = scene.towards heading
  caught : ∀ heading, scene.body.heading.sweep.find? scene.foodTowards = some heading →
    after = {
      body := {
        energy := scene.body.energy + (scene.board.cellAt (scene.towards heading)).energy
        position := scene.towards heading
        heading }
      board := (scene.board.consume (scene.towards heading)).2 }
  missed : (∀ heading, scene.foodTowards heading = false) →
    after = {
      body := { scene.body with position := scene.towards scene.body.heading }
      board := scene.board }

theorem hasFood_of_find?_sweep {heading : Heading}
    (found : scene.body.heading.sweep.find? scene.foodTowards = some heading) :
    scene.board.hasFood (scene.towards heading) = true := by
  have food : scene.foodTowards heading = true := List.find?_some found
  exact food

theorem sniff_move_of_some {heading : Heading}
    (found : scene.body.heading.sweep.find? scene.foodTowards = some heading) :
    scene.sniff.move = {
      body := {
        energy := scene.body.energy + (scene.board.cellAt (scene.towards heading)).energy
        position := scene.towards heading
        heading }
      board := (scene.board.consume (scene.towards heading)).2 } := by
  have faced : scene.sniff = scene.turn fun _ => heading := by
    rw [sniff_eq]
    simp only [turn, found, Option.getD_some]
  have food := hasFood_of_find?_sweep found
  rw [faced]
  exact visit_of_food food

theorem sniff_move_of_none (nothing : ∀ heading, scene.foodTowards heading = false) :
    scene.sniff.move = {
      body := { scene.body with position := scene.towards scene.body.heading }
      board := scene.board } := by
  have unfound : scene.body.heading.sweep.find? scene.foodTowards = none :=
    List.find?_eq_none.mpr fun heading _ => by simp [nothing heading]
  have kept : scene.sniff = scene := by
    rw [sniff_eq]
    simp only [turn, unfound, Option.getD_none]
  rw [kept]
  exact visit_of_noFood (nothing scene.body.heading)

theorem exists_find?_sweep {heading : Heading} (food : scene.foodTowards heading = true) :
    ∃ first, scene.body.heading.sweep.find? scene.foodTowards = some first := by
  cases found : scene.body.heading.sweep.find? scene.foodTowards with
  | some first => exact ⟨first, rfl⟩
  | none =>
      have absent := List.find?_eq_none.mp found heading (Heading.mem_sweep _ heading)
      exact absurd food absent

theorem sniff_move_tracksFood (scene : Scene) :
    TracksFood scene (execute .move (execute .sniff scene)) := by
  have lost : ∀ heading, scene.body.heading.sweep.find? scene.foodTowards = some heading →
      ∀ position, (scene.board.hasFood position = true ∧
          scene.sniff.move.board.hasFood position = false) ↔
        scene.board.wrap position = scene.towards heading := by
    intro heading found position
    rw [sniff_move_of_some found, Board.hasFood_consume_iff (hasFood_of_find?_sweep found),
      towards_wrap]
  constructor
  case fed_iff =>
    constructor
    · rintro ⟨position, before, after⟩
      by_contra nothing
      have none : ∀ heading, scene.foodTowards heading = false := by simpa using nothing
      change scene.sniff.move.board.hasFood position = false at after
      rw [sniff_move_of_none none, before] at after
      cases after
    · rintro ⟨heading, food⟩
      rcases exists_find?_sweep food with ⟨first, found⟩
      exact ⟨scene.towards first, (lost first found _).mpr (scene.towards_wrap first)⟩
  case fed_on => exact lost
  case caught => exact fun heading => sniff_move_of_some
  case missed => exact sniff_move_of_none

/-- In a corridor a body that looks up goes back to the food behind it. To its right and
to its left there is only its own cell. -/
theorem lodger_tracks :
    (lodger .corridor ⟨0, 1⟩).body.heading.sweep.find?
        (lodger .corridor ⟨0, 1⟩).foodTowards = some .down ∧
      (execute .move (execute .sniff (lodger .corridor ⟨0, 1⟩))).body =
        { energy := 15, position := ⟨0, 2⟩, heading := .down } := by
  have found : (lodger .corridor ⟨0, 1⟩).body.heading.sweep.find?
      (lodger .corridor ⟨0, 1⟩).foodTowards = some .down := by decide
  refine ⟨found, ?_⟩
  rw [(sniff_move_tracksFood (lodger .corridor ⟨0, 1⟩)).caught .down found]
  rfl

end Scene

end Foragers

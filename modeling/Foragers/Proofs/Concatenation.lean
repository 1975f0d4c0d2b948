import Foragers.Proofs.Surplus

/-! # Programs in two parts

A run has no state but the scene, and a body that stopped in the middle of a program has
no energy to begin another one. So a program that is put together from two parts does
what the parts do one after the other.
-/

namespace Foragers.Scene

/-- A body that did not finish one program does not begin the next. -/
theorem run_of_unfinished {first : Program} {scene : Scene}
    (unfinished : (run first scene).2 < first.length) (second : Program) :
    run second (run first scene).1 = ((run first scene).1, 0) :=
  run_of_exhausted second (energy_of_unfinished unfinished)

theorem run_append (first second : Program) (scene : Scene) :
    run (first ++ second) scene =
      ((run second (run first scene).1).1,
        (run first scene).2 + (run second (run first scene).1).2) := by
  induction first generalizing scene with
  | nil => simp [run]
  | cons instruction rest induction =>
      by_cases able : 0 ≤ scene.body.energy
      · have others := induction ((execute instruction scene).pay 1)
        simp only [List.cons_append, run, if_pos able, others, Nat.add_right_comm]
      -- The body stops at once, and it would do so in either part.
      · have exhausted := Int.not_le.mp able
        simp only [run_of_exhausted _ exhausted, Nat.add_zero]

/-- A program in two parts leaves the body and the board as its parts do, the second being
run on what the first one left, and it executes as many instructions as both together. It
does so as well when a body stops in the first part, of which the second part then
executes nothing, or when it cannot pay for any instruction at all. -/
theorem run_in_parts (first second : Program) (scene : Scene) :
    let begun := run first scene
    let ended := run second begun.1
    let whole := run (first ++ second) scene
    (whole.1.body.energy = ended.1.body.energy ∧
      whole.1.body.position = ended.1.body.position ∧
      whole.1.body.heading = ended.1.body.heading ∧ whole.1.board = ended.1.board) ∧
    whole.2 = begun.2 + ended.2 ∧
    (begun.2 < first.length → ended = (begun.1, 0)) ∧
    (scene.body.energy < 0 → whole = (scene, 0)) := by
  intro begun ended whole
  have wholeEq : whole = (ended.1, begun.2 + ended.2) := run_append first second scene
  refine ⟨?_, ?_, ?_, ?_⟩
  · rw [wholeEq]
    exact ⟨rfl, rfl, rfl, rfl⟩
  · rw [wholeEq]
  · intro unfinished
    exact run_of_unfinished unfinished second
  · intro exhausted
    exact run_of_exhausted _ exhausted

/-- A body without energy stops in the first part, after one of two turns. -/
theorem waverer_in_parts :
    (run [.turnLeft, .turnRight] (waverer.withEnergy 0)).2 < 2 ∧
      run [.move] (run [.turnLeft, .turnRight] (waverer.withEnergy 0)).1 =
        ((run [.turnLeft, .turnRight] (waverer.withEnergy 0)).1, 0) ∧
      (run [.turnLeft, .turnRight, .move] (waverer.withEnergy 0)).2 = 1 + 0 := by
  have unfinished : (run [.turnLeft, .turnRight] (waverer.withEnergy 0)).2 < 2 := by decide
  have parts := run_in_parts [.turnLeft, .turnRight] [.move] (waverer.withEnergy 0)
  have nothing := parts.2.2.1 unfinished
  have executed := parts.2.1
  rw [nothing] at executed
  exact ⟨unfinished, nothing, executed⟩

end Foragers.Scene

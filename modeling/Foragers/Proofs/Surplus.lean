import Foragers.Proofs.Behaviour
import Foragers.Proofs.Regrowth

/-! # Surplus energy

What an instruction does is the same for a poor body and for a rich one. So a rich
body goes at least as far through a program as a poor one, by the same way, and as
long as food does no harm it is never poorer at the end.
-/

namespace Foragers

namespace Board

/-- No food takes energy from the body that eats it. -/
def Wholesome (board : Board) : Prop :=
  ∀ cell ∈ board.cells.toList, cell.kind = .food → 0 ≤ cell.energy

instance (board : Board) : Decidable board.Wholesome :=
  inferInstanceAs (Decidable (∀ cell ∈ board.cells.toList, _))

namespace Wholesome

variable {board : Board}

theorem gain_nonneg (wholesome : board.Wholesome) (target : Position) :
    0 ≤ (board.consume target).1 := by
  simp only [Board.consume]
  split
  · rename_i ripe
    exact wholesome _ (board.cellAt_mem target) ((Cell.hasFood_iff _).mp ripe).1
  · exact Int.le_refl 0

theorem consume (wholesome : board.Wholesome) (target : Position) :
    (board.consume target).2.Wholesome := by
  simp only [Board.consume]
  split
  · intro cell member
    rw [Vector.toList_set] at member
    rcases List.mem_or_eq_of_mem_set member with kept | eaten
    · exact wholesome cell kept
    · rw [eaten]
      exact wholesome (board.cellAt target) (board.cellAt_mem target)
  · exact wholesome

end Wholesome

end Board

namespace Scene

/-- The same body at the same place, with another energy. -/
def withEnergy (scene : Scene) (energy : Int) : Scene :=
  { scene with body := { scene.body with energy } }

/-- The same body with some energy more. -/
def enrich (scene : Scene) (surplus : Int) : Scene :=
  scene.withEnergy (scene.body.energy + surplus)

/-! ## Instructions -/

section

variable (scene : Scene) (surplus : Int)

theorem visit_enrich (target : Position) :
    (scene.enrich surplus).visit target = (scene.visit target).enrich surplus := by
  simp only [enrich, withEnergy, visit, Int.add_right_comm]

theorem sniffWithin_enrich (turns : Nat) :
    sniffWithin turns (scene.enrich surplus) = (sniffWithin turns scene).enrich surplus := by
  induction turns generalizing scene with
  | zero => rfl
  | succ turns induction =>
      have turned : (scene.enrich surplus).turn Heading.turnRight =
          (scene.turn Heading.turnRight).enrich surplus := rfl
      have ahead : ((scene.turn Heading.turnRight).enrich surplus).foodAhead =
          (scene.turn Heading.turnRight).foodAhead := rfl
      simp only [sniffWithin, turned, ahead]
      split
      · rfl
      · exact induction _

/-- Instructions do not ask for the energy of the body. -/
theorem execute_enrich (instruction : Instruction) :
    execute instruction (scene.enrich surplus) =
      (execute instruction scene).enrich surplus := by
  cases instruction with
  | move => exact scene.visit_enrich surplus _
  | eat =>
      have neighbours : (scene.enrich surplus).neighbours = scene.neighbours := rfl
      have board : (scene.enrich surplus).board = scene.board := rfl
      simp only [execute, eat, neighbours, board]
      cases scene.neighbours.find? scene.board.hasFood with
      | none => rfl
      | some target => exact scene.visit_enrich surplus target
  | sniff => exact scene.sniffWithin_enrich surplus 4
  | turnLeft => rfl
  | turnRight => rfl

theorem pay_enrich (cost : Int) :
    (scene.enrich surplus).pay cost = (scene.pay cost).enrich surplus := by
  simp only [enrich, withEnergy, pay]
  congr 2
  omega

end

theorem execute_wholesome (instruction : Instruction) {scene : Scene}
    (wholesome : scene.board.Wholesome) :
    (execute instruction scene).board.Wholesome ∧
      scene.body.energy ≤ (execute instruction scene).body.energy := by
  rcases execute_cases instruction scene with ⟨target, visits⟩ | ⟨change, turns⟩
  · have gain := wholesome.gain_nonneg (scene.board.wrap target)
    rw [visits]
    refine ⟨wholesome.consume _, ?_⟩
    simp only [visit]
    omega
  · rw [turns]
    exact ⟨wholesome, Int.le_refl _⟩

/-! ## Runs -/

theorem run_of_exhausted (program : Program) {scene : Scene}
    (exhausted : scene.body.energy < 0) : run program scene = (scene, 0) := by
  cases program with
  | nil => rfl
  | cons instruction rest => rw [run, if_neg (Int.not_le.mpr exhausted)]

/-- Only a body without energy leaves a part of its program out. -/
theorem energy_of_unfinished {program : Program} {scene : Scene}
    (unfinished : (run program scene).2 < program.length) :
    (run program scene).1.body.energy < 0 := by
  induction program generalizing scene with
  | nil => cases unfinished
  | cons instruction rest induction =>
      simp only [run] at unfinished ⊢
      split at unfinished
      · rename_i able
        rw [if_pos able]
        exact induction (Nat.lt_of_succ_lt_succ unfinished)
      · rename_i exhausted
        rw [if_neg exhausted]
        exact Int.not_le.mp exhausted

/-- Nobody who can pay for an instruction is more than one unit short of it. -/
theorem run_energy_ge (program : Program) (scene : Scene)
    (wholesome : scene.board.Wholesome) :
    min scene.body.energy (-1) ≤ (run program scene).1.body.energy := by
  induction program generalizing scene with
  | nil => exact Int.min_le_left _ _
  | cons instruction rest induction =>
      simp only [run]
      split
      · rename_i able
        rcases execute_wholesome instruction wholesome with ⟨later, energyLe⟩
        have others := induction ((execute instruction scene).pay 1) later
        simp only [pay] at others ⊢
        omega
      · exact Int.min_le_left _ _

theorem length_run_le (program : Program) (scene : Scene) :
    (run program scene).2 ≤ program.length := by
  induction program generalizing scene with
  | nil => exact Nat.le_refl 0
  | cons instruction rest induction =>
      simp only [run]
      split
      · exact Nat.succ_le_succ (induction _)
      · exact Nat.zero_le _

/-- As far as a poor body goes, a rich one goes the same way. -/
theorem run_enrich (program : Program) (scene : Scene) {surplus : Int}
    (nonneg : 0 ≤ surplus) :
    (run program scene).2 ≤ (run program (scene.enrich surplus)).2 ∧
      run (program.take (run program scene).2) (scene.enrich surplus) =
        ((run program scene).1.enrich surplus, (run program scene).2) := by
  induction program generalizing scene with
  | nil => exact ⟨Nat.le_refl 0, rfl⟩
  | cons instruction rest induction =>
      by_cases able : 0 ≤ scene.body.energy
      · have ableThere : 0 ≤ (scene.enrich surplus).body.energy := Int.add_nonneg able nonneg
        have others := induction ((execute instruction scene).pay 1)
        rw [← pay_enrich, ← execute_enrich] at others
        simp only [run, if_pos able, if_pos ableThere, List.take_succ_cons, others.2]
        exact ⟨Nat.succ_le_succ others.1, trivial⟩
      · rw [run_of_exhausted _ (Int.not_le.mp able)]
        exact ⟨Nat.zero_le _, rfl⟩

theorem run_enrich_energy_ge (program : Program) {scene : Scene}
    (wholesome : scene.board.Wholesome) {surplus : Int} (nonneg : 0 ≤ surplus) :
    (run program scene).1.body.energy ≤
      (run program (scene.enrich surplus)).1.body.energy := by
  have rich : min (scene.body.energy + surplus) (-1) ≤
      (run program (scene.enrich surplus)).1.body.energy :=
    run_energy_ge program (scene.enrich surplus) wholesome
  by_cases finished : (run program scene).2 = program.length
  -- Both execute the whole program.
  · have same := (run_enrich program scene nonneg).2
    rw [finished, List.take_length] at same
    rw [same]
    exact Int.le_add_of_nonneg_right nonneg
  · have unfinished := Nat.lt_of_le_of_ne (length_run_le program scene) finished
    have stopped := energy_of_unfinished unfinished
    by_cases able : 0 ≤ scene.body.energy
    · omega
    · rw [run_of_exhausted _ (Int.not_le.mp able)] at stopped ⊢
      dsimp only at stopped ⊢
      omega

/-- More energy never hurts where food does no harm. The richer of two bodies executes at
least as many instructions. After as many as the poorer one executes it is at the same
place, heads the same way and has changed the board alike, and at its end it is not the
poorer one. Who starts with no debt ends at most one unit in debt, and whoever stops
early is in debt. -/
theorem richer_run (program : Program) (scene : Scene)
    (wholesome : scene.board.Wholesome) {energy more : Int} (energyLe : energy ≤ more) :
    let poor := run program (scene.withEnergy energy)
    let rich := run program (scene.withEnergy more)
    let midway := run (program.take poor.2) (scene.withEnergy more)
    poor.2 ≤ rich.2 ∧
    (midway.2 = poor.2 ∧ midway.1.body.position = poor.1.body.position ∧
      midway.1.body.heading = poor.1.body.heading ∧ midway.1.board = poor.1.board) ∧
    poor.1.body.energy ≤ rich.1.body.energy ∧
    (0 ≤ energy → -1 ≤ poor.1.body.energy) ∧
    (poor.2 < program.length → poor.1.body.energy < 0) := by
  intro poor rich midway
  have nonneg : 0 ≤ more - energy := Int.sub_nonneg_of_le energyLe
  have richer : scene.withEnergy more =
      (scene.withEnergy energy).enrich (more - energy) := by
    simp only [enrich, withEnergy]
    congr 2
    omega
  have wholesomeHere : (scene.withEnergy energy).board.Wholesome := wholesome
  have run := run_enrich program (scene.withEnergy energy) nonneg
  rw [← richer] at run
  refine ⟨run.1, ?_, ?_, ?_, energy_of_unfinished⟩
  · simp only [midway, poor, run.2]
    exact ⟨trivial, rfl, rfl, rfl⟩
  · have energies := run_enrich_energy_ge program wholesomeHere nonneg
    rwa [← richer] at energies
  · intro able
    have least : min energy (-1) ≤ poor.1.body.energy :=
      run_energy_ge program _ wholesomeHere
    omega

/-- A body that turns away from the food in front of it and back again before it eats. -/
def waverer : Scene where
  body := { energy := 0, position := ⟨1, 0⟩, heading := .left }
  board := .glade

/-- Without energy the body does not get further than the first turn. -/
theorem waverer_richer :
    waverer.board.Wholesome ∧ (0 : Int) ≤ 2 ∧
      (run [.turnLeft, .turnRight, .move] (waverer.withEnergy 0)).2 = 1 ∧
      (run [.turnLeft, .turnRight, .move] (waverer.withEnergy 2)).2 = 3 ∧
      (run [.turnLeft, .turnRight, .move] (waverer.withEnergy 0)).1.body.energy ≤
        (run [.turnLeft, .turnRight, .move] (waverer.withEnergy 2)).1.body.energy := by
  have wholesome : waverer.board.Wholesome := by decide
  have energyLe : (0 : Int) ≤ 2 := by decide
  have richer := richer_run [.turnLeft, .turnRight, .move] waverer wholesome energyLe
  exact ⟨wholesome, energyLe, by decide, by decide, richer.2.2.1⟩

end Scene

end Foragers

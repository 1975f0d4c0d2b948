import Foragers.Proofs.Behaviour
import Foragers.Proofs.Round

/-! # The energy of a round

Energy enters the world as food grows and leaves it with what rounds and
instructions cost. Between these it only changes hands: a meal moves it from the
board to an agent, a birth from a parent to a child, so a round as a whole takes
from the population what it cost and gives it what was eaten from the board.
-/

namespace Foragers

namespace Scene

/-- The energy of the body and of all food that it could eat. -/
def wealth (scene : Scene) : Int :=
  scene.body.energy + scene.board.stock

theorem visit_wealth (scene : Scene) (target : Position) :
    (scene.visit target).wealth = scene.wealth := by
  have gain := scene.board.consume_gain target
  simp only [wealth, visit]
  omega

theorem execute_wealth (instruction : Instruction) (scene : Scene) :
    (execute instruction scene).wealth = scene.wealth := by
  rcases execute_cases instruction scene with ⟨target, visits⟩ | ⟨change, turns⟩
  · rw [visits, visit_wealth]
  · rw [turns]
    rfl

/-- A run costs one unit for each instruction that it executes. -/
theorem run_wealth (program : Program) (scene : Scene) :
    (run program scene).1.wealth + (run program scene).2 = scene.wealth := by
  induction program generalizing scene with
  | nil => exact Int.add_zero _
  | cons instruction rest induction =>
      simp only [run]
      split
      · have others := induction ((execute instruction scene).pay 1)
        have first := execute_wealth instruction scene
        have paid : ((execute instruction scene).pay 1).wealth =
            (execute instruction scene).wealth - 1 := by
          simp only [wealth, pay]
          omega
        simp only [Int.natCast_succ]
        omega
      · exact Int.add_zero _

theorem run_grazed {board : Board} (program : Program) {scene : Scene}
    (grazed : board.Grazed scene.board) : board.Grazed (run program scene).1.board := by
  apply run_preserves (fun scene => board.Grazed scene.board) _ _ _ program grazed
  · intro scene position grazed
    exact grazed.consume _
  · intro scene change grazed
    exact grazed
  · intro scene cost grazed
    exact grazed

end Scene

variable {σ : Type} [RandomSource σ]

namespace Agent

def totalEnergy (agents : List Agent) : Int :=
  (agents.map fun agent => agent.energy).sum

theorem totalEnergy_cons (head : Agent) (tail : List Agent) :
    totalEnergy (head :: tail) = head.energy + totalEnergy tail := by
  simp [totalEnergy]

theorem totalEnergy_append (earlier later : List Agent) :
    totalEnergy (earlier ++ later) = totalEnergy earlier + totalEnergy later := by
  simp [totalEnergy]

theorem totalEnergy_perm {left right : List Agent} (perm : left.Perm right) :
    totalEnergy left = totalEnergy right :=
  (perm.map _).sum_eq

theorem liveRound_energy (traits : Traits) (agent : Agent) (board : Board) (random : σ) :
    (agent.liveRound traits board random).agent.energy +
        (agent.liveRound traits board random).board.stock +
        (agent.liveRound traits board random).executed =
      agent.energy - traits.roundCost + board.stock :=
  Scene.run_wealth agent.program
    ⟨{ agent.toBody with energy := agent.energy - traits.roundCost }, board⟩

end Agent

namespace Surroundings

theorem turn_energy (traits : Traits) (agent : Agent) (surroundings : Surroundings σ) :
    (turn traits agent surroundings).agent.energy +
        Agent.totalEnergy (Agent.newborns (turn traits agent surroundings).child) +
        (turn traits agent surroundings).surroundings.board.stock +
        Occasion.executed traits ⟨agent, surroundings⟩ =
      agent.energy - traits.roundCost + surroundings.board.stock := by
  have bred := turn_bred traits agent surroundings
  have lived := agent.liveRound_energy traits surroundings.board surroundings.random
  rw [bred.board_eq, Agent.totalEnergy, bred.energy_eq]
  exact lived

theorem turn_grazed {board : Board} (traits : Traits) (agent : Agent)
    (surroundings : Surroundings σ) (grazed : board.Grazed surroundings.board) :
    board.Grazed (turn traits agent surroundings).surroundings.board := by
  rw [(turn_bred traits agent surroundings).board_eq]
  exact Scene.run_grazed agent.program grazed

/-- Also when a fault stops the round, those who acted paid for it and nobody else. -/
theorem Acts.energy_eq {traits : Traits} {agents : List Agent}
    {surroundings : Surroundings σ} {occasions : List (Occasion σ)} {played : Turns σ}
    (acts : Acts traits agents surroundings occasions played) :
    Agent.totalEnergy played.agents +
        Agent.totalEnergy (occasions.flatMap (Occasion.newborns traits)) +
        played.surroundings.board.stock +
        ((occasions.map (Occasion.executed traits)).sum : Nat) +
        traits.roundCost * occasions.length =
      Agent.totalEnergy agents + surroundings.board.stock := by
  induction acts with
  | done surroundings => simp [Agent.totalEnergy]
  | @stopped agent waiting surroundings fault failing =>
      -- Those who wait count on both sides; only the failing agent has paid.
      have first := turn_energy traits agent surroundings
      simp only [List.flatMap_singleton, List.map_singleton, List.sum_singleton,
        List.length_singleton, Occasion.newborns, Occasion.turn, Agent.totalEnergy_cons]
      omega
  | @next agent rest surroundings child later played taken others induction =>
      have first := turn_energy traits agent surroundings
      simp only [List.flatMap_cons, List.map_cons, List.sum_cons, List.length_cons,
        Occasion.newborns, Occasion.turn, Agent.totalEnergy_cons,
        Agent.totalEnergy_append, Int.natCast_add, Int.mul_add] at induction ⊢
      omega

end Surroundings

namespace World

theorem acted_grazed (round : Int) (world : World σ) :
    world.board.advance.Grazed (world.acted round).board :=
  (world.acts round).preserves
    (fun surroundings => world.board.advance.Grazed surroundings.board)
    (fun _ _ => Surroundings.turn_grazed _ _ _) (.refl _)

theorem energy_of_done {round : Int} {world : World σ}
    (done : (world.played round).fault = none) (noneWaiting : world.unborn = []) :
    Agent.totalEnergy (world.acted round).everyone =
      Agent.totalEnergy world.agents -
        world.settings.roundCost * world.agents.length - world.executed round +
        Board.loss world.board.advance (world.acted round).board := by
  have acts := world.acts round
  have order := world.beginRound_perm round
  have energy := acts.energy_eq
  have everybody := congrArg List.length (acts.agents_eq_of_done done)
  have stock : world.board.advance.stock =
      (world.played round).surroundings.board.stock +
        Board.loss world.board.advance (world.acted round).board :=
    (world.acted_grazed round).stock_eq
  rw [List.length_map, order.length_eq] at everybody
  rw [Agent.totalEnergy_perm order, everybody] at energy
  rw [acted_everyone, noneWaiting, List.nil_append, Agent.totalEnergy_append]
  change Agent.totalEnergy _ + Agent.totalEnergy (world.births round) +
    (world.played round).surroundings.board.stock + (world.executed round : Int) +
      world.settings.roundCost * _ = _ + world.board.advance.stock at energy
  omega

/-- What the survivors and the dead of a round have is what the population had,
without what the round and the executed instructions cost, and with the food that
was eaten. Every agent acts once, no child is lost, and no cell feeds twice. -/
theorem step_energy {round : Int} {world : World σ} {metrics : Option RoundMetrics}
    (noneWaiting : world.unborn = []) (returned : (world.step round).2 = .ok metrics) :
    Agent.totalEnergy (world.step round).1.agents +
        Agent.totalEnergy (world.culled round) =
      Agent.totalEnergy world.agents -
        world.settings.roundCost * world.agents.length - world.executed round +
        Board.loss world.board.advance (world.step round).1.board ∧
    ((world.step round).1.agents ++ world.culled round).Perm
      ((world.played round).agents ++ world.births round) ∧
    (∀ agent ∈ world.culled round, agent.energy < 0) ∧
    ((world.occasions round).map Occasion.agent).Perm world.agents ∧
    world.board.advance.Grazed (world.step round).1.board ∧
    ∀ position, (world.step round).1.board.hasFood position = true →
      world.board.advance.hasFood position = true := by
  rcases step_returned returned with ⟨running, done, stepEq⟩
  have boardEq : (world.step round).1.board = (world.acted round).board := by
    rw [stepEq, conclude_surroundings]
  have partition := survivors_culled_perm done
  rw [← stepEq] at partition
  have grazed := world.acted_grazed round
  rw [boardEq]
  refine ⟨?_, ?_, fun _ => energy_of_mem_culled, ?_, grazed, fun _ => grazed.hasFood⟩
  · rw [← Agent.totalEnergy_append, Agent.totalEnergy_perm partition]
    exact energy_of_done done noneWaiting
  · rw [acted_everyone, noneWaiting, List.nil_append] at partition
    exact partition
  · rw [(world.acts round).agents_eq_of_done done]
    exact world.beginRound_perm round

theorem settlers_step_energy :
    settlers.unborn = [] ∧ ∃ metrics, (settlers.step 1).2 = .ok metrics ∧
      Agent.totalEnergy (settlers.step 1).1.agents +
          Agent.totalEnergy (settlers.culled 1) =
        40 - 1 * 2 - settlers.executed 1 +
          Board.loss settlers.board.advance (settlers.step 1).1.board := by
  have noneWaiting : settlers.unborn = [] := rfl
  have returns : ∃ metrics, (settlers.step 1).2 = .ok metrics :=
    exists_of_isOk (by decide +kernel)
  rcases returns with ⟨metrics, returned⟩
  have energy := (step_energy noneWaiting returned).1
  have before : Agent.totalEnergy settlers.agents = 40 := by decide +kernel
  rw [before] at energy
  exact ⟨noneWaiting, metrics, returned, energy⟩

end World

end Foragers

import Foragers.Proofs.Chronicle
import Foragers.Proofs.Playback

/-! # What can be reached

From a world others are reached by calls for rounds and by playing to the end, in
any order and whether these fail or not. A round in its turn goes through moments
at which somebody could look: between two turns, in the middle of one, and when
the children have joined.
-/

namespace Foragers

variable {σ : Type} [RandomSource σ]

/-- The agent's body on the board when it was charged for the round and executed
some instructions. -/
def Agent.executing (traits : Traits) (steps : Nat) (agent : Agent) (board : Board) :
    Scene :=
  (Scene.run (agent.program.take steps)
    ⟨{ agent.toBody with energy := agent.energy - traits.roundCost }, board⟩).1

/-- After the last instruction the body is as the round leaves it. -/
theorem Agent.executing_length (traits : Traits) (agent : Agent) (board : Board)
    (random : σ) :
    agent.executing traits agent.program.length board =
      ⟨(agent.liveRound traits board random).agent.toBody,
        (agent.liveRound traits board random).board⟩ := by
  rw [executing, List.take_length]
  rfl

namespace World

/-- The world in the middle of the turn of an agent that acts when others have. -/
def executing (round : Int) (front : List Agent) (agent : Agent) (waiting : List Agent)
    (steps : Nat) (world : World σ) : World σ :=
  let earlier := Surroundings.turns world.settings.traits front
    (world.beginRound round).toSurroundings
  let scene := agent.executing world.settings.traits steps earlier.surroundings.board
  { world.beginRound round with
    toSurroundings := { earlier.surroundings with board := scene.board }
    agents := earlier.agents ++
      { agent with toBody := scene.body, age := agent.age + 1 } :: waiting }

/-- The worlds that calls lead to, whatever the calls come to. While it is played, a
world goes through those that calls for its rounds lead to. -/
inductive Reachable (first : World σ) : World σ → Prop
  | start : Reachable first first
  | step {world} (reached : Reachable first world) (round : Int) :
      Reachable first (world.step round).1
  | play {world} (reached : Reachable first world) : Reachable first world.play.world

/-- What is seen between calls and in the middle of one. -/
inductive Moment (first : World σ) : World σ → Prop
  | between {world} (reached : Reachable first world) : Moment first world
  | acting {world} (reached : Reachable first world) (running : world.status = .running)
      (round : Int) (count : Nat) : Moment first (world.actedBy count round)
  | executing {world} (reached : Reachable first world) (running : world.status = .running)
      (round : Int) {front agent waiting}
      (order : (world.beginRound round).agents = front ++ agent :: waiting)
      (done : (Surroundings.turns world.settings.traits front
        (world.beginRound round).toSurroundings).fault = none) (steps : Nat) :
      Moment first (world.executing round front agent waiting steps)
  | joining {world} (reached : Reachable first world) (running : world.status = .running)
      (round : Int) (done : (world.played round).fault = none) :
      Moment first (world.acted round).joined

/-- What calls for rounds keep, and the end of a run too, is kept by all calls. -/
theorem Reachable.preserves {first world : World σ} (reached : Reachable first world)
    (invariant : World σ → Prop)
    (stepped : ∀ world round, invariant world → invariant (world.step round).1)
    (completed : ∀ world, invariant world → invariant world.completed)
    (initially : invariant first) : invariant world := by
  induction reached with
  | start => exact initially
  | step reached round induction => exact stepped _ round induction
  | @play world reached induction =>
      by_cases running : world.status = .running
      · exact (play_plays running).preserves invariant stepped completed induction
      · rw [World.play, if_neg running]
        exact induction

end World

end Foragers

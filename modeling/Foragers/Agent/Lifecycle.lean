import Foragers.Agent.Behaviour
import Foragers.Agent.Mutation
import Foragers.Binary64.Arithmetic

namespace Foragers.Agent

/-! How agents come to be, live through a round and reproduce. -/

variable {σ : Type} [RandomSource σ]

def drawWilling (traits : Traits) (random : σ) : Bool × σ :=
  RandomSource.chance traits.reproductionProbability random

/-- An agent of the initial population. Its position is drawn first, then its
heading, then its will. -/
def spawn (settings : Settings) (id : Int) (board : Board) (random : σ) : Agent × σ :=
  let (position, random) := board.randomPosition random
  let (heading, random) := Heading.random random
  let (willing, random) := drawWilling settings.traits random
  ({ id, position, heading, willing
     energy := settings.initialEnergy
     program := settings.initialProgram }, random)

structure Acted (σ : Type) where
  agent : Agent
  board : Board
  random : σ
  /-- The number of instructions executed. -/
  executed : Nat

/-- Ages the agent, charges it for the round, runs its program and draws
whether it means to reproduce, which it does not without enough energy. -/
def liveRound (traits : Traits) (agent : Agent) (board : Board) (random : σ) : Acted σ :=
  let body := { agent.toBody with energy := agent.energy - traits.roundCost }
  let (scene, executed) := Scene.run agent.program ⟨body, board⟩
  let (drawn, random) := drawWilling traits random
  { agent :=
      { agent with
        toBody := scene.body
        age := agent.age + 1
        willing := drawn && traits.reproductionThreshold ≤ scene.body.energy }
    board := scene.board
    random
    executed }

/-- The largest integer that is not above a number. -/
def roundDown : Binary64 → Except Fault Int
  | .nan _ => .error .notANumber
  | .infinite _ => .error .tooLarge
  | .finite negative units _ =>
      .ok (Binary64.signed negative units / (Binary64.unitsPerOne : Int))

/-- The part that a fraction stands for of an amount, if there is a finite one,
rounded down. -/
def shareOf : Option Binary64 → Binary64 → Except Fault Int
  | none, _ => .error .tooLarge
  | some amount, fraction => roundDown (amount.mul fraction)

/-- The share of an amount of energy, taken as the nearest binary64 number. -/
def energyShare (energy : Int) (fraction : Binary64) : Except Fault Int :=
  shareOf (Binary64.ofInt? energy) fraction

/-- A child starts where its parent is and heads the other way. -/
def offspring (parent : Agent) (id : Int) (program : Program) (energy : Int)
    (willing : Bool) : Agent where
  id := id
  energy := energy
  position := parent.position
  heading := parent.heading.opposite
  program := program
  generation := parent.generation + 1
  willing := willing

def newborns : Except Fault (Option Agent) → List Agent
  | .ok (some child) => [child]
  | _ => []

structure Reproduction (σ : Type) where
  parent : Agent
  random : σ
  child : Except Fault (Option Agent)

/-- Reproduces if the agent can. The child gets a mutated program and a share of
the parent's energy. An attempt that fails leaves the parent as it was. -/
def reproduce (traits : Traits) (parent : Agent) (childId : Int) (random : σ) :
    Reproduction σ :=
  if parent.canReproduce traits then
    match Program.mutate traits parent.program random with
    | .error fault random => { parent, random, child := .error fault }
    | .ok program random =>
        match energyShare parent.energy traits.energyFraction with
        | .error fault => { parent, random, child := .error fault }
        | .ok share =>
            let (willing, random) := drawWilling traits random
            { parent := { parent with energy := parent.energy - share }
              random
              child := .ok (some (parent.offspring childId program share willing)) }
  else { parent, random, child := .ok none }

end Foragers.Agent

import Foragers.Agent.Lifecycle
import Foragers.World.Statistics

namespace Foragers

/-! The world: a population of agents on a board, played round by round. A round
that fails leaves the world as the failure found it. -/

/-- The part of the world that agents change while they act. -/
structure Surroundings (σ : Type) where
  board : Board
  random : σ
  /-- Children that wait for the end of the round, in the order of their birth. -/
  unborn : List Agent
  nextId : Int

structure World (σ : Type) extends Surroundings σ where
  settings : Settings
  agents : List Agent
  status : Status
  /-- The number of the last round that was begun. -/
  round : Int
  /-- What the last round measured. -/
  metrics : Option RoundMetrics
  /-- What all rounds measured. -/
  history : Array RoundMetrics

structure Turn (σ : Type) where
  agent : Agent
  surroundings : Surroundings σ
  child : Except Fault (Option Agent)

structure Turns (σ : Type) where
  agents : List Agent
  surroundings : Surroundings σ
  fault : Option Fault

namespace Surroundings

variable {σ : Type} [RandomSource σ]

def after (acted : Agent.Acted σ) (surroundings : Surroundings σ) : Surroundings σ :=
  { surroundings with board := acted.board, random := acted.random }

/-- Lets an agent reproduce if it can. The child of an agent that can reproduce
uses up a number, whether it comes to be or not. -/
def breed (traits : Traits) (agent : Agent) (surroundings : Surroundings σ) : Turn σ :=
  if agent.canReproduce traits then
    let result := agent.reproduce traits surroundings.nextId surroundings.random
    ⟨result.parent,
      { surroundings with
        random := result.random
        nextId := surroundings.nextId + 1
        unborn := surroundings.unborn ++ Agent.newborns result.child },
      result.child⟩
  else ⟨agent, surroundings, .ok none⟩

def turn (traits : Traits) (agent : Agent) (surroundings : Surroundings σ) : Turn σ :=
  let acted := agent.liveRound traits surroundings.board surroundings.random
  breed traits acted.agent (surroundings.after acted)

/-- Lets agents act one after the other, up to the first fault. -/
def turns (traits : Traits) : List Agent → Surroundings σ → Turns σ
  | [], surroundings => ⟨[], surroundings, none⟩
  | agent :: rest, surroundings =>
      let first := turn traits agent surroundings
      match first.child with
      | .error fault => ⟨first.agent :: rest, first.surroundings, some fault⟩
      | .ok _ =>
          let others := turns traits rest first.surroundings
          { others with agents := first.agent :: others.agents }

end Surroundings

namespace World

variable {σ : Type} [RandomSource σ]

/-- A given number of first agents, numbered from zero on. -/
def populate (settings : Settings) (board : Board) : Nat → Int → σ → List Agent × σ
  | 0, _, random => ([], random)
  | count + 1, id, random =>
      let (agent, random) := Agent.spawn settings id board random
      let (agents, random) := populate settings board count (id + 1) random
      (agent :: agents, random)

def create (settings : Settings) (board : Board) (random : σ) : World σ :=
  let count := settings.initialPopulation.toNat
  let (agents, random) := populate settings board count 0 random
  { board, random, settings, agents
    unborn := []
    nextId := count
    status := .running
    round := 0
    metrics := none
    history := #[] }

/-- Begins a round: food grows and the agents are put into a random order. -/
def beginRound (round : Int) (world : World σ) : World σ :=
  let (agents, random) := RandomSource.shuffle world.agents world.random
  { world with board := world.board.advance, random, agents, round }

/-- Lets the agents act in their order, up to the first fault. -/
def act (world : World σ) : World σ × Option Fault :=
  let played := Surroundings.turns world.settings.traits world.agents world.toSurroundings
  ({ world with toSurroundings := played.surroundings, agents := played.agents },
    played.fault)

/-- The agents with the newborn children, who wait behind them. -/
def everyone (world : World σ) : List Agent :=
  world.agents ++ world.unborn

def settle (world : World σ) : World σ :=
  { world with agents := world.everyone.filter Agent.alive, unborn := [] }

def measure (round : Int) (world : World σ) : Except Fault RoundMetrics :=
  RoundMetrics.measure round world.board world.settle.agents world.unborn.length
    (world.everyone.length - world.settle.agents.length)

/-- Ends a round in which all agents acted: births, deaths and measurements.
There is nothing to measure when nobody is left. -/
def conclude (round : Int) (world : World σ) :
    World σ × Except Fault (Option RoundMetrics) :=
  let settled := world.settle
  if settled.agents.isEmpty then
    ({ settled with status := .extinct round, metrics := none }, .ok none)
  else
    match world.measure round with
    | .error fault => (settled, .error fault)
    | .ok metrics =>
        ({ settled with metrics := some metrics, history := settled.history.push metrics },
          .ok (some metrics))

/-- Plays one round and gives its measurements, or nothing when the population
died out. -/
def step (round : Int) (world : World σ) : World σ × Except Fault (Option RoundMetrics) :=
  if world.status = .running then
    match (world.beginRound round).act with
    | (world, some fault) => (world, .error fault)
    | (world, none) => world.conclude round
  else (world, .error (.finished world.status))

end World

end Foragers

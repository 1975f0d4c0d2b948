import Foragers.World.Basic

namespace Foragers

/-! Playing a world to its end, and the events that are told on the way. -/

structure AgentRecord where
  id : Int
  generation : Int
  age : Int
  energy : Int
  position : Position
  heading : Heading
  program : Program
  deriving DecidableEq, Repr

def Agent.record (agent : Agent) : AgentRecord where
  id := agent.id
  generation := agent.generation
  age := agent.age
  energy := agent.energy
  position := agent.position
  heading := agent.heading
  program := agent.program

structure Snapshot where
  round : Int
  metrics : Option RoundMetrics
  agents : List AgentRecord
  deriving DecidableEq, Repr

inductive Event where
  | round (metrics : RoundMetrics)
  | snapshot (snapshot : Snapshot)
  | extinction (round : Int)
  deriving DecidableEq, Repr

structure Ending where
  status : Status
  roundsCompleted : Int
  metrics : Option RoundMetrics
  deriving DecidableEq, Repr

/-- A world after it was played, with the events told and how it ended. -/
structure Playback (σ : Type) where
  world : World σ
  events : Array Event
  ending : Except Fault Ending

namespace World

variable {σ : Type} [RandomSource σ]

def snapshot (world : World σ) (round : Int) : Snapshot where
  round := round
  metrics := world.metrics
  agents := world.agents.map Agent.record

def ending (world : World σ) : Ending where
  status := world.status
  roundsCompleted := world.round
  metrics := world.metrics

def snapshotDue (world : World σ) (round : Int) : Except Fault Bool :=
  let interval := world.settings.printInterval
  if interval = 0 then .error .zeroInterval else .ok (round % interval = 0)

/-- Ends a run in which all rounds were played. The run always ends with a
snapshot, so one is told now unless the last round told it. -/
def complete (world : World σ) (events : Array Event) : Playback σ :=
  let rounds := world.settings.rounds
  match world.snapshotDue rounds with
  | .error fault => { world, events, ending := .error fault }
  | .ok due =>
      let events := if due then events else events.push (.snapshot (world.snapshot rounds))
      let world := { world with status := .completed }
      { world, events, ending := .ok world.ending }

/-- Plays a number of rounds that follow each other, after events already told. -/
def playRounds : Nat → Int → World σ → Array Event → Playback σ
  | 0, _, world, events => world.complete events
  | count + 1, round, world, events =>
      match world.step round with
      | (world, .error fault) => { world, events, ending := .error fault }
      | (world, .ok none) =>
          { world, events := events.push (.extinction round), ending := .ok world.ending }
      | (world, .ok (some metrics)) =>
          let events := events.push (.round metrics)
          match world.snapshotDue round with
          | .error fault => { world, events, ending := .error fault }
          | .ok due =>
              let events :=
                if due then events.push (.snapshot (world.snapshot round)) else events
              playRounds count (round + 1) world events

/-- Plays all rounds that the settings ask for and that were not played yet. -/
def play (world : World σ) : Playback σ :=
  if world.status = .running then
    playRounds (world.settings.rounds - world.round).toNat (world.round + 1) world #[]
  else { world, events := #[], ending := .error (.finished world.status) }

end World

end Foragers

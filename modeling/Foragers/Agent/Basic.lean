import Foragers.Compass
import Foragers.Settings.Basic

namespace Foragers

/-! Agents. The part of an agent that its own instructions can change is its
body; the rest changes only from round to round. -/

structure Body where
  energy : Int
  position : Position
  heading : Heading
  deriving DecidableEq, Repr, Inhabited

structure Agent extends Body where
  id : Int
  program : Program
  age : Int := 0
  /-- The number of ancestors. -/
  generation : Int := 0
  /-- Whether the agent means to reproduce. -/
  willing : Bool := false
  deriving DecidableEq, Repr, Inhabited

namespace Agent

/-- No energy left is still alive; the next unit missing is death. -/
def alive (agent : Agent) : Bool :=
  0 ≤ agent.energy

def canReproduce (agent : Agent) (traits : Traits) : Bool :=
  agent.willing && traits.reproductionThreshold ≤ agent.energy

end Agent

end Foragers

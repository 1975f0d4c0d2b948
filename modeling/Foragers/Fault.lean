namespace Foragers

/-! The ways in which playing a simulation can fail. -/

/-- The condition of a simulation. Its round of extinction is part of it, so a simulation
is extinct exactly when it has one. -/
inductive Status where
  | running
  | completed
  /-- The last agent was removed in the given round. -/
  | extinct (round : Int)
  deriving DecidableEq, Repr

namespace Status

def label : Status → String
  | running => "Running"
  | completed => "Completed"
  | extinct _ => "Extinct"

def extinctRound? : Status → Option Int
  | extinct round => some round
  | _ => none

end Status

inductive Fault where
  /-- One of no things was to be chosen. -/
  | emptyChoice
  /-- A number is beyond the range of binary64, or infinite where an integer is needed. -/
  | tooLarge
  /-- An integer was asked of NaN. -/
  | notANumber
  /-- Snapshots were to be taken every zero rounds. -/
  | zeroInterval
  /-- A round was asked of a simulation that is over. -/
  | finished (status : Status)
  deriving DecidableEq, Repr

namespace Fault

def message : Fault → String
  | emptyChoice => "Nothing to choose from."
  | tooLarge => "Number too large."
  | notANumber => "Not a number."
  | zeroInterval => "Print interval is zero."
  | finished status => s!"Simulation already finished: {status.label}"

end Fault

end Foragers

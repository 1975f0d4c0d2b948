import Foragers.Binary64.Decimal
import Foragers.Instruction

namespace Foragers

/-! What a simulation is told before it starts, and the part of it that every
agent acts by. -/

/-- What all agents of a simulation have in common. -/
structure Traits where
  roundCost : Int
  /-- The fraction of its energy that a parent gives to a child. -/
  energyFraction : Binary64
  reproductionThreshold : Int
  reproductionProbability : Binary64
  removalProbability : Binary64
  additionProbability : Binary64
  changeProbability : Binary64
  /-- The instructions from which mutations choose. -/
  instructionPool : Program
  deriving DecidableEq, Repr

structure Settings where
  rounds : Int := 100
  initialPopulation : Int := 10
  initialEnergy : Int := 20
  foodEnergy : Int := 5
  foodRipeningTime : Int := 8
  roundCost : Int := 1
  reproductionThreshold : Int := 10
  /-- The number of rounds from one snapshot to the next. -/
  printInterval : Int := 10
  reproductionProbability : Binary64 := .ofDecimal false 2 (-1)
  energyFraction : Binary64 := .ofDecimal false 5 (-1)
  removalProbability : Binary64 := .ofDecimal false 1 (-2)
  additionProbability : Binary64 := .ofDecimal false 1 (-2)
  changeProbability : Binary64 := .ofDecimal false 1 (-2)
  initialProgram : Program := [.sniff, .move, .eat]
  instructionPool : Program := Instruction.all
  seed : Option Int := none
  deriving DecidableEq, Repr

namespace Settings

def traits (settings : Settings) : Traits where
  roundCost := settings.roundCost
  energyFraction := settings.energyFraction
  reproductionThreshold := settings.reproductionThreshold
  reproductionProbability := settings.reproductionProbability
  removalProbability := settings.removalProbability
  additionProbability := settings.additionProbability
  changeProbability := settings.changeProbability
  instructionPool := settings.instructionPool

end Settings

end Foragers

import Foragers.Settings.Basic

namespace Foragers

/-! The parameters that settings are made of, by the kind of their values, and
single settings as assignments of a value to a parameter. -/

inductive CountParameter where
  | rounds
  | initialPopulation
  | initialEnergy
  | foodEnergy
  | foodRipeningTime
  | roundCost
  | reproductionThreshold
  | printInterval
  deriving DecidableEq, Repr

inductive FractionParameter where
  | reproductionProbability
  | energyFraction
  | removalProbability
  | additionProbability
  | changeProbability
  deriving DecidableEq, Repr

inductive ProgramParameter where
  | initialProgram
  | instructionPool
  deriving DecidableEq, Repr

inductive Parameter where
  | count (parameter : CountParameter)
  | fraction (parameter : FractionParameter)
  | program (parameter : ProgramParameter)
  deriving DecidableEq, Repr

def CountParameter.least : CountParameter → Int
  | printInterval => 1
  | _ => 0

namespace Parameter

/-- All parameters, in the order in which missing ones are noticed. -/
def all : List Parameter := [
  .count .rounds,
  .count .initialPopulation,
  .count .initialEnergy,
  .count .foodEnergy,
  .count .foodRipeningTime,
  .count .roundCost,
  .count .reproductionThreshold,
  .count .printInterval,
  .fraction .reproductionProbability,
  .fraction .energyFraction,
  .fraction .removalProbability,
  .fraction .additionProbability,
  .fraction .changeProbability,
  .program .initialProgram,
  .program .instructionPool]

def name : Parameter → String
  | count .rounds => "rounds"
  | count .initialPopulation => "initial_population"
  | count .initialEnergy => "initial_energy"
  | count .foodEnergy => "food_energy"
  | count .foodRipeningTime => "food_ripening_time"
  | count .roundCost => "round_cost"
  | count .reproductionThreshold => "reproduction_threshold"
  | count .printInterval => "print_interval"
  | fraction .reproductionProbability => "reproduction_probability"
  | fraction .energyFraction => "parent_energy_fraction"
  | fraction .removalProbability => "instruction_removal_probability"
  | fraction .additionProbability => "instruction_addition_probability"
  | fraction .changeProbability => "instruction_change_probability"
  | program .initialProgram => "initial_program"
  | program .instructionPool => "instruction_pool"

end Parameter

inductive Setting where
  | count (parameter : CountParameter) (value : Int)
  | fraction (parameter : FractionParameter) (value : Binary64)
  | program (parameter : ProgramParameter) (value : Program)
  deriving DecidableEq, Repr

namespace Setting

def parameter : Setting → Parameter
  | count parameter _ => .count parameter
  | fraction parameter _ => .fraction parameter
  | program parameter _ => .program parameter

def program? (wanted : ProgramParameter) : Setting → Option Program
  | program parameter value => if parameter = wanted then some value else none
  | _ => none

end Setting

namespace Settings

def assign (settings : Settings) : Setting → Settings
  | .count .rounds value => { settings with rounds := value }
  | .count .initialPopulation value => { settings with initialPopulation := value }
  | .count .initialEnergy value => { settings with initialEnergy := value }
  | .count .foodEnergy value => { settings with foodEnergy := value }
  | .count .foodRipeningTime value => { settings with foodRipeningTime := value }
  | .count .roundCost value => { settings with roundCost := value }
  | .count .reproductionThreshold value => { settings with reproductionThreshold := value }
  | .count .printInterval value => { settings with printInterval := value }
  | .fraction .reproductionProbability value =>
      { settings with reproductionProbability := value }
  | .fraction .energyFraction value => { settings with energyFraction := value }
  | .fraction .removalProbability value => { settings with removalProbability := value }
  | .fraction .additionProbability value => { settings with additionProbability := value }
  | .fraction .changeProbability value => { settings with changeProbability := value }
  | .program .initialProgram value => { settings with initialProgram := value }
  | .program .instructionPool value => { settings with instructionPool := value }

def setting (settings : Settings) : Parameter → Setting
  | .count parameter => .count parameter <|
      match parameter with
      | .rounds => settings.rounds
      | .initialPopulation => settings.initialPopulation
      | .initialEnergy => settings.initialEnergy
      | .foodEnergy => settings.foodEnergy
      | .foodRipeningTime => settings.foodRipeningTime
      | .roundCost => settings.roundCost
      | .reproductionThreshold => settings.reproductionThreshold
      | .printInterval => settings.printInterval
  | .fraction parameter => .fraction parameter <|
      match parameter with
      | .reproductionProbability => settings.reproductionProbability
      | .energyFraction => settings.energyFraction
      | .removalProbability => settings.removalProbability
      | .additionProbability => settings.additionProbability
      | .changeProbability => settings.changeProbability
  | .program parameter => .program parameter <|
      match parameter with
      | .initialProgram => settings.initialProgram
      | .instructionPool => settings.instructionPool

@[simp] theorem setting_assign_same (settings : Settings) (setting : Setting) :
    (settings.assign setting).setting setting.parameter = setting := by
  cases setting with
  | count parameter value => cases parameter <;> rfl
  | fraction parameter value => cases parameter <;> rfl
  | program parameter value => cases parameter <;> rfl

end Settings

end Foragers

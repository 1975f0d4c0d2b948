import Foragers.Settings.Parameter

namespace Foragers

/-! What can be wrong with given settings. -/

inductive Problem where
  | repeated
  | unknownParameter
  /-- The same without a line to point to. -/
  | unknownName (name : String)
  | missingValue
  | extraValues
  | wrongType
  | outOfRange
  /-- A program parameter was given something that is not text. -/
  | notInstructions (parameter : ProgramParameter)
  | unknownInstruction (symbol : Char)
  | emptyProgram (parameter : ProgramParameter)
  /-- The initial program has an instruction that the pool has not. -/
  | outsidePool
  | notMapping
  /-- The document is not well formed. -/
  | malformed
  deriving DecidableEq, Repr

namespace Problem

def message : Problem → String
  | repeated => "Repeated parameter."
  | unknownParameter => "Unknown parameter name."
  | unknownName name => s!"Unknown parameter name: {name}."
  | missingValue => "Missing parameter value."
  | extraValues => "Wrong number of values in line."
  | wrongType => "Wrong type."
  | outOfRange => "Value out of range."
  | notInstructions parameter =>
      s!"Parameter {(Parameter.program parameter).name} must be an instruction string."
  | unknownInstruction symbol => s!"Unknown instruction: {symbol}"
  | emptyProgram .initialProgram => "Initial program is empty."
  | emptyProgram .instructionPool => "Instruction pool is empty."
  | outsidePool => "Program contains instructions outside the instruction pool."
  | notMapping => "Configuration must be a mapping of parameter names to values."
  | malformed => "Invalid YAML"

end Problem

inductive SettingsError where
  | incorrect (problem : Problem) (line : Option Int)
  | missing (parameter : Parameter)
  /-- A number is beyond the range of binary64, or infinite where an integer is needed. -/
  | tooLarge
  /-- Programs are checked against each other, but not both are among the parameters. -/
  | noPrograms
  deriving DecidableEq, Repr

namespace SettingsError

def message : SettingsError → String
  | incorrect problem none => problem.message
  | incorrect problem (some line) => s!"Line {line}. {problem.message}"
  | missing parameter => s!"Not all parameters were read, missing: {parameter.name}."
  | tooLarge => "Number too large."
  | noPrograms => "Initial program or instruction pool is not a parameter."

end SettingsError

end Foragers

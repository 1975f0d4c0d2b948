import Foragers.Binary64.Arithmetic
import Foragers.Settings.Error
import Foragers.Settings.Value

namespace Foragers

/-! Settings from raw values. Values are converted to the kinds of their
parameters and checked one by one; then the settings as a whole are checked. -/

def Value.asInteger? : Value → Option Int
  | .integer number => some number
  | .text content => Text.integer? content.toList
  | _ => none

def CountParameter.read (parameter : CountParameter) (value : Value) : Except Problem Int :=
  match value.asInteger? with
  | none => .error .wrongType
  | some number => if parameter.least ≤ number then .ok number else .error .outOfRange

def ProgramParameter.read (parameter : ProgramParameter) (value : Value) :
    Except Problem Program :=
  match value with
  | .text text =>
      match Program.ofText text with
      | .error symbol => .error (.unknownInstruction symbol)
      | .ok [] => .error (.emptyProgram parameter)
      | .ok program => .ok program
  | _ => .error (.notInstructions parameter)

/-- The number that a conversion gives. To have no finite one is an error of its own. -/
def Value.finiteDecimal : Option Binary64 → Except SettingsError (Option Binary64)
  | some amount => .ok (some amount)
  | none => .error .tooLarge

/-- The number that a fraction parameter is given, or `none` for a value that is
no number. -/
def Value.asDecimal? : Value → Except SettingsError (Option Binary64)
  | .integer number => finiteDecimal (Binary64.ofInt? number)
  | .decimal number => .ok (some number)
  | .text content => .ok (Text.decimal? content.toList)
  | .bytes content => .ok (Text.decimal? (charactersOfBytes content))
  | _ => .ok none

def Binary64.isFraction (number : Binary64) : Bool :=
  Binary64.zero.le number && number.le Binary64.one

namespace Parameter

def read (parameter : Parameter) (value : Value) (line : Option Int) :
    Except SettingsError Setting :=
  match parameter with
  | .count parameter =>
      match parameter.read value with
      | .error problem => .error (.incorrect problem line)
      | .ok number => .ok (.count parameter number)
  | .fraction parameter =>
      match value.asDecimal? with
      | .error error => .error error
      | .ok none => .error (.incorrect .wrongType line)
      | .ok (some number) =>
          if number.isFraction then .ok (.fraction parameter number)
          else .error (.incorrect .outOfRange line)
  | .program parameter =>
      match parameter.read value with
      | .error problem => .error (.incorrect problem line)
      | .ok instructions => .ok (.program parameter instructions)

def ofName? (schema : List Parameter) (name : String) : Option Parameter :=
  schema.find? fun parameter => parameter.name == name

def readNamed (schema : List Parameter) (name : String) (value : Value)
    (line : Option Int) : Except SettingsError Setting :=
  match ofName? schema name with
  | none => .error (.incorrect (.unknownName name) line)
  | some parameter => parameter.read value line

end Parameter

namespace Settings

def givenProgram? (wanted : ProgramParameter) (given : List Setting) : Option Program :=
  given.findSome? (Setting.program? wanted)

/-- Puts settings together. All parameters of the schema must be given; those
that are no part of it keep their default values. -/
def build (schema : List Parameter) (given : List Setting) (seed line : Option Int) :
    Except SettingsError Settings :=
  let names := given.map Setting.parameter
  match schema.find? (fun parameter => !names.contains parameter) with
  | some parameter => .error (.missing parameter)
  | none =>
      match givenProgram? .instructionPool given, givenProgram? .initialProgram given with
      | some pool, some program =>
          if program.all pool.contains then .ok (given.foldl assign { seed })
          else .error (.incorrect .outsidePool line)
      | _, _ => .error .noPrograms

/-- The seed that a raw value stands for. A number that is no integer loses its
fraction. -/
def readSeed (value : Value) : Except SettingsError (Option Int) :=
  let refused := .error (.incorrect .wrongType none)
  let orRefused : Option Int → Except SettingsError (Option Int)
    | some number => .ok (some number)
    | none => refused
  match value with
  | .null => .ok none
  | .integer number => .ok (some number)
  | .decimal (.infinite _) => .error .tooLarge
  | .decimal number => orRefused number.truncate?
  | .text text => orRefused (Text.integer? text.toList)
  | .bytes bytes => orRefused (Text.integer? (Value.charactersOfBytes bytes))
  | _ => refused

def seedName : String := "seed"

def readEntries (schema : List Parameter) :
    List (String × Value) → Except SettingsError (List Setting)
  | [] => .ok []
  | (name, value) :: rest => do
      let setting ← Parameter.readNamed schema name value none
      let others ← readEntries schema rest
      return setting :: others

/-- Settings from a mapping with distinct names, of which one may be the seed. -/
def ofMapping (schema : List Parameter) (entries : List (String × Value)) :
    Except SettingsError Settings := do
  let seed ← readSeed ((entries.lookup seedName).getD .null)
  let given ← readEntries schema (entries.filter fun entry => entry.1 != seedName)
  build schema given seed none

/-- The setting on a line that follows lines with some settings, if any. -/
def readLine (schema : List Parameter) (earlier : List Setting) (number : Int)
    (line : String) : Except SettingsError (Option Setting) :=
  let incorrect (problem : Problem) := .error (.incorrect problem (some number))
  match Text.words line with
  | [] => .ok none
  | name :: values =>
      if earlier.any (fun setting => setting.parameter.name == name) then
        incorrect .repeated
      else
        match Parameter.ofName? schema name, values with
        | none, _ => incorrect .unknownParameter
        | some _, [] => incorrect .missingValue
        | some parameter, [value] =>
            match parameter.read (.text value) (some number) with
            | .error error => .error error
            | .ok setting => .ok (some setting)
        | some _, _ :: _ :: _ => incorrect .extraValues

/-- Reads lines that follow lines with some settings, which are kept in reverse. -/
def readLines (schema : List Parameter) (earlier : List Setting) (number : Int) :
    List String → Except SettingsError (List Setting)
  | [] => .ok earlier.reverse
  | line :: rest =>
      match readLine schema earlier number line with
      | .error error => .error error
      | .ok none => readLines schema earlier (number + 1) rest
      | .ok (some setting) => readLines schema (setting :: earlier) (number + 1) rest

/-- Settings from lines with a name and a value each. What is wrong with the
settings as a whole is found on the last line. -/
def ofLines (schema : List Parameter) (lines : List String) (seed : Option Int) :
    Except SettingsError Settings :=
  match readLines schema [] 1 lines with
  | .error error => .error error
  | .ok given => build schema given seed (some lines.length)

end Settings

end Foragers

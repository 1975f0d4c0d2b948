import Foragers.Report.Log
import Foragers.Session.Basic
import Foragers.Text.Digit
import Foragers.Text.Numeral

namespace Foragers

/-! The arguments of the command line: two paths, and options anywhere between
them. An option may be shortened as long as it is the only one with that
beginning, and after a double dash there are no more options. -/

inductive Flag where
  | help
  | seed
  | table
  | quiet
  | level
  deriving DecidableEq, Repr

namespace Flag

def all : List Flag := [.help, .seed, .table, .quiet, .level]

def name : Flag → String
  | help => "--help"
  | seed => "--seed"
  | table => "--log"
  | quiet => "--quiet"
  | level => "--log-level"

end Flag

inductive Argument where
  | operand (text : String)
  | separator
  /-- An option, with the value that is written in the same argument. -/
  | flag (flag : Flag) (value : Option String)
  /-- A cluster of short options; the text follows the first one, for help. -/
  | shortHelp (rest : List Char)
  | unknown
  deriving DecidableEq, Repr

inductive Refusal where
  | usage
  | help
  deriving DecidableEq, Repr

namespace Argument

/-- Whether a text after a dash is digits, or digits with a point among or in
front of them; such an argument is a negative number and no option. -/
def isNumber (text : List Char) : Bool :=
  let isDigit (character : Char) := (Text.decimalDigit? character).isSome
  let text := if text.getLast? = some '\n' then text.dropLast else text
  let afterWhole := text.dropWhile isDigit
  match afterWhole with
  | [] => !text.isEmpty
  | '.' :: fraction => !fraction.isEmpty && fraction.all isDigit
  | _ => false

def splitValue (text : String) : String × Option String :=
  let characters := text.toList
  let name := String.ofList (characters.takeWhile (· ≠ '='))
  match characters.dropWhile (· ≠ '=') with
  | [] => (name, none)
  | _ :: value => (name, some (String.ofList value))

/-- The role of an argument that is no exact option and starts with a dash. -/
def ofOther (text : String) : Argument :=
  let rest := text.toList.drop 1
  if isNumber rest then .operand text
  else if text.contains ' ' then .operand text
  else .unknown

def classify (text : String) : Except Refusal Argument :=
  match text.toList with
  | '-' :: '-' :: _ =>
      let (name, value) := splitValue text
      match Flag.all.find? (fun flag => flag.name == name) with
      | some exact => .ok (.flag exact value)
      | none =>
          match Flag.all.filter (fun flag => flag.name.startsWith name) with
          | [only] => .ok (.flag only value)
          | [] => .ok (ofOther text)
          | _ => .error .usage
  | '-' :: 'h' :: rest => .ok (.shortHelp rest)
  | '-' :: _ :: _ => .ok (ofOther text)
  | _ => .ok (.operand text)

def classifyAll : List String → Except Refusal (List Argument)
  | [] => .ok []
  | "--" :: rest => .ok (.separator :: rest.map .operand)
  | text :: rest => do
      let argument ← classify text
      let others ← classifyAll rest
      return argument :: others

end Argument

structure Invocation where
  /-- The paths; one that is void has no path. -/
  operands : List (Option Path) := []
  seed : SeedChoice := .own
  table : Option Path := none
  quiet : Bool := false
  /-- The level of messages, unless it is void. -/
  level : Option Report.LogLevel := some .warning
  /-- Some argument had no place. -/
  excess : Bool := false

namespace Invocation

/-- A value that is a double dash is void: it is taken, but there is nothing in it. -/
def isVoid (value : String) : Bool := value = "--"

def voidFlag (invocation : Invocation) (flag : Flag) : Except Refusal Invocation :=
  match flag with
  | .seed => .ok { invocation with seed := .void }
  | .table => .ok { invocation with table := none }
  | .level => .ok { invocation with level := none }
  | .help | .quiet => .error .usage

def setFlag (invocation : Invocation) (flag : Flag) (value : String) :
    Except Refusal Invocation :=
  if isVoid value then invocation.voidFlag flag
  else
    match flag with
    | .seed =>
        match Text.integer? value.toList with
        | some seed => .ok { invocation with seed := .fixed seed }
        | none => .error .usage
    | .table => .ok { invocation with table := some (Path.ofText value) }
    | .level =>
        match Report.LogLevel.ofLabel? value with
        | some level => .ok { invocation with level := some level }
        | none => .error .usage
    | .help | .quiet => .error .usage

/-- Takes an operand, of which there are two. -/
def addOperand (invocation : Invocation) (path : Option Path) : Invocation :=
  if invocation.operands.length < 2 then
    { invocation with operands := invocation.operands ++ [path] }
  else { invocation with excess := true }

/-- A cluster of short options may ask for help several times, also behind an
equals sign, but for nothing else. -/
def shortHelp (rest : List Char) : Refusal :=
  match rest with
  | ['='] => .usage
  | '=' :: others => if others.all (· = 'h') then .help else .usage
  | _ => if rest.all (· = 'h') then .help else .usage

/-- Reads the arguments one after the other. A separator belongs to the operand
on either side of it and has no place where no operand is taken. The operand
behind it may be a double dash, but any later double dash is void. -/
def read (invocation : Invocation) : List Argument → Except Refusal Invocation
  | [] => .ok invocation
  | .flag .help none :: _ => .error .help
  | .shortHelp rest :: _ => .error (shortHelp rest)
  | .flag .quiet none :: rest => read { invocation with quiet := true } rest
  | .flag flag (some value) :: rest =>
      match invocation.setFlag flag value with
      | .error refusal => .error refusal
      | .ok invocation => read invocation rest
  | .flag flag none :: .operand value :: rest =>
      match invocation.setFlag flag value with
      | .error refusal => .error refusal
      | .ok invocation => read invocation rest
  | .flag _ none :: _ => .error .usage
  | .operand text :: .separator :: rest =>
      read (invocation.addOperand (Path.ofText text)) rest
  | .operand text :: rest =>
      read (invocation.addOperand (if isVoid text then none else Path.ofText text)) rest
  | .separator :: .operand text :: rest =>
      if invocation.operands.length = 2 then .error .usage
      else read (invocation.addOperand (Path.ofText text)) rest
  | .separator :: rest =>
      read { invocation with
        excess := invocation.excess || invocation.operands.length = 2 } rest
  | .unknown :: rest => read { invocation with excess := true } rest

/-- The invocation that arguments stand for, with its two operands. -/
def ofArguments (arguments : List String) : Except Refusal (Invocation × SessionRequest) :=
  match Argument.classifyAll arguments with
  | .error refusal => .error refusal
  | .ok classified =>
      match read {} classified with
      | .error refusal => .error refusal
      | .ok invocation =>
          match invocation.operands, invocation.excess with
          | [settings, board], false =>
              .ok (invocation, {
                settings, board
                seed := invocation.seed
                table := invocation.table
                snapshots := !invocation.quiet })
          | _, _ => .error .usage

end Invocation

end Foragers

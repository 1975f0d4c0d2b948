import Foragers.Text.Quoted

namespace Foragers

/-! Instructions and the one-character-per-instruction text of programs. -/

inductive Instruction where
  | move
  | eat
  | sniff
  | turnLeft
  | turnRight
  deriving DecidableEq, Repr, Inhabited

namespace Instruction

def all : List Instruction := [.move, .eat, .sniff, .turnLeft, .turnRight]

def symbol : Instruction → Char
  | move => 'i'
  | eat => 'j'
  | sniff => 'w'
  | turnLeft => 'l'
  | turnRight => 'p'

def label : Instruction → String
  | move => "MOVE"
  | eat => "EAT"
  | sniff => "SNIFF"
  | turnLeft => "TURN_LEFT"
  | turnRight => "TURN_RIGHT"

def ofSymbol? : Char → Option Instruction
  | 'i' => some move
  | 'j' => some eat
  | 'w' => some sniff
  | 'l' => some turnLeft
  | 'p' => some turnRight
  | _ => none

def invalidMessage (symbol : String) : String :=
  s!"{Text.quoted symbol} is not a valid Instruction"

/-- What is told about something to be executed that is no instruction. -/
def unknownMessage (text : String) : String :=
  s!"Unknown instruction: {Text.quoted text}"

@[simp] theorem ofSymbol?_symbol (instruction : Instruction) :
    ofSymbol? instruction.symbol = some instruction := by
  cases instruction <;> rfl

theorem symbol_of_ofSymbol? {symbol : Char} {instruction : Instruction}
    (holds : ofSymbol? symbol = some instruction) : instruction.symbol = symbol := by
  unfold ofSymbol? at holds
  split at holds <;> cases holds <;> rfl

end Instruction

abbrev Program := List Instruction

namespace Program

/-- Reads a program symbol by symbol; the first foreign character is the error. -/
def ofSymbols : List Char → Except Char Program
  | [] => .ok []
  | symbol :: rest =>
      match Instruction.ofSymbol? symbol with
      | none => .error symbol
      | some instruction =>
          match ofSymbols rest with
          | .error foreign => .error foreign
          | .ok program => .ok (instruction :: program)

def ofText (text : String) : Except Char Program :=
  ofSymbols text.toList

def symbols (program : Program) : List Char :=
  program.map Instruction.symbol

def text (program : Program) : String :=
  String.ofList program.symbols

@[simp] theorem ofSymbols_symbols (program : Program) :
    ofSymbols program.symbols = .ok program := by
  induction program with
  | nil => rfl
  | cons instruction rest induction =>
      simp [symbols] at induction
      simp [symbols, ofSymbols, induction]

@[simp] theorem ofText_text (program : Program) : ofText program.text = .ok program := by
  simp [ofText, text]

end Program

end Foragers

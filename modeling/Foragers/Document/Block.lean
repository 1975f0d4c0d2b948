import Foragers.Document.Cursor

namespace Foragers.Document

/-! Block scalars: the indented lines that follow a vertical bar or a greater
sign, the latter folding its lines. -/

inductive Chomping where
  | clip
  | keep
  | strip
  deriving DecidableEq, Repr

structure BlockHeader where
  chomping : Chomping
  /-- The indentation relative to what surrounds the scalar. -/
  increment : Option Nat

def chomping? : Option Char → Option Chomping
  | some '+' => some .keep
  | some '-' => some .strip
  | _ => none

/-- Reads a sign, if there is one, as what it says about the last line breaks. -/
def readChomping : Scan (Option Chomping) := do
  match chomping? (← Scan.peek) with
  | none => return none
  | some chomping =>
      Scan.skip 1
      return some chomping

/-- Reads a digit, if there is one. Zero is no indentation. -/
def readIncrement : Scan (Option Nat) := do
  match ← Scan.peek with
  | none => return none
  | some character =>
      if character = '0' then Scan.malformed
      else if character.isDigit then
        Scan.skip 1
        return some (character.toNat - 48)
      else return none

def blockHeader : Scan BlockHeader := do
  let early ← readChomping
  let increment ← readIncrement
  let late ← if early.isSome then pure none else readChomping
  Scan.expect endsName
  Scan.finishLine
  return ⟨(early <|> late).getD .clip, increment⟩

/-- The blank lines in front of the first line, with the largest number of
spaces in front of any line, the first one included. -/
def leadingLines : Nat → Nat → Scan (List Char × Nat)
  | 0, _ => Scan.malformed
  | fuel + 1, widest => do
      Scan.skipWhile (· = ' ')
      let widest := max widest (← get).column
      match ← Scan.lineBreak? with
      | none => return ([], widest)
      | some value =>
          let (others, widest) ← leadingLines fuel widest
          return (value :: others, widest)

/-- Skips the indentation of a line, as far as it has one. -/
def skipIndentation (indent : Nat) : Scan Unit := do
  let missing := indent - (← get).column
  let spaces := (← Scan.rest).takeWhile (· = ' ')
  Scan.skip (min missing spaces.length)

/-- Reads blank lines up to the indentation of the next line that is not blank. -/
def blockBlankLines (indent : Nat) : Nat → Scan (List Char)
  | 0 => Scan.malformed
  | fuel + 1 => do
      skipIndentation indent
      match ← Scan.lineBreak? with
      | none => return []
      | some value => return value :: (← blockBlankLines indent fuel)

/-- What stands between two lines, given the blank lines between them. Only
lines that start with no further blank are folded. -/
def blockGap (folds : Bool) (value : Option Char) (blankLines : List Char) : List Char :=
  if folds && value = some '\n' then if blankLines.isEmpty then [' '] else blankLines
  else value.toList ++ blankLines

def startsBlank (rest : List Char) : Bool :=
  rest.head?.any isBlank

def Chomping.apply (chomping : Chomping) (value : Option Char) (blankLines : List Char) :
    List Char :=
  match chomping with
  | clip => value.toList
  | keep => value.toList ++ blankLines
  | strip => []

/-- Reads lines of the given indentation and what follows the last one of them. -/
def blockLines (folding : Bool) (chomping : Chomping) (indent : Nat) : Nat → Scan (List Char)
  | 0 => Scan.malformed
  | fuel + 1 => do
      let startedBlank := startsBlank (← Scan.rest)
      let line ← Scan.takeWhile fun character => !isBreak character
      let value ← Scan.lineBreak?
      let blankLines ← blockBlankLines indent (← Scan.fuel)
      let cursor ← get
      if cursor.column = indent && !cursor.rest.isEmpty then
        let folds := folding && !startedBlank && !startsBlank cursor.rest
        let others ← blockLines folding chomping indent fuel
        return line ++ blockGap folds value blankLines ++ others
      else return line ++ chomping.apply value blankLines

/-- Reads a block scalar inside of something with the given indentation. -/
def blockScalar (folding : Bool) (outer : Int) : Scan String := do
  Scan.skip 1
  let header ← blockHeader
  let least := (max (outer + 1) 1).toNat
  let (indent, blankLines) ← match header.increment with
    | some increment => do
        let indent := least + increment - 1
        pure (indent, ← blockBlankLines indent (← Scan.fuel))
    | none => do
        let (blankLines, widest) ← leadingLines (← Scan.fuel) 0
        pure (max least widest, blankLines)
  let cursor ← get
  if cursor.column = indent && !cursor.rest.isEmpty then
    let lines ← blockLines folding header.chomping indent (← Scan.fuel)
    return String.ofList (blankLines ++ lines)
  else return String.ofList (header.chomping.apply none blankLines)

end Foragers.Document

import Foragers.Document.Character
import Foragers.Document.Fault

namespace Foragers.Document

/-! Places in the text of a document, and readers that move from one place to
the next. -/

structure Cursor where
  /-- The text from here on. -/
  rest : List Char
  /-- How many characters come before. -/
  index : Nat
  line : Nat
  column : Nat
  /-- The number of characters of the whole text. -/
  size : Nat

namespace Cursor

def start (text : List Char) : Cursor := ⟨text, 0, 0, 0, text.length⟩

/-- The place after one more character. A byte order mark takes up no column. -/
def next (cursor : Cursor) : Cursor :=
  match cursor.rest with
  | [] => cursor
  | character :: rest =>
      if isBreak character then
        { cursor with rest, index := cursor.index + 1, line := cursor.line + 1, column := 0 }
      else if character = byteOrderMark then { cursor with rest, index := cursor.index + 1 }
      else { cursor with rest, index := cursor.index + 1, column := cursor.column + 1 }

def skip (cursor : Cursor) (count : Nat) : Cursor :=
  count.repeat next cursor

def atMarker (cursor : Cursor) : Bool :=
  match cursor.rest with
  | first :: second :: third :: rest =>
      (first = '-' || first = '.') && second = first && third = first && endsWord rest.head?
  | _ => false

end Cursor

abbrev Scan := StateT Cursor (Except DocumentFault)

namespace Scan

def malformed {α : Type} : Scan α := throw .malformed

def rest : Scan (List Char) := return (← get).rest

def peek : Scan (Option Char) := return (← get).rest.head?

def skip (count : Nat) : Scan Unit := modify (·.skip count)

def takeWhile (accepts : Char → Bool) : Scan (List Char) := do
  let taken := (← rest).takeWhile accepts
  skip taken.length
  return taken

def skipWhile (accepts : Char → Bool) : Scan Unit := do
  let _ ← takeWhile accepts

def expect (accepts : Option Char → Bool) : Scan Unit := do
  unless accepts (← peek) do malformed

/-- Reads a line break, if there is one. -/
def lineBreak? : Scan (Option Char) := do
  match ← peek with
  | none => return none
  | some character =>
      if isBreak character then
        skip 1
        return some (breakValue character)
      else return none

def fuel : Scan Nat := return (← get).size + 1

def skipComment : Scan Unit := do
  skipWhile (· = ' ')
  if (← peek) = some '#' then skipWhile fun character => !isBreak character

/-- Reads the rest of a line that may hold nothing more than a comment. -/
def finishLine : Scan Unit := do
  skipComment
  expect endsLine
  let _ ← lineBreak?

end Scan

end Foragers.Document

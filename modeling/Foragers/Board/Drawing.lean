import Foragers.Board.Basic
import Foragers.Text.Quoted

namespace Foragers

/-! Boards drawn as text, one line for a row: a space is an empty cell and an
`x` is ripe food. -/

inductive BoardError where
  /-- A row has a character that draws no cell; the row's first one is kept. -/
  | unknownCharacter (first : Char)
  | unevenRows (line : Nat)
  | empty
  deriving DecidableEq, Repr

namespace BoardError

def message : BoardError → String
  | unknownCharacter first => s!"Unknown character on board: {Text.quoted first.toString}."
  | unevenRows line => s!"Line {line}. Board rows are not of equal length."
  | empty => "Board has no cells."

end BoardError

def Cell.ofCharacter? (energy ripeningTime : Int) : Char → Option Cell
  | ' ' => some Cell.empty
  | 'x' => some (Cell.food energy ripeningTime)
  | _ => none

namespace Board

/-- The number of the first row whose length is not the given one, rows being
counted from a given number. -/
def firstUneven? (width : Nat) : Nat → List (List Cell) → Option Nat
  | _, [] => none
  | line, row :: rest =>
      if row.length = width then firstUneven? width (line + 1) rest else some line

theorem length_flatten_of_even {width line : Nat} {rows : List (List Cell)}
    (even : firstUneven? width line rows = none) :
    rows.flatten.length = width * rows.length := by
  induction rows generalizing line with
  | nil => rfl
  | cons row rest induction =>
      simp only [firstUneven?] at even
      split at even
      · rename_i rowEven
        rw [List.flatten_cons, List.length_append, induction even, rowEven,
          List.length_cons, Nat.mul_add, Nat.mul_one, Nat.add_comm]
      · cases even

/-- The board of given rows, which must be of one length and not empty. -/
def ofCells (rows : List (List Cell)) : Except BoardError Board :=
  match rows with
  | [] => .error .empty
  | [] :: _ => .error .empty
  | (cell :: others) :: rest =>
      let rows := (cell :: others) :: rest
      match even : firstUneven? (others.length + 1) 1 rows with
      | some line => .error (.unevenRows line)
      | none =>
          .ok {
            width := others.length + 1
            height := rows.length
            cells := ⟨rows.flatten.toArray, length_flatten_of_even even⟩
            ripeCount := rows.flatten.countP Cell.hasFood
            width_pos := Nat.succ_pos _
            height_pos := Nat.succ_pos _ }

/-- Reads one row, or keeps the row's first character when a character of it
draws no cell. -/
def readRow (energy ripeningTime : Int) (characters : List Char) :
    Except BoardError (List Cell) :=
  match characters.mapM (Cell.ofCharacter? energy ripeningTime) with
  | some cells => .ok cells
  | none => .error (.unknownCharacter (characters.headD ' '))

/-- Reads rows one after the other. Each must be as long as the one before it. -/
def readRows (energy ripeningTime : Int) :
    Nat → Option Nat → List (List Char) → Except BoardError (List (List Cell))
  | _, _, [] => .ok []
  | line, previous, characters :: rest =>
      match readRow energy ripeningTime characters with
      | .error error => .error error
      | .ok cells =>
          if previous.all (· = characters.length) then
            match readRows energy ripeningTime (line + 1) (some characters.length) rest with
            | .error error => .error error
            | .ok others => .ok (cells :: others)
          else .error (.unevenRows line)

/-- The board drawn by some lines, all food having the given energy and time. -/
def ofLines (energy ripeningTime : Int) (lines : List String) : Except BoardError Board :=
  match readRows energy ripeningTime 1 none (lines.map String.toList) with
  | .error error => .error error
  | .ok rows => ofCells rows

end Board

end Foragers

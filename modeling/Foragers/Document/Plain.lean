import Foragers.Document.Quoted

namespace Foragers.Document

/-! Scalars without quotes. They go on over several lines as long as these are
indented enough. -/

def endsKey (inFlow : Bool) : Option Char → Bool
  | none => true
  | some character => endsWord (some character) || (inFlow && isFlowMark character)

def plainPiece (inFlow : Bool) : List Char → List Char
  | [] => []
  | character :: rest =>
      if endsWord (some character) || (character = ':' && endsKey inFlow rest.head?) ||
          (inFlow && (isFlowMark character || character = '?')) then []
      else character :: plainPiece inFlow rest

/-- The line breaks of blank lines, or `none` when a mark between documents
follows one of them. -/
def plainBlankLines? : Nat → Scan (Option (List Char))
  | 0 => Scan.malformed
  | fuel + 1 => do
      if (← get).atMarker then return none
      Scan.skipWhile (· = ' ')
      match ← Scan.lineBreak? with
      | none => return some []
      | some value => return (← plainBlankLines? fuel).map (value :: ·)

/-- Reads what stands between two pieces, which is nothing at the end of a
scalar, and tells if a line break is in it. -/
def plainGap : Scan (List Char × Bool) := do
  let spaces ← Scan.takeWhile (· = ' ')
  match ← Scan.lineBreak? with
  | none => return (spaces, false)
  | some value =>
      match ← plainBlankLines? (← Scan.fuel) with
      | none => return ([], true)
      | some blankLines => return (folded value blankLines, true)

def startsPlain (inFlow : Bool) (first : Char) (second : Option Char) : Bool :=
  if first = '-' then !endsWord second
  else if first = '?' || first = ':' then !inFlow && !endsWord second
  else !isIndicator first && !endsWord (some first)

/-- Reads the pieces of a plain scalar after some text, and tells if a line
break follows the last one. -/
def plainFrom (inFlow : Bool) (indent : Int) : Nat → Scan (List Char × Bool)
  | 0 => Scan.malformed
  | fuel + 1 => do
      let piece := plainPiece inFlow (← Scan.rest)
      Scan.skip piece.length
      let (gap, newLine) ← plainGap
      let cursor ← get
      let goesOn := !gap.isEmpty && cursor.rest.head? ≠ some '#' &&
        (inFlow || indent ≤ (cursor.column : Int)) &&
        !(plainPiece inFlow cursor.rest).isEmpty
      if goesOn then
        let (others, lastNewLine) ← plainFrom inFlow indent fuel
        return (piece ++ gap ++ others, lastNewLine)
      else return (piece, newLine)

def plainScalar (inFlow : Bool) (indent : Int) : Scan (String × Bool) := do
  let (text, newLine) ← plainFrom inFlow indent (← Scan.fuel)
  return (String.ofList text, newLine)

end Foragers.Document

import Foragers.Document.Cursor
import Foragers.Text.Numeral

namespace Foragers.Document

/-! Scalars in single or double quotes. Line breaks are folded into spaces;
between double quotes a backslash starts an escape sequence. -/

def escapes : List (Char × Char) := [
  ('0', '\x00'), ('a', '\x07'), ('b', '\x08'), ('t', '\t'), ('\t', '\t'), ('n', '\n'),
  ('v', '\x0b'), ('f', '\x0c'), ('r', '\r'), ('e', '\x1b'), (' ', ' '), ('"', '"'),
  ('\\', '\\'), ('/', '/'), ('N', '\u0085'), ('_', '\u00a0'), ('L', '\u2028'), ('P', '\u2029')]

def escapeWidth? : Char → Option Nat
  | 'x' => some 2
  | 'u' => some 4
  | 'U' => some 8
  | _ => none

/-- The first code that a signed machine integer of 32 bits cannot hold. -/
def codeLimit : Nat := 1 <<< 31

def isFirstHalf (code : Nat) : Bool := 0xd800 ≤ code && code ≤ 0xdbff

def isSecondHalf (code : Nat) : Bool := 0xdc00 ≤ code && code ≤ 0xdfff

def pairCode (first second : Nat) : Nat :=
  0x10000 + (first - 0xd800) * 0x400 + (second - 0xdc00)

/-- The character of a code. Half of a surrogate pair is no character of its
own and is read as the replacement character. -/
def characterOfCode (code : Nat) : Except DocumentFault Char :=
  if codeLimit ≤ code then .error .codeTooLarge
  else if 0x10ffff < code then .error .unknownCharacter
  else if isFirstHalf code || isSecondHalf code then .ok '\ufffd'
  else .ok (Char.ofNat code)

/-- The code in the given number of hexadecimal digits at the start of a text. -/
def codeOf? (width : Nat) (text : List Char) : Option Nat := do
  let values ← (text.take width).mapM (Text.digitInBase? 16)
  if values.length = width then some (Text.ofDigits 16 values) else none

def hexCode (width : Nat) : Scan Nat := do
  match codeOf? width (← Scan.rest) with
  | some code =>
      Scan.skip width
      return code
  | none => Scan.malformed

/-- Reads an escape sequence with the second half of a surrogate pair, if there
is one. -/
def secondHalf? : Scan (Option Nat) := do
  match ← Scan.rest with
  | '\\' :: letter :: digits =>
      let width := (escapeWidth? letter).getD 0
      match (codeOf? width digits).filter isSecondHalf with
      | some code =>
          Scan.skip (2 + width)
          return some code
      | none => return none
  | _ => return none

/-- Reads an escaped code, and its other half if it is the first one of a pair. -/
def escapedCode (width : Nat) : Scan Nat := do
  let code ← hexCode width
  let second ← if isFirstHalf code then secondHalf? else pure none
  return second.elim code (pairCode code)

/-- The line breaks of blank lines. A mark between documents may not follow. -/
def blankLines : Nat → Scan (List Char)
  | 0 => Scan.malformed
  | fuel + 1 => do
      if (← get).atMarker then Scan.malformed
      Scan.skipWhile isBlank
      match ← Scan.lineBreak? with
      | none => return []
      | some value => return value :: (← blankLines fuel)

def folded (value : Char) (blankLines : List Char) : List Char :=
  if value ≠ '\n' then value :: blankLines
  else if blankLines.isEmpty then [' ']
  else blankLines

def escaped : Scan (List Char) := do
  Scan.skip 1
  match ← Scan.peek with
  | none => Scan.malformed
  | some letter =>
      match escapes.lookup letter, escapeWidth? letter with
      | some character, _ =>
          Scan.skip 1
          return [character]
      | none, some width =>
          Scan.skip 1
          return [← characterOfCode (← escapedCode width)]
      | none, none =>
          if isBreak letter then
            let _ ← Scan.lineBreak?
            blankLines (← Scan.fuel)
          else Scan.malformed

def quotedGap : Scan (List Char) := do
  let blanks ← Scan.takeWhile isBlank
  match ← Scan.lineBreak? with
  | some value => return folded value (← blankLines (← Scan.fuel))
  | none => return blanks

def quotedFrom (quote : Char) : Nat → Scan (List Char)
  | 0 => Scan.malformed
  | fuel + 1 => do
      match ← Scan.peek with
      | none => Scan.malformed
      | some character =>
          if character = quote then
            Scan.skip 1
            if quote = '\x27' && (← Scan.peek) = some quote then
              Scan.skip 1
              return quote :: (← quotedFrom quote fuel)
            else return []
          else if quote = '"' && character = '\\' then
            let text ← escaped
            return text ++ (← quotedFrom quote fuel)
          else if isBlank character || isBreak character then
            let gap ← quotedGap
            return gap ++ (← quotedFrom quote fuel)
          else
            Scan.skip 1
            return character :: (← quotedFrom quote fuel)

def quotedScalar (quote : Char) : Scan String := do
  Scan.skip 1
  return String.ofList (← quotedFrom quote (← Scan.fuel))

end Foragers.Document

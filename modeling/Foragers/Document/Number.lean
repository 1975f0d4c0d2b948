import Foragers.Binary64.Arithmetic
import Foragers.Document.Fault
import Foragers.Text.Numeral

namespace Foragers.Document

/-! The values of scalars that are numbers. Underscores do not count, and a
number with colons is one in base sixty. -/

def splitNumberSign (text : List Char) : Except DocumentFault (Bool × List Char) :=
  if text.isEmpty then .error .noDigits else .ok (Text.splitSign text)

def orNotNumber {α : Type} : Option α → Except DocumentFault α
  | some value => .ok value
  | none => .error .notNumber

/-- A whole number of a base that a leading zero and a letter may repeat. -/
def integerIn (base : Nat) (text : List Char) : Except DocumentFault Int :=
  orNotNumber (Text.integerIn? base text)

def sexagesimal (digits : List Int) : Int :=
  digits.foldl (fun number digit => number * 60 + digit) 0

def unsignedInteger (text : List Char) : Except DocumentFault Int :=
  match text with
  | [] => .error .noDigits
  | ['0'] => .ok 0
  | '0' :: 'b' :: digits => integerIn 2 digits
  | '0' :: 'x' :: digits => integerIn 16 digits
  | '0' :: _ => integerIn 8 text
  | _ =>
      if text.contains ':' then return sexagesimal (← (text.splitOn ':').mapM (integerIn 10))
      else integerIn 10 text

def integerOf (text : String) : Except DocumentFault Int := do
  let (negative, unsigned) ← splitNumberSign (text.toList.filter (· ≠ '_'))
  let number ← unsignedInteger unsigned
  return if negative then -number else number

/-- Adds up the digits of a number in base sixty from the last one to the first. -/
def addSexagesimal (sum : Binary64) (base : Nat) :
    List Binary64 → Except DocumentFault Binary64
  | [] => .ok sum
  | digit :: rest =>
      match Binary64.ofInt? base with
      | none => .error .tooLarge
      | some weight => addSexagesimal (sum.add (digit.mul weight)) (base * 60) rest

def unsignedDecimal (text : List Char) : Except DocumentFault Binary64 :=
  if text = ".inf".toList then .ok (.infinite false)
  else if text = ".nan".toList then .ok (.nan false)
  else if text.contains ':' then do
    let digits ← (text.splitOn ':').mapM fun part => orNotNumber (Text.decimal? part)
    addSexagesimal .zero 1 digits.reverse
  else orNotNumber (Text.decimal? text)

def decimalOf (text : String) : Except DocumentFault Binary64 := do
  let characters := (text.toList.filter (· ≠ '_')).map Char.toLower
  let (negative, unsigned) ← splitNumberSign characters
  let number ← unsignedDecimal unsigned
  return if negative then number.neg else number

end Foragers.Document

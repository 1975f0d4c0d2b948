import Foragers.Binary64.Decimal
import Foragers.Text.Blank
import Foragers.Text.Digit

namespace Foragers.Text

/-! Numbers written as text. Blanks around a number do not count, an
underscore may stand between two digits, and digits of any script may be used. -/

/-- Writes the digits of all scripts with `0` to `9` and the blanks beyond ASCII
as spaces; every other character beyond ASCII becomes a question mark. -/
def plainCharacter (character : Char) : Char :=
  if character.toNat < 127 then character
  else if isBlank character then ' '
  else
    match decimalDigit? character with
    | some digit => Char.ofNat (48 + digit)
    | none => '?'

def isPlainBlank (character : Char) : Bool :=
  character = ' ' || (0x09 ≤ character.toNat && character.toNat ≤ 0x0d)

def trimBlanks (text : List Char) : List Char :=
  ((text.dropWhile isPlainBlank).reverse.dropWhile isPlainBlank).reverse

def plain (text : List Char) : List Char :=
  trimBlanks (text.map plainCharacter)

def splitSign : List Char → Bool × List Char
  | '-' :: rest => (true, rest)
  | '+' :: rest => (false, rest)
  | rest => (false, rest)

/-- The value of a digit or letter, ten standing for `a`. -/
def digitValue? (character : Char) : Option Nat :=
  let code := character.toNat
  if 48 ≤ code && code ≤ 57 then some (code - 48)
  else if 97 ≤ code && code ≤ 122 then some (code - 87)
  else if 65 ≤ code && code ≤ 90 then some (code - 55)
  else none

def digitInBase? (base : Nat) (character : Char) : Option Nat :=
  (digitValue? character).filter (· < base)

/-- Reads digits; single underscores may stand between them. -/
def digits? (base : Nat) : List Char → Option (List Nat)
  | [] => none
  | [character] => (digitInBase? base character).map ([·])
  | character :: '_' :: rest => do
      let digit ← digitInBase? base character
      let others ← digits? base rest
      return digit :: others
  | character :: rest => do
      let digit ← digitInBase? base character
      let others ← digits? base rest
      return digit :: others

def ofDigits (base : Nat) (digits : List Nat) : Nat :=
  digits.foldl (fun number digit => number * base + digit) 0

def wholeNumber (digits : List Char) : Nat :=
  ofDigits 10 (digits.map fun digit => digit.toNat - 48)

/-- The largest number of digits that a number may be written with, unless the
base is a power of two. -/
def digitLimit : Nat := 4300

def isPowerOfTwo (number : Nat) : Bool :=
  number = 1 <<< number.log2

def baseLetter? : Nat → Option Char
  | 2 => some 'b'
  | 8 => some 'o'
  | 16 => some 'x'
  | _ => none

/-- Drops a zero and the letter of the base, and an underscore behind them. -/
def dropBase (base : Nat) : List Char → List Char
  | '0' :: letter :: rest =>
      if baseLetter? base = some letter.toLower then
        if rest.head? = some '_' then rest.drop 1 else rest
      else '0' :: letter :: rest
  | text => text

def integerIn? (base : Nat) (text : List Char) : Option Int := do
  let (negative, unsigned) := splitSign (plain text)
  let digits ← digits? base (dropBase base unsigned)
  if digitLimit < digits.length && !isPowerOfTwo base then none
  else return if negative then -(ofDigits base digits : Int) else ofDigits base digits

def integer? (text : List Char) : Option Int :=
  integerIn? 10 text

/-- Removes the underscores, each of which must stand between two digits. -/
def dropUnderscores? (afterDigit : Bool) : List Char → Option (List Char)
  | [] => some []
  | '_' :: character :: rest =>
      if afterDigit && character.isDigit then
        (dropUnderscores? true rest).map (character :: ·)
      else none
  | character :: rest =>
      if character = '_' then none
      else (dropUnderscores? character.isDigit rest).map (character :: ·)

/-- The exponent after a mantissa, zero when there is none. -/
def exponent? : List Char → Option Int
  | [] => some 0
  | mark :: rest =>
      if mark = 'e' || mark = 'E' then
        let (negative, digits) := splitSign rest
        if digits.isEmpty || !digits.all Char.isDigit then none
        else
          let number : Int := wholeNumber digits
          some (if negative then -number else number)
      else none

def unsignedDecimal? (negative : Bool) (text : List Char) : Option Binary64 := do
  let whole := text.takeWhile Char.isDigit
  let afterWhole := text.dropWhile Char.isDigit
  let (fraction, afterFraction) :=
    match afterWhole with
    | '.' :: rest => (rest.takeWhile Char.isDigit, rest.dropWhile Char.isDigit)
    | rest => ([], rest)
  let digits := whole ++ fraction
  if digits.isEmpty then none
  else
    let exponent ← exponent? afterFraction
    return Binary64.ofDecimal negative (wholeNumber digits) (exponent - fraction.length)

/-- Reads a number of the binary64 format, infinities and NaN included. -/
def decimal? (text : List Char) : Option Binary64 := do
  let (negative, unsigned) := splitSign (← dropUnderscores? false (plain text))
  let name := String.ofList (unsigned.map Char.toLower)
  if name = "inf" || name = "infinity" then return .infinite negative
  else if name = "nan" then return .nan negative
  else unsignedDecimal? negative unsigned

end Foragers.Text

import Foragers.Document.Tag
import Foragers.Document.Timestamp

namespace Foragers.Document

/-! The tags of plain scalars, which follow from how they are written. -/

def isDigitOrUnderscore (character : Char) : Bool :=
  character.isDigit || character = '_'

def isOctalOrUnderscore (character : Char) : Bool :=
  ('0' ≤ character && character ≤ '7') || character = '_'

def isHexOrUnderscore (character : Char) : Bool :=
  isDigitOrUnderscore character || ('a' ≤ character && character ≤ 'f') ||
    ('A' ≤ character && character ≤ 'F')

def dropSign : List Char → List Char
  | '-' :: rest => rest
  | '+' :: rest => rest
  | text => text

def isNumeral : List Char → Bool
  | [] => false
  | first :: rest => first.isDigit && rest.all isDigitOrUnderscore

/-- A digit of base sixty, in one or two decimal digits. -/
def isSexagesimalDigit : List Char → Bool
  | [digit] => digit.isDigit
  | [first, second] => '0' ≤ first && first ≤ '5' && second.isDigit
  | _ => false

def isSexagesimal (text : List Char) : Bool :=
  match text.splitOn ':' with
  | first :: second :: rest =>
      isNumeral first && isSexagesimalDigit second && rest.all isSexagesimalDigit
  | _ => false

def isInteger (text : List Char) : Bool :=
  match dropSign text with
  | ['0'] => true
  | '0' :: 'b' :: digits =>
      !digits.isEmpty && digits.all fun digit => digit = '0' || digit = '1' || digit = '_'
  | '0' :: 'x' :: digits => !digits.isEmpty && digits.all isHexOrUnderscore
  | '0' :: digits => digits.all isOctalOrUnderscore
  | unsigned => isNumeral unsigned || isSexagesimal unsigned

/-- An exponent with a sign, or nothing. -/
def isExponent : List Char → Bool
  | [] => true
  | mark :: sign :: digits =>
      (mark = 'e' || mark = 'E') && (sign = '-' || sign = '+') &&
        !digits.isEmpty && digits.all Char.isDigit
  | _ => false

def isInfinity (text : List Char) : Bool :=
  [".inf", ".Inf", ".INF"].contains (String.ofList (dropSign text))

def isNotANumber (text : List Char) : Bool :=
  [".nan", ".NaN", ".NAN"].contains (String.ofList text)

/-- A decimal has a point in it, and digits at one of its sides. Only with
digits in front of the point it may have a sign. -/
def isDecimal (text : List Char) : Bool :=
  let unsigned := dropSign text
  let whole := unsigned.takeWhile (· ≠ '.')
  let afterPoint := (unsigned.dropWhile (· ≠ '.')).drop 1
  let hasPoint := unsigned.contains '.'
  let exponent := afterPoint.dropWhile isDigitOrUnderscore
  let positional := hasPoint && isExponent exponent &&
    (isNumeral whole ||
      (text.head? = some '.' && isNumeral (afterPoint.takeWhile isDigitOrUnderscore)))
  let sexagesimal := hasPoint && isSexagesimal whole && exponent.isEmpty
  positional || sexagesimal || isInfinity text || isNotANumber text

def booleanNames : List String := ["yes", "no", "true", "false", "on", "off"]

/-- The names of truth values are in small letters, in capitals or begin with one. -/
def isBoolean (text : String) : Bool :=
  booleanNames.any fun name => text = name || text = name.toUpper || text = name.capitalize

def isNull (text : String) : Bool :=
  ["", "~", "null", "Null", "NULL"].contains text

def withoutLastBreak (text : List Char) : List Char :=
  if text.getLast? = some '\n' && text.length ≠ 1 then text.dropLast else text

def Tag.ofPlain (scalar : String) : Tag :=
  let characters := withoutLastBreak scalar.toList
  let content := String.ofList characters
  if isBoolean content then .boolean
  else if isDecimal characters then .decimal
  else if isInteger characters then .integer
  else if content = "<<" then .merge
  else if isNull content then .null
  else if Timestamp.isImplicit characters then .timestamp
  else if content = "=" then .value
  else if ["!", "&", "*"].contains content then .unknown
  else .text

end Foragers.Document

import Foragers.Text.Digit
import Foragers.Text.Printable

namespace Foragers.Text

/-! Text in quotes, with everything that cannot be shown escaped. -/

def hexDigits (width number : Nat) : List Char :=
  paddedDigits 16 width number

/-- An escape of two, four or eight hexadecimal digits, the shortest that fits. -/
def escapeCode (code : Nat) : List Char :=
  if code < 0x100 then '\\' :: 'x' :: hexDigits 2 code
  else if code < 0x10000 then '\\' :: 'u' :: hexDigits 4 code
  else '\\' :: 'U' :: hexDigits 8 code

def escapeIn (quote character : Char) : List Char :=
  if character = quote || character = '\\' then ['\\', character]
  else if character = '\t' then ['\\', 't']
  else if character = '\n' then ['\\', 'n']
  else if character = '\r' then ['\\', 'r']
  else if isPrintable character then [character]
  else escapeCode character.toNat

/-- Single quotes are taken unless the text has them and no double ones. -/
def quoteMark (text : List Char) : Char :=
  if text.contains '\x27' && !text.contains '\x22' then '\x22' else '\x27'

def quoted (text : String) : String :=
  let characters := text.toList
  let mark := quoteMark characters
  String.ofList (mark :: characters.flatMap (escapeIn mark) ++ [mark])

end Foragers.Text

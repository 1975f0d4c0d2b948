namespace Foragers.Text

/-! Blank characters and the words between them. -/

/-- The characters that separate words: the spaces and line ends of all
scripts, and the four information separators of ASCII. -/
def isBlank (character : Char) : Bool :=
  let code := character.toNat
  (0x09 ≤ code && code ≤ 0x0d) || (0x1c ≤ code && code ≤ 0x20) || code = 0x85 ||
    code = 0xa0 || code = 0x1680 || (0x2000 ≤ code && code ≤ 0x200a) ||
    code = 0x2028 || code = 0x2029 || code = 0x202f || code = 0x205f || code = 0x3000

/-- Puts a finished word, kept in reverse, before the words that follow it. -/
def closeWord (reversed : List Char) (others : List String) : List String :=
  if reversed.isEmpty then others else String.ofList reversed.reverse :: others

def wordsFrom (reversed : List Char) : List Char → List String
  | [] => closeWord reversed []
  | character :: rest =>
      if isBlank character then closeWord reversed (wordsFrom [] rest)
      else wordsFrom (character :: reversed) rest

/-- The longest runs of characters that are not blank, in their order. -/
def words (line : String) : List String :=
  wordsFrom [] line.toList

end Foragers.Text

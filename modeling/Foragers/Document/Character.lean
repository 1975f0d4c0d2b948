namespace Foragers.Document

/-! Classes of characters. Where a character may be missing, the end of the text
counts as the end of its last line. -/

def isAllowed (character : Char) : Bool :=
  let code := character.toNat
  code = 0x09 || code = 0x0a || (0x20 ≤ code && code ≤ 0x7e) || code = 0x85 ||
    (0xa0 ≤ code && code ≤ 0xfffd) || 0x10000 ≤ code

def byteOrderMark : Char := '\ufeff'

/-- The characters that end a line, once all pairs of carriage return and line
feed and all single carriage returns are line feeds. -/
def isBreak (character : Char) : Bool :=
  character = '\n' || character = '\u0085' || character = '\u2028' || character = '\u2029'

def isBlank (character : Char) : Bool :=
  character = ' ' || character = '\t'

/-- What a line break stands for in a scalar: one of the two breaks beyond
Latin-1 stands for itself, the others for a line feed. -/
def breakValue (character : Char) : Char :=
  if character = '\u2028' || character = '\u2029' then character else '\n'

def endsLine : Option Char → Bool
  | none => true
  | some character => isBreak character

def endsWord : Option Char → Bool
  | none => true
  | some character => isBreak character || isBlank character

/-- A name ends like a word, but not at a tab. -/
def endsName : Option Char → Bool
  | none => true
  | some character => isBreak character || character = ' '

def isNameCharacter (character : Char) : Bool :=
  character.isAlphanum || character = '-' || character = '_'

/-- The characters that open, close and divide collections in flow style. -/
def isFlowMark (character : Char) : Bool :=
  ",[]\x7b\x7d".toList.contains character

/-- The characters that can begin no plain scalar, whatever follows them. -/
def isIndicator (character : Char) : Bool :=
  ",[]\x7b\x7d#&*!|>\x27\"%@\x60".toList.contains character

end Foragers.Document

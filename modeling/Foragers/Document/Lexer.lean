import Foragers.Document.Block
import Foragers.Document.Mark
import Foragers.Document.Plain

namespace Foragers.Document

/-! Splitting the text of a document into tokens. That a token begins the key of
a mapping shows only when a colon follows it, so places where keys may begin
are remembered, and the token of the key is inserted there later on. -/

structure KeyCandidate where
  /-- How many tokens come before. -/
  place : Nat
  /-- Whether nothing but a key can be here. -/
  required : Bool
  index : Nat
  line : Nat
  column : Nat

structure Lexer where
  cursor : Cursor
  /-- The tokens read so far, the last one first. -/
  reversed : List Token
  count : Nat
  /-- The columns of the open block collections, the innermost one first. -/
  columns : List Nat
  candidate : Option KeyCandidate
  /-- The candidates outside of the open flow collections, the innermost one first. -/
  outerCandidates : List (Option KeyCandidate)
  /-- Whether a key may begin here without a question mark. -/
  keyAllowed : Bool

namespace Lexer

def start (text : List Char) : Lexer := {
  cursor := .start text
  reversed := []
  count := 0
  columns := []
  candidate := none
  outerCandidates := []
  keyAllowed := true }

def inFlow (lexer : Lexer) : Bool :=
  !lexer.outerCandidates.isEmpty

/-- The column of the innermost block collection, minus one outside of all. -/
def indent (lexer : Lexer) : Int :=
  match lexer.columns with
  | [] => -1
  | column :: _ => column

def push (lexer : Lexer) (token : Token) : Lexer :=
  { lexer with reversed := token :: lexer.reversed, count := lexer.count + 1 }

def insert (lexer : Lexer) (place : Nat) (token : Token) : Lexer :=
  let (later, earlier) := lexer.reversed.splitAt (lexer.count - place)
  { lexer with reversed := later ++ token :: earlier, count := lexer.count + 1 }

def scan {α : Type} (lexer : Lexer) (reader : Scan α) : Except DocumentFault (α × Lexer) := do
  let (result, cursor) ← reader.run lexer.cursor
  return (result, { lexer with cursor })

def take (lexer : Lexer) (token : Token) : Lexer :=
  { lexer with cursor := lexer.cursor.next }.push token

/-- A key is on one line and has at most 1024 characters. -/
def isStale (cursor : Cursor) (candidate : KeyCandidate) : Bool :=
  candidate.line ≠ cursor.line || candidate.index + 1024 < cursor.index

/-- Gives a candidate up, which fails if it had to be a key. -/
def giveUp : Option KeyCandidate → Except DocumentFault (Option KeyCandidate)
  | some candidate => if candidate.required then .error .malformed else .ok none
  | none => .ok none

def dropCandidate (lexer : Lexer) : Except DocumentFault Lexer := do
  return { lexer with candidate := ← giveUp lexer.candidate }

def dropStale (lexer : Lexer) : Except DocumentFault Lexer := do
  let keepFresh (candidate : Option KeyCandidate) :=
    if candidate.any (isStale lexer.cursor) then giveUp candidate else .ok candidate
  return { lexer with
    candidate := ← keepFresh lexer.candidate
    outerCandidates := ← lexer.outerCandidates.mapM keepFresh }

def noteCandidate (lexer : Lexer) : Except DocumentFault Lexer := do
  if lexer.keyAllowed then
    let lexer ← lexer.dropCandidate
    let cursor := lexer.cursor
    return { lexer with candidate := some {
      place := lexer.count
      required := !lexer.inFlow && lexer.indent = cursor.column
      index := cursor.index
      line := cursor.line
      column := cursor.column } }
  else return lexer

/-- Closes the block collections that are indented further than a column. -/
def closeBlocks (lexer : Lexer) (column : Int) : Lexer :=
  if lexer.inFlow then lexer
  else
    let closed := lexer.columns.takeWhile fun (opened : Nat) => column < opened
    closed.foldl (fun lexer _ => lexer.push .blockEnd)
      { lexer with columns := lexer.columns.drop closed.length }

/-- Opens a block collection at a column, its first token going to a place
among the tokens, unless one is open there. -/
def openBlock (lexer : Lexer) (column place : Nat) (token : Token) : Lexer :=
  if lexer.indent < column then
    { lexer with columns := column :: lexer.columns }.insert place token
  else lexer

/-- The same for an entry with a mark of its own, which is only allowed where a
key may begin. Within flow collections nothing is opened. -/
def openEntry (lexer : Lexer) (token : Token) : Except DocumentFault Lexer :=
  if lexer.inFlow then .ok lexer
  else if lexer.keyAllowed then
    .ok (lexer.openBlock lexer.cursor.column lexer.count token)
  else .error .malformed

/-- Skips blanks, comments and line breaks. Keys may begin on a new line. -/
def skipBlank : Nat → Lexer → Except DocumentFault Lexer
  | 0, _ => .error .malformed
  | fuel + 1, lexer => do
      let (newLine, lexer) ← lexer.scan do
        Scan.skipComment
        return (← Scan.lineBreak?).isSome
      if newLine then
        skipBlank fuel { lexer with keyAllowed := lexer.keyAllowed || !lexer.inFlow }
      else return lexer

/-- A byte order mark is skipped at the beginning of the text only. -/
def skipByteOrderMark (lexer : Lexer) : Lexer :=
  if lexer.cursor.index = 0 && lexer.cursor.rest.head? = some byteOrderMark then
    { lexer with cursor := lexer.cursor.next }
  else lexer

/-- What begins or ends a document closes everything that is open. -/
def closeDocument (lexer : Lexer) : Except DocumentFault Lexer := do
  return { ← (lexer.closeBlocks (-1)).dropCandidate with keyAllowed := false }

def readMarker (lexer : Lexer) (token : Token) : Except DocumentFault Lexer := do
  let lexer ← lexer.closeDocument
  return { lexer with cursor := lexer.cursor.skip 3 }.push token

def openFlow (lexer : Lexer) (token : Token) : Except DocumentFault Lexer := do
  let lexer ← lexer.noteCandidate
  return { lexer with
    candidate := none
    outerCandidates := lexer.candidate :: lexer.outerCandidates
    keyAllowed := true }.take token

def closeFlow (lexer : Lexer) (token : Token) : Except DocumentFault Lexer := do
  let lexer ← lexer.dropCandidate
  match lexer.outerCandidates with
  | [] => .error .malformed
  | candidate :: outerCandidates =>
      return { lexer with candidate, outerCandidates, keyAllowed := false }.take token

def readFlowEntry (lexer : Lexer) : Except DocumentFault Lexer := do
  return { ← lexer.dropCandidate with keyAllowed := true }.take .flowEntry

def readBlockEntry (lexer : Lexer) : Except DocumentFault Lexer := do
  let lexer ← (← lexer.openEntry .blockSequenceStart).dropCandidate
  return { lexer with keyAllowed := true }.take .blockEntry

def readKey (lexer : Lexer) : Except DocumentFault Lexer := do
  let lexer ← (← lexer.openEntry .blockMappingStart).dropCandidate
  return { lexer with keyAllowed := !lexer.inFlow }.take .key

/-- Reads the colon behind a key. If the key has no question mark, its token is
inserted now. -/
def readValue (lexer : Lexer) : Except DocumentFault Lexer := do
  match lexer.candidate with
  | some candidate =>
      let lexer := { lexer with candidate := none, keyAllowed := false }.insert
        candidate.place .key
      let lexer :=
        if lexer.inFlow then lexer
        else lexer.openBlock candidate.column candidate.place .blockMappingStart
      return lexer.take .value
  | none =>
      let lexer ← lexer.openEntry .blockMappingStart
      return { lexer with keyAllowed := !lexer.inFlow }.take .value

/-- Reads something that may begin a key and that no key can follow. -/
def readNodePart (lexer : Lexer) (reader : Scan Token) : Except DocumentFault Lexer := do
  let (token, lexer) ← (← lexer.noteCandidate).scan reader
  return { lexer with keyAllowed := false }.push token

def readBlockScalar (lexer : Lexer) (folding : Bool) : Except DocumentFault Lexer := do
  let (text, lexer) ← (← lexer.dropCandidate).scan (blockScalar folding lexer.indent)
  return { lexer with keyAllowed := true }.push (.scalar text false)

def readPlain (lexer : Lexer) : Except DocumentFault Lexer := do
  let reader := plainScalar lexer.inFlow (lexer.indent + 1)
  let ((text, newLine), lexer) ← (← lexer.noteCandidate).scan reader
  return { lexer with keyAllowed := newLine }.push (.scalar text true)

def readToken (lexer : Lexer) (first : Char) : Except DocumentFault Lexer :=
  let cursor := lexer.cursor
  let second := cursor.rest[1]?
  let atStart := cursor.column = 0
  if first = '%' && atStart then do
    let (directive, lexer) ← (← lexer.closeDocument).scan readDirective
    return lexer.push (.directive directive)
  else if first = '-' && atStart && cursor.atMarker then lexer.readMarker .documentStart
  else if first = '.' && atStart && cursor.atMarker then lexer.readMarker .documentEnd
  else if first = '[' then lexer.openFlow .flowSequenceStart
  else if first = '\x7b' then lexer.openFlow .flowMappingStart
  else if first = ']' then lexer.closeFlow .flowSequenceEnd
  else if first = '\x7d' then lexer.closeFlow .flowMappingEnd
  else if first = ',' then lexer.readFlowEntry
  else if first = '-' && endsWord second then lexer.readBlockEntry
  else if first = '?' && (lexer.inFlow || endsWord second) then lexer.readKey
  else if first = ':' && (lexer.inFlow || endsWord second) then lexer.readValue
  else if first = '*' then lexer.readNodePart (Token.alias <$> anchorName)
  else if first = '&' then lexer.readNodePart (Token.anchor <$> anchorName)
  else if first = '!' then lexer.readNodePart (Token.tag <$> tagMark)
  else if first = '|' && !lexer.inFlow then lexer.readBlockScalar false
  else if first = '>' && !lexer.inFlow then lexer.readBlockScalar true
  else if first = '\x27' || first = '"' then
    lexer.readNodePart ((Token.scalar · false) <$> quotedScalar first)
  else if startsPlain lexer.inFlow first second then lexer.readPlain
  else .error .malformed

def step (lexer : Lexer) : Except DocumentFault (Bool × Lexer) := do
  let lexer ← lexer.skipByteOrderMark.skipBlank (lexer.cursor.size + 1)
  let lexer ← lexer.dropStale
  let lexer := lexer.closeBlocks lexer.cursor.column
  match lexer.cursor.rest with
  | [] => return (false, ← lexer.closeDocument)
  | first :: _ => return (true, ← lexer.readToken first)

/-- How many tokens are certain. What follows them still waits for a key to be
inserted in front of it, as long as the text has not gone too far from there. -/
def certain (lexer : Lexer) : Nat :=
  let candidates := (lexer.candidate :: lexer.outerCandidates).filterMap id
  let waiting := candidates.filter fun candidate => !isStale lexer.cursor candidate
  waiting.foldl (fun certain candidate => min certain candidate.place) lexer.count

/-- Ends with a fault behind the tokens that are certain, since the text has to
be read on before any other token can be told. -/
def fail (lexer : Lexer) (fault : DocumentFault) : List Token :=
  .fault fault :: lexer.reversed.drop (lexer.count - lexer.certain)

/-- The tokens from here to the end, all of them the last one first. -/
def run : Nat → Lexer → List Token
  | 0, lexer => lexer.fail .malformed
  | fuel + 1, lexer =>
      match lexer.step with
      | .error fault => lexer.fail fault
      | .ok (true, lexer) => run fuel lexer
      | .ok (false, lexer) => lexer.reversed

end Lexer

def tokens (text : List Char) : List Token :=
  (Lexer.run (text.length + 1) (Lexer.start text)).reverse

end Foragers.Document

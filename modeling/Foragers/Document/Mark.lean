import Foragers.Document.Quoted
import Foragers.Document.Token

namespace Foragers.Document

/-! Directives, and the anchors, aliases and tags of nodes. -/

def markName : Scan String := do
  let name ← Scan.takeWhile isNameCharacter
  if name.isEmpty then Scan.malformed else return String.ofList name

def endsAnchor (character : Option Char) : Bool :=
  endsWord character || character.any "?:,]\x7d%@\x60".toList.contains

def anchorName : Scan String := do
  Scan.skip 1
  let name ← markName
  Scan.expect endsAnchor
  return name

def isTagCharacter (character : Char) : Bool :=
  character.isAlphanum || "-;/?:@&=+$,_.!~*'()[]%".toList.contains character

/-- Reads bytes that are written as a percent sign and two hexadecimal digits each. -/
def percentBytes : Nat → Scan (List UInt8)
  | 0 => Scan.malformed
  | fuel + 1 => do
      if (← Scan.peek) = some '%' then
        Scan.skip 1
        let code ← hexCode 2
        return code.toUInt8 :: (← percentBytes fuel)
      else return []

/-- Reads the text of a tag. Escaped bytes must make up characters. -/
def tagTextFrom : Nat → Scan (List Char)
  | 0 => Scan.malformed
  | fuel + 1 => do
      match ← Scan.peek with
      | none => return []
      | some character =>
          if character = '%' then
            let bytes ← percentBytes (← Scan.fuel)
            match String.fromUTF8? ⟨bytes.toArray⟩ with
            | none => Scan.malformed
            | some text => return text.toList ++ (← tagTextFrom fuel)
          else if isTagCharacter character then
            Scan.skip 1
            return character :: (← tagTextFrom fuel)
          else return []

def tagText : Scan String := do
  let isTag := (← Scan.peek).any isTagCharacter
  if isTag then return String.ofList (← tagTextFrom (← Scan.fuel)) else Scan.malformed

/-- Reads a handle, which is an exclamation mark or a name between two of them. -/
def tagHandle : Scan String := do
  Scan.expect (· = some '!')
  Scan.skip 1
  if (← Scan.peek) = some ' ' then return "!"
  else
    let name ← Scan.takeWhile isNameCharacter
    Scan.expect (· = some '!')
    Scan.skip 1
    return "!" ++ String.ofList name ++ "!"

def wordHasHandle (rest : List Char) : Bool :=
  (rest.takeWhile fun character => !endsName (some character)).contains '!'

def tagMark : Scan TagMark := do
  let rest ← Scan.rest
  let afterMark := rest.drop 1
  let mark ←
    if afterMark.head? = some '<' then do
      Scan.skip 2
      let tag ← tagText
      Scan.expect (· = some '>')
      Scan.skip 1
      pure (TagMark.full tag)
    else if endsWord afterMark.head? then do
      Scan.skip 1
      pure (TagMark.full "!")
    else if wordHasHandle afterMark then do
      let handle ← tagHandle
      pure (TagMark.short handle (← tagText))
    else do
      Scan.skip 1
      pure (TagMark.short "!" (← tagText))
  Scan.expect endsName
  return mark

def directiveNumber : Scan Nat := do
  let digits ← Scan.takeWhile Char.isDigit
  if digits.isEmpty then Scan.malformed
  else if Text.digitLimit < digits.length then throw .tooManyDigits
  else return Text.wholeNumber digits

def readDirective : Scan Directive := do
  Scan.skip 1
  let name ← markName
  Scan.expect endsName
  let directive ←
    if name = "YAML" then do
      Scan.skipWhile (· = ' ')
      let major ← directiveNumber
      Scan.expect (· = some '.')
      Scan.skip 1
      let minor ← directiveNumber
      Scan.expect endsName
      pure (Directive.version major minor)
    else if name = "TAG" then do
      Scan.skipWhile (· = ' ')
      let handle ← tagHandle
      Scan.expect (· = some ' ')
      Scan.skipWhile (· = ' ')
      let beginning ← tagText
      Scan.expect endsName
      pure (Directive.handle handle beginning)
    else do
      Scan.skipWhile fun character => !isBreak character
      pure Directive.unknown
  Scan.finishLine
  return directive

end Foragers.Document

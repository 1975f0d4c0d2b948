import Foragers.Document.Implicit
import Foragers.Document.Node
import Foragers.Document.Token

namespace Foragers.Document

/-! Building the graph of a document from its tokens. -/

structure Builder where
  tokens : List Token
  nodes : Array Node
  anchors : List (String × Nat)
  /-- What the handles of tags stand for. -/
  handles : List (String × String)

abbrev Build := StateT Builder (Except DocumentFault)

namespace Build

def malformed {α : Type} : Build α := throw .malformed

/-- The next token, if there is one. Text that could not be split into tokens
is only met when it is reached. -/
def peek : Build (Option Token) := do
  match (← get).tokens with
  | [] => return none
  | .fault fault :: _ => throw fault
  | token :: _ => return some token

def skip : Build Unit :=
  modify fun builder => { builder with tokens := builder.tokens.tail }

def skipIf (token : Token) : Build Bool := do
  if (← peek) = some token then
    skip
    return true
  else return false

def expect (token : Token) : Build Unit := do
  unless ← skipIf token do malformed

def nextIsOneOf (tokens : List Token) : Build Bool := do
  return (← peek).any tokens.contains

def add (node : Node) : Build Nat := do
  let number := (← get).nodes.size
  modify fun builder => { builder with nodes := builder.nodes.push node }
  return number

/-- Lets an anchor name a node. No name is given twice. -/
def name (anchor : Option String) (number : Nat) : Build Unit := do
  match anchor with
  | none => return
  | some name =>
      if ((← get).anchors.lookup name).isSome then malformed
      else modify fun builder =>
        { builder with anchors := (name, number) :: builder.anchors }

/-- Adds a collection, which its own parts may refer to, and then its parts. -/
def addCollection {α : Type} (anchor : Option String) (node : α → Node) (unread : α)
    (parts : Build α) : Build Nat := do
  let number ← add (node unread)
  name anchor number
  let read ← parts
  modify fun builder =>
    { builder with nodes := builder.nodes.setIfInBounds number (node read) }
  return number

def addEmpty : Build Nat := add .empty

end Build

/-- A tag in full. The single exclamation mark stays as it is. -/
def TagMark.resolve : TagMark → Build String
  | full tag => return tag
  | short handle rest => do
      match (← get).handles.lookup handle with
      | some beginning => return beginning ++ rest
      | none => Build.malformed

structure Properties where
  anchor : Option String
  tag : Option String

def Properties.untagged (properties : Properties) : Bool :=
  properties.tag.all (· = "!")

def Properties.tagOr (properties : Properties) (tag : Tag) : Tag :=
  if properties.untagged then tag else properties.tag.elim tag Tag.ofText

def readAnchor : Build (Option String) := do
  match ← Build.peek with
  | some (.anchor name) =>
      Build.skip
      return some name
  | _ => return none

def readTag : Build (Option TagMark) := do
  match ← Build.peek with
  | some (.tag mark) =>
      Build.skip
      return some mark
  | _ => return none

def readProperties : Build Properties := do
  let early ← readAnchor
  let mark ← readTag
  let late ← if early.isSome || mark.isNone then pure none else readAnchor
  let tag ← match mark with
    | none => pure none
    | some mark => pure (some (← mark.resolve))
  return ⟨early <|> late, tag⟩

/-- The tag of a scalar that is written in some way. Only quotes keep the
content of an untagged scalar from saying what it is. -/
def Properties.scalarTag (properties : Properties) (text : String) (plain : Bool) : Tag :=
  if plain || properties.tag.isSome then properties.tagOr (Tag.ofPlain text) else .text

/-- Where a node is read, which says what collections may be there. -/
inductive Place where
  | flow
  | block
  /-- The key or value of a block mapping: a sequence needs no further
  indentation there. -/
  | entry
  deriving DecidableEq, Repr

mutual

def readNode : Nat → Place → Build Nat
  | 0, _ => Build.malformed
  | fuel + 1, place => do
      match ← Build.peek with
      | some (.alias name) =>
          Build.skip
          match (← get).anchors.lookup name with
          | some number => return number
          | none => Build.malformed
      | _ =>
          let properties ← readProperties
          readContent fuel place properties

/-- Reads the content of a node behind its anchor and tag, if there is any. -/
def readContent : Nat → Place → Properties → Build Nat
  | 0, _, _ => Build.malformed
  | fuel + 1, place, properties => do
      let addSequence := Build.addCollection properties.anchor
        (Node.sequence (properties.tagOr .sequence)) []
      let addMapping := Build.addCollection properties.anchor
        (Node.mapping (properties.tagOr .mapping)) []
      let next ← Build.peek
      match next, place with
      | some .blockEntry, .entry => addSequence (readEntryItems fuel)
      | some (.scalar text plain), _ =>
          Build.skip
          let number ← Build.add (.scalar (properties.scalarTag text plain) text)
          Build.name properties.anchor number
          return number
      | some .flowSequenceStart, _ =>
          Build.skip
          addSequence (readFlowItems fuel true)
      | some .flowMappingStart, _ =>
          Build.skip
          addMapping (readFlowEntries fuel true)
      | some .blockSequenceStart, .block | some .blockSequenceStart, .entry =>
          Build.skip
          addSequence (readBlockItems fuel)
      | some .blockMappingStart, .block | some .blockMappingStart, .entry =>
          Build.skip
          addMapping (readBlockEntries fuel)
      | _, _ =>
          if properties.anchor.isSome || properties.tag.isSome then
            let number ← Build.add (.scalar (properties.tagOr .null) "")
            Build.name properties.anchor number
            return number
          else Build.malformed

def readNodeUnless : Nat → Place → List Token → Build Nat
  | 0, _, _ => Build.malformed
  | fuel + 1, place, tokens => do
      if ← Build.nextIsOneOf tokens then Build.addEmpty else readNode fuel place

def readBlockItems : Nat → Build (List Nat)
  | 0 => Build.malformed
  | fuel + 1 => do
      if ← Build.skipIf .blockEntry then
        let item ← readNodeUnless fuel .block [.blockEntry, .blockEnd]
        return item :: (← readBlockItems fuel)
      else
        Build.expect .blockEnd
        return []

/-- Reads the items of a sequence that is not indented further than the mapping
around it. -/
def readEntryItems : Nat → Build (List Nat)
  | 0 => Build.malformed
  | fuel + 1 => do
      if ← Build.skipIf .blockEntry then
        let item ← readNodeUnless fuel .block [.blockEntry, .key, .value, .blockEnd]
        return item :: (← readEntryItems fuel)
      else return []

def readBlockEntries : Nat → Build (List (Nat × Nat))
  | 0 => Build.malformed
  | fuel + 1 => do
      if ← Build.skipIf .key then
        let key ← readNodeUnless fuel .entry [.key, .value, .blockEnd]
        let value ←
          if ← Build.skipIf .value then readNodeUnless fuel .entry [.key, .value, .blockEnd]
          else Build.addEmpty
        return (key, value) :: (← readBlockEntries fuel)
      else
        Build.expect .blockEnd
        return []

/-- Reads the key and the value of an entry behind its question mark, in a flow
collection with the given end. -/
def readFlowEntry : Nat → Token → Build (Nat × Nat)
  | 0, _ => Build.malformed
  | fuel + 1, last => do
      let key ← readNodeUnless fuel .flow [.value, .flowEntry, last]
      let value ←
        if ← Build.skipIf .value then readNodeUnless fuel .flow [.flowEntry, last]
        else Build.addEmpty
      return (key, value)

/-- Reads the items of a flow sequence. An item with a key is a mapping. -/
def readFlowItems : Nat → Bool → Build (List Nat)
  | 0, _ => Build.malformed
  | fuel + 1, first => do
      if ← Build.skipIf .flowSequenceEnd then return []
      unless first do Build.expect .flowEntry
      if ← Build.skipIf .flowSequenceEnd then return []
      let item ←
        if ← Build.skipIf .key then
          Build.addCollection none (Node.mapping .mapping) [] do
            return [← readFlowEntry fuel .flowSequenceEnd]
        else readNode fuel .flow
      return item :: (← readFlowItems fuel false)

/-- Reads the entries of a flow mapping. A node without a colon is a key too. -/
def readFlowEntries : Nat → Bool → Build (List (Nat × Nat))
  | 0, _ => Build.malformed
  | fuel + 1, first => do
      if ← Build.skipIf .flowMappingEnd then return []
      unless first do Build.expect .flowEntry
      if ← Build.skipIf .flowMappingEnd then return []
      let entry ←
        if ← Build.skipIf .key then readFlowEntry fuel .flowMappingEnd
        else do
          let key ← readNode fuel .flow
          pure (key, ← Build.addEmpty)
      return entry :: (← readFlowEntries fuel false)

end

def standardHandles : List (String × String) :=
  [("!", "!"), ("!!", Tag.standard)]

/-- Reads the directives of a document. The version is given at most once and
is some version of 1; no handle is given twice. -/
def readDirectives (versioned : Bool) : Nat → List (String × String) →
    Build (List (String × String))
  | 0, _ => Build.malformed
  | fuel + 1, handles => do
      match ← Build.peek with
      | some (.directive directive) =>
          Build.skip
          match directive with
          | .version major _ =>
              if versioned || major ≠ 1 then Build.malformed
              else readDirectives true fuel handles
          | .handle name beginning =>
              if (handles.lookup name).isSome then Build.malformed
              else readDirectives versioned fuel ((name, beginning) :: handles)
          | .unknown => readDirectives versioned fuel handles
      | _ => return handles

def skipDocumentEnds : Nat → Build Unit
  | 0 => Build.malformed
  | fuel + 1 => do
      if ← Build.skipIf .documentEnd then skipDocumentEnds fuel

def nextIsDirective : Build Bool := do
  match ← Build.peek with
  | some (.directive _) => return true
  | _ => return false

/-- Reads the root of a document that a mark starts, directives coming first. -/
def readMarkedRoot (fuel : Nat) : Build Unit := do
  let handles ← readDirectives false fuel []
  modify fun builder => { builder with handles := handles ++ standardHandles }
  Build.expect .documentStart
  let isEmpty := (← Build.peek).isNone || (← nextIsDirective) ||
    (← Build.nextIsOneOf [.documentStart, .documentEnd])
  let _ ← if isEmpty then Build.addEmpty else readNode fuel .block

/-- Fails unless the text ends here. The directives of a further document are
still read. -/
def expectEnd (fuel : Nat) : Build Unit := do
  unless (← Build.peek).isNone do
    let _ ← readDirectives false fuel []
    Build.malformed

/-- Reads the one document of a text. A text without any document has an empty one. -/
def readDocument (fuel : Nat) : Build Unit := do
  if (← Build.peek).isNone then
    let _ ← Build.addEmpty
  else
    let isMarked := (← nextIsDirective) || (← Build.nextIsOneOf [.documentStart])
    if isMarked then readMarkedRoot fuel
    else
      let _ ← readNode fuel .block
    skipDocumentEnds fuel
    expectEnd fuel

def ofTokens (tokens : List Token) : Except DocumentFault Document := do
  let builder : Builder := ⟨tokens, #[], [], standardHandles⟩
  let (_, builder) ← (readDocument (4 * tokens.length + 4)).run builder
  return ⟨builder.nodes⟩

end Foragers.Document

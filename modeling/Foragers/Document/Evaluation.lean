import Foragers.Document.Content
import Foragers.Document.Merge

namespace Foragers.Document

/-! The values of all nodes of a document. A collection has its value as soon as
it is met, and its parts have theirs later on, level by level. A value that is
once known stays, even if the graph changes. -/

structure Evaluation where
  document : Document
  /-- The values that are known. -/
  contents : Array (Option Content)
  /-- The collections whose parts have no values yet, the last one first. -/
  waiting : List Nat

abbrev Evaluate := StateT Evaluation (Except DocumentFault)

namespace Evaluation

def start (document : Document) : Evaluation where
  document := document
  contents := Array.replicate document.nodes.size none
  waiting := []

def content? (evaluation : Evaluation) (number : Nat) : Option Content :=
  evaluation.contents.getD number none

/-- Keeps a value; the parts of a collection are still to come. -/
def note (evaluation : Evaluation) (number : Nat) (content : Content) : Evaluation :=
  { evaluation with
    contents := evaluation.contents.setIfInBounds number (some content)
    waiting :=
      if content.isCollection then number :: evaluation.waiting else evaluation.waiting }

end Evaluation

namespace Evaluate

/-- The value of a node, which is found only once. -/
def node (number : Nat) : Evaluate Content := do
  match (← get).content? number with
  | some content => return content
  | none =>
      let content ← (← get).document.contentAt number
      modify (·.note number content)
      return content

/-- The value of a key, which is no collection. -/
def key (number : Nat) : Evaluate Unit := do
  if (← node number).isCollection then throw .malformed

/-- Resolves the merge keys of a mapping, which changes the document. -/
def resolveMerges (number : Nat) : Evaluate Unit := do
  let (_, document) ← (merge number).run (← get).document
  modify fun evaluation => { evaluation with document }

def mapping (number : Nat) : Evaluate Unit := do
  if !(← get).document.isMapping number then throw .malformed
  resolveMerges number
  ((← get).document.entriesAt number).forM fun entry => do
    key entry.1
    let _ ← node entry.2

def items (number : Nat) : Evaluate (List Nat) := do
  match (← get).document.nodeAt number with
  | .sequence _ items => return items
  | _ => throw .malformed

/-- Evaluates an item of an ordered mapping, which is a mapping with one entry. -/
def pair (number : Nat) : Evaluate Unit := do
  match (← get).document.nodeAt number with
  | .mapping _ [(first, second)] =>
      let _ ← node first
      let _ ← node second
  | _ => throw .malformed

def parts (number : Nat) : Evaluate Unit := do
  match (← get).document.tagAt number with
  | .sequence => (← items number).forM fun item => do
      let _ ← node item
  | .orderedMapping | .pairs => (← items number).forM pair
  | .mapping | .set => mapping number
  | _ => return

/-- Evaluates the parts of all collections that wait, and what is met on the way.
A collection waits only once, so the nodes are fuel enough. -/
def rest : Nat → Evaluate Unit
  | 0 => return
  | fuel + 1 => do
      let waiting := (← get).waiting
      unless waiting.isEmpty do
        modify fun evaluation => { evaluation with waiting := [] }
        waiting.reverse.forM parts
        rest fuel

end Evaluate

def evaluate (document : Document) : Except DocumentFault Evaluation := do
  let evaluating : Evaluate Unit := do
    let _ ← Evaluate.node root
    Evaluate.rest (document.nodes.size + 1)
  let (_, evaluation) ← evaluating.run (Evaluation.start document)
  return evaluation

namespace Evaluation

/-- The value of a node, nodes that were not met being empty. -/
def contentAt (evaluation : Evaluation) (number : Nat) : Content :=
  (evaluation.content? number).getD .null

def root (evaluation : Evaluation) : Content :=
  evaluation.contentAt Document.root

def entries (evaluation : Evaluation) : List (Content × Content) :=
  (evaluation.document.entriesAt Document.root).map fun entry =>
    (evaluation.contentAt entry.1, evaluation.contentAt entry.2)

def isEmpty (evaluation : Evaluation) : Bool :=
  match evaluation.document.nodeAt Document.root with
  | .scalar _ _ => true
  | .sequence _ items => items.isEmpty
  | .mapping _ entries => entries.isEmpty

end Evaluation

end Foragers.Document

import Foragers.Document.Fault
import Foragers.Document.Node

namespace Foragers.Document

/-! Mappings that take over the entries of others. An entry with the merge key
names one mapping or several; the entries of these come first, and the merge key
is gone. The graph itself changes, so every alias of the mapping sees it. -/

abbrev Merging := StateT Document (Except DocumentFault)

/-- The entries of a mapping at the moment; other nodes have none. -/
def entriesAt (document : Document) (number : Nat) : List (Nat × Nat) :=
  match document.nodeAt number with
  | .mapping _ entries => entries
  | _ => []

def setNode (document : Document) (number : Nat) (node : Node) : Document :=
  { document with nodes := document.nodes.setIfInBounds number node }

def setEntries (document : Document) (number : Nat) (entries : List (Nat × Nat)) : Document :=
  document.setNode number (.mapping (document.tagAt number) entries)

def settleKey (document : Document) (number : Nat) : Document :=
  if document.tagAt number = .value then
    document.setNode number ((document.nodeAt number).withTag .text)
  else document

def settleKeys (document : Document) (entries : List (Nat × Nat)) : Document :=
  entries.foldl (fun document entry => document.settleKey entry.1) document

def isMerge (document : Document) (entry : Nat × Nat) : Bool :=
  document.tagAt entry.1 = .merge

def isMapping (document : Document) (number : Nat) : Bool :=
  match document.nodeAt number with
  | .mapping _ _ => true
  | _ => false

def sourcesAt (document : Document) (number : Nat) : Except DocumentFault (List Nat) :=
  let sources :=
    match document.nodeAt number with
    | .sequence _ items => items
    | _ => [number]
  if sources.all document.isMapping then .ok sources else .error .malformed

/-- Gives a mapping the entries that its merge keys name, in front of its own and
behind those that were taken over before. Of several mappings behind one key the
last one comes first. Every step removes a merge key from the document, so there
are as many steps at most, even where a mapping names itself. -/
def mergeFrom : Nat → Nat → List (Nat × Nat) → Merging Unit
  | 0, _, _ => throw .malformed
  | fuel + 1, number, taken => do
      let document ← get
      let entries := document.entriesAt number
      match entries.find? document.isMerge with
      | none => set ((document.settleKeys entries).setEntries number (taken ++ entries))
      | some entry =>
          let sources ← document.sourcesAt entry.2
          set (document.setEntries number (entries.erase entry))
          let found ← sources.mapM fun source => do
            mergeFrom fuel source []
            return (← get).entriesAt source
          mergeFrom fuel number (taken ++ found.reverse.flatten)

def mergeCount (document : Document) : Nat :=
  (List.range document.nodes.size).foldl
    (fun count number => count + (document.entriesAt number).countP document.isMerge) 0

/-- Resolves the merge keys of a mapping and of all mappings that they name. -/
def merge (number : Nat) : Merging Unit := do
  let document ← get
  let merges := (document.entriesAt number).any document.isMerge
  mergeFrom (if merges then document.mergeCount + 1 else 1) number []

end Foragers.Document

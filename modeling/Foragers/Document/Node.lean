import Foragers.Document.Tag

namespace Foragers.Document

/-! Documents as graphs of nodes. Nodes are numbered in the order in which they
begin. An alias is one more edge to the node that it names, so the graph may
have cycles. -/

inductive Node where
  | scalar (tag : Tag) (text : String)
  | sequence (tag : Tag) (items : List Nat)
  | mapping (tag : Tag) (entries : List (Nat × Nat))
  deriving DecidableEq, Repr

def Node.tag : Node → Tag
  | scalar tag _ => tag
  | sequence tag _ => tag
  | mapping tag _ => tag

def Node.withTag (tag : Tag) : Node → Node
  | scalar _ text => scalar tag text
  | sequence _ items => sequence tag items
  | mapping _ entries => mapping tag entries

def Node.empty : Node := .scalar .null ""

end Foragers.Document

namespace Foragers

/-- The nodes of a document, the first one being the root. -/
structure Document where
  nodes : Array Document.Node

namespace Document

def root : Nat := 0

def nodeAt (document : Document) (number : Nat) : Node :=
  document.nodes.getD number .empty

def tagAt (document : Document) (number : Nat) : Tag :=
  (document.nodeAt number).tag

end Document

end Foragers

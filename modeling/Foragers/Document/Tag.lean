namespace Foragers.Document

/-! The kinds of nodes that tags tell apart. -/

inductive Tag where
  | null
  | boolean
  | integer
  | decimal
  | binary
  | timestamp
  | text
  | sequence
  | mapping
  | set
  | orderedMapping
  | pairs
  /-- The key of entries that are taken over from other mappings. -/
  | merge
  /-- The key of the entry that stands for its mapping where a scalar is due. -/
  | value
  | unknown
  deriving DecidableEq, Repr

namespace Tag

def standard : String := "tag:yaml.org,2002:"

def ofText (text : String) : Tag :=
  let names : List (String × Tag) := [
    ("null", null), ("bool", boolean), ("int", integer), ("float", decimal),
    ("binary", binary), ("timestamp", timestamp), ("str", Tag.text), ("seq", sequence),
    ("map", mapping), ("set", set), ("omap", orderedMapping), ("pairs", pairs),
    ("merge", merge), ("value", value)]
  (names.findSome? fun (name, tag) => if standard ++ name = text then some tag else none).getD
    unknown

end Tag

end Foragers.Document

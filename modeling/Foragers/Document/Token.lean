import Foragers.Document.Fault

namespace Foragers.Document

/-! The tokens that the text of a document is made of. Indentation shows in them
as the start and the end of block collections. -/

inductive TagMark where
  /-- The tag in full. -/
  | full (tag : String)
  /-- A handle that stands for the beginning of the tag, and the rest of it. -/
  | short (handle rest : String)
  deriving DecidableEq, Repr

inductive Directive where
  | version (major minor : Nat)
  /-- What the handle of a tag stands for. -/
  | handle (name beginning : String)
  | unknown
  deriving DecidableEq, Repr

inductive Token where
  | directive (directive : Directive)
  | documentStart
  | documentEnd
  | blockSequenceStart
  | blockMappingStart
  | blockEnd
  /-- The hyphen in front of an item. -/
  | blockEntry
  | flowSequenceStart
  | flowSequenceEnd
  | flowMappingStart
  | flowMappingEnd
  /-- The comma between two items. -/
  | flowEntry
  | key
  | value
  | alias (name : String)
  | anchor (name : String)
  | tag (mark : TagMark)
  | scalar (text : String) (plain : Bool)
  /-- The text cannot be read any further. -/
  | fault (fault : DocumentFault)
  deriving DecidableEq, Repr

end Foragers.Document

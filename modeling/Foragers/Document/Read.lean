import Foragers.Document.Builder
import Foragers.Document.Evaluation
import Foragers.Document.Lexer
import Foragers.Settings.Document
import Foragers.Text.Line

namespace Foragers.Document

/-! The reader of documents: from text to the entries of a mapping. -/

/-- The document that a text holds. All line ends are the same to it. -/
def ofText (text : String) : Except DocumentFault Document :=
  let characters := Text.unifyLineEnds text.toList
  if characters.all isAllowed then ofTokens (tokens characters) else .error .malformed

/-- The raw value that a parameter is given. Collections and timestamps are of
no use to any parameter. -/
def Content.value : Content → Value
  | null => .null
  | boolean value => .boolean value
  | integer value => .integer value
  | decimal value => .decimal value
  | bytes value => .bytes value
  | text value => .text value
  | timestamp _ | list | mapping | set => .other

namespace Evaluation

def isVoid (evaluation : Evaluation) : Bool :=
  match evaluation.root with
  | .null => true
  | .boolean value => !value
  | .integer value => value = 0
  | .decimal value => value.isZero
  | .bytes value => value.isEmpty
  | .text value => value.isEmpty
  | .timestamp _ => false
  | .list | .mapping | .set => evaluation.isEmpty

/-- The entries of a document, if it is a mapping. A void document is an empty
mapping. -/
def mappingEntries? (evaluation : Evaluation) : Option (List DocumentEntry) :=
  if evaluation.isVoid then some []
  else if evaluation.root = .mapping then
    some (evaluation.entries.map fun (key, content) =>
      ⟨key.name, key.isWritable, content.value⟩)
  else none

end Evaluation

def reader : DocumentReader := fun text => do
  let evaluation ← ofText text >>= evaluate
  return evaluation.mappingEntries?

end Foragers.Document

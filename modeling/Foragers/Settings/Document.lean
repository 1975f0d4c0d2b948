import Foragers.Document.Fault
import Foragers.Settings.Error
import Foragers.Settings.Value

namespace Foragers

/-! Settings in a document: what is asked of a reader of documents, and what its entries
mean. -/

/-- An entry of a document that is a mapping. -/
structure DocumentEntry where
  /-- The key as text. -/
  name : String
  /-- Whether the key can be written as a name. Integers may have too many digits. -/
  isWritable : Bool
  value : Value

/-- Finds the entries of a document in its text, if the document is a mapping. -/
abbrev DocumentReader := String → Except DocumentFault (Option (List DocumentEntry))

/-- Gives a value to a name. A name that has one already stays where it is. -/
def assignValue (entry : String × Value) : List (String × Value) → List (String × Value)
  | [] => [entry]
  | first :: rest =>
      if first.1 = entry.1 then entry :: rest else first :: assignValue entry rest

/-- Named values, of which the last one with a name counts. -/
def namedValues (entries : List DocumentEntry) : List (String × Value) :=
  entries.foldl (fun assigned entry => assignValue (entry.name, entry.value) assigned) []

/-- Whether an error can be told: the name in it, if it has one, is that of a key
that can be written. -/
def SettingsError.isWritable (error : SettingsError) (entries : List DocumentEntry) : Bool :=
  match error with
  | .incorrect (.unknownName name) _ =>
      match entries.find? fun entry => entry.name = name with
      | some entry => entry.isWritable
      | none => true
  | _ => true

end Foragers

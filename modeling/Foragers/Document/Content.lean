import Foragers.Binary64.Shortest
import Foragers.Document.Base64
import Foragers.Document.Implicit
import Foragers.Document.Node
import Foragers.Document.Number
import Foragers.Text.Quoted

namespace Foragers.Document

/-! The values that the nodes of a document stand for. Of a collection only its
kind is a value here; its parts are looked up in the graph. -/

inductive Content where
  | null
  | boolean (value : Bool)
  | integer (value : Int)
  | decimal (value : Binary64)
  | bytes (value : List UInt8)
  | timestamp (value : Timestamp)
  | text (value : String)
  | list
  | mapping
  | set
  deriving DecidableEq

namespace Content

/-- Whether a value has parts. Such a value cannot be the key of an entry. -/
def isCollection : Content → Bool
  | list | mapping | set => true
  | _ => false

def quotedBytes (bytes : List UInt8) : String :=
  let characters := bytes.map fun byte => Char.ofNat byte.toNat
  let mark := Text.quoteMark characters
  let escaped := characters.flatMap fun character =>
    if character.toNat < 0x7f then Text.escapeIn mark character
    else Text.escapeCode character.toNat
  String.ofList ('b' :: mark :: escaped ++ [mark])

/-- Whether a key can be written as a name. Integers may have too many digits. -/
def isWritable : Content → Bool
  | integer value => value.natAbs < Nat.pow 10 Text.digitLimit
  | _ => true

def name : Content → String
  | null => "None"
  | boolean value => if value then "True" else "False"
  | integer value => toString value
  | decimal value => value.shortest
  | bytes value => quotedBytes value
  | timestamp value => value.text
  | text value => value
  | list => "[]"
  | mapping | set => "\x7b\x7d"

end Content

def booleanOf (text : String) : Except DocumentFault Bool :=
  match booleanNames.idxOf? text.toLower with
  | some index => .ok (index % 2 = 0)
  | none => .error .notBoolean

def timestampOf (text : String) : Except DocumentFault Timestamp :=
  match Timestamp.read? text.toList with
  | none => .error .notTimestamp
  | some timestamp => if timestamp.isOnCalendar then .ok timestamp else .error .noSuchTime

/-- The text of a scalar. An entry whose key is tagged as the value lends its
text to a mapping. -/
def textAt (document : Document) : Nat → Nat → Except DocumentFault String
  | 0, _ => .error .endless
  | fuel + 1, number =>
      match document.nodeAt number with
      | .scalar _ text => .ok text
      | .sequence _ _ => .error .malformed
      | .mapping _ entries =>
          match entries.find? fun entry => document.tagAt entry.1 = .value with
          | some (_, value) => textAt document fuel value
          | none => .error .malformed

/-- The same; the mappings on the way to the text can be no more than the nodes. -/
def scalarAt (document : Document) (number : Nat) : Except DocumentFault String :=
  document.textAt (document.nodes.size + 1) number

/-- A point in time. No mapping can stand for one. -/
def timestampAt (document : Document) (number : Nat) : Except DocumentFault Timestamp := do
  let text ← document.scalarAt number
  match document.nodeAt number with
  | .scalar _ _ => timestampOf text
  | _ => .error .compositeTimestamp

def contentAt (document : Document) (number : Nat) : Except DocumentFault Content :=
  match document.tagAt number with
  | .null => do
      let _ ← document.scalarAt number
      return .null
  | .boolean => do return .boolean (← booleanOf (← document.scalarAt number))
  | .integer => do return .integer (← integerOf (← document.scalarAt number))
  | .decimal => do return .decimal (← decimalOf (← document.scalarAt number))
  | .binary => do
      match base64? (← document.scalarAt number).toList with
      | some bytes => return .bytes bytes
      | none => .error .malformed
  | .timestamp => do return .timestamp (← document.timestampAt number)
  | .text => do return .text (← document.scalarAt number)
  | .sequence | .orderedMapping | .pairs => .ok .list
  | .mapping => .ok .mapping
  | .set => .ok .set
  | .merge | .value | .unknown => .error .malformed

end Foragers.Document

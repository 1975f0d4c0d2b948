import Foragers.Text.Numeral

namespace Foragers

/-! Raw values, as a parameter may be given before its kind is looked at. -/

inductive Value where
  | null
  | boolean (value : Bool)
  | integer (value : Int)
  | decimal (value : Binary64)
  | text (value : String)
  | bytes (value : List UInt8)
  | list (items : List Value)
  /-- Any other composite value or date. -/
  | other

namespace Value

/-- Bytes as text. A byte beyond ASCII stands for no character of a number. -/
def charactersOfBytes (bytes : List UInt8) : List Char :=
  bytes.map fun byte => if byte.toNat < 128 then Char.ofNat byte.toNat else '?'

end Value

end Foragers

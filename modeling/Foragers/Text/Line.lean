namespace Foragers.Text

/-! Lines of a text. A line ends at a line feed, at a carriage return or at
both in this order, and at nothing else. -/

/-- The lines after a beginning of the current one, which is kept in reverse. -/
def linesFrom (reversed : List Char) : List Char → List (List Char)
  | [] => if reversed.isEmpty then [] else [reversed.reverse]
  | '\r' :: '\n' :: rest => reversed.reverse :: linesFrom [] rest
  | '\r' :: rest => reversed.reverse :: linesFrom [] rest
  | '\n' :: rest => reversed.reverse :: linesFrom [] rest
  | character :: rest => linesFrom (character :: reversed) rest

/-- The lines of a text without their ends. An end after the last line adds no
further line. -/
def lines (text : String) : List String :=
  (linesFrom [] text.toList).map String.ofList

def unifyLineEndsFrom (reversed : List Char) : List Char → List Char
  | [] => reversed.reverse
  | '\r' :: '\n' :: rest => unifyLineEndsFrom ('\n' :: reversed) rest
  | '\r' :: rest => unifyLineEndsFrom ('\n' :: reversed) rest
  | character :: rest => unifyLineEndsFrom (character :: reversed) rest

def unifyLineEnds (text : List Char) : List Char :=
  unifyLineEndsFrom [] text

end Foragers.Text

namespace Foragers

/-! Paths of files. Empty parts and parts that are a single dot say nothing, so
they are left out. -/

structure Path where
  /-- The slashes in front, one or two for a path that starts at the root. -/
  root : String
  parts : List String
  deriving DecidableEq, Repr

namespace Path

/-- The slashes in front of a path. Exactly two keep a meaning of their own. -/
def rootOf (text : List Char) : String :=
  match (text.takeWhile (· = '/')).length with
  | 0 => ""
  | 2 => "//"
  | _ => "/"

def ofText (text : String) : Path where
  root := rootOf text.toList
  parts := (text.splitOn "/").filter fun part => part != "" && part != "."

def text (path : Path) : String :=
  if path.root = "" && path.parts.isEmpty then "."
  else path.root ++ "/".intercalate path.parts

/-- Whether a file can have this path. The character with code zero is in none. -/
def isPossible (path : Path) : Bool :=
  !path.text.contains '\x00'

/-- A path has fewer bytes than this. -/
def sizeLimit : Nat := 4096

def isTooLong (path : Path) : Bool :=
  sizeLimit ≤ path.text.utf8ByteSize

/-- The end of a file name from its last dot on. A dot in front of a name or at
its end starts no suffix. -/
def suffix (path : Path) : String :=
  let name := (path.parts.getLast?.getD "").toList
  let extension := (name.reverse.takeWhile (· ≠ '.')).reverse
  let stem := name.length - extension.length - 1
  if extension.isEmpty || stem = 0 || !name.contains '.' then ""
  else "." ++ String.ofList extension

end Path

end Foragers

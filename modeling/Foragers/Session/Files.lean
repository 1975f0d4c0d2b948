import Foragers.Document.Read
import Foragers.Session.Path

namespace Foragers

/-! Files and what can go wrong with them. -/

inductive FileFault where
  | missing (path : Path)
  /-- A directory is where a file should be. -/
  | directory (path : Path)
  /-- A file is where a directory should be. -/
  | notDirectory (path : Path)
  | undecodable (path : Path)
  /-- The path or a name in it is longer than is possible. -/
  | tooLong (path : Path)
  /-- No file can have this path. -/
  | impossible (path : Path)
  /-- The file is there, but it may not be used in this way. -/
  | inaccessible (path : Path)
  deriving DecidableEq, Repr

namespace FileFault

def message : FileFault → String
  | missing path => s!"File not found: {path.text}"
  | directory path => s!"Is a directory: {path.text}"
  | notDirectory path => s!"Not a directory: {path.text}"
  | undecodable path => s!"Not UTF-8 text: {path.text}"
  | tooLong path => s!"File name too long: {path.text}"
  | impossible path => s!"Not a path: {path.text}"
  | inaccessible path => s!"Not accessible: {path.text}"

end FileFault

/-- What a program can do with files: read one, find out if it may write one, or find the
entries of one that is a document. -/
structure FileAccess where
  read : Path → Except FileFault ByteArray
  checkWritable : Path → Except FileFault Unit
  reader : DocumentReader

def FileAccess.readText (access : FileAccess) (path : Path) : Except FileFault String :=
  match access.read path with
  | .error fault => .error fault
  | .ok bytes =>
      match String.fromUTF8? bytes with
      | some text => .ok text
      | none => .error (.undecodable path)

/-- A directory or file, as the parts that lead to it from the top of a tree. What
lies outside of the tree begins with the steps out of it, or with a slash. -/
abbrev Location := List String

namespace Location

def isOutside (part : String) : Bool :=
  part = ".." || part = "/"

/-- Where one more part leads from a directory. Two dots lead back, out of the top
of a tree too, but at the root they lead nowhere. -/
def step (location : Location) (part : String) : Location :=
  if part ≠ ".." then location ++ [part]
  else
    match location.getLast? with
    | some "/" => location
    | none | some ".." => location ++ [part]
    | some _ => location.dropLast

def start (path : Path) : Location :=
  if path.root = "" then [] else ["/"]

end Location

/-- A tree of files, each with its location. -/
structure FileTree where
  entries : List (Location × ByteArray)

namespace FileTree

inductive Place where
  | file (content : ByteArray)
  | directory
  | missing

/-- Of what lies outside of the tree only the directories around it are known. -/
def placeAt (tree : FileTree) (location : Location) : Place :=
  if location.all Location.isOutside then .directory
  else
    match tree.entries.lookup location with
    | some content => .file content
    | none =>
        if tree.entries.any (location.isPrefixOf ·.1) then .directory else .missing

def nameLimit : Nat := 255

/-- Goes along a path, which leads through directories only. -/
def walk (tree : FileTree) (path : Path) (location : Location) :
    List String → Except FileFault Location
  | [] => .ok location
  | part :: rest =>
      match tree.placeAt location with
      | .file _ => .error (.notDirectory path)
      | .missing => .error (.missing path)
      | .directory =>
          if nameLimit < part.utf8ByteSize then .error (.tooLong path)
          else walk tree path (location.step part) rest

/-- The location of a path, which need not be there. -/
def locate (tree : FileTree) (path : Path) : Except FileFault Location :=
  if !path.isPossible then .error (.impossible path)
  else if path.isTooLong then .error (.tooLong path)
  else tree.walk path (Location.start path) path.parts

def find (tree : FileTree) (path : Path) : Except FileFault Place := do
  return tree.placeAt (← tree.locate path)

def read (tree : FileTree) (path : Path) : Except FileFault ByteArray := do
  match ← tree.find path with
  | .file content => .ok content
  | .directory => .error (.directory path)
  | .missing => .error (.missing path)

/-- A file can be written where there is one or where there is its directory. -/
def checkWritable (tree : FileTree) (path : Path) : Except FileFault Unit := do
  match ← tree.find path with
  | .file _ | .missing => .ok ()
  | .directory => .error (.directory path)

def access (tree : FileTree) : FileAccess where
  read := tree.read
  checkWritable := tree.checkWritable
  reader := Document.reader

def write (tree : FileTree) (path : Path) (content : ByteArray) : FileTree where
  entries := (path.parts.foldl Location.step (Location.start path), content) :: tree.entries

end FileTree

end Foragers

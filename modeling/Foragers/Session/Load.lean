import Foragers.Board.Drawing
import Foragers.Session.Files
import Foragers.Settings.Document
import Foragers.Settings.Load
import Foragers.Text.Decoding

namespace Foragers

/-! Settings and boards from files. -/

inductive LoadFault where
  | file (fault : FileFault)
  | document (fault : DocumentFault)
  | settings (error : SettingsError)
  | board (error : BoardError)
  deriving DecidableEq, Repr

namespace LoadFault

def message : LoadFault → String
  | file fault => fault.message
  | document fault => fault.message
  | settings error => error.message
  | board error => error.message

end LoadFault

def Path.isDocument (path : Path) : Bool :=
  path.suffix = ".yaml" || path.suffix = ".yml"

/-- That a document is malformed is a fault of the settings. Other faults of its
values stay what they are. -/
def LoadFault.ofDocument : DocumentFault → LoadFault
  | .malformed => .settings (.incorrect .malformed none)
  | fault => .document fault

/-- Settings from the text of a document. A given seed takes the place of the
one in the document. -/
def readDocument (reader : DocumentReader) (text : String) (seed : Option Int) :
    Except LoadFault Settings :=
  match reader text with
  | .error fault => .error (.ofDocument fault)
  | .ok none => .error (.settings (.incorrect .notMapping none))
  | .ok (some entries) =>
      match Settings.ofMapping Parameter.all (namedValues entries) with
      | .ok settings => .ok { settings with seed := seed <|> settings.seed }
      | .error error =>
          if error.isWritable entries then .error (.settings error)
          else .error (.document .tooManyDigits)

/-- Settings from the text of a file with a name and a value on each line. -/
def readLines (text : String) (seed : Option Int) : Except LoadFault Settings :=
  match Settings.ofLines Parameter.all (Text.lines text) seed with
  | .error error => .error (.settings error)
  | .ok settings => .ok settings

/-- The fault of a file that is no text to its end. What is wrong with the lines in
front of the undecodable bytes is found first. -/
def undecodableFault (path : Path) (bytes : ByteArray) : LoadFault :=
  if path.isDocument then .file (.undecodable path)
  else
    match Settings.readLines Parameter.all [] 1 (Text.readableLines bytes) with
    | .error error => .settings error
    | .ok _ => .file (.undecodable path)

def loadSettings (access : FileAccess) (path : Path) (seed : Option Int) :
    Except LoadFault Settings :=
  match access.read path with
  | .error fault => .error (.file fault)
  | .ok bytes =>
      match String.fromUTF8? bytes with
      | none => .error (undecodableFault path bytes)
      | some text =>
          if path.isDocument then readDocument access.reader text seed
          else readLines text seed

def loadBoard (access : FileAccess) (path : Path) (settings : Settings) :
    Except LoadFault Board :=
  match access.readText path with
  | .error fault => .error (.file fault)
  | .ok text =>
      match Board.ofLines settings.foodEnergy settings.foodRipeningTime (Text.lines text) with
      | .error error => .error (.board error)
      | .ok board => .ok board

end Foragers

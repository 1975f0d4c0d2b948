import Foragers.Random.Twister
import Foragers.Report.Console
import Foragers.Report.Log
import Foragers.Report.Table
import Foragers.Session.Load

namespace Foragers

/-! A session: settings and a board are loaded from files and a world made of
them is played, with everything that is printed, logged and written on the way. -/

/-- Where the seed of a session comes from. -/
inductive SeedChoice where
  /-- The settings have it. -/
  | own
  /-- A seed that takes the place of the one in the settings. -/
  | fixed (seed : Int)
  /-- Something that is no seed takes its place. -/
  | void
  deriving DecidableEq, Repr

def SeedChoice.seed? : SeedChoice → Option Int
  | fixed seed => some seed
  | own | void => none

/-- What a session is asked to do. A path that is void is none at all, which is found
out when its file is due. -/
structure SessionRequest where
  settings : Option Path
  board : Option Path
  seed : SeedChoice
  /-- Where to write the table of rounds. -/
  table : Option Path
  snapshots : Bool

inductive SessionFault where
  | load (fault : LoadFault)
  | play (fault : Fault)
  /-- Something that was given is void. -/
  | void
  deriving DecidableEq, Repr

def SessionFault.message : SessionFault → String
  | load fault => fault.message
  | play fault => fault.message
  | void => "A value is missing."

structure SessionResult where
  ending : Except SessionFault Ending
  printed : String
  records : List Report.LogRecord
  /-- The table, if there is a file for it. -/
  written : Option (Path × String)

namespace SessionResult

def failed (fault : SessionFault) (records : List Report.LogRecord) : SessionResult where
  ending := .error fault
  printed := ""
  records := records
  written := none

end SessionResult

namespace SessionRequest

/-- What was given, unless it is void. -/
def orVoid {α : Type} : Option α → Except SessionFault α
  | some given => .ok given
  | none => .error .void

def play (request : SessionRequest) (world : World Twister)
    (records : List Report.LogRecord) : SessionResult :=
  let playback := world.play
  let events := playback.events.toList
  { ending :=
      match playback.ending with
      | .error fault => .error (.play fault)
      | .ok ending => .ok ending
    printed := Report.consoleText request.snapshots events
    records := records ++ Report.playRecords world playback
    written := request.table.map fun path => (path, Report.tableText events) }

/-- Plays a world that is made of settings and a board. With a void seed nothing is
played, and the table has no rows. -/
def playBoard (request : SessionRequest) (settings : Settings) (board : Board)
    (spareSeed : Int) : SessionResult :=
  let records := [Report.loadedRecord board]
  if request.seed = .void then
    { SessionResult.failed .void records with
      written := request.table.map fun path => (path, Report.tableText []) }
  else
    let seed := settings.seed.getD spareSeed
    request.play (World.create settings board (Twister.ofSeed seed)) records

def load (request : SessionRequest) (access : FileAccess) :
    Except SessionFault (Settings × Board) := do
  let path ← orVoid request.settings
  let settings ← (loadSettings access path request.seed.seed?).mapError .load
  let path ← orVoid request.board
  let board ← (loadBoard access path settings).mapError .load
  return (settings, board)

/-- Runs a session. Settings without a seed are played with the spare one. -/
def run (request : SessionRequest) (access : FileAccess) (spareSeed : Int) : SessionResult :=
  match request.load access with
  | .error fault => .failed fault []
  | .ok (settings, board) =>
      match request.table.elim (.ok ()) access.checkWritable with
      | .error fault => .failed (.load (.file fault)) [Report.loadedRecord board]
      | .ok () => request.playBoard settings board spareSeed

end SessionRequest

end Foragers

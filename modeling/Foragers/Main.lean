import Foragers.Session.Command

namespace Foragers

/-! The program: it reads the files that a session is about to ask for, runs the
session, and then writes and prints what came out of it. -/

def FileFault.ofError (path : Path) : IO.Error → FileFault
  | .noFileOrDirectory _ _ _ => .missing path
  | _ => .inaccessible path

def attempt {α : Type} (path : Path) (action : IO α) : IO (Except FileFault α) := do
  match ← action.toBaseIO with
  | .ok result => return .ok result
  | .error error => return .error (.ofError path error)

/-- What a session finds in its two files; a table can be written anywhere. -/
def fetch (request : SessionRequest) : IO FileAccess := do
  let paths := [request.settings, request.board].filterMap id
  let found ← paths.mapM fun path => do
    return (path, ← attempt path (IO.FS.readBinFile path.text))
  return {
    read := fun path => (found.lookup path).getD (.error (.missing path))
    checkWritable := fun _ => .ok ()
    reader := Document.reader }

/-- Writes the table of a session, if there is one. -/
def writeTable (written : Option (Path × String)) : IO (Except FileFault Unit) := do
  match written with
  | none => return .ok ()
  | some (path, table) => attempt path (IO.FS.writeFile path.text table)

def spareSeed : IO Int := do
  let bytes ← IO.getRandomBytes 8
  return bytes.foldl (fun number byte => number * 256 + byte.toNat) (0 : Nat)

def usage : String :=
  "usage: foragers [--help] [--seed SEED] [--log FILE] [--quiet] [--log-level LEVEL] " ++
    "parameters board"

def finish (result : CommandResult) : IO UInt32 := do
  IO.print result.printed
  IO.eprint result.logged
  match result.status with
  | .ok status => return status.toUInt32
  | .error fault =>
      IO.eprintln fault.message
      return 1

/-- Refuses arguments, or runs the session that they ask for. A table that turns
out not to be writable is found before anything is played. -/
def runProgram (arguments : List String) : IO UInt32 := do
  match Invocation.ofArguments arguments with
  | .error .help =>
      IO.println usage
      return 0
  | .error .usage =>
      IO.eprintln usage
      return 2
  | .ok (_, request) =>
      let access ← fetch request
      let seed ← spareSeed
      match runCommand arguments access seed with
      | .error _ => return 2
      | .ok result =>
          match ← writeTable result.written with
          | .ok () => finish result
          | .error fault =>
              let refusing := { access with checkWritable := fun _ => .error fault }
              match runCommand arguments refusing seed with
              | .error _ => return 2
              | .ok result => finish result

end Foragers

def main (arguments : List String) : IO UInt32 :=
  Foragers.runProgram arguments

import Foragers.Session.Arguments

namespace Foragers

/-! The program as a command: arguments in, exit status and texts out. -/

structure CommandResult where
  /-- The exit status, or the fault that no message is printed for. -/
  status : Except SessionFault Nat
  printed : String
  logged : String
  written : Option (Path × String)

/-- The message that the command prints for a fault of its input, if it is one
that users are told about. -/
def SessionFault.explanation? : SessionFault → Option String
  | .load (.file (.missing path)) => some (FileFault.missing path).message
  | .load (.settings (.incorrect problem line)) =>
      some (SettingsError.incorrect problem line).message
  | .load (.settings (.missing parameter)) => some (SettingsError.missing parameter).message
  | .load (.board error) => some error.message
  | _ => none

def runCommand (arguments : List String) (access : FileAccess) (spareSeed : Int) :
    Except Refusal CommandResult :=
  match Invocation.ofArguments arguments with
  | .error refusal => .error refusal
  | .ok ({ level := none, .. }, _) => .ok ⟨.error .void, "", "", none⟩
  | .ok ({ level := some level, .. }, request) =>
      let result := request.run access spareSeed
      let logged := Report.LogRecord.textFrom level result.records
      let finished (status : Except SessionFault Nat) (explanation : String) := {
        status, logged
        printed := result.printed ++ explanation
        written := result.written }
      match result.ending with
      | .ok _ => .ok (finished (.ok 0) "")
      | .error fault =>
          match fault.explanation? with
          | some explanation => .ok (finished (.ok 1) (explanation ++ "\n"))
          | none => .ok (finished (.error fault) "")

end Foragers

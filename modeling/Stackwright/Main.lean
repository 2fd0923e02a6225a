import Stackwright.Command.Arguments
import Stackwright.Command.Run

/-!
# The program

Carries out a command on the files of the machine.
-/

namespace Stackwright

/-- What the system says about a failed operation. -/
def FileError.ofSystem : IO.Error → FileError
  | .noFileOrDirectory .. => .notFound
  | .alreadyExists .. => .alreadyExists
  | .resourceBusy .. => .busy
  | .inappropriateType _ code _ => if code = 21 then .isADirectory else .notADirectory
  | e => .other (toString e)

/-- Runs an operation on files and keeps its error as a value. -/
def attempt {α : Type} (operation : IO α) : IO (Except FileError α) := do
  match ← operation.toBaseIO with
  | .ok a => return .ok a
  | .error e => return .error (.ofSystem e)

instance : FileSystem IO where
  read p := return (← attempt (IO.FS.readBinFile p.text)).bind FileTree.textOf
  makeDirectories p := attempt (IO.FS.createDirAll p.text)
  write p content := attempt (IO.FS.writeFile p.text content)
  rename source destination := attempt (IO.FS.rename source.text destination.text)

def usageText : String :=
  "Usage: stackwright <COMMAND>\n\n"
    ++ "  compile   Compile a function definition into a template "
    ++ "[-f FILE] [-o OUTPUT] [--format json|yaml]\n"
    ++ "  validate  Validate a function definition without compiling it [-f FILE]\n"
    ++ "  deps      Print the external resources a function depends on [-f FILE]\n"
    ++ "  schema    Print the JSON schema of the definition format\n"

/-- Answers arguments that name no command. -/
def answerUsage : Usage → IO UInt32
  | .help => do
    IO.print usageText
    return 0
  | .version => do
    IO.println "stackwright 0.4.0"
    return 0
  | _ => do
    IO.eprint usageText
    return 2

/-- Shows an outcome; the warnings among the notices go beside the output. -/
def report (o : Outcome) : IO UInt32 := do
  for notice in o.notices do
    if notice.isWarning then
      IO.eprintln ("warning: " ++ notice.message)
  IO.eprint o.complaints
  IO.print o.printed
  match o.failure with
  | none => return 0
  | some failure =>
    IO.eprintln ("error: " ++ failure.message)
    return 1

end Stackwright

open Stackwright in
def main (arguments : List String) : IO UInt32 := do
  match Command.ofArguments arguments with
  | .ok command => report (← command.run)
  | .error usage => answerUsage usage

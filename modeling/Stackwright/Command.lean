import Stackwright.Compilation
import Stackwright.Document
import Stackwright.FileTree

/-!
# Commands and their outcomes

What the program can be asked to do; what a command prints, complains about and reports, and why it
fails if it does.
-/

namespace Stackwright

inductive Command where
  /-- Compile the definition in `file`; the template goes to `output`, or is printed. -/
  | compile (file : FilePath) (output : Option FilePath) (format : TemplateFormat)
  /-- Check the definition in `file`. -/
  | validate (file : FilePath)
  /-- Print what the definition in `file` depends on. -/
  | deps (file : FilePath)
  /-- Print the schema of definitions. -/
  | schema
deriving DecidableEq, Repr

/-- The definition that is read when no file is named. -/
def Command.defaultFile : FilePath := ⟨"function.yaml"⟩

/-- Why a command fails. -/
inductive Failure where
  | unreadable (file : FilePath) (error : FileError)
  | unparsable (format : Format) (error : TextError)
  | invalid (faults : Nat)
  | uncompilable (error : CompileError)
  | noDirectory (directory : FilePath) (error : FileError)
  | unwritable (file : FilePath) (error : FileError)
  | immovable (source destination : FilePath) (error : FileError)

namespace Failure

def message : Failure → String
  | .unreadable file e => "failed to read " ++ file.text ++ ": " ++ e.message
  | .unparsable format e => format.title ++ " parse error: " ++ e.message
  | .invalid faults => toString faults ++ " validation error(s)"
  | .uncompilable e => e.message
  | .noDirectory directory e => "cannot create dir " ++ directory.text ++ ": " ++ e.message
  | .unwritable file e => "cannot write " ++ file.text ++ ": " ++ e.message
  | .immovable source destination e =>
    "cannot rename " ++ source.text ++ " → " ++ destination.text ++ ": " ++ e.message

end Failure

structure Outcome where
  /-- What is printed, with all line ends. -/
  printed : String := ""
  /-- The faults of the definition, each for a line of its own beside what is printed. -/
  faults : List String := []
  notices : List Notice := []
  failure : Option Failure := none

namespace Outcome

/-- A success that prints a text and ends the line. -/
def done (notices : List Notice) (text : String) : Outcome :=
  { printed := text ++ "\n", notices }

def failed (notices : List Notice) (failure : Failure) : Outcome :=
  { notices, failure := some failure }

/-- The lines about faults. -/
def complaints (o : Outcome) : String :=
  String.join (o.faults.map fun fault => "  ERROR: " ++ fault ++ "\n")

end Outcome

end Stackwright

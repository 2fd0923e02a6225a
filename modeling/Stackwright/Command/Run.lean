import Stackwright.Command
import Stackwright.Definition.Schema
import Stackwright.Storage
import Stackwright.Template.Fingerprint
import Stackwright.Validation

/-!
# Running commands

A command reads a definition, checks it and goes on only if it has no faults. A compiled template
that is to be kept replaces the file at its path unless that file already holds the same template;
it is written beside the path first and then moved onto it.
-/

namespace Stackwright

namespace Command

/-- The definition that a file holds and the notices about it, or the outcome of a file that holds
no valid one. -/
def validDefinition (file : FilePath) (content : Except FileError String) :
    Except Outcome (Definition × List Notice) :=
  match content with
  | .error e => .error (.failed [] (.unreadable file e))
  | .ok text =>
    let format := Format.ofPath file
    match Definition.ofText format text with
    | .error e => .error (.failed [] (.unparsable format e))
    | .ok d =>
      let notices := Validation.notices d
      match Validation.faults d with
      | [] => .ok (d, notices)
      | faults =>
        .error { faults, notices, failure := some (.invalid faults.length) }

/-- One line about a valid definition. -/
def summary (d : Definition) : String :=
  "OK: " ++ d.name ++ " (" ++ toString d.requirements.permissions.length ++ " permissions, "
    ++ toString d.requirements.environment.length ++ " variables"
    ++ (if d.requirements.eventSource.isSome then ", event source" else "") ++ ")"

/-- The fingerprint of the template in an existing file, with a notice if the file holds none. -/
def existingFingerprint (output : FilePath) (format : TemplateFormat)
    (content : Except FileError String) : Option String × List Notice :=
  match content with
  | .error _ => (none, [])
  | .ok text =>
    match Template.ofText format text with
    | .ok t => (some t.fingerprint, [])
    | .error _ => (none, [.templateUnreadable output.text])

/-- One line about a template that was written. -/
def written (output : FilePath) (t : Template) : String :=
  output.text ++ ": wrote template (" ++ toString t.parameters.size ++ " parameters, "
    ++ toString t.resources.size ++ " resources)"

section

variable {m : Type → Type} [Monad m] [FileSystem m]

/-- Replaces the file at a path by way of a file beside it. -/
def replaceFile (path : FilePath) (content : String) : m (Except Failure Unit) := do
  match ← prepare with
  | .error failure => return .error failure
  | .ok () =>
    let draft := path.withExtension "tmp"
    match ← FileSystem.write draft content with
    | .error e => return .error (.unwritable draft e)
    | .ok () => return (← FileSystem.rename draft path).mapError (.immovable draft path)
where
  /-- Creates the directory that the path lies in. -/
  prepare : m (Except Failure Unit) := do
    match path.parent?.filter fun parent => parent.text != "" with
    | some parent => return (← FileSystem.makeDirectories parent).mapError (.noDirectory parent)
    | none => return .ok ()

/-- Writes a template to its file unless the file already holds it. -/
def keep (t : Template) (format : TemplateFormat) (output : FilePath) (notices : List Notice) :
    m Outcome := do
  let (existing, unreadable) := existingFingerprint output format (← FileSystem.read output)
  let notices := notices ++ unreadable
  if existing = some t.fingerprint then
    return .done notices (output.text ++ ": unchanged")
  else
    match ← replaceFile output (t.text format) with
    | .ok () => return .done notices (written output t)
    | .error failure => return .failed notices failure

/-- Runs a command. -/
def run : Command → m Outcome
  | .schema => return .done [] Definition.schema.pretty
  | .validate file => do
    match validDefinition file (← FileSystem.read file) with
    | .error outcome => return outcome
    | .ok (d, notices) => return .done notices (summary d)
  | .deps file => do
    match validDefinition file (← FileSystem.read file) with
    | .error outcome => return outcome
    | .ok (d, notices) =>
      return .done notices
        (Json.array ((Dependency.ofRequirements d.requirements).map Dependency.toJson)).pretty
  | .compile file output format => do
    match validDefinition file (← FileSystem.read file) with
    | .error outcome => return outcome
    | .ok (d, checked) =>
      let compilation := d.compile
      let notices := checked ++ compilation.notices
      match compilation.result with
      | .error e => return .failed notices (.uncompilable e)
      | .ok t =>
        match output with
        | none => return .done notices (t.text format)
        | some output => keep t format output notices

end

/-- Runs a command on a storage. -/
def runIn (s : Storage) (c : Command) : Outcome × Storage := (c.run : StateM Storage Outcome) s

/-- Runs a command on a tree of files where nothing goes wrong that the tree allows. -/
def runOn (t : FileTree) (c : Command) : Outcome × FileTree :=
  ((c.runIn ⟨t, []⟩).1, (c.runIn ⟨t, []⟩).2.tree)

end Command

end Stackwright

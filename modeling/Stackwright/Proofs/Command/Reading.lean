import Stackwright.Command.Run
import Stackwright.Proofs.Storage

/-!
# Runs that only read

The same command can be run where files can be read and nothing else (`Command.runReading`). A run
that comes to its end there ends in the same way where files can be changed, and leaves the tree as
it is (`Command.runIn_of_runReading`).
-/

namespace Stackwright

/-- Runs that can read the files of a tree and end without a result where one is to be changed. -/
abbrev Reading := ReaderT FileTree Option

instance : FileSystem Reading where
  read p := fun t => some (t.read p)
  makeDirectories _ := fun _ => none
  write _ _ := fun _ => none
  rename _ _ := fun _ => none

/-- Wherever the first run ends, the second has the same result and leaves the tree as it is. -/
def Reading.Foretells {α : Type} (reading : Reading α) (run : StateM Storage α) : Prop :=
  ∀ t a, reading t = some a → run ⟨t, []⟩ = (a, ⟨t, []⟩)

namespace Reading

variable {α β : Type}

/-- A reading that ends at once foretells the run that ends at once. -/
theorem foretells_pure (a : α) : Foretells (pure a) (pure a) := by
  intro t b ended
  cases ended
  rfl

/-- Reading a file foretells itself. -/
theorem foretells_read (p : FilePath) : Foretells (FileSystem.read p) (FileSystem.read p) := by
  intro t content ended
  cases ended
  exact Storage.read_undisturbed t p

/-- A reading foretells a run made of two parts if it foretells each of them. -/
theorem Foretells.bind {reading : Reading α} {run : StateM Storage α}
    {next : α → Reading β} {next' : α → StateM Storage β} (first : reading.Foretells run)
    (rest : ∀ a, (next a).Foretells (next' a)) : (reading >>= next).Foretells (run >>= next') := by
  intro t b ended
  obtain ⟨a, done, ended⟩ := Option.bind_eq_some_iff.mp ended
  change (match run ⟨t, []⟩ with | (a, s) => next' a s) = (b, ⟨t, []⟩)
  rw [first t a done]
  exact rest a t b ended

end Reading

namespace Command

open Reading

/-- Replacing a file changes a file or a directory first of all. -/
theorem replaceFile_reading (path : FilePath) (content : String) (t : FileTree) :
    (replaceFile path content : Reading (Except Failure Unit)) t = none := by
  unfold replaceFile replaceFile.prepare
  cases path.parent?.filter fun parent => parent.text != "" <;> rfl

/-- Keeping a template is foretold as long as it only reads. -/
theorem foretells_keep (t : Template) (format : TemplateFormat) (output : FilePath)
    (notices : List Notice) :
    Foretells (keep t format output notices) (keep t format output notices) := by
  refine (foretells_read output).bind fun content => ?_
  dsimp only
  split
  · exact foretells_pure _
  · intro tree o ended
    obtain ⟨result, replaced, _⟩ := Option.bind_eq_some_iff.mp ended
    rw [replaceFile_reading] at replaced
    cases replaced

/-- A command is foretold as long as it only reads. -/
theorem foretells_run (c : Command) : Foretells c.run c.run := by
  cases c with
  | schema => exact foretells_pure _
  | validate file =>
    refine (foretells_read file).bind fun content => ?_
    split <;> exact foretells_pure _
  | deps file =>
    refine (foretells_read file).bind fun content => ?_
    split <;> exact foretells_pure _
  | compile file output format =>
    refine (foretells_read file).bind fun content => ?_
    split
    · exact foretells_pure _
    · rename_i d checked _
      dsimp only
      cases d.compile.result with
      | error e => exact foretells_pure _
      | ok t =>
        cases output with
        | none => exact foretells_pure _
        | some output => exact foretells_keep t format output _

/-- The outcome of a command where files can only be read, if it has one there. -/
def runReading (t : FileTree) (c : Command) : Option Outcome := (c.run : Reading Outcome) t

/-- A command that ends by reading ends the same way on the storage and leaves it as it was. -/
theorem runIn_of_runReading {t : FileTree} {c : Command} {o : Outcome}
    (ended : runReading t c = some o) : runIn ⟨t, []⟩ c = (o, ⟨t, []⟩) :=
  foretells_run c t o ended

/-- A run that meets no mishap is a run on the file tree alone. -/
theorem runOn_of_runIn {t : FileTree} {c : Command} {o : Outcome} {s : Storage}
    (ran : runIn ⟨t, []⟩ c = (o, s)) : runOn t c = (o, s.tree) := by
  unfold runOn
  rw [ran]

/-- A command that ends by reading ends the same way on the file tree and leaves it as it was. -/
theorem runOn_of_runReading {t : FileTree} {c : Command} {o : Outcome}
    (ended : runReading t c = some o) : runOn t c = (o, t) :=
  runOn_of_runIn (runIn_of_runReading ended)

end Command

end Stackwright

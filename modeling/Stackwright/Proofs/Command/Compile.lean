import Stackwright.Proofs.Command.Reading
import Stackwright.Proofs.Command.Replacement

/-!
# Compiling to a file

A compile that gets as far as a template has read a valid definition that compiles, and until then
it has changed nothing (`Command.compile_cases`). Where the template goes to a file, the fingerprint
of the template is found in the file or the file is replaced (`Command.KeepEnd`).
-/

namespace Stackwright

/-- The failures of a command that has not changed anything yet. -/
def Failure.IsEarly : Failure → Prop
  | .unreadable .. | .unparsable .. | .invalid _ | .uncompilable _ => True
  | .noDirectory .. | .unwritable .. | .immovable .. => False

namespace Command

/-- The template that the definition in a file compiles to. -/
def CompilesTo (tree : FileTree) (file : FilePath) (t : Template) : Prop :=
  ∃ text d, tree.read file = .ok text ∧ Definition.ofText (Format.ofPath file) text = .ok d ∧
    d.Valid ∧ d.compile.result = .ok t

/-- The file holds a template that has the fingerprint of `t`. -/
def HoldsFingerprint (tree : FileTree) (output : FilePath) (format : TemplateFormat)
    (t : Template) : Prop :=
  ∃ text old, tree.read output = .ok text ∧ Template.ofText format text = .ok old ∧
    old.fingerprint = t.fingerprint

/-- A result that is some value is that value; the premise is found by computing. -/
theorem eq_ok_of_toOption {ε α : Type} {x : Except ε α} {a : α} (found : x.toOption = some a) :
    x = .ok a := by
  cases x with
  | error e => cases found
  | ok b => exact congrArg _ (Option.some.inj found)

/-- A command gets hold of a definition only if the file is read, parsed and validated. -/
theorem validDefinition_ok {file : FilePath} {content : Except FileError String} {d : Definition}
    {notices : List Notice} (valid : validDefinition file content = .ok (d, notices)) :
    ∃ text, content = .ok text ∧ Definition.ofText (Format.ofPath file) text = .ok d ∧ d.Valid := by
  unfold validDefinition at valid
  split at valid
  · cases valid
  · rename_i text
    dsimp only at valid
    split at valid
    · cases valid
    · rename_i d' spelled
      split at valid
      · rename_i faultless
        cases valid
        exact ⟨text, rfl, spelled, faultless⟩
      · cases valid

/-- A command that gets hold of no definition fails before anything is written. -/
theorem validDefinition_error {file : FilePath} {content : Except FileError String} {o : Outcome}
    (invalid : validDefinition file content = .error o) :
    ∃ failure, o.failure = some failure ∧ failure.IsEarly := by
  unfold validDefinition at invalid
  split at invalid
  · cases invalid
    exact ⟨_, rfl, trivial⟩
  · dsimp only at invalid
    split at invalid
    · cases invalid
      exact ⟨_, rfl, trivial⟩
    · split at invalid
      · cases invalid
      · cases invalid
        exact ⟨_, rfl, trivial⟩

/-- A fingerprint is that of the template which the text of the output is read as. -/
theorem existingFingerprint_eq_some {output : FilePath} {format : TemplateFormat}
    {content : Except FileError String} {fingerprint : String}
    (found : (existingFingerprint output format content).1 = some fingerprint) :
    ∃ text old, content = .ok text ∧ Template.ofText format text = .ok old ∧
      old.fingerprint = fingerprint := by
  unfold existingFingerprint at found
  split at found
  · cases found
  · rename_i text
    split at found
    · rename_i old spelled
      exact ⟨text, old, rfl, spelled, Option.some.inj found⟩
    · cases found

/-- How keeping a template in a file ends, by the outcome and the tree that it leaves. -/
inductive KeepEnd (tree : FileTree) (output : FilePath) (format : TemplateFormat) (t : Template)
    (o : Outcome) : FileTree → Prop
  | unchanged (succeeded : o.failure = none)
      (printed : o.printed = output.text ++ ": unchanged" ++ "\n")
      (holds : HoldsFingerprint tree output format t) : KeepEnd tree output format t o tree
  | written {replaced : FileTree} (succeeded : o.failure = none)
      (printed : o.printed = Command.written output t ++ "\n")
      (ended : tree.ReplacementEnd output (t.text format).toUTF8 (.ok ()) replaced) :
      KeepEnd tree output format t o replaced
  | failed {failure : Failure} {left : FileTree} (failed : o.failure = some failure)
      (ended : tree.ReplacementEnd output (t.text format).toUTF8 (.error failure) left) :
      KeepEnd tree output format t o left

section

variable {s s' : Storage} {file : FilePath} {format : TemplateFormat} {o : Outcome}

/-- Keeping a template ends in one of the listed ways, whatever mishaps there are. -/
theorem keepEnd_of_keep {output : FilePath} {t : Template} {notices : List Notice}
    (kept : (keep t format output notices : StateM Storage Outcome) s = (o, s')) :
    KeepEnd s.tree output format t o s'.tree := by
  obtain ⟨content, between, read, kept⟩ := Storage.bind_cases kept
  obtain ⟨same, holds⟩ := Storage.read_cases read
  dsimp only at kept
  split at kept
  · rename_i found
    cases kept
    obtain ⟨text, old, rfl, spelled, equal⟩ := existingFingerprint_eq_some found
    rw [same]
    exact .unchanged rfl rfl ⟨text, old, holds text rfl, spelled, equal⟩
  · obtain ⟨result, after, replaced, kept⟩ := Storage.bind_cases kept
    have ended := replacementEnd_of_replaceFile replaced
    rw [same] at ended
    split at kept
    · cases kept
      exact .written rfl rfl ended
    · cases kept
      exact .failed rfl ended

/-- **How a compile ends.** It fails early, or it has the template that the definition compiles to
and prints or keeps it. -/
theorem compile_cases {output : Option FilePath}
    (ran : runIn s (.compile file output format) = (o, s')) :
    (∃ failure, o.failure = some failure ∧ failure.IsEarly ∧ s'.tree = s.tree) ∨
      ∃ t, CompilesTo s.tree file t ∧
        ((output = none ∧ o.failure = none ∧ o.printed = t.text format ++ "\n" ∧
            s'.tree = s.tree) ∨
          ∃ path, output = some path ∧ KeepEnd s.tree path format t o s'.tree) := by
  unfold runIn run at ran
  obtain ⟨content, between, read, ran⟩ := Storage.bind_cases ran
  obtain ⟨same, holds⟩ := Storage.read_cases read
  rw [← same]
  cases checked : validDefinition file content with
  | error outcome =>
    rw [checked] at ran
    cases ran
    obtain ⟨failure, failed, early⟩ := validDefinition_error checked
    exact .inl ⟨failure, failed, early, rfl⟩
  | ok valid =>
    obtain ⟨d, notices⟩ := valid
    obtain ⟨text, rfl, spelled, faultless⟩ := validDefinition_ok checked
    simp only [checked] at ran
    cases compiled : d.compile.result with
    | error e =>
      simp only [compiled] at ran
      cases ran
      exact .inl ⟨_, rfl, trivial, rfl⟩
    | ok t =>
      simp only [compiled] at ran
      have compiles : CompilesTo between.tree file t :=
        ⟨text, d, same ▸ holds text rfl, spelled, faultless, compiled⟩
      refine .inr ⟨t, compiles, ?_⟩
      cases output with
      | none =>
        cases ran
        exact .inl ⟨rfl, rfl, rfl, rfl⟩
      | some path => exact .inr ⟨path, rfl, keepEnd_of_keep ran⟩

/-- A compile to a file that succeeds has found its template there or has replaced the file. -/
theorem compile_ok {output : FilePath}
    (ran : runIn s (.compile file (some output) format) = (o, s')) (succeeded : o.failure = none) :
    ∃ t, CompilesTo s.tree file t ∧
      ((o.printed = output.text ++ ": unchanged" ++ "\n" ∧ s'.tree = s.tree ∧
          HoldsFingerprint s.tree output format t) ∨
        (o.printed = written output t ++ "\n" ∧
          ∃ goal start, s.tree.Replaces s'.tree output (t.text format).toUTF8 goal start)) := by
  rcases compile_cases ran with
    ⟨failure, failed, _⟩ | ⟨t, compiles, ⟨none, _⟩ | ⟨path, some, ended⟩⟩
  · rw [succeeded] at failed
    cases failed
  · cases none
  · cases some
    refine ⟨t, compiles, ?_⟩
    generalize s'.tree = left at ended
    cases ended with
    | unchanged _ printed holds => exact .inl ⟨printed, rfl, holds⟩
    | written _ printed ended => exact .inr ⟨printed, ended.replaces⟩
    | failed failed _ =>
      rw [succeeded] at failed
      cases failed

end

section

variable {tree : FileTree} {file output : FilePath} {format : TemplateFormat} {t : Template}

/-- A file that already holds the template need not be changed. -/
theorem runReading_of_holdsFingerprint
    (compiles : CompilesTo tree file t) (holds : HoldsFingerprint tree output format t) :
    ∃ notices, runReading tree (.compile file (some output) format) =
      some (.done notices (output.text ++ ": unchanged")) := by
  obtain ⟨text, d, read, spelled, faultless, compiled⟩ := compiles
  obtain ⟨old, existing, held, understood, same⟩ := holds
  have checked : validDefinition file (tree.read file) = .ok (d, Validation.notices d) := by
    have faults : Validation.faults d = [] := faultless
    simp only [validDefinition, read, spelled, faults]
  have found : existingFingerprint output format (tree.read output) = (some t.fingerprint, []) := by
    simp only [existingFingerprint, held, understood, same]
  refine ⟨Validation.notices d ++ d.compile.notices ++ [], ?_⟩
  unfold runReading run
  simp only [bind, ReaderT.bind, FileSystem.read, Option.bind_some, checked, compiled, keep, found,
    if_pos]
  rfl

/-- Over an output with the template's fingerprint, compiling succeeds and writes nothing. -/
theorem unchanged_of_holdsFingerprint
    (compiles : CompilesTo tree file t) (holds : HoldsFingerprint tree output format t) :
    ∃ o, runIn ⟨tree, []⟩ (.compile file (some output) format) = (o, ⟨tree, []⟩) ∧
      o.failure = none := by
  obtain ⟨notices, ended⟩ := runReading_of_holdsFingerprint compiles holds
  exact ⟨_, runIn_of_runReading ended, rfl⟩

end

end Command

end Stackwright

import Stackwright.Proofs.Command.Effect
import Stackwright.Proofs.Command.Output
import Stackwright.Proofs.Template.Text

/-!
# Compiling once more

After a compile to a file that succeeds, the same command finds its template in the file, says so
and changes nothing (`Command.unchanged_of_compile`). The definition has to be another file than
the output and the draft beside it, since otherwise it is gone.
-/

namespace Stackwright

/-- The two paths lead to one place. -/
def FileTree.SameFile (t : FileTree) (p q : FilePath) : Prop :=
  ∃ place, t.walk p p.parts = .ok place ∧ t.walk q q.parts = .ok place

namespace Command

variable {tree tree' : FileTree} {file output : FilePath} {format : TemplateFormat} {t : Template}

/-- The resources that a definition compiles to have well-formed properties. -/
theorem CompilesTo.proper (compiles : CompilesTo tree file t) : t.Proper :=
  fun entry member => (compiles.shallow.properties entry member).wellFormed

/-- A file that was replaced by the text of the template holds it. -/
theorem holdsFingerprint_of_replaces {goal start : Location} (compiles : CompilesTo tree file t)
    (replaces : tree.Replaces tree' output (t.text format).toUTF8 goal start)
    (keeps : format.Keeps t.toJson) : HoldsFingerprint tree' output format t := by
  have held : tree'.read output = .ok (t.text format) :=
    FileTree.read_of_target replaces.goal_named replaces.written
  have spelled : Template.ofText format (t.text format) = .ok t := by
    cases format with
    | json => exact Template.ofJsonText_pretty compiles.proper keeps
    | yaml => exact Template.ofYamlText_render compiles.proper keeps
  exact ⟨_, t, held, spelled, rfl⟩

/-- Replacing a file leaves a definition that is elsewhere as it is. -/
theorem CompilesTo.of_replaces {content : ByteArray} {goal start : Location}
    (compiles : CompilesTo tree file t)
    (replaces : tree.Replaces tree' output content goal start)
    (apart : ¬ tree'.SameFile file output) (apartDraft : ¬ tree'.SameFile file output.draft) :
    CompilesTo tree' file t := by
  obtain ⟨text, d, read, compiled⟩ := compiles
  have kept : tree'.read file = .ok text := by
    refine replaces.changesOnly.reads file text read (fun leads => apart ?_)
      (fun leads => apartDraft ?_)
    · exact ⟨goal, replaces.keeps.walk leads, (FileTree.walk_of_target replaces.goal_named).1⟩
    · exact ⟨start, replaces.keeps.walk leads, (FileTree.walk_of_target replaces.start_named).1⟩
  exact ⟨text, d, kept, compiled⟩

/-- **Compiling once more changes nothing.** The second run ends where files can only be read, and
on the tree it says that the file is unchanged. Which paths are one file is judged when the
directories of the output are there: a path through a missing one leads nowhere before. That YAML
text keeps the template is assumed. -/
theorem unchanged_of_compile {s s' : Storage} {o : Outcome}
    (ran : runIn s (.compile file (some output) format) = (o, s'))
    (succeeded : o.failure = none)
    (apart : ¬ s'.tree.SameFile file output) (apartDraft : ¬ s'.tree.SameFile file output.draft)
    (lossless : format = .yaml → ∀ t, CompilesTo s.tree file t →
      TemplateFormat.yaml.Keeps t.toJson) :
    ∃ again, runReading s'.tree (.compile file (some output) format) = some again ∧
      runOn s'.tree (.compile file (some output) format) = (again, s'.tree) ∧
      again.failure = none ∧ again.printed = output.text ++ ": unchanged" ++ "\n" := by
  obtain ⟨t, compiles, ⟨_, same, holds⟩ | ⟨_, goal, start, replaces⟩⟩ :=
    compile_ok ran succeeded
  · rw [same]
    obtain ⟨notices, ended⟩ := runReading_of_holdsFingerprint compiles holds
    exact ⟨_, ended, runOn_of_runReading ended, rfl, rfl⟩
  · have keeps : format.Keeps t.toJson := by
      cases format with
      | json => exact TemplateFormat.keeps_json compiles.shallow.portable (by decide)
      | yaml => exact lossless rfl t compiles
    obtain ⟨notices, ended⟩ := runReading_of_holdsFingerprint
      (compiles.of_replaces replaces apart apartDraft)
      (holdsFingerprint_of_replaces compiles replaces keeps)
    exact ⟨_, ended, runOn_of_runReading ended, rfl, rfl⟩

/-- Compiling twice into a directory that is missing at first. -/
theorem unchanged_project : ∃ o s' again,
    runIn ⟨project none, []⟩ (.compile ⟨"f.json"⟩ (some ⟨"build/out.json"⟩) .json) = (o, s') ∧
      o.failure = none ∧ ¬ s'.tree.SameFile ⟨"f.json"⟩ ⟨"build/out.json"⟩ ∧
      ¬ s'.tree.SameFile ⟨"f.json"⟩ (FilePath.draft ⟨"build/out.json"⟩) ∧
      runOn s'.tree (.compile ⟨"f.json"⟩ (some ⟨"build/out.json"⟩) .json) = (again, s'.tree) ∧
      again.printed = "build/out.json" ++ ": unchanged" ++ "\n" := by
  have succeeded : (runIn ⟨project none, []⟩ (.compile ⟨"f.json"⟩ (some ⟨"build/out.json"⟩)
      .json)).1.failure = none := Option.isNone_iff_eq_none.mp (by decide +kernel)
  have definition : (runIn ⟨project none, []⟩ (.compile ⟨"f.json"⟩ (some ⟨"build/out.json"⟩)
      .json)).2.tree.walk ⟨"f.json"⟩ (FilePath.parts ⟨"f.json"⟩) = .ok ["f.json"] :=
    eq_ok_of_toOption (by decide +kernel)
  have elsewhere : ∀ p ∈ [FilePath.mk "build/out.json", FilePath.draft ⟨"build/out.json"⟩],
      ((runIn ⟨project none, []⟩ (.compile ⟨"f.json"⟩ (some ⟨"build/out.json"⟩)
        .json)).2.tree.walk p p.parts).toOption ≠ some ["f.json"] := by decide +kernel
  have apart : ∀ p ∈ [FilePath.mk "build/out.json", FilePath.draft ⟨"build/out.json"⟩],
      ¬ (runIn ⟨project none, []⟩ (.compile ⟨"f.json"⟩ (some ⟨"build/out.json"⟩)
        .json)).2.tree.SameFile ⟨"f.json"⟩ p := by
    rintro p member ⟨place, leads, leads'⟩
    rw [definition, Except.ok.injEq] at leads
    rw [← leads] at leads'
    exact elsewhere p member (by rw [leads']; rfl)
  have toOutput := apart _ List.mem_cons_self
  have toDraft := apart _ (List.mem_cons_of_mem _ List.mem_cons_self)
  obtain ⟨again, _, ran, _, printed⟩ :=
    unchanged_of_compile (Prod.eta _).symm succeeded toOutput toDraft nofun
  exact ⟨_, _, again, (Prod.eta _).symm, succeeded, toOutput, toDraft, ran, printed⟩

end Command

end Stackwright

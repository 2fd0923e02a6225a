import Stackwright.Proofs.Command.Compile
import Stackwright.Proofs.Definition.Numbers
import Stackwright.Proofs.Template.RoundTrip

/-!
# What the output holds

After a compile to a file that succeeds, the file either was written and spells the template, or was
left alone because it already holds a template with the same JSON value
(`Command.output_of_compile`). In the second case the document in the file may have more in it than
a template has, and then the file does not spell the template
(`Command.not_spells_template_of_compile`).
-/

namespace Stackwright

/-- The plain value that a text spells in the format. -/
def TemplateFormat.value? : TemplateFormat → String → Option Json
  | .json, text => (Json.Written.ofText? text).bind fun tree => tree.toJson.toOption
  | .yaml, text => (Yaml.Document.ofText? text).bind fun doc => doc.toJson.toOption

/-- JSON text loses nothing of a value. -/
theorem TemplateFormat.value?_pretty {depth : Nat} {j : Json} (portable : j.Portable depth)
    (shallow : depth < Json.levelLimit) : value? .json j.pretty = some j := by
  rw [value?, Json.ofText?_pretty portable shallow, Option.bind_some,
    Json.toJson_ofJson portable.wellFormed]
  rfl

/-- Templates with one fingerprint are one document, as far as the hash has no collision on their
texts. -/
theorem Template.toJson_eq_of_fingerprint_eq {old t : Template} (definite : t.toJson.Definite)
    (collisionFree : Blake3.hexHash old.toJson.compact = Blake3.hexHash t.toJson.compact →
      old.toJson.compact = t.toJson.compact)
    (same : old.fingerprint = t.fingerprint) : old.toJson = t.toJson := by
  unfold Template.fingerprint at same
  have hashes : Blake3.hexHash old.toJson.compact = Blake3.hexHash t.toJson.compact := by
    rw [← String.toList_inj, String.toList_append, String.toList_append] at same
    exact String.toList_inj.mp (List.append_cancel_left same)
  exact Json.eq_of_compact_eq definite (collisionFree hashes)

namespace Command

variable {tree : FileTree} {file output : FilePath} {format : TemplateFormat} {t : Template}

/-- A definition compiles to one template only. -/
theorem CompilesTo.unique {u : Template} (first : CompilesTo tree file t)
    (second : CompilesTo tree file u) : t = u := by
  obtain ⟨text, d, read, spelled, _, compiled⟩ := first
  obtain ⟨text', d', read', spelled', _, compiled'⟩ := second
  obtain rfl := Except.ok.inj (read.symm.trans read')
  obtain rfl := Except.ok.inj (spelled.symm.trans spelled')
  exact Except.ok.inj (compiled.symm.trans compiled')

/-- The expressions in what a definition compiles to are shallow. -/
theorem CompilesTo.shallow (compiles : CompilesTo tree file t) : t.Shallow := by
  obtain ⟨text, d, _, spelled, _, compiled⟩ := compiles
  exact shallow_of_compile compiled (Definition.fits_of_ofText spelled)

/-- The JSON text of a compiled template spells the JSON of the template. -/
theorem CompilesTo.value?_json (compiles : CompilesTo tree file t) :
    TemplateFormat.value? .json (t.text .json) = some t.toJson :=
  TemplateFormat.value?_pretty compiles.shallow.portable (by decide)

/-- **The output holds the template.** A file that was written spells the value of the template; a
file that was left alone holds a template of the same value. That YAML text loses nothing of the
template is assumed, as is that no two texts in question have one hash. -/
theorem output_of_compile {s s' : Storage} {o : Outcome}
    (ran : runIn s (.compile file (some output) format) = (o, s'))
    (succeeded : o.failure = none)
    (lossless : format = .yaml → ∀ t, CompilesTo s.tree file t →
      TemplateFormat.value? .yaml (t.text .yaml) = some t.toJson)
    (collisionFree : ∀ t text old, CompilesTo s.tree file t → s.tree.read output = .ok text →
      Template.ofText format text = .ok old →
      Blake3.hexHash old.toJson.compact = Blake3.hexHash t.toJson.compact →
      old.toJson.compact = t.toJson.compact) :
    ∃ t, CompilesTo s.tree file t ∧
      ((o.printed = output.text ++ ": wrote template (" ++ toString t.parameters.size ++
            " parameters, " ++ toString t.resources.size ++ " resources)" ++ "\n" ∧
          ∃ text, s'.tree.read output = .ok text ∧ format.value? text = some t.toJson) ∨
        (o.printed = output.text ++ ": unchanged" ++ "\n" ∧ s'.tree = s.tree ∧
          ∃ text old, s'.tree.read output = .ok text ∧ Template.ofText format text = .ok old ∧
            old.toJson = t.toJson)) := by
  obtain ⟨t, compiles, ⟨printed, same, held⟩ | ⟨printed, goal, start, replaces⟩⟩ :=
    compile_ok ran succeeded
  · obtain ⟨text, old, read, spelled, found⟩ := held
    have equal : old.toJson = t.toJson :=
      Template.toJson_eq_of_fingerprint_eq compiles.shallow.portable.definite
        (collisionFree t text old compiles read spelled) found
    exact ⟨t, compiles, .inr ⟨printed, same, text, old, same ▸ read, spelled, equal⟩⟩
  · have read : s'.tree.read output = .ok (t.text format) :=
      FileTree.read_of_target replaces.goal_named replaces.written
    have spelled : format.value? (t.text format) = some t.toJson := by
      cases format with
      | json => exact compiles.value?_json
      | yaml => exact lossless rfl t compiles
    exact ⟨t, compiles, .inl ⟨printed, _, read, spelled⟩⟩

/-- The files of a project: a definition, and the output where there is one. -/
def project (output : Option String) : FileTree where
  nodes := .ofList ((["f.json"], .file "\x7b\"name\":\"f\"\x7d".toUTF8) ::
    output.toList.map fun text => (["out.json"], .file text.toUTF8))
  home := []

theorem keeps_project (output : Option String) : (project none).Keeps (project output) where
  home := rfl
  directories := by
    intro place held
    unfold FileTree.node? at held ⊢
    split at held
    · rename_i root
      rw [if_pos root]
    · have listed := OrderedMap.mem_entries_ofList (OrderedMap.get?_eq_some_iff.mp held)
      simp at listed

/-- The definition of the example is read whatever the output holds. -/
theorem read_definition (output : Option String) :
    (project output).read ⟨"f.json"⟩ = .ok "\x7b\"name\":\"f\"\x7d" := by
  have leads : (project none).walk ⟨"f.json"⟩ (FilePath.parts ⟨"f.json"⟩) = .ok ["f.json"] :=
    eq_ok_of_toOption (by decide +kernel)
  have held : (project output).node? ["f.json"] =
      some (.file "\x7b\"name\":\"f\"\x7d".toUTF8) := by cases output <;> rfl
  exact FileTree.read_of_walk ((keeps_project output).walk leads) held

/-- The output of the example is read as the text that it was given. -/
theorem read_output (text : String) : (project (some text)).read ⟨"out.json"⟩ = .ok text := by
  have leads : (project none).walk ⟨"out.json"⟩ (FilePath.parts ⟨"out.json"⟩) =
      .ok ["out.json"] := eq_ok_of_toOption (by decide +kernel)
  have held : (project (some text)).node? ["out.json"] = some (.file text.toUTF8) := rfl
  exact FileTree.read_of_walk ((keeps_project (some text)).walk leads) held

/-- The definition of the example compiles to the same template whatever the output holds. -/
theorem exists_compilesTo_project : ∃ t, ∀ output, CompilesTo (project output) ⟨"f.json"⟩ t := by
  have format : Format.ofPath ⟨"f.json"⟩ = .json := by decide +kernel
  have spelled : Definition.ofText .json "\x7b\"name\":\"f\"\x7d" = .ok ⟨"f", {}, {}⟩ :=
    eq_ok_of_toOption (by decide +kernel)
  obtain ⟨t, compiled⟩ : ∃ t, (Definition.compile ⟨"f", {}, {}⟩).result = .ok t :=
    Compilation.exists_ok_of_isSome (by decide +kernel)
  refine ⟨t, fun output => ⟨_, _, read_definition output, ?_, ?_, compiled⟩⟩
  · rw [format, spelled]
  · decide

/-- The JSON value of the template with one more section. -/
def annotated (t : Template) : Json :=
  match t.toJson with
  | .object members => .object (("Metadata", .object []) :: members)
  | other => other

/-- With one more section the document is as portable as it was. -/
theorem portable_annotated (shallow : t.Shallow) : (annotated t).Portable 19 := by
  have portable := shallow.portable
  unfold Template.toJson at portable
  unfold annotated Template.toJson
  rw [Json.portable_object_iff] at portable ⊢
  exact ⟨by simp, List.forall_mem_cons.mpr ⟨by simp, portable.2⟩⟩

/-- The text with one more section is still read as the template. -/
theorem ofText_annotated (shallow : t.Shallow) :
    Template.ofText .json (annotated t).pretty = .ok t := by
  have read : Template.read (Json.Written.ofJson t.toJson) = .ok t :=
    Template.read_toJson Json.Written.faithful_ofJson fun entry member =>
      (shallow.properties entry member).wellFormed
  have skipped : Template.read (Json.Written.ofJson (annotated t)) = .ok t :=
    Json.Written.faithful_ofJson.readRecord_skip (by decide) _ read
  have written := Json.ofText?_pretty (portable_annotated shallow) (by decide)
  rw [Template.ofText, Template.ofJsonText, written, readTree]
  exact congrArg _ skipped

/-- Yet it does not spell the template's document, since that has no such section. -/
theorem not_spells_annotated (shallow : t.Shallow) {text : String}
    (read : (project (some (annotated t).pretty)).read ⟨"out.json"⟩ = .ok text) :
    TemplateFormat.value? .json text ≠ some t.toJson := by
  rw [read_output, Except.ok.injEq] at read
  rw [← read, TemplateFormat.value?_pretty (portable_annotated shallow) (by decide), Ne,
    Option.some.injEq]
  unfold annotated Template.toJson
  simp

/-- Compiling leaves the file alone that holds the template with one more section. -/
theorem exists_unchanged_annotated (compiles : ∀ output, CompilesTo (project output) ⟨"f.json"⟩ t) :
    ∃ o, runIn ⟨project (some (annotated t).pretty), []⟩
        (.compile ⟨"f.json"⟩ (some ⟨"out.json"⟩) .json) =
          (o, ⟨project (some (annotated t).pretty), []⟩) ∧ o.failure = none :=
  unchanged_of_holdsFingerprint (compiles _)
    ⟨_, t, read_output _, ofText_annotated (compiles none).shallow, rfl⟩

/-- No two texts in question have one hash: there is one text only. -/
theorem collisionFree_annotated (compiles : ∀ output, CompilesTo (project output) ⟨"f.json"⟩ t)
    {u old : Template} {text : String}
    (other : CompilesTo (project (some (annotated t).pretty)) ⟨"f.json"⟩ u)
    (read : (project (some (annotated t).pretty)).read ⟨"out.json"⟩ = .ok text)
    (spelled : Template.ofText .json text = .ok old) : old.toJson.compact = u.toJson.compact := by
  obtain rfl := other.unique (compiles _)
  rw [read_output, Except.ok.injEq] at read
  rw [← read, ofText_annotated (compiles none).shallow, Except.ok.injEq] at spelled
  rw [spelled]

/-- The project is compiled to a file that is missing, and to one that holds the template. -/
theorem output_project : ∃ t,
    (∃ o s' text, runIn ⟨project none, []⟩ (.compile ⟨"f.json"⟩ (some ⟨"out.json"⟩) .json) =
        (o, s') ∧ o.failure = none ∧ CompilesTo (project none) ⟨"f.json"⟩ t ∧
        s'.tree.read ⟨"out.json"⟩ = .ok text ∧
        TemplateFormat.value? .json text = some t.toJson) ∧
    ∃ o old, runIn ⟨project (some (annotated t).pretty), []⟩
        (.compile ⟨"f.json"⟩ (some ⟨"out.json"⟩) .json) =
          (o, ⟨project (some (annotated t).pretty), []⟩) ∧ o.failure = none ∧
        Template.ofText .json (annotated t).pretty = .ok old ∧ old.toJson = t.toJson := by
  obtain ⟨t, compiles⟩ := exists_compilesTo_project
  have missing : ∀ text, (project none).read ⟨"out.json"⟩ ≠ .ok text := by
    intro text read
    have absent : ((project none).read ⟨"out.json"⟩).toOption = none := by decide +kernel
    rw [read] at absent
    cases absent
  refine ⟨t, ?_, ?_⟩
  · have succeeded : (runIn ⟨project none, []⟩ (.compile ⟨"f.json"⟩ (some ⟨"out.json"⟩)
        .json)).1.failure = none := Option.isNone_iff_eq_none.mp (by decide +kernel)
    obtain ⟨u, other, ⟨_, text, read, spelled⟩ | ⟨_, same, text, _, read, _⟩⟩ :=
      output_of_compile (Prod.eta _).symm succeeded nofun
        fun _ text _ _ read => (missing text read).elim
    · obtain rfl := other.unique (compiles none)
      exact ⟨_, _, text, (Prod.eta _).symm, succeeded, other, read, spelled⟩
    · rw [same] at read
      exact (missing text read).elim
  · obtain ⟨o, ran, succeeded⟩ := exists_unchanged_annotated compiles
    obtain ⟨u, other, ⟨_, text, read, spelled⟩ | ⟨_, _, text, old, read, spelled, equal⟩⟩ :=
      output_of_compile ran succeeded nofun
        fun _ _ _ other read spelled _ => collisionFree_annotated compiles other read spelled
    · obtain rfl := other.unique (compiles _)
      exact (not_spells_annotated other.shallow read spelled).elim
    · obtain rfl := other.unique (compiles _)
      rw [read_output, Except.ok.injEq] at read
      exact ⟨o, old, ran, succeeded, read ▸ spelled, equal⟩

/-- A file is left alone although it does not spell the template. -/
theorem not_spells_template_of_compile :
    ¬ ∀ (tree tree' : FileTree) (file output : FilePath) (format : TemplateFormat) (o : Outcome)
      (t : Template), runOn tree (.compile file (some output) format) = (o, tree') →
      o.failure = none → CompilesTo tree file t →
      format.value? (t.text format) = some t.toJson →
      (∀ text old, tree.read output = .ok text → Template.ofText format text = .ok old →
        Blake3.hexHash old.toJson.compact = Blake3.hexHash t.toJson.compact →
        old.toJson.compact = t.toJson.compact) →
      ∃ text, tree'.read output = .ok text ∧ format.value? text = some t.toJson := by
  intro spells
  obtain ⟨t, compiles⟩ := exists_compilesTo_project
  obtain ⟨o, ran, succeeded⟩ := exists_unchanged_annotated compiles
  obtain ⟨text, read, spelled⟩ := spells _ _ _ _ _ o t (runOn_of_runIn ran) succeeded (compiles _)
    (compiles none).value?_json fun _ _ read spelled _ =>
      collisionFree_annotated compiles (compiles _) read spelled
  exact not_spells_annotated (compiles none).shallow read spelled

end Command

end Stackwright

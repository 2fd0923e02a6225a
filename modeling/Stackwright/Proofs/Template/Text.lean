import Stackwright.Command.Run
import Stackwright.Proofs.Compilation.Portable
import Stackwright.Proofs.Json.Compact
import Stackwright.Proofs.Template.RoundTrip

/-!
# Templates as text, and back

A template comes back from its JSON value, and from its text in either format as far as the format
gives back the value that it writes (`Template.ofText_text`). Every section and every object in the
properties of a resource comes back in order, which is why the fingerprint does not change.
-/

namespace Stackwright

open Datum

/-- A JSON value is seen as itself. -/
theorem Json.faithful_self : Faithful fun j : Json => j where
  text := fun _ => rfl
  items := by
    intro items
    rw [List.map_id']
    rfl
  record := fun _ _ => rfl
  optional := fun _ => rfl
  buffer := fun _ => rfl
  json := fun _ _ => rfl

/-- The text that the format writes for the value is read as that value. -/
def TemplateFormat.Keeps : TemplateFormat → Json → Prop
  | .json, j => Json.Written.ofText? j.pretty = some (.ofJson j)
  | .yaml, j => ∃ doc, Yaml.Document.ofText? (Yaml.render j) = some doc ∧ doc.toJson = .ok j

namespace TemplateFormat

/-- JSON text keeps every portable value within the limit of levels. -/
theorem keeps_json {depth : Nat} {j : Json} (portable : j.Portable depth)
    (shallow : depth < Json.levelLimit) : json.Keeps j :=
  Json.ofText?_pretty portable shallow

/-- Values are told apart by their compact texts, and texts can be compared by computing. -/
theorem keeps_yaml_of_compact {j : Json} (definite : j.Definite)
    (same : ((Yaml.Document.ofChars? (Yaml.chars j)).bind fun doc =>
      doc.toJson.toOption.map Json.compact) = some j.compact) : yaml.Keeps j := by
  obtain ⟨doc, spelled, value⟩ := Option.bind_eq_some_iff.mp same
  obtain ⟨back, read, texts⟩ := Option.map_eq_some_iff.mp value
  obtain rfl := Json.eq_of_compact_eq definite texts
  have written : Yaml.Document.ofText? (Yaml.render back) = some doc := by
    rw [Yaml.Document.ofText?, Yaml.render, String.toList_ofList, spelled]
  refine ⟨doc, written, ?_⟩
  cases whole : doc.toJson with
  | error reason => simp [whole, Except.toOption] at read
  | ok json => simpa [whole, Except.toOption] using read

end TemplateFormat

namespace Template

/-- The properties of every resource are JSON values, in which no object repeats a name. -/
def Proper (t : Template) : Prop :=
  ∀ entry ∈ t.resources.entries, entry.2.properties.WellFormed

/-- A template is read back from its JSON text, if the text keeps it. -/
theorem ofJsonText_pretty {t : Template} (proper : t.Proper)
    (keeps : TemplateFormat.json.Keeps t.toJson) : ofJsonText t.toJson.pretty = .ok t := by
  have spelled : Json.Written.ofText? t.toJson.pretty = some (.ofJson t.toJson) := keeps
  have read : Template.read (Json.Written.ofJson t.toJson) = .ok t :=
    read_toJson Json.Written.faithful_ofJson proper
  rw [ofJsonText, spelled, readTree, read, mapError_ok]

/-- A template is read back from its YAML text, if the text keeps it. -/
theorem ofYamlText_render {t : Template} (proper : t.Proper)
    (keeps : TemplateFormat.yaml.Keeps t.toJson) : ofYamlText (Yaml.render t.toJson) = .ok t := by
  obtain ⟨doc, spelled, value⟩ := keeps
  have read : Template.read t.toJson = .ok t := read_toJson Json.faithful_self proper
  rw [ofYamlText, spelled, readTree, value]
  change (Template.read t.toJson).mapError _ = _
  rw [read, mapError_ok]

/-- **Templates survive being written.** The template comes back from its value, and from its text
wherever the format keeps the value; the text then has the fingerprint of the template. -/
theorem ofText_text {t : Template} (proper : t.Proper) :
    Template.read t.toJson = .ok t ∧
      ∀ format : TemplateFormat, format.Keeps t.toJson →
        ofText format (t.text format) = .ok t ∧
        ∀ path, Command.existingFingerprint path format (.ok (t.text format)) =
          (some t.fingerprint, []) := by
  refine ⟨read_toJson Json.faithful_self proper, fun format keeps => ?_⟩
  have back : ofText format (t.text format) = .ok t := by
    cases format with
    | json => exact ofJsonText_pretty proper keeps
    | yaml => exact ofYamlText_render proper keeps
  exact ⟨back, fun path => by rw [Command.existingFingerprint, back]⟩

/-- A template with entries in every section. A name depends on a condition, and a text among the
properties is a truth value without its quotes. -/
def quotedTruth : Template where
  parameters := .ofList [("env", ⟨"String", none⟩), ("level", ⟨"String", some "no"⟩)]
  conditions := .ofList [("Unset", .equals (.ref "env") (.literal "NONE")),
    ("Filled", .not [.equals (.ref "level") (.literal "")])]
  resources := .ofList
    [("Log", ⟨"AWS::Logs::LogGroup", [], .object [("Days", .integer 7), ("Kept", .bool false)]⟩),
      ("Role", ⟨"AWS::IAM::Role", ["Log"], .object
        [("Enabled", .string "true"),
          ("Name", (Expr.ifThenElse "Unset" (.literal "f")
            (.join "-" [.literal "f", .ref "env"])).toJson),
          ("Tags", .array [.object [("Level", .object [("Ref", .string "level")])]])]⟩)]
  outputs := .ofList [("Arn", ⟨.getAtt "Role" "Arn"⟩),
    ("Site", ⟨.importValue (.sub "$\x7benv\x7d:Site")⟩)]

theorem shallow_quotedTruth : quotedTruth.Shallow where
  conditions := by
    simp [quotedTruth, OrderedMap.ofList, OrderedMap.insertMany, OrderedMap.insert,
      OrderedMap.empty, setEntry, Expr.Shallow, Expr.nesting, Expr.nestingAll]
  properties := by
    have name : (Expr.ifThenElse "Unset" (.literal "f")
        (.join "-" [.literal "f", .ref "env"])).Shallow := by
      simp [Expr.Shallow, Expr.nesting, Expr.nestingAll]
    have days : Json.Fits 7 := by
      unfold Json.Fits
      decide
    simp [quotedTruth, OrderedMap.ofList, OrderedMap.insertMany, OrderedMap.insert,
      OrderedMap.empty, setEntry, days, name.portable.mono (show 10 ≤ 15 by decide)]
  outputs := by
    simp [quotedTruth, OrderedMap.ofList, OrderedMap.insertMany, OrderedMap.insert,
      OrderedMap.empty, setEntry, Expr.Shallow, Expr.nesting]

/-- The example is read back from its text in both formats. -/
theorem ofText_text_quotedTruth : quotedTruth.Proper ∧ ∀ format : TemplateFormat,
    format.Keeps quotedTruth.toJson ∧
      ofText format (quotedTruth.text format) = .ok quotedTruth := by
  have portable := shallow_quotedTruth.portable
  have proper : quotedTruth.Proper := fun entry member =>
    (shallow_quotedTruth.properties entry member).wellFormed
  refine ⟨proper, fun format => ?_⟩
  have keeps : format.Keeps quotedTruth.toJson := by
    cases format with
    | json => exact TemplateFormat.keeps_json portable (by decide)
    | yaml => exact TemplateFormat.keeps_yaml_of_compact portable.definite (by decide +kernel)
  exact ⟨keeps, ((ofText_text proper).2 format keeps).1⟩

end Template

end Stackwright

import Stackwright.Proofs.Compilation.Environment
import Stackwright.Proofs.Compilation.NameKinds

/-!
# Empty names in valid definitions

Validation rejects variables without a name, and a mail identity whose parameter has none; the names
of tables and user pools become part of longer ones. It does not look at other parameters: those of
variables and of the sources of coalesced ones, and those of references, whose names are empty when
all three texts of the reference are. So every variable of a valid definition has a name in its
template, and every parameter has one exactly if none of these lacks it
(`namesFilled_iff_of_valid`).
-/

namespace Stackwright

open Compilation

/-- No parameter that the template declares and no name that it mentions is empty. -/
structure Template.NamesFilled (t : Template) : Prop where
  declared : "" ∉ t.parameters.keys
  -- the empty name has no dot, so this speaks about every reference and placeholder
  mentioned : ¬ t.Mentions ""

/-- The source is read through a parameter without a name. -/
def ValueSource.Unnamed : ValueSource → Prop
  | .parameter p => p.name = ""
  | .reference a => a = ⟨"", "", ""⟩

/-- The ways in which a parameter without a name gets past validation. -/
inductive Requirements.PassesUnnamed (r : Requirements) : Prop
  | resource {actions : List String} {resources : List IamResource}
      (listed : .iamAction actions resources ∈ r.permissions)
      (touched : .reference ⟨"", "", ""⟩ ∈ resources)
  | parameter {name : String} {p : Parameter} (listed : .parameter name p ∈ r.environment)
      (unnamed : p.name = "")
  | output {name : String} (listed : .resourceOutput name ⟨"", "", ""⟩ ∈ r.environment)
  | source {name : String} {first second : ValueSource}
      (listed : .coalesced name first second ∈ r.environment)
      (unnamed : first.Unnamed ∨ second.Unnamed)

/-- The parameter of a reference has no name exactly if all of its parts are empty. -/
theorem Reference.parameterName_eq_empty_iff {a : Reference} :
    a.parameterName = "" ↔ a = ⟨"", "", ""⟩ := by
  obtain ⟨category, resource, output⟩ := a
  simp only [parameterName, ← String.toList_inj, String.toList_append, String.toList_empty,
    List.append_eq_nil_iff, mk.injEq, and_assoc]

/-- The parameter of a reference with a category has a name. -/
theorem Reference.parameterName_ne_empty {a : Reference} (named : a.category ≠ "") :
    a.parameterName ≠ "" := by
  intro empty
  exact named (congrArg category (parameterName_eq_empty_iff.mp empty))

theorem ne_empty_of_whenTrue {text message : String}
    (faultless : Validation.whenTrue text.isEmpty message = []) : text ≠ "" := by
  rintro rfl
  exact absurd (whenTrue_eq_nil_iff.mp faultless) (by decide)

/-- A source is unnamed exactly if its parameter has no name. -/
theorem ValueSource.unnamed_iff {source : ValueSource} :
    source.Unnamed ↔ ∃ p ∈ source.parameters, p.name = "" := by
  cases source <;>
    simp [Unnamed, parameters, Reference.toParameter, Reference.parameterName_eq_empty_iff]

/-- The parameter for a table has a name. -/
theorem Table.name_ne_empty_of_mem {host : Table} {p : Parameter} (needed : p ∈ host.parameters) :
    p.name ≠ "" := by
  have named : host.outputReference.category ≠ "" := by simp [outputReference]
  rw [List.mem_singleton.mp needed]
  exact Reference.parameterName_ne_empty named

namespace Requirements

variable {d : Definition} {q : Parameter}

/-- Of the permissions, only the raw ones can bring in a parameter without a name. -/
theorem passesUnnamed_of_permission (valid : d.Valid) {p : Permission}
    (listed : p ∈ d.requirements.permissions) (needed : q ∈ p.parameters) (empty : q.name = "") :
    d.requirements.PassesUnnamed := by
  have faultless := permissionFaults_of_valid valid listed
  cases p with
  | table host actions => exact (Table.name_ne_empty_of_mem needed empty).elim
  | userPool pool actions =>
    have named : pool.idReference.category ≠ "" := by
      simp [UserPool.idReference, UserPool.outputReference]
    rw [List.mem_singleton.mp needed] at empty
    exact (Reference.parameterName_ne_empty named empty).elim
  | sendMail identity =>
    rw [List.mem_singleton.mp needed] at empty
    exact (ne_empty_of_whenTrue faultless empty).elim
  | iamAction actions resources =>
    obtain ⟨a, touched, rfl⟩ := List.mem_map.mp needed
    obtain ⟨resource, given, referred⟩ := List.mem_filterMap.mp touched
    cases resource with
    | literal arn => cases referred
    | reference a' =>
      cases referred
      exact .resource listed (Reference.parameterName_eq_empty_iff.mp empty ▸ given)

/-- A parameter without a name that a variable needs is one that validation lets pass. -/
theorem passesUnnamed_of_variable {v : Variable} (listed : v ∈ d.requirements.environment)
    (needed : q ∈ v.parameters) (empty : q.name = "") : d.requirements.PassesUnnamed := by
  cases v with
  | tableName host => exact (Table.name_ne_empty_of_mem needed empty).elim
  | parameter name p => exact .parameter listed (List.mem_singleton.mp needed ▸ empty)
  | resourceOutput name a =>
    rw [List.mem_singleton.mp needed, Reference.toParameter,
      Reference.parameterName_eq_empty_iff] at empty
    exact .output (empty ▸ listed)
  | coalesced name first second =>
    refine .source listed ?_
    rcases List.mem_append.mp needed with ofFirst | ofSecond
    · exact .inl (ValueSource.unnamed_iff.mpr ⟨q, ofFirst, empty⟩)
    · exact .inr (ValueSource.unnamed_iff.mpr ⟨q, ofSecond, empty⟩)

/-- Where validation lets one pass, a parameter without a name is required. -/
theorem exists_unnamed_of_passesUnnamed {r : Requirements} (passes : r.PassesUnnamed) :
    ∃ q ∈ r.parameters, q.name = "" := by
  cases passes with
  | resource listed touched =>
    refine ⟨Reference.toParameter ⟨"", "", ""⟩, mem_parameters_of_permission listed ?_, rfl⟩
    exact List.mem_map.mpr ⟨_, List.mem_filterMap.mpr ⟨_, touched, rfl⟩, rfl⟩
  | parameter listed unnamed =>
    exact ⟨_, mem_parameters_of_variable listed List.mem_cons_self, unnamed⟩
  | output listed => exact ⟨_, mem_parameters_of_variable listed List.mem_cons_self, rfl⟩
  | source listed unnamed =>
    rcases unnamed with ofFirst | ofSecond
    · obtain ⟨q, needed, empty⟩ := ValueSource.unnamed_iff.mp ofFirst
      exact ⟨q, mem_parameters_of_variable listed (List.mem_append_left _ needed), empty⟩
    · obtain ⟨q, needed, empty⟩ := ValueSource.unnamed_iff.mp ofSecond
      exact ⟨q, mem_parameters_of_variable listed (List.mem_append_right _ needed), empty⟩

/-- A valid definition requires a parameter without a name in one of these ways or not at all. -/
theorem passesUnnamed_iff_of_valid (valid : d.Valid) :
    d.requirements.PassesUnnamed ↔ ∃ q ∈ d.requirements.parameters, q.name = "" := by
  refine ⟨exists_unnamed_of_passesUnnamed, ?_⟩
  rintro ⟨q, required, empty⟩
  simp only [parameters, List.mem_append, List.mem_flatMap] at required
  rcases required with (⟨p, listed, needed⟩ | ⟨v, listed, needed⟩) | ⟨host, _, needed⟩
  · exact passesUnnamed_of_permission valid listed needed empty
  · exact passesUnnamed_of_variable listed needed empty
  · exact (Table.name_ne_empty_of_mem needed empty).elim

end Requirements

namespace Compilation

variable {name : String} {r : Requirements} {s : Settings} {declared : OrderedMap String Expr}

/-- A template has an empty name exactly if the function requires one. -/
theorem namesFilled_assembled_iff (grounded : (assembled name r s declared).Grounded) :
    (assembled name r s declared).NamesFilled ↔ ¬ ∃ q ∈ r.parameters, q.name = "" := by
  have fixed : "" ≠ resourceNameParameter ∧ "" ≠ envParameter := by decide
  have declares : "" ∈ (assembled name r s declared).parameters.keys ↔
      ∃ q ∈ r.parameters, q.name = "" := by
    rw [assembled, mem_keys_parameters, or_iff_right fixed.1, or_iff_right fixed.2]
  refine ⟨fun filled => declares.not.mp filled.declared, fun required => ?_⟩
  refine ⟨declares.not.mpr required, fun mentions => ?_⟩
  obtain ⟨kind, denotes⟩ := exists_denotes_of_mentions grounded mentions
  by_cases free : kind = .required
  · subst free
    exact required denotes
  · obtain ⟨_, _, begins⟩ := exists_initial_of_denotes denotes free
    cases begins

end Compilation

/-- The variables of a valid definition have names. -/
theorem Definition.Valid.variable_name_ne_empty {d : Definition} (valid : d.Valid) {v : Variable}
    (listed : v ∈ d.requirements.environment) : v.name ≠ "" :=
  ne_empty_of_whenTrue (List.append_eq_nil_iff.mp (variableFaults_of_valid valid listed)).2

/-- **Which valid definitions give empty names.** No variable in the template of a valid definition
has an empty name; a parameter has one exactly if it gets past validation in one of four ways. -/
theorem namesFilled_iff_of_valid {d : Definition} (valid : d.Valid) {t : Template}
    (compiled : d.compile.result = .ok t) :
    (∃ members, t.variables? = some members ∧ "" ∉ members.map Prod.fst) ∧
      (t.NamesFilled ↔ ¬ d.requirements.PassesUnnamed) := by
  obtain ⟨_, _, declared, collected, rfl, closed⟩ := compile_eq_ok_iff.mp compiled
  constructor
  · refine ⟨_, variables?_assembled _ _ _ declared, fun member => ?_⟩
    rw [(mergesInto_environment d.requirements).names, List.mem_eraseDups, List.mem_append]
      at member
    rcases member with fixed | named
    · exact absurd fixed (by decide)
    · obtain ⟨v, listed, empty⟩ := List.mem_map.mp named
      exact valid.variable_name_ne_empty listed empty
  · rw [namesFilled_assembled_iff (grounded_assembled collected closed),
      Requirements.passesUnnamed_iff_of_valid valid]

/-- A function with parameters of all these kinds, none of them without a name, though some texts
of references are empty. -/
def partlyNamed : Definition where
  name := "f"
  requirements :=
    { permissions := [.iamAction ["s3:GetObject"] [.reference ⟨"", "Bucket", ""⟩]]
      environment := [.parameter "STAGE" ⟨"stage", none⟩, .resourceOutput "PAGE" ⟨"web", "", ""⟩,
        .coalesced "URL" (.reference ⟨"", "", "Url"⟩) (.parameter ⟨"fallback", none⟩)] }

/-- In the example no parameter without a name gets past validation. -/
theorem not_passesUnnamed_partlyNamed : ¬ partlyNamed.requirements.PassesUnnamed := by
  intro passes
  have unnamed := Requirements.exists_unnamed_of_passesUnnamed passes
  revert unnamed
  decide +kernel

/-- A reference with two empty parts still gives its parameter a name. -/
theorem namesFilled_partlyNamed : ∃ t, partlyNamed.compile.result = .ok t ∧ t.NamesFilled := by
  obtain ⟨t, compiled⟩ : ∃ t, partlyNamed.compile.result = .ok t :=
    exists_ok_of_isSome (by decide +kernel)
  obtain ⟨_, filled⟩ := namesFilled_iff_of_valid (by decide +kernel) compiled
  exact ⟨t, compiled, filled.mpr not_passesUnnamed_partlyNamed⟩

/-- A variable of a parameter without a name. -/
def unnamedStage : Definition where
  name := "f"
  requirements := { environment := [.parameter "STAGE" ⟨"", none⟩] }

/-- A valid definition can declare and read a parameter without a name. -/
theorem not_namesFilled_of_valid :
    ¬ ∀ (d : Definition) (t : Template), d.Valid → d.compile.result = .ok t → t.NamesFilled := by
  intro filled
  obtain ⟨t, compiled⟩ : ∃ t, unnamedStage.compile.result = .ok t :=
    exists_ok_of_isSome (by decide +kernel)
  have absent := (filled unnamedStage t (by decide +kernel) compiled).declared
  have required : ∃ q ∈ unnamedStage.requirements.parameters, q.name = "" := by decide
  obtain ⟨_, _, declared, _, rfl, _⟩ := compile_eq_ok_iff.mp compiled
  exact absent (mem_keys_parameters.mpr (.inr (.inr required)))

end Stackwright

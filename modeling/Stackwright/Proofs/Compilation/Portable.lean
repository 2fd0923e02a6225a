import Stackwright.Datum.Source
import Stackwright.Proofs.Compilation.Outcome
import Stackwright.Proofs.Compilation.Sections
import Stackwright.Proofs.Json.TextRoundTrip

/-!
# Compiled templates as text

The JSON value of a compiled template is one that its printed text spells and that its compact text
determines, as long as the numbers in its settings have 32 bits (`shallow_of_compile`,
`Template.Shallow.portable`).
-/

namespace Stackwright

namespace Json

/-- What is portable within a depth is portable within any greater one. -/
theorem Portable.mono {depth deeper : Nat} {j : Json} (portable : Portable depth j)
    (le : depth ≤ deeper) : Portable deeper j := by
  induction portable generalizing deeper with
  | bool b => exact .bool b
  | integer fits => exact .integer fits
  | string s => exact .string s
  | array _ ih =>
    cases deeper with
    | zero => omega
    | succ deeper => exact .array fun item member => ih item member (by omega)
  | object distinct _ ih =>
    cases deeper with
    | zero => omega
    | succ deeper => exact .object distinct fun member listed => ih member listed (by omega)

section

variable {depth : Nat}

@[simp] theorem portable_bool (b : Bool) : Portable depth (.bool b) := .bool b

@[simp] theorem portable_string (s : String) : Portable depth (.string s) := .string s

@[simp] theorem portable_integer_iff {n : Int} : Portable depth (.integer n) ↔ Fits n :=
  ⟨fun portable => by cases portable; assumption, .integer⟩

@[simp] theorem portable_array_iff {items : List Json} :
    Portable (depth + 1) (.array items) ↔ ∀ item ∈ items, Portable depth item :=
  ⟨fun portable => by cases portable; assumption, .array⟩

/-- An object is portable if its names are distinct and its values portable, within one level
less. -/
@[simp] theorem portable_object_iff {members : List (String × Json)} :
    Portable (depth + 1) (.object members) ↔
      (members.map Prod.fst).Nodup ∧ ∀ member ∈ members, Portable depth member.2 :=
  ⟨fun portable => by cases portable; exact ⟨‹_›, ‹_›⟩, fun parts => .object parts.1 parts.2⟩

@[simp] theorem portable_strings (items : List String) : Portable (depth + 1) (strings items) := by
  simp [strings]

/-- A map is written as a portable object if its values are written portably. -/
theorem portable_ofMap {α : Type} {encode : α → Json} {map : OrderedMap String α}
    (each : ∀ entry ∈ map.entries, Portable depth (encode entry.2)) :
    Portable (depth + 1) (ofMap encode map) := by
  refine .object ?_ (List.forall_mem_map.mpr each)
  rw [List.map_map]
  exact map.distinct

end

end Json

open Json

namespace Expr

mutual

/-- How many containers stand inside each other in the JSON of an expression. -/
def nesting : Expr → Nat
  | .literal _ => 0
  | .ref _ | .sub _ => 1
  | .getAtt _ _ => 2
  | .ifThenElse _ t e => max t.nesting e.nesting + 2
  | .equals l r => max l.nesting r.nesting + 2
  | .not cs => nestingAll cs + 2
  | .importValue n => n.nesting + 1
  | .join _ ps => nestingAll ps + 3

def nestingAll : List Expr → Nat
  | [] => 0
  | e :: rest => max e.nesting (nestingAll rest)

end

/-- A call is portable within one level more than its argument. -/
theorem portable_call {depth : Nat} {function : String} {argument : Json}
    (portable : Portable depth argument) : Portable (depth + 1) (call function argument) := by
  simp [call, portable]

mutual

/-- An expression is written portably within the depth of its own nesting. -/
theorem portable_toJson : (e : Expr) → Portable e.nesting e.toJson
  | .literal s => .string s
  | .ref _ | .sub _ => portable_call (.string _)
  | .getAtt _ _ => portable_call (by simp)
  | .ifThenElse _ t e => by
    have whenTrue := (portable_toJson t).mono (Nat.le_max_left t.nesting e.nesting)
    have whenFalse := (portable_toJson e).mono (Nat.le_max_right t.nesting e.nesting)
    exact portable_call (by simp [whenTrue, whenFalse])
  | .equals l r => by
    have left := (portable_toJson l).mono (Nat.le_max_left l.nesting r.nesting)
    have right := (portable_toJson r).mono (Nat.le_max_right l.nesting r.nesting)
    exact portable_call (by simp [left, right])
  | .not cs => portable_call (.array (portable_toJsonAll cs))
  | .importValue n => portable_call (portable_toJson n)
  | .join _ ps => by
    have parts : Portable (nestingAll ps + 1) (.array (toJsonAll ps)) :=
      .array (portable_toJsonAll ps)
    exact portable_call (by simp [parts])

theorem portable_toJsonAll : (es : List Expr) →
    ∀ item ∈ toJsonAll es, Portable (nestingAll es) item
  | [] => by simp [toJsonAll]
  | e :: rest => by
    rw [toJsonAll, List.forall_mem_cons]
    refine ⟨(portable_toJson e).mono (Nat.le_max_left _ _), fun item member => ?_⟩
    exact (portable_toJsonAll rest item member).mono (Nat.le_max_right _ _)

end

/-- The expression is not deeper than those in templates are. -/
def Shallow (e : Expr) : Prop := e.nesting ≤ 10

/-- A shallow expression is written within ten levels. -/
theorem Shallow.portable {e : Expr} (shallow : e.Shallow) : Portable 10 e.toJson :=
  (portable_toJson e).mono shallow

end Expr

open Stackwright.Expr

/-- A statement with shallow resources is written portably. -/
theorem PolicyStatement.portable_toJson {s : PolicyStatement}
    (shallow : ∀ e ∈ s.resources, e.Shallow) : Portable 12 s.toJson := by
  obtain ⟨effect, services, actions, resources⟩ := s
  have listed : Portable 11 (.array (resources.map Expr.toJson)) :=
    .array (List.forall_mem_map.mpr fun e member => (shallow e member).portable)
  unfold PolicyStatement.toJson
  cases services <;> cases resources <;> simp_all [Json.optional]

/-- A policy document with shallow resources is portable. -/
theorem portable_policyDocument {statements : List PolicyStatement}
    (shallow : ∀ s ∈ statements, ∀ e ∈ s.resources, e.Shallow) :
    Portable 14 (policyDocument statements) := by
  have each : Portable 13 (.array (statements.map PolicyStatement.toJson)) :=
    .array (List.forall_mem_map.mpr fun s member =>
      PolicyStatement.portable_toJson (shallow s member))
  simp [policyDocument, each]

/-- The declaration of a parameter is written portably. -/
theorem ParameterDecl.portable_toJson (d : ParameterDecl) : Portable 12 d.toJson := by
  obtain ⟨type, defaultValue⟩ := d
  unfold ParameterDecl.toJson
  cases defaultValue <;> simp [Json.optional]

/-- A resource with portable properties is declared portably. -/
theorem ResourceDecl.portable_toJson {d : ResourceDecl} (properties : Portable 16 d.properties) :
    Portable 17 d.toJson := by
  obtain ⟨type, dependsOn, properties⟩ := d
  unfold ResourceDecl.toJson
  cases dependsOn <;> simp_all

/-- The conditions, the properties of resources and the outputs are not deeper than those that are
compiled. -/
structure Template.Shallow (t : Template) : Prop where
  conditions : ∀ entry ∈ t.conditions.entries, entry.2.Shallow
  properties : ∀ entry ∈ t.resources.entries, Portable 16 entry.2.properties
  outputs : ∀ entry ∈ t.outputs.entries, entry.2.value.Shallow

/-- A shallow template is written within nineteen levels. -/
theorem Template.Shallow.portable {t : Template} (shallow : t.Shallow) : Portable 19 t.toJson := by
  have parameters : Portable 18 (.ofMap ParameterDecl.toJson t.parameters) :=
    portable_ofMap fun entry _ => (ParameterDecl.portable_toJson entry.2).mono (by decide)
  have conditions : Portable 18 (.ofMap Expr.toJson t.conditions) :=
    portable_ofMap fun entry member => (shallow.conditions entry member).portable.mono (by decide)
  have resources : Portable 18 (.ofMap ResourceDecl.toJson t.resources) :=
    portable_ofMap fun entry member =>
      ResourceDecl.portable_toJson (shallow.properties entry member)
  have outputs : Portable 18 (.ofMap OutputDecl.toJson t.outputs) := by
    refine portable_ofMap fun entry member => ?_
    have value := (shallow.outputs entry member).portable.mono (show 10 ≤ 16 by decide)
    simp [OutputDecl.toJson, value]
  simp [Template.toJson, parameters, conditions, resources, outputs]

/-- The numbers in the settings have 32 bits. -/
def Settings.Fits (s : Settings) : Prop :=
  s.timeout ≤ Datum.countLimit ∧ ∀ size ∈ s.memorySize, size ≤ Datum.countLimit

theorem fits_of_le {n : Nat} (small : n ≤ Datum.countLimit) : Json.Fits n := by
  have limits : Datum.countLimit ≤ significandLimit := by decide
  unfold Json.Fits
  omega

namespace Compilation

variable {r : Requirements} {s : Settings}

section

attribute [local simp] Expr.Shallow nesting nestingAll

/-- A source is read by one call. -/
theorem shallow_source (source : ValueSource) : source.expr.nesting = 1 := by
  cases source <;> rfl

/-- The value of a variable is shallow. -/
theorem shallow_value (v : Variable) : v.value.Shallow := by
  cases v with
  | tableName host => simp [Variable.value, Table.nameExpr, Table.imported]
  | parameter name p => simp [Variable.value, Parameter.expr]
  | resourceOutput name r => simp [Variable.value, Reference.expr]
  | coalesced name first second =>
    simp [Variable.value, shallow_source first, shallow_source second]

/-- The values of the environment are shallow. -/
theorem shallow_environment : ∀ entry ∈ (environment r).1.entries, entry.2.Shallow := by
  intro entry member
  rw [environment, addVariables_fst] at member
  rcases OrderedMap.mem_entries_insertMany member with fixed | written
  · have listed := OrderedMap.mem_entries_ofList fixed
    simp only [List.mem_cons, List.not_mem_nil, or_false] at listed
    rcases listed with rfl | rfl <;> simp [Expr.region]
  · obtain ⟨v, _, rfl⟩ := List.mem_map.mp written
    exact shallow_value v

/-- The collected conditions are shallow. -/
theorem shallow_conditions {declared : OrderedMap String Expr}
    (collected : conditions r = .ok declared) : ∀ entry ∈ declared.entries, entry.2.Shallow := by
  intro entry member
  rw [(conditions_ok collected).1] at member
  rcases OrderedMap.mem_entries_insert member with rfl | earlier
  · simp [noEnvironmentGuard]
  · obtain ⟨v, _, needed⟩ := List.mem_flatMap.mp (OrderedMap.mem_entries_ofList earlier)
    cases v with
    | coalesced name first second =>
      rw [List.mem_singleton.mp needed]
      simp [shallow_source first]
    | tableName | parameter | resourceOutput => cases needed

/-- The resources of a permission's statement are shallow. -/
theorem shallow_statement (p : Permission) : ∀ e ∈ p.statement.resources, e.Shallow := by
  cases p with
  | table host actions =>
    simp [Permission.statement, PolicyStatement.allow, Table.arn, Table.nameExpr, Table.imported,
      regionalArn, Expr.region, Expr.accountId]
  | userPool pool actions =>
    simp [Permission.statement, PolicyStatement.allow, UserPool.arn, Reference.expr, regionalArn,
      Expr.region, Expr.accountId]
  | sendMail identity =>
    simp [Permission.statement, PolicyStatement.allow, Permission.mailIdentity]
  | iamAction actions resources =>
    simp only [Permission.statement, PolicyStatement.allow, List.forall_mem_map]
    intro resource _
    cases resource <;> simp [IamResource.expr, Reference.expr]

/-- A name with the environment in it is five levels deeper than the name alone, at most. -/
theorem nesting_envScoped (base : Expr) : (envScoped base).nesting ≤ max base.nesting 1 + 5 := by
  simp only [envScoped, nesting, nestingAll]
  omega

end

/-- The function resource is portable if the numbers of its settings fit. -/
theorem portable_functionResource (fits : s.Fits) :
    Portable 16 (functionResource (environment r).1 s).properties := by
  have name : (envScoped (.ref resourceNameParameter)).Shallow :=
    Nat.le_trans (nesting_envScoped _) (by decide)
  have inner : Portable 14 (.ofMap Expr.toJson (environment r).1) :=
    portable_ofMap fun entry member =>
      (shallow_environment entry member).portable.mono (by decide)
  have role : Portable 15 (Expr.getAtt roleId "Arn").toJson :=
    (portable_toJson _).mono (by decide)
  have named := name.portable.mono (show 10 ≤ 15 by decide)
  have timeout := fits_of_le fits.1
  have memory : ∀ size ∈ s.memorySize, Json.Fits size :=
    fun size given => fits_of_le (fits.2 size given)
  obtain ⟨handler, runtime, seconds, memorySize, code⟩ := s
  unfold functionResource
  cases memorySize <;> cases code <;> simp_all [Json.optional]

theorem portable_roleResource : Portable 16 roleResource.properties := by
  have name : (envScoped (.join "" [.ref resourceNameParameter, .literal "LambdaRole"])).Shallow :=
    Nat.le_trans (nesting_envScoped _) (by decide)
  have trust : Portable 15 (policyDocument [trustStatement]) :=
    (portable_policyDocument (by simp [trustStatement])).mono (by decide)
  simp [roleResource, name.portable.mono (show 10 ≤ 15 by decide), trust]

/-- A policy for the role is portable if the resources of its statements are shallow. -/
theorem portable_rolePolicy {policy : String} {statements : List PolicyStatement}
    (shallow : ∀ s ∈ statements, ∀ e ∈ s.resources, e.Shallow) :
    Portable 16 (rolePolicy policy statements).properties := by
  have document := (portable_policyDocument shallow).mono (show 14 ≤ 15 by decide)
  have role : Portable 14 (Expr.ref roleId).toJson := (portable_toJson _).mono (by decide)
  simp [rolePolicy, document, role]

theorem portable_eventSourceMapping (host : Table) :
    Portable 16 (eventSourceMapping host).properties := by
  have stream : Portable 15 host.streamArn.toJson :=
    (portable_toJson _).mono (by simp [Table.streamArn, Table.imported, nesting])
  have function : Portable 15 (Expr.getAtt functionId "Arn").toJson :=
    (portable_toJson _).mono (by decide)
  have one : Json.Fits 1 := by
    unfold Json.Fits
    decide
  simp [eventSourceMapping, stream, function, one]

/-- An assembled template is shallow. -/
theorem shallow_assembled {name : String} {declared : OrderedMap String Expr}
    (collected : conditions r = .ok declared) (fits : s.Fits) :
    (assembled name r s declared).Shallow where
  conditions := shallow_conditions collected
  properties := by
    intro entry member
    rw [assembled, entries_resources] at member
    simp only [List.mem_append, List.mem_cons, List.not_mem_nil, or_false, List.mem_flatMap]
      at member
    rcases member with (rfl | rfl | rfl) | ⟨host, _, rfl | rfl⟩
    · exact portable_functionResource fits
    · exact portable_roleResource
    · refine portable_rolePolicy (List.forall_mem_cons.mpr ⟨?_, ?_⟩)
      · simp [logStatement, PolicyStatement.allow, Expr.Shallow, nesting]
      · exact List.forall_mem_map.mpr fun p _ => shallow_statement p
    · refine portable_rolePolicy (List.forall_mem_singleton.mpr ?_)
      simp [streamStatement, PolicyStatement.allow, Table.streamArn, Table.imported, Expr.Shallow,
        nesting]
    · exact portable_eventSourceMapping host
  outputs := by
    intro entry member
    have listed := OrderedMap.mem_entries_ofList member
    simp only [List.mem_cons, List.not_mem_nil, or_false] at listed
    rcases listed with rfl | rfl | rfl | rfl <;> simp [Expr.Shallow, nesting, Expr.region]

end Compilation

/-- A compiled template is shallow. -/
theorem shallow_of_compile {name : String} {r : Requirements} {s : Settings} {t : Template}
    (compiled : (compile name r s).result = .ok t) (fits : s.Fits) : t.Shallow := by
  obtain ⟨_, _, declared, collected, rfl, _⟩ := compile_eq_ok_iff.mp compiled
  exact Compilation.shallow_assembled collected fits

end Stackwright

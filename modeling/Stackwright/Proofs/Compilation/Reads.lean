import Stackwright.Proofs.Compilation.Grants
import Stackwright.Proofs.Compilation.Grounding
import Stackwright.Proofs.Fragment.Reads
import Stackwright.Proofs.Template.Uses

/-!
# Names that a function reads

The values that an assembled template uses are those that the function reads (`Requirements.Reads`)
and the fixed ones of the skeleton (`Compilation.value_mem_uses_assembled_iff`). Texts are built
from names that the user chooses, so what a placeholder reads need not be the parameter that was
meant; with `Requirements.Plain` names it is.
-/

namespace Stackwright

open Compilation

namespace Requirements

/-- Some part of the function that reaches the template reads the name. -/
def Reads (r : Requirements) (name : String) : Prop :=
  (∃ v ∈ r.environment, ∃ guard ∈ v.conditions, name ∈ guard.2.reads) ∨
    (∃ x v, r.lastNamed x = some v ∧ name ∈ v.value.reads) ∨
    (∃ p ∈ r.permissions, ∃ e ∈ p.statement.resources, name ∈ e.reads) ∨
    ∃ host, r.eventSource = some host ∧ name ∈ host.streamArn.reads

/-- The template of the function declares a parameter or a resource of the name. -/
def Names (r : Requirements) (name : String) : Prop :=
  name ∈ [envParameter, resourceNameParameter, functionId, roleId, policyId] ∨
    (∃ p ∈ r.parameters, p.name = name) ∨
    ∃ host, r.eventSource = some host ∧ (name = triggerPolicyId host ∨ name = mappingId host)

/-- What the name could stand for is of the platform or declared. -/
def Knows (r : Requirements) (name : String) : Prop := Template.OfPlatform name ∨ r.Names name

/-- The tables whose names the function puts into texts. -/
def tables (r : Requirements) : List Table :=
  r.permissions.flatMap Permission.tables ++ r.environment.flatMap Variable.tables
    ++ r.eventSource.toList

/-- No parameter's name holds a dot, and all texts read as they are meant. -/
structure Plain (r : Requirements) : Prop where
  dotFree : ∀ p ∈ r.parameters, '.' ∉ p.name.toList
  tables : ∀ host ∈ r.tables, host.Plain
  identities : ∀ p ∈ r.permissions, ∀ identity ∈ p.identities, '}' ∉ identity.name.toList

/-- With plain names, the function reads its own parameters and the platform's. -/
theorem Plain.reads {r : Requirements} (plain : r.Plain) {x : String} (read : r.Reads x) :
    x ∈ platformReads ∨ ∃ p ∈ r.parameters, p.name = x := by
  rcases read with ⟨v, listed, guard, needed, read⟩ | ⟨y, v, last, read⟩ |
    ⟨p, listed, e, granted, read⟩ | ⟨host, source, read⟩
  · obtain ⟨q, needs, same⟩ := Variable.reads_conditions needed read
    exact .inr ⟨q, mem_parameters_of_variable listed needs, same⟩
  · have listed : v ∈ r.environment := List.mem_reverse.mp (List.mem_of_find?_eq_some last)
    have tables : ∀ host ∈ v.tables, host.Plain := fun host about =>
      plain.tables host (List.mem_append_left _ (List.mem_append_right _
        (List.mem_flatMap.mpr ⟨v, listed, about⟩)))
    obtain ⟨q, needs, same⟩ := Variable.reads_value_of_plain tables read
    exact .inr ⟨q, mem_parameters_of_variable listed needs, same⟩
  · have tables : ∀ host ∈ p.tables, host.Plain := fun host about =>
      plain.tables host (List.mem_append_left _ (List.mem_append_left _
        (List.mem_flatMap.mpr ⟨p, listed, about⟩)))
    refine (Permission.reads_of_plain tables (plain.identities p listed) granted read).imp_right ?_
    exact fun ⟨q, needs, same⟩ => ⟨q, mem_parameters_of_permission listed needs, same⟩
  · have present : host ∈ r.eventSource.toList := Option.mem_toList.mpr source
    have hostPlain := plain.tables host (List.mem_append_right _ present)
    obtain ⟨q, needs, same⟩ := (Table.mem_reads_imported_iff hostPlain (by decide)).mp read
    exact .inr ⟨q, List.mem_append_right _ (List.mem_flatMap.mpr ⟨host, present, needs⟩), same⟩

/-- With plain requirements every name that is read has no dot and is known. -/
theorem Plain.dotFree_and_knows {r : Requirements} (plain : r.Plain) {x : String}
    (read : r.Reads x) : '.' ∉ x.toList ∧ r.Knows x := by
  rcases plain.reads read with ofPlatform | ⟨p, member, rfl⟩
  · have each : ∀ name ∈ platformReads, '.' ∉ name.toList ∧ Template.OfPlatform name := by decide
    exact (each x ofPlatform).imp_right .inl
  · exact ⟨plain.dotFree p member, .inr (.inr (.inl ⟨p, member, rfl⟩))⟩

end Requirements

namespace Compilation

/-- The names that the fixed parts of a template read. -/
def fixedReads : List String :=
  [envParameter, resourceNameParameter, functionId, roleId] ++ platformReads

section Assembled

variable {name : String} {r : Requirements} {s : Settings} {declared : OrderedMap String Expr}

/-- The assembled template declares the names that the requirements do. -/
theorem names_assembled_iff {x : String} :
    (assembled name r s declared).Names x ↔ r.Names x := by
  have resources : x ∈ (resources (environment r).1 s r).keys ↔ x ∈ [functionId, roleId, policyId] ∨
      ∃ host, r.eventSource = some host ∧ (x = triggerPolicyId host ∨ x = mappingId host) := by
    rw [keys_resources, List.mem_append, List.mem_flatMap]
    simp
  rw [Template.Names, OrderedMap.contains_iff, OrderedMap.contains_iff, assembled, resources,
    mem_keys_parameters]
  simp only [Requirements.Names, List.mem_cons, List.not_mem_nil, or_false]
  grind

/-- A name with the environment in it reads the environment's name beside its own. -/
theorem mem_reads_envScoped_iff {base : Expr} {x : String} :
    x ∈ (envScoped base).reads ↔ x ∈ base.reads ∨ x = envParameter := by
  simp [envScoped]

/-- Apart from its two fixed variables, the environment reads what the variable declared last under
each name reads. -/
theorem reads_of_mem_environment {entry : String × Expr} {x : String}
    (member : entry ∈ (environment r).1.entries) (read : x ∈ entry.2.reads) :
    x ∈ fixedReads ∨ ∃ y v, r.lastNamed y = some v ∧ x ∈ v.value.reads := by
  obtain ⟨y, e⟩ := entry
  have held := OrderedMap.get?_eq_some_iff.mpr member
  rw [get?_environment] at held
  cases last : r.lastNamed y with
  | some v =>
    rw [last, Option.map_some, Option.some_or, Option.some.injEq] at held
    exact .inr ⟨y, v, last, held ▸ read⟩
  | none =>
    rw [last, Option.map_none, Option.none_or] at held
    have listed := OrderedMap.mem_entries_ofList (OrderedMap.get?_eq_some_iff.mp held)
    simp only [List.mem_cons, Prod.mk.injEq, List.not_mem_nil, or_false] at listed
    left
    rcases listed with ⟨_, rfl⟩ | ⟨_, rfl⟩
    · rw [List.mem_singleton.mp read]
      simp [fixedReads, platformReads]
    · rw [List.mem_singleton.mp read]
      simp [fixedReads, platformReads]

/-- The last variable of a name gives the environment its value under this name. -/
theorem mem_environment_of_lastNamed {y : String} {v : Variable} (last : r.lastNamed y = some v) :
    (y, v.value) ∈ (environment r).1.entries := by
  rw [← OrderedMap.get?_eq_some_iff, get?_environment, last, Option.map_some, Option.some_or]

/-- The environment uses the names that its values read. -/
theorem value_mem_uses_variables_iff {x : String} :
    .value x ∈ (Json.ofMap Expr.toJson (environment r).1).uses ↔
      ∃ entry ∈ (environment r).1.entries, x ∈ entry.2.reads := by
  rw [Json.ofMap, Json.uses_object_eq]
  · simp only [List.flatMap_map, List.mem_flatMap, Expr.value_mem_uses_toJson_iff]
  · intro member present _
    obtain ⟨entry, listed, rfl⟩ := List.mem_map.mp present
    exact exists_toJson_environment_eq entry listed

/-- The settings use no names. -/
theorem uses_functionResource (values : OrderedMap String Expr) (s : Settings) :
    (functionResource values s).properties.uses =
      (envScoped (.ref resourceNameParameter)).toJson.uses ++
        (Json.ofMap Expr.toJson values).uses ++ (Expr.getAtt roleId "Arn").toJson.uses := by
  have inner : (Json.object [("Variables", .ofMap Expr.toJson values)]).uses =
      (Json.ofMap Expr.toJson values).uses := by
    rw [Json.uses_object_eq (by simp [Expr.functions]), List.flatMap_singleton]
  have size : (Json.optional "MemorySize" (s.memorySize.map fun n : Nat => .integer n)).flatMap
      (fun member => member.2.uses) = [] := by
    cases s.memorySize <;> simp [Json.optional]
  have code : (Json.optional "Code" (s.code.map fun code =>
      .object [("S3Bucket", .string code.bucket), ("S3Key", .string code.key)])).flatMap
      (fun member => member.2.uses) = [] := by
    cases s.code with
    | none => rfl
    | some code =>
      rw [Option.map_some, Json.optional, List.flatMap_singleton, Json.uses_object_eq]
      · simp
      · simp [Expr.functions]
  rw [functionResource, Json.uses_object_eq]
  · simp [size, code, inner]
  · simp only [List.forall_mem_append, List.forall_mem_cons, Json.forall_mem_optional_iff]
    simp [Expr.functions]

/-- The function resource uses the names that its own name and its environment read. -/
theorem value_mem_uses_functionResource_iff {x : String} :
    .value x ∈ (functionResource (environment r).1 s).properties.uses ↔
      x = resourceNameParameter ∨ x = envParameter ∨
        ∃ entry ∈ (environment r).1.entries, x ∈ entry.2.reads := by
  rw [uses_functionResource]
  simp [value_mem_uses_variables_iff, Expr.value_mem_uses_toJson_iff, mem_reads_envScoped_iff,
    or_assoc]

/-- A statement uses the names that its resources read. -/
theorem value_mem_uses_statement_iff {stated : PolicyStatement} {x : String} :
    .value x ∈ stated.toJson.uses ↔ ∃ e ∈ stated.resources, x ∈ e.reads := by
  have services : (Json.optional "Principal" (stated.services.map fun names =>
      .object [("Service", .strings names)])).flatMap (fun member => member.2.uses) = [] := by
    cases stated.services with
    | none => rfl
    | some names =>
      rw [Option.map_some, Json.optional, List.flatMap_singleton, Json.uses_object_eq]
      · simp
      · simp [Expr.functions]
  rw [PolicyStatement.toJson, Json.uses_object_eq]
  · cases listed : stated.resources with
    | nil => simp [services]
    | cons e rest =>
      simp [services, Json.uses_array_eq, List.flatMap_map, Expr.value_mem_uses_toJson_iff]
  · simp only [List.forall_mem_append, List.forall_mem_cons, Json.forall_mem_optional_iff]
    simp [Expr.functions]

theorem value_mem_uses_policyDocument_iff {statements : List PolicyStatement} {x : String} :
    .value x ∈ (policyDocument statements).uses ↔
      ∃ stated ∈ statements, ∃ e ∈ stated.resources, x ∈ e.reads := by
  rw [policyDocument, Json.uses_object_eq (by simp [Expr.functions])]
  simp [Json.uses_array_eq, List.flatMap_map, value_mem_uses_statement_iff]

/-- A policy for the role uses the role and what its statements read. -/
theorem value_mem_uses_rolePolicy_iff {policy : String} {statements : List PolicyStatement}
    {x : String} :
    .value x ∈ (rolePolicy policy statements).properties.uses ↔
      x = roleId ∨ ∃ stated ∈ statements, ∃ e ∈ stated.resources, x ∈ e.reads := by
  rw [rolePolicy, Json.uses_object_eq (by simp [Expr.functions])]
  simp [Json.uses_array_eq, Expr.value_mem_uses_toJson_iff, value_mem_uses_policyDocument_iff]

/-- The role uses the two names that its own name is made of. -/
theorem value_mem_uses_roleResource_iff {x : String} :
    .value x ∈ roleResource.properties.uses ↔ x = resourceNameParameter ∨ x = envParameter := by
  rw [roleResource, Json.uses_object_eq (by simp [Expr.functions])]
  simp [Expr.value_mem_uses_toJson_iff, value_mem_uses_policyDocument_iff,
    mem_reads_envScoped_iff, trustStatement]

/-- The mapping of an event source uses the names that the stream's address reads. -/
theorem value_mem_uses_eventSourceMapping_iff {host : Table} {x : String} :
    .value x ∈ (eventSourceMapping host).properties.uses ↔ x ∈ host.streamArn.reads := by
  rw [eventSourceMapping, Json.uses_object_eq (by simp [Expr.functions])]
  simp [Expr.value_mem_uses_toJson_iff]

/-- The conditions read the environment's name and what the guards of the variables read. -/
theorem reads_conditions_iff (collected : conditions r = .ok declared) {x : String} :
    (∃ entry ∈ declared.entries, x ∈ entry.2.reads) ↔
      x = envParameter ∨ ∃ v ∈ r.environment, ∃ guard ∈ v.conditions, x ∈ guard.2.reads := by
  have fixed : x ∈ noEnvironmentGuard.reads ↔ x = envParameter := by simp [noEnvironmentGuard]
  constructor
  · rintro ⟨entry, member, read⟩
    rw [(conditions_ok collected).1] at member
    rcases OrderedMap.mem_entries_insert member with rfl | guard
    · exact .inl (fixed.mp read)
    · obtain ⟨v, listed, needed⟩ := List.mem_flatMap.mp (OrderedMap.mem_entries_ofList guard)
      exact .inr ⟨v, listed, entry, needed, read⟩
  · rintro (same | ⟨v, listed, guard, needed, read⟩)
    · have present := OrderedMap.get?_eq_some_iff.mp (get?_noEnvironmentCondition collected)
      exact ⟨_, present, fixed.mpr same⟩
    · cases v with
      | coalesced name first second =>
        rw [List.mem_singleton.mp needed] at read
        exact ⟨_, OrderedMap.get?_eq_some_iff.mp (get?_conditionName collected listed), read⟩
      | _ => cases needed

/-- What the resources read, part by part. -/
theorem reads_resources_iff {x : String} :
    (∃ entry ∈ (resources (environment r).1 s r).entries, .value x ∈ entry.2.properties.uses) ↔
      x ∈ [resourceNameParameter, envParameter, roleId] ∨
      (∃ e ∈ logStatement.resources, x ∈ e.reads) ∨
      (∃ entry ∈ (environment r).1.entries, x ∈ entry.2.reads) ∨
      (∃ p ∈ r.permissions, ∃ e ∈ p.statement.resources, x ∈ e.reads) ∨
      ∃ host, r.eventSource = some host ∧ x ∈ host.streamArn.reads := by
  have function : .value x ∈ (functionResource (environment r).1 s).properties.uses ↔ _ :=
    value_mem_uses_functionResource_iff
  have execution : .value x ∈ (executionPolicy r.permissions).properties.uses ↔ _ :=
    value_mem_uses_rolePolicy_iff
  rw [entries_resources]
  cases source : r.eventSource with
  | none =>
    simp [function, value_mem_uses_roleResource_iff, execution]
    grind
  | some host =>
    have trigger : .value x ∈ (triggerPolicy host).properties.uses ↔ _ :=
      value_mem_uses_rolePolicy_iff
    simp [function, value_mem_uses_roleResource_iff, execution, trigger,
      value_mem_uses_eventSourceMapping_iff, streamStatement, PolicyStatement.allow]
    grind

/-- The statement for logs reads names of the platform and the function. -/
theorem reads_logStatement_iff {x : String} :
    (∃ e ∈ logStatement.resources, x ∈ e.reads) ↔ x ∈ platformReads ++ [functionId] := by
  have read : logStatement.resources.flatMap Expr.reads = platformReads ++ [functionId] := by
    decide +kernel
  rw [← read, List.mem_flatMap]

/-- The outputs read the function, the role and the region. -/
theorem reads_outputs_iff {x : String} :
    (∃ entry ∈ outputs.entries, x ∈ entry.2.value.reads) ↔
      x ∈ [functionId, "AWS::Region", roleId] := by
  have listed : outputs.entries = [("Name", ⟨.ref functionId⟩),
      ("Arn", ⟨.getAtt functionId "Arn"⟩), ("Region", ⟨.region⟩),
      ("LambdaExecutionRole", ⟨.ref roleId⟩)] := OrderedMap.entries_ofList (by decide)
  simp [listed, Expr.region]

/-- The assembled template reads the fixed names and those that the requirements read. -/
theorem value_mem_uses_assembled_iff (collected : conditions r = .ok declared) {x : String} :
    (∃ body ∈ (assembled name r s declared).bodies, .value x ∈ body.uses) ↔
      x ∈ fixedReads ∨ r.Reads x := by
  have sections : (∃ body ∈ (assembled name r s declared).bodies, .value x ∈ body.uses) ↔
      (∃ entry ∈ declared.entries, x ∈ entry.2.reads) ∨
      (∃ entry ∈ (resources (environment r).1 s r).entries, .value x ∈ entry.2.properties.uses) ∨
      ∃ entry ∈ outputs.entries, x ∈ entry.2.value.reads := by
    rw [← List.mem_flatMap, Template.bodies, List.flatMap_append, List.flatMap_append]
    simp only [List.flatMap_map, List.mem_append, List.mem_flatMap,
      Expr.value_mem_uses_toJson_iff, or_assoc]
    rfl
  rw [sections, reads_conditions_iff collected, reads_resources_iff, reads_logStatement_iff,
    reads_outputs_iff]
  by_cases fixed : x ∈ fixedReads
  · refine iff_of_true ?_ (.inl fixed)
    simp only [fixedReads, platformReads, List.mem_append, List.mem_cons, List.not_mem_nil,
      or_false] at fixed ⊢
    grind
  · have environment : (∃ entry ∈ (environment r).1.entries, x ∈ entry.2.reads) ↔
        ∃ y v, r.lastNamed y = some v ∧ x ∈ v.value.reads := by
      constructor
      · rintro ⟨entry, member, read⟩
        exact (reads_of_mem_environment member read).resolve_left fixed
      · rintro ⟨y, v, last, read⟩
        exact ⟨_, mem_environment_of_lastNamed last, read⟩
    have apart := fixed
    simp only [fixedReads, platformReads, List.mem_append, List.mem_cons, List.not_mem_nil,
      or_false, not_or] at apart
    simp [environment, fixed, apart, platformReads, Requirements.Reads]

end Assembled

end Compilation

end Stackwright

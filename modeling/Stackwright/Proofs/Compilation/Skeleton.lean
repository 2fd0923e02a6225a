import Mathlib.Data.List.Basic
import Mathlib.Logic.Relation
import Stackwright.Proofs.Compilation.Grants
import Stackwright.Proofs.Deployment.Evaluation

/-!
# The resources of a compiled template

A function has three resources, and two more if a table triggers it: a policy to read the change
stream of the table, and the mapping of that stream to the function. Their ids differ whatever the
table is called, and each resource depends on resources that stand before it only, so they can be
created in the order of the template (`skeleton_of_compile`). The order is kept by every resource
that is added after those it depends on (`InCreationOrder.append_singleton`), and it leaves no way
for a resource to wait for itself.
-/

namespace Stackwright

open Compilation

/-- Every resource depends on resources that stand before it. -/
def InCreationOrder (entries : List (String × ResourceDecl)) : Prop :=
  ∀ before entry after, entries = before ++ entry :: after →
    ∀ id ∈ entry.2.dependsOn, id ∈ before.map Prod.fst

namespace InCreationOrder

variable {entries : List (String × ResourceDecl)} {entry : String × ResourceDecl}

theorem nil : InCreationOrder [] := by
  intro before entry after split
  exact (List.append_ne_nil_of_right_ne_nil before (List.cons_ne_nil entry after) split.symm).elim

/-- A resource can be added once those that it depends on are there. -/
theorem append_singleton (ordered : InCreationOrder entries)
    (created : ∀ id ∈ entry.2.dependsOn, id ∈ entries.map Prod.fst) :
    InCreationOrder (entries ++ [entry]) := by
  intro before other after split id needed
  rcases List.eq_nil_or_concat after with rfl | ⟨between, last, rfl⟩
  · obtain ⟨rfl, same⟩ := List.append_inj' split rfl
    cases same
    exact created id needed
  · rw [List.concat_eq_append, ← List.cons_append, ← List.append_assoc] at split
    obtain ⟨rfl, _⟩ := List.append_inj' split rfl
    exact ordered before other between rfl id needed

end InCreationOrder

namespace Template

variable {t : Template} {id other : String}

/-- The resource waits for the other to be created. -/
def WaitsFor (t : Template) (id other : String) : Prop :=
  ∃ decl, t.resources.get? id = some decl ∧ other ∈ decl.dependsOn

/-- In creation order a resource stands after those that it waits for. -/
theorem idxOf_lt_of_waitsFor (ordered : InCreationOrder t.resources.entries)
    (waits : t.WaitsFor id other) :
    t.resources.keys.idxOf other < t.resources.keys.idxOf id := by
  obtain ⟨decl, present, needed⟩ := waits
  obtain ⟨before, after, split⟩ := List.append_of_mem (OrderedMap.get?_eq_some_iff.mp present)
  have earlier := ordered before (id, decl) after split other needed
  have keys : t.resources.keys = before.map Prod.fst ++ id :: after.map Prod.fst := by
    rw [OrderedMap.keys, split, List.map_append, List.map_cons]
  have absent : id ∉ before.map Prod.fst := by
    intro again
    have distinct : t.resources.keys.Nodup := t.resources.distinct
    rw [keys] at distinct
    exact (List.nodup_append.mp distinct).2.2 id again id List.mem_cons_self rfl
  rw [keys, List.idxOf_append_of_mem earlier, List.idxOf_append_of_notMem absent,
    List.idxOf_cons_self, Nat.add_zero]
  exact List.idxOf_lt_length_of_mem earlier

/-- Resources that are in creation order do not wait for themselves, not even by way of others. -/
theorem not_transGen_waitsFor_self (ordered : InCreationOrder t.resources.entries) :
    ¬ Relation.TransGen t.WaitsFor id id := by
  intro cycle
  have falls : ∀ other, Relation.TransGen t.WaitsFor id other →
      t.resources.keys.idxOf other < t.resources.keys.idxOf id := by
    intro other waits
    induction waits with
    | single waits => exact idxOf_lt_of_waitsFor ordered waits
    | tail _ waits ih => exact Nat.lt_trans (idxOf_lt_of_waitsFor ordered waits) ih
  exact Nat.lt_irrefl _ (falls id cycle)

end Template

/-- The ids of the resources of a function, by the table that triggers it. -/
def resourceIds : Option Table → List String
  | none => ["LambdaFunction", "LambdaExecutionRole", "LambdaExecutionPolicy"]
  | some host =>
    ["LambdaFunction", "LambdaExecutionRole", "LambdaExecutionPolicy",
      "LambdaTriggerPolicy" ++ host.tableName, "LambdaEventSourceMapping" ++ host.tableName]

/-- The address of the change stream of a table, as the API that hosts it exports it. -/
def Table.streamExport (host : Table) : Json :=
  .object [("Fn::ImportValue", .object [("Fn::Sub", .string
    ("$\x7bapi" ++ host.apiName ++ "GraphQLAPIIdOutput\x7d:GetAtt:" ++ host.tableName
      ++ "Table:StreamArn"))])]

namespace Template

/-- The table triggers the function: a policy of the role and a mapping that waits for this policy
read one change stream. -/
structure TriggeredBy (t : Template) (host : Table) : Prop where
  policy : ∃ decl statement,
    t.resources.get? ("LambdaTriggerPolicy" ++ host.tableName) = some decl ∧
      decl.dependsOn = ["LambdaExecutionRole"] ∧
      decl.properties.follow? ["PolicyDocument", "Statement"] = some (.array [statement]) ∧
      statement.get? "Resource" = some (.array [host.streamExport])
  mapping : ∃ decl,
    t.resources.get? ("LambdaEventSourceMapping" ++ host.tableName) = some decl ∧
      decl.dependsOn = ["LambdaTriggerPolicy" ++ host.tableName, "LambdaExecutionRole"] ∧
      decl.properties.get? "EventSourceArn" = some host.streamExport

/-- The template has the resources of a function with this trigger, and they can be created in its
order. -/
structure HasSkeleton (t : Template) (source : Option Table) : Prop where
  ids : t.resources.keys = resourceIds source
  trigger : ∀ host, source = some host → t.TriggeredBy host
  ordered : InCreationOrder t.resources.entries
  acyclic : ∀ id, ¬ Relation.TransGen t.WaitsFor id id

end Template

/-- The address of a table's stream is written as the import of its export. -/
theorem Table.toJson_streamArn (host : Table) : host.streamArn.toJson = host.streamExport := by
  have text : placeholder host.outputReference.parameterName ++ ":GetAtt:" ++ host.logicalId ++ ":"
      ++ "StreamArn" = "$\x7bapi" ++ host.apiName ++ "GraphQLAPIIdOutput\x7d:GetAtt:"
      ++ host.tableName ++ "Table:StreamArn" := by
    rw [← String.toList_inj]
    simp [placeholder, Reference.parameterName, Table.outputReference, Table.logicalId]
  rw [Table.streamArn, Table.imported, text]
  rfl

namespace Compilation

variable {name : String} {r : Requirements} {s : Settings} {declared : OrderedMap String Expr}

/-- The identifiers of resources are distinct. -/
theorem nodup_resourceIds (source : Option Table) : (resourceIds source).Nodup := by
  cases source with
  | none => decide
  | some host => exact nodup_resource_ids host

/-- The resources have the listed identifiers. -/
theorem keys_resources_eq (values : OrderedMap String Expr) (s : Settings) (r : Requirements) :
    (resources values s r).keys = resourceIds r.eventSource := by
  rw [keys_resources]
  cases r.eventSource <;> rfl

/-- The resources are in an order in which they can be created. -/
theorem inCreationOrder_resources (values : OrderedMap String Expr) (s : Settings)
    (r : Requirements) : InCreationOrder (resources values s r).entries := by
  have fixed : InCreationOrder ([] ++ [(functionId, functionResource values s)]
      ++ [(roleId, roleResource)] ++ [(policyId, executionPolicy r.permissions)]) := by
    refine ((InCreationOrder.nil.append_singleton ?_).append_singleton ?_).append_singleton ?_
    · simp [functionResource]
    · simp [roleResource]
    · simp [executionPolicy, rolePolicy]
  rw [entries_resources]
  cases r.eventSource with
  | none => exact fixed
  | some host =>
    have withPolicy : InCreationOrder (_ ++ [(triggerPolicyId host, triggerPolicy host)]) :=
      fixed.append_singleton (by simp [triggerPolicy, rolePolicy])
    have withMapping : InCreationOrder (_ ++ [(mappingId host, eventSourceMapping host)]) :=
      withPolicy.append_singleton (by simp [eventSourceMapping])
    exact withMapping

/-- The statements of a policy, where they stand in it. -/
theorem follow?_statement_rolePolicy (policy : String) (statements : List PolicyStatement) :
    (rolePolicy policy statements).properties.follow? ["PolicyDocument", "Statement"] =
      some (.array (statements.map PolicyStatement.toJson)) := by
  simp only [Json.follow?_cons, get?_policyDocument_rolePolicy, Option.bind_some,
    Json.get?_statement_policyDocument, Json.follow?_nil]

/-- The mapping of the event source stands under the identifier made from the table. -/
theorem get?_mappingId (values : OrderedMap String Expr) {host : Table}
    (source : r.eventSource = some host) :
    (resources values s r).get? (mappingId host) = some (eventSourceMapping host) := by
  rw [OrderedMap.get?_eq_some_iff, entries_resources, source]
  simp

/-- The assembled template is triggered by its event source. -/
theorem triggeredBy_assembled {host : Table} (source : r.eventSource = some host) :
    (assembled name r s declared).TriggeredBy host where
  policy := by
    refine ⟨triggerPolicy host, (streamStatement host).toJson, get?_triggerPolicyId _ source, rfl,
      ?_, ?_⟩
    · exact follow?_statement_rolePolicy _ [streamStatement host]
    · obtain ⟨_, _, _, resource⟩ := (streamStatement host).get?_toJson
      rw [resource, ← host.toJson_streamArn]
      rfl
  mapping := by
    refine ⟨eventSourceMapping host, get?_mappingId _ source, rfl, ?_⟩
    simp [eventSourceMapping, Json.get?, findEntry, host.toJson_streamArn]

end Compilation

/-- **The resources of a function.** Their ids are different for every table, and the template of a
function has just these resources, in an order in which they can be created. -/
theorem skeleton_of_compile {name : String} {r : Requirements} {s : Settings} {t : Template}
    (compiled : (compile name r s).result = .ok t) :
    (∀ source, (resourceIds source).Nodup) ∧ t.HasSkeleton r.eventSource := by
  obtain ⟨_, _, declared, _, rfl, _⟩ := compile_eq_ok_iff.mp compiled
  have ordered := inCreationOrder_resources (environment r).1 s r
  exact ⟨nodup_resourceIds, {
    ids := keys_resources_eq _ s r
    trigger := fun host source => triggeredBy_assembled source
    ordered := ordered
    acyclic := fun _ => Template.not_transGen_waitsFor_self ordered }⟩

/-- A function that is triggered by a table called like the function resource. -/
def namesake : Requirements where
  eventSource := some ⟨"shop", "LambdaFunction"⟩

/-- A table named as the function resource adds resources of its own and replaces none. -/
theorem skeleton_namesake : ∃ t, (compile "f" namesake {}).result = .ok t ∧
    t.resources.keys = ["LambdaFunction", "LambdaExecutionRole", "LambdaExecutionPolicy",
      "LambdaTriggerPolicyLambdaFunction", "LambdaEventSourceMappingLambdaFunction"] ∧
    t.TriggeredBy ⟨"shop", "LambdaFunction"⟩ := by
  obtain ⟨t, compiled⟩ : ∃ t, (compile "f" namesake {}).result = .ok t :=
    exists_ok_of_isSome (by decide +kernel)
  obtain ⟨_, skeleton⟩ := skeleton_of_compile compiled
  exact ⟨t, compiled, skeleton.ids, skeleton.trigger _ rfl⟩

end Stackwright

import Stackwright.Proofs.Compilation.Outcome
import Stackwright.Proofs.Compilation.Sections
import Stackwright.Proofs.Fragment.Grounding

/-!
# Compiled templates are grounded

The sections of an assembled template provide the names that its parts use
(`Compilation.provides_assembled`), and each part grounds its expressions in what is provided. With
the check of names, which every compiled template has passed, this makes the template grounded.
-/

namespace Stackwright

open Compilation

namespace Compilation

/-- The template declares what the parts of a function with these requirements use. -/
structure Provides (t : Template) (r : Requirements) : Prop where
  parameter : ∀ p ∈ r.parameters, t.parameters.contains p.name = true
  env : t.parameters.contains envParameter = true
  baseName : t.parameters.contains resourceNameParameter = true
  unscoped : t.conditions.contains noEnvironmentCondition = true
  guard : ∀ v ∈ r.environment, ∀ entry ∈ v.conditions, t.conditions.contains entry.1 = true
  function : t.resources.contains functionId = true
  role : t.resources.contains roleId = true

/-- The assembled template declares all that its requirements make its parts read. -/
theorem provides_assembled {name : String} {r : Requirements} {s : Settings}
    {declared : OrderedMap String Expr} (collected : conditions r = .ok declared) :
    Provides (assembled name r s declared) r where
  parameter := fun p member =>
    OrderedMap.contains_iff.mpr (mem_keys_parameters.mpr (Or.inr (Or.inr ⟨p, member, rfl⟩)))
  env := OrderedMap.contains_iff.mpr (mem_keys_parameters.mpr (Or.inr (Or.inl rfl)))
  baseName := OrderedMap.contains_iff.mpr (mem_keys_parameters.mpr (Or.inl rfl))
  unscoped := by
    rw [OrderedMap.contains_iff, assembled, (conditions_ok collected).1, OrderedMap.mem_keys_insert]
    exact Or.inl rfl
  guard := by
    intro v member entry needed
    rw [OrderedMap.contains_iff, assembled, (conditions_ok collected).1, OrderedMap.mem_keys_insert,
      OrderedMap.mem_keys_ofList]
    exact Or.inr (List.mem_map.mpr ⟨entry, List.mem_flatMap.mpr ⟨v, member, needed⟩, rfl⟩)
  function := by
    rw [OrderedMap.contains_iff, OrderedMap.keys, assembled, entries_resources]
    simp
  role := by
    rw [OrderedMap.contains_iff, OrderedMap.keys, assembled, entries_resources]
    simp

section Parts

open Template (groundsAll_ref_of_parameter groundsAll_ref_of_resource groundsAll_getAtt_iff)

variable {t : Template} {r : Requirements}

/-- The parameters of a permission are declared. -/
theorem Provides.ofPermission (provides : Provides t r) {p : Permission}
    (member : p ∈ r.permissions) : ∀ q ∈ p.parameters, t.parameters.contains q.name = true := by
  intro q needed
  exact provides.parameter q (Requirements.mem_parameters_of_permission member needed)

theorem Provides.ofVariable (provides : Provides t r) {v : Variable}
    (member : v ∈ r.environment) : ∀ q ∈ v.parameters, t.parameters.contains q.name = true := by
  intro q needed
  exact provides.parameter q (Requirements.mem_parameters_of_variable member needed)

/-- The collected conditions read declared names only. -/
theorem Provides.conditions (provides : Provides t r) {declared : OrderedMap String Expr}
    (collected : conditions r = .ok declared) :
    ∀ entry ∈ declared.entries, t.GroundsAll entry.2 := by
  intro entry member
  rw [(conditions_ok collected).1] at member
  rcases OrderedMap.mem_entries_insert member with rfl | guard
  · simp only [noEnvironmentGuard, Template.groundsAll_equals_iff, Template.groundsAll_literal,
      and_true]
    exact groundsAll_ref_of_parameter provides.env
  · obtain ⟨v, listed, needed⟩ := List.mem_flatMap.mp (OrderedMap.mem_entries_ofList guard)
    exact Template.groundsAll_guards (provides.ofVariable listed) entry needed

/-- A name with the suffix of the environment is grounded if the name is. -/
theorem Provides.envScoped (provides : Provides t r) {base : Expr} (grounds : t.GroundsAll base) :
    t.GroundsAll (envScoped base) := by
  have env : t.GroundsAll (.ref envParameter) := groundsAll_ref_of_parameter provides.env
  simp only [Compilation.envScoped, Template.groundsAll_ifThenElse_iff,
    Template.groundsAll_join_iff, List.forall_mem_cons, Template.groundsAll_literal, true_and]
  exact ⟨provides.unscoped, grounds, grounds, env, by simp⟩

/-- The values of the environment are calls, and read declared names only. -/
theorem Provides.environment (provides : Provides t r) :
    ∀ entry ∈ (environment r).1.entries,
      (∃ inner, entry.2.toJson = .object inner) ∧ t.GroundsAll entry.2 := by
  intro entry member
  rw [Compilation.environment, addVariables_fst] at member
  rcases OrderedMap.mem_entries_insertMany member with fixed | declared
  · have listed := OrderedMap.mem_entries_ofList fixed
    simp only [List.mem_cons, List.not_mem_nil, or_false] at listed
    rcases listed with rfl | rfl
    · exact ⟨⟨_, rfl⟩, groundsAll_ref_of_parameter provides.env⟩
    · exact ⟨⟨_, rfl⟩, by simp [Expr.region, Template.ofPlatform_region]⟩
  · obtain ⟨v, listed, rfl⟩ := List.mem_map.mp declared
    exact ⟨Json.exists_toJson_value_eq v,
      Template.groundsAll_value (provides.ofVariable listed) (provides.guard v listed)⟩

/-- The function resource reads declared names only. -/
theorem Provides.functionResource (provides : Provides t r) (s : Settings) :
    Json.CallsOnly t.Grounds
      (functionResource (Compilation.environment r).1 s).properties := by
  have name : t.GroundsAll (Compilation.envScoped (.ref resourceNameParameter)) :=
    provides.envScoped (groundsAll_ref_of_parameter provides.baseName)
  have role : t.GroundsAll (.getAtt roleId "Arn") := groundsAll_getAtt_iff.mpr provides.role
  have environment : Json.CallsOnly t.Grounds
      (.object [("Variables", .ofMap Expr.toJson (Compilation.environment r).1)]) := by
    apply Json.callsOnly_object
    simp [Expr.functions, Json.callsOnly_variables provides.environment]
  have code : ∀ bucket key, Json.CallsOnly t.Grounds
      (.object [("S3Bucket", .string bucket), ("S3Key", .string key)]) := by
    intro bucket key
    apply Json.callsOnly_object
    simp [Expr.functions]
  apply Json.callsOnly_object
  simp only [List.forall_mem_append, List.forall_mem_cons, Json.forall_mem_optional_iff,
    Option.map_eq_some_iff]
  refine ⟨⟨?_, ?_⟩, ?_⟩
  · simp [Expr.functions, Json.callsOnly_toJson name, Json.callsOnly_toJson role, environment]
  · rintro _ ⟨size, _, rfl⟩
    simp [Expr.functions]
  · rintro _ ⟨location, _, rfl⟩
    simp [Expr.functions, code]

theorem Provides.roleResource (provides : Provides t r) :
    Json.CallsOnly t.Grounds roleResource.properties := by
  have name : t.GroundsAll (.join "" [.ref resourceNameParameter, .literal "LambdaRole"]) := by
    simp only [Template.groundsAll_join_iff, List.forall_mem_cons, Template.groundsAll_literal]
    exact ⟨groundsAll_ref_of_parameter provides.baseName, by simp⟩
  have trust : ∀ s ∈ [trustStatement], ∀ e ∈ s.resources, t.GroundsAll e := by
    simp [trustStatement]
  apply Json.callsOnly_object
  simp [Expr.functions, Json.callsOnly_toJson (provides.envScoped name),
    Json.callsOnly_policyDocument trust]

/-- A policy for the role reads declared names only if the resources of its statements do. -/
theorem Provides.rolePolicy (provides : Provides t r) {name : String}
    {statements : List PolicyStatement}
    (grounds : ∀ s ∈ statements, ∀ e ∈ s.resources, t.GroundsAll e) :
    Json.CallsOnly t.Grounds (rolePolicy name statements).properties := by
  have roles : Json.CallsOnly t.Grounds (.array [(Expr.ref roleId).toJson]) :=
    Json.callsOnly_array (List.forall_mem_singleton.mpr
      (Json.callsOnly_toJson (groundsAll_ref_of_resource provides.role)))
  apply Json.callsOnly_object
  simp [Expr.functions, roles, Json.callsOnly_policyDocument grounds]

/-- The execution policy reads declared names only. -/
theorem Provides.executionPolicy (provides : Provides t r) :
    Json.CallsOnly t.Grounds (executionPolicy r.permissions).properties := by
  refine provides.rolePolicy fun s member => ?_
  rcases List.mem_cons.mp member with rfl | declared
  · simp [logStatement, PolicyStatement.allow]
  · obtain ⟨p, listed, rfl⟩ := List.mem_map.mp declared
    exact Template.groundsAll_statement (provides.ofPermission listed)

theorem Provides.triggerPolicy (provides : Provides t r) (table : Table) :
    Json.CallsOnly t.Grounds (triggerPolicy table).properties := by
  refine provides.rolePolicy ?_
  simp [streamStatement, PolicyStatement.allow, Table.streamArn]

/-- The mapping of an event source reads declared names only. -/
theorem Provides.eventSourceMapping (provides : Provides t r) (table : Table) :
    Json.CallsOnly t.Grounds (eventSourceMapping table).properties := by
  have stream : t.GroundsAll table.streamArn := Template.groundsAll_imported table "StreamArn"
  have function : t.GroundsAll (.getAtt functionId "Arn") :=
    groundsAll_getAtt_iff.mpr provides.function
  apply Json.callsOnly_object
  simp [Expr.functions, Json.callsOnly_toJson stream, Json.callsOnly_toJson function]

/-- Everything in an assembled template that calls a function grounds the names it uses. -/
theorem callsOnly_bodies_assembled {name : String} {s : Settings}
    {declared : OrderedMap String Expr} (collected : conditions r = .ok declared) :
    ∀ body ∈ (assembled name r s declared).bodies,
      Json.CallsOnly (assembled name r s declared).Grounds body := by
  have provides : Provides (assembled name r s declared) r := provides_assembled collected
  intro body member
  simp only [Template.bodies, List.mem_append, List.mem_map] at member
  rcases member with (⟨entry, condition, rfl⟩ | ⟨entry, resource, rfl⟩) | ⟨entry, output, rfl⟩
  · exact Json.callsOnly_toJson (provides.conditions collected entry condition)
  · rw [assembled, entries_resources] at resource
    simp only [List.mem_append, List.mem_cons, List.not_mem_nil, or_false, List.mem_flatMap]
      at resource
    rcases resource with (rfl | rfl | rfl) | ⟨table, _, rfl | rfl⟩
    · exact provides.functionResource s
    · exact provides.roleResource
    · exact provides.executionPolicy
    · exact provides.triggerPolicy table
    · exact provides.eventSourceMapping table
  · have listed := OrderedMap.mem_entries_ofList output
    simp only [List.mem_cons, List.not_mem_nil, or_false] at listed
    refine Json.callsOnly_toJson ?_
    rcases listed with rfl | rfl | rfl | rfl
    · exact groundsAll_ref_of_resource provides.function
    · exact groundsAll_getAtt_iff.mpr provides.function
    · exact Template.groundsAll_ref_iff.mpr (Or.inl Template.ofPlatform_region)
    · exact groundsAll_ref_of_resource provides.role

/-- An assembled template that is closed is grounded. -/
theorem grounded_assembled {name : String} {s : Settings} {declared : OrderedMap String Expr}
    (collected : conditions r = .ok declared) (closed : (assembled name r s declared).Closed) :
    (assembled name r s declared).Grounded :=
  Template.grounded_of_closed closed (callsOnly_bodies_assembled collected)

end Parts

end Compilation

/-- **Compiled templates are grounded.** The check of names covers placeholders and dependencies;
the exact names, the attributes and the choices come from what the sections provide. -/
theorem grounded_of_compile {name : String} {r : Requirements} {s : Settings} {t : Template}
    (compiled : (compile name r s).result = .ok t) : t.Grounded := by
  obtain ⟨_, _, declared, collected, rfl, closed⟩ := compile_eq_ok_iff.mp compiled
  exact grounded_assembled collected closed

/-- A function with every kind of permission and variable; two of its variables have the names of
functions of the platform. -/
def everyKind : Requirements where
  permissions :=
    [.table ⟨"shop", "Orders"⟩ [.readItem], .userPool ⟨"main"⟩ [.listUsers],
      .sendMail ⟨"sender", none⟩,
      .iamAction ["s3:GetObject"] [.literal "*", .reference ⟨"media", "Bucket", "Arn"⟩]]
  environment :=
    [.tableName ⟨"shop", "Orders"⟩, .parameter "Ref" ⟨"level", some "info"⟩,
      .resourceOutput "Fn::GetAtt" ⟨"queue", "Jobs", "Url"⟩,
      .coalesced "DOMAIN" (.parameter ⟨"custom", some ""⟩) (.reference ⟨"site", "Main", "Domain"⟩)]
  eventSource := some ⟨"shop", "Orders"⟩

theorem grounded_everyKind : ∃ t, (compile "f" everyKind {}).result = .ok t ∧ t.Grounded := by
  obtain ⟨t, compiled⟩ : ∃ t, (compile "f" everyKind {}).result = .ok t :=
    exists_ok_of_isSome (by decide +kernel)
  exact ⟨t, compiled, grounded_of_compile compiled⟩

end Stackwright

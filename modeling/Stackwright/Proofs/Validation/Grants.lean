import Stackwright.Proofs.Compilation.Skeleton
import Stackwright.Proofs.Deployment.Meaning
import Stackwright.Proofs.Validation.Outcome

/-!
# What valid definitions grant

Each statement of a policy lists actions, since compiling refuses a permission without one. That the
actions have names and that there are resources to act on is left to validation, for the raw
permissions, which give both as they like; a list of resources that is empty would be left out of
the document, and the statement would apply to nothing. So the policies of a valid definition hold
no vacuous statement (`noVacuousGrant_of_compile`).
-/

namespace Stackwright

open Compilation

/-- The statement allows actions, and lists at least one. -/
structure Json.AllowsActions (doc : Json) : Prop where
  effect : doc.get? "Effect" = some (.string "Allow")
  actions : ∃ actions, doc.get? "Action" = some (.strings actions) ∧ actions ≠ []

/-- The statement allows actions that have names, on resources that it lists. -/
structure Json.AllowsOnResources (doc : Json) : Prop where
  effect : doc.get? "Effect" = some (.string "Allow")
  actions : ∃ actions, doc.get? "Action" = some (.strings actions) ∧ actions ≠ [] ∧ "" ∉ actions
  resources : ∃ resources, doc.get? "Resource" = some (.array resources) ∧ resources ≠ []

/-- The statements of a policy, as they stand in the document of the template. -/
def Template.statementDocs (t : Template) (id : String) : Option (List Json) :=
  (t.toJson.follow? ["Resources", id, "Properties", "PolicyDocument", "Statement"]).bind Json.items?

/-- The ids of the policies that a function has: what it may do, and reading the change stream of
the table that triggers it. -/
def policyIds (source : Option Table) : List String :=
  "LambdaExecutionPolicy" :: source.toList.map fun host => "LambdaTriggerPolicy" ++ host.tableName

namespace PolicyStatement

variable {s : PolicyStatement}

/-- A statement that allows some actions says so when written. -/
theorem allowsActions_toJson (effect : s.effect = "Allow") (listed : s.actions ≠ []) :
    s.toJson.AllowsActions := by
  obtain ⟨stated, _, actions, _⟩ := s.get?_toJson
  exact ⟨effect ▸ stated, s.actions, actions, listed⟩

/-- A statement that allows named actions on some resources says so when written. -/
theorem allowsOnResources_toJson (effect : s.effect = "Allow") (listed : s.actions ≠ [])
    (named : "" ∉ s.actions) (given : s.resources ≠ []) : s.toJson.AllowsOnResources := by
  obtain ⟨stated, _, actions, resources⟩ := s.get?_toJson
  rw [if_neg (by simpa using given)] at resources
  exact ⟨effect ▸ stated, ⟨s.actions, actions, listed, named⟩, _, resources, by simpa using given⟩

end PolicyStatement

/-- A declared resource is written with its properties. -/
theorem ResourceDecl.get?_properties_toJson (decl : ResourceDecl) :
    decl.toJson.get? "Properties" = some decl.properties := by
  rw [toJson]
  split <;> simp [Json.get?, findEntry]

namespace Permission

/-- The actions of the permission have names and there are resources to act on; raw permissions
alone give both themselves. -/
def Specific : Permission → Prop
  | .iamAction actions resources => "" ∉ actions ∧ resources ≠ []
  | _ => True

variable {p : Permission}

/-- A permission that lists actions grants some. -/
theorem grantedActions_ne_nil (lists : p.hasNoActions = false) : p.grantedActions ≠ [] := by
  cases p with
  | sendMail identity => exact List.cons_ne_nil _ _
  | table host actions | userPool pool actions | iamAction actions resources =>
    simpa [hasNoActions, grantedActions] using lists

/-- A specific permission grants no action without a name. -/
theorem empty_not_mem_grantedActions (specific : p.Specific) : "" ∉ p.grantedActions := by
  cases p with
  | table host actions | userPool pool actions =>
    simp only [grantedActions, List.mem_map, not_exists, not_and]
    rintro ⟨⟩ _ <;> decide
  | sendMail identity => simp [grantedActions]
  | iamAction actions resources => exact specific.1

/-- A specific permission grants its actions on some resource. -/
theorem grantedOn_ne_nil (specific : p.Specific) : p.grantedOn ≠ [] := by
  cases p with
  | iamAction actions resources => simpa [grantedOn] using specific.2
  | table host actions | userPool pool actions | sendMail identity => exact List.cons_ne_nil _ _

end Permission

/-- The permissions of a valid definition are specific. -/
theorem Definition.Valid.specific {d : Definition} (valid : d.Valid) {p : Permission}
    (listed : p ∈ d.requirements.permissions) : p.Specific := by
  have faultless := permissionFaults_of_valid valid listed
  cases p with
  | iamAction actions resources =>
    simp only [Validation.permissionFaults, List.append_eq_nil_iff, whenTrue_eq_nil_iff]
      at faultless
    obtain ⟨⟨_, named⟩, given⟩ := faultless
    refine ⟨fun unnamed => ?_, by simpa using given⟩
    have found : actions.any String.isEmpty = true := List.any_eq_true.mpr ⟨"", unnamed, rfl⟩
    rw [named] at found
    cases found
  | table host actions | userPool pool actions | sendMail identity => trivial

/-- The statements that the policies of a function hold. -/
def Requirements.States (r : Requirements) (stated : PolicyStatement) : Prop :=
  stated = logStatement ∨ (∃ p ∈ r.permissions, stated = p.grant) ∨
    ∃ host, r.eventSource = some host ∧ stated = streamStatement host

namespace Compilation

variable {name : String} {r : Requirements} {s : Settings} {declared : OrderedMap String Expr}
  {stated : PolicyStatement}

/-- Where permissions list actions, every statement allows some. -/
theorem allowsActions_of_states (lists : ∀ p ∈ r.permissions, p.hasNoActions = false)
    (states : r.States stated) : stated.toJson.AllowsActions := by
  rcases states with rfl | ⟨p, listed, rfl⟩ | ⟨host, _, rfl⟩
  · exact PolicyStatement.allowsActions_toJson rfl (by decide)
  · exact PolicyStatement.allowsActions_toJson rfl
      (Permission.grantedActions_ne_nil (lists p listed))
  · exact PolicyStatement.allowsActions_toJson rfl (List.cons_ne_nil _ _)

/-- Where permissions are specific as well, every statement allows named actions on some
resources. -/
theorem allowsOnResources_of_states (lists : ∀ p ∈ r.permissions, p.hasNoActions = false)
    (specific : ∀ p ∈ r.permissions, p.Specific) (states : r.States stated) :
    stated.toJson.AllowsOnResources := by
  rcases states with rfl | ⟨p, listed, rfl⟩ | ⟨host, _, rfl⟩
  · exact PolicyStatement.allowsOnResources_toJson rfl (by decide) (by decide) (by decide)
  · exact PolicyStatement.allowsOnResources_toJson rfl
      (Permission.grantedActions_ne_nil (lists p listed))
      (Permission.empty_not_mem_grantedActions (specific p listed))
      (Permission.grantedOn_ne_nil (specific p listed))
  · exact PolicyStatement.allowsOnResources_toJson rfl (List.cons_ne_nil _ _)
      (by simp [streamStatement, PolicyStatement.allow]) (List.cons_ne_nil _ _)

/-- The statements of a policy are those that it was made of, as written. -/
theorem statementDocs_eq {t : Template} {id policy : String} {statements : List PolicyStatement}
    (present : t.resources.get? id = some (rolePolicy policy statements)) :
    t.statementDocs id = some (statements.map PolicyStatement.toJson) := by
  have section? : t.toJson.get? "Resources" = some (.ofMap ResourceDecl.toJson t.resources) := by
    simp [Template.toJson, Json.get?, findEntry]
  rw [Template.statementDocs, Json.follow?_cons, section?, Option.bind_some, Json.follow?_cons,
    Json.get?_ofMap, present, Option.map_some, Option.bind_some, Json.follow?_cons,
    ResourceDecl.get?_properties_toJson, Option.bind_some, follow?_statement_rolePolicy,
    Option.bind_some, Json.items?]

/-- Each policy of a function holds statements, and holds them as they stand in its document. -/
theorem exists_states_of_mem_policyIds {id : String} (policy : id ∈ policyIds r.eventSource) :
    ∃ statements, (assembled name r s declared).statementDocs id =
        some (statements.map PolicyStatement.toJson) ∧
      statements ≠ [] ∧ ∀ stated ∈ statements, r.States stated := by
  rcases List.mem_cons.mp policy with rfl | trigger
  · refine ⟨_, statementDocs_eq (get?_policyId _), List.cons_ne_nil _ _, ?_⟩
    intro stated member
    rcases List.mem_cons.mp member with rfl | granted
    · exact .inl rfl
    · obtain ⟨p, listed, rfl⟩ := List.mem_map.mp granted
      exact .inr (.inl ⟨p, listed, p.statement_eq⟩)
  · obtain ⟨host, member, rfl⟩ := List.mem_map.mp trigger
    have source : r.eventSource = some host := Option.mem_toList.mp member
    refine ⟨_, statementDocs_eq (get?_triggerPolicyId _ source), List.cons_ne_nil _ _, ?_⟩
    exact List.forall_mem_singleton.mpr (.inr (.inr ⟨host, source, rfl⟩))

end Compilation

/-- **No vacuous grants.** In the policies of a compiled template every statement allows at least
one action; if the definition is valid, every statement allows actions that have names on at least
one resource. -/
theorem noVacuousGrant_of_compile {d : Definition} {t : Template}
    (compiled : d.compile.result = .ok t) :
    ∀ id ∈ policyIds d.requirements.eventSource,
      ∃ statements, t.statementDocs id = some statements ∧ statements ≠ [] ∧
        (∀ doc ∈ statements, doc.AllowsActions) ∧
        (d.Valid → ∀ doc ∈ statements, doc.AllowsOnResources) := by
  obtain ⟨lists, _, declared, _, rfl, _⟩ := compile_eq_ok_iff.mp compiled
  intro id policy
  obtain ⟨statements, spelled, some, states⟩ := exists_states_of_mem_policyIds policy
  refine ⟨_, spelled, by simpa using some, ?_, fun valid => ?_⟩
  · rw [List.forall_mem_map]
    exact fun stated member => allowsActions_of_states lists (states stated member)
  · rw [List.forall_mem_map]
    exact fun stated member => allowsOnResources_of_states lists (fun p => valid.specific)
      (states stated member)

/-- Without validation a statement may name no resource. -/
example : (Permission.iamAction ["s3:GetObject"] []).statement.toJson.get? "Resource" = none := rfl

/-- With permissions of every kind, each statement of both policies allows something on some
resource. -/
theorem noVacuousGrant_everyKind :
    ∃ t, (⟨"f", {}, everyKind⟩ : Definition).compile.result = .ok t ∧
      ∀ id ∈ ["LambdaExecutionPolicy", "LambdaTriggerPolicyOrders"],
        ∃ statements, t.statementDocs id = some statements ∧ statements ≠ [] ∧
          ∀ doc ∈ statements, doc.AllowsOnResources := by
  have valid : (⟨"f", {}, everyKind⟩ : Definition).Valid := by decide +kernel
  obtain ⟨t, compiled⟩ : ∃ t, (⟨"f", {}, everyKind⟩ : Definition).compile.result = .ok t :=
    exists_ok_of_isSome (by decide +kernel)
  refine ⟨t, compiled, fun id policy => ?_⟩
  obtain ⟨statements, found, some, _, grants⟩ := noVacuousGrant_of_compile compiled id policy
  exact ⟨statements, found, some, grants valid⟩

end Stackwright

import Stackwright.Proofs.Compilation.Outcome
import Stackwright.Proofs.Compilation.Sections
import Stackwright.Proofs.Fragment.Grounding
import Stackwright.Proofs.Policy.Statements

/-!
# What a compiled template grants

The policies of a compiled template say what was declared (`grantsExactly_of_compile`): one
statement for the log and one for each permission in the order of declaration, the four actions on
the change stream if there is an event source, and the trust in the function service. No other part
of the document holds a statement, so nothing else is allowed anywhere.
-/

namespace Stackwright

open Compilation

/-- An attribute of a table of another stack, as documents spell it. -/
def Table.exported (host : Table) (property : String) : Expr :=
  .importValue (.sub ("$\x7bapi" ++ host.apiName ++ "GraphQLAPIIdOutput\x7d:GetAtt:" ++
    host.tableName ++ "Table:" ++ property))

/-- A table's property is imported under the name that it is exported by. -/
theorem Table.imported_eq (host : Table) (property : String) :
    host.imported property = host.exported property := by
  rw [imported, exported, Expr.importValue.injEq, Expr.sub.injEq, ← String.toList_inj]
  simp [placeholder, outputReference, Reference.parameterName, logicalId]

namespace Permission

/-- The actions that are granted, by the names that the services give them. -/
def grantedActions : Permission → List String
  | .table _ actions => actions.map fun
    | .readItem => "dynamodb:GetItem"
    | .updateItem => "dynamodb:UpdateItem"
  | .userPool _ actions => actions.map fun
    | .listUsers => "cognito-idp:ListUsers"
    | .adminCreateUser => "cognito-idp:AdminCreateUser"
    | .adminGetUser => "cognito-idp:AdminGetUser"
    | .adminLinkProviderForUser => "cognito-idp:AdminLinkProviderForUser"
    | .adminDeleteUser => "cognito-idp:AdminDeleteUser"
  | .sendMail _ => ["ses:SendEmail"]
  | .iamAction actions _ => actions

/-- The resources that the actions are granted on, as documents spell them. -/
def grantedOn : Permission → List Expr
  | .table host _ =>
    [.join "" [.literal "arn:aws:dynamodb:", .ref "AWS::Region", .literal ":",
      .ref "AWS::AccountId", .literal ":table/", host.exported "Name"]]
  | .userPool pool _ =>
    [.join "" [.literal "arn:aws:cognito-idp:", .ref "AWS::Region", .literal ":",
      .ref "AWS::AccountId", .literal ":userpool/", .ref ("auth" ++ pool.authName ++ "UserPoolId")]]
  | .sendMail identity =>
    [.sub ("arn:aws:ses:$\x7bAWS::Region\x7d:$\x7bAWS::AccountId\x7d:identity/$\x7b" ++
      identity.name ++ "\x7d")]
  | .iamAction _ resources => resources.map fun
    | .literal arn => .literal arn
    | .reference a => .ref (a.category ++ a.resource ++ a.output)

/-- The statement that grants the permission. -/
def grant (p : Permission) : PolicyStatement := ⟨"Allow", none, p.grantedActions, p.grantedOn⟩

/-- The identity to send mail from is the one of the parameter, in the account and region of the
stack. -/
theorem mailIdentity_eq (identity : Parameter) : mailIdentity identity =
    .sub ("arn:aws:ses:$\x7bAWS::Region\x7d:$\x7bAWS::AccountId\x7d:identity/$\x7b" ++
      identity.name ++ "\x7d") := by
  rw [mailIdentity, Expr.sub.injEq, ← String.toList_inj]
  simp [placeholder]

/-- Each permission adds the statement that grants it. -/
theorem statement_eq (p : Permission) : p.statement = p.grant := by
  cases p with
  | table host actions =>
    rw [statement, grant, grantedOn, ← Table.imported_eq]
    rfl
  | userPool pool actions => rfl
  | sendMail identity => rw [statement, mailIdentity_eq]; rfl
  | iamAction actions resources => rfl

end Permission

/-- Creating the log of the function and writing to it. -/
def logGrant : PolicyStatement :=
  ⟨"Allow", none, ["logs:CreateLogGroup", "logs:CreateLogStream", "logs:PutLogEvents"],
    [.sub ("arn:aws:logs:$\x7bAWS::Region\x7d:$\x7bAWS::AccountId\x7d:log-group:/aws/lambda/" ++
      "$\x7bLambdaFunction\x7d:log-stream:*")]⟩

/-- The statement for logs is the grant on the logs, spelled out. -/
theorem logStatement_eq : logStatement = logGrant := by decide +kernel

/-- Reading the change stream of the table that triggers the function. -/
def streamGrant (host : Table) : PolicyStatement :=
  ⟨"Allow", none, ["dynamodb:DescribeStream", "dynamodb:GetRecords", "dynamodb:GetShardIterator",
    "dynamodb:ListStreams"], [host.exported "StreamArn"]⟩

/-- The statement for a stream is the grant on the stream that the table exports. -/
theorem streamStatement_eq (host : Table) : streamStatement host = streamGrant host := by
  rw [streamStatement, Table.streamArn, Table.imported_eq]
  rfl

/-- Taking the role is left to the function service. -/
def trustGrant : PolicyStatement :=
  ⟨"Allow", some ["lambda.amazonaws.com"], ["sts:AssumeRole"], []⟩

namespace Requirements

/-- The statements that a function needs: who may take its role, its log, its permissions and its
event source. -/
def Declares (r : Requirements) (s : PolicyStatement) : Prop :=
  s = trustGrant ∨ s = logGrant ∨ (∃ p ∈ r.permissions, s = p.grant) ∨
    ∃ host, r.eventSource = some host ∧ s = streamGrant host

/-- An action on a resource that the log, a permission or the event source needs. -/
def Allows (r : Requirements) (action : String) (resource : Expr) : Prop :=
  (action ∈ logGrant.actions ∧ resource ∈ logGrant.resources) ∨
    (∃ p ∈ r.permissions, action ∈ p.grantedActions ∧ resource ∈ p.grantedOn) ∨
    ∃ host, r.eventSource = some host ∧ action ∈ (streamGrant host).actions ∧
      resource ∈ (streamGrant host).resources

/-- A declared statement that allows an action on a resource does so for the log, a permission or
the event source; taking the role is no action on a resource. -/
theorem allows_iff_exists_declares {r : Requirements} {action : String} {resource : Expr} :
    r.Allows action resource ↔
      ∃ s, r.Declares s ∧ s.effect = "Allow" ∧ action ∈ s.actions ∧ resource ∈ s.resources := by
  constructor
  · rintro (⟨acts, on⟩ | ⟨p, member, acts, on⟩ | ⟨host, source, acts, on⟩)
    · exact ⟨logGrant, .inr (.inl rfl), rfl, acts, on⟩
    · exact ⟨p.grant, .inr (.inr (.inl ⟨p, member, rfl⟩)), rfl, acts, on⟩
    · exact ⟨streamGrant host, .inr (.inr (.inr ⟨host, source, rfl⟩)), rfl, acts, on⟩
  · rintro ⟨s, rfl | rfl | ⟨p, member, rfl⟩ | ⟨host, source, rfl⟩, _, acts, on⟩
    · cases on
    · exact .inl ⟨acts, on⟩
    · exact .inr (.inl ⟨p, member, acts, on⟩)
    · exact .inr (.inr ⟨host, source, acts, on⟩)

end Requirements

namespace Template

/-- The statements of the policy document that a resource holds under a name. -/
def statements (t : Template) (id document : String) : Option (List PolicyStatement) := do
  let resource ← t.resources.get? id
  let listed ← (← resource.properties.get? document).get? "Statement"
  (← listed.items?).mapM PolicyStatement.ofJson?

/-- The logical ids of the resources of a type, in order. -/
def idsOfType (t : Template) (type : String) : List String :=
  (t.resources.entries.filter fun entry => entry.2.type = type).map Prod.fst

/-- The names of the properties of a resource. -/
def propertyNames (t : Template) (id : String) : Option (List String) := do
  match (← t.resources.get? id).properties with
  | .object members => return members.map Prod.fst
  | _ => none

/-- Some statement, wherever in the document it stands, allows the action on the resource. -/
def Allows (t : Template) (action : String) (resource : Expr) : Prop :=
  ∃ body ∈ t.bodies, ∃ doc, Json.Inside doc body ∧ ∃ s, PolicyStatement.ofJson? doc = some s ∧
    s.effect = "Allow" ∧ action ∈ s.actions ∧ resource ∈ s.resources

/-- The template grants what the requirements declare and nothing else. -/
structure GrantsExactly (t : Template) (r : Requirements) : Prop where
  execution : t.statements "LambdaExecutionPolicy" "PolicyDocument" =
    some (logGrant :: r.permissions.map Permission.grant)
  trigger : ∀ host, r.eventSource = some host →
    t.statements ("LambdaTriggerPolicy" ++ host.tableName) "PolicyDocument" =
      some [streamGrant host]
  trust : t.statements "LambdaExecutionRole" "AssumeRolePolicyDocument" = some [trustGrant]
  policies : t.idsOfType "AWS::IAM::Policy" = "LambdaExecutionPolicy" ::
    r.eventSource.toList.map fun host => "LambdaTriggerPolicy" ++ host.tableName
  roles : t.idsOfType "AWS::IAM::Role" = ["LambdaExecutionRole"]
  /-- The role itself carries no policy but the trust. -/
  role : t.propertyNames "LambdaExecutionRole" = some ["RoleName", "AssumeRolePolicyDocument"]
  elsewhere : ∀ body ∈ t.bodies, Json.StatesOnly r.Declares body
  allowed : ∀ action resource, t.Allows action resource ↔ r.Allows action resource

end Template

namespace Compilation

section Assembled

variable {name : String} {r : Requirements} {s : Settings} {declared : OrderedMap String Expr}

/-- The statements of a resource are those that its policy document was made of. -/
theorem statements_eq {t : Template} {id document : String} {resource : ResourceDecl}
    {statements : List PolicyStatement} (present : t.resources.get? id = some resource)
    (held : resource.properties.get? document = some (policyDocument statements)) :
    t.statements id document = some statements := by
  have listed := Json.get?_statement_policyDocument statements
  have each : PolicyStatement.ofJson? ∘ PolicyStatement.toJson = fun s => pure s :=
    funext PolicyStatement.ofJson?_toJson
  simp only [Template.statements, present, held, listed, Json.items?, Option.bind_eq_bind,
    Option.bind_some]
  rw [List.mapM_map, each, List.mapM_pure, List.map_id', Option.pure_def]

/-- A policy for the role holds the document of its statements. -/
theorem get?_policyDocument_rolePolicy (policy : String) (statements : List PolicyStatement) :
    (rolePolicy policy statements).properties.get? "PolicyDocument" =
      some (policyDocument statements) := by
  simp [rolePolicy, Json.get?, findEntry]

/-- The execution policy stands under its fixed identifier. -/
theorem get?_policyId (values : OrderedMap String Expr) :
    (resources values s r).get? policyId = some (executionPolicy r.permissions) := by
  rw [OrderedMap.get?_eq_some_iff, entries_resources]
  simp

/-- The policy of the event source stands under the identifier made from the table. -/
theorem get?_triggerPolicyId (values : OrderedMap String Expr) {host : Table}
    (source : r.eventSource = some host) :
    (resources values s r).get? (triggerPolicyId host) = some (triggerPolicy host) := by
  rw [OrderedMap.get?_eq_some_iff, entries_resources, source]
  simp

/-- Each permission becomes the statement that grants what it asks for. -/
theorem map_statement (permissions : List Permission) :
    permissions.map Permission.statement = permissions.map Permission.grant :=
  List.map_congr_left fun p _ => p.statement_eq

theorem mem_bodies_of_resource {id : String} {resource : ResourceDecl}
    (present : (resources (environment r).1 s r).get? id = some resource) :
    resource.properties ∈ (assembled name r s declared).bodies := by
  have member := OrderedMap.get?_eq_some_iff.mp present
  simp only [Template.bodies, List.mem_append, List.mem_map]
  exact .inl (.inr ⟨_, member, rfl⟩)

/-- No value in the environment is a literal. -/
theorem exists_toJson_environment_eq :
    ∀ entry ∈ (environment r).1.entries, ∃ inner, entry.2.toJson = .object inner := by
  intro entry member
  rw [environment, addVariables_fst] at member
  rcases OrderedMap.mem_entries_insertMany member with fixed | written
  · have listed := OrderedMap.mem_entries_ofList fixed
    simp only [List.mem_cons, List.not_mem_nil, or_false] at listed
    rcases listed with rfl | rfl <;> exact ⟨_, rfl⟩
  · obtain ⟨v, _, rfl⟩ := List.mem_map.mp written
    exact Json.exists_toJson_value_eq v

theorem statesOnly_functionResource (allowed : PolicyStatement → Prop) :
    Json.StatesOnly allowed (functionResource (environment r).1 s).properties := by
  have inner : Json.StatesOnly allowed
      (.object [("Variables", .ofMap Expr.toJson (environment r).1)]) := by
    apply Json.statesOnly_object
    simp [Json.statesOnly_variables exists_toJson_environment_eq]
  have code : ∀ bucket key, Json.StatesOnly allowed
      (.object [("S3Bucket", .string bucket), ("S3Key", .string key)]) := by
    intro bucket key
    apply Json.statesOnly_object
    simp
  apply Json.statesOnly_object
  simp only [List.forall_mem_append, List.forall_mem_cons, Json.forall_mem_optional_iff,
    Option.map_eq_some_iff]
  refine ⟨⟨?_, ?_⟩, ?_⟩
  · simp [inner]
  · rintro _ ⟨size, _, rfl⟩
    simp
  · rintro _ ⟨location, _, rfl⟩
    simp [code]

/-- A policy for the role states its own statements only. -/
theorem statesOnly_rolePolicy {allowed : PolicyStatement → Prop} {policy : String}
    {statements : List PolicyStatement} (permitted : ∀ s ∈ statements, allowed s) :
    Json.StatesOnly allowed (rolePolicy policy statements).properties := by
  have roles : Json.StatesOnly allowed (.array [(Expr.ref roleId).toJson]) :=
    Json.statesOnly_array (List.forall_mem_singleton.mpr (Json.statesOnly_toJson _))
  apply Json.statesOnly_object
  simp [roles, Json.statesOnly_policyDocument permitted]

/-- No body of the template states more than the requirements declare. -/
theorem statesOnly_bodies_assembled :
    ∀ body ∈ (assembled name r s declared).bodies, Json.StatesOnly r.Declares body := by
  intro body member
  simp only [Template.bodies, List.mem_append, List.mem_map] at member
  rcases member with (⟨entry, _, rfl⟩ | ⟨entry, resource, rfl⟩) | ⟨entry, _, rfl⟩
  · exact Json.statesOnly_toJson entry.2
  · rw [assembled, entries_resources] at resource
    simp only [List.mem_append, List.mem_cons, List.not_mem_nil, or_false, List.mem_flatMap,
      Option.mem_toList] at resource
    rcases resource with (rfl | rfl | rfl) | ⟨host, source, rfl | rfl⟩
    · exact statesOnly_functionResource r.Declares
    · have trust : ∀ s ∈ [trustStatement], r.Declares s :=
        List.forall_mem_singleton.mpr (.inl rfl)
      apply Json.statesOnly_object
      simp [Json.statesOnly_policyDocument trust]
    · refine statesOnly_rolePolicy fun s listed => ?_
      rcases List.mem_cons.mp listed with rfl | granted
      · exact .inr (.inl logStatement_eq)
      · obtain ⟨p, permitted, rfl⟩ := List.mem_map.mp granted
        exact .inr (.inr (.inl ⟨p, permitted, p.statement_eq⟩))
    · refine statesOnly_rolePolicy (List.forall_mem_singleton.mpr ?_)
      exact .inr (.inr (.inr ⟨host, source, streamStatement_eq host⟩))
    · apply Json.statesOnly_object
      simp
  · exact Json.statesOnly_toJson entry.2.value

/-- A policy document holds each of its statements. -/
theorem inside_policyDocument {statements : List PolicyStatement} {s : PolicyStatement}
    (member : s ∈ statements) : Json.Inside s.toJson (policyDocument statements) :=
  .value (List.mem_cons_of_mem _ (List.mem_singleton.mpr rfl))
    (.item (List.mem_map.mpr ⟨s, member, rfl⟩) .whole)

theorem inside_rolePolicy {policy : String} {statements : List PolicyStatement}
    {s : PolicyStatement} (member : s ∈ statements) :
    Json.Inside s.toJson (rolePolicy policy statements).properties := by
  have held := mem_of_findEntry (get?_policyDocument_rolePolicy policy statements)
  exact .value held (inside_policyDocument member)

/-- Each statement that the requirements declare stands in some body of the template. -/
theorem exists_inside_of_declares {stated : PolicyStatement} (declares : r.Declares stated) :
    ∃ body ∈ (assembled name r s declared).bodies, Json.Inside stated.toJson body := by
  have policy : (executionPolicy r.permissions).properties ∈
      (assembled name r s declared).bodies := mem_bodies_of_resource (get?_policyId _)
  rcases declares with rfl | rfl | ⟨p, member, rfl⟩ | ⟨host, source, rfl⟩
  · refine ⟨_, mem_bodies_of_resource (get?_roleId (environment r).1 s r), ?_⟩
    exact .value (List.mem_cons_of_mem _ (List.mem_singleton.mpr rfl))
      (inside_policyDocument (List.mem_singleton.mpr rfl))
  · exact ⟨_, policy, inside_rolePolicy (logStatement_eq ▸ List.mem_cons_self)⟩
  · refine ⟨_, policy, inside_rolePolicy (List.mem_cons_of_mem _ ?_)⟩
    exact List.mem_map.mpr ⟨p, member, p.statement_eq⟩
  · refine ⟨_, mem_bodies_of_resource (get?_triggerPolicyId (environment r).1 source), ?_⟩
    exact inside_rolePolicy (List.mem_singleton.mpr (streamStatement_eq host).symm)

/-- The assembled template allows exactly what the requirements allow. -/
theorem allows_assembled_iff {action : String} {resource : Expr} :
    (assembled name r s declared).Allows action resource ↔ r.Allows action resource := by
  rw [Requirements.allows_iff_exists_declares]
  constructor
  · rintro ⟨body, member, doc, inside, stated, read, effect, acts, on⟩
    have states := PolicyStatement.statesEffect_of_ofJson? read
    obtain ⟨found, declares, rfl⟩ := statesOnly_bodies_assembled body member doc inside states
    rw [PolicyStatement.ofJson?_toJson, Option.some.injEq] at read
    exact ⟨stated, read ▸ declares, effect, acts, on⟩
  · rintro ⟨stated, declares, effect, acts, on⟩
    obtain ⟨body, member, inside⟩ := exists_inside_of_declares declares
    exact ⟨body, member, _, inside, stated, stated.ofJson?_toJson, effect, acts, on⟩

/-- The policies are the execution policy and the one of the event source, if there is one. -/
theorem idsOfType_policy :
    (assembled name r s declared).idsOfType "AWS::IAM::Policy" =
      policyId :: r.eventSource.toList.map triggerPolicyId := by
  rw [Template.idsOfType, assembled, entries_resources]
  cases r.eventSource <;>
    simp [functionResource, roleResource, executionPolicy, rolePolicy, triggerPolicy,
      eventSourceMapping]

/-- There is one role. -/
theorem idsOfType_role :
    (assembled name r s declared).idsOfType "AWS::IAM::Role" = [roleId] := by
  rw [Template.idsOfType, assembled, entries_resources]
  cases r.eventSource <;>
    simp [functionResource, roleResource, executionPolicy, rolePolicy, triggerPolicy,
      eventSourceMapping]

end Assembled

end Compilation

/-- **Compiled templates grant exactly what was declared.** -/
theorem grantsExactly_of_compile {name : String} {r : Requirements} {s : Settings} {t : Template}
    (compiled : (compile name r s).result = .ok t) : t.GrantsExactly r := by
  obtain ⟨_, _, declared, _, rfl, _⟩ := compile_eq_ok_iff.mp compiled
  have role := get?_roleId (environment r).1 s r
  rw [roleId] at role
  exact {
    execution := by
      rw [← map_statement, ← logStatement_eq]
      exact statements_eq (get?_policyId _) (get?_policyDocument_rolePolicy _ _)
    trigger := by
      intro host source
      rw [← streamStatement_eq]
      exact statements_eq (get?_triggerPolicyId _ source) (get?_policyDocument_rolePolicy _ _)
    trust := by
      have held : roleResource.properties.get? "AssumeRolePolicyDocument" =
          some (policyDocument [trustStatement]) := by
        simp [roleResource, Json.get?, findEntry]
      exact statements_eq role held
    policies := idsOfType_policy
    roles := idsOfType_role
    role := by
      simp [Template.propertyNames, assembled, role, roleResource]
    elsewhere := statesOnly_bodies_assembled
    allowed := fun _ _ => allows_assembled_iff }

/-- A function that may read its table twice over and finds a variable called like the effect of a
statement. -/
def repeatedGrant : Requirements where
  permissions :=
    [.table ⟨"shop", "Orders"⟩ [.updateItem, .readItem], .iamAction ["s3:GetObject"] [.literal "*"],
      .table ⟨"shop", "Orders"⟩ [.readItem]]
  environment := [.parameter "Effect" ⟨"Allow", none⟩]
  eventSource := some ⟨"shop", "Orders"⟩

/-- Writing the objects that may be read is not allowed. -/
theorem grants_repeatedGrant :
    ∃ t, (compile "f" repeatedGrant {}).result = .ok t ∧ t.GrantsExactly repeatedGrant ∧
      ¬ t.Allows "s3:PutObject" (.literal "*") := by
  obtain ⟨t, compiled⟩ : ∃ t, (compile "f" repeatedGrant {}).result = .ok t :=
    exists_ok_of_isSome (by decide +kernel)
  have grants := grantsExactly_of_compile compiled
  refine ⟨t, compiled, grants, ?_⟩
  rw [grants.allowed]
  simp [Requirements.Allows, repeatedGrant, Permission.grantedActions, logGrant, streamGrant]

end Stackwright

import Stackwright.Dependency
import Stackwright.Notice
import Stackwright.Template.Closed

/-!
# Compiling a definition

The fragments of a definition are merged with a fixed skeleton into a template: the parameters that
the fragments need, the conditions that guard coalesced variables, the function with its role and
policy, and, for a function that a table triggers, the trigger. Entries under one name merge by
later-wins, except where that would confuse two different references or variables; then, and when
a name stays undeclared, compiling fails.
-/

namespace Stackwright

/-- Why a definition cannot be compiled. -/
inductive CompileError where
  | conditionCollision (condition variableName : String)
  | parameterNameCollision (parameter first second : String)
  | emptyActions (permission : String)
  | openName (use : OpenName)
deriving DecidableEq, Repr

namespace CompileError

def message : CompileError → String
  | .conditionCollision condition variableName =>
    "condition '" ++ condition ++ "' is generated by two different variables named '"
      ++ variableName ++ "'"
  | .parameterNameCollision parameter first second =>
    "references '" ++ first ++ "' and '" ++ second ++ "' both map to parameter '" ++ parameter
      ++ "'"
  | .emptyActions permission => permission ++ " grants no actions"
  | .openName (.undeclaredName name location) =>
    location ++ " refers to undeclared name '" ++ name ++ "'"
  | .openName (.undeclaredCondition condition location) =>
    location ++ " uses undeclared condition '" ++ condition ++ "'"

end CompileError

/-- The outcome of compiling, with the notices given on the way. -/
structure Compilation where
  result : Except CompileError Template
  notices : List Notice

namespace Compilation

/-- The parameter that holds the name of the environment. -/
def envParameter : String := "env"

/-- The parameter that holds the base name of the function. -/
def resourceNameParameter : String := "resourceName"

/-- The name of the environment that stands for none. -/
def noEnvironment : String := "NONE"

/-- The condition that holds when there is no environment. -/
def noEnvironmentCondition : String := "ShouldNotCreateEnvResources"

def functionId : String := "LambdaFunction"

def roleId : String := "LambdaExecutionRole"

def policyId : String := "LambdaExecutionPolicy"

/-- The first permission that lists no action. -/
def firstWithoutActions (permissions : List Permission) : Option CompileError :=
  (permissions.zipIdx.find? fun (p, _) => p.hasNoActions).map fun (p, i) =>
    .emptyActions (p.label i)

/-- The first reference whose parameter an earlier, different reference already took. -/
def referenceCollision (taken : List Reference) : List Reference → Option CompileError
  | [] => none
  | r :: rest =>
    match taken.find? fun earlier => decide (earlier.parameterName = r.parameterName) with
    | some earlier =>
      if earlier = r then referenceCollision taken rest
      else some (.parameterNameCollision r.parameterName earlier.key r.key)
    | none => referenceCollision (taken ++ [r]) rest

/-- Declares parameters one after the other, with a notice for each name already there. -/
def declare (declared : OrderedMap String ParameterDecl) :
    List Parameter → OrderedMap String ParameterDecl × List Notice
  | [] => (declared, [])
  | p :: rest =>
    let notices := match declared.get? p.name with
      | some existing => [Notice.parameterRedeclared p.name existing.defaultValue p.defaultValue]
      | none => []
    let (all, later) := declare (declared.insert p.name (.text p.defaultValue)) rest
    (all, notices ++ later)

/-- Declares a fixed parameter, with a notice if the name is already there. -/
def declareFixed (declared : OrderedMap String ParameterDecl) (p : Parameter) :
    OrderedMap String ParameterDecl × List Notice :=
  (declared.insert p.name (.text p.defaultValue),
    if declared.contains p.name then [.fixedParameterOverrides p.name] else [])

/-- The parameters needed, each distinct one once, then the environment and the base name. -/
def parameters (name : String) (r : Requirements) :
    OrderedMap String ParameterDecl × List Notice :=
  let (needed, redeclared) := declare .empty r.parameters.eraseDups
  let (withEnv, envOverride) := declareFixed needed ⟨envParameter, none⟩
  let (all, nameOverride) := declareFixed withEnv ⟨resourceNameParameter, some name⟩
  (all, redeclared ++ envOverride ++ nameOverride)

/-- Adds the guards of the variables; two different variables must not share one. -/
def guards (owners : List (String × Variable)) (conditions : OrderedMap String Expr) :
    List Variable → Except CompileError (OrderedMap String Expr)
  | [] => .ok conditions
  | v :: rest => do
    let (owners, conditions) ← claim v owners conditions v.conditions
    guards owners conditions rest
where
  /-- Adds the guards of one variable. -/
  claim (v : Variable) (owners : List (String × Variable)) (conditions : OrderedMap String Expr) :
      List (String × Expr) → Except CompileError (List (String × Variable) × OrderedMap String Expr)
    | [] => .ok (owners, conditions)
    | (condition, guard) :: rest =>
      match findEntry condition owners with
      | some owner =>
        if owner = v then claim v owners (conditions.insert condition guard) rest
        else .error (.conditionCollision condition v.name)
      | none => claim v (setEntry condition v owners) (conditions.insert condition guard) rest

/-- Holds when the function is deployed without an environment. -/
def noEnvironmentGuard : Expr := .equals (.ref envParameter) (.literal noEnvironment)

/-- The guards of permissions and variables, then the one for the environment. -/
def conditions (r : Requirements) : Except CompileError (OrderedMap String Expr) := do
  let ofPermissions := OrderedMap.ofList (r.permissions.flatMap Permission.conditions)
  let all ← guards [] ofPermissions r.environment
  return all.insert noEnvironmentCondition noEnvironmentGuard

/-- `base` without an environment, otherwise `base`, a hyphen and the environment. -/
def envScoped (base : Expr) : Expr :=
  .ifThenElse noEnvironmentCondition base (.join "" [base, .literal "-", .ref envParameter])

/-- Adds variables one after the other, with a notice where one replaces another value. -/
def addVariables (done : OrderedMap String Expr) :
    List Variable → OrderedMap String Expr × List Notice
  | [] => (done, [])
  | v :: rest =>
    let replaces := (done.get? v.name).any fun previous => !decide (previous = v.value)
    let (all, later) := addVariables (done.insert v.name v.value) rest
    (all, (if replaces then [.variableOverwritten v.name] else []) ++ later)

/-- The environment of the function: its two fixed variables, then those declared. -/
def environment (r : Requirements) : OrderedMap String Expr × List Notice :=
  addVariables (.ofList [("ENV", .ref envParameter), ("REGION", .region)]) r.environment

def functionResource (values : OrderedMap String Expr) (s : Settings) : ResourceDecl where
  type := "AWS::Lambda::Function"
  properties := .object <|
    [("Handler", .string s.handler),
      ("FunctionName", (envScoped (.ref resourceNameParameter)).toJson),
      ("Environment", .object [("Variables", .ofMap Expr.toJson values)]),
      ("Role", (Expr.getAtt roleId "Arn").toJson),
      ("Runtime", .string s.runtime),
      ("Timeout", .integer s.timeout)]
    ++ Json.optional "MemorySize" (s.memorySize.map fun n : Nat => .integer n)
    ++ Json.optional "Code" (s.code.map fun code =>
      .object [("S3Bucket", .string code.bucket), ("S3Key", .string code.key)])

/-- Who may take the role: the function service alone. -/
def trustStatement : PolicyStatement :=
  ⟨"Allow", some ["lambda.amazonaws.com"], ["sts:AssumeRole"], []⟩

def roleResource : ResourceDecl where
  type := "AWS::IAM::Role"
  properties := .object
    [("RoleName",
        (envScoped (.join "" [.ref resourceNameParameter, .literal "LambdaRole"])).toJson),
      ("AssumeRolePolicyDocument", policyDocument [trustStatement])]

/-- A policy of the role with the given name and statements. -/
def rolePolicy (name : String) (statements : List PolicyStatement) : ResourceDecl where
  type := "AWS::IAM::Policy"
  dependsOn := [roleId]
  properties := .object
    [("PolicyName", .string name),
      ("Roles", .array [(Expr.ref roleId).toJson]),
      ("PolicyDocument", policyDocument statements)]

/-- Writing to the log group of the function. -/
def logStatement : PolicyStatement :=
  .allow ["logs:CreateLogGroup", "logs:CreateLogStream", "logs:PutLogEvents"]
    [.sub ("arn:aws:logs:" ++ placeholder "AWS::Region" ++ ":" ++ placeholder "AWS::AccountId"
      ++ ":log-group:/aws/lambda/" ++ placeholder functionId ++ ":log-stream:*")]

/-- What the function may do: write its log, and what each permission grants. -/
def executionPolicy (permissions : List Permission) : ResourceDecl :=
  rolePolicy "lambda-execution-policy" (logStatement :: permissions.map Permission.statement)

def triggerPolicyId (t : Table) : String := "LambdaTriggerPolicy" ++ t.tableName

def mappingId (t : Table) : String := "LambdaEventSourceMapping" ++ t.tableName

/-- Reading the change stream of the table. -/
def streamStatement (t : Table) : PolicyStatement :=
  .allow ["dynamodb:DescribeStream", "dynamodb:GetRecords", "dynamodb:GetShardIterator",
    "dynamodb:ListStreams"] [t.streamArn]

def triggerPolicy (t : Table) : ResourceDecl :=
  rolePolicy ("lambda-trigger-policy-" ++ t.tableName) [streamStatement t]

/-- Calls the function with each change of the table. -/
def eventSourceMapping (t : Table) : ResourceDecl where
  type := "AWS::Lambda::EventSourceMapping"
  dependsOn := [triggerPolicyId t, roleId]
  properties := .object
    [("BatchSize", .integer 1),
      ("Enabled", .bool true),
      ("EventSourceArn", t.streamArn.toJson),
      ("FunctionName", (Expr.getAtt functionId "Arn").toJson),
      ("StartingPosition", .string "LATEST"),
      ("MaximumBatchingWindowInSeconds", .integer 1)]

/-- The function, its role and policy, and the trigger if there is an event source. -/
def resources (values : OrderedMap String Expr) (s : Settings) (r : Requirements) :
    OrderedMap String ResourceDecl :=
  .ofList <|
    [(functionId, functionResource values s), (roleId, roleResource),
      (policyId, executionPolicy r.permissions)]
    ++ r.eventSource.toList.flatMap fun t =>
      [(triggerPolicyId t, triggerPolicy t), (mappingId t, eventSourceMapping t)]

def outputs : OrderedMap String OutputDecl :=
  .ofList
    [("Name", ⟨.ref functionId⟩), ("Arn", ⟨.getAtt functionId "Arn"⟩), ("Region", ⟨.region⟩),
      ("LambdaExecutionRole", ⟨.ref roleId⟩)]

end Compilation

open Compilation in
/-- Compiles the requirements of a function called `name` that runs as the settings say. -/
def compile (name : String) (r : Requirements) (s : Settings) : Compilation :=
  match firstWithoutActions r.permissions with
  | some error => ⟨.error error, []⟩
  | none =>
    match referenceCollision [] r.references with
    | some error => ⟨.error error, []⟩
    | none =>
      let (parameters, parameterNotices) := parameters name r
      match conditions r with
      | .error error => ⟨.error error, parameterNotices⟩
      | .ok conditions =>
        let (values, variableNotices) := environment r
        let template : Template :=
          ⟨parameters, conditions, resources values s r, outputs⟩
        let notices := parameterNotices ++ variableNotices
        match template.firstOpen with
        | some use => ⟨.error (.openName use), notices⟩
        | none =>
          ⟨.ok template, notices ++ [.compiled name template.parameters.size
            template.conditions.size template.resources.size]⟩

/-- Compiles a definition. -/
def Definition.compile (d : Definition) : Compilation :=
  Stackwright.compile d.name d.requirements d.settings

end Stackwright

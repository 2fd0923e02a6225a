import Stackwright.Policy
import Stackwright.Definition

/-!
# What each part of a definition contributes

Every permission and variable becomes a fragment of the template: the parameters it needs, the
references it touches, the expressions it is read by, and the statement, guard or environment entry
that it adds. Values from outside are always read through a parameter.
-/

namespace Stackwright

/-- The expression that reads the parameter. -/
def Parameter.expr (p : Parameter) : Expr := .ref p.name

/-- The expression that reads the output, through its parameter. -/
def Reference.expr (r : Reference) : Expr := .ref r.parameterName

def ValueSource.expr : ValueSource → Expr
  | .reference r => r.expr
  | .parameter p => p.expr

def IamResource.expr : IamResource → Expr
  | .literal arn => .literal arn
  | .reference r => r.expr

/-- A name between `${` and a closing brace. -/
def placeholder (name : String) : String := "$\x7b" ++ name ++ "\x7d"

/-- An attribute of the table, imported from the stack of its API. -/
def Table.imported (t : Table) (property : String) : Expr :=
  .importValue (.sub (placeholder t.outputReference.parameterName ++ ":GetAtt:" ++ t.logicalId
    ++ ":" ++ property))

/-- The run-time name of the table. -/
def Table.nameExpr (t : Table) : Expr := t.imported "Name"

/-- The address of the table's change stream. -/
def Table.streamArn (t : Table) : Expr := t.imported "StreamArn"

/-- The address of a resource in the region and account of the deployment. -/
def regionalArn (service resourceType : String) (id : Expr) : Expr :=
  .join "" [.literal ("arn:aws:" ++ service ++ ":"), .region, .literal ":", .accountId,
    .literal (":" ++ resourceType), id]

def Table.arn (t : Table) : Expr := regionalArn "dynamodb" "table/" t.nameExpr

def UserPool.arn (p : UserPool) : Expr := regionalArn "cognito-idp" "userpool/" p.idReference.expr

/-- The parameters that the table's values are read through. -/
def Table.parameters (t : Table) : List Parameter := [t.outputReference.toParameter]

def Table.references (t : Table) : List Reference := [t.outputReference]

namespace ValueSource

def parameters : ValueSource → List Parameter
  | .parameter p => [p]
  | .reference r => [r.toParameter]

def references : ValueSource → List Reference
  | .parameter _ => []
  | .reference r => [r]

end ValueSource

/-- The reference of a resource that is not spelled out. -/
def IamResource.reference? : IamResource → Option Reference
  | .literal _ => none
  | .reference r => some r

namespace Permission

def references : Permission → List Reference
  | .table host _ => host.references
  | .userPool pool _ => [pool.idReference]
  | .sendMail _ => []
  | .iamAction _ resources => resources.filterMap IamResource.reference?

def parameters : Permission → List Parameter
  | .table host _ => host.parameters
  | .userPool pool _ => [pool.idReference.toParameter]
  | .sendMail identity => [identity]
  | .iamAction _ resources =>
    (resources.filterMap IamResource.reference?).map Reference.toParameter

/-- The guards that the permission needs: no kind of permission needs one. -/
def conditions (_ : Permission) : List (String × Expr) := []

/-- Whether the permission lists the actions it grants. -/
def hasNoActions : Permission → Bool
  | .table _ actions => actions.isEmpty
  | .userPool _ actions => actions.isEmpty
  | .sendMail _ => false
  | .iamAction actions _ => actions.isEmpty

/-- The mail identity that the parameter names. -/
def mailIdentity (identity : Parameter) : Expr :=
  .sub ("arn:aws:ses:" ++ placeholder "AWS::Region" ++ ":" ++ placeholder "AWS::AccountId"
    ++ ":identity/" ++ placeholder identity.name)

/-- The statement that grants the permission. -/
def statement : Permission → PolicyStatement
  | .table host actions => .allow (actions.map TableAction.serviceAction) [host.arn]
  | .userPool pool actions => .allow (actions.map UserPoolAction.serviceAction) [pool.arn]
  | .sendMail identity => .allow ["ses:SendEmail"] [mailIdentity identity]
  | .iamAction actions resources => .allow actions (resources.map IamResource.expr)

end Permission

namespace Variable

def references : Variable → List Reference
  | .tableName host => host.references
  | .parameter .. => []
  | .resourceOutput _ r => [r]
  | .coalesced _ first second => first.references ++ second.references

def parameters : Variable → List Parameter
  | .tableName host => host.parameters
  | .parameter _ p => [p]
  | .resourceOutput _ r => [r.toParameter]
  | .coalesced _ first second => first.parameters ++ second.parameters

/-- The condition that guards a coalesced variable. -/
def conditionName (name : String) : String := "FirstNotEmpty_" ++ name

/-- The guards that the variable needs, by name. -/
def conditions : Variable → List (String × Expr)
  | .coalesced name first _ =>
    [(conditionName name, .not [.equals first.expr (.literal "")])]
  | _ => []

/-- The value of the variable. -/
def value : Variable → Expr
  | .tableName host => host.nameExpr
  | .parameter _ p => p.expr
  | .resourceOutput _ r => r.expr
  | .coalesced name first second => .ifThenElse (conditionName name) first.expr second.expr

end Variable

namespace Requirements

/-- All parameters needed, in order: those of the permissions, of the variables, and of the event
source. -/
def parameters (r : Requirements) : List Parameter :=
  r.permissions.flatMap Permission.parameters ++ r.environment.flatMap Variable.parameters
    ++ r.eventSource.toList.flatMap Table.parameters

/-- All references touched, in the same order. -/
def allReferences (r : Requirements) : List Reference :=
  r.permissions.flatMap Permission.references ++ r.environment.flatMap Variable.references
    ++ r.eventSource.toList.flatMap Table.references

end Requirements

end Stackwright

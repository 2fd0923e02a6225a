import Stackwright.Expr.Json

/-!
# Policy documents

Lists of statements, each of which allows actions on resources.
-/

namespace Stackwright

/-- One statement of a policy. -/
structure PolicyStatement where
  effect : String
  /-- The services that the statement speaks of; absent in policies attached to a role. -/
  services : Option (List String) := none
  actions : List String
  resources : List Expr
deriving DecidableEq, Repr

namespace PolicyStatement

/-- Allows the actions on the resources. -/
def allow (actions : List String) (resources : List Expr) : PolicyStatement :=
  ⟨"Allow", none, actions, resources⟩

/-- An empty list of resources is left out. -/
def toJson (s : PolicyStatement) : Json :=
  .object <|
    [("Effect", .string s.effect)]
      ++ Json.optional "Principal" (s.services.map fun names =>
        .object [("Service", .strings names)])
      ++ [("Action", .strings s.actions)]
      ++ (if s.resources.isEmpty then [] else [("Resource", .array (s.resources.map Expr.toJson))])

end PolicyStatement

/-- The version of the policy language. -/
def policyVersion : String := "2012-10-17"

/-- A policy of the given statements. -/
def policyDocument (statements : List PolicyStatement) : Json :=
  .object [("Version", .string policyVersion),
    ("Statement", .array (statements.map PolicyStatement.toJson))]

end Stackwright

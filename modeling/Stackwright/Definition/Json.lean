import Stackwright.Definition
import Stackwright.Json

/-!
# Definitions as JSON

The serialized form of a definition and its parts. Absent options are null, except the default of a
parameter, which is left out.
-/

namespace Stackwright

def Reference.toJson (r : Reference) : Json :=
  .object [("category", .string r.category), ("resource", .string r.resource),
    ("output", .string r.output)]

def Parameter.toJson (p : Parameter) : Json :=
  .object (("name", .string p.name) :: Json.optional "default" (p.defaultValue.map .string))

def Table.toJson (t : Table) : Json :=
  .object [("api_name", .string t.apiName), ("table_name", .string t.tableName)]

def UserPool.toJson (p : UserPool) : Json := .object [("auth_name", .string p.authName)]

def IamResource.toJson : IamResource → Json
  | .literal arn => .string arn
  | .reference r => r.toJson

def ValueSource.toJson : ValueSource → Json
  | .reference r => r.toJson
  | .parameter p => p.toJson

def Permission.toJson (p : Permission) : Json :=
  .object (("type", .string p.kind) :: match p with
    | .table host actions =>
      [("table", host.toJson), ("actions", .strings (actions.map TableAction.name))]
    | .userPool pool actions =>
      [("user_pool", pool.toJson), ("actions", .strings (actions.map UserPoolAction.name))]
    | .sendMail identity => [("identity", identity.toJson)]
    | .iamAction actions resources =>
      [("actions", .strings actions), ("resources", .array (resources.map IamResource.toJson))])

def Variable.toJson (v : Variable) : Json :=
  .object (("type", .string v.kind) :: match v with
    | .tableName table => [("table", table.toJson)]
    | .parameter name source => [("name", .string name), ("parameter", source.toJson)]
    | .resourceOutput name reference => [("name", .string name), ("reference", reference.toJson)]
    | .coalesced name first second =>
      [("name", .string name), ("first", first.toJson), ("second", second.toJson)])

def CodeLocation.toJson (c : CodeLocation) : Json :=
  .object [("s3_bucket", .string c.bucket), ("s3_key", .string c.key)]

def Settings.toJson (s : Settings) : Json :=
  .object [("handler", .string s.handler), ("runtime", .string s.runtime),
    ("timeout", .integer s.timeout),
    ("memory_size", .orNull (fun n : Nat => .integer n) s.memorySize),
    ("code", .orNull CodeLocation.toJson s.code)]

def Definition.toJson (d : Definition) : Json :=
  .object [("name", .string d.name), ("settings", d.settings.toJson),
    ("permissions", .array (d.requirements.permissions.map Permission.toJson)),
    ("environment", .array (d.requirements.environment.map Variable.toJson)),
    ("event_source", .orNull Table.toJson d.requirements.eventSource)]

end Stackwright

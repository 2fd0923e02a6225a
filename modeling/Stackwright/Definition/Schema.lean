import Stackwright.Definition.Json
import Stackwright.Permission

/-!
# The schema of definitions

Which JSON values are definitions, as a JSON schema.
-/

namespace Stackwright.Definition.Schema

/-- The members of a schema. -/
abbrev Members := List (String × Json)

def typed (type : String) : Members := [("type", .string type)]

/-- What the schema called `name` describes. -/
def named (name : String) : Members := [("$ref", .string ("#/definitions/" ++ name))]

def described (text : String) (members : Members) : Members :=
  ("description", .string text) :: members

def defaulted (value : Json) (members : Members) : Members := ("default", value) :: members

def listOf (item : Members) : Members := typed "array" ++ [("items", .object item)]

def anyOf (options : List Members) : Members := [("anyOf", .array (options.map .object))]

def oneOf (options : List Members) : Members := [("oneOf", .array (options.map .object))]

/-- A named schema, in a form to which a description can be added. -/
def allOf (name : String) : Members := [("allOf", .array [.object (named name)])]

def words (choices : List String) : Members := typed "string" ++ [("enum", .strings choices)]

def count : Members := [("format", .string "uint32"), ("minimum", .float .zero)]

/-- A record with the given properties, of which some have to be there. -/
def record (needed : List String) (properties : List (String × Members)) : Members :=
  typed "object"
    ++ (if needed.isEmpty then [] else [("required", .strings needed)])
    ++ [("properties", .object (properties.map fun (name, members) => (name, .object members)))]

def text : Members := typed "string"

def orNull (name : String) : Members := anyOf [named name, typed "null"]

def codeLocation : Members :=
  described "Bucket/key of the deployable artifact produced by the packaging step." <|
    record ["s3_bucket", "s3_key"] [("s3_bucket", text), ("s3_key", text)]

def environmentVariable : Members :=
  described "Environment variable derived from a template value." <| oneOf
    [described "Runtime name of a table; the variable name is derived from the table." <|
        record ["table", "type"] [("table", named "Table"), ("type", words ["table_name"])],
      record ["name", "parameter", "type"]
        [("name", text), ("parameter", named "Parameter"), ("type", words ["parameter"])],
      record ["name", "reference", "type"]
        [("name", text), ("reference", named "ResourceOutputReference"),
          ("type", words ["resource_output"])],
      described "`first` when it is non-empty at deploy time, otherwise `second`." <|
        record ["first", "name", "second", "type"]
          [("first", named "ValueSource"), ("name", text), ("second", named "ValueSource"),
            ("type", words ["coalesced"])]]

def settings : Members :=
  let standard : Settings := {}
  described "Function runtime settings." <| record []
    [("code", described "Location of the packaged artifact" <|
        defaulted .null <| orNull "CodeLocation"),
      ("handler", described "Entry point" <| defaulted (.string standard.handler) text),
      ("memory_size", described "Memory size in MB (platform default when absent)" <|
        defaulted .null <| ("type", .strings ["integer", "null"]) :: count),
      ("runtime", described "Runtime identifier" <| defaulted (.string standard.runtime) text),
      ("timeout", described "Timeout in seconds" <|
        defaulted (.integer standard.timeout) <| typed "integer" ++ count)]

def iamResource : Members :=
  described "Resource of a raw IAM statement — a literal ARN or another stack's output." <|
    anyOf [text, named "ResourceOutputReference"]

def parameter : Members :=
  described "A template parameter supplied at deployment time." <| record ["name"]
    [("default", described "Default value; absent means the template declares no default"
        [("type", .strings ["string", "null"])]),
      ("name", text)]

def permission : Members :=
  described "Access granted to the function's execution role." <| oneOf
    [record ["actions", "table", "type"]
        [("actions", listOf (named "TableAction")), ("table", named "Table"),
          ("type", words ["table"])],
      record ["actions", "type", "user_pool"]
        [("actions", listOf (named "UserPoolAction")), ("type", words ["user_pool"]),
          ("user_pool", named "UserPool")],
      record ["identity", "type"]
        [("identity", described "Verified mail identity the function may send as" <|
            allOf "Parameter"),
          ("type", words ["send_mail"])],
      record ["actions", "resources", "type"]
        [("actions", listOf text), ("resources", listOf (named "IamResource")),
          ("type", words ["iam_action"])]]

def reference : Members :=
  described "One named output of an externally managed resource." <|
    record ["category", "output", "resource"]
      [("category", described "Resource category (e.g. \"api\", \"auth\")" text),
        ("output", described "Output name exported by the resource's stack" text),
        ("resource", described "Resource name within the category" text)]

def table : Members :=
  described "A data table hosted inside a named API stack." <|
    record ["api_name", "table_name"] [("api_name", text), ("table_name", text)]

def tableAction : Members :=
  described "Table access levels." <| words (TableAction.all.map TableAction.name)

def userPool : Members :=
  described "An identity pool." <| record ["auth_name"] [("auth_name", text)]

def userPoolAction : Members :=
  described "Identity pool operations." <| words (UserPoolAction.all.map UserPoolAction.name)

def valueSource : Members :=
  described "One leg of a coalesced variable." <|
    anyOf [named "ResourceOutputReference", named "Parameter"]

/-- The schemas that others name. -/
def parts : List (String × Members) :=
  [("CodeLocation", codeLocation), ("EnvironmentVariable", environmentVariable),
    ("FunctionSettings", settings), ("IamResource", iamResource), ("Parameter", parameter),
    ("Permission", permission), ("ResourceOutputReference", reference), ("Table", table),
    ("TableAction", tableAction), ("UserPool", userPool), ("UserPoolAction", userPoolAction),
    ("ValueSource", valueSource)]

/-- A definition as a whole. -/
def whole : Members :=
  described "A function definition as stored on disk." <| record ["name"]
    [("environment", described "Derived environment variables" <|
        defaulted (.array []) <| listOf (named "EnvironmentVariable")),
      ("event_source", described "Table whose change stream triggers the function" <|
        defaulted .null <| orNull "Table"),
      ("name", described "Function (and template resource) name" text),
      ("permissions", described "Access grants (order only affects statement order)" <|
        defaulted (.array []) <| listOf (named "Permission")),
      ("settings", described "Runtime settings for the function resource" <|
        defaulted (Settings.toJson {}) <| allOf "FunctionSettings")]

/-- The dialect in which the schema is written. -/
def dialect : String := "http:" ++ "//json-schema.org/draft-07/schema#"

end Schema

/-- The schema of definitions. -/
def schema : Json :=
  .object <|
    [("$schema", .string Schema.dialect),
      ("title", .string "FunctionDefinition")]
    ++ Schema.whole
    ++ [("definitions",
      .object (Schema.parts.map fun (name, members) => (name, .object members)))]

end Stackwright.Definition

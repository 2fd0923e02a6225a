import Stackwright.Datum.Variant
import Stackwright.Definition

/-!
# Reading definitions

Which data is a definition. The name and the settings are read from the source as it stands; all
else is first kept aside in the order of the text, so that a repeated or faulty part is found
before anything in it is looked at.
-/

namespace Stackwright

open Datum

variable {ν : Type} [Source ν]

def Table.read : ν → Except Error Table :=
  readRecord "Table"
    (.required "api_name" Source.text <| .required "table_name" Source.text .nil)
    fun (api, table, _) => ⟨api, table⟩

def UserPool.read : ν → Except Error UserPool :=
  readRecord "UserPool" (.required "auth_name" Source.text .nil) fun (auth, _) => ⟨auth⟩

def Reference.read : ν → Except Error Reference :=
  readRecord "ResourceOutputReference"
    (.required "category" Source.text <| .required "resource" Source.text <|
      .required "output" Source.text .nil)
    fun (category, resource, output, _) => ⟨category, resource, output⟩

def Parameter.read : ν → Except Error Parameter :=
  readRecord "Parameter"
    (.required "name" Source.text <|
      .defaulted "default" (readOptional Source.text) none .nil)
    fun (name, defaultValue, _) => ⟨name, defaultValue⟩

def IamResource.read : ν → Except Error IamResource :=
  readFirst "IamResource"
    [fun d => IamResource.literal <$> Source.text d, fun d => .reference <$> Reference.read d]

def ValueSource.read : ν → Except Error ValueSource :=
  readFirst "ValueSource"
    [fun d => ValueSource.reference <$> Reference.read d, fun d => .parameter <$> Parameter.read d]

def TableAction.read : Datum → Except Error TableAction :=
  readName (TableAction.all.map fun a => (a.name, a))

def UserPoolAction.read : Datum → Except Error UserPoolAction :=
  readName (UserPoolAction.all.map fun a => (a.name, a))

/-- The kinds of permission with the records that follow them. -/
def Permission.variants : List (String × (Datum → Except Error Permission)) :=
  [("table", readRecord "TablePermission"
      (.required "table" Table.read <| .required "actions" (readList TableAction.read) .nil)
      fun (host, actions, _) => .table host actions),
    ("user_pool", readRecord "UserPoolPermission"
      (.required "user_pool" UserPool.read <|
        .required "actions" (readList UserPoolAction.read) .nil)
      fun (pool, actions, _) => .userPool pool actions),
    ("send_mail", readRecord "SendMailPermission"
      (.required "identity" Parameter.read .nil) fun (identity, _) => .sendMail identity),
    ("iam_action", readRecord "IamActionPermission"
      (.required "actions" (readList Source.text) <|
        .required "resources" (readList IamResource.read) .nil)
      fun (actions, resources, _) => .iamAction actions resources)]

/-- The kinds of variable with the records that follow them. -/
def Variable.variants : List (String × (Datum → Except Error Variable)) :=
  [("table_name", readRecord "TableNameVariable"
      (.required "table" Table.read .nil) fun (table, _) => .tableName table),
    ("parameter", readRecord "ParameterVariable"
      (.required "name" Source.text <| .required "parameter" Parameter.read .nil)
      fun (name, source, _) => .parameter name source),
    ("resource_output", readRecord "ResourceOutputVariable"
      (.required "name" Source.text <| .required "reference" Reference.read .nil)
      fun (name, reference, _) => .resourceOutput name reference),
    ("coalesced", readRecord "CoalescedVariable"
      (.required "name" Source.text <| .required "first" ValueSource.read <|
        .required "second" ValueSource.read .nil)
      fun (name, first, second, _) => .coalesced name first second)]

def Permission.read {ν : Type} [TaggedSource ν] : ν → Except Error Permission :=
  readTagged "Permission" Permission.variants

def Variable.read {ν : Type} [TaggedSource ν] : ν → Except Error Variable :=
  readTagged "EnvironmentVariable" Variable.variants

def CodeLocation.read : ν → Except Error CodeLocation :=
  readRecord "CodeLocation"
    (.required "s3_bucket" Source.text <| .required "s3_key" Source.text .nil)
    fun (bucket, key, _) => ⟨bucket, key⟩

def Settings.read : ν → Except Error Settings :=
  let standard : Settings := {}
  readRecord "FunctionSettings"
    (.defaulted "handler" Source.text standard.handler <|
      .defaulted "runtime" Source.text standard.runtime <|
      .defaulted "timeout" Source.count standard.timeout <|
      .defaulted "memory_size" (readOptional Source.count) standard.memorySize <|
      .defaulted "code" (readOptional CodeLocation.read) standard.code .nil)
    fun (handler, runtime, timeout, memorySize, code, _) =>
      ⟨handler, runtime, timeout, memorySize, code⟩

/-- The requirements among data kept aside. -/
def Requirements.fields :
    Fields Datum [List Permission, List Variable, Option Table] :=
  .defaulted "permissions" (readList Permission.read) [] <|
    .defaulted "environment" (readList Variable.read) [] <|
    .defaulted "event_source" (readOptional Table.read) none .nil

def Requirements.ofEntries (entries : List (String × Datum)) : Except Error Requirements := do
  let slots ← fields.putAll (entries.map fun entry => (.ok (.name entry.1), entry.2)) (.empty _)
  let (permissions, environment, eventSource, _) ← fields.finish slots
  return ⟨permissions, environment, eventSource⟩

/-- What has been read of a definition. -/
structure Definition.Draft where
  name : Option String := none
  settings : Option Settings := none
  /-- The other entries, the last one first. -/
  others : List (String × Datum) := []

/-- Reads one entry of a definition. -/
def Definition.Draft.put (draft : Draft) (key : String) (v : ν) : Except Error Draft :=
  if key = "name" then
    match draft.name with
    | some _ => refuse (.duplicateField "name")
    | none => do return { draft with name := some (← Source.text v) }
  else if key = "settings" then
    match draft.settings with
    | some _ => refuse (.duplicateField "settings")
    | none => do return { draft with settings := some (← Settings.read v) }
  else do return { draft with others := (key, ← Source.buffer v) :: draft.others }

/-- Reads the entries of a definition one after the other. -/
def Definition.Draft.putAll (draft : Draft) :
    List (Except Error FieldKey × ν) → Except Error Draft
  | [] => .ok draft
  | (key, v) :: rest => do
    match ← key with
    | .name key => (← draft.put key v).putAll rest
    | .position _ => draft.putAll rest

def Definition.read (v : ν) : Except Error Definition := do
  let entries ← entries "struct FunctionDefinition" v
  let draft ← (Draft.putAll {} entries).mapError (Source.locate v)
  let name ← match draft.name with
    | some name => .ok name
    | none => .error (Source.locate v (.plain (.missingField "name")))
  return ⟨name, draft.settings.getD {}, ← Requirements.ofEntries draft.others.reverse⟩

end Stackwright

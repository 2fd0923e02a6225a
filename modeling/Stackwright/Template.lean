import Stackwright.Expr.Json
import Stackwright.Json

/-!
# Templates

The document handed to the deployment platform: parameters, conditions, resources and outputs, each
section in the order in which its entries were first written. Written as JSON and read back, the
sections keep their order; a default that is absent and an empty list of dependencies are left out.
-/

namespace Stackwright

/-- The declaration of a parameter. -/
structure ParameterDecl where
  type : String
  defaultValue : Option String := none
deriving DecidableEq, Repr

/-- The declaration of a logical resource. -/
structure ResourceDecl where
  type : String
  /-- Resources that must be created first. -/
  dependsOn : List String := []
  properties : Json

/-- The declaration of an output. -/
structure OutputDecl where
  value : Expr
deriving DecidableEq, Repr

structure Template where
  parameters : OrderedMap String ParameterDecl := .empty
  conditions : OrderedMap String Expr := .empty
  resources : OrderedMap String ResourceDecl := .empty
  outputs : OrderedMap String OutputDecl := .empty
deriving Inhabited

/-- A parameter that holds text. -/
def ParameterDecl.text (defaultValue : Option String) : ParameterDecl := ⟨"String", defaultValue⟩

open Datum

def ParameterDecl.toJson (d : ParameterDecl) : Json :=
  .object (("Type", .string d.type) :: Json.optional "Default" (d.defaultValue.map .string))

def ResourceDecl.toJson (d : ResourceDecl) : Json :=
  .object <|
    [("Type", .string d.type)]
      ++ (if d.dependsOn.isEmpty then [] else [("DependsOn", .strings d.dependsOn)])
      ++ [("Properties", d.properties)]

def OutputDecl.toJson (d : OutputDecl) : Json := .object [("Value", d.value.toJson)]

def Template.toJson (t : Template) : Json :=
  .object [("Parameters", .ofMap ParameterDecl.toJson t.parameters),
    ("Conditions", .ofMap Expr.toJson t.conditions),
    ("Resources", .ofMap ResourceDecl.toJson t.resources),
    ("Outputs", .ofMap OutputDecl.toJson t.outputs)]

/-- A source whose values are JSON. -/
class JsonSource (ν : Type) extends Source ν where
  json : ν → Except Error Json

instance : JsonSource Json where
  json := .ok

instance : JsonSource Json.Written where
  json v := v.toJson.mapError Json.Written.faultError

section Reading

variable {ν : Type} [Source ν]

def ParameterDecl.read : ν → Except Error ParameterDecl :=
  readRecord "ParameterDecl"
    (.required "Type" Source.text <|
      .defaulted "Default" (readOptional Source.text) none .nil)
    fun (type, defaultValue, _) => ⟨type, defaultValue⟩

def OutputDecl.read : ν → Except Error OutputDecl :=
  readRecord "OutputDecl" (.required "Value" Expr.read .nil) fun (value, _) => ⟨value⟩

end Reading

variable {ν : Type} [JsonSource ν]

def ResourceDecl.read : ν → Except Error ResourceDecl :=
  readRecord "ResourceDecl"
    (.required "Type" Source.text <|
      .defaulted "DependsOn" (readList Source.text) [] <|
      .required "Properties" JsonSource.json .nil)
    fun (type, dependsOn, properties, _) => ⟨type, dependsOn, properties⟩

def Template.read : ν → Except Error Template :=
  readRecord "Template"
    (.required "Parameters" (readMap ParameterDecl.read) <|
      .required "Conditions" (readMap Expr.read) <|
      .required "Resources" (readMap ResourceDecl.read) <|
      .required "Outputs" (readMap OutputDecl.read) .nil)
    fun (parameters, conditions, resources, outputs, _) =>
      ⟨parameters, conditions, resources, outputs⟩

end Stackwright

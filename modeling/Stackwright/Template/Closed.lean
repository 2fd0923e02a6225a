import Stackwright.Template

/-!
# Closed templates

A template is closed if every name it uses is declared in it. `Template.uses` lists the names in
the order of the document, so the first use that fails is the one to report.
-/

namespace Stackwright

/-- A name that a part of a template uses. -/
inductive NameUse where
  /-- The name of a parameter or resource. -/
  | value (name : String)
  /-- The name of a condition. -/
  | condition (name : String)
  /-- The name of a resource that must come first. -/
  | dependency (name : String)
deriving DecidableEq, Repr

/-- A name that is used but not declared, with the place of its use. -/
inductive OpenName where
  | undeclaredName (name location : String)
  | undeclaredCondition (condition location : String)
deriving DecidableEq, Repr

namespace Json

/-- The names that the members of one object use by themselves. -/
def ownUses (members : List (String × Json)) : List NameUse :=
  (match findEntry "Ref" members with
    | some (.string name) => [.value name]
    | _ => [])
  ++ (match findEntry "Fn::Sub" members with
    | some (.string template) => (Expr.placeholders template).map .value
    | _ => [])
  ++ (match findEntry "Fn::If" members with
    | some (.array (.string condition :: _)) => [.condition condition]
    | _ => [])

mutual

/-- All names used at any depth, each object before its members. -/
def uses : Json → List NameUse
  | .object members => ownUses members ++ memberUses members
  | .array items => itemUses items
  | _ => []

def itemUses : List Json → List NameUse
  | [] => []
  | item :: rest => uses item ++ itemUses rest

def memberUses : List (String × Json) → List NameUse
  | [] => []
  | (_, value) :: rest => uses value ++ memberUses rest

end

end Json

/-- The text before the first dot. -/
def baseName (name : String) : String := String.ofList (name.toList.takeWhile (· != '.'))

/-- A name without a dot is its own base. -/
theorem baseName_eq_self {name : String} (dotFree : '.' ∉ name.toList) : baseName name = name := by
  have each : ∀ c ∈ name.toList, (c != '.') = true := by
    intro c member
    simpa using fun same : c = '.' => dotFree (same ▸ member)
  have whole : (name.toList ++ []).takeWhile (· != '.') = name.toList ++ [].takeWhile (· != '.') :=
    List.takeWhile_append_of_pos each
  rw [List.append_nil, List.takeWhile_nil, List.append_nil] at whole
  rw [baseName, whole, String.ofList_toList]

namespace Template

/-- Whether a name stands for a value: a pseudo parameter, or a parameter or resource by the part
before the first dot. -/
def resolves (t : Template) (name : String) : Bool :=
  "AWS::".toList.isPrefixOf name.toList
    || t.parameters.contains (baseName name) || t.resources.contains (baseName name)

/-- Whether what is used is declared. -/
def declares (t : Template) : NameUse → Bool
  | .value name => t.resolves name
  | .condition name => t.conditions.contains name
  | .dependency id => t.resources.contains id

/-- The uses of one resource: its dependencies before its properties. -/
def resourceUses (id : String) (decl : ResourceDecl) : List (String × NameUse) :=
  let location := "Resources." ++ id
  decl.dependsOn.map (fun dep => (location ++ ".DependsOn", .dependency dep))
    ++ decl.properties.uses.map (location, ·)

/-- All uses of names with their places, in the order of the document. -/
def uses (t : Template) : List (String × NameUse) :=
  t.conditions.entries.flatMap (fun (name, condition) =>
      condition.toJson.uses.map ("Conditions." ++ name, ·))
    ++ t.resources.entries.flatMap (fun (id, decl) => resourceUses id decl)
    ++ t.outputs.entries.flatMap (fun (name, output) =>
      output.value.toJson.uses.map ("Outputs." ++ name, ·))

/-- Every name used is declared. -/
def Closed (t : Template) : Prop := ∀ use ∈ t.uses, t.declares use.2 = true

instance (t : Template) : Decidable t.Closed := inferInstanceAs (Decidable (∀ _ ∈ _, _))

/-- The report about a use that is not declared. -/
def openName (location : String) : NameUse → OpenName
  | .value name => .undeclaredName name location
  | .condition name => .undeclaredCondition name location
  | .dependency id => .undeclaredName id location

/-- The first use that is not declared. -/
def firstOpen (t : Template) : Option OpenName :=
  (t.uses.find? fun use => !t.declares use.2).map fun use => openName use.1 use.2

/-- No name is open exactly in a closed template. -/
theorem firstOpen_eq_none_iff (t : Template) : t.firstOpen = none ↔ t.Closed := by
  simp [firstOpen, Closed]

end Template

end Stackwright

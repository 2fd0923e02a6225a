import Stackwright.Proofs.Expr.Format
import Stackwright.Proofs.OrderedMap
import Stackwright.Template
import Stackwright.Fragment

/-!
# What a deployment computes

A deployment assigns texts to parameters and pseudo parameters. Expressions are evaluated under such
an assignment, choices by the conditions of the template, and `Template.textAt` is what a property
of a resource amounts to. Attributes, imports and substitutions depend on what is deployed and have
no text here.
-/

namespace Stackwright

/-- The texts that a deployment gives to parameters and pseudo parameters. -/
abbrev Assignment := String → String

namespace Expr

mutual

/-- The text of an expression where `holds` decides the conditions, if it has one. -/
def text (σ : Assignment) (holds : String → Option Bool) : Expr → Option String
  | .literal s => some s
  | .ref name => some (σ name)
  | .ifThenElse condition whenTrue whenFalse =>
    match holds condition with
    | some true => text σ holds whenTrue
    | some false => text σ holds whenFalse
    | none => none
  | .join delimiter parts => (textAll σ holds parts).map delimiter.intercalate
  | _ => none

def textAll (σ : Assignment) (holds : String → Option Bool) : List Expr → Option (List String)
  | [] => some []
  | e :: rest => do
    let first ← text σ holds e
    return first :: (← textAll σ holds rest)

end

/-- Whether a condition holds, if it is one. The platform evaluates no choice inside a condition. -/
def truth (σ : Assignment) : Expr → Option Bool
  | .equals left right => do
    let first ← left.text σ fun _ => none
    let second ← right.text σ fun _ => none
    return decide (first = second)
  | .not [condition] => (truth σ condition).map (!·)
  | _ => none

end Expr

/-- The value that a path of names leads to. -/
def Json.follow? (path : List String) (doc : Json) : Option Json :=
  path.foldlM (fun inner name => inner.get? name) doc

theorem Json.follow?_nil (doc : Json) : doc.follow? [] = some doc := rfl

/-- Following a path goes through its first name and then on. -/
theorem Json.follow?_cons (name : String) (path : List String) (doc : Json) :
    doc.follow? (name :: path) = (doc.get? name).bind fun inner => inner.follow? path :=
  List.foldlM_cons

namespace Template

/-- Whether the condition of that name holds. -/
def holds (t : Template) (σ : Assignment) (condition : String) : Option Bool :=
  (t.conditions.get? condition).bind (Expr.truth σ)

/-- The text of the property that the path leads to. -/
def textAt (t : Template) (σ : Assignment) (id : String) (path : List String) : Option String := do
  let resource ← t.resources.get? id
  let property ← resource.properties.follow? path
  let e ← Expr.ofDatum? property.toDatum
  e.text σ (t.holds σ)

/-- The text at a place is that of the expression written there. -/
theorem textAt_eq {t : Template} {σ : Assignment} {id : String} {path : List String}
    {resource : ResourceDecl} {e : Expr} (present : t.resources.get? id = some resource)
    (leads : resource.properties.follow? path = some e.toJson) :
    t.textAt σ id path = e.text σ (t.holds σ) := by
  simp [textAt, present, leads, Expr.ofDatum?_toJson]

end Template

def ValueSource.meaning (σ : Assignment) : ValueSource → String
  | .reference r => σ (r.category ++ r.resource ++ r.output)
  | .parameter p => σ p.name

/-- The text that a variable stands for; the name of a table is known to its own stack only. -/
def Variable.meaning? (σ : Assignment) : Variable → Option String
  | .tableName _ => none
  | .parameter _ p => some (σ p.name)
  | .resourceOutput _ r => some (σ (r.category ++ r.resource ++ r.output))
  | .coalesced _ first second =>
    some (if first.meaning σ = "" then second.meaning σ else first.meaning σ)

end Stackwright

import Stackwright.Fragment
import Stackwright.OrderedMap

/-!
# Dependencies

The references that a function touches, each once, and the same grouped by the resource that
exports them.
-/

namespace Stackwright

/-- The elements whose key no earlier element has. -/
def firstByKey {α κ : Type} [DecidableEq κ] (key : α → κ) : List α → List α
  | [] => []
  | a :: rest => a :: (firstByKey key rest).filter fun b => !decide (key b = key a)

/-- A resource and the outputs that are read from it. -/
structure Dependency where
  category : String
  resourceName : String
  outputs : List String
deriving DecidableEq, Repr

namespace Requirements

/-- The references touched, each key once, in order of first occurrence. -/
def references (r : Requirements) : List Reference :=
  firstByKey Reference.key r.allReferences

end Requirements

namespace Dependency

/-- The groups with one more reference, in the group of its resource. -/
def addReference (groups : OrderedMap String Dependency) (r : Reference) :
    OrderedMap String Dependency :=
  match groups.get? r.groupKey with
  | some group => groups.insert r.groupKey { group with outputs := group.outputs ++ [r.output] }
  | none => groups.insert r.groupKey ⟨r.category, r.resource, [r.output]⟩

/-- The resources that a function depends on, in order of first occurrence. -/
def ofRequirements (r : Requirements) : List Dependency :=
  (r.references.foldl addReference .empty).entries.map Prod.snd

def toJson (d : Dependency) : Json :=
  .object [("category", .string d.category), ("resourceName", .string d.resourceName),
    ("attributes", .strings d.outputs)]

end Dependency

end Stackwright

import Stackwright.Binary64
import Stackwright.OrderedMap

/-!
# JSON values

A value keeps the order of its members. Whole numbers and other numbers are told apart, since the
formats that read and write them do.
-/

namespace Stackwright

/-- A JSON value; the members of an object stand in the order in which they were written. -/
inductive Json where
  | null
  | bool (value : Bool)
  | integer (value : Int)
  | float (value : Binary64)
  | string (value : String)
  | array (items : List Json)
  | object (members : List (String × Json))
deriving BEq, Repr, Inhabited

namespace Json

/-- An array of strings. -/
def strings (items : List String) : Json := .array (items.map .string)

/-- The member that is left out when it has no value. -/
def optional (name : String) (value : Option Json) : List (String × Json) :=
  match value with
  | some json => [(name, json)]
  | none => []

/-- The value, or null when there is none. -/
def orNull {α : Type} (encode : α → Json) (value : Option α) : Json :=
  (value.map encode).getD .null

/-- A map as an object, its entries in order. -/
def ofMap {α : Type} (encode : α → Json) (map : OrderedMap String α) : Json :=
  .object (map.entries.map fun entry => (entry.1, encode entry.2))

/-- The member of an object under `name`. -/
def get? (name : String) : Json → Option Json
  | .object members => findEntry name members
  | _ => none

/-- No object at any depth repeats a name. -/
inductive WellFormed : Json → Prop
  | null : WellFormed .null
  | bool (value : Bool) : WellFormed (.bool value)
  | integer (value : Int) : WellFormed (.integer value)
  | float (value : Binary64) : WellFormed (.float value)
  | string (value : String) : WellFormed (.string value)
  | array (items : List Json) (inner : ∀ item ∈ items, WellFormed item) :
      WellFormed (.array items)
  | object (members : List (String × Json)) (distinct : (members.map Prod.fst).Nodup)
      (inner : ∀ member ∈ members, WellFormed member.2) : WellFormed (.object members)

end Json

end Stackwright

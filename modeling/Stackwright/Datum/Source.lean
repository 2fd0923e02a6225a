import Stackwright.Datum

/-!
# Sources of data

Records are read from the values of several formats. A `Source` tells what a format's value looks
like from outside and how the format answers a request for a text, a count or an optional value;
what a record requires is said once, for every source.
-/

namespace Stackwright.Datum

/-- A field as a value names it: by its name, or by its position in the record. -/
inductive FieldKey where
  | name (name : String)
  | position (index : Nat)
deriving DecidableEq, Repr

/-- A value from outside, its parts still in the format's own type. -/
inductive View (ν : Type) where
  | null
  | bool (value : Bool)
  | integer (value : Int)
  | float (value : Binary64)
  | string (value : String)
  | sequence (items : List ν)
  | mapping (entries : List (Except Error FieldKey × ν))

def View.seen {ν : Type} : View ν → Seen
  | .null => .null
  | .bool b => .bool b
  | .integer n => .integer n
  | .float x => .float x
  | .string s => .string s
  | .sequence _ => .sequence
  | .mapping _ => .mapping

/-- The two ways to write a record: with named fields, or its fields in order. -/
inductive RecordForm (ν : Type) where
  | keyed (entries : List (Except Error FieldKey × ν))
  | listed (items : List ν)

/-- The largest count, that of 32 bits. -/
def countLimit : Nat := Nat.pow 2 32 - 1

/-- A count among the integers. -/
def countOf (n : Int) : Except Error Nat :=
  if 0 ≤ n && n ≤ countLimit then .ok n.toNat else refuse (.invalidValue (.integer n) "u32")

/-- What the values of a format look like to a reader of records. -/
class Source (ν : Type) where
  /-- The value from outside, or its fault. -/
  view : ν → Except Error (View ν)
  /-- The value kept aside for a later decision. -/
  buffer : ν → Except Error Datum
  /-- An error about the value as a whole, with its place where the format keeps one. -/
  locate : ν → Error → Error := fun _ error => error
  text : ν → Except Error String := fun v => do
    match ← view v with
    | .string s => return s
    | other => refuse (.invalidType other.seen "a string")
  count : ν → Except Error Nat := fun v => do
    match ← view v with
    | .integer n => countOf n
    | other => refuse (.invalidType other.seen "u32")
  optional : ν → Except Error (Option ν) := fun v => do
    match ← view v with
    | .null => return none
    | _ => return some v
  items : ν → Except Error (List ν) := fun v => do
    match ← view v with
    | .sequence items => return items
    | other => refuse (.invalidType other.seen "a sequence")
  record : String → ν → Except Error (RecordForm ν) := fun expected v => do
    match ← view v with
    | .mapping entries => return .keyed entries
    | .sequence items => return .listed items
    | other => refuse (.invalidType other.seen expected)
  /-- The objection to a sequence of `given` elements for a record of `wanted` fields. -/
  surplus : (given wanted : Nat) → Option Cause

/-- The entries of a mapping whose keys are names; a sequence is refused. -/
def entries {ν : Type} [Source ν] (expected : String) (v : ν) :
    Except Error (List (Except Error FieldKey × ν)) := do
  match ← Source.record expected v with
  | .keyed entries => return entries
  | .listed _ => .error (Source.locate v (.plain (.invalidType .sequence expected)))

def seen : Datum → Seen
  | .null => .null
  | .bool b => .bool b
  | .natural n => .integer n
  | .integer n => .integer n
  | .float x => .float x
  | .string s => .string s
  | .sequence _ => .sequence
  | .mapping _ => .mapping

/-- A name or position, where `expected` tells which kind of name is wanted. -/
def identifier (expected : String) : Datum → Except Error FieldKey
  | .string s => .ok (.name s)
  | .natural n => .ok (.position n)
  | other => refuse (.invalidType other.seen expected)

def view : Datum → View Datum
  | .null => .null
  | .bool b => .bool b
  | .natural n => .integer n
  | .integer n => .integer n
  | .float x => .float x
  | .string s => .string s
  | .sequence items => .sequence items
  | .mapping entries =>
    .mapping (entries.map fun entry => (identifier "field identifier" entry.1, entry.2))

instance : Source Datum where
  view v := .ok v.view
  buffer := .ok
  surplus given wanted :=
    some (.invalidLength given (elementCount wanted ++ " in sequence"))

end Stackwright.Datum

namespace Stackwright.Json

open Datum

mutual

/-- The value as data; whole numbers that are not negative may serve as positions. -/
def toDatum : Json → Datum
  | .null => .null
  | .bool b => .bool b
  | .integer n => if 0 ≤ n then .natural n.toNat else .integer n
  | .float x => .float x
  | .string s => .string s
  | .array items => .sequence (itemsToDatum items)
  | .object members => .mapping (membersToDatum members)

def itemsToDatum : List Json → List Datum
  | [] => []
  | item :: rest => toDatum item :: itemsToDatum rest

def membersToDatum : List (String × Json) → List (Datum × Datum)
  | [] => []
  | (name, value) :: rest => (.string name, toDatum value) :: membersToDatum rest

end

def view : Json → View Json
  | .null => .null
  | .bool b => .bool b
  | .integer n => .integer n
  | .float x => .float x
  | .string s => .string s
  | .array items => .sequence items
  | .object members => .mapping (members.map fun member => (.ok (.name member.1), member.2))

/-- A JSON value as a source. -/
instance : Source Json where
  view v := .ok v.view
  buffer v := .ok v.toDatum
  surplus given _ := some (.invalidLength given "fewer elements in array")

namespace Written

mutual

/-- The text kept aside, or its first fault. -/
def toDatum : Written → Except Fault Datum
  | .fault f => .error f
  | .null => .ok .null
  | .bool b => .ok (.bool b)
  | .integer n => .ok (if 0 ≤ n then .natural n.toNat else .integer n)
  | .float x => .ok (.float x)
  | .string s => .ok (.string s)
  | .array items => do return .sequence (← itemsToDatum items)
  | .object members => do return .mapping (← membersToDatum members)

def itemsToDatum : List Written → Except Fault (List Datum)
  | [] => .ok []
  | item :: rest => do
    let first ← toDatum item
    return first :: (← itemsToDatum rest)

def membersToDatum : List (Except Fault String × Written) → Except Fault (List (Datum × Datum))
  | [] => .ok []
  | (name, value) :: rest => do
    let key ← name
    let first ← toDatum value
    return (.string key, first) :: (← membersToDatum rest)

end

def faultError (f : Fault) : Error := .plain (.fault f)

def view : Written → Except Error (View Written)
  | .fault f => .error (faultError f)
  | .null => .ok .null
  | .bool b => .ok (.bool b)
  | .integer n => .ok (.integer n)
  | .float x => .ok (.float x)
  | .string s => .ok (.string s)
  | .array items => .ok (.sequence items)
  | .object members =>
    .ok (.mapping (members.map fun member =>
      ((member.1.map FieldKey.name).mapError faultError, member.2)))

/-- JSON text as a source: what is not looked at may hold a fault. -/
instance : Source Written where
  view v := v.view
  buffer v := v.toDatum.mapError faultError
  surplus _ _ := some .surplus

end Written

end Stackwright.Json

import Stackwright.Datum.Source

/-!
# Reading records

A record is described by its fields: their names, how their values are read, and what stands in
for a field that is left out. Reading follows the order of the text, so of two errors the one that
is written first is reported: a repeated field before its second value is read, and fields that
are missing at the very end, in the order of the description. Unknown fields are skipped.
-/

namespace Stackwright.Datum

/-- One field of a record that is read from values of type `ν`. -/
structure Field (ν α : Type) where
  name : String
  read : ν → Except Error α
  /-- The value of a field that is left out; without one the field is required. -/
  fallback : Option α := none

/-- The fields of a record in order, with the types of their values. -/
inductive Fields (ν : Type) : List Type → Type 1 where
  | nil : Fields ν []
  | cons {α : Type} {types : List Type} (field : Field ν α) (rest : Fields ν types) :
      Fields ν (α :: types)

/-- One value for each field. -/
def Values : List Type → Type
  | [] => Unit
  | α :: types => α × Values types

/-- A value for each field that has been read so far. -/
def Slots : List Type → Type
  | [] => Unit
  | α :: types => Option α × Slots types

/-- No field read yet. -/
def Slots.empty : (types : List Type) → Slots types
  | [] => ()
  | _ :: types => (none, Slots.empty types)

namespace Fields

variable {ν : Type}

/-- A single field in front of others. -/
def required {α : Type} {types : List Type} (name : String) (read : ν → Except Error α)
    (rest : Fields ν types) : Fields ν (α :: types) :=
  .cons ⟨name, read, none⟩ rest

/-- A field that may be left out, in front of others. -/
def defaulted {α : Type} {types : List Type} (name : String) (read : ν → Except Error α)
    (fallback : α) (rest : Fields ν types) : Fields ν (α :: types) :=
  .cons ⟨name, read, some fallback⟩ rest

def count {types : List Type} (_ : Fields ν types) : Nat := types.length

/-- Whether the key names the field in front, or else the key as the other fields see it. -/
def FieldKey.shift? (front : String) : FieldKey → Option FieldKey
  | .name n => if n = front then none else some (.name n)
  | .position 0 => none
  | .position (i + 1) => some (.position i)

/-- Reads a value into the field that `key` names. -/
def put : {types : List Type} → Fields ν types → FieldKey → ν → Slots types →
    Except Error (Slots types)
  | _, .nil, _, _, slots => .ok slots
  | _, .cons field rest, key, value, (slot, slots) =>
    match FieldKey.shift? field.name key with
    | some key => do return (slot, ← rest.put key value slots)
    | none =>
      match slot with
      | some _ => refuse (.duplicateField field.name)
      | none => do return (some (← field.read value), slots)

/-- Reads the entries one after the other. -/
def putAll {types : List Type} (fields : Fields ν types) :
    List (Except Error FieldKey × ν) → Slots types → Except Error (Slots types)
  | [], slots => .ok slots
  | (key, value) :: rest, slots => do
    let key ← key
    fields.putAll rest (← fields.put key value slots)

/-- The values of the fields, once all entries have been read. -/
def finish : {types : List Type} → Fields ν types → Slots types → Except Error (Values types)
  | _, .nil, _ => .ok ()
  | _, .cons field rest, (slot, slots) => do
    let value ← match slot, field.fallback with
      | some value, _ => .ok value
      | none, some value => .ok value
      | none, none => refuse (.missingField field.name)
    return (value, ← rest.finish slots)

/-- Reads the fields in order from a sequence; `index` elements came before, and `expected`
describes the whole record. -/
def takeItems (expected : String) : {types : List Type} → Fields ν types → Nat → List ν →
    Except Error (Values types)
  | _, .nil, _, _ => .ok ()
  | _, .cons field rest, index, items => do
    let value ← match items.head?, field.fallback with
      | some item, _ => field.read item
      | none, some value => .ok value
      | none, none => refuse (.invalidLength index expected)
    return (value, ← rest.takeItems expected (index + 1) items.tail)

end Fields

variable {ν ρ : Type} [Source ν]

/-- Reads a record called `name` from either of its forms. -/
def readRecord {types : List Type} (name : String) (fields : Fields ν types)
    (build : Values types → ρ) (v : ν) : Except Error ρ := do
  let expected := "struct " ++ name
  match ← Source.record expected v with
  | .keyed entries =>
    (do return build (← fields.finish (← fields.putAll entries (.empty types)))).mapError
      (Source.locate v)
  | .listed items =>
    let wanted := fields.count
    let whole := expected ++ " with " ++ elementCount wanted
    let values ← fields.takeItems whole 0 items
    if wanted < items.length then
      match Source.surplus ν items.length wanted with
      | some cause => refuse cause
      | none => return build values
    else return build values

/-- Reads every element of a sequence. -/
def readList {α : Type} (read : ν → Except Error α) (v : ν) : Except Error (List α) := do
  (← Source.items v).mapM read

/-- Reads a value that may be absent. -/
def readOptional {α : Type} (read : ν → Except Error α) (v : ν) : Except Error (Option α) := do
  match ← Source.optional v with
  | some v => return some (← read v)
  | none => return none

/-- Reads the values of a mapping; a later value replaces an earlier one of its name. -/
def readMap {α : Type} (read : ν → Except Error α) (v : ν) :
    Except Error (OrderedMap String α) := do
  go .empty (← entries "a map" v)
where
  go (done : OrderedMap String α) : List (Except Error FieldKey × ν) →
      Except Error (OrderedMap String α)
    | [] => .ok done
    | (key, value) :: rest => do
      match ← key with
      | .name name => go (done.insert name (← read value)) rest
      | .position i => refuse (.invalidType (.integer i) "a string")

end Stackwright.Datum

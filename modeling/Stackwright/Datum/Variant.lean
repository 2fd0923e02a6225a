import Stackwright.Datum.Record

/-!
# Reading alternatives

Three ways to tell alternatives apart: a record that names its kind in a field `type`, a bare
name, and the first alternative that fits.
-/

namespace Stackwright.Datum

/-- The alternative that a name or position selects. -/
def selectVariant {α : Type} (variants : List (String × α)) : FieldKey → Except Error α
  | .name name =>
    match findEntry name variants with
    | some variant => .ok variant
    | none => refuse (.unknownVariant name (variants.map Prod.fst))
  | .position i =>
    match variants[i]? with
    | some variant => .ok variant.2
    | none =>
      refuse (.invalidValue (.integer i)
        ("variant index 0 <= i < " ++ toString variants.length))

/-- A source whose values may name their kind. -/
class TaggedSource (ν : Type) extends Source ν where
  /-- The name or position that a value gives for an alternative. -/
  variantKey : ν → Except Error FieldKey
  /-- The entries of a mapping with their keys kept aside, or the elements of a sequence. -/
  taggedForm : String → ν → Except Error (List (Datum × ν) ⊕ List ν)

instance : TaggedSource Datum where
  variantKey := identifier "variant identifier"
  taggedForm expected
    | .mapping entries => .ok (.inl entries)
    | .sequence items => .ok (.inr items)
    | other => refuse (.invalidType other.seen expected)

instance : TaggedSource Json where
  variantKey
    | .string s => .ok (.name s)
    | other => refuse (.invalidType other.view.seen "variant identifier")
  taggedForm expected
    | .object members => .ok (.inl (members.map fun m => (.string m.1, m.2)))
    | .array items => .ok (.inr items)
    | other => refuse (.invalidType other.view.seen expected)

/-- The field that holds the kind. -/
def tagField : String := "type"

section Tagged

variable {ν α : Type} [TaggedSource ν]

/-- The alternative selected by the field `type`, and the other entries kept aside in order. -/
def splitTag (variants : List (String × α)) (tag : Option α) (others : List (Datum × Datum)) :
    List (Datum × ν) → Except Error (α × List (Datum × Datum))
  | [] =>
    match tag with
    | some variant => .ok (variant, others.reverse)
    | none => refuse (.missingField tagField)
  | (.string name, value) :: rest =>
    if name = tagField then
      match tag with
      | some _ => refuse (.duplicateField tagField)
      | none => do
        let variant ← selectVariant variants (← TaggedSource.variantKey value)
        splitTag variants (some variant) others rest
    else do
      splitTag variants tag ((.string name, ← Source.buffer value) :: others) rest
  | (key, value) :: rest => do
    splitTag variants tag ((key, ← Source.buffer value) :: others) rest

/-- Reads a record of the kind that its field `type`, or its first element, selects. -/
def readTagged {ρ : Type} (union : String) (variants : List (String × (Datum → Except Error ρ)))
    (v : ν) : Except Error ρ := do
  match ← TaggedSource.taggedForm ("internally tagged enum " ++ union) v with
  | .inl entries =>
    let (read, others) ← splitTag variants none [] entries
    read (.mapping others)
  | .inr [] => refuse (.missingField tagField)
  | .inr (first :: rest) =>
    let read ← selectVariant variants (← TaggedSource.variantKey first)
    let rest ← rest.mapM Source.buffer
    read (.sequence rest)

end Tagged

/-- Reads a bare name, or a mapping from the name to nothing. -/
def readName {α : Type} (variants : List (String × α)) : Datum → Except Error α
  | .string s => selectVariant variants (.name s)
  | .mapping [(key, value)] => do
    let variant ← selectVariant variants (← identifier "variant identifier" key)
    match value with
    | .null => return variant
    | .mapping [] => return variant
    | other => refuse (.invalidType other.seen "unit")
  | .mapping _ => refuse (.invalidValue .mapping "map with a single key")
  | other => refuse (.invalidType other.seen "string or map")

/-- The first alternative that accepts the data. -/
def readFirst {ν ρ : Type} [Source ν] (union : String)
    (alternatives : List (Datum → Except Error ρ)) (v : ν) : Except Error ρ := do
  let datum ← Source.buffer v
  match alternatives.findSome? fun read => (read datum).toOption with
  | some value => return value
  | none => refuse (.noAlternative union)

end Stackwright.Datum

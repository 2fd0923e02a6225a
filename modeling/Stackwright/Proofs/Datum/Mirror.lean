import Stackwright.Datum.Variant
import Stackwright.Proofs.Datum.Record

/-!
# Reading what was written

A source mirrors JSON if what is written in it for a JSON value answers every request as that value
would (`Datum.Mirrors`). JSON values mirror themselves, and so does the data that is kept aside for
them. Lists, records and tagged records are read from such a source by reading their parts
(`readList_map`, `Mirrors.readRecord_object`, `readTagged_record`).
-/

namespace Stackwright

namespace Datum

/-- The members of an object as the entries of a record. -/
def named {ν : Type} (written : Json → ν) (members : List (String × Json)) :
    List (Except Error FieldKey × ν) :=
  members.map fun member => (.ok (.name member.1), written member.2)

section Source

variable {ν : Type} [Source ν]

/-- A record with named fields is read by putting its entries into the fields one by one. -/
theorem readRecord_of_keyed {types : List Type} {ρ : Type} {name : String}
    {fields : Fields ν types} {build : Values types → ρ} {v : ν}
    {entries : List (Except Error FieldKey × ν)}
    (keyed : ∀ expected, Source.record expected v = .ok (.keyed entries)) :
    readRecord name fields build v =
      (do return build (← fields.finish (← fields.putAll entries (.empty types)))).mapError
        (Source.locate v) := by
  unfold readRecord
  simp only [keyed, bind, Except.bind]

/-- A list is read back if each of its items is. -/
theorem readList_map {α : Type} {written : Json → ν} {encode : α → Json}
    {read : ν → Except Error α}
    (items : ∀ items, Source.items (written (.array items)) = .ok (items.map written))
    (each : ∀ a, read (written (encode a)) = .ok a) (list : List α) :
    readList read (written (.array (list.map encode))) = .ok list := by
  unfold readList
  rw [items]
  change ((list.map encode).map written).mapM read = .ok list
  induction list with
  | nil => rfl
  | cons first rest ih =>
    rw [List.map_cons, List.map_cons, List.mapM_cons, each, ih]
    rfl

/-- What is written in the source for a JSON value answers requests as that value does. -/
structure Mirrors (written : Json → ν) : Prop where
  text : ∀ s, Source.text (written (.string s)) = .ok s
  count : ∀ n : Nat, n ≤ countLimit → Source.count (written (.integer n)) = .ok n
  absent : Source.optional (written .null) = .ok none
  present : ∀ j, j ≠ .null → Source.optional (written j) = .ok (some (written j))
  items : ∀ items, Source.items (written (.array items)) = .ok (items.map written)
  record : ∀ expected members, Source.record expected (written (.object members)) =
    .ok (.keyed (named written members))
  buffer : ∀ j, Source.buffer (written j) = .ok j.toDatum

end Source

end Datum

open Datum

namespace Json

/-- The items of a list are taken as data one by one. -/
theorem itemsToDatum_eq_map (items : List Json) : itemsToDatum items = items.map toDatum := by
  induction items with
  | nil => rfl
  | cons item rest ih => rw [itemsToDatum, ih, List.map_cons]

theorem membersToDatum_eq_map (members : List (String × Json)) :
    membersToDatum members = members.map fun member => (.string member.1, toDatum member.2) := by
  induction members with
  | nil => rfl
  | cons member rest ih => rw [membersToDatum, ih, List.map_cons]

/-- A natural number of 32 bits is a count. -/
theorem countOf_natCast {n : Nat} (fits : n ≤ countLimit) : countOf n = .ok n := by
  have bounds : (0 ≤ (n : Int) && (n : Int) ≤ countLimit) = true := by
    simp only [Bool.and_eq_true, decide_eq_true_eq]
    omega
  rw [countOf, if_pos bounds, Int.toNat_natCast]

theorem mirrors_self : Mirrors fun j : Json => j where
  text := fun _ => rfl
  count := fun _ fits => countOf_natCast fits
  absent := rfl
  present := by
    intro j given
    cases j with
    | null => exact (given rfl).elim
    | _ => rfl
  items := by
    intro items
    rw [List.map_id']
    rfl
  record := fun _ _ => rfl
  buffer := fun _ => rfl

/-- Data that is kept aside loses nothing that a reader of JSON asks for. -/
theorem mirrors_toDatum : Mirrors toDatum where
  text := fun _ => rfl
  count := fun _ fits => by
    rw [toDatum, if_pos (Int.natCast_nonneg _), Int.toNat_natCast]
    exact countOf_natCast fits
  absent := rfl
  present := by
    intro j given
    cases j with
    | null => exact (given rfl).elim
    | integer n =>
      rw [toDatum]
      split <;> rfl
    | _ => rfl
  items := by
    intro items
    rw [toDatum, itemsToDatum_eq_map]
    rfl
  record := by
    intro expected members
    have entries : (membersToDatum members).map (fun entry =>
        (identifier "field identifier" entry.1, entry.2)) = named toDatum members := by
      rw [membersToDatum_eq_map, List.map_map]
      rfl
    rw [toDatum, ← entries]
    rfl
  buffer := fun _ => rfl

end Json

namespace Datum

section Mirrors

variable {ν : Type} [Source ν] {written : Json → ν}

/-- A mirrored object is read as a record with the members as named fields. -/
theorem Mirrors.readRecord_object (mirrors : Mirrors written) {types : List Type} {ρ : Type}
    (name : String) (fields : Fields ν types) (build : Values types → ρ)
    (members : List (String × Json)) :
    readRecord name fields build (written (.object members)) =
      (do return build (← fields.finish (← fields.putAll (named written members)
        (.empty types)))).mapError (Source.locate (written (.object members))) :=
  readRecord_of_keyed fun expected => mirrors.record expected members

/-- An optional value is read back, absent ones from null. -/
theorem Mirrors.readOptional_orNull {α : Type} (mirrors : Mirrors written) {encode : α → Json}
    {read : ν → Except Error α} {value : Option α} (given : ∀ a, encode a ≠ .null)
    (each : ∀ a ∈ value, read (written (encode a)) = .ok a) :
    readOptional read (written (.orNull encode value)) = .ok value := by
  unfold readOptional Json.orNull
  cases value with
  | none =>
    rw [Option.map_none, Option.getD_none, mirrors.absent]
    rfl
  | some a =>
    rw [Option.map_some, Option.getD_some, mirrors.present _ (given a)]
    change (do return some (← read (written (encode a)))) = Except.ok (some a)
    rw [each a rfl]
    rfl

end Mirrors

/-- Once the tag has been found, everything else is kept aside as it stands. -/
theorem splitTag_membersToDatum {α : Type} {variants : List (String × α)} {variant : α}
    {members : List (String × Json)} (untagged : tagField ∉ members.map Prod.fst)
    (others : List (Datum × Datum)) :
    splitTag variants (some variant) others (Json.membersToDatum members) =
      .ok (variant, others.reverse ++ Json.membersToDatum members) := by
  induction members generalizing others with
  | nil => simp [splitTag, Json.membersToDatum]
  | cons member rest ih =>
    obtain ⟨name, value⟩ := member
    rw [List.map_cons, List.mem_cons, not_or] at untagged
    have other : ¬ name = tagField := fun same => untagged.1 same.symm
    rw [Json.membersToDatum, splitTag, if_neg other]
    change splitTag variants (some variant) ((.string name, value.toDatum) :: others)
      (Json.membersToDatum rest) = _
    rw [ih untagged.2, List.reverse_cons, List.append_assoc, List.singleton_append]

/-- A tagged record is read as a record of the kind that its tag names. -/
theorem readTagged_object {ρ : Type} {union kind : String}
    {variants : List (String × (Datum → Except Error ρ))} {read : Datum → Except Error ρ}
    {members : List (String × Json)} (known : findEntry kind variants = some read)
    (untagged : tagField ∉ members.map Prod.fst) :
    readTagged union variants (Json.object ((tagField, .string kind) :: members)).toDatum =
      read (Json.object members).toDatum := by
  have selected : splitTag variants none []
      (Json.membersToDatum ((tagField, .string kind) :: members)) =
        .ok (read, Json.membersToDatum members) := by
    rw [Json.membersToDatum, splitTag, if_pos rfl]
    change (do
      let variant ← selectVariant variants (.name kind)
      splitTag variants (some variant) [] (Json.membersToDatum members)) = _
    rw [selectVariant, known]
    exact splitTag_membersToDatum untagged []
  have form : TaggedSource.taggedForm ("internally tagged enum " ++ union)
      (Json.object ((tagField, .string kind) :: members)).toDatum =
        .ok (.inl (Json.membersToDatum ((tagField, .string kind) :: members))) := rfl
  unfold readTagged
  simp only [form, bind, Except.bind, selected]
  rfl

/-- A tagged record is read by the variant that its first member names. -/
theorem readTagged_record {types : List Type} {ρ : Type} {union kind name : String}
    {variants : List (String × (Datum → Except Error ρ))} {fields : Fields Datum types}
    {build : Values types → ρ} {members : List (String × Json)}
    (known : findEntry kind variants = some (readRecord name fields build))
    (untagged : tagField ∉ members.map Prod.fst) :
    readTagged union variants (Json.object ((tagField, .string kind) :: members)).toDatum =
      (do return build (← fields.finish (← fields.putAll (named Json.toDatum members)
        (.empty types)))).mapError (Source.locate (Json.object members).toDatum) := by
  rw [readTagged_object known untagged, Json.mirrors_toDatum.readRecord_object]

end Datum

end Stackwright

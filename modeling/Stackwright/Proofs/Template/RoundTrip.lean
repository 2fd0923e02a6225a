import Stackwright.Document
import Stackwright.Proofs.Datum.Mirror
import Stackwright.Proofs.Expr.Format
import Stackwright.Proofs.Json.TextRoundTrip

/-!
# Reading back templates

The JSON value of a template, in any source that keeps JSON values as they are, reads as that
template (`Template.read_toJson`). Members that a template does not have are skipped.
-/

namespace Stackwright

open Datum

/-- What is written in the source for a JSON value is seen as that value. -/
structure Datum.Faithful {ν : Type} [JsonSource ν] (written : Json → ν) : Prop where
  text : ∀ s, Source.text (written (.string s)) = .ok s
  items : ∀ items, Source.items (written (.array items)) = .ok (items.map written)
  record : ∀ expected members, Source.record expected (written (.object members)) =
    .ok (.keyed (named written members))
  optional : ∀ s, Source.optional (written (.string s)) = .ok (some (written (.string s)))
  buffer : ∀ j, Source.buffer (written j) = .ok j.toDatum
  json : ∀ j, j.WellFormed → JsonSource.json (written j) = .ok j

namespace Json.Written

theorem ofItems_eq_map (items : List Json) : ofItems items = items.map ofJson := by
  induction items with
  | nil => rfl
  | cons item rest ih => rw [ofItems, ih, List.map_cons]

theorem ofMembers_eq_map (members : List (String × Json)) :
    ofMembers members = members.map fun member => (.ok member.1, ofJson member.2) := by
  induction members with
  | nil => rfl
  | cons member rest ih => rw [ofMembers, ih, List.map_cons]

mutual

/-- A value as written is the same data. -/
theorem toDatum_ofJson : (j : Json) → (ofJson j).toDatum = .ok j.toDatum
  | .null | .bool _ | .integer _ | .float _ | .string _ => by
    simp [ofJson, toDatum, Json.toDatum]
  | .array items => by
    simp [ofJson, toDatum, Json.toDatum, itemsToDatum_ofItems items, bind, Except.bind, pure,
      Except.pure]
  | .object members => by
    simp [ofJson, toDatum, Json.toDatum, membersToDatum_ofMembers members, bind, Except.bind,
      pure, Except.pure]

theorem itemsToDatum_ofItems : (items : List Json) →
    itemsToDatum (ofItems items) = .ok (Json.itemsToDatum items)
  | [] => rfl
  | item :: rest => by
    simp [ofItems, itemsToDatum, Json.itemsToDatum, toDatum_ofJson item,
      itemsToDatum_ofItems rest, bind, Except.bind, pure, Except.pure]

theorem membersToDatum_ofMembers : (members : List (String × Json)) →
    membersToDatum (ofMembers members) = .ok (Json.membersToDatum members)
  | [] => rfl
  | (name, value) :: rest => by
    simp [ofMembers, membersToDatum, Json.membersToDatum, toDatum_ofJson value,
      membersToDatum_ofMembers rest, bind, Except.bind, pure, Except.pure]

end

/-- A value as written is seen as that value. -/
theorem faithful_ofJson : Faithful ofJson where
  text := fun _ => rfl
  items := by
    intro items
    rw [ofJson, ofItems_eq_map]
    rfl
  record := by
    intro expected members
    have keyed : (ofMembers members).map (fun member =>
        ((member.1.map FieldKey.name).mapError faultError, member.2)) = named ofJson members := by
      rw [ofMembers_eq_map, List.map_map]
      rfl
    rw [ofJson, ← keyed]
    rfl
  optional := fun _ => rfl
  buffer := by
    intro j
    change (ofJson j).toDatum.mapError faultError = _
    rw [toDatum_ofJson]
    rfl
  json := by
    intro j wellFormed
    change (ofJson j).toJson.mapError faultError = _
    rw [toJson_ofJson wellFormed]
    rfl

end Json.Written

section

variable {ν : Type} [JsonSource ν] {written : Json → ν}

namespace Datum.Faithful

/-- A written object is read as a record with the members as named fields. -/
theorem readRecord_object (faithful : Faithful written) {types : List Type} {ρ : Type}
    (name : String) (fields : Fields ν types) (build : Values types → ρ)
    (members : List (String × Json)) :
    readRecord name fields build (written (.object members)) =
      (do return build (← fields.finish (← fields.putAll (named written members)
        (.empty types)))).mapError (Source.locate (written (.object members))) :=
  readRecord_of_keyed fun expected => faithful.record expected members

/-- A member that the record does not have is skipped. -/
theorem readRecord_skip (faithful : Faithful written) {types : List Type} {ρ : Type}
    {name : String} {fields : Fields ν types} {build : Values types → ρ} {r : ρ} {unknown : String}
    (fresh : unknown ∉ fields.names) (value : Json) {members : List (String × Json)}
    (read : readRecord name fields build (written (.object members)) = .ok r) :
    readRecord name fields build (written (.object ((unknown, value) :: members))) = .ok r := by
  rw [readRecord_object faithful] at read ⊢
  have skipped : fields.putAll (named written ((unknown, value) :: members)) (.empty types) =
      fields.putAll (named written members) (.empty types) := by
    simp only [named, List.map_cons, Fields.putAll, Fields.put_unknown fresh, bind, Except.bind]
  rw [skipped, eq_ok_of_mapError read]
  rfl

/-- A written map is read back if each of its values is. -/
theorem readMap_ofMap {α : Type} (faithful : Faithful written) {encode : α → Json}
    {read : ν → Except Error α} {map : OrderedMap String α}
    (each : ∀ entry ∈ map.entries, read (written (encode entry.2)) = .ok entry.2) :
    readMap read (written (.ofMap encode map)) = .ok map := by
  have go : ∀ (pairs : List (String × α)) (done : OrderedMap String α),
      (∀ entry ∈ pairs, read (written (encode entry.2)) = .ok entry.2) →
      readMap.go read done (named written (pairs.map fun entry => (entry.1, encode entry.2))) =
        .ok (done.insertMany pairs) := by
    intro pairs
    induction pairs with
    | nil => exact fun _ _ => rfl
    | cons first rest ih =>
      intro done each
      rw [List.forall_mem_cons] at each
      simp only [List.map_cons, named, readMap.go, bind, Except.bind, each.1]
      exact ih _ each.2
  unfold readMap entries
  rw [Json.ofMap, faithful.record]
  exact (go map.entries .empty each).trans (congrArg _ (OrderedMap.ofList_entries map))

end Datum.Faithful

attribute [local simp] named Fields.required Fields.defaulted Fields.FieldKey.shift? Fields.put
  Fields.putAll Fields.finish Slots.empty bind Except.bind pure Except.pure

/-- The declaration of a parameter is read back as it was written. -/
theorem ParameterDecl.read_toJson (faithful : Faithful written) (d : ParameterDecl) :
    ParameterDecl.read (written d.toJson) = .ok d := by
  unfold ParameterDecl.read ParameterDecl.toJson
  rw [faithful.readRecord_object]
  obtain ⟨type, defaultValue⟩ := d
  cases defaultValue with
  | none => simp [Json.optional, faithful.text]
  | some value => simp [Json.optional, faithful.text, readOptional, faithful.optional]

theorem Expr.read_toJson (faithful : Faithful written) (e : Expr) :
    Expr.read (written e.toJson) = .ok e := by
  simp [Expr.read, faithful.buffer, Expr.ofDatum?_toJson]

theorem OutputDecl.read_toJson (faithful : Faithful written) (d : OutputDecl) :
    OutputDecl.read (written d.toJson) = .ok d := by
  unfold OutputDecl.read OutputDecl.toJson
  rw [faithful.readRecord_object]
  simp [Expr.read_toJson faithful]

/-- The declaration of a resource with well-formed properties is read back as it was written. -/
theorem ResourceDecl.read_toJson (faithful : Faithful written) {d : ResourceDecl}
    (wellFormed : d.properties.WellFormed) : ResourceDecl.read (written d.toJson) = .ok d := by
  have dependencies : readList Source.text (written (.strings d.dependsOn)) = .ok d.dependsOn :=
    readList_map faithful.items faithful.text d.dependsOn
  unfold ResourceDecl.read ResourceDecl.toJson
  rw [faithful.readRecord_object]
  obtain ⟨type, dependsOn, properties⟩ := d
  cases dependsOn with
  | nil => simp [faithful.text, faithful.json _ wellFormed]
  | cons first rest => simp [faithful.text, dependencies, faithful.json _ wellFormed]

/-- **Templates read back.** Reading what is written for a template gives the template. -/
theorem Template.read_toJson (faithful : Faithful written) {t : Template}
    (wellFormed : ∀ entry ∈ t.resources.entries, entry.2.properties.WellFormed) :
    Template.read (written t.toJson) = .ok t := by
  have parameters : readMap ParameterDecl.read
      (written (.ofMap ParameterDecl.toJson t.parameters)) = .ok t.parameters :=
    faithful.readMap_ofMap fun entry _ => ParameterDecl.read_toJson faithful entry.2
  have conditions : readMap Expr.read (written (.ofMap Expr.toJson t.conditions)) =
      .ok t.conditions :=
    faithful.readMap_ofMap fun entry _ => Expr.read_toJson faithful entry.2
  have resources : readMap ResourceDecl.read
      (written (.ofMap ResourceDecl.toJson t.resources)) = .ok t.resources :=
    faithful.readMap_ofMap fun entry member =>
      ResourceDecl.read_toJson faithful (wellFormed entry member)
  have outputs : readMap OutputDecl.read (written (.ofMap OutputDecl.toJson t.outputs)) =
      .ok t.outputs :=
    faithful.readMap_ofMap fun entry _ => OutputDecl.read_toJson faithful entry.2
  unfold Template.read Template.toJson
  rw [faithful.readRecord_object]
  simp [parameters, conditions, resources, outputs]

end

end Stackwright

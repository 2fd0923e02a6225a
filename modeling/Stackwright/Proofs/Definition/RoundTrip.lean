import Stackwright.Definition.Json
import Stackwright.Definition.Reader
import Stackwright.Proofs.Compilation.Grounding
import Stackwright.Proofs.Compilation.Portable
import Stackwright.Proofs.Datum.Mirror

/-!
# Reading back definitions

The JSON value of a definition reads as that definition (`Definition.read_toJson_of_fits`). A kind
is named by a tag that no field of its record repeats, and where the first of two shapes that fits
is taken, the first does not fit what was written for the second: a resource spelled out is no
object, and a parameter has no category.
-/

namespace Stackwright

open Datum

section

variable {ν : Type} [Source ν] {written : Json → ν}

attribute [local simp] named Fields.required Fields.defaulted Fields.FieldKey.shift? Fields.put
  Fields.putAll Fields.finish Slots.empty bind Except.bind pure Except.pure Except.mapError

/-- A reference is read back as it was written. -/
theorem Reference.read_toJson (mirrors : Mirrors written) (r : Reference) :
    Reference.read (written r.toJson) = .ok r := by
  unfold Reference.read Reference.toJson
  rw [mirrors.readRecord_object]
  simp [mirrors.text]

theorem Table.read_toJson (mirrors : Mirrors written) (t : Table) :
    Table.read (written t.toJson) = .ok t := by
  unfold Table.read Table.toJson
  rw [mirrors.readRecord_object]
  simp [mirrors.text]

theorem UserPool.read_toJson (mirrors : Mirrors written) (p : UserPool) :
    UserPool.read (written p.toJson) = .ok p := by
  unfold UserPool.read UserPool.toJson
  rw [mirrors.readRecord_object]
  simp [mirrors.text]

theorem CodeLocation.read_toJson (mirrors : Mirrors written) (c : CodeLocation) :
    CodeLocation.read (written c.toJson) = .ok c := by
  unfold CodeLocation.read CodeLocation.toJson
  rw [mirrors.readRecord_object]
  simp [mirrors.text]

theorem Parameter.read_toJson (mirrors : Mirrors written) (p : Parameter) :
    Parameter.read (written p.toJson) = .ok p := by
  unfold Parameter.read Parameter.toJson
  rw [mirrors.readRecord_object]
  obtain ⟨name, defaultValue⟩ := p
  cases defaultValue with
  | none => simp [Json.optional, mirrors.text]
  | some value =>
    simp [Json.optional, mirrors.text, readOptional, mirrors.present (.string value)]

/-- A parameter has no category, so it is not taken for a reference. -/
theorem Reference.read_parameter (p : Parameter) :
    (Reference.read p.toJson.toDatum).toOption = none := by
  unfold Reference.read Parameter.toJson
  rw [Json.mirrors_toDatum.readRecord_object]
  cases p.defaultValue <;> simp [Json.optional, refuse, Except.toOption]

/-- A union is read by the first alternative that accepts the buffered value. -/
theorem readFirst_of_buffer {ρ : Type} {union : String}
    {alternatives : List (Datum → Except Error ρ)} {j : Json} {value : ρ}
    (mirrors : Mirrors written)
    (found : (alternatives.findSome? fun read => (read j.toDatum).toOption) = some value) :
    readFirst union alternatives (written j) = .ok value := by
  unfold readFirst
  simp only [mirrors.buffer, bind, Except.bind, found]
  rfl

/-- Each alternative of a resource is read back as it was written: none before it accepts it. -/
theorem IamResource.read_toJson (mirrors : Mirrors written) (resource : IamResource) :
    IamResource.read (written resource.toJson) = .ok resource := by
  refine readFirst_of_buffer mirrors ?_
  cases resource with
  | literal arn => rfl
  | reference r =>
    have read : Reference.read r.toJson.toDatum = .ok r :=
      Reference.read_toJson Json.mirrors_toDatum r
    have refused : (Source.text r.toJson.toDatum).toOption = none := rfl
    cases text : Source.text r.toJson.toDatum with
    | ok s => simp [text, Except.toOption] at refused
    | error e => simp [IamResource.toJson, text, read, Except.toOption, Functor.map, Except.map]

theorem ValueSource.read_toJson (mirrors : Mirrors written) (source : ValueSource) :
    ValueSource.read (written source.toJson) = .ok source := by
  refine readFirst_of_buffer mirrors ?_
  cases source with
  | reference r =>
    have read : Reference.read r.toJson.toDatum = .ok r :=
      Reference.read_toJson Json.mirrors_toDatum r
    simp [ValueSource.toJson, read, Except.toOption, Functor.map, Except.map]
  | parameter p =>
    have read : Parameter.read p.toJson.toDatum = .ok p :=
      Parameter.read_toJson Json.mirrors_toDatum p
    have refused := Reference.read_parameter p
    cases other : Reference.read p.toJson.toDatum with
    | ok r => simp [other, Except.toOption] at refused
    | error e => simp [ValueSource.toJson, other, read, Except.toOption, Functor.map, Except.map]

/-- An action on tables is read back from its name. -/
theorem TableAction.read_name (action : TableAction) :
    TableAction.read (Json.string action.name).toDatum = .ok action := by
  cases action <;> rfl

theorem UserPoolAction.read_name (action : UserPoolAction) :
    UserPoolAction.read (Json.string action.name).toDatum = .ok action := by
  cases action <;> rfl

/-- A permission of any kind is read back as it was written. -/
theorem Permission.read_toJson (p : Permission) : Permission.read p.toJson.toDatum = .ok p := by
  have mirrors := Json.mirrors_toDatum
  cases p with
  | table host actions =>
    have each : readList TableAction.read (Json.toDatum (.strings (actions.map TableAction.name))) =
        .ok actions := by
      rw [Json.strings, List.map_map]
      exact readList_map mirrors.items TableAction.read_name actions
    refine (readTagged_record rfl (by simp [tagField])).trans ?_
    simp [Table.read_toJson mirrors, each]
  | userPool pool actions =>
    have each : readList UserPoolAction.read
        (Json.toDatum (.strings (actions.map UserPoolAction.name))) = .ok actions := by
      rw [Json.strings, List.map_map]
      exact readList_map mirrors.items UserPoolAction.read_name actions
    refine (readTagged_record rfl (by simp [tagField])).trans ?_
    simp [UserPool.read_toJson mirrors, each]
  | sendMail identity =>
    refine (readTagged_record rfl (by simp [tagField])).trans ?_
    simp [Parameter.read_toJson mirrors]
  | iamAction actions resources =>
    have texts : readList Source.text (Json.toDatum (.strings actions)) = .ok actions :=
      readList_map mirrors.items mirrors.text actions
    have each : readList IamResource.read
        (Json.toDatum (.array (resources.map IamResource.toJson))) = .ok resources :=
      readList_map mirrors.items (IamResource.read_toJson mirrors) resources
    refine (readTagged_record rfl (by simp [tagField])).trans ?_
    simp [texts, each]

/-- A variable of any kind is read back as it was written. -/
theorem Variable.read_toJson (v : Variable) : Variable.read v.toJson.toDatum = .ok v := by
  have mirrors := Json.mirrors_toDatum
  cases v with
  | tableName host =>
    refine (readTagged_record rfl (by simp [tagField])).trans ?_
    simp [Table.read_toJson mirrors]
  | parameter name p =>
    refine (readTagged_record rfl (by simp [tagField])).trans ?_
    simp [mirrors.text, Parameter.read_toJson mirrors]
  | resourceOutput name r =>
    refine (readTagged_record rfl (by simp [tagField])).trans ?_
    simp [mirrors.text, Reference.read_toJson mirrors]
  | coalesced name first second =>
    refine (readTagged_record rfl (by simp [tagField])).trans ?_
    simp [mirrors.text, ValueSource.read_toJson mirrors]

/-- Settings are read back as they were written, if their numbers fit. -/
theorem Settings.read_toJson (mirrors : Mirrors written) {s : Settings} (fits : s.Fits) :
    Settings.read (written s.toJson) = .ok s := by
  have memory : readOptional Source.count
      (written (.orNull (fun n : Nat => .integer n) s.memorySize)) = .ok s.memorySize :=
    mirrors.readOptional_orNull (by simp) fun n given => mirrors.count n (fits.2 n given)
  have code : readOptional CodeLocation.read (written (.orNull CodeLocation.toJson s.code)) =
      .ok s.code :=
    mirrors.readOptional_orNull (by simp [CodeLocation.toJson]) fun c _ =>
      CodeLocation.read_toJson mirrors c
  unfold Settings.read Settings.toJson
  rw [mirrors.readRecord_object]
  simp [mirrors.text, mirrors.count _ fits.1, memory, code]

/-- Requirements are read back from their three entries. -/
theorem Requirements.ofEntries_toDatum (r : Requirements) :
    Requirements.ofEntries
      [("permissions", Json.toDatum (.array (r.permissions.map Permission.toJson))),
        ("environment", Json.toDatum (.array (r.environment.map Variable.toJson))),
        ("event_source", Json.toDatum (.orNull Table.toJson r.eventSource))] = .ok r := by
  have mirrors := Json.mirrors_toDatum
  have permissions : readList Permission.read
      (Json.toDatum (.array (r.permissions.map Permission.toJson))) = .ok r.permissions :=
    readList_map mirrors.items Permission.read_toJson r.permissions
  have environment : readList Variable.read
      (Json.toDatum (.array (r.environment.map Variable.toJson))) = .ok r.environment :=
    readList_map mirrors.items Variable.read_toJson r.environment
  have source : readOptional Table.read (Json.toDatum (.orNull Table.toJson r.eventSource)) =
      .ok r.eventSource :=
    mirrors.readOptional_orNull (by simp [Table.toJson]) fun t _ => Table.read_toJson mirrors t
  unfold Requirements.ofEntries Requirements.fields
  simp [permissions, environment, source]

/-- A definition is read back from every source that mirrors its JSON. -/
theorem Definition.read_written (mirrors : Mirrors written) {d : Definition}
    (fits : d.settings.Fits) : Definition.read (written d.toJson) = .ok d := by
  unfold Definition.read entries Definition.toJson
  rw [mirrors.record]
  simp [Draft.putAll, Draft.put, mirrors.text, mirrors.buffer, Settings.read_toJson mirrors fits,
    Requirements.ofEntries_toDatum]

end

/-- **Definitions read back.** The JSON value of a definition reads as that definition, whatever
permissions, variables and settings it has. The numbers among the settings are counts that a
definition can give. -/
theorem Definition.read_toJson_of_fits {d : Definition} (fits : d.settings.Fits) :
    Definition.read d.toJson = .ok d :=
  Definition.read_written Json.mirrors_self fits

/-- The function of `everyKind` reads back with all settings given. -/
theorem Definition.read_toJson_everyKind :
    let settings : Settings :=
      { timeout := Datum.countLimit, memorySize := some 512, code := some ⟨"builds", "f.zip"⟩ }
    settings.Fits ∧
      Definition.read (Definition.mk "f" settings everyKind).toJson =
        .ok ⟨"f", settings, everyKind⟩ := by
  intro settings
  have fits : settings.Fits := by
    refine ⟨Nat.le_refl _, fun size given => ?_⟩
    cases given
    decide
  exact ⟨fits, Definition.read_toJson_of_fits fits⟩

end Stackwright

import Stackwright.Datum.Record

/-!
# Values of records

Every value in a record that was read was read by its field or is what the field falls back to
(`given_of_readRecord`), and members with other names than those of the fields change nothing.
-/

namespace Stackwright.Datum

/-- A sequence that succeeds has a first result and goes on from it. -/
theorem bind_ok {ε α β : Type} {x : Except ε α} {next : α → Except ε β} {b : β}
    (done : (x >>= next) = .ok b) : ∃ a, x = .ok a ∧ next a = .ok b := by
  cases x with
  | error e => cases done
  | ok a => exact ⟨a, rfl, done⟩

@[simp] theorem mapError_ok {ε ε' α : Type} (f : ε → ε') (a : α) :
    (Except.ok a : Except ε α).mapError f = .ok a := rfl

/-- Changing errors changes no success. -/
theorem eq_ok_of_mapError {ε ε' α : Type} {f : ε → ε'} {x : Except ε α} {a : α}
    (mapped : x.mapError f = .ok a) : x = .ok a := by
  cases x with
  | error e => cases mapped
  | ok b => exact congrArg _ (Except.ok.inj mapped)

namespace Fields

variable {ν : Type}

/-- Each field that has been read holds a value that its reader gave. -/
def Kept : {types : List Type} → Fields ν types → Slots types → Prop
  | _, .nil, _ => True
  | _, .cons field rest, (slot, slots) =>
    (∀ a, slot = some a → ∃ v, field.read v = .ok a) ∧ rest.Kept slots

/-- Each value was given by the reader of its field, or the field falls back to it. -/
def Given : {types : List Type} → Fields ν types → Values types → Prop
  | _, .nil, _ => True
  | _, .cons field rest, (value, values) =>
    (field.fallback = some value ∨ ∃ v, field.read v = .ok value) ∧ rest.Given values

theorem kept_empty {types : List Type} (fields : Fields ν types) : fields.Kept (.empty types) := by
  induction fields with
  | nil => trivial
  | cons field rest ih => exact ⟨nofun, ih⟩

/-- Putting one entry keeps the slots faithful to their readers. -/
theorem kept_put {types : List Type} {fields : Fields ν types} {key : FieldKey} {v : ν}
    {slots slots' : Slots types} (kept : fields.Kept slots)
    (put : fields.put key v slots = .ok slots') : fields.Kept slots' := by
  induction fields generalizing key with
  | nil => trivial
  | cons field rest ih =>
    obtain ⟨slot, slots⟩ := slots
    simp only [Fields.put] at put
    split at put
    · obtain ⟨later, stored, same⟩ := bind_ok put
      cases same
      exact ⟨kept.1, ih kept.2 stored⟩
    · split at put
      · cases put
      · obtain ⟨value, read, same⟩ := bind_ok put
        cases same
        exact ⟨fun a held => ⟨v, Option.some.inj held ▸ read⟩, kept.2⟩

theorem kept_putAll {types : List Type} {fields : Fields ν types}
    {entries : List (Except Error FieldKey × ν)} {slots slots' : Slots types}
    (kept : fields.Kept slots) (put : fields.putAll entries slots = .ok slots') :
    fields.Kept slots' := by
  induction entries generalizing slots with
  | nil =>
    cases put
    exact kept
  | cons entry rest ih =>
    obtain ⟨key, v⟩ := entry
    obtain ⟨name, _, put⟩ := bind_ok put
    obtain ⟨between, first, later⟩ := bind_ok put
    exact ih (kept_put kept first) later

/-- A finished record holds what its readers gave, or fallbacks. -/
theorem given_finish {types : List Type} {fields : Fields ν types} {slots : Slots types}
    {values : Values types} (kept : fields.Kept slots)
    (finished : fields.finish slots = .ok values) : fields.Given values := by
  induction fields with
  | nil => trivial
  | cons field rest ih =>
    obtain ⟨slot, slots⟩ := slots
    simp only [finish] at finished
    split at finished
    · obtain ⟨_, ⟨⟩, finished⟩ := bind_ok finished
      obtain ⟨later, others, same⟩ := bind_ok finished
      cases same
      exact ⟨.inr (kept.1 _ rfl), ih kept.2 others⟩
    · rename_i fallback
      obtain ⟨_, ⟨⟩, finished⟩ := bind_ok finished
      obtain ⟨later, others, same⟩ := bind_ok finished
      cases same
      exact ⟨.inl fallback, ih kept.2 others⟩
    · cases finished

/-- A record written as a list holds what its readers gave, or fallbacks. -/
theorem given_takeItems {types : List Type} {fields : Fields ν types} {expected : String}
    {index : Nat} {items : List ν} {values : Values types}
    (taken : fields.takeItems expected index items = .ok values) : fields.Given values := by
  induction fields generalizing index items with
  | nil => trivial
  | cons field rest ih =>
    simp only [takeItems] at taken
    split at taken
    · obtain ⟨value, read, taken⟩ := bind_ok taken
      obtain ⟨later, others, same⟩ := bind_ok taken
      cases same
      exact ⟨.inr ⟨_, read⟩, ih others⟩
    · rename_i fallback
      obtain ⟨_, ⟨⟩, taken⟩ := bind_ok taken
      obtain ⟨later, others, same⟩ := bind_ok taken
      cases same
      exact ⟨.inl fallback, ih others⟩
    · cases taken

/-- The names of the fields of a record. -/
def names : {types : List Type} → Fields ν types → List String
  | _, .nil => []
  | _, .cons field rest => field.name :: rest.names

/-- An entry that names no field changes nothing. -/
theorem put_unknown {types : List Type} {fields : Fields ν types}
    {unknown : String} (fresh : unknown ∉ fields.names) (value : ν) (slots : Slots types) :
    fields.put (.name unknown) value slots = .ok slots := by
  induction fields with
  | nil => rfl
  | cons field rest ih =>
    obtain ⟨slot, slots⟩ := slots
    rw [names, List.mem_cons, not_or] at fresh
    have deeper : put (.cons field rest) (.name unknown) value (slot, slots) =
        (do return (slot, ← rest.put (.name unknown) value slots)) := by
      simp only [put, FieldKey.shift?, if_neg fresh.1]
      rfl
    rw [deeper, ih fresh.2]
    rfl

end Fields

variable {ν : Type} [Source ν]

/-- A record that is read holds what its readers gave, or fallbacks. -/
theorem given_of_readRecord {types : List Type} {ρ : Type} {name : String}
    {fields : Fields ν types} {build : Values types → ρ} {v : ν} {r : ρ}
    (read : readRecord name fields build v = .ok r) :
    ∃ values, fields.Given values ∧ build values = r := by
  unfold readRecord at read
  obtain ⟨form, _, read⟩ := bind_ok read
  cases form with
  | keyed entries =>
    obtain ⟨slots, put, read⟩ := bind_ok (eq_ok_of_mapError read)
    obtain ⟨values, finished, same⟩ := bind_ok read
    exact ⟨values, Fields.given_finish (Fields.kept_putAll (Fields.kept_empty fields) put) finished,
      Except.ok.inj same⟩
  | listed items =>
    obtain ⟨values, taken, read⟩ := bind_ok read
    refine ⟨values, Fields.given_takeItems taken, ?_⟩
    split at read
    · split at read
      · cases read
      · exact Except.ok.inj read
    · exact Except.ok.inj read

end Stackwright.Datum

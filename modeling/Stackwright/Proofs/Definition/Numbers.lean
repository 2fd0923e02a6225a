import Stackwright.Document
import Stackwright.Proofs.Compilation.Portable
import Stackwright.Proofs.Datum.Record

/-!
# Numbers in definitions

The numbers in settings are read as counts, so those of a definition that was read from a text have
32 bits (`Definition.fits_of_ofText`).
-/

namespace Stackwright

open Datum

namespace Datum

/-- Counts in the source have 32 bits. -/
def CountsFit (ν : Type) [Source ν] : Prop :=
  ∀ (v : ν) (n : Nat), Source.count v = .ok n → n ≤ countLimit

/-- A count has 32 bits. -/
theorem le_of_countOf {n : Int} {count : Nat} (counted : countOf n = .ok count) :
    count ≤ countLimit := by
  unfold countOf at counted
  split at counted
  · rename_i bounds
    cases counted
    simp only [Bool.and_eq_true, decide_eq_true_eq] at bounds
    omega
  · cases counted

/-- What the sources do that take their counts from integers in view. -/
theorem le_of_counted_view {ν : Type} (view : Except Error (View ν)) {count : Nat}
    (counted : (do
      match ← view with
      | .integer n => countOf n
      | other => refuse (.invalidType other.seen "u32")) = Except.ok count) :
    count ≤ countLimit := by
  obtain ⟨seen, _, counted⟩ := bind_ok counted
  split at counted
  · exact le_of_countOf counted
  · cases counted

/-- Counts in JSON have 32 bits. -/
theorem countsFit_written : CountsFit Json.Written := fun v _ counted =>
  le_of_counted_view v.view counted

theorem countsFit_toml : CountsFit Toml.Value := fun v _ counted =>
  le_of_counted_view (.ok v.view) counted

theorem refuse_ne_ok {α : Type} (p : Yaml.Place) (expected : String) (a : α) :
    p.refuse expected ≠ .ok a := by
  intro same
  unfold Yaml.Place.refuse at same
  split at same <;> cases same

theorem countsFit_place : CountsFit Yaml.Place := by
  intro v count counted
  obtain ⟨p, _, counted⟩ := bind_ok (show v.count = .ok count from counted)
  split at counted
  · split at counted
    · exact le_of_countOf (eq_ok_of_mapError counted)
    · exact (refuse_ne_ok _ _ _ counted).elim
  · exact (refuse_ne_ok _ _ _ counted).elim

end Datum

variable {ν : Type} [Source ν]

/-- The numbers of settings that are read have 32 bits. -/
theorem Settings.fits_of_read (counts : CountsFit ν) {v : ν} {s : Settings}
    (read : Settings.read v = .ok s) : s.Fits := by
  obtain ⟨⟨_, _, timeout, memorySize, _⟩, given, rfl⟩ := given_of_readRecord read
  obtain ⟨_, _, ofTimeout, ofMemory, _⟩ := given
  constructor
  · rcases ofTimeout with fallback | ⟨v, read⟩
    · cases fallback
      show 25 ≤ countLimit
      decide
    · exact counts v timeout read
  · rintro size ⟨⟩
    rcases ofMemory with fallback | ⟨v, read⟩
    · cases fallback
    · unfold readOptional at read
      obtain ⟨inner, _, read⟩ := bind_ok read
      cases inner with
      | none => cases read
      | some v =>
        obtain ⟨n, counted, same⟩ := bind_ok read
        cases same
        exact counts v _ counted

namespace Definition

/-- An entry puts fitting settings into a draft, if it puts any. -/
theorem Draft.fits_of_put (counts : CountsFit ν) {draft draft' : Draft} {key : String} {v : ν}
    (fits : ∀ s ∈ draft.settings, s.Fits) (put : draft.put key v = .ok draft') :
    ∀ s ∈ draft'.settings, s.Fits := by
  unfold Draft.put at put
  split at put
  · split at put
    · cases put
    · obtain ⟨name, _, same⟩ := bind_ok put
      cases same
      exact fits
  · split at put
    · split at put
      · cases put
      · obtain ⟨settings, read, same⟩ := bind_ok put
        cases same
        rintro s ⟨⟩
        exact Settings.fits_of_read counts read
    · obtain ⟨datum, _, same⟩ := bind_ok put
      cases same
      exact fits

/-- A run of entries puts fitting settings into a draft. -/
theorem Draft.fits_of_putAll (counts : CountsFit ν) {draft draft' : Draft}
    {entries : List (Except Error FieldKey × ν)} (fits : ∀ s ∈ draft.settings, s.Fits)
    (put : draft.putAll entries = .ok draft') : ∀ s ∈ draft'.settings, s.Fits := by
  induction entries generalizing draft with
  | nil =>
    cases put
    exact fits
  | cons entry rest ih =>
    obtain ⟨key, v⟩ := entry
    obtain ⟨name, _, put⟩ := bind_ok put
    cases name with
    | name key =>
      obtain ⟨between, first, later⟩ := bind_ok put
      exact ih (Draft.fits_of_put counts fits first) later
    | position => exact ih fits put

/-- The numbers of a definition that is read have 32 bits. -/
theorem fits_of_read (counts : CountsFit ν) {v : ν} {d : Definition}
    (read : Definition.read v = .ok d) : d.settings.Fits := by
  obtain ⟨entries, _, read⟩ := bind_ok read
  obtain ⟨draft, put, read⟩ := bind_ok read
  have unread : ∀ s ∈ ({} : Draft).settings, s.Fits := by
    rintro s ⟨⟩
  have fits := Draft.fits_of_putAll counts unread (eq_ok_of_mapError put)
  have standard : Settings.Fits {} := ⟨by decide, nofun⟩
  have chosen : (draft.settings.getD {}).Fits := by
    cases held : draft.settings with
    | none => exact standard
    | some settings => exact fits settings held
  dsimp only at read
  split at read
  · obtain ⟨name, _, read⟩ := bind_ok read
    obtain ⟨requirements, _, same⟩ := bind_ok read
    cases same
    exact chosen
  · cases read

/-- Text that is read has a tree, and the tree is read. -/
theorem eq_ok_of_readTree {τ α : Type} {wording : Wording} {tree : Option τ}
    {read : τ → Except Error α} {a : α} (done : readTree wording tree read = .ok a) :
    ∃ v, read v = .ok a := by
  unfold readTree at done
  split at done
  · cases done
  · exact ⟨_, eq_ok_of_mapError done⟩

/-- A definition read from text of any format has numbers of 32 bits. -/
theorem fits_of_ofText {format : Format} {text : String} {d : Definition}
    (read : Definition.ofText format text = .ok d) : d.settings.Fits := by
  cases format with
  | json =>
    obtain ⟨v, read⟩ := eq_ok_of_readTree read
    exact fits_of_read countsFit_written read
  | yaml =>
    obtain ⟨v, read⟩ := eq_ok_of_readTree read
    exact fits_of_read countsFit_place read
  | toml =>
    obtain ⟨v, read⟩ := eq_ok_of_readTree read
    exact fits_of_read countsFit_toml read

end Definition

end Stackwright

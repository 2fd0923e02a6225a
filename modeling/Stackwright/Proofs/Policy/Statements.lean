import Stackwright.Policy
import Stackwright.Proofs.Expr.Calls
import Stackwright.Proofs.Expr.Format
import Stackwright.Proofs.OrderedMap

/-!
# Policy statements inside documents

A statement is an object that gives its effect as a text, wherever in a document it stands, and
`PolicyStatement.ofJson?` reads what it says. `Json.StatesOnly` says of a whole document that all
its statements are of a kind; it is established member by member. No expression contains a
statement.
-/

namespace Stackwright

namespace Json

/-- The content of a text. -/
def text? : Json → Option String
  | .string s => some s
  | _ => none

def items? : Json → Option (List Json)
  | .array items => some items
  | _ => none

/-- The texts of an array of texts. -/
def texts? (doc : Json) : Option (List String) := doc.items?.bind (List.mapM text?)

theorem texts?_strings (items : List String) : (strings items).texts? = some items := by
  rw [texts?, strings, items?, Option.bind_some, List.mapM_map]
  exact List.mapM_pure.trans (congrArg some (List.map_id items))

/-- The object says which effect it has. -/
def StatesEffect (doc : Json) : Prop := ∃ effect, doc.get? "Effect" = some (.string effect)

end Json

namespace PolicyStatement

/-- The services that a principal names; a statement without a principal speaks of none. -/
def servicesOf? : Option Json → Option (Option (List String))
  | none => some none
  | some who => (who.get? "Service").bind fun names => names.texts?.map some

/-- The resources that are listed; a list that is left out is empty. -/
def resourcesOf? : Option Json → Option (List Expr)
  | none => some []
  | some list => list.items?.bind (List.mapM fun item => Expr.ofDatum? item.toDatum)

/-- Reads a statement. -/
def ofJson? (doc : Json) : Option PolicyStatement := do
  let effect ← (← doc.get? "Effect").text?
  let services ← servicesOf? (doc.get? "Principal")
  let actions ← (← doc.get? "Action").texts?
  let resources ← resourcesOf? (doc.get? "Resource")
  return ⟨effect, services, actions, resources⟩

/-- Written resources are read back. -/
theorem mapM_ofDatum?_toJson (es : List Expr) :
    (es.map Expr.toJson).mapM (fun item => Expr.ofDatum? item.toDatum) = some es := by
  have each : (fun item : Json => Expr.ofDatum? item.toDatum) ∘ Expr.toJson = fun e => pure e :=
    funext Expr.ofDatum?_toJson
  rw [List.mapM_map, each, List.mapM_pure, List.map_id', Option.pure_def]

/-- The members of a statement, each found under its name. -/
theorem get?_toJson (s : PolicyStatement) :
    s.toJson.get? "Effect" = some (.string s.effect) ∧
    s.toJson.get? "Principal" =
      s.services.map (fun names => .object [("Service", .strings names)]) ∧
    s.toJson.get? "Action" = some (.strings s.actions) ∧
    s.toJson.get? "Resource" =
      if s.resources.isEmpty then none else some (.array (s.resources.map Expr.toJson)) := by
  obtain ⟨effect, services, actions, resources⟩ := s
  cases services <;> cases resources <;>
    simp [toJson, Json.get?, Json.optional, findEntry]

/-- A written statement is read back. -/
theorem ofJson?_toJson (s : PolicyStatement) : ofJson? s.toJson = some s := by
  obtain ⟨effect, principal, action, resource⟩ := get?_toJson s
  have services : servicesOf? (s.toJson.get? "Principal") = some s.services := by
    rw [principal]
    cases s.services <;> simp [servicesOf?, Json.get?, findEntry, Json.texts?_strings]
  have resources : resourcesOf? (s.toJson.get? "Resource") = some s.resources := by
    rw [resource]
    cases s.resources with
    | nil => rfl
    | cons e rest => exact mapM_ofDatum?_toJson (e :: rest)
  simp only [ofJson?, effect, services, action, resources, Json.text?, Json.texts?_strings,
    Option.bind_eq_bind, Option.bind_some, Option.pure_def]

/-- What is read as a statement says which effect it has. -/
theorem statesEffect_of_ofJson? {doc : Json} {s : PolicyStatement} (read : ofJson? doc = some s) :
    doc.StatesEffect := by
  unfold ofJson? at read
  cases found : doc.get? "Effect" with
  | none => simp [found] at read
  | some effect =>
    cases effect with
    | string text => exact ⟨text, found⟩
    | _ => simp [found, Json.text?] at read

end PolicyStatement

namespace Json

/-- Every statement inside the document is one of those `allowed`. -/
def StatesOnly (allowed : PolicyStatement → Prop) (doc : Json) : Prop :=
  ∀ inner, Inside inner doc → inner.StatesEffect → ∃ s, allowed s ∧ inner = s.toJson

variable {allowed : PolicyStatement → Prop}

/-- Only an object says which effect it has. -/
theorem not_statesEffect_of_ne_object {doc : Json} (other : ∀ members, doc ≠ .object members) :
    ¬ doc.StatesEffect := by
  rintro ⟨effect, found⟩
  cases doc with
  | object members => exact other members rfl
  | _ => cases found

@[simp] theorem statesOnly_string (s : String) : StatesOnly allowed (.string s) := by
  intro inner inside stated
  cases inside
  exact (not_statesEffect_of_ne_object (by simp) stated).elim

@[simp] theorem statesOnly_integer (n : Int) : StatesOnly allowed (.integer n) := by
  intro inner inside stated
  cases inside
  exact (not_statesEffect_of_ne_object (by simp) stated).elim

@[simp] theorem statesOnly_bool (b : Bool) : StatesOnly allowed (.bool b) := by
  intro inner inside stated
  cases inside
  exact (not_statesEffect_of_ne_object (by simp) stated).elim

theorem statesOnly_array {items : List Json} (each : ∀ item ∈ items, StatesOnly allowed item) :
    StatesOnly allowed (.array items) := by
  intro inner inside stated
  cases inside with
  | whole => exact (not_statesEffect_of_ne_object (by simp) stated).elim
  | item member deeper => exact each _ member inner deeper stated

/-- An object without a text for its effect adds no statement to those of its members. -/
theorem statesOnly_object {members : List (String × Json)}
    (each : ∀ member ∈ members,
      (member.1 = "Effect" → ∃ inner, member.2 = .object inner) ∧ StatesOnly allowed member.2) :
    StatesOnly allowed (.object members) := by
  intro inner inside stated
  cases inside with
  | whole =>
    obtain ⟨effect, found⟩ := stated
    obtain ⟨nested, same⟩ := (each _ (mem_of_findEntry found)).1 rfl
    cases same
  | value member deeper => exact (each _ member).2 inner deeper stated

@[simp] theorem statesOnly_strings (items : List String) : StatesOnly allowed (.strings items) := by
  refine statesOnly_array fun item member => ?_
  obtain ⟨s, _, rfl⟩ := List.mem_map.mp member
  exact statesOnly_string s

/-- An expression states no permissions. -/
@[simp] theorem statesOnly_toJson (e : Expr) : StatesOnly allowed e.toJson := by
  intro inner inside stated
  cases inner with
  | object members =>
    obtain ⟨call, _, spelled⟩ := (Expr.inside_toJson_iff e).mp inside
    obtain ⟨effect, found⟩ := stated
    rw [← spelled] at found
    cases call <;> simp [Expr.toJson, Expr.call, get?, findEntry] at found
  | _ => exact (not_statesEffect_of_ne_object (by simp) stated).elim

theorem statesOnly_statement {s : PolicyStatement} (permitted : allowed s) :
    StatesOnly allowed s.toJson := by
  have services : ∀ names, StatesOnly allowed (.object [("Service", .strings names)]) := by
    intro names
    apply statesOnly_object
    simp
  have resources : StatesOnly allowed (.array (s.resources.map Expr.toJson)) := by
    refine statesOnly_array fun item member => ?_
    obtain ⟨e, _, rfl⟩ := List.mem_map.mp member
    exact statesOnly_toJson e
  intro inner inside stated
  rw [PolicyStatement.toJson, inside_object_iff] at inside
  rcases inside with whole | ⟨entry, member, deeper⟩
  · exact ⟨s, permitted, whole⟩
  · suffices none : StatesOnly allowed entry.2 from none inner deeper stated
    simp only [List.mem_append, List.mem_singleton] at member
    rcases member with ((rfl | principal) | rfl) | resource
    · exact statesOnly_string s.effect
    · cases named : s.services with
      | none => simp [named, optional] at principal
      | some names =>
        simp only [named, optional, Option.map_some, List.mem_singleton] at principal
        exact principal ▸ services names
    · exact statesOnly_strings s.actions
    · split at resource
      · cases resource
      · rw [List.mem_singleton] at resource
        exact resource ▸ resources

/-- A policy document states its statements. -/
theorem statesOnly_policyDocument {statements : List PolicyStatement}
    (permitted : ∀ s ∈ statements, allowed s) : StatesOnly allowed (policyDocument statements) := by
  have each : StatesOnly allowed (.array (statements.map PolicyStatement.toJson)) := by
    refine statesOnly_array fun item member => ?_
    obtain ⟨s, listed, rfl⟩ := List.mem_map.mp member
    exact statesOnly_statement (permitted s listed)
  apply statesOnly_object
  simp [each]

/-- A policy document lists its statements under their name. -/
theorem get?_statement_policyDocument (statements : List PolicyStatement) :
    (policyDocument statements).get? "Statement" =
      some (.array (statements.map PolicyStatement.toJson)) := by
  simp [policyDocument, get?, findEntry]

/-- A member of an environment may be called like the effect, since no value there is a text. -/
theorem statesOnly_variables {values : OrderedMap String Expr}
    (nested : ∀ entry ∈ values.entries, ∃ inner, entry.2.toJson = .object inner) :
    StatesOnly allowed (.ofMap Expr.toJson values) := by
  refine statesOnly_object fun member present => ?_
  obtain ⟨entry, listed, rfl⟩ := List.mem_map.mp present
  exact ⟨fun _ => nested entry listed, statesOnly_toJson entry.2⟩

end Json

end Stackwright

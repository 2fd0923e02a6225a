import Stackwright.Template.Closed

/-!
# Values and calls in documents

`Json.Inside` says that a value stands somewhere in a document, at any depth, and `Json.Under` that
it stands there under a certain name; `Json.Binds` also asks that it is the first one there, should
an object repeat the name. What an object uses by itself, a document around it uses too. The objects
inside the JSON of an expression are the calls among its subterms (`Expr.inside_toJson_iff`).
`Json.CallsOnly` says of a whole document that all its calls come from expressions of a kind; it is
established member by member and read off a single call.
-/

namespace Stackwright.Json

/-- `inner` stands somewhere in the document, or is the whole of it. -/
inductive Inside (inner : Json) : Json → Prop
  | whole : Inside inner inner
  | item {items : List Json} {item : Json} (member : item ∈ items) (deeper : Inside inner item) :
      Inside inner (.array items)
  | value {members : List (String × Json)} {entry : String × Json} (member : entry ∈ members)
      (deeper : Inside inner entry.2) : Inside inner (.object members)

/-- `value` stands under `name` in some object of the document. -/
def Under (name : String) (value doc : Json) : Prop :=
  ∃ members, Inside (.object members) doc ∧ (name, value) ∈ members

/-- Looking up `name` in some object of the document gives `value`. -/
def Binds (name : String) (value doc : Json) : Prop :=
  ∃ members, Inside (.object members) doc ∧ findEntry name members = some value

@[simp] theorem inside_string_iff {inner : Json} {s : String} :
    Inside inner (.string s) ↔ inner = .string s :=
  ⟨fun inside => by cases inside; rfl, fun same => same ▸ .whole⟩

theorem inside_array_iff {inner : Json} {items : List Json} :
    Inside inner (.array items) ↔ inner = .array items ∨ ∃ item ∈ items, Inside inner item := by
  constructor
  · intro inside
    cases inside with
    | whole => exact Or.inl rfl
    | item member deeper => exact Or.inr ⟨_, member, deeper⟩
  · rintro (rfl | ⟨item, member, deeper⟩)
    · exact .whole
    · exact .item member deeper

/-- What is inside an object is the object, or inside one of its values. -/
theorem inside_object_iff {inner : Json} {members : List (String × Json)} :
    Inside inner (.object members) ↔
      inner = .object members ∨ ∃ entry ∈ members, Inside inner entry.2 := by
  constructor
  · intro inside
    cases inside with
    | whole => exact Or.inl rfl
    | value member deeper => exact Or.inr ⟨_, member, deeper⟩
  · rintro (rfl | ⟨entry, member, deeper⟩)
    · exact .whole
    · exact .value member deeper

theorem itemUses_eq_flatMap (items : List Json) : itemUses items = items.flatMap uses := by
  induction items with
  | nil => rfl
  | cons item rest ih => rw [itemUses, ih, List.flatMap_cons]

theorem memberUses_eq_flatMap (members : List (String × Json)) :
    memberUses members = members.flatMap fun entry => uses entry.2 := by
  induction members with
  | nil => rfl
  | cons entry rest ih => rw [memberUses, ih, List.flatMap_cons]

/-- What a part of a document uses, the document uses. -/
theorem uses_subset_of_inside {inner doc : Json} (inside : Inside inner doc) :
    ∀ use ∈ inner.uses, use ∈ doc.uses := by
  induction inside with
  | whole => exact fun _ => id
  | item member _ ih =>
    intro use used
    rw [uses, itemUses_eq_flatMap]
    exact List.mem_flatMap.mpr ⟨_, member, ih use used⟩
  | value member _ ih =>
    intro use used
    rw [uses, memberUses_eq_flatMap]
    exact List.mem_append_right _ (List.mem_flatMap.mpr ⟨_, member, ih use used⟩)

end Stackwright.Json

namespace Stackwright

namespace Expr

mutual

/-- The expression and all that it is made of. -/
def subterms : Expr → List Expr
  | .literal s => [.literal s]
  | .ref name => [.ref name]
  | .ifThenElse c t e => .ifThenElse c t e :: (subterms t ++ subterms e)
  | .equals l r => .equals l r :: (subterms l ++ subterms r)
  | .not cs => .not cs :: subtermsAll cs
  | .importValue n => .importValue n :: subterms n
  | .sub t => [.sub t]
  | .join d ps => .join d ps :: subtermsAll ps
  | .getAtt r a => [.getAtt r a]

def subtermsAll : List Expr → List Expr
  | [] => []
  | e :: rest => subterms e ++ subtermsAll rest

end

/-- An object inside a call is the call, or inside its argument. -/
theorem inside_call_iff {function : String} {argument : Json} {members : List (String × Json)} :
    Json.Inside (.object members) (call function argument) ↔
      .object members = call function argument ∨ Json.Inside (.object members) argument := by
  simp [call, Json.inside_object_iff]

mutual

/-- The objects inside the JSON of an expression are its calls. -/
theorem inside_toJson_iff {members : List (String × Json)} : (e : Expr) →
    (Json.Inside (.object members) e.toJson ↔
      ∃ inner ∈ e.subterms, inner.toJson = .object members)
  | .literal s => by simp [toJson, subterms]
  | .ref _ | .sub _ | .getAtt .. => by
    simp [toJson, subterms, inside_call_iff, Json.inside_array_iff, eq_comm]
  | .ifThenElse c t e => by
    simp only [toJson, subterms, inside_call_iff, Json.inside_array_iff, List.mem_cons,
      List.not_mem_nil, or_false, exists_eq_left, Json.inside_string_iff,
      reduceCtorEq, false_or, inside_toJson_iff t, inside_toJson_iff e, List.mem_append,
      or_and_right, exists_or, eq_comm]
  | .equals l r => by
    simp only [toJson, subterms, inside_call_iff, Json.inside_array_iff, List.mem_cons,
      List.not_mem_nil, or_false, exists_eq_left,
      reduceCtorEq, false_or, inside_toJson_iff l, inside_toJson_iff r, List.mem_append,
      or_and_right, exists_or, eq_comm]
  | .not cs => by
    simp only [toJson, subterms, inside_call_iff, Json.inside_array_iff, List.mem_cons,
      exists_eq_or_imp, reduceCtorEq, false_or, inside_toJsonAll_iff cs, eq_comm]
  | .importValue n => by
    simp only [toJson, subterms, inside_call_iff, List.mem_cons, exists_eq_or_imp,
      inside_toJson_iff n, eq_comm]
  | .join d ps => by
    simp only [toJson, subterms, inside_call_iff, Json.inside_array_iff, List.mem_cons,
      List.not_mem_nil, or_false, exists_eq_or_imp, exists_eq_left, Json.inside_string_iff,
      reduceCtorEq, false_or, inside_toJsonAll_iff ps, eq_comm]

/-- The objects inside written expressions are the calls among their subterms. -/
theorem inside_toJsonAll_iff {members : List (String × Json)} : (es : List Expr) →
    ((∃ item ∈ toJsonAll es, Json.Inside (.object members) item) ↔
      ∃ inner ∈ subtermsAll es, inner.toJson = .object members)
  | [] => by simp [toJsonAll, subtermsAll]
  | e :: rest => by
    simp only [toJsonAll, subtermsAll, List.mem_cons, exists_eq_left, inside_toJson_iff e,
      inside_toJsonAll_iff rest, List.mem_append, or_and_right, exists_or]

end

/-- An object that spells an expression has a single member. -/
theorem eq_singleton_of_toJson_eq {e : Expr} {members : List (String × Json)}
    (spelled : e.toJson = .object members) : ∃ member, members = [member] := by
  cases e <;> simp only [toJson, call, reduceCtorEq, Json.object.injEq] at spelled <;>
    exact ⟨_, spelled.symm⟩

end Expr

namespace Json

/-- Every object that gives the name of a function something other than an object is spelled by an
expression that is `allowed`. A variable may have the name of a function, but it holds an object. -/
def CallsOnly (allowed : Expr → Prop) (doc : Json) : Prop :=
  ∀ members, Inside (.object members) doc → ∀ member ∈ members, member.1 ∈ Expr.functions →
    (∃ inner, member.2 = .object inner) ∨ ∃ e, allowed e ∧ e.toJson = .object members

variable {allowed : Expr → Prop}

@[simp] theorem callsOnly_string (s : String) : CallsOnly allowed (.string s) := by
  intro members inside
  cases inside

@[simp] theorem callsOnly_integer (n : Int) : CallsOnly allowed (.integer n) := by
  intro members inside
  cases inside

@[simp] theorem callsOnly_bool (b : Bool) : CallsOnly allowed (.bool b) := by
  intro members inside
  cases inside

/-- A list has only allowed calls if its items have. -/
theorem callsOnly_array {items : List Json} (each : ∀ item ∈ items, CallsOnly allowed item) :
    CallsOnly allowed (.array items) := by
  intro members inside
  cases inside with
  | item member deeper => exact each _ member members deeper

/-- An object that is no call adds none to those of its members. -/
theorem callsOnly_object {members : List (String × Json)}
    (each : ∀ member ∈ members,
      (member.1 ∈ Expr.functions → ∃ inner, member.2 = .object inner) ∧
        CallsOnly allowed member.2) :
    CallsOnly allowed (.object members) := by
  intro inner inside
  cases inside with
  | whole => exact fun member present named => Or.inl ((each member present).1 named)
  | value member deeper => exact (each _ member).2 inner deeper

/-- A written expression has only allowed calls if its subterms are allowed. -/
theorem callsOnly_toJson {e : Expr} (each : ∀ inner ∈ e.subterms, allowed inner) :
    CallsOnly allowed e.toJson := by
  intro members inside _ _ _
  obtain ⟨inner, member, spelled⟩ := Expr.inside_toJson_iff e |>.mp inside
  exact Or.inr ⟨inner, each inner member, spelled⟩

/-- What stands under the name of a function is its argument in an allowed call. -/
theorem CallsOnly.under {doc : Json} (calls : CallsOnly allowed doc) {function : String}
    (known : function ∈ Expr.functions) {argument : Json}
    (under : Under function argument doc) (simple : ∀ inner, argument ≠ .object inner) :
    Inside (Expr.call function argument) doc ∧
      ∃ e, allowed e ∧ e.toJson = Expr.call function argument := by
  obtain ⟨members, inside, member⟩ := under
  rcases calls members inside _ member known with ⟨inner, nested⟩ | ⟨e, permitted, spelled⟩
  · exact (simple inner nested).elim
  · -- a call has no second member, so `function` is the one that it calls
    obtain ⟨only, rfl⟩ := Expr.eq_singleton_of_toJson_eq spelled
    cases List.mem_singleton.mp member
    exact ⟨inside, e, permitted, spelled⟩

end Json

end Stackwright

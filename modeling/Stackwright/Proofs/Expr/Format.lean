import Stackwright.Datum.Source
import Stackwright.Expr.Json
import Stackwright.Proofs.Datum.Mirror

/-!
# The format of expressions

The JSON of an expression, taken as data, spells that expression. `Json.IsExpression` is the format
in which expressions are written: a string, or an object with the name of one function as its only
member and the arguments that this function takes. Reading accepts exactly the values of the format,
and an expression is written as it was read, so every value of the format stands for one expression
(`Expr.read_exact`).
-/

namespace Stackwright.Expr

/-- A written call is read by its function and argument. -/
theorem ofDatum?_call (function : String) (argument : Json) :
    ofDatum? (call function argument).toDatum = ofCall? function argument.toDatum := by
  simp [call, Json.toDatum, Json.membersToDatum, ofDatum?, function?]

mutual

/-- A written expression, taken as data, spells that expression. -/
theorem ofDatum?_toJson : (e : Expr) → ofDatum? e.toJson.toDatum = some e
  | .literal _ => by simp [toJson, Json.toDatum, ofDatum?]
  | .ref _ | .sub _ => by simp [toJson, ofDatum?_call, Json.toDatum, ofCall?]
  | .ifThenElse _ t e => by
    simp [toJson, ofDatum?_call, Json.toDatum, Json.itemsToDatum, ofCall?, ofDatum?_toJson t,
      ofDatum?_toJson e]
  | .equals l r => by
    simp [toJson, ofDatum?_call, Json.toDatum, Json.itemsToDatum, ofCall?, ofDatum?_toJson l,
      ofDatum?_toJson r]
  | .not cs => by simp [toJson, ofDatum?_call, Json.toDatum, ofCall?, ofData?_toJsonAll cs]
  | .importValue n => by simp [toJson, ofDatum?_call, ofCall?, ofDatum?_toJson n]
  | .join _ ps => by
    simp [toJson, ofDatum?_call, Json.toDatum, Json.itemsToDatum, ofCall?, ofData?_toJsonAll ps]
  | .getAtt .. => by simp [toJson, ofDatum?_call, Json.toDatum, Json.itemsToDatum, ofCall?]

theorem ofData?_toJsonAll : (es : List Expr) →
    ofData? (Json.itemsToDatum (toJsonAll es)) = some es
  | [] => by simp [toJsonAll, Json.itemsToDatum, ofData?]
  | e :: rest => by
    simp [toJsonAll, Json.itemsToDatum, ofData?, ofDatum?_toJson e, ofData?_toJsonAll rest]

end

end Stackwright.Expr

namespace Stackwright

namespace Json

/-- The values that spell an expression. -/
inductive IsExpression : Json → Prop
  | literal (text : String) : IsExpression (.string text)
  | ref (name : String) : IsExpression (.object [("Ref", .string name)])
  | ifThenElse (condition : String) {whenTrue whenFalse : Json} (first : IsExpression whenTrue)
      (second : IsExpression whenFalse) :
      IsExpression (.object [("Fn::If", .array [.string condition, whenTrue, whenFalse])])
  | equals {left right : Json} (first : IsExpression left) (second : IsExpression right) :
      IsExpression (.object [("Fn::Equals", .array [left, right])])
  | not {conditions : List Json} (each : ∀ c ∈ conditions, IsExpression c) :
      IsExpression (.object [("Fn::Not", .array conditions)])
  | importValue {name : Json} (inner : IsExpression name) :
      IsExpression (.object [("Fn::ImportValue", name)])
  | sub (template : String) : IsExpression (.object [("Fn::Sub", .string template)])
  | join (delimiter : String) {parts : List Json} (each : ∀ part ∈ parts, IsExpression part) :
      IsExpression (.object [("Fn::Join", .array [.string delimiter, .array parts])])
  | getAtt (resource property : String) :
      IsExpression (.object [("Fn::GetAtt", .array [.string resource, .string property])])

theorem toDatum_eq_string_iff {v : Json} {s : String} : v.toDatum = .string s ↔ v = .string s := by
  cases v with
  | integer n =>
    rw [toDatum]
    split <;> simp
  | _ => simp [toDatum]

/-- Only a list is a sequence as data. -/
theorem toDatum_eq_sequence_iff {v : Json} {data : List Datum} :
    v.toDatum = .sequence data ↔ ∃ items, v = .array items ∧ items.map toDatum = data := by
  cases v with
  | integer n =>
    rw [toDatum]
    split <;> simp
  | _ => simp [toDatum, itemsToDatum_eq_map]

theorem toDatum_eq_pair_iff {v : Json} {first second : Datum} :
    v.toDatum = .sequence [first, second] ↔
      ∃ x y, v = .array [x, y] ∧ x.toDatum = first ∧ y.toDatum = second := by
  rw [toDatum_eq_sequence_iff]
  constructor
  · rintro ⟨items, rfl, parts⟩
    simp only [List.map_eq_cons_iff, List.map_eq_nil_iff] at parts
    obtain ⟨x, _, rfl, rfl, y, _, rfl, rfl, rfl⟩ := parts
    exact ⟨x, y, rfl, rfl, rfl⟩
  · rintro ⟨x, y, rfl, rfl, rfl⟩
    exact ⟨[x, y], rfl, rfl⟩

end Json

namespace Expr

/-- How a value is read as an expression whose arguments have been read. -/
inductive ReadAs : Json → Expr → Prop
  | literal (text : String) : ReadAs (.string text) (.literal text)
  | ref (name : String) : ReadAs (call "Ref" (.string name)) (.ref name)
  | ifThenElse (condition : String) {v w : Json} {whenTrue whenFalse : Expr}
      (first : ofDatum? v.toDatum = some whenTrue) (second : ofDatum? w.toDatum = some whenFalse) :
      ReadAs (call "Fn::If" (.array [.string condition, v, w]))
        (.ifThenElse condition whenTrue whenFalse)
  | equals {v w : Json} {left right : Expr} (first : ofDatum? v.toDatum = some left)
      (second : ofDatum? w.toDatum = some right) :
      ReadAs (call "Fn::Equals" (.array [v, w])) (.equals left right)
  | not {items : List Json} {conditions : List Expr}
      (each : ofData? (items.map Json.toDatum) = some conditions) :
      ReadAs (call "Fn::Not" (.array items)) (.not conditions)
  | importValue {v : Json} {name : Expr} (inner : ofDatum? v.toDatum = some name) :
      ReadAs (call "Fn::ImportValue" v) (.importValue name)
  | sub (template : String) : ReadAs (call "Fn::Sub" (.string template)) (.sub template)
  | join (delimiter : String) {items : List Json} {parts : List Expr}
      (each : ofData? (items.map Json.toDatum) = some parts) :
      ReadAs (call "Fn::Join" (.array [.string delimiter, .array items])) (.join delimiter parts)
  | getAtt (resource property : String) :
      ReadAs (call "Fn::GetAtt" (.array [.string resource, .string property]))
        (.getAtt resource property)

/-- The arguments of a call are read part by part; the cases follow the functions in `ofCall?`. -/
theorem readAs_of_ofCall? {function : String} {argument : Json} {e : Expr}
    (read : ofCall? function argument.toDatum = some e) : ReadAs (call function argument) e := by
  unfold ofCall? at read
  split at read
  case h_1 spelled =>
    cases read
    rw [Json.toDatum_eq_string_iff.mp spelled]
    exact .ref _
  case h_2 spelled =>
    obtain ⟨items, rfl, parts⟩ := Json.toDatum_eq_sequence_iff.mp spelled
    simp only [List.map_eq_cons_iff, List.map_eq_nil_iff, Json.toDatum_eq_string_iff] at parts
    obtain ⟨_, _, rfl, rfl, _, _, rfl, rfl, _, _, rfl, rfl, rfl⟩ := parts
    obtain ⟨whenTrue, first, read⟩ := Option.bind_eq_some_iff.mp read
    obtain ⟨whenFalse, second, same⟩ := Option.bind_eq_some_iff.mp read
    cases same
    exact .ifThenElse _ first second
  case h_3 spelled =>
    obtain ⟨_, _, rfl, rfl, rfl⟩ := Json.toDatum_eq_pair_iff.mp spelled
    obtain ⟨left, first, read⟩ := Option.bind_eq_some_iff.mp read
    obtain ⟨right, second, same⟩ := Option.bind_eq_some_iff.mp read
    cases same
    exact .equals first second
  case h_4 spelled =>
    obtain ⟨items, rfl, rfl⟩ := Json.toDatum_eq_sequence_iff.mp spelled
    obtain ⟨conditions, each, same⟩ := Option.bind_eq_some_iff.mp read
    cases same
    exact .not each
  case h_5 =>
    obtain ⟨name, inner, same⟩ := Option.bind_eq_some_iff.mp read
    cases same
    exact .importValue inner
  case h_6 spelled =>
    cases read
    rw [Json.toDatum_eq_string_iff.mp spelled]
    exact .sub _
  case h_7 spelled =>
    obtain ⟨_, _, rfl, delimiter, pieces⟩ := Json.toDatum_eq_pair_iff.mp spelled
    obtain ⟨_, rfl, rfl⟩ := Json.toDatum_eq_sequence_iff.mp pieces
    rw [Json.toDatum_eq_string_iff.mp delimiter]
    obtain ⟨parts, each, same⟩ := Option.bind_eq_some_iff.mp read
    cases same
    exact .join _ each
  case h_8 spelled =>
    cases read
    obtain ⟨_, _, rfl, resource, property⟩ := Json.toDatum_eq_pair_iff.mp spelled
    rw [Json.toDatum_eq_string_iff.mp resource, Json.toDatum_eq_string_iff.mp property]
    exact .getAtt _ _
  case h_9 => cases read

/-- Strings are literals, and an object is read if it has one member, which is a call. -/
theorem readAs_of_ofDatum? {v : Json} {e : Expr} (read : ofDatum? v.toDatum = some e) :
    ReadAs v e := by
  cases v with
  | string text =>
    simp only [Json.toDatum, ofDatum?, Option.some.injEq] at read
    exact read ▸ .literal text
  | object members =>
    match members with
    | [] => simp [Json.toDatum, Json.membersToDatum, ofDatum?] at read
    | [(function, argument)] =>
      rw [← call, ofDatum?_call] at read
      exact readAs_of_ofCall? read
    | _ :: _ :: _ => simp [Json.toDatum, Json.membersToDatum, ofDatum?] at read
  | integer n =>
    rw [Json.toDatum] at read
    split at read <;> simp [ofDatum?] at read
  | null | bool | float | array => simp [Json.toDatum, ofDatum?] at read

mutual

/-- An expression is written as it was read. -/
theorem toJson_of_ofDatum? : (e : Expr) → {v : Json} → ofDatum? v.toDatum = some e → e.toJson = v
  | .literal _, _, read | .ref _, _, read | .sub _, _, read | .getAtt .., _, read => by
    cases readAs_of_ofDatum? read
    rfl
  | .ifThenElse _ t e, _, read => by
    cases readAs_of_ofDatum? read with
    | ifThenElse _ first second =>
      rw [toJson, toJson_of_ofDatum? t first, toJson_of_ofDatum? e second]
  | .equals l r, _, read => by
    cases readAs_of_ofDatum? read with
    | equals first second => rw [toJson, toJson_of_ofDatum? l first, toJson_of_ofDatum? r second]
  | .not cs, _, read => by
    cases readAs_of_ofDatum? read with
    | not each => rw [toJson, toJsonAll_of_ofData? cs each]
  | .importValue n, _, read => by
    cases readAs_of_ofDatum? read with
    | importValue inner => rw [toJson, toJson_of_ofDatum? n inner]
  | .join _ ps, _, read => by
    cases readAs_of_ofDatum? read with
    | join _ each => rw [toJson, toJsonAll_of_ofData? ps each]

/-- Expressions that are read from values are written as those values. -/
theorem toJsonAll_of_ofData? : (es : List Expr) → {items : List Json} →
    ofData? (items.map Json.toDatum) = some es → toJsonAll es = items
  | [], [], _ => rfl
  | [], item :: rest, read => by
    simp [ofData?, Option.bind_eq_some_iff] at read
  | e :: later, [], read => by
    simp [ofData?] at read
  | e :: later, item :: rest, read => by
    simp only [List.map_cons, ofData?, bind, Option.bind_eq_some_iff, pure, Option.some.injEq,
      List.cons.injEq] at read
    obtain ⟨_, first, _, each, rfl, rfl⟩ := read
    rw [toJsonAll, toJson_of_ofDatum? _ first, toJsonAll_of_ofData? _ each]

end

mutual

/-- Every expression is written in the format. -/
theorem isExpression_toJson : (e : Expr) → e.toJson.IsExpression
  | .literal text => .literal text
  | .ref name => .ref name
  | .ifThenElse c t e => .ifThenElse c (isExpression_toJson t) (isExpression_toJson e)
  | .equals l r => .equals (isExpression_toJson l) (isExpression_toJson r)
  | .not cs => .not (isExpression_of_mem_toJsonAll cs)
  | .importValue n => .importValue (isExpression_toJson n)
  | .sub t => .sub t
  | .join d ps => .join d (isExpression_of_mem_toJsonAll ps)
  | .getAtt r a => .getAtt r a

theorem isExpression_of_mem_toJsonAll : (es : List Expr) → ∀ item ∈ toJsonAll es, item.IsExpression
  | [] => by simp [toJsonAll]
  | e :: rest => by
    rw [toJsonAll, List.forall_mem_cons]
    exact ⟨isExpression_toJson e, isExpression_of_mem_toJsonAll rest⟩

end

/-- Values that each stand for an expression stand for a list of expressions. -/
theorem exists_toJsonAll_eq {items : List Json}
    (each : ∀ item ∈ items, ∃ e : Expr, e.toJson = item) : ∃ es, toJsonAll es = items := by
  induction items with
  | nil => exact ⟨[], rfl⟩
  | cons item rest ih =>
    rw [List.forall_mem_cons] at each
    obtain ⟨⟨e, rfl⟩, later⟩ := each
    obtain ⟨es, rfl⟩ := ih later
    exact ⟨e :: es, rfl⟩

/-- A value stands for an expression exactly if it is in the format. -/
theorem exists_toJson_eq_iff {v : Json} : (∃ e : Expr, e.toJson = v) ↔ v.IsExpression := by
  constructor
  · rintro ⟨e, rfl⟩
    exact isExpression_toJson e
  · intro spells
    induction spells with
    | literal text => exact ⟨.literal text, rfl⟩
    | ref name => exact ⟨.ref name, rfl⟩
    | ifThenElse condition _ _ first second =>
      obtain ⟨t, rfl⟩ := first
      obtain ⟨e, rfl⟩ := second
      exact ⟨.ifThenElse condition t e, rfl⟩
    | equals _ _ first second =>
      obtain ⟨l, rfl⟩ := first
      obtain ⟨r, rfl⟩ := second
      exact ⟨.equals l r, rfl⟩
    | not _ each =>
      obtain ⟨cs, rfl⟩ := exists_toJsonAll_eq each
      exact ⟨.not cs, rfl⟩
    | importValue _ inner =>
      obtain ⟨n, rfl⟩ := inner
      exact ⟨.importValue n, rfl⟩
    | sub template => exact ⟨.sub template, rfl⟩
    | join delimiter _ each =>
      obtain ⟨ps, rfl⟩ := exists_toJsonAll_eq each
      exact ⟨.join delimiter ps, rfl⟩
    | getAtt resource property => exact ⟨.getAtt resource property, rfl⟩

/-- An expression is read exactly if the data spells it. -/
theorem read_eq_ok_iff {v : Json} {e : Expr} : read v = .ok e ↔ ofDatum? v.toDatum = some e := by
  have buffered : Datum.Source.buffer v = Except.ok v.toDatum := rfl
  simp only [read, buffered, bind, Except.bind]
  cases ofDatum? v.toDatum with
  | none => simp [Datum.refuse]
  | some e => simp [pure, Except.pure]

/-- **The format of expressions is exact.** A value is read as an expression if and only if it is
the JSON of that expression, and the values that are read are those of the format. -/
theorem read_exact (v : Json) :
    (∀ e : Expr, read v = .ok e ↔ e.toJson = v) ∧
      ((∃ e : Expr, read v = .ok e) ↔ v.IsExpression) := by
  have same : ∀ e : Expr, read v = .ok e ↔ e.toJson = v := by
    intro e
    rw [read_eq_ok_iff]
    constructor
    · exact toJson_of_ofDatum? e
    · rintro rfl
      exact ofDatum?_toJson e
  refine ⟨same, ?_⟩
  simp only [same]
  exact exists_toJson_eq_iff

end Expr

end Stackwright

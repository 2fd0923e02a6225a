import Stackwright.Proofs.Json.Numerals

/-!
# Compact texts determine values

The compact text of a value without null and without numbers that are not whole is the text of no
other value (`Json.eq_of_compact_eq`). The proof reads a text from the front: what a value is
followed by ends the text or starts with a comma or a closing bracket, so it can be told where the
value stops.
-/

namespace Stackwright.Json

/-- Neither null nor numbers that are not whole occur, at any depth. -/
inductive Definite : Json → Prop
  | bool (b : Bool) : Definite (.bool b)
  | integer (n : Int) : Definite (.integer n)
  | string (s : String) : Definite (.string s)
  | array {items : List Json} (each : ∀ item ∈ items, Definite item) : Definite (.array items)
  | object {members : List (String × Json)} (each : ∀ member ∈ members, Definite member.2) :
      Definite (.object members)

/-- The characters that are written with an escape. -/
def escaped : List Char := '"' :: '\\' :: (List.range 32).map Char.ofNat

/-- Other characters are written as they are. -/
theorem escapeChar_of_not_mem {c : Char} (plain : c ∉ escaped) : escapeChar c = [c] := by
  simp only [escaped, List.mem_cons, not_or] at plain
  have large : ¬ c.toNat < 32 := fun small =>
    plain.2.2 (List.mem_map.mpr ⟨c.toNat, List.mem_range.mpr small, Char.ofNat_toNat c⟩)
  rw [escapeChar, if_neg plain.1, if_neg plain.2.1, if_neg large]

/-- The characters that need an escape start with a backslash. -/
theorem exists_escapeChar_eq {c : Char} (special : c ∈ escaped) :
    ∃ code, escapeChar c = '\\' :: code := by
  have each : ∀ c ∈ escaped, (escapeChar c).head? = some '\\' := by decide +kernel
  exact List.head?_eq_some_iff.mp (each c special)

/-- The text of one character is not where that of another begins. -/
theorem eq_of_begins_escapeChar {c d : Char} (begins : escapeChar c <+: escapeChar d) : c = d := by
  have backslash : '\\' ∈ escaped := by decide
  by_cases first : c ∈ escaped <;> by_cases second : d ∈ escaped
  · have table : ∀ c ∈ escaped, ∀ d ∈ escaped, escapeChar c <+: escapeChar d → c = d := by
      decide +kernel
    exact table c first d second begins
  · obtain ⟨code, coded⟩ := exists_escapeChar_eq first
    rw [coded, escapeChar_of_not_mem second, List.cons_prefix_cons] at begins
    exact (second (begins.1 ▸ backslash)).elim
  · obtain ⟨code, coded⟩ := exists_escapeChar_eq second
    rw [coded, escapeChar_of_not_mem first, List.cons_prefix_cons] at begins
    exact (first (begins.1 ▸ backslash)).elim
  · rw [escapeChar_of_not_mem first, escapeChar_of_not_mem second, List.cons_prefix_cons] at begins
    exact begins.1

/-- No written character starts with a quote. -/
theorem ne_quote_of_escapeChar {c d : Char} {code : List Char} (coded : escapeChar c = d :: code) :
    d ≠ '"' := by
  by_cases special : c ∈ escaped
  · obtain ⟨_, spelled⟩ := exists_escapeChar_eq special
    rw [spelled, List.cons.injEq] at coded
    rw [← coded.1]
    decide
  · rw [escapeChar_of_not_mem special, List.cons.injEq] at coded
    rintro rfl
    exact special (coded.1 ▸ List.mem_cons_self)

theorem escapeChar_ne_nil (c : Char) : escapeChar c ≠ [] := by
  by_cases special : c ∈ escaped
  · obtain ⟨_, spelled⟩ := exists_escapeChar_eq special
    simp [spelled]
  · simp [escapeChar_of_not_mem special]

/-- A quoted text shows where it ends. -/
theorem escape_append_inj {a b r r' : List Char}
    (same : a.flatMap escapeChar ++ '"' :: r = b.flatMap escapeChar ++ '"' :: r') :
    a = b ∧ r = r' := by
  have ends : ∀ {c : Char} {rest after r : List Char},
      '"' :: r ≠ (c :: rest).flatMap escapeChar ++ after := by
    intro c rest after r same
    obtain ⟨d, code, coded⟩ := List.exists_cons_of_ne_nil (escapeChar_ne_nil c)
    rw [List.flatMap_cons, coded, List.cons_append, List.cons_append, List.cons.injEq] at same
    exact ne_quote_of_escapeChar coded same.1.symm
  induction a generalizing b with
  | nil =>
    cases b with
    | nil => exact ⟨rfl, (List.cons.inj same).2⟩
    | cons d rest => exact (ends same).elim
  | cons c tail ih =>
    cases b with
    | nil => exact (ends same.symm).elim
    | cons d rest =>
      rw [List.flatMap_cons, List.flatMap_cons, List.append_assoc, List.append_assoc] at same
      have equal : c = d := by
        rcases List.prefix_or_prefix_of_prefix (List.prefix_append (escapeChar c) _)
          (same ▸ List.prefix_append (escapeChar d) _) with begins | begins
        · exact eq_of_begins_escapeChar begins
        · exact (eq_of_begins_escapeChar begins).symm
      subst equal
      obtain ⟨rfl, rest⟩ := ih (List.append_cancel_left same)
      exact ⟨rfl, rest⟩

/-- A quoted text is its written characters between two quotes. -/
theorem toList_quote (s : String) :
    (quote s).toList = '"' :: (s.toList.flatMap escapeChar ++ ['"']) := by
  simp [quote]

/-- A quoted text shows where it ends and what it holds. -/
theorem quote_append_inj {a b : String} {r r' : List Char}
    (same : (quote a).toList ++ r = (quote b).toList ++ r') : a = b ∧ r = r' := by
  rw [toList_quote, toList_quote, List.cons_append, List.cons_append, List.cons.injEq,
    List.append_assoc, List.append_assoc] at same
  obtain ⟨lists, rest⟩ := escape_append_inj same.2
  exact ⟨String.toList_inj.mp lists, rest⟩

/-- The text is over, or goes on with a comma or a closing bracket. -/
def Ends (rest : List Char) : Prop := ∀ c ∈ rest.head?, c = ',' ∨ c = ']' ∨ c = '}'

/-- Where a value has ended, no number goes on. -/
theorem not_isNumeral_of_ends {c : Char} {rest : List Char} (ends : Ends (c :: rest)) :
    ¬ IsNumeral c := by
  unfold IsNumeral
  rcases ends c rfl with rfl | rfl | rfl <;> decide

/-- A number stops where the next character is not one of numbers. -/
theorem numeral_append_inj {a b r r' : List Char} (first : ∀ c ∈ a, IsNumeral c)
    (second : ∀ c ∈ b, IsNumeral c) (ends : Ends r) (ends' : Ends r') (same : a ++ r = b ++ r') :
    a = b ∧ r = r' := by
  induction a generalizing b with
  | nil =>
    cases b with
    | nil => exact ⟨rfl, same⟩
    | cons d rest =>
      rw [List.nil_append, List.cons_append] at same
      exact (not_isNumeral_of_ends (same ▸ ends) (second d List.mem_cons_self)).elim
  | cons c tail ih =>
    cases b with
    | nil =>
      rw [List.nil_append, List.cons_append] at same
      exact (not_isNumeral_of_ends (same ▸ ends') (first c List.mem_cons_self)).elim
    | cons d rest =>
      rw [List.cons_append, List.cons_append, List.cons.injEq] at same
      obtain ⟨rfl, after⟩ := ih (fun x member => first x (List.mem_cons_of_mem c member))
        (fun x member => second x (List.mem_cons_of_mem d member)) same.2
      exact ⟨congrArg (· :: tail) same.1, after⟩

/-- What kind of value starts with the character. -/
def kindOf (c : Char) : Nat :=
  if c = '"' then 0 else if c = '[' then 1 else if c = '{' then 2 else if c = 't' then 3
  else if c = 'f' then 4 else 5

/-- The kind of a value, with null among the numbers. -/
def kind : Json → Nat
  | .string _ => 0
  | .array _ => 1
  | .object _ => 2
  | .bool true => 3
  | .bool false => 4
  | .null | .integer _ | .float _ => 5

/-- The characters of numbers start numbers only. -/
theorem kindOf_of_isNumeral {c : Char} (numeral : IsNumeral c) : kindOf c = 5 := by
  have others : ∀ d ∈ ['"', '[', '{', 't', 'f'], ¬ IsNumeral d := by
    unfold IsNumeral
    decide
  have apart : ∀ d ∈ ['"', '[', '{', 't', 'f'], c ≠ d :=
    fun d member same => others d member (same ▸ numeral)
  unfold kindOf
  rw [if_neg (apart '"' (by decide)), if_neg (apart '[' (by decide)),
    if_neg (apart '{' (by decide)), if_neg (apart 't' (by decide)), if_neg (apart 'f' (by decide))]

/-- A number is written with characters of numbers only. -/
theorem allNumeral_compact {a : Json} (number : a.kind = 5) : AllNumeral a.compact := by
  cases a with
  | null => decide
  | integer n => exact allNumeral_toString n
  | float x => exact (numeral_float x).1
  | bool b => cases b <;> cases number
  | string s => cases number
  | array items => cases number
  | object members => cases number

theorem compact_ne_nil_of_kind {a : Json} (number : a.kind = 5) : a.compact.toList ≠ [] := by
  cases a with
  | null => decide
  | integer n => exact toString_int_ne_nil n
  | float x =>
    obtain ⟨c, member, _⟩ := (numeral_float x).2
    exact List.ne_nil_of_mem member
  | bool b => cases b <;> cases number
  | string s => cases number
  | array items => cases number
  | object members => cases number

/-- The first character of a text tells the kind of the value. -/
theorem exists_head_compact (a : Json) :
    ∃ c rest, a.compact.toList = c :: rest ∧ kindOf c = a.kind := by
  by_cases number : a.kind = 5
  · obtain ⟨c, rest, spelled⟩ := List.exists_cons_of_ne_nil (compact_ne_nil_of_kind number)
    refine ⟨c, rest, spelled, ?_⟩
    rw [number, kindOf_of_isNumeral (allNumeral_compact number c (by simp [spelled]))]
  · cases a with
    | null | integer | float => exact (number rfl).elim
    | bool b => cases b <;> exact ⟨_, _, rfl, rfl⟩
    | string s => exact ⟨'"', _, toList_quote s, rfl⟩
    | array items => exact ⟨'[', _, by simp [compact]; rfl, rfl⟩
    | object members => exact ⟨'{', _, by simp [compact]; rfl, rfl⟩

/-- Texts that begin alike are of values of one kind. -/
theorem kind_eq_of_append_eq {a b : Json} {r r' : List Char}
    (same : a.compact.toList ++ r = b.compact.toList ++ r') : a.kind = b.kind := by
  obtain ⟨c, rest, spelled, first⟩ := exists_head_compact a
  obtain ⟨d, rest', spelled', second⟩ := exists_head_compact b
  rw [spelled, spelled', List.cons_append, List.cons_append, List.cons.injEq] at same
  rw [← first, ← second, same.1]

/-- No value starts as if one had ended. -/
theorem not_ends_compact (a : Json) (r : List Char) : ¬ Ends (a.compact.toList ++ r) := by
  obtain ⟨c, rest, spelled, first⟩ := exists_head_compact a
  rw [spelled, List.cons_append]
  intro ends
  have number : a.kind = 5 := by
    rw [← first]
    rcases ends c rfl with rfl | rfl | rfl <;> rfl
  exact not_isNumeral_of_ends ends (allNumeral_compact number c (by simp [spelled]))

/-- The text of `b` shows where it stops and what it is the text of. -/
def Determines {α : Type} (text : α → List Char) (b : α) : Prop :=
  ∀ a r r', Ends r → Ends r' → text a ++ r = text b ++ r' → a = b ∧ r = r'

/-- The compact text of a value, one character after the other. -/
def spelling (a : Json) : List Char := a.compact.toList

/-- The text of a whole number shows where it ends and which number it is. -/
theorem determines_integer (n : Int) : Determines spelling (.integer n) := by
  intro a r r' ends ends' same
  have number : a.kind = 5 := kind_eq_of_append_eq same
  obtain ⟨texts, rest⟩ := numeral_append_inj (allNumeral_compact number) (allNumeral_toString n)
    ends ends' same
  refine ⟨?_, rest⟩
  have unmarked : ¬ Marked a.compact := by
    rintro ⟨c, member, mark⟩
    rw [texts] at member
    have plain : ∀ d ∈ ['.', 'e', 'n'], ¬ (d.isDigit = true ∨ d = '-') := by decide
    exact plain c mark (isDigit_or_minus_of_mem_toString member)
  cases a with
  | null => exact (unmarked (by decide)).elim
  | integer m => exact congrArg _ (toString_int_injective texts)
  | float x => exact (unmarked (numeral_float x).2).elim
  | bool b => cases b <;> cases number
  | string s => cases number
  | array items => cases number
  | object members => cases number

theorem determines_bool (b : Bool) : Determines spelling (.bool b) := by
  intro a r r' _ _ same
  have kinds : a.kind = kind (.bool b) := kind_eq_of_append_eq same
  have equal : a = .bool b := by
    cases a with
    | bool b' => cases b <;> cases b' <;> first | rfl | cases kinds
    | null | integer | float | string | array | object => cases b <;> cases kinds
  subst equal
  exact ⟨rfl, List.append_cancel_left same⟩

theorem determines_string (s : String) : Determines spelling (.string s) := by
  intro a r r' _ _ same
  have kinds : a.kind = 0 := kind_eq_of_append_eq same
  cases a with
  | string s' =>
    obtain ⟨rfl, rest⟩ := quote_append_inj same
    exact ⟨rfl, rest⟩
  | bool b => cases b <;> cases kinds
  | null | integer | float | array | object => cases kinds

section Sequences

variable {α : Type} {text : α → List Char} {xs ys : List α} {close : Char} {r r' : List Char}

/-- Texts that each follow a comma. -/
def continued (text : α → List Char) (xs : List α) : List Char := xs.flatMap fun x => ',' :: text x

/-- After a value in a list comes a comma or the closing bracket. -/
theorem ends_continued (closing : Ends [close]) (r : List Char) :
    Ends (continued text xs ++ close :: r) := by
  cases xs with
  | nil => exact closing
  | cons x rest =>
    rintro c ⟨⟩
    exact .inl rfl

/-- Items that determine themselves determine how a list goes on and where it closes. -/
theorem continued_append_inj (closing : Ends [close]) (apart : close ≠ ',')
    (each : ∀ y ∈ ys, Determines text y)
    (same : continued text xs ++ close :: r = continued text ys ++ close :: r') :
    xs = ys ∧ r = r' := by
  induction ys generalizing xs with
  | nil =>
    cases xs with
    | nil => exact ⟨rfl, (List.cons.inj same).2⟩
    | cons x rest => exact (apart (List.cons.inj same).1.symm).elim
  | cons y rest ih =>
    cases xs with
    | nil => exact (apart (List.cons.inj same).1).elim
    | cons x rest' =>
      simp only [continued, List.flatMap_cons, List.cons_append, List.append_assoc,
        List.cons.injEq, true_and] at same
      obtain ⟨rfl, after⟩ := each y List.mem_cons_self x _ _ (ends_continued closing r)
        (ends_continued closing r') same
      obtain ⟨rfl, last⟩ := ih (fun z member => each z (List.mem_cons_of_mem _ member)) after
      exact ⟨rfl, last⟩

/-- Texts with a comma between any two. -/
def joined (text : α → List Char) : List α → List Char
  | [] => []
  | x :: rest => text x ++ continued text rest

/-- A sequence in brackets shows where it stops and what it is made of. -/
theorem joined_append_inj (closing : Ends [close]) (apart : close ≠ ',')
    (opens : ∀ x r, ¬ Ends (text x ++ r)) (each : ∀ y ∈ ys, Determines text y)
    (same : joined text xs ++ close :: r = joined text ys ++ close :: r') : xs = ys ∧ r = r' := by
  have ended : ∀ r, Ends (close :: r) := fun _ => closing
  cases ys with
  | nil =>
    cases xs with
    | nil => exact ⟨rfl, (List.cons.inj same).2⟩
    | cons x rest =>
      rw [joined, joined, List.append_assoc, List.nil_append] at same
      exact (opens x _ (same ▸ ended r')).elim
  | cons y rest =>
    cases xs with
    | nil =>
      rw [joined, joined, List.append_assoc, List.nil_append] at same
      exact (opens y _ (same ▸ ended r)).elim
    | cons x rest' =>
      rw [joined, joined, List.append_assoc, List.append_assoc] at same
      obtain ⟨rfl, after⟩ := each y List.mem_cons_self x _ _ (ends_continued closing r)
        (ends_continued closing r') same
      obtain ⟨rfl, last⟩ := continued_append_inj closing apart
        (fun z member => each z (List.mem_cons_of_mem _ member)) after
      exact ⟨rfl, last⟩

end Sequences

/-- A member of an object, one character after the other. -/
def memberSpelling (member : String × Json) : List Char :=
  (quote member.1).toList ++ ':' :: spelling member.2

/-- The items of a list are written with commas between them. -/
theorem toList_compactItems (items : List Json) :
    (compactItems items).toList = joined spelling items := by
  cases items with
  | nil => rfl
  | cons item rest =>
    induction rest generalizing item with
    | nil => simp [compactItems, joined, continued, spelling]
    | cons next rest ih =>
      rw [compactItems, String.toList_append, String.toList_append, ih]
      · simp [joined, continued, spelling]
      · simp

theorem toList_compactMembers (members : List (String × Json)) :
    (compactMembers members).toList = joined memberSpelling members := by
  cases members with
  | nil => rfl
  | cons member rest =>
    induction rest generalizing member with
    | nil => simp [compactMembers, joined, continued, memberSpelling, spelling]
    | cons next rest ih =>
      rw [compactMembers, String.toList_append, ih]
      · simp [joined, continued, memberSpelling, spelling]
      · simp

/-- A list is written between brackets. -/
theorem spelling_array (items : List Json) :
    spelling (.array items) = '[' :: (joined spelling items ++ [']']) := by
  simp [spelling, compact, toList_compactItems]

theorem spelling_object (members : List (String × Json)) :
    spelling (.object members) = '{' :: (joined memberSpelling members ++ ['}']) := by
  simp [spelling, compact, toList_compactMembers]

/-- A list determines itself if its items do. -/
theorem determines_array {items : List Json} (each : ∀ item ∈ items, Determines spelling item) :
    Determines spelling (.array items) := by
  intro a r r' _ _ same
  have kinds : a.kind = 1 := kind_eq_of_append_eq same
  cases a with
  | array items' =>
    rw [spelling_array, spelling_array, List.cons_append, List.cons_append, List.cons.injEq,
      List.append_assoc, List.append_assoc] at same
    obtain ⟨rfl, rest⟩ := joined_append_inj (by simp [Ends]) (by decide) not_ends_compact each
      same.2
    exact ⟨rfl, rest⟩
  | bool b => cases b <;> cases kinds
  | null | integer | float | string | object => cases kinds

/-- A member determines itself if its value does. -/
theorem determines_member {member : String × Json} (value : Determines spelling member.2) :
    Determines memberSpelling member := by
  intro other r r' ends ends' same
  rw [memberSpelling, memberSpelling, List.append_assoc, List.append_assoc] at same
  obtain ⟨names, after⟩ := quote_append_inj same
  obtain ⟨values, rest⟩ := value _ _ _ ends ends' (List.cons.inj after).2
  exact ⟨Prod.ext names values, rest⟩

theorem not_ends_memberSpelling (member : String × Json) (r : List Char) :
    ¬ Ends (memberSpelling member ++ r) := by
  rw [memberSpelling, toList_quote]
  intro ends
  have first := ends '"' rfl
  revert first
  decide

/-- An object determines itself if its values do. -/
theorem determines_object {members : List (String × Json)}
    (each : ∀ member ∈ members, Determines spelling member.2) :
    Determines spelling (.object members) := by
  intro a r r' _ _ same
  have kinds : a.kind = 2 := kind_eq_of_append_eq same
  cases a with
  | object members' =>
    rw [spelling_object, spelling_object, List.cons_append, List.cons_append, List.cons.injEq,
      List.append_assoc, List.append_assoc] at same
    obtain ⟨rfl, rest⟩ := joined_append_inj (by simp [Ends]) (by decide) not_ends_memberSpelling
      (fun member listed => determines_member (each member listed)) same.2
    exact ⟨rfl, rest⟩
  | bool b => cases b <;> cases kinds
  | null | integer | float | string | array => cases kinds

/-- A value without null and broken numbers determines itself. -/
theorem determines_of_definite {b : Json} (definite : b.Definite) : Determines spelling b := by
  induction definite with
  | bool b => exact determines_bool b
  | integer n => exact determines_integer n
  | string s => exact determines_string s
  | array _ ih => exact determines_array ih
  | object _ ih => exact determines_object ih

/-- Of values without null and broken numbers, no other value has the same compact text. -/
theorem eq_of_compact_eq {a b : Json} (definite : b.Definite) (same : a.compact = b.compact) :
    a = b := by
  have none_follows : Ends [] := by
    rintro c ⟨⟩
  have spelled : spelling a ++ [] = spelling b ++ [] := by rw [spelling, spelling, same]
  exact (determines_of_definite definite a [] [] none_follows none_follows spelled).1

end Stackwright.Json

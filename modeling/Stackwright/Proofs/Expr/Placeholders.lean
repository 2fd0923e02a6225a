import Stackwright.Fragment

/-!
# Placeholders of built texts

Text without an opener holds no placeholder and can be skipped (`Expr.placeholders_append`). A name
put between the braces is read as it is, as long as it holds no closing brace itself and does not
start with an exclamation mark (`Expr.placeholders_placeholder_append`). Text after it adds nothing
without a closing brace (`Expr.placeholders_append_unclosed`).
-/

namespace Stackwright.Expr

/-- A text splits at its first closing brace. -/
theorem splitClose_append {name : List Char} (closed : '}' ∉ name) (after : List Char) :
    splitClose (name ++ '}' :: after) = some (name, after) := by
  induction name with
  | nil => simp [splitClose]
  | cons c rest ih =>
    rw [List.mem_cons, not_or] at closed
    have other : ¬ c = '}' := fun same => closed.1 same.symm
    rw [List.cons_append, splitClose, if_neg other, ih closed.2, Option.map_some]

/-- A text that splits is what stood before the brace, the brace, and the rest. -/
theorem splitClose_some {text name after : List Char}
    (found : splitClose text = some (name, after)) :
    text = name ++ '}' :: after ∧ '}' ∉ name := by
  induction text generalizing name after with
  | nil => cases found
  | cons c rest ih =>
    unfold splitClose at found
    split at found
    · rename_i here
      cases found
      exact ⟨by rw [here, List.nil_append], List.not_mem_nil⟩
    · rename_i other
      obtain ⟨⟨name', after'⟩, inner, same⟩ := Option.map_eq_some_iff.mp found
      cases same
      obtain ⟨rfl, closed⟩ := ih inner
      refine ⟨rfl, ?_⟩
      rw [List.mem_cons, not_or]
      exact ⟨fun same => other same.symm, closed⟩

/-- A text does not split exactly if it has no closing brace. -/
theorem splitClose_eq_none_iff {text : List Char} : splitClose text = none ↔ '}' ∉ text := by
  induction text with
  | nil => simp [splitClose]
  | cons c rest ih =>
    rw [splitClose, List.mem_cons, not_or, eq_comm (a := '}')]
    split <;> simp_all

/-- More text at the end does not move the first closing brace. -/
theorem splitClose_append_of_some {text name after : List Char}
    (found : splitClose text = some (name, after)) (more : List Char) :
    splitClose (text ++ more) = some (name, after ++ more) := by
  obtain ⟨rfl, closed⟩ := splitClose_some found
  rw [List.append_assoc, List.cons_append]
  exact splitClose_append closed (after ++ more)

attribute [local simp] placeholdersOf

/-- Reading goes on after an opener that is closed. -/
theorem placeholdersOf_of_splitClose {text name after : List Char}
    (found : splitClose text = some (name, after)) :
    placeholdersOf ('$' :: '{' :: text) =
      if name.head? = some '!' then placeholdersOf after else name :: placeholdersOf after := by
  rw [placeholdersOf]
  split
  · rename_i ends
    rw [found, Option.some.injEq, Prod.mk.injEq] at ends
    obtain ⟨rfl, rfl⟩ := ends
    rfl
  · rename_i ends
    rw [found] at ends
    cases ends

/-- An opener without a closing brace after it ends the search. -/
theorem placeholdersOf_unclosed {text : List Char} (unclosed : splitClose text = none) :
    placeholdersOf ('$' :: '{' :: text) = [] := by
  rw [placeholdersOf]
  split
  · rename_i found
    rw [unclosed] at found
    cases found
  · rfl

/-- A character that starts no opener is skipped. -/
theorem placeholdersOf_cons {c : Char} {text : List Char}
    (noOpener : ∀ rest, c = '$' → text = '{' :: rest → False) :
    placeholdersOf (c :: text) = placeholdersOf text := by
  rw [placeholdersOf]
  exact noOpener

/-- A placeholder ends at the first closing brace, and is none if it starts with an exclamation
mark. -/
theorem placeholdersOf_opener {name : List Char} (closed : '}' ∉ name) (after : List Char) :
    placeholdersOf ('$' :: '{' :: (name ++ '}' :: after)) =
      if name.head? = some '!' then placeholdersOf after else name :: placeholdersOf after :=
  placeholdersOf_of_splitClose (splitClose_append closed after)

/-- Text without an opener is skipped, if none arises where the rest begins. -/
theorem placeholdersOf_append {literal rest : List Char} (plain : ¬ ['$', '{'] <:+: literal)
    (apart : literal.getLast? = some '$' → rest.head? ≠ some '{') :
    placeholdersOf (literal ++ rest) = placeholdersOf rest := by
  induction literal with
  | nil => rfl
  | cons c tail ih =>
    have plainTail : ¬ ['$', '{'] <:+: tail := fun inner => plain (List.infix_cons inner)
    have noOpener : ∀ more, c = '$' → tail ++ rest = '{' :: more → False := by
      rintro more rfl opens
      cases tail with
      | nil =>
        rw [List.nil_append] at opens
        exact apart rfl (by rw [opens, List.head?_cons])
      | cons d others =>
        rw [List.cons_append, List.cons.injEq] at opens
        exact plain ⟨[], others, by rw [opens.1]; rfl⟩
    have apartTail : tail.getLast? = some '$' → rest.head? ≠ some '{' := by
      intro last
      exact apart (by rw [List.getLast?_cons, last, Option.getD_some])
    rw [List.cons_append, placeholdersOf_cons noOpener, ih plainTail apartTail]

/-- A literal text in front adds no placeholders, unless an opener arises at the seam. -/
theorem placeholders_append {literal rest : String} (plain : ¬ ['$', '{'] <:+: literal.toList)
    (apart : literal.toList.getLast? = some '$' → rest.toList.head? ≠ some '{') :
    placeholders (literal ++ rest) = placeholders rest := by
  rw [placeholders, String.toList_append, placeholdersOf_append plain apart, placeholders]

/-- A text without openers has no placeholders. -/
theorem placeholders_of_plain {text : String} (plain : ¬ ['$', '{'] <:+: text.toList) :
    placeholders text = [] := by
  have skipped : placeholders (text ++ "") = placeholders "" := placeholders_append plain (by simp)
  rw [String.append_empty] at skipped
  rw [skipped]
  simp [placeholders]

/-- A placeholder in front is read first, unless it is escaped. -/
theorem placeholders_placeholder_append {name rest : String} (closed : '}' ∉ name.toList) :
    placeholders (placeholder name ++ rest) =
      if name.toList.head? = some '!' then placeholders rest else name :: placeholders rest := by
  have text : (placeholder name ++ rest).toList =
      '$' :: '{' :: (name.toList ++ '}' :: rest.toList) := by
    simp [placeholder]
  rw [placeholders, text, placeholdersOf_opener closed]
  split
  · rfl
  · rw [List.map_cons, String.ofList_toList, placeholders]

/-- A placeholder alone reads its name, unless it is escaped. -/
theorem placeholders_placeholder {name : String} (closed : '}' ∉ name.toList) :
    placeholders (placeholder name) = if name.toList.head? = some '!' then [] else [name] := by
  have ends : placeholders "" = [] := placeholders_of_plain (by simp)
  rw [← String.append_empty (s := placeholder name), placeholders_placeholder_append closed, ends]

theorem closed_of_mem_placeholdersOf {text name : List Char} (read : name ∈ placeholdersOf text) :
    '}' ∉ name := by
  induction text using placeholdersOf.induct with
  | case1 text _ after found _ escaped ih =>
    rw [placeholdersOf_of_splitClose found, if_pos escaped] at read
    exact ih read
  | case2 text first after found _ plain ih =>
    rw [placeholdersOf_of_splitClose found, if_neg plain, List.mem_cons] at read
    rcases read with rfl | later
    · exact (splitClose_some found).2
    · exact ih later
  | case3 text unclosed =>
    rw [placeholdersOf_unclosed unclosed] at read
    cases read
  | case4 c text noOpener ih =>
    rw [placeholdersOf_cons noOpener] at read
    exact ih read
  | case5 => simp at read

/-- No name that a text reads holds a closing brace. -/
theorem closed_of_mem_placeholders {text name : String} (read : name ∈ placeholders text) :
    '}' ∉ name.toList := by
  obtain ⟨inner, listed, rfl⟩ := List.mem_map.mp read
  rw [String.toList_ofList]
  exact closed_of_mem_placeholdersOf listed

theorem placeholdersOf_eq_nil {text : List Char} (unclosed : '}' ∉ text) :
    placeholdersOf text = [] := by
  induction text using placeholdersOf.induct with
  | case1 text _ _ found | case2 text _ _ found =>
    obtain ⟨rfl, _⟩ := splitClose_some found
    simp at unclosed
  | case3 text ends => exact placeholdersOf_unclosed ends
  | case4 c text noOpener ih =>
    rw [placeholdersOf_cons noOpener]
    exact ih fun member => unclosed (List.mem_cons_of_mem _ member)
  | case5 => simp

/-- A closing brace in what follows is needed for another placeholder. -/
theorem placeholdersOf_append_unclosed {rest : List Char} (unclosed : '}' ∉ rest)
    (text : List Char) : placeholdersOf (text ++ rest) = placeholdersOf text := by
  induction text using placeholdersOf.induct with
  | case1 text _ after found _ escaped ih =>
    rw [List.cons_append, List.cons_append,
      placeholdersOf_of_splitClose (splitClose_append_of_some found rest), if_pos escaped, ih,
      placeholdersOf_of_splitClose found, if_pos escaped]
  | case2 text name after found _ plain ih =>
    rw [List.cons_append, List.cons_append,
      placeholdersOf_of_splitClose (splitClose_append_of_some found rest), if_neg plain, ih,
      placeholdersOf_of_splitClose found, if_neg plain]
  | case3 text ends =>
    have stillOpen : splitClose (text ++ rest) = none := by
      rw [splitClose_eq_none_iff] at ends ⊢
      rw [List.mem_append, not_or]
      exact ⟨ends, unclosed⟩
    rw [List.cons_append, List.cons_append, placeholdersOf_unclosed stillOpen,
      placeholdersOf_unclosed ends]
  | case4 c text noOpener ih =>
    by_cases opens : ∃ more, c = '$' ∧ text ++ rest = '{' :: more
    · -- the opener begins in the text and ends after it, so it is never closed
      obtain ⟨more, rfl, whole⟩ := opens
      cases text with
      | nil =>
        have ends : '}' ∉ '$' :: rest := by simpa using unclosed
        rw [List.cons_append, List.nil_append, placeholdersOf_eq_nil ends,
          placeholdersOf_eq_nil (by simp)]
      | cons d others =>
        rw [List.cons_append, List.cons.injEq] at whole
        exact (noOpener others rfl (by rw [whole.1])).elim
    · rw [List.cons_append,
        placeholdersOf_cons fun more dollar brace => opens ⟨more, dollar, brace⟩, ih,
        placeholdersOf_cons noOpener]
  | case5 => rw [List.nil_append, placeholdersOf_eq_nil unclosed, placeholdersOf_eq_nil (by simp)]

/-- What follows the last closing brace is not read. -/
theorem placeholders_append_unclosed {rest : String} (unclosed : '}' ∉ rest.toList)
    (text : String) : placeholders (text ++ rest) = placeholders text := by
  rw [placeholders, String.toList_append, placeholdersOf_append_unclosed unclosed, placeholders]

end Stackwright.Expr

import Stackwright.Proofs.Enumeration
import Stackwright.Proofs.OrderedMap
import Stackwright.Proofs.Template.Grounded

/-!
# Where names are used

A template uses the names that its bodies mention and those that its resources depend on. A name
that a body uses is mentioned by one of the objects inside it, so a choice by a condition that no
call may mention cannot be used either.
-/

namespace Stackwright

namespace Json

mutual

/-- What a document uses, some object inside it uses by itself. -/
theorem exists_inside_of_mem_uses {use : NameUse} : (doc : Json) → use ∈ doc.uses →
    ∃ members, Inside (.object members) doc ∧ use ∈ ownUses members
  | .null, used | .bool _, used | .integer _, used | .float _, used | .string _, used => by
    cases used
  | .array items, used => by
    obtain ⟨item, member, members, inside, own⟩ := exists_inside_of_mem_itemUses items used
    exact ⟨members, .item member inside, own⟩
  | .object members, used => by
    rw [uses, List.mem_append] at used
    rcases used with own | below
    · exact ⟨members, .whole, own⟩
    · obtain ⟨entry, member, inner, inside, own⟩ := exists_inside_of_mem_memberUses members below
      exact ⟨inner, .value member inside, own⟩

theorem exists_inside_of_mem_itemUses {use : NameUse} : (items : List Json) →
    use ∈ itemUses items →
      ∃ item ∈ items, ∃ members, Inside (.object members) item ∧ use ∈ ownUses members
  | [], used => by cases used
  | item :: rest, used => by
    rw [itemUses, List.mem_append] at used
    rcases used with here | later
    · exact ⟨item, List.mem_cons_self, exists_inside_of_mem_uses item here⟩
    · obtain ⟨other, member, found⟩ := exists_inside_of_mem_itemUses rest later
      exact ⟨other, List.mem_cons_of_mem _ member, found⟩

theorem exists_inside_of_mem_memberUses {use : NameUse} : (members : List (String × Json)) →
    use ∈ memberUses members →
      ∃ entry ∈ members, ∃ inner, Inside (.object inner) entry.2 ∧ use ∈ ownUses inner
  | [], used => by cases used
  | (name, value) :: rest, used => by
    rw [memberUses, List.mem_append] at used
    rcases used with here | later
    · exact ⟨(name, value), List.mem_cons_self, exists_inside_of_mem_uses value here⟩
    · obtain ⟨other, member, found⟩ := exists_inside_of_mem_memberUses rest later
      exact ⟨other, List.mem_cons_of_mem _ member, found⟩

end

/-- A document uses what the objects inside it use by themselves. -/
theorem mem_uses_iff {use : NameUse} {doc : Json} :
    use ∈ doc.uses ↔ ∃ members, Inside (.object members) doc ∧ use ∈ ownUses members := by
  constructor
  · exact exists_inside_of_mem_uses doc
  · rintro ⟨members, inside, own⟩
    refine uses_subset_of_inside inside use ?_
    rw [uses]
    exact List.mem_append_left _ own

/-- The places where an object names something, in the order in which they are looked at: its
reference, the placeholders of its text, and the condition of its choice. -/
inductive MentionedAt (members : List (String × Json)) : List Nat → NameUse → Prop
  | ref {name : String} (found : findEntry "Ref" members = some (.string name)) :
      MentionedAt members [0] (.value name)
  | placeholder {text name : String} {i : Nat}
      (found : findEntry "Fn::Sub" members = some (.string text))
      (listed : (Expr.placeholders text)[i]? = some name) :
      MentionedAt members [1, i] (.value name)
  | choice {condition : String} {rest : List Json}
      (found : findEntry "Fn::If" members = some (.array (.string condition :: rest))) :
      MentionedAt members [2] (.condition condition)

/-- What an object uses by itself is listed in the order of its mentions. -/
theorem enumerates_ownUses (members : List (String × Json)) :
    Enumerates (ownUses members) (MentionedAt members) := by
  suffices parts : Enumerates (ownUses members) fun address use =>
      ((address = [0] ∧ ∃ name, findEntry "Ref" members = some (.string name) ∧ use = .value name) ∨
        ∃ text i name, findEntry "Fn::Sub" members = some (.string text) ∧
          (Expr.placeholders text)[i]? = some name ∧ address = [1, i] ∧ use = .value name) ∨
      address = [2] ∧ ∃ condition rest, findEntry "Fn::If" members =
        some (.array (.string condition :: rest)) ∧ use = .condition condition by
    refine parts.congr fun address use => ?_
    constructor
    · rintro ((⟨rfl, name, found, rfl⟩ | ⟨text, i, name, found, listed, rfl, rfl⟩) |
        ⟨rfl, condition, rest, found, rfl⟩)
      · exact .ref found
      · exact .placeholder found listed
      · exact .choice found
    · rintro (found | ⟨found, listed⟩ | found)
      · exact .inl (.inl ⟨rfl, _, found, rfl⟩)
      · exact .inl (.inr ⟨_, _, _, found, listed, rfl, rfl⟩)
      · exact .inr ⟨rfl, _, _, found, rfl⟩
  unfold ownUses
  refine Enumerates.append (Enumerates.append ?reference ?placeholders ?earlier) ?choice ?later
  case reference =>
    split
    · rename_i name found
      exact (Enumerates.singleton [0] _).congr (by simp [found])
    · exact .nil (by simp_all)
  case placeholders =>
    split
    · rename_i text found
      refine ((Enumerates.mapItems NameUse.value (Expr.placeholders text)).enter 1).congr ?_
      intro address use
      constructor
      · rintro ⟨_, rfl, i, name, listed, rfl, rfl⟩
        exact ⟨text, i, name, found, listed, rfl, rfl⟩
      · rintro ⟨_, i, name, same, listed, rfl, rfl⟩
        cases found.symm.trans same
        exact ⟨[i], rfl, i, name, listed, rfl, rfl⟩
    · exact .nil (by simp_all)
  case choice =>
    split
    · rename_i condition rest found
      exact (Enumerates.singleton [2] _).congr (by simp [found])
    · exact .nil (by simp_all)
  case earlier =>
    rintro _ _ _ _ ⟨rfl, _⟩ ⟨_, _, _, _, _, rfl, _⟩
    exact List.cons_lt_cons_iff.mpr (.inl Nat.zero_lt_one)
  case later =>
    rintro _ _ _ _ (⟨rfl, _⟩ | ⟨_, _, _, _, _, rfl, _⟩) ⟨rfl, _⟩ <;>
      exact List.cons_lt_cons_iff.mpr (.inl (by decide))

/-- As values an object uses its reference and the placeholders of its text. -/
theorem value_mem_ownUses_iff {name : String} {members : List (String × Json)} :
    .value name ∈ ownUses members ↔ findEntry "Ref" members = some (.string name) ∨
      ∃ text, findEntry "Fn::Sub" members = some (.string text) ∧
        name ∈ Expr.placeholders text := by
  rw [(enumerates_ownUses members).mem_iff]
  constructor
  · rintro ⟨_, found | ⟨found, listed⟩⟩
    · exact .inl found
    · exact .inr ⟨_, found, List.mem_of_getElem? listed⟩
  · rintro (found | ⟨text, found, member⟩)
    · exact ⟨_, .ref found⟩
    · obtain ⟨i, listed⟩ := List.mem_iff_getElem?.mp member
      exact ⟨_, .placeholder found listed⟩

/-- As a condition an object uses the one of its choice. -/
theorem condition_mem_ownUses_iff {condition : String} {members : List (String × Json)} :
    .condition condition ∈ ownUses members ↔
      ∃ rest, findEntry "Fn::If" members = some (.array (.string condition :: rest)) := by
  rw [(enumerates_ownUses members).mem_iff]
  constructor
  · rintro ⟨_, _ | _ | found⟩
    exact ⟨_, found⟩
  · rintro ⟨rest, found⟩
    exact ⟨_, .choice found⟩

/-- No object inside a document uses dependencies. -/
theorem dependency_not_mem_ownUses {id : String} (members : List (String × Json)) :
    .dependency id ∉ ownUses members := by
  rw [(enumerates_ownUses members).mem_iff]
  rintro ⟨_, mentioned⟩
  cases mentioned

/-- The names of values that a document uses. -/
theorem value_mem_uses_iff {name : String} {doc : Json} :
    .value name ∈ doc.uses ↔ Binds "Ref" (.string name) doc ∨
      ∃ text, Binds "Fn::Sub" (.string text) doc ∧ name ∈ Expr.placeholders text := by
  simp only [mem_uses_iff, value_mem_ownUses_iff, Binds]
  constructor
  · rintro ⟨members, inside, found | ⟨text, found, listed⟩⟩
    · exact .inl ⟨members, inside, found⟩
    · exact .inr ⟨text, ⟨members, inside, found⟩, listed⟩
  · rintro (⟨members, inside, found⟩ | ⟨text, ⟨members, inside, found⟩, listed⟩)
    · exact ⟨members, inside, .inl found⟩
    · exact ⟨members, inside, .inr ⟨text, found, listed⟩⟩

/-- The conditions that a document uses. -/
theorem condition_mem_uses_iff {condition : String} {doc : Json} :
    .condition condition ∈ doc.uses ↔
      ∃ rest, Binds "Fn::If" (.array (.string condition :: rest)) doc := by
  simp only [mem_uses_iff, condition_mem_ownUses_iff, Binds]
  constructor
  · rintro ⟨members, inside, rest, found⟩
    exact ⟨rest, members, inside, found⟩
  · rintro ⟨rest, members, inside, found⟩
    exact ⟨members, inside, rest, found⟩

/-- A condition that a document uses stands first in some choice inside it. -/
theorem exists_choice_of_condition_mem_uses {condition : String} {doc : Json}
    (used : NameUse.condition condition ∈ doc.uses) :
    ∃ rest, Under "Fn::If" (.array (.string condition :: rest)) doc := by
  obtain ⟨rest, members, inside, found⟩ := condition_mem_uses_iff.mp used
  exact ⟨rest, members, inside, mem_of_findEntry found⟩

/-- Dependencies stand beside the properties of a resource, not in them. -/
theorem dependency_not_mem_uses {id : String} (doc : Json) : .dependency id ∉ doc.uses := by
  intro used
  obtain ⟨members, _, own⟩ := mem_uses_iff.mp used
  exact dependency_not_mem_ownUses members own

end Json

namespace Template

/-- A template uses what its bodies use, and the dependencies of its resources. -/
theorem exists_mem_uses_iff {t : Template} {use : NameUse} :
    (∃ location, (location, use) ∈ t.uses) ↔
      (∃ body ∈ t.bodies, use ∈ body.uses) ∨
        ∃ entry ∈ t.resources.entries, ∃ id ∈ entry.2.dependsOn, use = .dependency id := by
  simp only [uses, resourceUses, bodies, List.mem_append, List.mem_flatMap, List.mem_map,
    Prod.mk.injEq]
  constructor
  · rintro ⟨_, (⟨entry, present, _, used, rfl, rfl⟩ |
      ⟨entry, present, ⟨id, needed, rfl, rfl⟩ | ⟨_, used, rfl, rfl⟩⟩) |
      ⟨entry, present, _, used, rfl, rfl⟩⟩
    · exact .inl ⟨_, .inl (.inl ⟨entry, present, rfl⟩), used⟩
    · exact .inr ⟨entry, present, id, needed, rfl⟩
    · exact .inl ⟨_, .inl (.inr ⟨entry, present, rfl⟩), used⟩
    · exact .inl ⟨_, .inr ⟨entry, present, rfl⟩, used⟩
  · rintro (⟨_, (⟨entry, present, rfl⟩ | ⟨entry, present, rfl⟩) | ⟨entry, present, rfl⟩, used⟩ |
      ⟨entry, present, id, needed, rfl⟩)
    · exact ⟨_, .inl (.inl ⟨entry, present, _, used, rfl, rfl⟩)⟩
    · exact ⟨_, .inl (.inr ⟨entry, present, .inr ⟨_, used, rfl, rfl⟩⟩)⟩
    · exact ⟨_, .inr ⟨entry, present, _, used, rfl, rfl⟩⟩
    · exact ⟨_, .inl (.inr ⟨entry, present, .inl ⟨id, needed, rfl, rfl⟩⟩)⟩

/-- What is reported as open is used somewhere and not declared. -/
theorem exists_use_of_firstOpen {t : Template} {found : OpenName}
    (opened : t.firstOpen = some found) :
    ∃ location use, (location, use) ∈ t.uses ∧ t.declares use = false ∧
      found = openName location use := by
  obtain ⟨⟨location, use⟩, first, same⟩ := Option.map_eq_some_iff.mp opened
  have undeclared : t.declares use = false := by simpa using List.find?_some first
  exact ⟨location, use, List.mem_of_find?_eq_some first, undeclared, same.symm⟩

/-- The conditions that a document with grounded calls uses are declared. -/
theorem contains_of_condition_mem_uses {t : Template} {body : Json}
    (calls : Json.CallsOnly t.Grounds body) {condition : String}
    (used : NameUse.condition condition ∈ body.uses) : t.conditions.contains condition = true := by
  obtain ⟨rest, under⟩ := Json.exists_choice_of_condition_mem_uses used
  obtain ⟨_, e, grounds, spelled⟩ := calls.under (by decide) under (by simp)
  cases e <;> simp [Expr.toJson, Expr.call] at spelled
  rw [spelled.1] at grounds
  exact grounds

end Template

end Stackwright

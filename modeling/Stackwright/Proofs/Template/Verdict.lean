import Stackwright.Proofs.Template.Uses

/-!
# The verdict on the names of a template

The check of names is described without the order in which it works. It passes exactly if every
object, at any depth of a condition, of the properties of a resource or of an output, names what
the template declares, and every resource depends on resources (`Template.NamesDeclared`). If it
does not pass, it reports the first offence: every use of a name has an address in the template
(`Template.UsedAt`), and of the uses that are not declared the one with the least address is
reported, with the entry that holds it (`Template.verdict`).
-/

namespace Stackwright

namespace Json

/-- The document uses a name at an address. The step 3 leads to the members of an object, after the
places where it names something itself; the next step, like that into an array, is a position. -/
inductive UsedAt : Json → List Nat → NameUse → Prop
  | own {members : List (String × Json)} {address : List Nat} {use : NameUse}
      (mentioned : MentionedAt members address use) : UsedAt (.object members) address use
  | member {members : List (String × Json)} {i : Nat} {entry : String × Json} {address : List Nat}
      {use : NameUse} (present : members[i]? = some entry)
      (deeper : UsedAt entry.2 address use) : UsedAt (.object members) (3 :: i :: address) use
  | item {items : List Json} {i : Nat} {item : Json} {address : List Nat} {use : NameUse}
      (present : items[i]? = some item) (deeper : UsedAt item address use) :
      UsedAt (.array items) (i :: address) use

/-- What an object mentions by itself comes before what its values use. -/
theorem MentionedAt.lt {members : List (String × Json)} {address : List Nat} {use : NameUse}
    (mentioned : MentionedAt members address use) (rest : List Nat) : address < 3 :: rest := by
  cases mentioned <;> exact List.cons_lt_cons_iff.mpr (.inl (by decide))

mutual

/-- The uses of a document are listed in the order of their addresses. -/
theorem enumerates_uses : (doc : Json) → Enumerates doc.uses doc.UsedAt
  | .null | .bool _ | .integer _ | .float _ | .string _ => .nil fun _ _ used => by cases used
  | .array items => by
    rw [uses, itemUses_eq_flatMap]
    refine (Enumerates.flatMap (enumerates_uses_items items)).congr fun address use => ?_
    constructor
    · rintro ⟨i, item, rest, present, rfl, used⟩
      exact .item present used
    · rintro (_ | _ | ⟨present, used⟩)
      exact ⟨_, _, _, present, rfl, used⟩
  | .object members => by
    rw [uses, memberUses_eq_flatMap]
    have below := (Enumerates.flatMap (enumerates_uses_members members)).enter 3
    refine ((enumerates_ownUses members).append below ?_).congr fun address use => ?_
    · rintro address use _ _ mentioned ⟨rest, rfl, _⟩
      exact mentioned.lt rest
    · constructor
      · rintro (mentioned | ⟨_, rfl, i, entry, rest, present, rfl, used⟩)
        · exact .own mentioned
        · exact .member present used
      · rintro (mentioned | ⟨present, used⟩)
        · exact .inl mentioned
        · exact .inr ⟨_, rfl, _, _, _, present, rfl, used⟩

/-- The uses of each item are listed in the order of their addresses. -/
theorem enumerates_uses_items : (items : List Json) →
    ∀ item ∈ items, Enumerates item.uses item.UsedAt
  | [] => by simp
  | item :: rest => List.forall_mem_cons.mpr ⟨enumerates_uses item, enumerates_uses_items rest⟩

theorem enumerates_uses_members : (members : List (String × Json)) →
    ∀ entry ∈ members, Enumerates entry.2.uses entry.2.UsedAt
  | [] => by simp
  | (_, value) :: rest =>
    List.forall_mem_cons.mpr ⟨enumerates_uses value, enumerates_uses_members rest⟩

end

end Json

namespace Template

/-- The template uses a name at an address, in the entry that the location tells. The first step is
the section, the second the entry; a resource has its dependencies (0) before its properties (1). -/
inductive UsedAt (t : Template) : List Nat → String × NameUse → Prop
  | condition {i : Nat} {name : String} {body : Expr} {address : List Nat} {use : NameUse}
      (present : t.conditions.entries[i]? = some (name, body))
      (used : body.toJson.UsedAt address use) :
      t.UsedAt (0 :: i :: address) ("Conditions." ++ name, use)
  | dependency {i k : Nat} {id needed : String} {decl : ResourceDecl}
      (present : t.resources.entries[i]? = some (id, decl))
      (listed : decl.dependsOn[k]? = some needed) :
      t.UsedAt [1, i, 0, k] ("Resources." ++ id ++ ".DependsOn", .dependency needed)
  | property {i : Nat} {id : String} {decl : ResourceDecl} {address : List Nat} {use : NameUse}
      (present : t.resources.entries[i]? = some (id, decl))
      (used : decl.properties.UsedAt address use) :
      t.UsedAt (1 :: i :: 1 :: address) ("Resources." ++ id, use)
  | output {i : Nat} {name : String} {decl : OutputDecl} {address : List Nat} {use : NameUse}
      (present : t.outputs.entries[i]? = some (name, decl))
      (used : decl.value.toJson.UsedAt address use) :
      t.UsedAt (2 :: i :: address) ("Outputs." ++ name, use)

/-- A resource lists its dependencies first and then what its properties use. -/
theorem enumerates_resourceUses (id : String) (decl : ResourceDecl) :
    Enumerates (resourceUses id decl) fun address used =>
      (∃ k needed, decl.dependsOn[k]? = some needed ∧ address = [0, k] ∧
        used = ("Resources." ++ id ++ ".DependsOn", .dependency needed)) ∨
      ∃ rest use, decl.properties.UsedAt rest use ∧ address = 1 :: rest ∧
        used = ("Resources." ++ id, use) := by
  have dependencies := (Enumerates.mapItems (fun needed =>
    ("Resources." ++ id ++ ".DependsOn", NameUse.dependency needed)) decl.dependsOn).enter 0
  have properties := ((Json.enumerates_uses decl.properties).map ("Resources." ++ id, ·)).enter 1
  refine (dependencies.append properties ?_).congr fun address used => ?_
  · rintro _ _ _ _ ⟨_, rfl, _⟩ ⟨_, rfl, _⟩
    exact List.cons_lt_cons_iff.mpr (.inl Nat.zero_lt_one)
  · constructor
    · rintro (⟨_, rfl, k, needed, listed, rfl, same⟩ | ⟨rest, rfl, use, deeper, same⟩)
      · exact .inl ⟨k, needed, listed, rfl, same⟩
      · exact .inr ⟨rest, use, deeper, rfl, same⟩
    · rintro (⟨k, needed, listed, rfl, same⟩ | ⟨rest, use, deeper, rfl, same⟩)
      · exact .inl ⟨[k], rfl, k, needed, listed, rfl, same⟩
      · exact .inr ⟨rest, rfl, use, deeper, same⟩

/-- The uses of a template are listed in the order of their addresses. -/
theorem enumerates_uses (t : Template) : Enumerates t.uses t.UsedAt := by
  have conditions := (Enumerates.flatMap fun (entry : String × Expr)
    (_ : entry ∈ t.conditions.entries) =>
      (Json.enumerates_uses entry.2.toJson).map ("Conditions." ++ entry.1, ·)).enter 0
  have resources := (Enumerates.flatMap fun (entry : String × ResourceDecl)
    (_ : entry ∈ t.resources.entries) => enumerates_resourceUses entry.1 entry.2).enter 1
  have outputs := (Enumerates.flatMap fun (entry : String × OutputDecl)
    (_ : entry ∈ t.outputs.entries) =>
      (Json.enumerates_uses entry.2.value.toJson).map ("Outputs." ++ entry.1, ·)).enter 2
  refine ((conditions.append resources ?_).append outputs ?_).congr fun address used => ?_
  · rintro _ _ _ _ ⟨_, rfl, _⟩ ⟨_, rfl, _⟩
    exact List.cons_lt_cons_iff.mpr (.inl Nat.zero_lt_one)
  · rintro _ _ _ _ (⟨_, rfl, _⟩ | ⟨_, rfl, _⟩) ⟨_, rfl, _⟩ <;>
      exact List.cons_lt_cons_iff.mpr (.inl (by decide))
  · constructor
    · rintro ((⟨_, rfl, i, entry, rest, present, rfl, use, used, rfl⟩ |
        ⟨_, rfl, i, entry, _, present, rfl, ⟨k, needed, listed, rfl, rfl⟩ |
          ⟨rest, use, used, rfl, rfl⟩⟩) |
        ⟨_, rfl, i, entry, rest, present, rfl, use, used, rfl⟩)
      · exact .condition present used
      · exact .dependency present listed
      · exact .property present used
      · exact .output present used
    · rintro (⟨present, used⟩ | ⟨present, listed⟩ | ⟨present, used⟩ | ⟨present, used⟩)
      · exact .inl (.inl ⟨_, rfl, _, _, _, present, rfl, _, used, rfl⟩)
      · exact .inl (.inr ⟨_, rfl, _, _, _, present, rfl, .inl ⟨_, _, listed, rfl, rfl⟩⟩)
      · exact .inl (.inr ⟨_, rfl, _, _, _, present, rfl, .inr ⟨_, _, used, rfl, rfl⟩⟩)
      · exact .inr ⟨_, rfl, _, _, _, present, rfl, _, used, rfl⟩

/-- Everything that is named is declared: wherever an object of a condition, of the properties of a
resource or of an output names something, and wherever a resource depends on another one. -/
structure NamesDeclared (t : Template) : Prop where
  refs : ∀ body ∈ t.bodies, ∀ name, Json.Binds "Ref" (.string name) body → t.resolves name = true
  placeholders : ∀ body ∈ t.bodies, ∀ text, Json.Binds "Fn::Sub" (.string text) body →
    ∀ name ∈ Expr.placeholders text, t.resolves name = true
  choices : ∀ body ∈ t.bodies, ∀ condition rest,
    Json.Binds "Fn::If" (.array (.string condition :: rest)) body →
      t.conditions.contains condition = true
  dependencies : ∀ entry ∈ t.resources.entries, ∀ id ∈ entry.2.dependsOn,
    t.resources.contains id = true

/-- A template is closed exactly if it declares all names that it uses. -/
theorem closed_iff_namesDeclared {t : Template} : t.Closed ↔ t.NamesDeclared := by
  constructor
  · intro closed
    exact {
      refs := fun body member name bound =>
        closed.declares_of_mem_bodies member (Json.value_mem_uses_iff.mpr (.inl bound))
      placeholders := fun body member text bound name listed =>
        closed.declares_of_mem_bodies member
          (Json.value_mem_uses_iff.mpr (.inr ⟨text, bound, listed⟩))
      choices := fun body member condition rest bound =>
        closed.declares_of_mem_bodies member (Json.condition_mem_uses_iff.mpr ⟨rest, bound⟩)
      dependencies := fun entry member id needed => closed.contains_of_dependsOn member needed }
  · rintro declared ⟨location, use⟩ used
    rcases exists_mem_uses_iff.mp ⟨location, used⟩ with ⟨body, member, inBody⟩ |
      ⟨entry, member, id, needed, rfl⟩
    · cases use with
      | value name =>
        rcases Json.value_mem_uses_iff.mp inBody with bound | ⟨text, bound, listed⟩
        · exact declared.refs body member name bound
        · exact declared.placeholders body member text bound name listed
      | condition condition =>
        obtain ⟨rest, bound⟩ := Json.condition_mem_uses_iff.mp inBody
        exact declared.choices body member condition rest bound
      | dependency id => exact (Json.dependency_not_mem_uses body inBody).elim
    · exact declared.dependencies entry member id needed

/-- Of the uses that are not declared, the one in the entry that `location` tells comes first. -/
def OffendsFirst (t : Template) (location : String) (use : NameUse) : Prop :=
  ∃ address, t.UsedAt address (location, use) ∧ t.declares use = false ∧
    ∀ other used, t.UsedAt other used → t.declares used.2 = false → address ≤ other

/-- The use that offends first is the first undeclared one of the list. -/
theorem offendsFirst_iff {t : Template} {location : String} {use : NameUse} :
    t.OffendsFirst location use ↔
      t.uses.find? (fun used => !t.declares used.2) = some (location, use) := by
  simp only [t.enumerates_uses.find?_eq_some_iff, OffendsFirst, Bool.not_eq_true']

/-- **The verdict of the check of names.** It passes if and only if everything named is declared,
and otherwise it reports the first offence, with the name and the entry. -/
theorem verdict (t : Template) :
    (t.firstOpen = none ↔ t.NamesDeclared) ∧
      ∀ found, t.firstOpen = some found ↔ ∃ location name,
        ((t.OffendsFirst location (.value name) ∨ t.OffendsFirst location (.dependency name)) ∧
            found = .undeclaredName name location) ∨
          (t.OffendsFirst location (.condition name) ∧
            found = .undeclaredCondition name location) := by
  refine ⟨(firstOpen_eq_none_iff t).trans closed_iff_namesDeclared, fun found => ?_⟩
  rw [firstOpen, Option.map_eq_some_iff, Prod.exists]
  simp only [offendsFirst_iff]
  constructor
  · rintro ⟨location, name | name | name, first, rfl⟩
    · exact ⟨location, name, .inl ⟨.inl first, rfl⟩⟩
    · exact ⟨location, name, .inr ⟨first, rfl⟩⟩
    · exact ⟨location, name, .inl ⟨.inr first, rfl⟩⟩
  · rintro ⟨location, name, ⟨first | first, rfl⟩ | ⟨first, rfl⟩⟩
    · exact ⟨location, .value name, first, rfl⟩
    · exact ⟨location, .dependency name, first, rfl⟩
    · exact ⟨location, .condition name, first, rfl⟩

end Template

end Stackwright

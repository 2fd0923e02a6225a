import Stackwright.Proofs.Expr.Calls

/-!
# Grounded templates

A closed template passes the check of names, which looks at a name up to its first dot and not at
attributes. A grounded template keeps what the deployment needs: each name, placeholder, attribute,
choice and dependency stands for something in the template. A closed template is grounded when its
calls come from expressions that ground the names they use (`Template.grounded_of_closed`).
-/

namespace Stackwright.Template

/-- The documents that use names: the conditions, the properties of resources, and the outputs. -/
def bodies (t : Template) : List Json :=
  t.conditions.entries.map (fun entry => entry.2.toJson)
    ++ t.resources.entries.map (fun entry => entry.2.properties)
    ++ t.outputs.entries.map fun entry => entry.2.value.toJson

/-- The name begins as those of the platform do. -/
def OfPlatform (name : String) : Prop := "AWS::".toList <+: name.toList

instance (name : String) : Decidable (OfPlatform name) := inferInstanceAs (Decidable (_ <+: _))

/-- The template declares a parameter or a resource of exactly this name. -/
def Names (t : Template) (name : String) : Prop :=
  t.parameters.contains name = true ∨ t.resources.contains name = true

/-- Whatever the template refers to is of the platform or declared in the template. -/
structure Grounded (t : Template) : Prop where
  refs : ∀ body ∈ t.bodies, ∀ name, Json.Under "Ref" (.string name) body →
    OfPlatform name ∨ t.Names name
  placeholders : ∀ body ∈ t.bodies, ∀ text, Json.Under "Fn::Sub" (.string text) body →
    ∀ name ∈ Expr.placeholders text, OfPlatform name ∨ t.Names (baseName name)
  attributes : ∀ body ∈ t.bodies, ∀ items, Json.Under "Fn::GetAtt" (.array items) body →
    ∃ id rest, items = .string id :: rest ∧ t.resources.contains id = true
  choices : ∀ body ∈ t.bodies, ∀ items, Json.Under "Fn::If" (.array items) body →
    ∃ condition rest, items = .string condition :: rest ∧ t.conditions.contains condition = true
  dependencies : ∀ entry ∈ t.resources.entries, ∀ id ∈ entry.2.dependsOn,
    t.resources.contains id = true

/-- The names that a call mentions by itself are grounded; texts are left to the check of names. -/
def Grounds (t : Template) : Expr → Prop
  | .ref name => OfPlatform name ∨ t.Names name
  | .ifThenElse condition _ _ => t.conditions.contains condition = true
  | .getAtt id _ => t.resources.contains id = true
  | _ => True

section Subterms

variable {t : Template}

/-- The template grounds the expression at every depth. -/
def GroundsAll (t : Template) (e : Expr) : Prop := ∀ inner ∈ e.subterms, t.Grounds inner

/-- A property of all subterms of expressions is one of the subterms of each. -/
theorem forall_mem_subtermsAll_iff {es : List Expr} :
    (∀ inner ∈ Expr.subtermsAll es, t.Grounds inner) ↔ ∀ e ∈ es, t.GroundsAll e := by
  induction es with
  | nil => simp [Expr.subtermsAll]
  | cons e rest ih => simp [Expr.subtermsAll, or_imp, forall_and, ih, GroundsAll]

attribute [local simp] GroundsAll Expr.subterms Grounds

@[simp] theorem groundsAll_literal (text : String) : t.GroundsAll (.literal text) := by
  simp

@[simp] theorem groundsAll_sub (text : String) : t.GroundsAll (.sub text) := by
  simp

/-- A reference is grounded if it names something. -/
@[simp] theorem groundsAll_ref_iff {name : String} :
    t.GroundsAll (.ref name) ↔ OfPlatform name ∨ t.Names name := by
  simp

/-- A reference to a declared parameter is grounded. -/
theorem groundsAll_ref_of_parameter {name : String}
    (present : t.parameters.contains name = true) : t.GroundsAll (.ref name) :=
  groundsAll_ref_iff.mpr (Or.inr (Or.inl present))

theorem groundsAll_ref_of_resource {id : String} (present : t.resources.contains id = true) :
    t.GroundsAll (.ref id) :=
  groundsAll_ref_iff.mpr (Or.inr (Or.inr present))

/-- An attribute is grounded if its resource is declared. -/
@[simp] theorem groundsAll_getAtt_iff {id property : String} :
    t.GroundsAll (.getAtt id property) ↔ t.resources.contains id = true := by
  simp

@[simp] theorem groundsAll_importValue_iff {name : Expr} :
    t.GroundsAll (.importValue name) ↔ t.GroundsAll name := by
  simp

@[simp] theorem groundsAll_equals_iff {left right : Expr} :
    t.GroundsAll (.equals left right) ↔ t.GroundsAll left ∧ t.GroundsAll right := by
  simp [or_imp, forall_and]

/-- A choice is grounded if its condition is declared and its branches are grounded. -/
@[simp] theorem groundsAll_ifThenElse_iff {condition : String} {whenTrue whenFalse : Expr} :
    t.GroundsAll (.ifThenElse condition whenTrue whenFalse) ↔
      t.conditions.contains condition = true ∧ t.GroundsAll whenTrue ∧ t.GroundsAll whenFalse := by
  simp [or_imp, forall_and]

@[simp] theorem groundsAll_not_iff {conditions : List Expr} :
    t.GroundsAll (.not conditions) ↔ ∀ e ∈ conditions, t.GroundsAll e := by
  rw [GroundsAll, Expr.subterms, List.forall_mem_cons, forall_mem_subtermsAll_iff]
  simp

@[simp] theorem groundsAll_join_iff {delimiter : String} {parts : List Expr} :
    t.GroundsAll (.join delimiter parts) ↔ ∀ e ∈ parts, t.GroundsAll e := by
  rw [GroundsAll, Expr.subterms, List.forall_mem_cons, forall_mem_subtermsAll_iff]
  simp

end Subterms

/-- What is used in the bodies of a closed template is declared. -/
theorem Closed.declares_of_mem_bodies {t : Template} (closed : t.Closed) {body : Json}
    (member : body ∈ t.bodies) {use : NameUse} (used : use ∈ body.uses) :
    t.declares use = true := by
  simp only [bodies, List.mem_append, List.mem_map] at member
  have listed : ∃ location, (location, use) ∈ t.uses := by
    simp only [uses, resourceUses, List.mem_append, List.mem_flatMap, List.mem_map]
    rcases member with (⟨entry, present, rfl⟩ | ⟨entry, present, rfl⟩) | ⟨entry, present, rfl⟩
    · exact ⟨_, Or.inl (Or.inl ⟨entry, present, use, used, rfl⟩)⟩
    · exact ⟨_, Or.inl (Or.inr ⟨entry, present, Or.inr ⟨use, used, rfl⟩⟩)⟩
    · exact ⟨_, Or.inr ⟨entry, present, use, used, rfl⟩⟩
  obtain ⟨location, listed⟩ := listed
  exact closed _ listed

/-- A closed template declares the resources that others wait for. -/
theorem Closed.contains_of_dependsOn {t : Template} (closed : t.Closed)
    {entry : String × ResourceDecl} (member : entry ∈ t.resources.entries) {id : String}
    (needed : id ∈ entry.2.dependsOn) : t.resources.contains id = true := by
  have listed : ("Resources." ++ entry.1 ++ ".DependsOn", .dependency id) ∈ t.uses := by
    simp only [uses, resourceUses, List.mem_append, List.mem_flatMap, List.mem_map]
    exact Or.inl (Or.inr ⟨entry, member, Or.inl ⟨id, needed, rfl⟩⟩)
  exact closed _ listed

/-- A name resolves if it is of the platform, or names something by what stands before its first
dot. -/
theorem resolves_iff {t : Template} {name : String} :
    t.resolves name = true ↔ OfPlatform name ∨ t.Names (baseName name) := by
  simp only [resolves, Bool.or_eq_true, List.isPrefixOf_iff_prefix, OfPlatform, Names, or_assoc]

/-- A closed template whose calls ground their names is grounded. -/
theorem grounded_of_closed {t : Template} (closed : t.Closed)
    (calls : ∀ body ∈ t.bodies, Json.CallsOnly t.Grounds body) : t.Grounded where
  refs := by
    intro body member name under
    obtain ⟨_, e, grounds, spelled⟩ := (calls body member).under (by decide) under (by simp)
    cases e <;> simp [Expr.toJson, Expr.call] at spelled
    exact spelled ▸ grounds
  placeholders := by
    intro body member text under name read
    obtain ⟨inside, _⟩ := (calls body member).under (by decide) under (by simp)
    -- texts can hold any name, so only the check of names speaks about them
    have used : NameUse.value name ∈ (Expr.call "Fn::Sub" (.string text)).uses := by
      simp [Expr.call, Json.uses, Json.ownUses, findEntry, read]
    exact resolves_iff.mp
      (closed.declares_of_mem_bodies member (Json.uses_subset_of_inside inside _ used))
  attributes := by
    intro body member items under
    obtain ⟨_, e, grounds, spelled⟩ := (calls body member).under (by decide) under (by simp)
    cases e <;> simp [Expr.toJson, Expr.call] at spelled
    exact ⟨_, _, spelled.symm, grounds⟩
  choices := by
    intro body member items under
    obtain ⟨_, e, grounds, spelled⟩ := (calls body member).under (by decide) under (by simp)
    cases e <;> simp [Expr.toJson, Expr.call] at spelled
    exact ⟨_, _, spelled.symm, grounds⟩
  dependencies := fun _ member _ needed => closed.contains_of_dependsOn member needed

end Stackwright.Template

import Stackwright.Proofs.Compilation.Warnings
import Stackwright.Proofs.Validation.Outcome

/-!
# What names stand for

A name in a template can stand for a parameter that the function requires, a fixed parameter, a
resource, or a value of the platform. The last three begin with different letters. The names of
required parameters are free, and nothing compares them with the others: a function can require a
parameter under the name of a resource or of the platform, or of a fixed parameter, which then
replaces it with a warning. All other names that a template mentions stand for one thing
(`sortsNames_of_compile`).
-/

namespace Stackwright

open Compilation

/-- What a name can stand for. -/
inductive NameKind where
  /-- A parameter that a part of the function requires, by itself or for a reference. -/
  | required
  /-- A parameter that every template has. -/
  | fixed
  | resource
  | platform
deriving DecidableEq, Repr

/-- The letters with which names begin that the function does not choose. -/
def NameKind.initials : NameKind → List Char
  | .required => []
  | .fixed => ['e', 'r']
  | .resource => ['L']
  | .platform => ['A']

/-- Kinds of names that share an initial are the same kind. -/
theorem NameKind.eq_of_mem_initials {kind kind' : NameKind} {c : Char} (first : c ∈ kind.initials)
    (second : c ∈ kind'.initials) : kind = kind' := by
  cases kind <;> cases kind' <;> simp_all [initials]

/-- The name is a reference, or a placeholder without a dot, somewhere in the template. -/
def Template.Mentions (t : Template) (x : String) : Prop :=
  ∃ body ∈ t.bodies, Json.Under "Ref" (.string x) body ∨
    ∃ text, Json.Under "Fn::Sub" (.string text) body ∧ x ∈ Expr.placeholders text ∧
      '.' ∉ x.toList

namespace Requirements

/-- In the template of the function, the name stands for something of the kind. -/
def Denotes (r : Requirements) (t : Template) (x : String) : NameKind → Prop
  | .required => ∃ p ∈ r.parameters, p.name = x
  | .fixed => x = "env" ∨ x = "resourceName"
  | .resource => t.resources.contains x = true
  | .platform => Template.OfPlatform x

/-- The function requires a parameter under a name that stands for something else as well. -/
def Confuses (r : Requirements) (t : Template) (x : String) : Prop :=
  r.Denotes t x .required ∧ ∃ kind, kind ≠ .required ∧ r.Denotes t x kind

/-- What the names in a template of the function stand for, and what is noticed about it. -/
structure SortsNames (r : Requirements) (name : String) (t : Template) (notices : List Notice) :
    Prop where
  declared : ∀ x, t.parameters.contains x = true ↔
    r.Denotes t x .required ∨ r.Denotes t x .fixed
  ofReference : ∀ a ∈ r.allReferences,
    r.Denotes t (a.category ++ a.resource ++ a.output) .required
  mentioned : ∀ x, t.Mentions x → ∃ kind, r.Denotes t x kind
  apart : ∀ x kind kind', r.Denotes t x kind → r.Denotes t x kind' → kind ≠ .required →
    kind' ≠ .required → kind = kind'
  unique : ∀ x kind, r.Denotes t x kind →
    ((∃! kind, r.Denotes t x kind) ↔ ¬ r.Confuses t x)
  env : t.parameters.get? "env" = some ⟨"String", none⟩
  baseName : t.parameters.get? "resourceName" = some ⟨"String", some name⟩
  overridden : ∀ x, .fixedParameterOverrides x ∈ notices ↔
    r.Denotes t x .required ∧ r.Denotes t x .fixed

end Requirements

theorem ValueSource.toParameter_mem {source : ValueSource} {a : Reference}
    (member : a ∈ source.references) : a.toParameter ∈ source.parameters := by
  cases source <;> simp_all [references, parameters]

/-- The parameter of a reference that a permission reads is one of the permission's parameters. -/
theorem Permission.toParameter_mem {p : Permission} {a : Reference} (member : a ∈ p.references) :
    a.toParameter ∈ p.parameters := by
  cases p with
  | iamAction actions resources => exact List.mem_map.mpr ⟨a, member, rfl⟩
  | _ => simp_all [references, parameters, Table.references, Table.parameters]

theorem Variable.toParameter_mem {v : Variable} {a : Reference} (member : a ∈ v.references) :
    a.toParameter ∈ v.parameters := by
  cases v with
  | coalesced name first second =>
    rcases List.mem_append.mp member with ofFirst | ofSecond
    · exact List.mem_append_left _ (ValueSource.toParameter_mem ofFirst)
    · exact List.mem_append_right _ (ValueSource.toParameter_mem ofSecond)
  | _ => simp_all [references, parameters, Table.references, Table.parameters]

/-- The parameter of every reference is a required one. -/
theorem Requirements.toParameter_mem {r : Requirements} {a : Reference}
    (member : a ∈ r.allReferences) : a.toParameter ∈ r.parameters := by
  simp only [allReferences, parameters, List.mem_append, List.mem_flatMap] at member ⊢
  rcases member with (⟨p, listed, touched⟩ | ⟨v, listed, touched⟩) | ⟨host, source, touched⟩
  · exact .inl (.inl ⟨p, listed, Permission.toParameter_mem touched⟩)
  · exact .inl (.inr ⟨v, listed, Variable.toParameter_mem touched⟩)
  · exact .inr ⟨host, source, by rw [List.mem_singleton.mp touched]; exact List.mem_cons_self⟩

namespace Compilation

section Assembled

variable {name : String} {r : Requirements} {s : Settings} {declared : OrderedMap String Expr}
  {x : String} {kind kind' : NameKind}

/-- The names of all resources start with `Lambda`. -/
theorem prefix_of_contains_resources {values : OrderedMap String Expr}
    (present : (resources values s r).contains x = true) : "Lambda".toList <+: x.toList := by
  have begins : ∀ {kindName : String}, "Lambda".toList <+: kindName.toList →
      ∀ table, "Lambda".toList <+: (kindName ++ table).toList := fun begins table => by
    rw [String.toList_append]
    exact begins.trans (List.prefix_append _ _)
  rw [OrderedMap.contains_iff, keys_resources] at present
  simp only [List.mem_append, List.mem_cons, List.not_mem_nil, or_false, List.mem_flatMap]
    at present
  rcases present with (rfl | rfl | rfl) | ⟨host, _, rfl | rfl⟩
  · decide
  · decide
  · decide
  · exact begins (by decide) host.tableName
  · exact begins (by decide) host.tableName

/-- A name that denotes anything but a required parameter starts with an initial of its kind. -/
theorem exists_initial_of_denotes (denotes : r.Denotes (assembled name r s declared) x kind)
    (free : kind ≠ .required) : ∃ c ∈ kind.initials, x.toList.head? = some c := by
  have head : ∀ {text : List Char} {c : Char}, text.head? = some c → text <+: x.toList →
      x.toList.head? = some c := by
    rintro text c first ⟨rest, whole⟩
    rw [← whole, List.head?_append, first, Option.some_or]
  cases kind with
  | required => exact (free rfl).elim
  | fixed =>
    rcases denotes with rfl | rfl
    · exact ⟨'e', by decide, by decide⟩
    · exact ⟨'r', by decide, by decide⟩
  | resource => exact ⟨'L', by decide, head (by decide) (prefix_of_contains_resources denotes)⟩
  | platform => exact ⟨'A', by decide, head (by decide) denotes⟩

/-- Names that the function does not choose stand for one thing. -/
theorem kind_eq_of_denotes (first : r.Denotes (assembled name r s declared) x kind)
    (second : r.Denotes (assembled name r s declared) x kind') (free : kind ≠ .required)
    (free' : kind' ≠ .required) : kind = kind' := by
  obtain ⟨c, initial, begins⟩ := exists_initial_of_denotes first free
  obtain ⟨c', initial', begins'⟩ := exists_initial_of_denotes second free'
  rw [begins, Option.some.injEq] at begins'
  subst begins'
  exact NameKind.eq_of_mem_initials initial initial'

/-- A name that denotes something denotes one kind of thing, unless it is confused. -/
theorem existsUnique_denotes_iff (denotes : r.Denotes (assembled name r s declared) x kind) :
    (∃! kind, r.Denotes (assembled name r s declared) x kind) ↔
      ¬ r.Confuses (assembled name r s declared) x := by
  constructor
  · rintro ⟨only, _, unique⟩ ⟨required, other, differs, also⟩
    exact differs ((unique other also).trans (unique .required required).symm)
  · intro clear
    refine ⟨kind, denotes, fun other also => ?_⟩
    by_cases chosen : kind = .required
    · subst chosen
      by_contra differs
      exact clear ⟨denotes, other, differs, also⟩
    · by_cases otherChosen : other = .required
      · subst otherChosen
        exact (clear ⟨also, kind, chosen, denotes⟩).elim
      · exact kind_eq_of_denotes also denotes otherChosen chosen

/-- The declared parameters are the required ones and the fixed ones. -/
theorem contains_parameters_iff : (assembled name r s declared).parameters.contains x = true ↔
    r.Denotes (assembled name r s declared) x .required ∨
      r.Denotes (assembled name r s declared) x .fixed := by
  rw [OrderedMap.contains_iff, assembled, mem_keys_parameters]
  simp only [Requirements.Denotes, envParameter, resourceNameParameter]
  grind

/-- Every name that the platform knows or the template declares denotes something. -/
theorem exists_denotes_of_names (named : Template.OfPlatform x ∨
      (assembled name r s declared).Names x) :
    ∃ kind, r.Denotes (assembled name r s declared) x kind := by
  rcases named with ofPlatform | parameter | resource
  · exact ⟨.platform, ofPlatform⟩
  · rcases contains_parameters_iff.mp parameter with required | fixed
    · exact ⟨.required, required⟩
    · exact ⟨.fixed, fixed⟩
  · exact ⟨.resource, resource⟩

/-- In a grounded template every name that is mentioned denotes something. -/
theorem exists_denotes_of_mentions (grounded : (assembled name r s declared).Grounded)
    (mentions : (assembled name r s declared).Mentions x) :
    ∃ kind, r.Denotes (assembled name r s declared) x kind := by
  obtain ⟨body, member, reference | ⟨text, under, read, dotFree⟩⟩ := mentions
  · exact exists_denotes_of_names (grounded.refs body member x reference)
  · have named := grounded.placeholders body member text under x read
    rw [baseName_eq_self dotFree] at named
    exact exists_denotes_of_names named

end Assembled

/-- A fixed parameter is reported as overriding exactly if its name was declared. -/
theorem fixedParameterOverrides_mem_parameters_iff (name : String) {r : Requirements}
    {x : String} :
    .fixedParameterOverrides x ∈ (parameters name r).2 ↔
      (∃ p ∈ r.parameters, p.name = x) ∧ (x = envParameter ∨ x = resourceNameParameter) := by
  have apart : resourceNameParameter ≠ envParameter := by decide
  have redeclared : .fixedParameterOverrides x ∉ (declare .empty r.parameters.eraseDups).2 := by
    intro member
    obtain ⟨_, _, _, other⟩ := exists_eq_of_mem_declare member
    cases other
  have written : .fixedParameterOverrides x ∈ (parameters name r).2 ↔
      ((∃ p ∈ r.parameters, p.name = envParameter) ∧ x = envParameter) ∨
        (∃ p ∈ r.parameters, p.name = resourceNameParameter) ∧ x = resourceNameParameter := by
    simp [parameters, declareFixed, redeclared, OrderedMap.contains_iff,
      OrderedMap.mem_keys_insert, mem_keys_declare_iff, apart]
  rw [written]
  constructor
  · rintro (⟨required, rfl⟩ | ⟨required, rfl⟩)
    · exact ⟨required, .inl rfl⟩
    · exact ⟨required, .inr rfl⟩
  · rintro ⟨required, rfl | rfl⟩
    · exact .inl ⟨required, rfl⟩
    · exact .inr ⟨required, rfl⟩

/-- Compilation reports a fixed parameter as overriding exactly if its name was declared. -/
theorem fixedParameterOverrides_mem_iff {name : String} {r : Requirements} {s : Settings}
    {t : Template} (compiled : (compile name r s).result = .ok t) {x : String} :
    .fixedParameterOverrides x ∈ (compile name r s).notices ↔
      (∃ p ∈ r.parameters, p.name = x) ∧ (x = envParameter ∨ x = resourceNameParameter) := by
  have overwritten : .fixedParameterOverrides x ∉ (environment r).2 := by
    intro member
    obtain ⟨_, other⟩ := exists_eq_of_mem_addVariables member
    cases other
  rw [notices_of_compile compiled, ← fixedParameterOverrides_mem_parameters_iff name]
  simp [overwritten]

end Compilation

/-- **What names stand for.** Every name that a template mentions stands for something, and for one
thing unless the function requires a parameter of that name that is something else as well. -/
theorem sortsNames_of_compile {name : String} {r : Requirements} {s : Settings} {t : Template}
    (compiled : (compile name r s).result = .ok t) :
    r.SortsNames name t (compile name r s).notices := by
  have overridden : ∀ x, .fixedParameterOverrides x ∈ (compile name r s).notices ↔ _ :=
    fun x => fixedParameterOverrides_mem_iff compiled
  obtain ⟨_, _, declared, collected, rfl, closed⟩ := compile_eq_ok_iff.mp compiled
  have grounded := grounded_assembled collected closed
  exact {
    declared := fun _ => contains_parameters_iff
    ofReference := fun a member => ⟨a.toParameter, Requirements.toParameter_mem member, rfl⟩
    mentioned := fun _ mentions => exists_denotes_of_mentions grounded mentions
    apart := fun _ _ _ first second => kind_eq_of_denotes first second
    unique := fun _ _ denotes => existsUnique_denotes_iff denotes
    env := get?_parameters name r envParameter
    baseName := get?_parameters name r resourceNameParameter
    overridden := overridden }

/-- A parameter with the name of a resource, and a reference that takes a fixed parameter. -/
def borrowedNames : Requirements where
  environment := [.parameter "FUNCTION" ⟨"LambdaFunction", none⟩,
    .resourceOutput "STAGE" ⟨"e", "n", "v"⟩]

theorem compile_borrowedNames : ∃ t, (compile "f" borrowedNames {}).result = .ok t :=
  Compilation.exists_ok_of_isSome (by decide +kernel)

/-- A parameter that borrows the identifier of the function resource makes this name denote two
things. -/
theorem denotes_borrowedNames {t : Template}
    (compiled : (compile "f" borrowedNames {}).result = .ok t) :
    borrowedNames.Denotes t functionId .required ∧ borrowedNames.Denotes t functionId .resource ∧
      t.Mentions functionId := by
  obtain ⟨_, _, declared, _, rfl, _⟩ := compile_eq_ok_iff.mp compiled
  refine ⟨⟨⟨"LambdaFunction", none⟩, by decide, rfl⟩, ?_, ?_⟩
  · rw [Requirements.Denotes, OrderedMap.contains, assembled, get?_functionId]
    rfl
  · refine ⟨(Expr.ref functionId).toJson, ?_, .inl ⟨_, .whole, List.mem_singleton.mpr rfl⟩⟩
    have output : ("Name", OutputDecl.mk (.ref functionId)) ∈ outputs.entries := by decide
    exact List.mem_append_right _ (List.mem_map.mpr ⟨_, output, rfl⟩)

/-- The name of the function stands for two things here and that of the base for one; the reference
loses its parameter to the fixed one, with a warning. -/
theorem sortsNames_borrowedNames : ∃ t, (compile "f" borrowedNames {}).result = .ok t ∧
    (¬ ∃! kind, borrowedNames.Denotes t functionId kind) ∧
    (∃! kind, borrowedNames.Denotes t resourceNameParameter kind) ∧
    .fixedParameterOverrides envParameter ∈ (compile "f" borrowedNames {}).notices := by
  obtain ⟨t, compiled⟩ := compile_borrowedNames
  obtain ⟨required, resource, _⟩ := denotes_borrowedNames compiled
  have sorted := sortsNames_of_compile compiled
  refine ⟨t, compiled, fun unique => ?_, ?_, ?_⟩
  · exact (sorted.unique _ _ required).mp unique ⟨required, .resource, by decide, resource⟩
  · refine (sorted.unique resourceNameParameter .fixed (.inr rfl)).mpr ?_
    rintro ⟨⟨p, member, same⟩, _⟩
    revert p
    decide
  · exact (sorted.overridden envParameter).mpr
      ⟨sorted.ofReference ⟨"e", "n", "v"⟩ (by decide), .inl rfl⟩

/-- Parameters can have the names of resources, references can take fixed parameters, and a name
that is mentioned can stand for two things. -/
theorem not_unique_of_compile :
    (¬ ∀ name r s t, (compile name r s).result = .ok t →
      ∀ x, t.parameters.contains x = true → t.resources.contains x = false) ∧
    (¬ ∀ name r s t, (compile name r s).result = .ok t → ∀ a ∈ r.allReferences,
      a.parameterName ≠ envParameter ∧ a.parameterName ≠ resourceNameParameter) ∧
    ¬ ∀ name r s t, (compile name r s).result = .ok t →
      ∀ x, t.Mentions x → ∃! kind, r.Denotes t x kind := by
  obtain ⟨t, compiled⟩ := compile_borrowedNames
  obtain ⟨required, resource, mentioned⟩ := denotes_borrowedNames compiled
  refine ⟨fun separate => ?_, fun separate => ?_, fun unique => ?_⟩
  · have parameter : t.parameters.contains functionId = true := by
      obtain ⟨_, _, declared, _, rfl, _⟩ := compile_eq_ok_iff.mp compiled
      exact contains_parameters_iff.mpr (.inl required)
    exact Bool.false_ne_true ((separate _ _ _ t compiled functionId parameter).symm.trans resource)
  · exact (separate _ _ _ t compiled ⟨"e", "n", "v"⟩ (by decide)).1 (by decide)
  · obtain ⟨kind, _, only⟩ := unique _ _ _ t compiled functionId mentioned
    cases (only .required required).trans (only .resource resource).symm

end Stackwright

import Mathlib.Data.List.Nodup
import Stackwright.Proofs.Reference.Discovery
import Stackwright.Proofs.Validation.Outcome

/-!
# Which error is reported

Compiling checks permissions, then the parameters of references, then the guards of coalesced
variables, and last the names that are used. The first check that fails decides, and within a check
the first offender in the order of the definition (`error_of_compile`). Each check walks its list
once; what it has seen so far is free of offenders, which carries the inductions here.
-/

namespace Stackwright

open Compilation

/-- The permission is of the kind, should list actions and lists none. -/
def Permission.LacksActionsAs (p : Permission) (kind : String) : Prop :=
  (kind = "table" ∧ ∃ host, p = .table host []) ∨
    (kind = "user_pool" ∧ ∃ pool, p = .userPool pool []) ∨
    (kind = "iam_action" ∧ ∃ resources, p = .iamAction [] resources)

/-- The permission should list actions and lists none. -/
def Permission.LacksActions (p : Permission) : Prop := ∃ kind, p.LacksActionsAs kind

/-- The check finds no actions exactly if the permission lacks them. -/
theorem Permission.hasNoActions_iff {p : Permission} : p.hasNoActions = true ↔ p.LacksActions := by
  cases p <;> simp [hasNoActions, LacksActions, LacksActionsAs]

/-- A permission without actions is named by its position, counted from one, and its kind. -/
theorem Permission.LacksActionsAs.label_eq {p : Permission} {kind : String}
    (lacks : p.LacksActionsAs kind) (i : Nat) :
    p.label i = "permission #" ++ toString (i + 1) ++ " (" ++ kind ++ ")" := by
  rcases lacks with ⟨rfl, _, rfl⟩ | ⟨rfl, _, rfl⟩ | ⟨rfl, _, rfl⟩ <;> rfl

namespace Requirements

/-- Of the permissions that lack actions, `p` is the first, and it is of the kind; those in `before`
stand before it. -/
def LacksActionsFirst (r : Requirements) (before : List Permission) (p : Permission)
    (kind : String) : Prop :=
  ∃ after, r.permissions = before ++ p :: after ∧ p.LacksActionsAs kind ∧
    ∀ earlier ∈ before, ¬ earlier.LacksActions

end Requirements

namespace Compilation

/-- No permission is found exactly if none lacks actions. -/
theorem firstWithoutActions_eq_none_iff_lacksActions {permissions : List Permission} :
    firstWithoutActions permissions = none ↔ ∀ p ∈ permissions, ¬ p.LacksActions := by
  simp only [firstWithoutActions_eq_none_iff, ← Permission.hasNoActions_iff, Bool.not_eq_true]

/-- The permission that is found is the first that lacks actions, and the error names it. -/
theorem firstWithoutActions_eq_some {r : Requirements} {error : CompileError}
    (found : firstWithoutActions r.permissions = some error) :
    ∃ before p kind, r.LacksActionsFirst before p kind ∧ error =
      .emptyActions ("permission #" ++ toString (before.length + 1) ++ " (" ++ kind ++ ")") := by
  obtain ⟨⟨p, i⟩, first, rfl⟩ := Option.map_eq_some_iff.mp found
  obtain ⟨empty, before, after, split, fine⟩ := List.find?_eq_some_iff_append.mp first
  obtain ⟨kind, lacks⟩ := Permission.hasNoActions_iff.mp empty
  have listed : r.permissions = before.map Prod.fst ++ p :: after.map Prod.fst := by
    have names := congrArg (List.map Prod.fst) split
    rwa [List.zipIdx_map_fst, List.map_append, List.map_cons] at names
  have position : i = before.length := by
    have numbers := congrArg (fun entries => (entries.map Prod.snd)[before.length]?) split
    have inside : before.length < r.permissions.length := by simp [listed]
    simpa [inside] using numbers.symm
  refine ⟨before.map Prod.fst, p, kind, ⟨after.map Prod.fst, listed, lacks, ?_⟩, ?_⟩
  · intro earlier member
    obtain ⟨entry, present, rfl⟩ := List.mem_map.mp member
    rw [← Permission.hasNoActions_iff]
    simpa using fine entry present
  · rw [position, List.length_map, ← lacks.label_eq]

end Compilation

namespace Requirements

/-- Of the discovered references, `later` is the first whose parameter is taken, by `earlier`. -/
def SharesParameterFirst (r : Requirements) (earlier later : Reference) : Prop :=
  ∃ before after, r.references = before ++ later :: after ∧
    (before.map Reference.parameterName).Nodup ∧ earlier ∈ before ∧
    earlier.parameterName = later.parameterName

end Requirements

namespace Compilation

/-- Distinct references have distinct names exactly if they are separate. -/
theorem nodup_parameterNames_iff {references : List Reference} (distinct : references.Nodup) :
    (references.map Reference.parameterName).Nodup ↔ NamesSeparate references :=
  List.nodup_map_iff_inj_on distinct

/-- A collision is reported at the first reference that is not kept apart from those taken. -/
theorem referenceCollision_eq_some {taken references : List Reference} {error : CompileError}
    (separate : NamesSeparate taken) (found : referenceCollision taken references = some error) :
    ∃ between earlier later after, references = between ++ later :: after ∧
      NamesSeparate (taken ++ between) ∧ earlier ∈ taken ++ between ∧
      earlier.parameterName = later.parameterName ∧
      error = .parameterNameCollision later.parameterName earlier.key later.key := by
  induction references generalizing taken with
  | nil => simp [referenceCollision] at found
  | cons r rest ih =>
    unfold referenceCollision at found
    split at found
    · rename_i earlier first
      have member : earlier ∈ taken := List.mem_of_find?_eq_some first
      split at found
      · rename_i same
        subst same
        obtain ⟨between, first, later, after, split, apart, holds, shared, rfl⟩ :=
          ih separate found
        refine ⟨earlier :: between, first, later, after, by rw [split, List.cons_append], ?_,
          (mem_append_cons_iff_of_mem member).mpr holds, shared, rfl⟩
        simpa only [NamesSeparate, mem_append_cons_iff_of_mem member] using apart
      · rename_i different
        cases found
        refine ⟨[], earlier, r, rest, rfl, by rwa [List.append_nil], by rwa [List.append_nil],
          ?_, rfl⟩
        simpa using List.find?_some first
    · rename_i absent
      have free : ∀ a ∈ taken, a.parameterName ≠ r.parameterName := by
        intro a member
        simpa using List.find?_eq_none.mp absent a member
      obtain ⟨between, earlier, later, after, split, apart, member, shared, rfl⟩ :=
        ih (namesSeparate_append_singleton separate free) found
      rw [List.append_assoc, List.singleton_append] at apart member
      exact ⟨r :: between, earlier, later, after, by rw [split, List.cons_append], apart, member,
        shared, rfl⟩

/-- The collision that is found is the first: no reference before the later one shares a name. -/
theorem sharesParameterFirst_of_collision {r : Requirements} {error : CompileError}
    (found : referenceCollision [] r.references = some error) :
    ∃ earlier later, r.SharesParameterFirst earlier later ∧
      error = .parameterNameCollision later.parameterName earlier.key later.key := by
  have none_taken : NamesSeparate [] := fun _ absent => (List.not_mem_nil absent).elim
  obtain ⟨before, earlier, later, after, split, apart, member, shared, rfl⟩ :=
    referenceCollision_eq_some none_taken found
  have distinct : before.Nodup :=
    (split ▸ r.nodup_references).sublist (List.sublist_append_left _ _)
  exact ⟨earlier, later, ⟨before, after, split, (nodup_parameterNames_iff distinct).mpr apart,
    member, shared⟩, rfl⟩

end Compilation

/-- The name under which the variable is coalesced, if it is. -/
def Variable.coalescedAs : Variable → Option String
  | .coalesced name _ _ => some name
  | _ => none

/-- The first of several variables that is coalesced under the name. -/
def firstCoalesced (vs : List Variable) (name : String) : Option Variable :=
  vs.find? fun v => decide (v.coalescedAs = some name)

/-- Variables that are coalesced under one name are the same. -/
def CoalescedAgree (vs : List Variable) : Prop :=
  ∀ a ∈ vs, ∀ b ∈ vs, ∀ name, a.coalescedAs = some name → b.coalescedAs = some name → a = b

/-- Of the variables, `v` is the first that differs from the first one coalesced under its name. -/
def Requirements.DiffersFirst (r : Requirements) (name : String) (v : Variable) : Prop :=
  ∃ before after owner, r.environment = before ++ v :: after ∧ CoalescedAgree before ∧
    v.coalescedAs = some name ∧ firstCoalesced before name = some owner ∧ owner ≠ v

/-- The first variable coalesced under a name is in the list and coalesced under the name. -/
theorem mem_and_coalescedAs_of_firstCoalesced {vs : List Variable} {name : String} {v : Variable}
    (first : firstCoalesced vs name = some v) : v ∈ vs ∧ v.coalescedAs = some name :=
  ⟨List.mem_of_find?_eq_some first, by simpa using List.find?_some first⟩

/-- A variable at the end comes first only where no earlier one is coalesced under the name. -/
theorem firstCoalesced_append_singleton (vs : List Variable) (v : Variable) (name : String) :
    firstCoalesced (vs ++ [v]) name =
      (firstCoalesced vs name).or (if v.coalescedAs = some name then some v else none) := by
  rw [firstCoalesced, List.find?_append, firstCoalesced]
  by_cases same : v.coalescedAs = some name <;> simp [same]

/-- One more variable agrees with the others if it is the one that they have under its name. -/
theorem CoalescedAgree.append_singleton {vs : List Variable} {v : Variable}
    (agree : CoalescedAgree vs)
    (own : ∀ name owner, v.coalescedAs = some name → firstCoalesced vs name = some owner →
      owner = v) : CoalescedAgree (vs ++ [v]) := by
  have equal : ∀ a ∈ vs, ∀ name, a.coalescedAs = some name → v.coalescedAs = some name → a = v := by
    intro a member name ofA ofV
    have present : (firstCoalesced vs name).isSome = true :=
      List.find?_isSome.mpr ⟨a, member, decide_eq_true ofA⟩
    obtain ⟨owner, first⟩ := Option.isSome_iff_exists.mp present
    obtain ⟨inside, named⟩ := mem_and_coalescedAs_of_firstCoalesced first
    exact (agree a member owner inside name ofA named).trans (own name owner ofV first)
  intro a ofA b ofB name namedA namedB
  simp only [List.mem_append, List.mem_singleton] at ofA ofB
  rcases ofA with ofA | rfl
  · rcases ofB with ofB | rfl
    · exact agree a ofA b ofB name namedA namedB
    · exact equal a ofA name namedA namedB
  · rcases ofB with ofB | rfl
    · exact (equal b ofB name namedB namedA).symm
    · rfl

namespace Compilation

/-- The owner of each condition is the first variable coalesced under its name. -/
def Owned (owners : List (String × Variable)) (vs : List Variable) : Prop :=
  ∀ name, findEntry (Variable.conditionName name) owners = firstCoalesced vs name

/-- Different names have different conditions. -/
theorem conditionName_injective {a b : String}
    (same : Variable.conditionName a = Variable.conditionName b) : a = b :=
  (String.append_right_inj _).mp same

/-- A claim on one condition is granted if it is free or already claimed by an equal variable. -/
theorem claim_singleton (v : Variable) (owners : List (String × Variable))
    (declared : OrderedMap String Expr) (condition : String) (guard : Expr) :
    guards.claim v owners declared [(condition, guard)] =
      match findEntry condition owners with
      | some owner =>
        if owner = v then .ok (owners, declared.insert condition guard)
        else .error (.conditionCollision condition v.name)
      | none => .ok (setEntry condition v owners, declared.insert condition guard) := by
  unfold guards.claim
  rfl

/-- A variable that owns its condition already leaves the owners as they are. -/
theorem Owned.append_owner {owners : List (String × Variable)} {vs : List Variable}
    (owned : Owned owners vs) {v : Variable}
    (own : ∀ name, v.coalescedAs = some name → firstCoalesced vs name = some v) :
    Owned owners (vs ++ [v]) := by
  intro name
  rw [firstCoalesced_append_singleton, owned name]
  by_cases named : v.coalescedAs = some name
  · rw [own name named, Option.some_or]
  · rw [if_neg named, Option.or_none]

/-- A variable whose condition is free becomes its owner. -/
theorem Owned.append_fresh {owners : List (String × Variable)} {vs : List Variable}
    (owned : Owned owners vs) {v : Variable} {name : String} (named : v.coalescedAs = some name)
    (fresh : firstCoalesced vs name = none) :
    Owned (setEntry (Variable.conditionName name) v owners) (vs ++ [v]) := by
  intro other
  rw [firstCoalesced_append_singleton]
  by_cases same : other = name
  · rw [same, findEntry_setEntry_self, fresh, if_pos named, Option.none_or]
  · have apart : Variable.conditionName other ≠ Variable.conditionName name :=
      fun equal => same (conditionName_injective equal)
    have elsewhere : v.coalescedAs ≠ some other := by
      rw [named]
      exact fun equal => same (Option.some.inj equal).symm
    rw [findEntry_setEntry_of_ne apart, owned other, if_neg elsewhere, Option.or_none]

/-- A variable claims its condition, or it differs from the one that owns the condition. -/
theorem claim_cases {owners : List (String × Variable)} {before : List Variable}
    (owned : Owned owners before) (v : Variable) (declared : OrderedMap String Expr) :
    (∃ owners' declared',
        guards.claim v owners declared v.conditions = .ok (owners', declared') ∧
        Owned owners' (before ++ [v]) ∧ ∀ name owner, v.coalescedAs = some name →
          firstCoalesced before name = some owner → owner = v) ∨
      ∃ name owner, v.coalescedAs = some name ∧ firstCoalesced before name = some owner ∧
        owner ≠ v ∧ guards.claim v owners declared v.conditions =
          .error (.conditionCollision (Variable.conditionName name) name) := by
  cases named : v.coalescedAs with
  | none =>
    have unguarded : v.conditions = [] := by
      cases v with
      | coalesced name first second => cases named
      | _ => rfl
    refine .inl ⟨owners, declared, by rw [unguarded, guards.claim], ?_,
      fun _ _ other => by cases other⟩
    exact owned.append_owner fun name other => by rw [named] at other; cases other
  | some name =>
    obtain ⟨first, second, rfl⟩ : ∃ first second, v = .coalesced name first second := by
      cases v <;> cases named
      exact ⟨_, _, rfl⟩
    have claims := claim_singleton (.coalesced name first second) owners declared
      (Variable.conditionName name) (.not [.equals first.expr (.literal "")])
    rw [owned name] at claims
    cases holder : firstCoalesced before name with
    | none =>
      rw [holder] at claims
      refine .inl ⟨_, _, claims, owned.append_fresh rfl holder, ?_⟩
      rintro _ owner ⟨⟩ taken
      rw [holder] at taken
      cases taken
    | some owner =>
      rw [holder] at claims
      dsimp only at claims
      by_cases own : owner = .coalesced name first second
      · rw [if_pos own] at claims
        refine .inl ⟨_, _, claims, owned.append_owner ?_, ?_⟩
        · rintro _ ⟨⟩
          rw [holder, own]
        · rintro _ other ⟨⟩ taken
          rw [holder] at taken
          exact (Option.some.inj taken).symm.trans own
      · rw [if_neg own] at claims
        exact .inr ⟨name, owner, rfl, holder, own, claims⟩

/-- A collision of guards is reported at the first variable that differs from the first one of its
name. -/
theorem guards_eq_error {owners : List (String × Variable)} {before vs : List Variable}
    {declared : OrderedMap String Expr} {error : CompileError} (owned : Owned owners before)
    (agree : CoalescedAgree before) (failed : guards owners declared vs = .error error) :
    ∃ between v after name owner, vs = between ++ v :: after ∧
      CoalescedAgree (before ++ between) ∧ v.coalescedAs = some name ∧
      firstCoalesced (before ++ between) name = some owner ∧ owner ≠ v ∧
      error = .conditionCollision (Variable.conditionName name) name := by
  induction vs generalizing owners before declared with
  | nil => cases failed
  | cons v rest ih =>
    unfold guards at failed
    rcases claim_cases owned v declared with
      ⟨owners', declared', claimed, owned', own⟩ | ⟨name, owner, named, first, differs, claimed⟩
    · simp only [claimed, bind, Except.bind] at failed
      obtain ⟨between, later, after, name, owner, rfl, agree', named, first, differs, rfl⟩ :=
        ih owned' (agree.append_singleton own) failed
      rw [List.append_assoc, List.singleton_append] at agree' first
      exact ⟨v :: between, later, after, name, owner, rfl, agree', named, first, differs, rfl⟩
    · simp only [claimed, bind, Except.bind, Except.error.injEq] at failed
      exact ⟨[], v, rest, name, owner, rfl, by rwa [List.append_nil], named,
        by rwa [List.append_nil], differs, failed.symm⟩

/-- The conditions fail for the first variable that differs from one before it. -/
theorem differsFirst_of_conditions {r : Requirements} {error : CompileError}
    (failed : conditions r = .error error) : ∃ name v, r.DiffersFirst name v ∧
      error = .conditionCollision (Variable.conditionName name) name := by
  unfold conditions at failed
  cases guarded :
    guards [] (.ofList (r.permissions.flatMap Permission.conditions)) r.environment with
  | error reason =>
    simp only [guarded, bind, Except.bind, Except.error.injEq] at failed
    have unowned : Owned [] [] := fun _ => rfl
    have none_before : CoalescedAgree [] := fun _ absent => (List.not_mem_nil absent).elim
    obtain ⟨before, v, after, name, owner, split, agree, named, first, differs, rfl⟩ :=
      guards_eq_error unowned none_before guarded
    exact ⟨name, v, ⟨before, after, owner, split, agree, named, first, differs⟩, failed.symm⟩
  | ok all => simp [guarded, bind, Except.bind, pure, Except.pure] at failed

/-- Where conditions are collected, coalesced variables agree. -/
theorem coalescedAgree_of_conditions {r : Requirements} {declared : OrderedMap String Expr}
    (collected : conditions r = .ok declared) : CoalescedAgree r.environment := by
  have guarded : ∀ v : Variable, ∀ name, v.coalescedAs = some name →
      Variable.conditionName name ∈ v.conditions.map Prod.fst := by
    intro v name named
    cases v <;> cases named
    simp [Variable.conditions]
  intro a ofA b ofB name namedA namedB
  exact (conditions_ok collected).2 a ofA b ofB _ (guarded a name namedA) (guarded b name namedB)

/-- The guards are collected exactly if coalesced variables of one name are the same. -/
theorem exists_conditions_iff {r : Requirements} :
    (∃ declared, conditions r = .ok declared) ↔ CoalescedAgree r.environment := by
  refine ⟨fun ⟨_, collected⟩ => coalescedAgree_of_conditions collected, fun agree => ?_⟩
  cases collected : conditions r with
  | ok declared => exact ⟨declared, rfl⟩
  | error reason =>
    obtain ⟨name, v, ⟨before, after, owner, split, _, named, first, differs⟩, _⟩ :=
      differsFirst_of_conditions collected
    obtain ⟨inside, sameName⟩ := mem_and_coalescedAs_of_firstCoalesced first
    rw [split] at agree
    exact (differs (agree owner (List.mem_append_left _ inside) v (by simp) name sameName
      named)).elim

/-- **When compiling succeeds.** Neither the name of the function nor its settings matter. -/
theorem succeeds_iff {name : String} {r : Requirements} {s : Settings} :
    (compile name r s).Succeeds ↔ (∀ p ∈ r.permissions, p.hasNoActions = false) ∧
      NamesSeparate r.references ∧ CoalescedAgree r.environment ∧
      ∀ x, r.Reads x → Template.OfPlatform x ∨ r.Names (baseName x) := by
  constructor
  · rintro ⟨t, compiled⟩
    obtain ⟨listed, separate, declared, collected, _⟩ := compile_eq_ok_iff.mp compiled
    refine ⟨listed, separate, coalescedAgree_of_conditions collected, ?_⟩
    have outcome : (compile name r s).Collides ∨ _ := outcome_of_listed listed
    rcases outcome with ⟨error, failed, _⟩ | ⟨_, resolved⟩ | ⟨x, ⟨location, failed⟩, _⟩
    · cases failed.symm.trans compiled
    · exact resolved
    · cases failed.symm.trans compiled
  · rintro ⟨listed, separate, agree, resolved⟩
    obtain ⟨declared, collected⟩ := exists_conditions_iff.mpr agree
    have result : (compile name r s).result = _ := compile_result_eq
      ((firstWithoutActions_eq_none_iff _).mpr listed)
      (referenceCollision_nil_eq_none_iff.mpr separate) collected
    rcases outcome_of_checked collected result with ⟨succeeds, _⟩ | ⟨x, _, read, unresolved⟩
    · exact succeeds
    · exact (unresolved (resolved x read)).elim

end Compilation

/-- **Which error is reported.** The first permission that lacks actions; else the first reference
whose parameter is taken; else the first variable that differs from the one coalesced under its
name; else, if anything, a name that nothing declares. -/
theorem error_of_compile (name : String) (r : Requirements) (s : Settings) :
    (∃ before p kind, r.LacksActionsFirst before p kind ∧ (compile name r s).result =
        .error (.emptyActions
          ("permission #" ++ toString (before.length + 1) ++ " (" ++ kind ++ ")"))) ∨
      (∀ p ∈ r.permissions, ¬ p.LacksActions) ∧
      ((∃ earlier later, r.SharesParameterFirst earlier later ∧ (compile name r s).result =
          .error (.parameterNameCollision later.parameterName earlier.key later.key)) ∨
        (r.references.map Reference.parameterName).Nodup ∧
        ((∃ x v, r.DiffersFirst x v ∧ (compile name r s).result =
            .error (.conditionCollision ("FirstNotEmpty_" ++ x) x)) ∨
          CoalescedAgree r.environment ∧
          ((compile name r s).Succeeds ∨ ∃ x, (compile name r s).LeavesOpen x))) := by
  cases listed : firstWithoutActions r.permissions with
  | some error =>
    obtain ⟨before, p, kind, first, rfl⟩ := firstWithoutActions_eq_some listed
    exact .inl ⟨before, p, kind, first, by simp [compile, listed]⟩
  | none =>
    refine .inr ⟨firstWithoutActions_eq_none_iff_lacksActions.mp listed, ?_⟩
    cases separate : referenceCollision [] r.references with
    | some error =>
      obtain ⟨earlier, later, first, rfl⟩ := sharesParameterFirst_of_collision separate
      exact .inl ⟨earlier, later, first, by simp [compile, listed, separate]⟩
    | none =>
      refine .inr ⟨(nodup_parameterNames_iff r.nodup_references).mpr
        (referenceCollision_nil_eq_none_iff.mp separate), ?_⟩
      cases collected : conditions r with
      | error reason =>
        obtain ⟨x, v, first, rfl⟩ := differsFirst_of_conditions collected
        exact .inl ⟨x, v, first,
          by simp [compile, listed, separate, collected, Variable.conditionName]⟩
      | ok declared =>
        refine .inr ⟨coalescedAgree_of_conditions collected, ?_⟩
        have result : (compile name r s).result = _ := compile_result_eq listed separate collected
        rcases outcome_of_checked collected result with ⟨succeeds, _⟩ | ⟨x, leaves, _⟩
        · exact .inl succeeds
        · exact .inr ⟨x, leaves⟩

end Stackwright

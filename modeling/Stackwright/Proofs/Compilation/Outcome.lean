import Stackwright.Compilation

/-!
# Outcomes of compiling

Compiling passes through four checks: every permission lists an action, references take different
parameters, guards belong to one variable each, and the assembled template is closed. It succeeds
when all four pass (`compile_eq_ok_iff`), and each kind of error comes from one of them.
-/

namespace Stackwright

namespace Compilation

/-- No permission is found without actions exactly if each has some. -/
theorem firstWithoutActions_eq_none_iff (permissions : List Permission) :
    firstWithoutActions permissions = none ↔ ∀ p ∈ permissions, p.hasNoActions = false := by
  simp only [firstWithoutActions, Option.map_eq_none_iff, List.find?_eq_none, Bool.not_eq_true]
  constructor
  · intro passed p member
    obtain ⟨i, found⟩ := List.mem_iff_getElem?.mp member
    exact passed (p, i) (List.mem_zipIdx_iff_getElem?.mpr found)
  · intro passed entry member
    exact passed entry.1 (List.mem_of_getElem? (List.mem_zipIdx_iff_getElem?.mp member))

/-- The search for a permission without actions has one kind of error. -/
theorem firstWithoutActions_error {permissions : List Permission} {error : CompileError}
    (found : firstWithoutActions permissions = some error) :
    ∃ label, error = .emptyActions label := by
  obtain ⟨⟨p, i⟩, _, same⟩ := Option.map_eq_some_iff.mp found
  exact ⟨p.label i, same.symm⟩

/-- References that take the same parameter are the same. -/
def NamesSeparate (references : List Reference) : Prop :=
  ∀ a ∈ references, ∀ b ∈ references, a.parameterName = b.parameterName → a = b

/-- Of references whose parameters are told apart, one more may take only a parameter of its own. -/
theorem namesSeparate_append_singleton {taken : List Reference} {r : Reference}
    (separate : NamesSeparate taken) (free : ∀ a ∈ taken, a.parameterName ≠ r.parameterName) :
    NamesSeparate (taken ++ [r]) := by
  intro a first b second same
  simp only [List.mem_append, List.mem_singleton] at first second
  rcases first with first | rfl
  · rcases second with second | rfl
    · exact separate a first b second same
    · exact (free a first same).elim
  · rcases second with second | rfl
    · exact (free b second same.symm).elim
    · rfl

/-- An item that is there already adds nothing. -/
theorem mem_append_cons_iff_of_mem {α : Type} {taken rest : List α} {item a : α}
    (member : item ∈ taken) : a ∈ taken ++ item :: rest ↔ a ∈ taken ++ rest := by
  simp only [List.mem_append, List.mem_cons]
  constructor
  · rintro (before | rfl | after)
    · exact .inl before
    · exact .inl member
    · exact .inr after
  · exact Or.imp_right .inr

/-- The check keeps the parameters of the references it has taken apart; it passes when those to
come can be added to them. -/
theorem referenceCollision_eq_none_iff {taken references : List Reference}
    (separate : NamesSeparate taken) :
    referenceCollision taken references = none ↔ NamesSeparate (taken ++ references) := by
  induction references generalizing taken with
  | nil => simpa [referenceCollision] using separate
  | cons r rest ih =>
    unfold referenceCollision
    split
    · rename_i earlier found
      have member : earlier ∈ taken := List.mem_of_find?_eq_some found
      have same : earlier.parameterName = r.parameterName := by simpa using List.find?_some found
      by_cases equal : earlier = r
      · subst equal
        simp only [↓reduceIte, ih separate, NamesSeparate, mem_append_cons_iff_of_mem member]
      · simp only [equal, ↓reduceIte, reduceCtorEq, false_iff]
        intro all
        exact equal (all earlier (List.mem_append_left _ member) r (by simp) same)
    · rename_i absent
      have free : ∀ a ∈ taken, a.parameterName ≠ r.parameterName := by
        intro a member
        simpa using List.find?_eq_none.mp absent a member
      rw [ih (namesSeparate_append_singleton separate free), List.append_assoc,
        List.singleton_append]

/-- No collision is found exactly if different references have different names. -/
theorem referenceCollision_nil_eq_none_iff {references : List Reference} :
    referenceCollision [] references = none ↔ NamesSeparate references :=
  referenceCollision_eq_none_iff fun _ member => by cases member

/-- The search for a collision of references has one kind of error. -/
theorem referenceCollision_error {taken references : List Reference} {error : CompileError}
    (found : referenceCollision taken references = some error) :
    ∃ parameter first second, error = .parameterNameCollision parameter first second := by
  induction references generalizing taken with
  | nil => simp [referenceCollision] at found
  | cons r rest ih =>
    unfold referenceCollision at found
    split at found
    · rename_i earlier _
      split at found
      · exact ih found
      · exact ⟨r.parameterName, earlier.key, r.key, (Option.some.inj found).symm⟩
    · exact ih found

/-- A claim on conditions fails for a collision of the claiming variable only. -/
theorem claim_error {v : Variable} {owners : List (String × Variable)}
    {declared : OrderedMap String Expr} {pairs : List (String × Expr)} {error : CompileError}
    (failed : guards.claim v owners declared pairs = .error error) :
    ∃ condition, error = .conditionCollision condition v.name := by
  induction pairs generalizing owners declared with
  | nil => cases failed
  | cons pair rest ih =>
    obtain ⟨condition, guard⟩ := pair
    unfold guards.claim at failed
    split at failed
    · split at failed
      · exact ih failed
      · exact ⟨condition, (Except.error.inj failed).symm⟩
    · exact ih failed

theorem guards_error {owners : List (String × Variable)} {declared : OrderedMap String Expr}
    {vs : List Variable} {error : CompileError}
    (failed : guards owners declared vs = .error error) :
    ∃ condition variableName, error = .conditionCollision condition variableName := by
  induction vs generalizing owners declared with
  | nil => cases failed
  | cons v rest ih =>
    unfold guards at failed
    cases claimed : guards.claim v owners declared v.conditions with
    | error reason =>
      obtain ⟨condition, rfl⟩ := claim_error claimed
      simp only [claimed, bind, Except.bind, Except.error.injEq] at failed
      exact ⟨condition, v.name, failed.symm⟩
    | ok next =>
      simp only [claimed, bind, Except.bind] at failed
      exact ih failed

/-- The conditions fail for a collision only. -/
theorem conditions_error {r : Requirements} {error : CompileError}
    (failed : conditions r = .error error) :
    ∃ condition variableName, error = .conditionCollision condition variableName := by
  unfold conditions at failed
  cases guarded :
    guards [] (.ofList (r.permissions.flatMap Permission.conditions)) r.environment with
  | error reason =>
    simp only [guarded, bind, Except.bind, Except.error.injEq] at failed
    exact failed ▸ guards_error guarded
  | ok all => simp [guarded, bind, Except.bind, pure, Except.pure] at failed

/-- The template of a function, once its conditions are known. -/
def assembled (name : String) (r : Requirements) (s : Settings)
    (conditions : OrderedMap String Expr) : Template :=
  ⟨(parameters name r).1, conditions, resources (environment r).1 s r, outputs⟩

/-- A result that is some template is that template; the premise is found by computing. -/
theorem exists_ok_of_isSome {c : Compilation} (succeeds : c.result.toOption.isSome = true) :
    ∃ t, c.result = .ok t := by
  cases outcome : c.result with
  | error reason => simp [outcome, Except.toOption] at succeeds
  | ok t => exact ⟨t, rfl⟩

end Compilation

open Compilation

/-- Past the first three checks, the check of names decides about the assembled template. -/
theorem compile_result_eq {name : String} {r : Requirements} {s : Settings}
    {declared : OrderedMap String Expr} (listed : firstWithoutActions r.permissions = none)
    (separate : referenceCollision [] r.references = none)
    (collected : conditions r = .ok declared) :
    (compile name r s).result = (assembled name r s declared).firstOpen.elim
      (.ok (assembled name r s declared)) fun use => .error (.openName use) := by
  unfold compile
  simp only [listed, separate, collected, assembled]
  split <;> simp_all

/-- Compiling succeeds when all checks pass, and then yields the assembled template. -/
theorem compile_eq_ok_iff {name : String} {r : Requirements} {s : Settings} {t : Template} :
    (compile name r s).result = .ok t ↔
      (∀ p ∈ r.permissions, p.hasNoActions = false) ∧ NamesSeparate r.references ∧
        ∃ declared, conditions r = .ok declared ∧ t = assembled name r s declared ∧ t.Closed := by
  rw [← firstWithoutActions_eq_none_iff, ← referenceCollision_nil_eq_none_iff]
  cases listed : firstWithoutActions r.permissions with
  | some error => simp [compile, listed]
  | none =>
    cases separate : referenceCollision [] r.references with
    | some error => simp [compile, listed, separate]
    | none =>
      cases collected : conditions r with
      | error reason => simp [compile, listed, separate, collected]
      | ok declared =>
        rw [compile_result_eq listed separate collected]
        cases unresolved : (assembled name r s declared).firstOpen with
        | some use =>
          have opened : ¬ (assembled name r s declared).Closed := by
            rw [← Template.firstOpen_eq_none_iff, unresolved]
            exact Option.some_ne_none use
          simp only [Option.elim_some, reduceCtorEq, Except.ok.injEq, exists_eq_left', true_and,
            false_iff]
          rintro ⟨rfl, closed⟩
          exact opened closed
        | none =>
          have closed := (Template.firstOpen_eq_none_iff _).mp unresolved
          simp only [Option.elim_none, Except.ok.injEq, exists_eq_left', true_and]
          constructor
          · rintro rfl
            exact ⟨rfl, closed⟩
          · rintro ⟨same, _⟩
            exact same.symm

/-- A collision of parameters is reported when all permissions list an action and two references
take one parameter. -/
theorem compile_eq_parameterNameCollision_iff {name : String} {r : Requirements} {s : Settings} :
    (∃ parameter first second,
        (compile name r s).result = .error (.parameterNameCollision parameter first second)) ↔
      (∀ p ∈ r.permissions, p.hasNoActions = false) ∧ ¬ NamesSeparate r.references := by
  rw [← firstWithoutActions_eq_none_iff, ← referenceCollision_nil_eq_none_iff]
  unfold compile
  cases empty : firstWithoutActions r.permissions with
  | some error =>
    obtain ⟨label, rfl⟩ := firstWithoutActions_error empty
    simp
  | none =>
    cases collision : referenceCollision [] r.references with
    | some error =>
      obtain ⟨parameter, first, second, rfl⟩ := referenceCollision_error collision
      simp
    | none =>
      cases guarded : conditions r with
      | error reason =>
        obtain ⟨condition, variableName, rfl⟩ := conditions_error guarded
        simp
      | ok declared =>
        simp only [not_true_eq_false, and_false, iff_false]
        rintro ⟨parameter, first, second, failed⟩
        split at failed <;> cases failed

end Stackwright

import Mathlib.Data.List.FinRange
import Stackwright.Proofs.Compilation.Defaults
import Stackwright.Proofs.Compilation.ParameterNames
import Stackwright.Proofs.Compilation.Precedence

/-!
# Permissions in another order

Where a function compiles with its permissions in two orders, the templates differ in the order of
the granted statements and of the parameters only. Whether it compiles can depend on the order: the
check of parameters sees the references that are not hidden, and the order decides which of two
references with one key that is (`reordered_of_compile`, `not_succeeds_iff_of_reordered`).
-/

namespace Stackwright

open Compilation

namespace Requirements

/-- The function with its permissions in another order: at each place stands the permission that
the order names. -/
def reordered (r : Requirements) (order : Equiv.Perm (Fin r.permissions.length)) : Requirements :=
  { r with permissions := List.ofFn (r.permissions.get ∘ order) }

/-- The two have the same permissions, in whatever order, and the rest in common. -/
structure SameButOrder (r r' : Requirements) : Prop where
  permissions : r'.permissions.Perm r.permissions
  environment : r'.environment = r.environment
  eventSource : r'.eventSource = r.eventSource

/-- Reordered requirements are the same but for the order. -/
theorem sameButOrder_reordered (r : Requirements)
    (order : Equiv.Perm (Fin r.permissions.length)) : r.SameButOrder (r.reordered order) where
  permissions := by
    have shuffled := order.ofFn_comp_perm r.permissions.get
    rwa [List.ofFn_get] at shuffled
  environment := rfl
  eventSource := rfl

variable {r r' : Requirements}

namespace SameButOrder

theorem mem_permissions_iff (same : r.SameButOrder r') {p : Permission} :
    p ∈ r'.permissions ↔ p ∈ r.permissions :=
  same.permissions.mem_iff

/-- The order has no part in which parameters are required. -/
theorem mem_parameters_iff (same : r.SameButOrder r') {p : Parameter} :
    p ∈ r'.parameters ↔ p ∈ r.parameters := by
  simp only [parameters, List.mem_append, List.mem_flatMap, same.mem_permissions_iff,
    same.environment, same.eventSource]

theorem mem_allReferences_iff (same : r.SameButOrder r') {a : Reference} :
    a ∈ r'.allReferences ↔ a ∈ r.allReferences := by
  simp only [allReferences, List.mem_append, List.mem_flatMap, same.mem_permissions_iff,
    same.environment, same.eventSource]

/-- The order has no part in which names are read. -/
theorem reads_iff (same : r.SameButOrder r') {x : String} : r'.Reads x ↔ r.Reads x := by
  simp only [Reads, lastNamed, same.mem_permissions_iff, same.environment, same.eventSource]

theorem names_iff (same : r.SameButOrder r') {x : String} : r'.Names x ↔ r.Names x := by
  simp only [Names, same.mem_parameters_iff, same.eventSource]

end SameButOrder

/-- The check of parameters passes exactly if, of two references with one parameter, one is
hidden. -/
theorem namesSeparate_references_iff (r : Requirements) :
    NamesSeparate r.references ↔ ∀ a ∈ r.allReferences, ∀ b ∈ r.allReferences, a ≠ b →
      a.parameterName = b.parameterName → r.Hides a ∨ r.Hides b := by
  rw [← not_iff_not, not_namesSeparate_references_iff]
  simp only [not_forall, not_or, exists_prop]

end Requirements

namespace Template

/-- The second template is the first with the statements of the permissions in another order; only
as a map need it have the same parameters. -/
structure ReorderedBy {n : Nat} (t t' : Template) (order : Equiv.Perm (Fin n)) : Prop where
  conditions : t'.conditions = t.conditions
  outputs : t'.outputs = t.outputs
  parameters : ∀ x, t'.parameters.get? x = t.parameters.get? x
  ids : t'.resources.keys = t.resources.keys
  resources : ∀ id, id ≠ policyId → t'.resources.get? id = t.resources.get? id
  policy : ∃ granted : Fin n → PolicyStatement,
    t.resources.get? policyId =
      some (rolePolicy "lambda-execution-policy" (logStatement :: List.ofFn granted)) ∧
    t'.resources.get? policyId =
      some (rolePolicy "lambda-execution-policy" (logStatement :: List.ofFn (granted ∘ order)))

end Template

namespace Compilation

open Requirements

variable {name : String} {r r' : Requirements} {s : Settings}

/-- A function that compiles does so in another order if its parameters are still kept apart. -/
theorem succeeds_iff_of_sameButOrder (same : r.SameButOrder r')
    (succeeds : (compile name r s).Succeeds) :
    (compile name r' s).Succeeds ↔ NamesSeparate r'.references := by
  obtain ⟨listed, _, agree, resolved⟩ := succeeds_iff.mp succeeds
  rw [succeeds_iff]
  constructor
  · rintro ⟨_, separate, _⟩
    exact separate
  · intro separate
    refine ⟨fun p member => listed p (same.mem_permissions_iff.mp member), separate,
      same.environment ▸ agree, fun x read => ?_⟩
    rw [same.names_iff]
    exact resolved x (same.reads_iff.mp read)

/-- The order of permissions has no part in the conditions. -/
theorem conditions_of_sameButOrder (same : r.SameButOrder r') : conditions r' = conditions r := by
  have unguarded : ∀ permissions : List Permission,
      permissions.flatMap Permission.conditions = [] := fun permissions => by
    simp [Permission.conditions]
  rw [conditions, conditions, unguarded, unguarded, same.environment]

/-- Where defaults agree, the order has no part in how a parameter is declared. -/
theorem get?_parameters_of_defaultsAgree (agree : r.DefaultsAgree) (same : r.SameButOrder r')
    (x : String) : (parameters name r').1.get? x = (parameters name r).1.get? x := by
  rw [get?_parameters, get?_parameters]
  congr 2
  cases introduced : r.lastIntroduced x with
  | some p =>
    obtain ⟨⟨member, _⟩, named⟩ := introducedLast_of_lastIntroduced introduced
    obtain ⟨q, introduced'⟩ := exists_lastIntroduced (same.mem_parameters_iff.mpr member)
    obtain ⟨⟨member', _⟩, named'⟩ := introducedLast_of_lastIntroduced introduced'
    rw [named] at introduced' named'
    rw [introduced', Option.map_some, Option.map_some,
      agree q (same.mem_parameters_iff.mp member') p member (named'.trans named.symm)]
  | none =>
    cases introduced' : r'.lastIntroduced x with
    | none => rfl
    | some q =>
      obtain ⟨⟨member', _⟩, named'⟩ := introducedLast_of_lastIntroduced introduced'
      obtain ⟨p, found⟩ := exists_lastIntroduced (same.mem_parameters_iff.mp member')
      rw [named', introduced] at found
      cases found

/-- The order has no part in which resources there are. -/
theorem keys_resources_of_sameButOrder (same : r.SameButOrder r')
    (values : OrderedMap String Expr) :
    (resources values s r').keys = (resources values s r).keys := by
  rw [keys_resources, keys_resources, same.eventSource]

/-- The permissions reach the execution policy only. -/
theorem get?_resources_of_ne_policyId (same : r.SameButOrder r') (values : OrderedMap String Expr)
    {id : String} (other : id ≠ policyId) :
    (resources values s r').get? id = (resources values s r).get? id :=
  OrderedMap.get?_congr_of_without (without_policyId_resources values same.eventSource)
    (by simpa using other)

/-- The statements of the execution policy stand at the positions of their permissions, after the
one for logs. -/
theorem executionPolicy_eq (permissions : List Permission) :
    executionPolicy permissions = rolePolicy "lambda-execution-policy"
      (logStatement :: List.ofFn (Permission.statement ∘ permissions.get)) := by
  rw [executionPolicy, ← List.map_ofFn, List.ofFn_get]

/-- What is assembled from reordered requirements is the same template with its statements
reordered. -/
theorem reorderedBy_assembled {declared : OrderedMap String Expr} (agree : r.DefaultsAgree)
    (order : Equiv.Perm (Fin r.permissions.length)) :
    (assembled name r s declared).ReorderedBy (assembled name (r.reordered order) s declared)
      order where
  conditions := rfl
  outputs := rfl
  parameters := get?_parameters_of_defaultsAgree agree (r.sameButOrder_reordered order)
  ids := keys_resources_of_sameButOrder (r.sameButOrder_reordered order) _
  resources := fun _ other => get?_resources_of_ne_policyId (r.sameButOrder_reordered order) _ other
  policy := by
    refine ⟨Permission.statement ∘ r.permissions.get, ?_, ?_⟩
    · rw [assembled, get?_policyId, executionPolicy_eq]
    · rw [assembled, get?_policyId, executionPolicy, reordered, List.map_ofFn]
      rfl

end Compilation

/-- **Permissions in another order.** A function that compiles does so in another order exactly if
of two references with one parameter one is hidden there too, which is so if the same references
are hidden; and the templates differ by the order of the permissions only. -/
theorem reordered_of_compile {name : String} {r : Requirements} {s : Settings}
    (agree : r.DefaultsAgree) (order : Equiv.Perm (Fin r.permissions.length)) :
    ((compile name r s).Succeeds → ((compile name (r.reordered order) s).Succeeds ↔
      ∀ a ∈ r.allReferences, ∀ b ∈ r.allReferences, a ≠ b →
        a.parameterName = b.parameterName →
          (r.reordered order).Hides a ∨ (r.reordered order).Hides b)) ∧
    ((∀ a ∈ r.allReferences, (r.reordered order).Hides a ↔ r.Hides a) →
      ((compile name (r.reordered order) s).Succeeds ↔ (compile name r s).Succeeds)) ∧
    ∀ t t', (compile name r s).result = .ok t →
      (compile name (r.reordered order) s).result = .ok t' → t.ReorderedBy t' order := by
  have same := r.sameButOrder_reordered order
  have back : (r.reordered order).SameButOrder r :=
    ⟨same.permissions.symm, same.environment.symm, same.eventSource.symm⟩
  refine ⟨fun succeeds => ?_, fun hidden => ?_, fun t t' compiled compiled' => ?_⟩
  · rw [succeeds_iff_of_sameButOrder same succeeds, Requirements.namesSeparate_references_iff]
    simp only [same.mem_allReferences_iff]
  · have separate : NamesSeparate (r.reordered order).references ↔ NamesSeparate r.references := by
      rw [Requirements.namesSeparate_references_iff, Requirements.namesSeparate_references_iff]
      simp only [same.mem_allReferences_iff]
      constructor
      · intro apart a first b second
        rw [← hidden a first, ← hidden b second]
        exact apart a first b second
      · intro apart a first b second
        rw [hidden a first, hidden b second]
        exact apart a first b second
    constructor
    · intro succeeds
      rw [succeeds_iff_of_sameButOrder back succeeds, ← separate]
      exact (succeeds_iff.mp succeeds).2.1
    · intro succeeds
      rw [succeeds_iff_of_sameButOrder same succeeds, separate]
      exact (succeeds_iff.mp succeeds).2.1
  · obtain ⟨_, _, declared, collected, rfl, _⟩ := compile_eq_ok_iff.mp compiled
    obtain ⟨_, _, declared', collected', rfl, _⟩ := compile_eq_ok_iff.mp compiled'
    rw [conditions_of_sameButOrder same, collected, Except.ok.injEq] at collected'
    subst collected'
    exact reorderedBy_assembled agree order

/-- The function of `everyKind` compiles with its permissions from the last to the first. -/
theorem reordered_everyKind : everyKind.DefaultsAgree ∧
    ∃ t t', (compile "f" everyKind {}).result = .ok t ∧
      (compile "f" (everyKind.reordered Fin.revPerm) {}).result = .ok t' ∧
      t.ReorderedBy t' (Fin.revPerm : Equiv.Perm (Fin everyKind.permissions.length)) := by
  have agree : everyKind.DefaultsAgree := by decide +kernel
  obtain ⟨t, compiled⟩ : ∃ t, (compile "f" everyKind {}).result = .ok t :=
    exists_ok_of_isSome (by decide +kernel)
  obtain ⟨t', compiled'⟩ :
      ∃ t, (compile "f" (everyKind.reordered Fin.revPerm) {}).result = .ok t :=
    exists_ok_of_isSome (by decide +kernel)
  exact ⟨agree, t, t', compiled, compiled',
    (reordered_of_compile agree Fin.revPerm).2.2 t t' compiled compiled'⟩

/-- Three references: the first hides the second, which takes the parameter of the third. -/
def hiddenCollision : Requirements where
  permissions :=
    [.iamAction ["s3:GetObject"] [.reference ⟨"a-b", "c", "d"⟩],
      .iamAction ["s3:GetObject"] [.reference ⟨"a", "b", "c-d"⟩],
      .iamAction ["s3:GetObject"] [.reference ⟨"ab", "c-", "d"⟩]]

/-- The second permission comes first. -/
def firstSwapped : Equiv.Perm (Fin hiddenCollision.permissions.length) :=
  Equiv.swap ⟨0, by decide⟩ ⟨1, by decide⟩

/-- The order of permissions can decide whether a function compiles. -/
theorem not_succeeds_iff_of_reordered :
    ¬ ∀ name r s, r.DefaultsAgree → ∀ order,
      (compile name (r.reordered order) s).Succeeds ↔ (compile name r s).Succeeds := by
  intro all
  have agree : hiddenCollision.DefaultsAgree := by decide +kernel
  have compiled : (compile "f" hiddenCollision {}).Succeeds :=
    exists_ok_of_isSome (by decide +kernel)
  have failed : (compile "f" (hiddenCollision.reordered firstSwapped) {}).error? =
      some (.parameterNameCollision "abc-d" "a-b-c-d" "ab-c--d") := by decide +kernel
  obtain ⟨t, swapped⟩ := (all "f" hiddenCollision {} agree firstSwapped).mpr compiled
  rw [error?_eq_some_iff, swapped] at failed
  cases failed

end Stackwright

import Stackwright.Proofs.Compilation.Reads
import Stackwright.Validation

/-!
# What a valid definition compiles to

A definition without faults compiles, collides, or reads a name that nothing declares
(`outcome_of_valid`). Names with a dot aside, the check of names rejects exactly the last of these,
which needs a name that ends or opens a placeholder in a text: plain names compile unless they
collide. Validation lets names that are not plain pass, so being valid is not enough to compile
(`not_succeeds_or_collides_of_valid`).
-/

namespace Stackwright

open Compilation

/-- Two fragments claim one parameter or one condition. -/
def CompileError.IsCollision : CompileError → Prop
  | .parameterNameCollision .. | .conditionCollision .. => True
  | .emptyActions _ | .openName _ => False

namespace Compilation

def Succeeds (c : Compilation) : Prop := ∃ t, c.result = .ok t

def Collides (c : Compilation) : Prop := ∃ error, c.result = .error error ∧ error.IsCollision

/-- Some text or reference uses the name, and nothing declares it. -/
def LeavesOpen (c : Compilation) (name : String) : Prop :=
  ∃ location, c.result = .error (.openName (.undeclaredName name location))

/-- The error of a compilation that fails. -/
def error? (c : Compilation) : Option CompileError :=
  match c.result with
  | .ok _ => none
  | .error error => some error

theorem error?_eq_some_iff {c : Compilation} {error : CompileError} :
    c.error? = some error ↔ c.result = .error error := by
  unfold error?
  cases c.result <;> simp

theorem whenTrue_eq_nil_iff {fault : Bool} {message : String} :
    Validation.whenTrue fault message = [] ↔ fault = false := by
  simp [Validation.whenTrue]

/-- The permissions of a valid definition have no faults. -/
theorem permissionFaults_of_valid {d : Definition} (valid : d.Valid) {p : Permission}
    (listed : p ∈ d.requirements.permissions) : Validation.permissionFaults p = [] := by
  obtain ⟨i, found⟩ := List.mem_iff_getElem?.mp listed
  have indexed : (p, i) ∈ d.requirements.permissions.zipIdx :=
    List.mem_zipIdx_iff_getElem?.mpr found
  simp only [Definition.Valid, Validation.faults, List.append_eq_nil_iff,
    List.flatMap_eq_nil_iff] at valid
  exact List.map_eq_nil_iff.mp (valid.1.1.2 _ indexed)

theorem variableFaults_of_valid {d : Definition} (valid : d.Valid) {v : Variable}
    (listed : v ∈ d.requirements.environment) : Validation.variableFaults v = [] := by
  simp only [Definition.Valid, Validation.faults, List.append_eq_nil_iff,
    List.flatMap_eq_nil_iff] at valid
  exact valid.1.2 v listed

/-- The permissions of a valid definition list actions. -/
theorem hasNoActions_of_valid {d : Definition} (valid : d.Valid) :
    ∀ p ∈ d.requirements.permissions, p.hasNoActions = false := by
  intro p listed
  have faultless := permissionFaults_of_valid valid listed
  cases p with
  | sendMail identity => rfl
  | table host actions =>
    exact whenTrue_eq_nil_iff.mp (List.append_eq_nil_iff.mp faultless).2
  | userPool pool actions =>
    exact whenTrue_eq_nil_iff.mp (List.append_eq_nil_iff.mp faultless).2
  | iamAction actions resources =>
    simp only [Validation.permissionFaults, List.append_eq_nil_iff] at faultless
    exact whenTrue_eq_nil_iff.mp faultless.1.1

section Assembled

variable {name : String} {r : Requirements} {s : Settings} {declared : OrderedMap String Expr}

/-- Once every permission lists an action, only collisions keep the template from being checked. -/
theorem collides_or_checked (listed : ∀ p ∈ r.permissions, p.hasNoActions = false) :
    (compile name r s).Collides ∨ ∃ declared, conditions r = .ok declared ∧
      (compile name r s).result = (assembled name r s declared).firstOpen.elim
        (.ok (assembled name r s declared)) fun use => .error (.openName use) := by
  have passed := (firstWithoutActions_eq_none_iff _).mpr listed
  cases separate : referenceCollision [] r.references with
  | some error =>
    obtain ⟨parameter, first, second, rfl⟩ := referenceCollision_error separate
    exact .inl ⟨.parameterNameCollision parameter first second,
      by simp [compile, passed, separate], trivial⟩
  | none =>
    cases collected : conditions r with
    | error reason =>
      obtain ⟨condition, variableName, rfl⟩ := conditions_error collected
      exact .inl ⟨.conditionCollision condition variableName,
        by simp [compile, passed, separate, collected], trivial⟩
    | ok declared => exact .inr ⟨declared, rfl, compile_result_eq passed separate collected⟩

/-- In the assembled template a name resolves if it is of the platform, or the requirements declare
what stands before its first dot. -/
theorem resolves_assembled_iff {x : String} :
    (assembled name r s declared).resolves x = true ↔
      Template.OfPlatform x ∨ r.Names (baseName x) := by
  rw [Template.resolves_iff, names_assembled_iff]

/-- The names that every template reads resolve. -/
theorem resolves_of_mem_fixedReads {x : String} (fixed : x ∈ fixedReads) :
    (assembled name r s declared).resolves x = true := by
  have each : ∀ x ∈ fixedReads, Template.OfPlatform x ∨
      baseName x ∈ [envParameter, resourceNameParameter, functionId, roleId, policyId] := by decide
  exact resolves_assembled_iff.mpr ((each x fixed).imp_right .inl)

/-- What stays open in an assembled template is a name that the function reads. -/
theorem exists_read_of_firstOpen (collected : conditions r = .ok declared) {found : OpenName}
    (opened : (assembled name r s declared).firstOpen = some found) :
    ∃ x location, found = .undeclaredName x location ∧ r.Reads x ∧
      ¬ (assembled name r s declared).resolves x = true := by
  obtain ⟨location, use, used, undeclared, rfl⟩ := Template.exists_use_of_firstOpen opened
  rcases Template.exists_mem_uses_iff.mp ⟨location, used⟩ with
    ⟨body, member, inBody⟩ | ⟨entry, present, id, needed, rfl⟩
  · cases use with
    | value x =>
      have read := (value_mem_uses_assembled_iff collected).mp ⟨body, member, inBody⟩
      have unresolved : ¬ (assembled name r s declared).resolves x = true := by
        simpa [Template.declares] using undeclared
      exact ⟨x, location, rfl,
        read.resolve_left fun fixed => unresolved (resolves_of_mem_fixedReads fixed), unresolved⟩
    | condition c =>
      have calls := callsOnly_bodies_assembled collected body member
      have present := Template.contains_of_condition_mem_uses calls inBody
      simp [Template.declares, present] at undeclared
    | dependency id => exact (Json.dependency_not_mem_uses body inBody).elim
  · have present := contains_of_dependsOn_resources _ _ _ present needed
    simp [Template.declares, assembled, present] at undeclared

/-- A template that is checked is returned when the check of names accepts all that the function
reads; else a name that it reads and the check does not accept is reported. -/
theorem outcome_of_checked (collected : conditions r = .ok declared)
    (result : (compile name r s).result = (assembled name r s declared).firstOpen.elim
      (.ok (assembled name r s declared)) fun use => .error (.openName use)) :
    ((compile name r s).Succeeds ∧
        ∀ x, r.Reads x → Template.OfPlatform x ∨ r.Names (baseName x)) ∨
      ∃ x, (compile name r s).LeavesOpen x ∧ r.Reads x ∧
        ¬ (Template.OfPlatform x ∨ r.Names (baseName x)) := by
  cases opened : (assembled name r s declared).firstOpen with
  | none =>
    rw [opened, Option.elim_none] at result
    have closed := (Template.firstOpen_eq_none_iff _).mp opened
    refine .inl ⟨⟨_, result⟩, fun x read => ?_⟩
    have used : ∃ body ∈ (assembled name r s declared).bodies, .value x ∈ body.uses :=
      (value_mem_uses_assembled_iff collected).mpr (.inr read)
    obtain ⟨body, member, used⟩ := used
    exact resolves_assembled_iff.mp (closed.declares_of_mem_bodies member used)
  | some found =>
    rw [opened, Option.elim_some] at result
    obtain ⟨x, location, rfl, read, unresolved⟩ := exists_read_of_firstOpen collected opened
    exact .inr ⟨x, ⟨location, result⟩, read, fun known =>
      unresolved (resolves_assembled_iff.mpr known)⟩

/-- Compiling collides, succeeds when the check of names accepts all that the function reads, or
reports a name that it reads and the check does not accept. -/
theorem outcome_of_listed (listed : ∀ p ∈ r.permissions, p.hasNoActions = false) :
    (compile name r s).Collides ∨
      ((compile name r s).Succeeds ∧
        ∀ x, r.Reads x → Template.OfPlatform x ∨ r.Names (baseName x)) ∨
      ∃ x, (compile name r s).LeavesOpen x ∧ r.Reads x ∧
        ¬ (Template.OfPlatform x ∨ r.Names (baseName x)) := by
  rcases collides_or_checked (s := s) listed with collides | ⟨declared, collected, result⟩
  · exact .inl collides
  · exact .inr (outcome_of_checked collected result)

end Assembled

end Compilation

/-- **Valid definitions compile, collide or read an undeclared name.** The last is the only error
that is not a collision. A name without a dot is reported only if it is read and stands for nothing,
and when compiling succeeds none is; plain names are never reported. -/
theorem outcome_of_valid {d : Definition} (valid : d.Valid) :
    (∀ error, d.compile.result = .error error → error.IsCollision ∨
      ∃ x location, error = .openName (.undeclaredName x location) ∧ d.requirements.Reads x) ∧
    (d.compile.Collides ∨
      (d.compile.Succeeds ∧
        ∀ x, d.requirements.Reads x → '.' ∉ x.toList → d.requirements.Knows x) ∨
      ∃ x, d.compile.LeavesOpen x ∧ d.requirements.Reads x ∧
        ('.' ∉ x.toList → ¬ d.requirements.Knows x)) ∧
    (d.requirements.Plain → d.compile.Succeeds ∨ d.compile.Collides) := by
  have outcome : d.compile.Collides ∨ _ := outcome_of_listed (hasNoActions_of_valid valid)
  have classified : d.compile.Collides ∨
      (d.compile.Succeeds ∧
        ∀ x, d.requirements.Reads x → '.' ∉ x.toList → d.requirements.Knows x) ∨
      ∃ x, d.compile.LeavesOpen x ∧ d.requirements.Reads x ∧
        ('.' ∉ x.toList → ¬ d.requirements.Knows x) := by
    refine outcome.imp_right (Or.imp ?_ ?_)
    · rintro ⟨succeeds, resolved⟩
      refine ⟨succeeds, fun x read dotFree => ?_⟩
      have known := resolved x read
      rwa [baseName_eq_self dotFree] at known
    · rintro ⟨x, opened, read, unresolved⟩
      refine ⟨x, opened, read, fun dotFree known => unresolved ?_⟩
      rwa [baseName_eq_self dotFree]
  refine ⟨?_, classified, ?_⟩
  · intro error failed
    rcases outcome with ⟨other, same, collision⟩ | ⟨⟨t, succeeded⟩, _⟩ |
      ⟨x, ⟨location, same⟩, read, _⟩
    · exact .inl (Except.error.inj (failed.symm.trans same) ▸ collision)
    · cases failed.symm.trans succeeded
    · exact .inr ⟨x, location, Except.error.inj (failed.symm.trans same), read⟩
  · intro plain
    rcases classified with collides | ⟨succeeds, _⟩ | ⟨x, _, read, unknown⟩
    · exact .inr collides
    · exact .inl succeeds
    · obtain ⟨dotFree, known⟩ := plain.dotFree_and_knows read
      exact (unknown dotFree known).elim

/-- A function with every kind of fragment and plain names compiles and reads what it declares. -/
theorem outcome_everyKind : ∃ d : Definition, d.Valid ∧ d.requirements = everyKind ∧
    everyKind.Plain ∧ d.compile.Succeeds ∧ ∀ x, everyKind.Reads x → everyKind.Knows x := by
  have valid : (⟨"f", {}, everyKind⟩ : Definition).Valid := by decide +kernel
  have hosts : ∀ host ∈ everyKind.tables,
      '}' ∉ host.outputReference.parameterName.toList ∧
        ¬ ['$', '{'] <:+: host.tableName.toList := by
    decide +kernel
  have plain : everyKind.Plain :=
    { dotFree := by decide +kernel
      tables := fun host member => ⟨(hosts host member).1, (hosts host member).2⟩
      identities := by decide +kernel }
  have faultless : (⟨"f", {}, everyKind⟩ : Definition).compile.error? = none := by decide +kernel
  obtain ⟨_, classified, _⟩ := outcome_of_valid valid
  refine ⟨_, valid, rfl, plain, ?_⟩
  rcases classified with
    ⟨error, failed, _⟩ | ⟨compiled, known⟩ | ⟨x, ⟨location, failed⟩, _⟩
  · rw [error?_eq_some_iff.mpr failed] at faultless
    cases faultless
  · exact ⟨compiled, fun x read => known x read (plain.dotFree_and_knows read).1⟩
  · rw [error?_eq_some_iff.mpr failed] at faultless
    cases faultless

/-- A function that may read a table whose name opens a placeholder. -/
def placeholderTable : Definition where
  name := "f"
  requirements := { permissions := [.table ⟨"a", "$\x7bx\x7d"⟩ [.readItem]] }

/-- A valid definition can fail to compile although nothing collides. -/
theorem not_succeeds_or_collides_of_valid :
    ¬ ∀ d : Definition, d.Valid → d.compile.Succeeds ∨ d.compile.Collides := by
  intro all
  have failed : placeholderTable.compile.result =
      .error (.openName (.undeclaredName "x" "Resources.LambdaExecutionPolicy")) :=
    error?_eq_some_iff.mp (by decide +kernel)
  rcases all placeholderTable (by decide +kernel) with ⟨t, succeeded⟩ | ⟨error, same, collision⟩
  · cases failed.symm.trans succeeded
  · cases Except.error.inj (failed.symm.trans same)
    exact collision

end Stackwright

import Stackwright.Proofs.Compilation.Reads

/-!
# Fragments and their own parameters

A fragment should read the parameters that it declares and nothing else of the function. Names are
put into texts as they are, so this depends on names: it holds exactly as far as those of tables
and mail identities can stand in a text (`readsOwn_iff_spliceable`), and a function compiles with
names that cannot (`not_readsOwn_of_compile`).
-/

namespace Stackwright

open Compilation Template

/-- Apart from names of the platform, the documents read the names of the parameters and these
only. -/
def ReadsOwn (documents : List Json) (own : List Parameter) : Prop :=
  ∀ x, ¬ OfPlatform x →
    ((∃ doc ∈ documents, .value x ∈ doc.uses) ↔ ∃ p ∈ own, p.name = x)

/-- What a variable adds to the template: its value and its guards. -/
def Variable.documents (v : Variable) : List Json :=
  v.value.toJson :: v.conditions.map fun guard => guard.2.toJson

/-- The names of the table can stand in a text: the parameter ends where it should, and the name
of the table opens no placeholder but for the parameter and for the platform. -/
structure Table.Spliceable (host : Table) : Prop where
  parameter : '}' ∉ host.apiName.toList
  name : ∀ x ∈ Expr.placeholders host.tableName,
    OfPlatform x ∨ x = host.outputReference.parameterName

/-- The name of the parameter can stand in a text: between braces it is read as it is, and
nothing else is. -/
structure Parameter.Spliceable (p : Parameter) : Prop where
  named : OfPlatform p.name ∨ ('}' ∉ p.name.toList ∧ p.name.toList.head? ≠ some '!')
  others : ∀ x ∈ Expr.placeholders (placeholder p.name), OfPlatform x ∨ x = p.name

/-- The parameter for a table has no name of the platform. -/
theorem not_ofPlatform_parameterName (host : Table) :
    ¬ OfPlatform host.outputReference.parameterName := by
  simp [OfPlatform, Table.outputReference, Reference.parameterName]

/-- For a name outside the platform the fixed reads do not count. -/
theorem mem_platformReads_or_iff {x : String} (outside : ¬ OfPlatform x) {reads : Prop} :
    x ∈ platformReads ∨ reads ↔ reads := by
  have each : ∀ name ∈ platformReads, OfPlatform name := by decide
  exact or_iff_right fun read => outside (each x read)

/-- A table is spliceable exactly if what is imported of it reads the parameter for the table and
nothing else. -/
theorem Table.spliceable_iff {host : Table} {property : String} (named : '}' ∉ property.toList) :
    host.Spliceable ↔ ∀ x, ¬ OfPlatform x →
      (x ∈ (host.imported property).reads ↔ host.outputReference.parameterName = x) := by
  constructor
  · intro spliceable x outside
    have closed : '}' ∉ host.outputReference.parameterName.toList := by
      simpa [Table.outputReference, Reference.parameterName] using spliceable.parameter
    rw [Table.reads_imported_of_closed closed named, List.mem_cons]
    constructor
    · rintro (same | used)
      · exact same.symm
      · exact ((spliceable.name x used).resolve_left outside).symm
    · exact fun same => .inl same.symm
  · intro agrees
    have read := (agrees _ (not_ofPlatform_parameterName host)).mpr rfl
    have closed : '}' ∉ host.outputReference.parameterName.toList := by
      rw [Table.imported, Expr.reads_importValue, Expr.reads_sub] at read
      exact Expr.closed_of_mem_placeholders read
    refine ⟨by simpa [Table.outputReference, Reference.parameterName] using closed, ?_⟩
    intro x used
    refine Decidable.or_iff_not_imp_left.mpr fun outside => ((agrees x outside).mp ?_).symm
    rw [Table.reads_imported_of_closed closed named]
    exact List.mem_cons_of_mem _ used

/-- A parameter is spliceable exactly if its placeholder reads its name and nothing else. -/
theorem Parameter.spliceable_iff {p : Parameter} :
    p.Spliceable ↔ ∀ x, ¬ OfPlatform x →
      (x ∈ Expr.placeholders (placeholder p.name) ↔ p.name = x) := by
  constructor
  · intro spliceable x outside
    constructor
    · exact fun used => ((spliceable.others x used).resolve_left outside).symm
    · rintro rfl
      obtain ⟨closed, shown⟩ := spliceable.named.resolve_left outside
      rw [Expr.placeholders_placeholder closed, if_neg shown]
      exact List.mem_singleton.mpr rfl
  · intro agrees
    refine ⟨Decidable.or_iff_not_imp_left.mpr fun outside => ?_, fun x used =>
      Decidable.or_iff_not_imp_left.mpr fun outside => ((agrees x outside).mp used).symm⟩
    have read := (agrees p.name outside).mpr rfl
    have closed := Expr.closed_of_mem_placeholders read
    refine ⟨closed, fun escaped => ?_⟩
    rw [Expr.placeholders_placeholder closed, if_pos escaped] at read
    cases read

/-- A resource of a raw permission reads the parameter of its reference, if it has one. -/
theorem IamResource.mem_reads_expr_iff {resource : IamResource} {x : String} :
    x ∈ resource.expr.reads ↔ ∃ r, resource.reference? = some r ∧ r.toParameter.name = x := by
  cases resource <;>
    simp [IamResource.expr, IamResource.reference?, Reference.expr, Reference.toParameter, eq_comm]

/-- Documents that read one thing beside the platform's, against parameters of one name. -/
theorem readsOwn_iff_of_uses {documents : List Json} {own : List Parameter} {reads : String → Prop}
    {name : String} (uses : ∀ x, (∃ doc ∈ documents, .value x ∈ doc.uses) ↔
      x ∈ platformReads ∨ reads x)
    (named : ∀ x, (∃ p ∈ own, p.name = x) ↔ name = x) :
    ReadsOwn documents own ↔ ∀ x, ¬ OfPlatform x → (reads x ↔ name = x) := by
  refine forall_congr' fun x => forall_congr' fun outside => ?_
  rw [uses, named, mem_platformReads_or_iff outside]

/-- Documents read their own parameters if they use no names but those and some of the platform. -/
theorem readsOwn_of_uses {documents : List Json} {own : List Parameter}
    (uses : ∀ x, (∃ doc ∈ documents, .value x ∈ doc.uses) ↔
      x ∈ platformReads ∨ ∃ p ∈ own, p.name = x) : ReadsOwn documents own := by
  intro x outside
  rw [uses, mem_platformReads_or_iff outside]

theorem Table.exists_parameter_iff {host : Table} {x : String} :
    (∃ p ∈ host.parameters, p.name = x) ↔ host.outputReference.parameterName = x := by
  simp [Table.parameters, Reference.toParameter]

/-- The address of a stream reads its own parameter exactly if the table is spliceable. -/
theorem Table.readsOwn_streamArn_iff (host : Table) :
    ReadsOwn [host.streamArn.toJson] host.parameters ↔ host.Spliceable := by
  rw [Table.spliceable_iff (by decide : '}' ∉ "StreamArn".toList)]
  refine forall_congr' fun x => forall_congr' fun _ => ?_
  rw [Table.exists_parameter_iff]
  simp [Expr.value_mem_uses_toJson_iff, Table.streamArn]

/-- A permission reads its own parameters exactly if its tables and identities are spliceable. -/
theorem Permission.readsOwn_iff (p : Permission) : ReadsOwn [p.statement.toJson] p.parameters ↔
    (∀ host ∈ p.tables, host.Spliceable) ∧ ∀ identity ∈ p.identities, identity.Spliceable := by
  have uses : ∀ x, (∃ doc ∈ [p.statement.toJson], .value x ∈ doc.uses) ↔
      ∃ e ∈ p.statement.resources, x ∈ e.reads := by
    intro x
    rw [← value_mem_uses_statement_iff]
    simp
  cases p with
  | table host actions =>
    simp only [Permission.tables, Permission.identities, List.forall_mem_singleton,
      List.not_mem_nil, false_imp_iff, implies_true, and_true]
    rw [Table.spliceable_iff (by decide : '}' ∉ "Name".toList)]
    refine readsOwn_iff_of_uses (fun x => (uses x).trans ?_) fun x => Table.exists_parameter_iff
    simp [Permission.statement, PolicyStatement.allow, Table.arn, mem_reads_regionalArn_iff,
      Table.nameExpr]
  | userPool pool actions =>
    refine iff_of_true (readsOwn_of_uses fun x => (uses x).trans ?_)
      (by simp [Permission.tables, Permission.identities])
    simp [Permission.statement, PolicyStatement.allow, UserPool.arn, mem_reads_regionalArn_iff,
      Reference.expr, Permission.parameters, Reference.toParameter, eq_comm]
  | sendMail identity =>
    simp only [Permission.tables, Permission.identities, List.forall_mem_singleton,
      List.not_mem_nil, false_imp_iff, implies_true, true_and]
    rw [Parameter.spliceable_iff]
    refine readsOwn_iff_of_uses (fun x => (uses x).trans ?_) fun x => ?_
    · simp [Permission.statement, PolicyStatement.allow, mem_reads_mailIdentity_iff]
    · simp [Permission.parameters]
  | iamAction actions resources =>
    refine iff_of_true (fun x _ => (uses x).trans ?_)
      (by simp [Permission.tables, Permission.identities])
    simp only [Permission.statement, PolicyStatement.allow, Permission.parameters, List.mem_map,
      List.mem_filterMap]
    constructor
    · rintro ⟨_, ⟨resource, listed, rfl⟩, read⟩
      obtain ⟨r, refers, same⟩ := IamResource.mem_reads_expr_iff.mp read
      exact ⟨_, ⟨r, ⟨resource, listed, refers⟩, rfl⟩, same⟩
    · rintro ⟨_, ⟨r, ⟨resource, listed, refers⟩, rfl⟩, same⟩
      exact ⟨_, ⟨resource, listed, rfl⟩, IamResource.mem_reads_expr_iff.mpr ⟨r, refers, same⟩⟩

/-- The documents of a variable use what its value and its guards read. -/
theorem Variable.exists_value_mem_uses_iff {v : Variable} {x : String} :
    (∃ doc ∈ v.documents, .value x ∈ doc.uses) ↔
      x ∈ v.value.reads ∨ ∃ guard ∈ v.conditions, x ∈ guard.2.reads := by
  rw [← List.mem_flatMap, Variable.documents, List.flatMap_cons]
  simp only [List.flatMap_map, List.mem_append, List.mem_flatMap, Expr.value_mem_uses_toJson_iff]

/-- A variable reads its own parameters exactly if its tables are spliceable. -/
theorem Variable.readsOwn_iff (v : Variable) :
    ReadsOwn v.documents v.parameters ↔ ∀ host ∈ v.tables, host.Spliceable := by
  cases v with
  | tableName host =>
    rw [Variable.tables, List.forall_mem_singleton,
      Table.spliceable_iff (by decide : '}' ∉ "Name".toList)]
    refine forall_congr' fun x => forall_congr' fun _ => ?_
    rw [Variable.exists_value_mem_uses_iff, Variable.parameters, Table.exists_parameter_iff]
    simp [Variable.value, Variable.conditions, Table.nameExpr]
  | parameter name p =>
    refine iff_of_true (fun x _ => Variable.exists_value_mem_uses_iff.trans ?_)
      (by simp [Variable.tables])
    simp [Variable.value, Variable.conditions, Variable.parameters, Parameter.expr, eq_comm]
  | resourceOutput name r =>
    refine iff_of_true (fun x _ => Variable.exists_value_mem_uses_iff.trans ?_)
      (by simp [Variable.tables])
    simp [Variable.value, Variable.conditions, Variable.parameters, Reference.expr,
      Reference.toParameter, eq_comm]
  | coalesced name first second =>
    refine iff_of_true (fun x _ => Variable.exists_value_mem_uses_iff.trans ?_)
      (by simp [Variable.tables])
    -- the guard reads the first source once more
    simp [Variable.value, Variable.conditions, Variable.parameters, ValueSource.mem_reads_expr_iff]
    grind

/-- **Fragments read their own parameters.** For every permission, every variable and every event
source, whether the function compiles or not: what the fragment reads outside the platform are the
parameters that it declares, exactly if the names that it puts into texts can stand there. Only
tables and mail identities have such names. -/
theorem readsOwn_iff_spliceable :
    (∀ p : Permission, ReadsOwn [p.statement.toJson] p.parameters ↔
      (∀ host ∈ p.tables, host.Spliceable) ∧ ∀ identity ∈ p.identities, identity.Spliceable) ∧
    (∀ v : Variable, ReadsOwn v.documents v.parameters ↔ ∀ host ∈ v.tables, host.Spliceable) ∧
    ∀ host : Table, ReadsOwn [host.streamArn.toJson] host.parameters ↔ host.Spliceable :=
  ⟨Permission.readsOwn_iff, Variable.readsOwn_iff, Table.readsOwn_streamArn_iff⟩

/-- A mail identity whose name is read as an escape, and a table whose name reads the
environment. -/
def splicedNames : Requirements where
  permissions := [.sendMail ⟨"!x", none⟩]
  environment := [.tableName ⟨"a", "$\x7benv\x7d"⟩]

/-- The function compiles, although its permission does not read the parameter that it declares and
its variable reads one that it does not declare. -/
theorem not_readsOwn_of_compile : ∃ t, (compile "f" splicedNames {}).result = .ok t ∧
    (∃ p ∈ splicedNames.permissions, ¬ ReadsOwn [p.statement.toJson] p.parameters) ∧
    ∃ v ∈ splicedNames.environment, ¬ ReadsOwn v.documents v.parameters := by
  obtain ⟨t, compiled⟩ : ∃ t, (compile "f" splicedNames {}).result = .ok t :=
    exists_ok_of_isSome (by decide +kernel)
  refine ⟨t, compiled, ⟨_, List.mem_cons_self, fun own => ?_⟩,
    ⟨_, List.mem_cons_self, fun own => ?_⟩⟩
  · have spliceable := ((Permission.readsOwn_iff _).mp own).2 _ List.mem_cons_self
    exact absurd spliceable.named (by decide)
  · have spliceable := (Variable.readsOwn_iff _).mp own _ List.mem_cons_self
    exact absurd (spliceable.name "env" (by decide +kernel)) (by decide)

end Stackwright

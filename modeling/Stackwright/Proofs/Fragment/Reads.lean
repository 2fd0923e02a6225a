import Stackwright.Fragment
import Stackwright.Proofs.Expr.Placeholders
import Stackwright.Proofs.Expr.Reads

/-!
# Names that fragments read

A fragment puts the names of its parameters, and of its table, into texts. As long as these names
keep the texts as they were meant, the fragment reads its own parameters and the region and account
of the platform, and nothing else (`Permission.reads_of_plain` and the lemmas after it).
-/

namespace Stackwright

/-- The pseudo parameters that fragments read. -/
def platformReads : List String := ["AWS::Region", "AWS::AccountId"]

/-- Texts with the names of the table read as they are meant: its parameter ends where it should,
and nothing else opens a placeholder. -/
structure Table.Plain (host : Table) : Prop where
  parameter : '}' ∉ host.outputReference.parameterName.toList
  name : ¬ ['$', '{'] <:+: host.tableName.toList

/-- The tables whose names a permission puts into texts. -/
def Permission.tables : Permission → List Table
  | .table host _ => [host]
  | _ => []

/-- The mail identities whose names a permission puts into texts. -/
def Permission.identities : Permission → List Parameter
  | .sendMail identity => [identity]
  | _ => []

def Variable.tables : Variable → List Table
  | .tableName host => [host]
  | _ => []

namespace Expr

theorem not_opener_of_no_dollar {text : List Char} (absent : '$' ∉ text) :
    ¬ ['$', '{'] <:+: text :=
  fun inner => absent (inner.subset List.mem_cons_self)

/-- A text without a dollar sign leaves what follows as it is. -/
theorem placeholders_append_of_no_dollar {literal rest : String} (absent : '$' ∉ literal.toList) :
    placeholders (literal ++ rest) = placeholders rest :=
  placeholders_append (not_opener_of_no_dollar absent)
    fun last => (absent (List.mem_of_getLast? last)).elim

end Expr

/-- The text reads the parameter and what the name of the table reads. -/
theorem Table.reads_imported_of_closed {host : Table} {property : String}
    (closed : '}' ∉ host.outputReference.parameterName.toList) (named : '}' ∉ property.toList) :
    (host.imported property).reads =
      host.outputReference.parameterName :: Expr.placeholders host.tableName := by
  have shown : host.outputReference.parameterName.toList.head? ≠ some '!' := by
    simp [Table.outputReference, Reference.parameterName]
  have tail : '}' ∉ ("Table" ++ (":" ++ property)).toList := by
    simpa using named
  rw [Table.imported, Expr.reads_importValue, Expr.reads_sub, Table.logicalId]
  simp only [String.append_assoc]
  rw [Expr.placeholders_placeholder_append closed, if_neg shown,
    Expr.placeholders_append_of_no_dollar (by decide), Expr.placeholders_append_unclosed tail]

/-- What is imported of a plain table reads the parameter for the table. -/
theorem Table.reads_imported {host : Table} {property : String} (plain : host.Plain)
    (named : '}' ∉ property.toList) :
    (host.imported property).reads = [host.outputReference.parameterName] := by
  rw [Table.reads_imported_of_closed plain.parameter named,
    Expr.placeholders_of_plain plain.name]

/-- An address in the region of the stack reads names of the platform and what its last part
reads. -/
theorem mem_reads_regionalArn_iff {service resourceType : String} {id : Expr} {x : String} :
    x ∈ (regionalArn service resourceType id).reads ↔ x ∈ platformReads ∨ x ∈ id.reads := by
  simp [regionalArn, Expr.region, Expr.accountId, platformReads, or_assoc]

/-- A mail identity reads names of the platform and those in the placeholder of its parameter. -/
theorem mem_reads_mailIdentity_iff {identity : Parameter} {x : String} :
    x ∈ (Permission.mailIdentity identity).reads ↔
      x ∈ platformReads ∨ x ∈ Expr.placeholders (placeholder identity.name) := by
  have region : '}' ∉ "AWS::Region".toList ∧ "AWS::Region".toList.head? ≠ some '!' := by decide
  have account : '}' ∉ "AWS::AccountId".toList ∧ "AWS::AccountId".toList.head? ≠ some '!' := by
    decide
  rw [Permission.mailIdentity, Expr.reads_sub]
  simp only [String.append_assoc]
  rw [Expr.placeholders_append_of_no_dollar (by decide),
    Expr.placeholders_placeholder_append region.1, if_neg region.2,
    Expr.placeholders_append_of_no_dollar (by decide),
    Expr.placeholders_placeholder_append account.1, if_neg account.2,
    Expr.placeholders_append_of_no_dollar (by decide)]
  simp [platformReads, or_assoc]

/-- A mail identity without closing braces reads names of the platform and its own. -/
theorem reads_mailIdentity_subset {identity : Parameter} (closed : '}' ∉ identity.name.toList)
    {x : String} (read : x ∈ (Permission.mailIdentity identity).reads) :
    x ∈ platformReads ∨ x = identity.name := by
  refine (mem_reads_mailIdentity_iff.mp read).imp_right fun named => ?_
  rw [Expr.placeholders_placeholder closed] at named
  split at named
  · cases named
  · exact List.mem_singleton.mp named

/-- A source reads the names of its parameters. -/
theorem ValueSource.mem_reads_expr_iff {source : ValueSource} {x : String} :
    x ∈ source.expr.reads ↔ ∃ p ∈ source.parameters, p.name = x := by
  cases source <;>
    simp [ValueSource.expr, Reference.expr, Parameter.expr, ValueSource.parameters,
      Reference.toParameter, eq_comm]

theorem Table.mem_reads_imported_iff {host : Table} {property : String} (plain : host.Plain)
    (named : '}' ∉ property.toList) {x : String} :
    x ∈ (host.imported property).reads ↔ ∃ p ∈ host.parameters, p.name = x := by
  rw [Table.reads_imported plain named, List.mem_singleton]
  simp [Table.parameters, Reference.toParameter, eq_comm]

/-- A permission on plain tables reads names of the platform and of its own parameters. -/
theorem Permission.reads_of_plain {p : Permission} (tables : ∀ host ∈ p.tables, host.Plain)
    (identities : ∀ identity ∈ p.identities, '}' ∉ identity.name.toList) {e : Expr}
    (granted : e ∈ p.statement.resources) {x : String} (read : x ∈ e.reads) :
    x ∈ platformReads ∨ ∃ q ∈ p.parameters, q.name = x := by
  cases p with
  | table host actions =>
    have plain := tables host (List.mem_singleton.mpr rfl)
    rw [List.mem_singleton.mp granted, Table.arn, mem_reads_regionalArn_iff, Table.nameExpr,
      Table.mem_reads_imported_iff plain (by decide)] at read
    exact read
  | userPool pool actions =>
    rw [List.mem_singleton.mp granted, UserPool.arn, mem_reads_regionalArn_iff, Reference.expr,
      Expr.reads_ref, List.mem_singleton] at read
    exact read.imp_right fun same => ⟨_, List.mem_singleton.mpr rfl, same.symm⟩
  | sendMail identity =>
    rw [List.mem_singleton.mp granted] at read
    have closed := identities identity (List.mem_singleton.mpr rfl)
    exact (reads_mailIdentity_subset closed read).imp_right fun same =>
      ⟨_, List.mem_singleton.mpr rfl, same.symm⟩
  | iamAction actions resources =>
    obtain ⟨resource, listed, rfl⟩ := List.mem_map.mp granted
    cases resource with
    | literal arn => cases read
    | reference r =>
      refine .inr ⟨r.toParameter, ?_, (List.mem_singleton.mp read).symm⟩
      simp only [Permission.parameters, List.mem_map, List.mem_filterMap]
      exact ⟨r, ⟨_, listed, rfl⟩, rfl⟩

/-- The value of a variable on a plain table reads names of its own parameters. -/
theorem Variable.reads_value_of_plain {v : Variable} (tables : ∀ host ∈ v.tables, host.Plain)
    {x : String} (read : x ∈ v.value.reads) :
    ∃ p ∈ v.parameters, p.name = x := by
  cases v with
  | tableName host =>
    have plain := tables host (List.mem_singleton.mpr rfl)
    exact (Table.mem_reads_imported_iff plain (by decide)).mp read
  | parameter name p => exact ⟨p, List.mem_singleton.mpr rfl, (List.mem_singleton.mp read).symm⟩
  | resourceOutput name r =>
    exact ⟨r.toParameter, List.mem_singleton.mpr rfl, (List.mem_singleton.mp read).symm⟩
  | coalesced name first second =>
    rw [Variable.value, Expr.reads_ifThenElse, List.mem_append, ValueSource.mem_reads_expr_iff,
      ValueSource.mem_reads_expr_iff] at read
    rcases read with ⟨p, member, same⟩ | ⟨p, member, same⟩
    · exact ⟨p, List.mem_append_left _ member, same⟩
    · exact ⟨p, List.mem_append_right _ member, same⟩

/-- A guard reads the first source of its variable. -/
theorem Variable.reads_conditions {v : Variable} {guard : String × Expr}
    (member : guard ∈ v.conditions) {x : String} (read : x ∈ guard.2.reads) :
    ∃ p ∈ v.parameters, p.name = x := by
  cases v with
  | coalesced name first second =>
    rw [List.mem_singleton.mp member] at read
    simp only [Expr.reads_not, List.flatMap_singleton, Expr.reads_equals, Expr.reads_literal,
      List.append_nil, ValueSource.mem_reads_expr_iff] at read
    obtain ⟨p, listed, same⟩ := read
    exact ⟨p, List.mem_append_left _ listed, same⟩
  | _ => cases member

end Stackwright

import Stackwright.Fragment
import Stackwright.Proofs.Template.Grounded

/-!
# Fragments ground what they read

Permissions and variables read nothing but their own parameters, the platform's names and their own
conditions, so a template that declares these grounds their expressions, statements and values.
-/

namespace Stackwright

namespace Template

variable {t : Template}

/-- What is imported of a table is grounded: the import is free text alone. -/
@[simp] theorem groundsAll_imported (host : Table) (property : String) :
    t.GroundsAll (host.imported property) := by
  simp [Table.imported]

theorem ofPlatform_region : OfPlatform "AWS::Region" := by decide

theorem ofPlatform_accountId : OfPlatform "AWS::AccountId" := by decide

/-- An address in the region of the stack is grounded if its last part is. -/
theorem groundsAll_regionalArn {service resourceType : String} {id : Expr}
    (grounds : t.GroundsAll id) : t.GroundsAll (regionalArn service resourceType id) := by
  simp [regionalArn, Expr.region, Expr.accountId, ofPlatform_region, ofPlatform_accountId, grounds]

/-- A source is grounded if its parameters are declared. -/
theorem groundsAll_source (source : ValueSource)
    (declared : ∀ p ∈ source.parameters, t.parameters.contains p.name = true) :
    t.GroundsAll source.expr := by
  cases source with
  | reference r =>
      have present := declared r.toParameter (by simp [ValueSource.parameters])
      exact groundsAll_ref_of_parameter present
  | parameter p =>
      have present := declared p (by simp [ValueSource.parameters])
      exact groundsAll_ref_of_parameter present

/-- A permission reads only its own parameters. -/
theorem groundsAll_statement {p : Permission}
    (declared : ∀ q ∈ p.parameters, t.parameters.contains q.name = true) :
    ∀ e ∈ p.statement.resources, t.GroundsAll e := by
  cases p with
  | table host actions =>
      simp only [Permission.statement, PolicyStatement.allow, List.mem_singleton, forall_eq]
      exact groundsAll_regionalArn (groundsAll_imported host "Name")
  | userPool pool actions =>
      have present := declared pool.idReference.toParameter (by simp [Permission.parameters])
      simp only [Permission.statement, PolicyStatement.allow, List.mem_singleton, forall_eq]
      exact groundsAll_regionalArn (groundsAll_ref_of_parameter present)
  | sendMail identity =>
      simp [Permission.statement, PolicyStatement.allow, Permission.mailIdentity]
  | iamAction actions resources =>
      intro e member
      obtain ⟨resource, listed, rfl⟩ := List.mem_map.mp member
      cases resource with
      | literal arn => exact groundsAll_literal arn
      | reference r =>
          have present := declared r.toParameter (by
            simp only [Permission.parameters, List.mem_map, List.mem_filterMap]
            exact ⟨r, ⟨_, listed, rfl⟩, rfl⟩)
          exact groundsAll_ref_of_parameter present

/-- A variable reads only its own parameters, under its own condition. -/
theorem groundsAll_value {v : Variable}
    (declared : ∀ p ∈ v.parameters, t.parameters.contains p.name = true)
    (guarded : ∀ entry ∈ v.conditions, t.conditions.contains entry.1 = true) :
    t.GroundsAll v.value := by
  cases v with
  | tableName host => exact groundsAll_imported host "Name"
  | parameter name p => exact groundsAll_source (.parameter p) declared
  | resourceOutput name r => exact groundsAll_source (.reference r) declared
  | coalesced name first second =>
      refine groundsAll_ifThenElse_iff.mpr ⟨?_, ?_, ?_⟩
      · exact guarded _ (List.mem_singleton.mpr rfl)
      · exact groundsAll_source _ fun p member => declared p (List.mem_append_left _ member)
      · exact groundsAll_source _ fun p member => declared p (List.mem_append_right _ member)

/-- The guards of a variable are grounded if its parameters are declared. -/
theorem groundsAll_guards {v : Variable}
    (declared : ∀ p ∈ v.parameters, t.parameters.contains p.name = true) :
    ∀ entry ∈ v.conditions, t.GroundsAll entry.2 := by
  cases v with
  | coalesced name first second =>
      have grounds : t.GroundsAll first.expr :=
        groundsAll_source _ fun p member => declared p (List.mem_append_left _ member)
      simpa [Variable.conditions] using grounds
  | _ => simp [Variable.conditions]

end Template

namespace Json

variable {t : Template}

theorem callsOnly_strings (items : List String) : CallsOnly t.Grounds (.strings items) := by
  refine callsOnly_array fun item member => ?_
  obtain ⟨s, _, rfl⟩ := List.mem_map.mp member
  exact callsOnly_string s

/-- An optional member has what its value has, if it is there. -/
theorem forall_mem_optional_iff {name : String} {value : Option Json}
    {holds : String × Json → Prop} :
    (∀ member ∈ optional name value, holds member) ↔
      ∀ json, value = some json → holds (name, json) := by
  cases value <;> simp [optional]

/-- A statement has only grounded calls if its resources are grounded. -/
theorem callsOnly_statement {s : PolicyStatement} (grounds : ∀ e ∈ s.resources, t.GroundsAll e) :
    CallsOnly t.Grounds s.toJson := by
  have resources : CallsOnly t.Grounds (.array (s.resources.map Expr.toJson)) := by
    refine callsOnly_array fun item member => ?_
    obtain ⟨e, listed, rfl⟩ := List.mem_map.mp member
    exact callsOnly_toJson (grounds e listed)
  have services : ∀ names, CallsOnly t.Grounds (.object [("Service", .strings names)]) := by
    intro names
    apply callsOnly_object
    simp [Expr.functions, callsOnly_strings]
  apply callsOnly_object
  simp only [List.forall_mem_append, List.forall_mem_singleton, forall_mem_optional_iff,
    Option.map_eq_some_iff, callsOnly_string, callsOnly_strings]
  refine ⟨⟨⟨?_, ?_⟩, ?_⟩, ?_⟩
  · simp [Expr.functions]
  · rintro _ ⟨names, _, rfl⟩
    simp [Expr.functions, services]
  · simp [Expr.functions]
  · split <;> simp [Expr.functions, resources]

theorem callsOnly_policyDocument {statements : List PolicyStatement}
    (grounds : ∀ s ∈ statements, ∀ e ∈ s.resources, t.GroundsAll e) :
    CallsOnly t.Grounds (policyDocument statements) := by
  have each : CallsOnly t.Grounds (.array (statements.map PolicyStatement.toJson)) := by
    refine callsOnly_array fun item member => ?_
    obtain ⟨s, listed, rfl⟩ := List.mem_map.mp member
    exact callsOnly_statement (grounds s listed)
  apply callsOnly_object
  simp [Expr.functions, each]

/-- A variable may have the name of a function, since no value of a variable is a literal. -/
theorem exists_toJson_value_eq (v : Variable) : ∃ inner, v.value.toJson = .object inner := by
  cases v <;> exact ⟨_, rfl⟩

/-- Variables have only grounded calls if their values are grounded. -/
theorem callsOnly_variables {values : OrderedMap String Expr}
    (grounds : ∀ entry ∈ values.entries,
      (∃ inner, entry.2.toJson = .object inner) ∧ t.GroundsAll entry.2) :
    CallsOnly t.Grounds (.ofMap Expr.toJson values) := by
  refine callsOnly_object fun member present => ?_
  obtain ⟨entry, listed, rfl⟩ := List.mem_map.mp present
  obtain ⟨nested, grounded⟩ := grounds entry listed
  exact ⟨fun _ => nested, callsOnly_toJson grounded⟩

end Json

end Stackwright

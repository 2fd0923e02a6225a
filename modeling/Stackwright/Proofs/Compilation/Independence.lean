import Stackwright.Proofs.Compilation.Outcome
import Stackwright.Proofs.Compilation.Reads

/-!
# What the name and the settings decide

The name of a function is a default and its settings are properties of one resource; apart from
these the template comes from the requirements alone, and so does the verdict on it
(`independent_of_name_and_settings`). A setting may well be a text that looks like a name, but it
stands where no name is looked for (`Compilation.uses_functionResource`).
-/

namespace Stackwright

open Compilation

/-- The properties of the function that come from the settings. -/
def Compilation.settingProperties : List String :=
  ["Handler", "Runtime", "Timeout", "MemorySize", "Code"]

/-- The object without the members of the given names; the others keep their order. -/
def Json.withoutMembers (names : List String) : Json → Json
  | .object members => .object (members.filter fun member => !decide (member.1 ∈ names))
  | other => other

/-- The template without what comes from the name and the settings: the default of the parameter
for the base name, and some properties of the function. -/
def Template.unsettled (t : Template) : Template :=
  { t with
    parameters := t.parameters.modify "resourceName" fun declared =>
      { declared with defaultValue := none }
    resources := t.resources.modify "LambdaFunction" fun declared =>
      { declared with properties := declared.properties.withoutMembers settingProperties } }

namespace Compilation

variable {r : Requirements} {declared : OrderedMap String Expr}

/-- Apart from the members for settings, function resources with the same environment are the
same. -/
theorem withoutMembers_functionResource (values : OrderedMap String Expr) (s s' : Settings) :
    (functionResource values s).properties.withoutMembers settingProperties =
      (functionResource values s').properties.withoutMembers settingProperties := by
  have kept : ∀ s : Settings,
      (functionResource values s).properties.withoutMembers settingProperties = .object
        [("FunctionName", (envScoped (.ref resourceNameParameter)).toJson),
          ("Environment", .object [("Variables", .ofMap Expr.toJson values)]),
          ("Role", (Expr.getAtt roleId "Arn").toJson)] := by
    intro s
    cases size : s.memorySize <;> cases code : s.code <;>
      simp [functionResource, Json.withoutMembers, settingProperties, Json.optional, size, code]
  rw [kept, kept]

/-- Apart from the default of the function's name and the settings, what is assembled is the
same. -/
theorem unsettled_assembled (name name' : String) (s s' : Settings) :
    (assembled name r s declared).unsettled = (assembled name' r s' declared).unsettled := by
  have parameters : (assembled name r s declared).unsettled.parameters =
      (assembled name' r s' declared).unsettled.parameters := by
    simp only [Template.unsettled, assembled, parameters, declareFixed]
    exact OrderedMap.modify_insert_congr _ _ rfl
  have resources : (assembled name r s declared).unsettled.resources =
      (assembled name' r s' declared).unsettled.resources := by
    apply OrderedMap.eq_of_entries
    simp only [Template.unsettled, assembled, OrderedMap.modify, entries_resources, List.map_append,
      List.map_cons, withoutMembers_functionResource (environment r).1 s s']
    rfl
  exact (Template.mk.injEq ..).mpr ⟨parameters, rfl, resources, rfl⟩

/-- The same names are declared, whatever the settings are. -/
theorem declares_assembled (name name' : String) (s s' : Settings) :
    (assembled name r s declared).declares = (assembled name' r s' declared).declares := by
  have parameters : ∀ x, (assembled name r s declared).parameters.contains x =
      (assembled name' r s' declared).parameters.contains x := by
    intro x
    rw [Bool.eq_iff_iff, OrderedMap.contains_iff, OrderedMap.contains_iff]
    exact mem_keys_parameters.trans mem_keys_parameters.symm
  have resources : ∀ id, (assembled name r s declared).resources.contains id =
      (assembled name' r s' declared).resources.contains id := by
    intro id
    rw [Bool.eq_iff_iff, OrderedMap.contains_iff, OrderedMap.contains_iff, assembled, assembled,
      keys_resources, keys_resources]
  funext use
  cases use with
  | value x => simp only [Template.declares, Template.resolves, parameters, resources]
  | condition x => rfl
  | dependency id => exact resources id

/-- The same names are used at the same places, whatever the settings are. -/
theorem uses_assembled (name name' : String) (s s' : Settings) :
    (assembled name r s declared).uses = (assembled name' r s' declared).uses := by
  have function : ∀ s, Template.resourceUses functionId (functionResource (environment r).1 s) =
      Template.resourceUses functionId (functionResource (environment r).1 s') := by
    intro s
    simp only [Template.resourceUses, uses_functionResource]
    rfl
  simp only [Template.uses, assembled, entries_resources, List.flatMap_append, List.flatMap_cons,
    function s]

/-- The name and the settings have no part in which name is found open. -/
theorem firstOpen_assembled (name name' : String) (s s' : Settings) :
    (assembled name r s declared).firstOpen = (assembled name' r s' declared).firstOpen := by
  rw [Template.firstOpen, Template.firstOpen, uses_assembled name name' s s',
    declares_assembled name name' s s']

end Compilation

/-- **The name and the settings decide nothing else.** Under any two names and settings a function
fails with one error, or it compiles to templates that are the same but for the default of the base
name and the properties of the function that come from its settings. -/
theorem independent_of_name_and_settings (r : Requirements) (name name' : String)
    (s s' : Settings) :
    (∃ error, (compile name r s).result = .error error ∧
        (compile name' r s').result = .error error) ∨
      ∃ t t', (compile name r s).result = .ok t ∧ (compile name' r s').result = .ok t' ∧
        t.unsettled = t'.unsettled := by
  cases listed : firstWithoutActions r.permissions with
  | some error => exact .inl ⟨error, by simp [compile, listed], by simp [compile, listed]⟩
  | none =>
    cases separate : referenceCollision [] r.references with
    | some error =>
      exact .inl ⟨error, by simp [compile, listed, separate], by simp [compile, listed, separate]⟩
    | none =>
      cases collected : conditions r with
      | error error =>
        exact .inl ⟨error, by simp [compile, listed, separate, collected],
          by simp [compile, listed, separate, collected]⟩
      | ok declared =>
        rw [compile_result_eq listed separate collected,
          compile_result_eq listed separate collected, firstOpen_assembled name name' s s']
        cases (assembled name' r s' declared).firstOpen with
        | some use => exact .inl ⟨_, rfl, rfl⟩
        | none => exact .inr ⟨_, _, rfl, rfl, unsettled_assembled name name' s s'⟩

end Stackwright

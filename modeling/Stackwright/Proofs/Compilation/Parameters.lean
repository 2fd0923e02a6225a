import Stackwright.Proofs.Compilation.NameKinds

/-!
# The parameters of a function

A template declares the names that the parts of the function require and the two fixed ones, each
once, in the order in which they are first required, and all as text. Leaving out equal
declarations before they are merged does not change that order, and a fixed name that the function
requires itself stays in its place and loses the default that the function gave it
(`declaresRequired_of_compile`).
-/

namespace Stackwright

open Compilation

/-- The name of the parameter that carries the output. -/
def Reference.carrier (a : Reference) : String := a.category ++ a.resource ++ a.output

/-- The parameter by which the API of a table is known. -/
def Table.carrier (host : Table) : String := "api" ++ host.apiName ++ "GraphQLAPIIdOutput"

def ValueSource.requiredName : ValueSource → String
  | .reference a => a.carrier
  | .parameter p => p.name

/-- The names of the parameters that a permission requires. -/
def Permission.requiredNames : Permission → List String
  | .table host _ => [host.carrier]
  | .userPool pool _ => ["auth" ++ pool.authName ++ "UserPoolId"]
  | .sendMail identity => [identity.name]
  | .iamAction _ resources => resources.filterMap fun
    | .literal _ => none
    | .reference a => some a.carrier

/-- The names of the parameters that a variable requires. -/
def Variable.requiredNames : Variable → List String
  | .tableName host => [host.carrier]
  | .parameter _ p => [p.name]
  | .resourceOutput _ a => [a.carrier]
  | .coalesced _ first second => [first.requiredName, second.requiredName]

namespace Requirements

/-- The names of the parameters that a template of the function needs, with repetitions: those that
its permissions, its variables and its event source require, and the two fixed ones. -/
def requiredNames (r : Requirements) : List String :=
  r.permissions.flatMap Permission.requiredNames ++ r.environment.flatMap Variable.requiredNames ++
    r.eventSource.toList.map Table.carrier ++ ["env", "resourceName"]

/-- The template of the function declares the required names in order, and nothing else. -/
structure DeclaresRequired (r : Requirements) (name : String) (t : Template) : Prop where
  keys : t.parameters.keys = r.requiredNames.eraseDups
  type : ∀ entry ∈ t.parameters.entries, entry.2.type = "String"
  env : t.parameters.get? "env" = some ⟨"String", none⟩
  baseName : t.parameters.get? "resourceName" = some ⟨"String", some name⟩
  ofReference : ∀ a ∈ r.references, a.carrier ∈ t.parameters.keys

end Requirements

/-- A source requires the one parameter that carries its value. -/
theorem ValueSource.map_name_parameters (source : ValueSource) :
    source.parameters.map Parameter.name = [source.requiredName] := by
  cases source <;> rfl

theorem Permission.map_name_parameters (p : Permission) :
    p.parameters.map Parameter.name = p.requiredNames := by
  cases p with
  | iamAction actions resources =>
    rw [parameters, requiredNames, List.map_map, List.map_filterMap]
    refine congrArg (List.filterMap · resources) (funext fun resource => ?_)
    cases resource <;> rfl
  | _ => rfl

/-- The parameters of a variable have the names that it requires. -/
theorem Variable.map_name_parameters (v : Variable) :
    v.parameters.map Parameter.name = v.requiredNames := by
  cases v with
  | coalesced name first second =>
    rw [parameters, List.map_append, first.map_name_parameters, second.map_name_parameters]
    rfl
  | _ => rfl

/-- The required names are those of the parameters that the parts of the function need. -/
theorem Requirements.requiredNames_eq (r : Requirements) : r.requiredNames =
    r.parameters.map Parameter.name ++ [envParameter, resourceNameParameter] := by
  simp only [requiredNames, parameters, List.map_append, List.map_flatMap,
    Permission.map_name_parameters, Variable.map_name_parameters]
  cases r.eventSource <;> rfl

namespace Compilation

/-- The names stand where they are first required, whether or not equal declarations are merged
before. -/
theorem keys_parameters (name : String) (r : Requirements) :
    (parameters name r).1.keys = r.requiredNames.eraseDups := by
  -- different declarations can share a name, so merging equal ones still leaves repeated names
  rw [r.requiredNames_eq]
  calc
    _ = (r.parameters.eraseDups.map Parameter.name ++
        [envParameter, resourceNameParameter]).eraseDups := by
      rw [parameters_fst, OrderedMap.keys_ofList, List.map_append, List.map_map]
      rfl
    _ = _ := eraseDups_append_congr (eraseDups_map_eraseDups Parameter.name r.parameters) _

/-- All parameters hold text. -/
theorem type_eq_of_mem_parameters {name : String} {r : Requirements}
    {entry : String × ParameterDecl} (member : entry ∈ (parameters name r).1.entries) :
    entry.2.type = "String" := by
  rw [parameters_fst] at member
  rcases List.mem_append.mp (OrderedMap.mem_entries_ofList member) with required | fixed
  · obtain ⟨p, _, rfl⟩ := List.mem_map.mp required
    rfl
  · simp only [List.mem_cons, List.not_mem_nil, or_false] at fixed
    rcases fixed with rfl | rfl <;> rfl

/-- The parameter of every discovered reference is declared. -/
theorem parameterName_mem_keys_parameters (name : String) {r : Requirements} {a : Reference}
    (discovered : a ∈ r.references) : a.parameterName ∈ (parameters name r).1.keys := by
  have required := Requirements.toParameter_mem (firstByKey_subset discovered)
  exact mem_keys_parameters.mpr (.inr (.inr ⟨a.toParameter, required, rfl⟩))

end Compilation

/-- **The parameters are the required names in order.** No name is missing, repeated or added, and
the fixed ones are declared alike for every function. -/
theorem declaresRequired_of_compile {name : String} {r : Requirements} {s : Settings}
    {t : Template} (compiled : (compile name r s).result = .ok t) : r.DeclaresRequired name t := by
  obtain ⟨_, _, declared, _, rfl, _⟩ := compile_eq_ok_iff.mp compiled
  exact {
    keys := keys_parameters name r
    type := fun _ member => type_eq_of_mem_parameters member
    env := get?_parameters name r envParameter
    baseName := get?_parameters name r resourceNameParameter
    ofReference := fun _ discovered => parameterName_mem_keys_parameters name discovered }

/-- A function that requires one parameter twice, with different defaults, and a fixed one between
others. -/
def ownEnvironment : Requirements where
  permissions := [.sendMail ⟨"sender", none⟩]
  environment := [.parameter "STAGE" ⟨"env", some "dev"⟩,
    .parameter "SENDER" ⟨"sender", some "mail"⟩, .resourceOutput "URL" ⟨"web", "Site", "Url"⟩]

/-- The fixed parameter keeps the place that the function gave it, without the default. -/
theorem declaresRequired_ownEnvironment : ∃ t, (compile "f" ownEnvironment {}).result = .ok t ∧
    t.parameters.keys = ["sender", "env", "webSiteUrl", "resourceName"] ∧
    t.parameters.get? "env" = some ⟨"String", none⟩ := by
  obtain ⟨t, compiled⟩ : ∃ t, (compile "f" ownEnvironment {}).result = .ok t :=
    exists_ok_of_isSome (by decide +kernel)
  have declares := declaresRequired_of_compile compiled
  exact ⟨t, compiled, declares.keys.trans (by decide +kernel), declares.env⟩

end Stackwright

import Stackwright.Proofs.Compilation.Outcome
import Stackwright.Proofs.Compilation.Sections
import Stackwright.Proofs.Deployment.Evaluation

/-!
# What compiled names and variables mean

Names with the suffix of the environment and guarded variables are choices by conditions that other
parts of the compiler write. The conditions of a function decide them as intended: the fixed one
says whether there is an environment, and the guard of a coalesced variable whether its first source
is filled. So a deployment gives every variable the meaning of its last declaration.
-/

namespace Stackwright

/-- A member of a written map is the written value. -/
theorem Json.get?_ofMap {α : Type} (encode : α → Json) (map : OrderedMap String α)
    (name : String) : (Json.ofMap encode map).get? name = (map.get? name).map encode := by
  rw [Json.ofMap, Json.get?, findEntry_map name Prod.fst fun entry => encode entry.2,
    OrderedMap.get?, findEntry_eq_find?, Option.map_map]
  rfl

open Compilation

section Evaluation

variable {name : String} {r : Requirements} {s : Settings} {declared : OrderedMap String Expr}
  {σ : Assignment}

attribute [local simp] Expr.truth Expr.text Expr.textAll

/-- The expression for a source evaluates to what the source means. -/
theorem ValueSource.text_expr (source : ValueSource) (holds : String → Option Bool) :
    source.expr.text σ holds = some (source.meaning σ) := by
  cases source <;> rfl

/-- The fixed condition holds when no environment is assigned. -/
theorem holds_noEnvironmentCondition (collected : conditions r = .ok declared) :
    (assembled name r s declared).holds σ noEnvironmentCondition =
      some (decide (σ envParameter = noEnvironment)) := by
  simp [Template.holds, assembled, get?_noEnvironmentCondition collected, noEnvironmentGuard]

/-- The guard of a coalesced variable holds when its first source is filled. -/
theorem holds_conditionName (collected : conditions r = .ok declared) {variableName : String}
    {first second : ValueSource} (member : .coalesced variableName first second ∈ r.environment) :
    (assembled name r s declared).holds σ (Variable.conditionName variableName) =
      some (decide (first.meaning σ ≠ "")) := by
  simp [Template.holds, assembled, get?_conditionName collected member, ValueSource.text_expr]

/-- A name with the suffix of the environment, if there is an environment. -/
def Assignment.scoped (σ : Assignment) (base : String) : String :=
  if σ "env" = "NONE" then base else base ++ "-" ++ σ "env"

/-- A name with the environment in it evaluates to the scoped name. -/
theorem text_envScoped (collected : conditions r = .ok declared) {base : Expr} {text : String}
    (evaluates : base.text σ ((assembled name r s declared).holds σ) = some text) :
    (envScoped base).text σ ((assembled name r s declared).holds σ) = some (σ.scoped text) := by
  have suffixed : σ.scoped text = if σ envParameter = noEnvironment then text
    else text ++ "-" ++ σ envParameter := rfl
  simp only [envScoped, Expr.text, Expr.textAll, holds_noEnvironmentCondition collected, evaluates]
  by_cases unscoped : σ envParameter = noEnvironment
  · simp [unscoped, suffixed]
  · simp [unscoped, suffixed, String.intercalate_cons_cons, String.append_assoc]

/-- The value of a listed variable evaluates to what the variable means. -/
theorem text_value (collected : conditions r = .ok declared) {v : Variable}
    (member : v ∈ r.environment) {meaning : String} (means : v.meaning? σ = some meaning) :
    v.value.text σ ((assembled name r s declared).holds σ) = some meaning := by
  cases v with
  | tableName host => cases means
  | parameter _ p => exact means
  | resourceOutput _ reference => exact means
  | coalesced variableName first second =>
      simp only [Variable.meaning?, Option.some.injEq] at means
      simp only [Variable.value, Expr.text, holds_conditionName collected member,
        ValueSource.text_expr, ← means]
      by_cases filled : first.meaning σ = "" <;> simp [filled]

/-- The function's name evaluates to the given name in its environment. -/
theorem textAt_functionName (collected : conditions r = .ok declared) :
    (assembled name r s declared).textAt σ functionId ["FunctionName"] =
      some (σ.scoped (σ resourceNameParameter)) := by
  have leads : (functionResource (environment r).1 s).properties.follow? ["FunctionName"] =
      some (envScoped (.ref resourceNameParameter)).toJson := by
    simp [functionResource, Json.follow?, Json.get?, findEntry]
  rw [Template.textAt_eq (get?_functionId _ s r) leads]
  exact text_envScoped collected rfl

/-- The role's name evaluates to that of the function with a suffix, in its environment. -/
theorem textAt_roleName (collected : conditions r = .ok declared) :
    (assembled name r s declared).textAt σ roleId ["RoleName"] =
      some (σ.scoped (σ resourceNameParameter ++ "LambdaRole")) := by
  have base : (Expr.join "" [.ref resourceNameParameter, .literal "LambdaRole"]).text σ
      ((assembled name r s declared).holds σ) = some (σ resourceNameParameter ++ "LambdaRole") := by
    simp [String.intercalate_cons_cons]
  have leads : roleResource.properties.follow? ["RoleName"] =
      some (envScoped (.join "" [.ref resourceNameParameter, .literal "LambdaRole"])).toJson := by
    simp [roleResource, Json.follow?, Json.get?, findEntry]
  rw [Template.textAt_eq (get?_roleId _ s r) leads]
  exact text_envScoped collected base

/-- The variables of the environment are properties of the function. -/
theorem follow?_variable (values : OrderedMap String Expr) (s : Settings) (x : String) :
    (functionResource values s).properties.follow? ["Environment", "Variables", x] =
      (values.get? x).map Expr.toJson := by
  have outer : (functionResource values s).properties.get? "Environment" =
      some (.object [("Variables", .ofMap Expr.toJson values)]) := by
    simp [functionResource, Json.get?, findEntry]
  have inner : (Json.object [("Variables", .ofMap Expr.toJson values)]).get? "Variables" =
      some (.ofMap Expr.toJson values) := by
    simp [Json.get?, findEntry]
  have held : (Json.ofMap Expr.toJson values).get? x = (values.get? x).map Expr.toJson :=
    Json.get?_ofMap Expr.toJson values x
  simp only [Json.follow?, List.foldlM_cons, List.foldlM_nil, Option.bind_eq_bind, outer, inner,
    held, Option.bind_some, Option.pure_def, Option.bind_fun_some]

/-- A variable of the function evaluates as its value in the merged environment does. -/
theorem textAt_variable {x : String} {e : Expr} (present : (environment r).1.get? x = some e) :
    (assembled name r s declared).textAt σ functionId ["Environment", "Variables", x] =
      e.text σ ((assembled name r s declared).holds σ) := by
  apply Template.textAt_eq (get?_functionId _ s r)
  rw [follow?_variable, present, Option.map_some]

/-- A declared variable evaluates to what the last declaration of its name means. -/
theorem textAt_declared (collected : conditions r = .ok declared) {x : String} {v : Variable}
    {meaning : String} (last : r.lastNamed x = some v) (means : v.meaning? σ = some meaning) :
    (assembled name r s declared).textAt σ functionId ["Environment", "Variables", x] =
      some meaning := by
  have member : v ∈ r.environment := List.mem_reverse.mp (List.mem_of_find?_eq_some last)
  have present : (environment r).1.get? x = some v.value := by
    rw [get?_environment, last, Option.map_some, Option.some_or]
  rw [textAt_variable present, text_value collected member means]

/-- The fixed variables keep their values unless they are declared anew. -/
theorem textAt_fixed {x : String} {parameter : String} (undeclared : r.lastNamed x = none)
    (fixed : (OrderedMap.ofList [("ENV", Expr.ref envParameter), ("REGION", Expr.region)]).get? x =
      some (.ref parameter)) :
    (assembled name r s declared).textAt σ functionId ["Environment", "Variables", x] =
      some (σ parameter) := by
  have present : (environment r).1.get? x = some (.ref parameter) := by
    rw [get?_environment, undeclared, Option.map_none, Option.none_or, fixed]
  rw [textAt_variable present, Expr.text]

end Evaluation

/-- **Compiled names and variables mean what was declared.** -/
theorem meaning_of_compile {name : String} {r : Requirements} {s : Settings} {t : Template}
    (compiled : (compile name r s).result = .ok t) (σ : Assignment) :
    t.textAt σ "LambdaFunction" ["FunctionName"] = some (σ.scoped (σ "resourceName")) ∧
    t.textAt σ "LambdaExecutionRole" ["RoleName"] =
      some (σ.scoped (σ "resourceName" ++ "LambdaRole")) ∧
    (∀ x v meaning, r.lastNamed x = some v → v.meaning? σ = some meaning →
      t.textAt σ "LambdaFunction" ["Environment", "Variables", x] = some meaning) ∧
    (r.lastNamed "ENV" = none →
      t.textAt σ "LambdaFunction" ["Environment", "Variables", "ENV"] = some (σ "env")) ∧
    (r.lastNamed "REGION" = none →
      t.textAt σ "LambdaFunction" ["Environment", "Variables", "REGION"] =
        some (σ "AWS::Region")) := by
  obtain ⟨_, _, declared, collected, rfl, _⟩ := compile_eq_ok_iff.mp compiled
  refine ⟨textAt_functionName collected, textAt_roleName collected, ?_, ?_, ?_⟩
  · intro x v meaning last means
    exact textAt_declared collected last means
  · exact fun undeclared => textAt_fixed undeclared rfl
  · exact fun undeclared => textAt_fixed undeclared rfl

/-- A variable declared anew, from a parameter first and then from two sources. -/
def redeclared : Requirements where
  environment :=
    [.parameter "DOMAIN" ⟨"fallback", none⟩,
      .coalesced "DOMAIN" (.parameter ⟨"custom", some ""⟩) (.reference ⟨"site", "Main", "Domain"⟩)]

/-- Deployed in `staging` without a custom domain, the function finds the domain of the site. -/
theorem meaning_redeclared :
    ∃ t, (compile "f" redeclared {}).result = .ok t ∧
      let σ : Assignment := fun name =>
        if name = "env" then "staging" else if name = "resourceName" then "f"
        else if name = "siteMainDomain" then "main.org" else ""
      t.textAt σ "LambdaFunction" ["FunctionName"] = some "f-staging" ∧
        t.textAt σ "LambdaFunction" ["Environment", "Variables", "DOMAIN"] = some "main.org" := by
  obtain ⟨t, compiled⟩ : ∃ t, (compile "f" redeclared {}).result = .ok t :=
    exists_ok_of_isSome (by decide +kernel)
  refine ⟨t, compiled, ?_, ?_⟩
  · exact (meaning_of_compile compiled _).1
  · exact (meaning_of_compile compiled _).2.2.1 "DOMAIN" _ _ rfl rfl

end Stackwright

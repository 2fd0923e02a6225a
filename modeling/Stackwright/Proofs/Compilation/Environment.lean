import Stackwright.Proofs.Compilation.Warnings

/-!
# The environment of a function

Variables are merged in order, after the two that every function has: a name keeps the place where
it first occurs, and takes the value of its last variable. Whether a variable replaces another value
depends on what its name holds at that moment, which is read off the variables before it; for just
these variables the overwriting is noticed (`environment_merged`).
-/

namespace Stackwright

open Compilation

namespace Variable

/-- The value that a name has in every environment. -/
def fixedValue? (x : String) : Option Expr :=
  if x = "ENV" then some (.ref "env")
  else if x = "REGION" then some (.ref "AWS::Region")
  else none

/-- What the name holds after the variables: the value of the last one so named, or else the fixed
one. -/
def valueAfter (vs : List Variable) (x : String) : Option Expr :=
  ((vs.reverse.find? fun v => decide (v.name = x)).map value).or (fixedValue? x)

/-- The name of the variable at that position holds a different value before it. -/
def Overwrites (vs : List Variable) (v : Variable) (position : Nat) : Prop :=
  ∃ held ∈ valueAfter (vs.take position) v.name, held ≠ v.value

instance (vs : List Variable) (v : Variable) (position : Nat) :
    Decidable (Overwrites vs v position) :=
  inferInstanceAs (Decidable (∃ _ ∈ _, _))

end Variable

namespace Requirements

/-- The names of the variables that overwrite a different value, in order. -/
def overwritten (r : Requirements) : List String :=
  (r.environment.zipIdx.filter fun (v, position) =>
    decide (Variable.Overwrites r.environment v position)).map fun (v, _) => v.name

/-- The members are the fixed names and those of the variables, each where it first occurs, with
the value of its last variable. -/
structure MergesInto (r : Requirements) (members : List (String × Json)) : Prop where
  names : members.map Prod.fst = (["ENV", "REGION"] ++ r.environment.map Variable.name).eraseDups
  value : ∀ x, findEntry x members =
    (Variable.valueAfter r.environment x).map Expr.toJson

end Requirements

/-- The members of an object. -/
def Json.members? : Json → Option (List (String × Json))
  | .object members => some members
  | _ => none

/-- The members of the object in which a function resource lists its variables. -/
def ResourceDecl.variables? (d : ResourceDecl) : Option (List (String × Json)) :=
  (d.properties.follow? ["Environment", "Variables"]).bind Json.members?

def Template.variables? (t : Template) : Option (List (String × Json)) :=
  (t.resources.get? "LambdaFunction").bind ResourceDecl.variables?

/-- The name of a variable that is noticed to overwrite another value. -/
def Notice.overwritten? : Notice → Option String
  | .variableOverwritten name => some name
  | _ => none

namespace Compilation

/-- The variables that are noticed to overwrite another value, in order. -/
def overwritten (c : Compilation) : List String := c.notices.filterMap Notice.overwritten?

/-- Compiling gets as far as putting the resources together. -/
def Assembles (c : Compilation) : Prop :=
  ∀ error, c.result = .error error → ∃ use, error = .openName use

/-- The environment before the first variable. -/
def fixedVariables : OrderedMap String Expr :=
  .ofList [("ENV", .ref envParameter), ("REGION", .region)]

/-- The fixed variables are the two that every function has. -/
theorem get?_fixedVariables (x : String) : fixedVariables.get? x = Variable.fixedValue? x := by
  rw [fixedVariables, OrderedMap.ofList, OrderedMap.get?_insertMany, OrderedMap.get?_empty,
    Option.or_none, Variable.fixedValue?]
  by_cases env : x = "ENV"
  · subst env
    rfl
  · by_cases region : x = "REGION"
    · subst region
      rfl
    · simp [findEntry, env, region, Ne.symm env, Ne.symm region]

/-- After any variables, a name holds the value of the last one or the fixed one. -/
theorem get?_addVariables_fixedVariables (vs : List Variable) (x : String) :
    (addVariables fixedVariables vs).1.get? x = Variable.valueAfter vs x := by
  rw [addVariables_fst, OrderedMap.get?_insertMany, ← List.map_reverse, findEntry_map,
    get?_fixedVariables, Variable.valueAfter]

/-- The names of the environment are the fixed ones and then those of the variables, each where it
came first. -/
theorem keys_environment (r : Requirements) : (environment r).1.keys =
    (["ENV", "REGION"] ++ r.environment.map Variable.name).eraseDups := by
  have fixed : fixedVariables.keys = ["ENV", "REGION"] := by decide
  change (addVariables fixedVariables r.environment).1.keys = _
  rw [addVariables_fst, OrderedMap.keys_insertMany, fixed, List.map_map]
  rfl

/-- The environment, written as JSON, holds the variables merged. -/
theorem mergesInto_environment (r : Requirements) : r.MergesInto
    ((environment r).1.entries.map fun entry => (entry.1, entry.2.toJson)) where
  names := by
    rw [List.map_map]
    exact keys_environment r
  value := by
    intro x
    have held : (environment r).1.get? x = Variable.valueAfter r.environment x :=
      get?_addVariables_fixedVariables r.environment x
    rw [← held]
    exact Json.get?_ofMap Expr.toJson (environment r).1 x

/-- The variables of a function resource are the values that it was made with. -/
theorem variables?_functionResource (values : OrderedMap String Expr) (s : Settings) :
    (functionResource values s).variables? =
      some (values.entries.map fun entry => (entry.1, entry.2.toJson)) := by
  simp [functionResource, ResourceDecl.variables?, Json.follow?, Json.get?, findEntry, Json.ofMap,
    Json.members?]

/-- The assembled template passes the merged environment to the function. -/
theorem variables?_assembled (name : String) (r : Requirements) (s : Settings)
    (declared : OrderedMap String Expr) : (assembled name r s declared).variables? =
      some ((environment r).1.entries.map fun entry => (entry.1, entry.2.toJson)) := by
  have function : (assembled name r s declared).resources.get? "LambdaFunction" =
    some (functionResource (environment r).1 s) := get?_functionId _ s r
  rw [Template.variables?, function, Option.bind_some, variables?_functionResource]

/-- A variable gives a notice if its name holds another value after those before it. -/
theorem addVariables_cons_snd (before : List Variable) (v : Variable) (rest : List Variable) :
    (addVariables (addVariables fixedVariables before).1 (v :: rest)).2 =
      (if Variable.Overwrites (before ++ v :: rest) v before.length
        then [.variableOverwritten v.name] else []) ++
      (addVariables (addVariables fixedVariables (before ++ [v])).1 rest).2 := by
  have held := get?_addVariables_fixedVariables before v.name
  rw [addVariables_append_singleton_fst, addVariables, held]
  simp only [Variable.Overwrites, List.take_left']
  cases Variable.valueAfter before v.name <;> simp

/-- The variables from a position on give a notice for each of them that overwrites. -/
theorem addVariables_snd (before rest : List Variable) :
    (addVariables (addVariables fixedVariables before).1 rest).2 =
      ((rest.zipIdx before.length).filter fun (v, position) =>
        decide (Variable.Overwrites (before ++ rest) v position)).map
          fun (v, _) => .variableOverwritten v.name := by
  -- positions count from the start, so each step moves its variable to those before
  induction rest generalizing before with
  | nil => rfl
  | cons v rest ih =>
    have later := ih (before ++ [v])
    rw [List.length_append, List.length_singleton, List.append_assoc, List.singleton_append]
      at later
    rw [addVariables_cons_snd, later, List.zipIdx_cons, List.filter_cons]
    by_cases overwrites : Variable.Overwrites (before ++ v :: rest) v before.length <;>
      simp [overwrites]

/-- The environment reports every variable that was overwritten, in order, and nothing else. -/
theorem environment_snd (r : Requirements) :
    (environment r).2 = r.overwritten.map .variableOverwritten := by
  rw [Requirements.overwritten, List.map_map]
  exact addVariables_snd [] r.environment

/-- The names in the notices of the environment are those overwritten. -/
theorem filterMap_overwritten?_environment (r : Requirements) :
    (environment r).2.filterMap Notice.overwritten? = r.overwritten := by
  rw [environment_snd, List.filterMap_map]
  exact List.filterMap_some

/-- No notice about a parameter is one about a variable. -/
theorem filterMap_overwritten?_parameters {name : String} {r : Requirements}
    {notices : List Notice} (given : notices ⊆ (parameters name r).2) :
    notices.filterMap Notice.overwritten? = [] := by
  rw [List.filterMap_eq_nil_iff]
  intro notice member
  rcases mem_parameters_snd_cases (given member) with ⟨_, _, _, rfl⟩ | ⟨_, rfl⟩ <;> rfl

/-- Notices about the environment are given if the resources are put together. -/
theorem notices_compile (name : String) (r : Requirements) (s : Settings) :
    ((compile name r s).Assembles ∧ ∃ last, last.filterMap Notice.overwritten? = [] ∧
        (compile name r s).notices = (parameters name r).2 ++ (environment r).2 ++ last) ∨
      ¬ (compile name r s).Assembles ∧ (compile name r s).notices ⊆ (parameters name r).2 := by
  cases listed : firstWithoutActions r.permissions with
  | some error =>
    obtain ⟨label, rfl⟩ := firstWithoutActions_error listed
    exact .inr (by simp [compile, listed, Assembles])
  | none =>
    cases separate : referenceCollision [] r.references with
    | some error =>
      obtain ⟨parameter, first, second, rfl⟩ := referenceCollision_error separate
      exact .inr (by simp [compile, listed, separate, Assembles])
    | none =>
      cases collected : conditions r with
      | error reason =>
        obtain ⟨condition, variableName, rfl⟩ := conditions_error collected
        exact .inr (by simp [compile, listed, separate, collected, Assembles])
      | ok declared =>
        left
        simp only [compile, listed, separate, collected]
        split
        · exact ⟨by simp [Assembles], [], rfl, (List.append_nil _).symm⟩
        · exact ⟨by simp [Assembles], [_], rfl, rfl⟩

end Compilation

/-- **The environment is an ordered merge in which later variables win.** Its names stand where they
first occur and hold the values of their last variables; a variable is noticed exactly if its name
holds a different value before it, provided that compiling gets that far. -/
theorem environment_merged (name : String) (r : Requirements) (s : Settings) :
    (∃ members, (functionResource (environment r).1 s).variables? = some members ∧
        r.MergesInto members) ∧
      (∀ t, (compile name r s).result = .ok t →
        ∃ members, t.variables? = some members ∧ r.MergesInto members) ∧
      (environment r).2 = r.overwritten.map .variableOverwritten ∧
      ((compile name r s).Assembles → (compile name r s).overwritten = r.overwritten) ∧
      (¬ (compile name r s).Assembles → (compile name r s).overwritten = []) := by
  refine ⟨⟨_, variables?_functionResource _ s, mergesInto_environment r⟩, ?_, environment_snd r,
    ?_, ?_⟩
  · intro t compiled
    obtain ⟨_, _, declared, _, rfl, _⟩ := compile_eq_ok_iff.mp compiled
    exact ⟨_, variables?_assembled name r s declared, mergesInto_environment r⟩
  · intro assembles
    rcases notices_compile name r s with ⟨_, last, unrelated, given⟩ | ⟨stops, _⟩
    · rw [overwritten, given, List.filterMap_append, List.filterMap_append, unrelated,
        filterMap_overwritten?_parameters (List.Subset.refl _),
        filterMap_overwritten?_environment, List.nil_append, List.append_nil]
    · exact (stops assembles).elim
  · intro stops
    rcases notices_compile name r s with ⟨assembles, _⟩ | ⟨_, given⟩
    · exact (stops assembles).elim
    · exact filterMap_overwritten?_parameters given

/-- Variables that take the names of a fixed one and of a derived one, and one declared alike
again. -/
def clashingNames : Requirements where
  environment := [.tableName ⟨"Shop", "orders"⟩, .parameter "STAGE" ⟨"stage", none⟩,
    .parameter "ENV" ⟨"stage", none⟩, .parameter "STAGE" ⟨"stage", none⟩,
    .parameter "ORDERS_TABLE_NAME" ⟨"table", none⟩]

/-- A variable that clashes with a fixed one, and two that clash with each other. -/
theorem environment_clashingNames : ∃ t, (compile "f" clashingNames {}).result = .ok t ∧
    (∃ members, t.variables? = some members ∧ members.map Prod.fst =
      ["ENV", "REGION", "ORDERS_TABLE_NAME", "STAGE"]) ∧
    (compile "f" clashingNames {}).overwritten = ["ENV", "ORDERS_TABLE_NAME"] := by
  obtain ⟨t, compiled⟩ : ∃ t, (compile "f" clashingNames {}).result = .ok t :=
    exists_ok_of_isSome (by decide +kernel)
  obtain ⟨_, held, _, noticed, _⟩ := environment_merged "f" clashingNames {}
  have assembles : (compile "f" clashingNames {}).Assembles := by
    intro error failed
    rw [compiled] at failed
    cases failed
  obtain ⟨members, listed, merges⟩ := held t compiled
  exact ⟨t, compiled, ⟨members, listed, merges.names.trans (by decide +kernel)⟩,
    (noticed assembles).trans (by decide +kernel)⟩

end Stackwright

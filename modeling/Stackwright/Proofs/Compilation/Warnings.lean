import Mathlib.Data.List.Nodup
import Stackwright.Proofs.Compilation.Defaults
import Stackwright.Proofs.Deployment.Meaning
import Stackwright.Proofs.OrderedMap.Keys

/-!
# Compiling without a warning

Each merge of a section warns where a later declaration replaces an earlier one. Without a warning,
every declaration of the function is in the template as it was declared, and so are the fixed ones;
and then there is a warning only if the function declares a fixed parameter of its own
(`silent_iff_of_compile`).
-/

namespace Stackwright

open Compilation

/-- No notice is a warning. -/
def Compilation.Silent (c : Compilation) : Prop := ∀ notice ∈ c.notices, notice.isWarning = false

namespace Requirements

/-- No part of the function declares a fixed parameter. -/
def LeavesFixed (r : Requirements) : Prop :=
  ∀ p ∈ r.parameters, p.name ≠ "env" ∧ p.name ≠ "resourceName"

/-- Different declarations have different names exactly if no name has two defaults. -/
theorem nodup_names_iff {r : Requirements} :
    (r.parameters.eraseDups.map Parameter.name).Nodup ↔ r.DefaultsAgree := by
  rw [List.nodup_map_iff_inj_on (nodup_eraseDups r.parameters)]
  simp only [List.mem_eraseDups]
  constructor
  · intro same p first q second names
    exact congrArg Parameter.defaultValue (same p first q second names)
  · intro agree p first q second names
    have defaults := agree p first q second names
    cases p
    cases q
    exact congrArg₂ Parameter.mk names defaults

end Requirements

namespace Template

/-- The value of a variable in the environment of the function. -/
def environmentValue? (t : Template) (x : String) : Option Json := do
  let function ← t.resources.get? "LambdaFunction"
  function.properties.follow? ["Environment", "Variables", x]

/-- Every declaration, of the function and fixed, is in the template as it was declared. -/
structure LosesNothing (t : Template) (name : String) (r : Requirements) : Prop where
  ofParameter : ∀ p ∈ r.parameters, t.parameters.get? p.name = some ⟨"String", p.defaultValue⟩
  ofVariable : ∀ v ∈ r.environment, t.environmentValue? v.name = some v.value.toJson
  env : t.parameters.get? "env" = some ⟨"String", none⟩
  baseName : t.parameters.get? "resourceName" = some ⟨"String", some name⟩
  fixedEnv : t.environmentValue? "ENV" = some (Expr.ref "env").toJson
  fixedRegion : t.environmentValue? "REGION" = some (Expr.ref "AWS::Region").toJson

/-- The value under a name in the assembled template is the one of the merged environment. -/
theorem environmentValue?_assembled (name : String) (r : Requirements) (s : Settings)
    (declared : OrderedMap String Expr) (x : String) :
    (assembled name r s declared).environmentValue? x =
      ((environment r).1.get? x).map Expr.toJson := by
  have function : (assembled name r s declared).resources.get? "LambdaFunction" =
      some (functionResource (environment r).1 s) := get?_functionId _ s r
  simp only [environmentValue?, function, Option.bind_eq_bind, Option.bind_some,
    follow?_variable]

end Template

/-- Different expressions are written differently. -/
theorem Expr.toJson_injective {a b : Expr} (same : a.toJson = b.toJson) : a = b := by
  have read := Expr.ofDatum?_toJson a
  rw [same, Expr.ofDatum?_toJson b, Option.some.injEq] at read
  exact read.symm

namespace Compilation

variable {name : String} {r : Requirements} {s : Settings} {t : Template}

/-- Declaring parameters is silent exactly if each name is new. -/
theorem declare_snd_eq_nil_iff (declared : OrderedMap String ParameterDecl)
    (ps : List Parameter) : (declare declared ps).2 = [] ↔
      (ps.map Parameter.name).Nodup ∧ ∀ p ∈ ps, p.name ∉ declared.keys := by
  induction ps generalizing declared with
  | nil => simp [declare]
  | cons p rest ih =>
    have step : (declare declared (p :: rest)).2 = [] ↔ p.name ∉ declared.keys ∧
        (declare (declared.insert p.name (.text p.defaultValue)) rest).2 = [] := by
      rw [← OrderedMap.contains_iff, OrderedMap.contains]
      cases held : declared.get? p.name <;> simp [declare, held]
    rw [step, ih, List.map_cons, List.nodup_cons, List.forall_mem_cons]
    simp only [OrderedMap.mem_keys_insert, not_or, List.mem_map, not_exists, not_and]
    grind

/-- The parameters are collected silently exactly if no name is declared with two defaults and no
fixed parameter is declared. -/
theorem parameters_snd_eq_nil_iff :
    (parameters name r).2 = [] ↔ r.DefaultsAgree ∧ r.LeavesFixed := by
  have apart : resourceNameParameter ≠ envParameter := by decide
  have fixed : r.LeavesFixed ↔ (¬ ∃ p ∈ r.parameters, p.name = envParameter) ∧
      ¬ ∃ p ∈ r.parameters, p.name = resourceNameParameter := by
    simp only [Requirements.LeavesFixed, envParameter, resourceNameParameter, not_exists, not_and,
      forall₂_and]
  simp [parameters, declareFixed, declare_snd_eq_nil_iff, Requirements.nodup_names_iff,
    OrderedMap.contains_iff, OrderedMap.mem_keys_insert, mem_keys_declare_iff, apart, fixed]

/-- Declaring parameters reports redeclared ones only. -/
theorem exists_eq_of_mem_declare {declared : OrderedMap String ParameterDecl}
    {ps : List Parameter} {notice : Notice} (member : notice ∈ (declare declared ps).2) :
    ∃ x first second, notice = .parameterRedeclared x first second := by
  induction ps generalizing declared with
  | nil => cases member
  | cons p rest ih =>
    rcases List.mem_append.mp member with first | later
    · split at first
      · exact ⟨_, _, _, List.mem_singleton.mp first⟩
      · cases first
    · exact ih later

/-- A notice about parameters is given for one declared anew or for a fixed one. -/
theorem mem_parameters_snd_cases {notice : Notice} (member : notice ∈ (parameters name r).2) :
    (∃ x first second, notice = .parameterRedeclared x first second) ∨
      ∃ x, notice = .fixedParameterOverrides x := by
  simp only [parameters, declareFixed, List.mem_append, List.mem_ite_nil_right,
    List.mem_singleton] at member
  rcases member with (redeclared | ⟨_, rfl⟩) | ⟨_, rfl⟩
  · exact .inl (exists_eq_of_mem_declare redeclared)
  · exact .inr ⟨_, rfl⟩
  · exact .inr ⟨_, rfl⟩

/-- Adding variables is silent exactly if it loses neither one of them nor what was there. -/
theorem addVariables_snd_eq_nil_iff (done : OrderedMap String Expr) (vs : List Variable) :
    (addVariables done vs).2 = [] ↔
      (∀ v ∈ vs, (addVariables done vs).1.get? v.name = some v.value) ∧
      ∀ x e, done.get? x = some e → (addVariables done vs).1.get? x = some e := by
  induction vs generalizing done with
  | nil => simp [addVariables]
  | cons v rest ih =>
    have step : (addVariables done (v :: rest)).2 = [] ↔
        (∀ previous, done.get? v.name = some previous → previous = v.value) ∧
          (addVariables (done.insert v.name v.value) rest).2 = [] := by
      cases held : done.get? v.name <;> simp [addVariables, held]
    have whole : (addVariables done (v :: rest)).1 =
        (addVariables (done.insert v.name v.value) rest).1 := rfl
    rw [step, ih, whole, List.forall_mem_cons]
    simp only [OrderedMap.get?_insert]
    grind

/-- Adding variables reports overwritten ones only. -/
theorem exists_eq_of_mem_addVariables {done : OrderedMap String Expr} {vs : List Variable}
    {notice : Notice} (member : notice ∈ (addVariables done vs).2) :
    ∃ x, notice = .variableOverwritten x := by
  induction vs generalizing done with
  | nil => cases member
  | cons v rest ih =>
    rcases List.mem_append.mp member with first | later
    · split at first
      · exact ⟨_, List.mem_singleton.mp first⟩
      · cases first
    · exact ih later

/-- The environment is collected silently exactly if each variable, and each of the two fixed ones,
keeps its value. -/
theorem environment_snd_eq_nil_iff : (environment r).2 = [] ↔
    (∀ v ∈ r.environment, (environment r).1.get? v.name = some v.value) ∧
      (environment r).1.get? "ENV" = some (.ref envParameter) ∧
      (environment r).1.get? "REGION" = some .region := by
  rw [environment, addVariables_snd_eq_nil_iff]
  refine and_congr_right fun _ => ⟨fun kept => ⟨kept _ _ rfl, kept _ _ rfl⟩, ?_⟩
  rintro ⟨env, region⟩ x e held
  rcases List.mem_cons.mp (OrderedMap.mem_entries_ofList (OrderedMap.get?_eq_some_iff.mp held))
    with first | second
  · cases first
    exact env
  · cases List.mem_singleton.mp second
    exact region

/-- Compilation reports on the parameters, then on the environment, and then that it is done. -/
theorem notices_of_compile (compiled : (compile name r s).result = .ok t) :
    (compile name r s).notices = (parameters name r).2 ++ (environment r).2 ++
      [.compiled name t.parameters.size t.conditions.size t.resources.size] := by
  obtain ⟨listed, separate, declared, collected, rfl, closed⟩ := compile_eq_ok_iff.mp compiled
  rw [← firstWithoutActions_eq_none_iff] at listed
  rw [← referenceCollision_nil_eq_none_iff] at separate
  rw [← Template.firstOpen_eq_none_iff, assembled] at closed
  simp only [compile, listed, separate, collected, closed, assembled]

/-- If all notices are warnings, none is only if there is none. -/
theorem forall_isWarning_eq_false_iff {notices : List Notice}
    (warn : ∀ notice ∈ notices, notice.isWarning = true) :
    (∀ notice ∈ notices, notice.isWarning = false) ↔ notices = [] := by
  rw [List.eq_nil_iff_forall_not_mem]
  refine forall₂_congr fun notice member => ?_
  simp [warn notice member]

/-- Compiling gives no notice but warnings and the last one, which says that it succeeded. -/
theorem silent_iff (compiled : (compile name r s).result = .ok t) :
    (compile name r s).Silent ↔ (parameters name r).2 = [] ∧ (environment r).2 = [] := by
  have ofParameters : ∀ notice ∈ (parameters name r).2, notice.isWarning = true := by
    intro notice member
    rcases mem_parameters_snd_cases member with ⟨_, _, _, rfl⟩ | ⟨_, rfl⟩ <;> rfl
  have ofVariables : ∀ notice ∈ (environment r).2, notice.isWarning = true := by
    intro notice member
    obtain ⟨_, rfl⟩ := exists_eq_of_mem_addVariables member
    rfl
  simp only [Silent, notices_of_compile compiled, List.forall_mem_append,
    forall_isWarning_eq_false_iff ofParameters, forall_isWarning_eq_false_iff ofVariables]
  simp [Notice.isWarning]

/-- Where defaults agree and fixed names are left alone, each parameter is declared with its own
default. -/
theorem get?_parameters_of_mem (fixed : r.LeavesFixed) (agree : r.DefaultsAgree) {p : Parameter}
    (member : p ∈ r.parameters) :
    (parameters name r).1.get? p.name = some (.text p.defaultValue) := by
  obtain ⟨q, introduced⟩ := Requirements.exists_lastIntroduced member
  obtain ⟨newest, same⟩ := Requirements.introducedLast_of_lastIntroduced introduced
  have notEnv : p.name ≠ envParameter := (fixed p member).1
  have notBase : p.name ≠ resourceNameParameter := (fixed p member).2
  rw [get?_parameters, if_neg notBase, if_neg notEnv, introduced, Option.map_some,
    agree q newest.1 p member same]

/-- The template loses nothing exactly if the merges lose nothing. -/
theorem losesNothing_assembled_iff {declared : OrderedMap String Expr} (fixed : r.LeavesFixed) :
    (assembled name r s declared).LosesNothing name r ↔
      r.DefaultsAgree ∧ (environment r).2 = [] := by
  have value : ∀ x e, (assembled name r s declared).environmentValue? x = some e.toJson ↔
      (environment r).1.get? x = some e := by
    intro x e
    rw [Template.environmentValue?_assembled, Option.map_eq_some_iff]
    exact ⟨fun ⟨_, held, same⟩ => Expr.toJson_injective same ▸ held, fun held => ⟨e, held, rfl⟩⟩
  rw [environment_snd_eq_nil_iff]
  constructor
  · intro whole
    refine ⟨fun p first q second same => ?_, fun v member => ?_, ?_, ?_⟩
    · have defaults := whole.ofParameter p first
      rw [same, whole.ofParameter q second, Option.some.injEq] at defaults
      exact (text_injective defaults).symm
    · exact (value _ _).mp (whole.ofVariable v member)
    · exact (value _ _).mp whole.fixedEnv
    · exact (value _ _).mp whole.fixedRegion
  · rintro ⟨agree, ofVariable, env, region⟩
    exact {
      ofParameter := fun p member => get?_parameters_of_mem fixed agree member
      ofVariable := fun v member => (value _ _).mpr (ofVariable v member)
      env := get?_parameters name r envParameter
      baseName := get?_parameters name r resourceNameParameter
      fixedEnv := (value _ _).mpr env
      fixedRegion := (value _ _).mpr region }

end Compilation

/-- **Nothing is lost silently.** A function compiles without a warning exactly if all that it
declares and all that is fixed is in the template, and it declares no fixed parameter itself. -/
theorem silent_iff_of_compile {name : String} {r : Requirements} {s : Settings} {t : Template}
    (compiled : (compile name r s).result = .ok t) :
    (compile name r s).Silent ↔ t.LosesNothing name r ∧ r.LeavesFixed := by
  rw [silent_iff compiled, parameters_snd_eq_nil_iff]
  obtain ⟨_, _, declared, _, rfl, _⟩ := compile_eq_ok_iff.mp compiled
  constructor
  · rintro ⟨⟨agree, fixed⟩, kept⟩
    exact ⟨(losesNothing_assembled_iff fixed).mpr ⟨agree, kept⟩, fixed⟩
  · rintro ⟨whole, fixed⟩
    obtain ⟨agree, kept⟩ := (losesNothing_assembled_iff fixed).mp whole
    exact ⟨⟨agree, fixed⟩, kept⟩

/-- A variable that is declared twice, of a parameter that a permission declares as well. -/
def repeatedAlike : Requirements where
  permissions := [.sendMail ⟨"sender", some "mail"⟩]
  environment := [.parameter "SENDER" ⟨"sender", some "mail"⟩,
    .parameter "SENDER" ⟨"sender", some "mail"⟩]

/-- Parameters and variables that are repeated alike are not lost. -/
theorem losesNothing_repeatedAlike : ∃ t, (compile "f" repeatedAlike {}).result = .ok t ∧
    t.LosesNothing "f" repeatedAlike := by
  obtain ⟨t, compiled⟩ : ∃ t, (compile "f" repeatedAlike {}).result = .ok t :=
    exists_ok_of_isSome (by decide +kernel)
  have silent : (compile "f" repeatedAlike {}).Silent :=
    (silent_iff compiled).mpr ⟨by decide +kernel, by decide +kernel⟩
  exact ⟨t, compiled, ((silent_iff_of_compile compiled).mp silent).1⟩

end Stackwright

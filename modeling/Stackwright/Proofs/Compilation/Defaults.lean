import Mathlib.Data.List.Basic
import Stackwright.Proofs.Compilation.Outcome
import Stackwright.Proofs.Compilation.Sections
import Stackwright.Proofs.FirstByKey

/-!
# Defaults of parameters

A parameter that several parts of a function declare gets one entry. Equal declarations count once,
where they first stand, and of the different ones the last gives the default. So the declaration
that stands last in the function gives it exactly if no other declaration of the name is new after
it (`default_of_compile`), and a default that is declared again after another one does not win
(`not_last_default_of_compile`).
-/

namespace Stackwright

open Compilation

/-- Without its repetitions a list is in the order of first occurrence. -/
theorem pairwise_idxOf_eraseDups {α : Type} [DecidableEq α] (items : List α) :
    items.eraseDups.Pairwise fun a b => items.idxOf a < items.idxOf b := by
  have ordered := pairwise_idxOf_firstByKey id items
  rwa [← List.map_id (firstByKey id items), map_firstByKey, List.map_id] at ordered

/-- A search from the end finds the last of the items that it looks for. -/
theorem eq_or_of_find?_reverse {α : Type} {before : α → α → Prop} {items : List α}
    (ordered : items.Pairwise before) {sought : α → Bool} {a b : α}
    (found : items.reverse.find? sought = some a) (member : b ∈ items) (wanted : sought b = true) :
    b = a ∨ before b a := by
  obtain ⟨_, back, front, split, passed⟩ := List.find?_eq_some_iff_append.mp found
  have placed : items = front.reverse ++ a :: back.reverse := by
    simpa using congrArg List.reverse split
  rw [placed, List.mem_append, List.mem_cons, List.mem_reverse, List.mem_reverse] at member
  rcases member with earlier | same | later
  · rw [placed] at ordered
    exact .inr ((List.pairwise_append.mp ordered).2.2 b (List.mem_reverse.mpr earlier) a
      List.mem_cons_self)
  · exact .inl same
  · simpa [wanted] using passed b later

namespace Requirements

/-- The declaration of the name that stands last. -/
def lastDeclared (r : Requirements) (name : String) : Option Parameter :=
  r.parameters.reverse.find? fun p => decide (p.name = name)

/-- The last new declaration of the name. -/
def lastIntroduced (r : Requirements) (name : String) : Option Parameter :=
  r.parameters.eraseDups.reverse.find? fun p => decide (p.name = name)

/-- No other declaration of the name first stands after `p` does. -/
def IntroducedLast (r : Requirements) (p : Parameter) : Prop :=
  p ∈ r.parameters ∧
    ∀ q ∈ r.parameters, q.name = p.name → r.parameters.idxOf q ≤ r.parameters.idxOf p

instance (r : Requirements) (p : Parameter) : Decidable (r.IntroducedLast p) :=
  inferInstanceAs (Decidable (_ ∧ _))

/-- No name is declared with two defaults. -/
def DefaultsAgree (r : Requirements) : Prop :=
  ∀ p ∈ r.parameters, ∀ q ∈ r.parameters, p.name = q.name → p.defaultValue = q.defaultValue

instance (r : Requirements) : Decidable r.DefaultsAgree :=
  inferInstanceAs (Decidable (∀ _ ∈ _, ∀ _ ∈ _, _))

/-- The last declaration under a name is among the declarations and has that name. -/
theorem mem_and_name_of_lastDeclared {r : Requirements} {x : String} {p : Parameter}
    (declared : r.lastDeclared x = some p) : p ∈ r.parameters ∧ p.name = x :=
  ⟨List.mem_reverse.mp (List.mem_of_find?_eq_some declared),
    by simpa using List.find?_some declared⟩

/-- The last declaration that was new under a name has that name and no later new one beside it. -/
theorem introducedLast_of_lastIntroduced {r : Requirements} {x : String} {p : Parameter}
    (introduced : r.lastIntroduced x = some p) : r.IntroducedLast p ∧ p.name = x := by
  have name : p.name = x := by simpa using List.find?_some introduced
  have member : p ∈ r.parameters :=
    List.mem_eraseDups.mp (List.mem_reverse.mp (List.mem_of_find?_eq_some introduced))
  refine ⟨⟨member, fun q present same => ?_⟩, name⟩
  have sought : decide (q.name = x) = true := decide_eq_true (same.trans name)
  rcases eq_or_of_find?_reverse (pairwise_idxOf_eraseDups r.parameters) introduced
    (List.mem_eraseDups.mpr present) sought with rfl | before
  · exact Nat.le_refl _
  · exact Nat.le_of_lt before

/-- Every name that is declared has a last new declaration. -/
theorem exists_lastIntroduced {r : Requirements} {p : Parameter} (member : p ∈ r.parameters) :
    ∃ q, r.lastIntroduced p.name = some q := by
  refine Option.isSome_iff_exists.mp (List.find?_isSome.mpr ⟨p, ?_, decide_eq_true rfl⟩)
  exact List.mem_reverse.mpr (List.mem_eraseDups.mpr member)

/-- One name has one last new declaration. -/
theorem IntroducedLast.unique {r : Requirements} {p q : Parameter} (first : r.IntroducedLast p)
    (second : r.IntroducedLast q) (same : p.name = q.name) : p = q := by
  have equal : r.parameters.idxOf p = r.parameters.idxOf q :=
    Nat.le_antisymm (second.2 p first.1 same) (first.2 q second.1 same.symm)
  exact (List.idxOf_inj first.1).mp equal

end Requirements

namespace Compilation

/-- Beside the two fixed parameters, each name has the default of its last new declaration. -/
theorem get?_parameters (name : String) (r : Requirements) (x : String) :
    (parameters name r).1.get? x =
      if x = resourceNameParameter then some (.text (some name))
      else if x = envParameter then some (.text none)
      else (r.lastIntroduced x).map fun p => .text p.defaultValue := by
  simp only [parameters, declareFixed, declare_fst, OrderedMap.get?_insert,
    OrderedMap.get?_insertMany, OrderedMap.get?_empty, Option.or_none, ← List.map_reverse,
    findEntry_map]
  rfl

/-- Text parameters with different defaults are different. -/
theorem text_injective {a b : Option String} (same : ParameterDecl.text a = .text b) : a = b :=
  congrArg ParameterDecl.defaultValue same

end Compilation

/-- **Which default is emitted.** It is that of the last new declaration of the name, so the
declaration that stands last gives it exactly if it is that one. -/
theorem default_of_compile {name : String} {r : Requirements} {s : Settings} {t : Template}
    (compiled : (compile name r s).result = .ok t) {x : String} {last : Parameter}
    (declared : r.lastDeclared x = some last) (notEnv : x ≠ "env") (notBase : x ≠ "resourceName") :
    (∃ p, r.IntroducedLast p ∧ p.name = x ∧
        t.parameters.get? x = some ⟨"String", p.defaultValue⟩) ∧
      (t.parameters.get? x = some ⟨"String", last.defaultValue⟩ ↔ r.IntroducedLast last) := by
  obtain ⟨_, _, _, _, rfl, _⟩ := compile_eq_ok_iff.mp compiled
  obtain ⟨member, rfl⟩ := Requirements.mem_and_name_of_lastDeclared declared
  obtain ⟨p, introduced⟩ := Requirements.exists_lastIntroduced member
  obtain ⟨newest, same⟩ := Requirements.introducedLast_of_lastIntroduced introduced
  have emitted : (parameters name r).1.get? last.name = some ⟨"String", p.defaultValue⟩ := by
    rw [get?_parameters, if_neg (show last.name ≠ resourceNameParameter from notBase),
      if_neg (show last.name ≠ envParameter from notEnv), introduced, Option.map_some]
    rfl
  refine ⟨⟨p, newest, same, emitted⟩, ?_⟩
  rw [assembled, emitted, Option.some.injEq]
  constructor
  · intro equal
    have whole : p = last := by
      cases p
      cases last
      exact congrArg₂ Parameter.mk same (ParameterDecl.mk.inj equal).2
    exact whole ▸ newest
  · intro newestLast
    rw [newest.unique newestLast same]

/-- A parameter whose first default is declared again after another one. -/
def alternatingDefaults : Requirements where
  environment :=
    [.parameter "FIRST" ⟨"level", some "a"⟩, .parameter "SECOND" ⟨"level", some "b"⟩,
      .parameter "THIRD" ⟨"level", some "a"⟩]

theorem compile_alternatingDefaults : ∃ t, (compile "f" alternatingDefaults {}).result = .ok t :=
  Compilation.exists_ok_of_isSome (by decide +kernel)

/-- With the defaults `a`, `b`, `a` the last declared default is not the one that the template
has. -/
theorem default_alternatingDefaults :
    alternatingDefaults.lastDeclared "level" = some ⟨"level", some "a"⟩ ∧
      ∃ t, (compile "f" alternatingDefaults {}).result = .ok t ∧
        t.parameters.get? "level" ≠ some ⟨"String", some "a"⟩ := by
  obtain ⟨t, compiled⟩ := compile_alternatingDefaults
  have declared : alternatingDefaults.lastDeclared "level" = some ⟨"level", some "a"⟩ := by
    decide +kernel
  have older : ¬ alternatingDefaults.IntroducedLast ⟨"level", some "a"⟩ := by decide +kernel
  exact ⟨declared, t, compiled, fun emitted =>
    older ((default_of_compile compiled declared (by decide) (by decide)).2.mp emitted)⟩

/-- The default that is emitted need not be the one declared last. -/
theorem not_last_default_of_compile :
    ¬ ∀ name r s t, (compile name r s).result = .ok t → ∀ x last,
      r.lastDeclared x = some last → x ≠ "env" → x ≠ "resourceName" →
      t.parameters.get? x = some ⟨"String", last.defaultValue⟩ := by
  intro wins
  obtain ⟨t, compiled⟩ := compile_alternatingDefaults
  have claimed := wins _ _ _ t compiled "level" ⟨"level", some "a"⟩ (by decide +kernel) (by decide)
    (by decide)
  obtain ⟨_, _, _, _, rfl, _⟩ := compile_eq_ok_iff.mp compiled
  have emitted : (parameters "f" alternatingDefaults).1.get? "level" =
      some ⟨"String", some "b"⟩ := by decide +kernel
  rw [assembled, emitted] at claimed
  revert claimed
  decide

end Stackwright

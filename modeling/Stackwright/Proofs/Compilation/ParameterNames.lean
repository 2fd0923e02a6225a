import Mathlib.Tactic.ByContra
import Stackwright.Proofs.Compilation.Outcome
import Stackwright.Proofs.Reference.Discovery

/-!
# References and the parameters they take

A reference takes the parameter that its three names spell without a joint, so different references
can take one parameter. Compiling reports that for references that are discovered. A reference
hidden behind another one of the same key is not looked at, and a function can compile with two
references that read one parameter. Names without hyphens hide nothing.
-/

namespace Stackwright

open Compilation Requirements

/-- Parameters of the discovered references are told apart unless two references that are not hidden
take the same one. -/
theorem not_namesSeparate_references_iff (r : Requirements) :
    ¬ NamesSeparate r.references ↔
      ∃ a ∈ r.allReferences, ∃ b ∈ r.allReferences, a ≠ b ∧ a.parameterName = b.parameterName ∧
        ¬ r.Hides a ∧ ¬ r.Hides b := by
  constructor
  · intro clash
    by_contra apart
    refine clash fun a first b second same => ?_
    by_contra different
    obtain ⟨memberFirst, shownFirst⟩ := mem_references_iff.mp first
    obtain ⟨memberSecond, shownSecond⟩ := mem_references_iff.mp second
    exact apart ⟨a, memberFirst, b, memberSecond, different, same, shownFirst, shownSecond⟩
  · rintro ⟨a, memberFirst, b, memberSecond, different, same, shownFirst, shownSecond⟩ separate
    exact different (separate a (mem_references_iff.mpr ⟨memberFirst, shownFirst⟩)
      b (mem_references_iff.mpr ⟨memberSecond, shownSecond⟩) same)

/-- **Which collisions of parameters are reported.** In a function that compiles, of two references
that take one parameter, one is hidden; and a collision is reported, once all permissions list an
action, exactly if two references that are not hidden take one parameter. -/
theorem compile_reports_collision_iff_discovered (name : String) (r : Requirements) (s : Settings) :
    (∀ t, (compile name r s).result = .ok t →
      ∀ a ∈ r.allReferences, ∀ b ∈ r.allReferences, a ≠ b → a.parameterName = b.parameterName →
        r.Hides a ∨ r.Hides b) ∧
    ((∃ parameter first second,
        (compile name r s).result = .error (.parameterNameCollision parameter first second)) ↔
      (∀ p ∈ r.permissions, p.hasNoActions = false) ∧
        ∃ a ∈ r.allReferences, ∃ b ∈ r.allReferences, a ≠ b ∧
          a.parameterName = b.parameterName ∧ ¬ r.Hides a ∧ ¬ r.Hides b) := by
  constructor
  · intro t compiled a first b second different same
    obtain ⟨_, separate, _⟩ := compile_eq_ok_iff.mp compiled
    by_contra shown
    rw [not_or] at shown
    exact (not_namesSeparate_references_iff r).mpr
      ⟨a, first, b, second, different, same, shown.1, shown.2⟩ separate
  · rw [compile_eq_parameterNameCollision_iff, not_namesSeparate_references_iff]

/-- The key `a--b-c` divided in two ways. -/
def hyphenPair : Requirements where
  environment :=
    [.resourceOutput "FIRST" ⟨"a", "-b", "c"⟩, .resourceOutput "SECOND" ⟨"a-", "b", "c"⟩]

theorem compile_hyphenPair : ∃ t, (compile "f" hyphenPair {}).result = .ok t :=
  Compilation.exists_ok_of_isSome (by decide +kernel)

/-- One of the two references of `hyphenPair` is hidden, as the pair compiles. -/
theorem hyphenPair_hides_one :
    (∃ t, (compile "f" hyphenPair {}).result = .ok t) ∧
      (hyphenPair.Hides ⟨"a", "-b", "c"⟩ ∨ hyphenPair.Hides ⟨"a-", "b", "c"⟩) := by
  obtain ⟨t, compiled⟩ := compile_hyphenPair
  exact ⟨⟨t, compiled⟩, (compile_reports_collision_iff_discovered "f" hyphenPair {}).1 t compiled
    ⟨"a", "-b", "c"⟩ (by decide) ⟨"a-", "b", "c"⟩ (by decide) (by decide) (by decide)⟩

/-- Compiling does not keep the parameters of all references apart. -/
theorem not_namesSeparate_of_compile :
    ¬ ∀ name r s t, (compile name r s).result = .ok t → NamesSeparate r.allReferences := by
  intro separate
  obtain ⟨t, compiled⟩ := compile_hyphenPair
  have same := separate "f" hyphenPair {} t compiled ⟨"a", "-b", "c"⟩ (by decide)
    ⟨"a-", "b", "c"⟩ (by decide) (by decide)
  exact absurd same (by decide)

/-- Where categories and resources hold no hyphen, a function that compiles reads different
references through different parameters. -/
theorem namesSeparate_of_compile_of_hyphenFree {name : String} {r : Requirements} {s : Settings}
    {t : Template} (compiled : (compile name r s).result = .ok t)
    (plain : ∀ a ∈ r.allReferences, '-' ∉ a.category.toList ∧ '-' ∉ a.resource.toList) :
    NamesSeparate r.allReferences := by
  obtain ⟨_, separate, _⟩ := compile_eq_ok_iff.mp compiled
  have discovered : ∀ a ∈ r.allReferences, a ∈ r.references := by
    intro a member
    refine mem_references_iff.mpr ⟨member, fun hidden => ?_⟩
    obtain ⟨b, memberOther, different, same⟩ := hidden.exists_key_eq
    exact different (Reference.eq_of_key_eq (plain b memberOther) (plain a member) same)
  exact fun a first b second => separate a (discovered a first) b (discovered b second)

end Stackwright

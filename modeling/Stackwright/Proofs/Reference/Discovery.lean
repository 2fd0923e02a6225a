import Stackwright.Proofs.FirstByKey

/-!
# Which references are discovered

The references of a function are listed once for each key, the first one of a key standing for the
rest. A key does not determine its reference: a hyphen inside a name reads like the joint between
two names. So a reference can be hidden by an earlier, different one (`Requirements.Hides`), unless
categories and resources hold no hyphen (`Reference.eq_of_key_eq`). All references are discovered
exactly if their keys tell them apart (`Requirements.discovers_references_iff`).
-/

namespace Stackwright

/-- The first hyphen of a text is found from either side. -/
theorem append_hyphen_inj {before before' after after' : List Char} (first : '-' ∉ before)
    (second : '-' ∉ before') (same : before ++ '-' :: after = before' ++ '-' :: after') :
    before = before' ∧ after = after' := by
  induction before generalizing before' with
  | nil =>
    cases before' with
    | nil => exact ⟨rfl, (List.cons.inj same).2⟩
    | cons c rest => exact (second ((List.cons.inj same).1 ▸ List.mem_cons_self)).elim
  | cons c rest ih =>
    cases before' with
    | nil => exact (first ((List.cons.inj same).1 ▸ List.mem_cons_self)).elim
    | cons c' rest' =>
      obtain ⟨head, tail⟩ := List.cons.inj same
      obtain ⟨equal, left⟩ := ih (fun member => first (List.mem_cons_of_mem _ member))
        (fun member => second (List.mem_cons_of_mem _ member)) tail
      exact ⟨by rw [head, equal], left⟩

namespace Reference

theorem key_eq_groupKey (r : Reference) : r.key = r.groupKey ++ "-" ++ r.output := rfl

/-- The key of a group is a category and a resource with a hyphen between them. -/
theorem toList_groupKey (r : Reference) :
    r.groupKey.toList = r.category.toList ++ '-' :: r.resource.toList := by
  simp [groupKey]

/-- Within a group the output determines the key, and the key the output. -/
theorem key_eq_iff_of_groupKey_eq {a b : Reference} (group : a.groupKey = b.groupKey) :
    a.key = b.key ↔ a.output = b.output := by
  rw [key_eq_groupKey, key_eq_groupKey, group, ← String.toList_inj, ← String.toList_inj]
  simp

/-- Between categories without a hyphen, the joint in a group key can be told. -/
theorem resource_eq_of_groupKey_eq {a b : Reference} (first : '-' ∉ a.category.toList)
    (second : '-' ∉ b.category.toList) (group : a.groupKey = b.groupKey) :
    a.category = b.category ∧ a.resource = b.resource := by
  rw [← String.toList_inj, toList_groupKey, toList_groupKey] at group
  obtain ⟨category, resource⟩ := append_hyphen_inj first second group
  exact ⟨String.toList_inj.mp category, String.toList_inj.mp resource⟩

/-- Without a hyphen in its category and its resource, a reference is determined by its key. -/
theorem eq_of_key_eq {a b : Reference}
    (first : '-' ∉ a.category.toList ∧ '-' ∉ a.resource.toList)
    (second : '-' ∉ b.category.toList ∧ '-' ∉ b.resource.toList) (same : a.key = b.key) :
    a = b := by
  obtain ⟨c, n, o⟩ := a
  obtain ⟨c', n', o'⟩ := b
  simp only [key, ← String.toList_inj, String.toList_append] at same
  have split : c.toList ++ '-' :: (n.toList ++ '-' :: o.toList) =
      c'.toList ++ '-' :: (n'.toList ++ '-' :: o'.toList) := by
    simpa using same
  obtain ⟨category, rest⟩ := append_hyphen_inj first.1 second.1 split
  obtain ⟨resource, output⟩ := append_hyphen_inj first.2 second.2 rest
  simp only [mk.injEq, ← String.toList_inj]
  exact ⟨category, resource, output⟩

end Reference

namespace Requirements

/-- The first reference with the key of `a` is another one, so `a` is not discovered. -/
def Hides (r : Requirements) (a : Reference) : Prop :=
  ∃ b, r.allReferences.find? (fun b => decide (b.key = a.key)) = some b ∧ b ≠ a

/-- A reference is discovered exactly if it is made and not hidden. -/
theorem mem_references_iff {r : Requirements} {a : Reference} :
    a ∈ r.references ↔ a ∈ r.allReferences ∧ ¬ r.Hides a := by
  rw [references, mem_firstByKey_iff]
  constructor
  · intro found
    refine ⟨List.mem_of_find?_eq_some found, ?_⟩
    rintro ⟨b, other, different⟩
    rw [found] at other
    exact different (Option.some.inj other).symm
  · rintro ⟨member, shown⟩
    obtain ⟨b, kept, same⟩ := exists_mem_firstByKey Reference.key member
    have found := mem_firstByKey_iff.mp kept
    rw [same] at found
    by_cases equal : b = a
    · exact equal ▸ found
    · exact (shown ⟨b, found, equal⟩).elim

theorem nodup_references (r : Requirements) : r.references.Nodup := by
  refine List.Pairwise.imp ?_ (firstByKey_pairwise Reference.key r.allReferences)
  exact fun apart same => apart (congrArg Reference.key same)

/-- A hidden reference shares its key with a different one. -/
theorem Hides.exists_key_eq {r : Requirements} {a : Reference} (hidden : r.Hides a) :
    ∃ b ∈ r.allReferences, b ≠ a ∧ b.key = a.key := by
  obtain ⟨b, found, different⟩ := hidden
  exact ⟨b, List.mem_of_find?_eq_some found, different, by simpa using List.find?_some found⟩

/-- Some part of the function returns the reference. -/
def Returns (r : Requirements) (a : Reference) : Prop :=
  (∃ p ∈ r.permissions, a ∈ p.references) ∨ (∃ v ∈ r.environment, a ∈ v.references) ∨
    ∃ t ∈ r.eventSource, a ∈ t.references

/-- The references that parts of a function return are all those it makes. -/
theorem returns_iff {r : Requirements} {a : Reference} : r.Returns a ↔ a ∈ r.allReferences := by
  simp only [Returns, allReferences, List.mem_append, List.mem_flatMap, Option.mem_toList,
    Option.mem_def, or_assoc]

/-- The list holds what the parts of the function return, each reference once, in the order in
which they first occur. -/
structure Discovers (r : Requirements) (found : List Reference) : Prop where
  distinct : found.Nodup
  complete : ∀ a, a ∈ found ↔ r.Returns a
  ordered : found.Pairwise fun a b => r.allReferences.idxOf a < r.allReferences.idxOf b

/-- No two references that are returned have one key. -/
def KeysSeparate (r : Requirements) : Prop :=
  ∀ a, r.Returns a → ∀ b, r.Returns b → a.key = b.key → a = b

/-- Where different references have different keys, none is hidden. -/
theorem KeysSeparate.not_hides {r : Requirements} (separate : r.KeysSeparate) {a : Reference}
    (returned : r.Returns a) : ¬ r.Hides a := by
  intro hidden
  obtain ⟨b, member, different, same⟩ := hidden.exists_key_eq
  exact different (separate b (returns_iff.mpr member) a returned same)

/-- **Which references are discovered.** They are those that no earlier, different one of the same
key hides, each once and in order of first occurrence; and these are all that the function returns
if and only if different references have different keys. -/
theorem discovers_references_iff (r : Requirements) :
    (r.references.Nodup ∧ (∀ a, a ∈ r.references ↔ r.Returns a ∧ ¬ r.Hides a) ∧
      r.references.Pairwise fun a b => r.allReferences.idxOf a < r.allReferences.idxOf b) ∧
    (r.Discovers r.references ↔ r.KeysSeparate) := by
  have ordered := pairwise_idxOf_firstByKey Reference.key r.allReferences
  have shown : ∀ a, a ∈ r.references ↔ r.Returns a ∧ ¬ r.Hides a := by
    intro a
    rw [mem_references_iff, returns_iff]
  refine ⟨⟨r.nodup_references, shown, ordered⟩, ?_, ?_⟩
  · intro discovered a returned b returnedOther same
    exact eq_of_mem_firstByKey ((discovered.complete a).mpr returned)
      ((discovered.complete b).mpr returnedOther) same
  · intro separate
    refine ⟨r.nodup_references, fun a => ?_, ordered⟩
    rw [shown]
    exact and_iff_left_of_imp separate.not_hides

/-- The key `a-b-c-d` divided in two ways, once in a permission and once in a variable. -/
def dividedKey : Requirements where
  permissions := [.iamAction ["s3:GetObject"] [.reference ⟨"a", "b", "c-d"⟩]]
  environment := [.resourceOutput "SECOND" ⟨"a", "b-c", "d"⟩]

/-- A reference that a variable returns can be missing from those discovered. -/
theorem not_discovers_references : ¬ ∀ r : Requirements, r.Discovers r.references := by
  intro discovered
  have listed := (discovered dividedKey).complete ⟨"a", "b-c", "d"⟩
  have returned : dividedKey.Returns ⟨"a", "b-c", "d"⟩ := returns_iff.mpr (by decide)
  exact absurd (listed.mpr returned) (by decide)

end Requirements

end Stackwright

import Mathlib.Data.List.Induction
import Stackwright.Proofs.OrderedMap
import Stackwright.Proofs.Reference.Discovery

/-!
# Outputs and the resources that export them

The discovered references are collected in groups, one for each group key, and a group bears the
names of its first reference (`Dependency.entries_foldl_addReference`). So the dependencies
attribute every output to the resource that exports it exactly if references of one group name one
resource.
-/

namespace Stackwright.Dependency

/-- The group that `first` opens, with the outputs of all references in it. -/
def group (references : List Reference) (first : Reference) : Dependency :=
  ⟨first.category, first.resource,
    (references.filter fun r => decide (r.groupKey = first.groupKey)).map Reference.output⟩

/-- The groups by key, in order of first occurrence. -/
def groups (references : List Reference) : List (String × Dependency) :=
  (firstByKey Reference.groupKey references).map fun first =>
    (first.groupKey, group references first)

/-- The keys of the groups are those of the references, each once, in order of first occurrence. -/
theorem map_fst_groups (references : List Reference) :
    (groups references).map Prod.fst = (references.map Reference.groupKey).eraseDups := by
  rw [groups, List.map_map, ← map_firstByKey]
  rfl

/-- One more reference enters the group of its key and no other. -/
theorem group_append_singleton (references : List Reference) (r first : Reference) :
    group (references ++ [r]) first =
      if first.groupKey = r.groupKey then
        { group references first with outputs := (group references first).outputs ++ [r.output] }
      else group references first := by
  by_cases same : first.groupKey = r.groupKey
  · simp only [group, List.filter_append, List.filter_cons, List.filter_nil, same, decide_true,
      ↓reduceIte, List.map_append, List.map_cons, List.map_nil]
  · have other : ¬ r.groupKey = first.groupKey := fun equal => same equal.symm
    simp only [group, List.filter_append, List.filter_cons, List.filter_nil, same, other,
      decide_false, Bool.false_eq_true, ↓reduceIte, List.append_nil]

/-- Adding a reference to the groups of some references gives the groups with one more. -/
theorem entries_addReference {references : List Reference} {m : OrderedMap String Dependency}
    (grouped : m.entries = groups references) (r : Reference) :
    (addReference m r).entries = groups (references ++ [r]) := by
  have keys : m.entries.map Prod.fst = (references.map Reference.groupKey).eraseDups := by
    rw [grouped, map_fst_groups]
  by_cases present : r.groupKey ∈ references.map Reference.groupKey
  · obtain ⟨entry, member, named⟩ := List.mem_map.mp
      (keys ▸ List.mem_eraseDups.mpr present : r.groupKey ∈ m.entries.map Prod.fst)
    obtain ⟨first, opens, rfl⟩ := List.mem_map.mp (grouped ▸ member)
    have found : m.get? r.groupKey = some (group references first) :=
      OrderedMap.get?_eq_some_iff.mpr (named ▸ member)
    have inKeys : r.groupKey ∈ m.entries.map Prod.fst := keys ▸ List.mem_eraseDups.mpr present
    simp only [addReference, found, OrderedMap.insert]
    rw [setEntry_eq_map m.distinct inKeys, grouped, groups, groups, firstByKey_append_singleton,
      List.map_map]
    simp only [present, ↓reduceIte]
    apply List.map_congr_left
    intro other opensOther
    by_cases same : other.groupKey = r.groupKey
    · have equal : other = first := eq_of_mem_firstByKey opensOther opens (same.trans named.symm)
      subst equal
      simp only [Function.comp_apply, same, ↓reduceIte, group_append_singleton]
    · simp only [Function.comp_apply, same, ↓reduceIte, group_append_singleton]
  · have absent : r.groupKey ∉ m.entries.map Prod.fst := by
      rw [keys, List.mem_eraseDups]
      exact present
    have missing : m.get? r.groupKey = none := by
      cases found : m.get? r.groupKey with
      | none => rfl
      | some value =>
        exact (absent (List.mem_map.mpr
          ⟨_, OrderedMap.get?_eq_some_iff.mp found, rfl⟩)).elim
    have alone : (references.filter fun other => decide (other.groupKey = r.groupKey)) = [] := by
      rw [List.filter_eq_nil_iff]
      intro other member
      simpa using fun equal => present (List.mem_map.mpr ⟨other, member, equal⟩)
    simp only [addReference, missing, OrderedMap.insert]
    rw [setEntry_eq_append absent, grouped, groups, groups, firstByKey_append_singleton]
    simp only [present, ↓reduceIte, List.map_append, List.map_cons, List.map_nil]
    congr 1
    · apply List.map_congr_left
      intro other opensOther
      have different : ¬ other.groupKey = r.groupKey := fun equal =>
        present (List.mem_map.mpr ⟨other, firstByKey_subset opensOther, equal⟩)
      simp only [group_append_singleton, different, ↓reduceIte]
    · have opened : group (references ++ [r]) r = ⟨r.category, r.resource, [r.output]⟩ := by
        rw [group_append_singleton]
        simp only [↓reduceIte, group, alone, List.map_nil, List.nil_append]
      rw [opened]

/-- Adding references one by one leads to their groups. -/
theorem entries_foldl_addReference (references : List Reference) :
    (references.foldl addReference .empty).entries = groups references := by
  induction references using List.reverseRecOn with
  | nil => rfl
  | append_singleton earlier r ih =>
    rw [List.foldl_append]
    exact entries_addReference ih r

/-- The dependencies are the groups of the discovered references. -/
theorem ofRequirements_eq (r : Requirements) :
    ofRequirements r = (firstByKey Reference.groupKey r.references).map (group r.references) := by
  rw [ofRequirements, entries_foldl_addReference, groups, List.map_map]
  rfl

/-- A group lists the outputs of all references under its key. -/
theorem mem_outputs_group {references : List Reference} {first : Reference} {output : String} :
    output ∈ (group references first).outputs ↔
      ∃ r ∈ references, r.groupKey = first.groupKey ∧ r.output = output := by
  simp only [group, List.mem_map, List.mem_filter, decide_eq_true_eq, and_assoc]

/-- The dependencies tell which resource exports which output: together they hold the references,
they name each resource once in order of first occurrence, and each lists the distinct outputs read
from its resource in that order. -/
structure Attributes (references : List Reference) (dependencies : List Dependency) : Prop where
  exported : ∀ r : Reference, (∃ d ∈ dependencies, d.category = r.category ∧
    d.resourceName = r.resource ∧ r.output ∈ d.outputs) ↔ r ∈ references
  resources : dependencies.map (fun d => (d.category, d.resourceName)) =
    (references.map fun r => (r.category, r.resource)).eraseDups
  outputs : ∀ d ∈ dependencies, d.outputs =
    ((references.filter fun r => decide (r.category = d.category ∧ r.resource = d.resourceName)).map
      Reference.output).eraseDups

/-- References of one group name one resource. -/
def GroupsSeparate (references : List Reference) : Prop :=
  ∀ a ∈ references, ∀ b ∈ references, a.groupKey = b.groupKey →
    a.category = b.category ∧ a.resource = b.resource

/-- Where groups are separate, a key stands for one resource. -/
theorem GroupsSeparate.groupKey_eq_iff {references : List Reference}
    (separate : GroupsSeparate references) {a b : Reference} (first : a ∈ references)
    (second : b ∈ references) :
    a.groupKey = b.groupKey ↔ a.category = b.category ∧ a.resource = b.resource := by
  refine ⟨separate a first b second, ?_⟩
  rintro ⟨category, resource⟩
  rw [Reference.groupKey, Reference.groupKey, category, resource]

/-- Among discovered references, those of one group differ in their outputs. -/
theorem nodup_outputs_group (r : Requirements) (first : Reference) :
    (group r.references first).outputs.Nodup := by
  have distinct := (firstByKey_pairwise Reference.key r.allReferences).filter
    fun other => decide (other.groupKey = first.groupKey)
  refine List.pairwise_map.mpr (distinct.imp_of_mem ?_)
  intro a b memberFirst memberSecond different same
  have groupFirst := of_decide_eq_true (List.mem_filter.mp memberFirst).2
  have groupSecond := of_decide_eq_true (List.mem_filter.mp memberSecond).2
  have sameGroup := groupFirst.trans groupSecond.symm
  exact different ((Reference.key_eq_iff_of_groupKey_eq sameGroup).mpr same)

/-- Where groups are separate, the dependencies attribute every output to its resource. -/
theorem attributes_of_groupsSeparate {r : Requirements} (separate : GroupsSeparate r.references) :
    Attributes r.references (ofRequirements r) where
  exported := by
    intro x
    rw [ofRequirements_eq]
    constructor
    · rintro ⟨d, member, category, resource, output⟩
      obtain ⟨first, opens, rfl⟩ := List.mem_map.mp member
      obtain ⟨y, inside, sameGroup, sameOutput⟩ := mem_outputs_group.mp output
      have named := separate y inside first (firstByKey_subset opens) sameGroup
      have equal : y = x := by
        cases x
        cases y
        simp only [Reference.mk.injEq]
        exact ⟨named.1.trans category, named.2.trans resource, sameOutput⟩
      exact equal ▸ inside
    · intro member
      obtain ⟨first, opens, sameGroup⟩ := exists_mem_firstByKey Reference.groupKey member
      have named := separate first (firstByKey_subset opens) x member sameGroup
      exact ⟨group r.references first, List.mem_map.mpr ⟨first, opens, rfl⟩, named.1, named.2,
        mem_outputs_group.mpr ⟨x, member, sameGroup.symm, rfl⟩⟩
  resources := by
    let resourceOf : Reference → String × String := fun x => (x.category, x.resource)
    have agree :
        firstByKey Reference.groupKey r.references = firstByKey resourceOf r.references := by
      apply firstByKey_congr
      intro a memberA b memberB
      rw [separate.groupKey_eq_iff memberA memberB, Prod.mk.injEq]
    calc (ofRequirements r).map (fun d => (d.category, d.resourceName))
        = (firstByKey Reference.groupKey r.references).map resourceOf := by
          rw [ofRequirements_eq, List.map_map]
          rfl
      _ = (r.references.map resourceOf).eraseDups := by rw [agree, map_firstByKey]
  outputs := by
    intro d member
    rw [ofRequirements_eq] at member
    obtain ⟨first, opens, rfl⟩ := List.mem_map.mp member
    have sameFilter : (r.references.filter fun x => decide (x.groupKey = first.groupKey)) =
        r.references.filter fun x =>
          decide (x.category = first.category ∧ x.resource = first.resource) := by
      apply List.filter_congr
      intro x inside
      rw [decide_eq_decide]
      exact separate.groupKey_eq_iff inside (firstByKey_subset opens)
    calc (group r.references first).outputs
        = (group r.references first).outputs.eraseDups :=
          (eraseDups_of_nodup (nodup_outputs_group r first)).symm
      _ = _ := by rw [group, sameFilter]

/-- If two resources shared a group, an output of the second would be listed under the first. -/
theorem groupsSeparate_of_attributes {r : Requirements}
    (attributed : Attributes r.references (ofRequirements r)) : GroupsSeparate r.references := by
  intro a memberA b memberB same
  obtain ⟨first, opens, group_a⟩ := exists_mem_firstByKey Reference.groupKey memberA
  have named : ∀ x ∈ r.references, x.groupKey = first.groupKey →
      x.category = first.category ∧ x.resource = first.resource := by
    intro x member sameGroup
    have listed : (⟨first.category, first.resource, x.output⟩ : Reference) ∈ r.references := by
      refine (attributed.exported _).mp ⟨group r.references first, ?_, rfl, rfl, ?_⟩
      · rw [ofRequirements_eq]
        exact List.mem_map.mpr ⟨first, opens, rfl⟩
      · exact mem_outputs_group.mpr ⟨x, member, sameGroup, rfl⟩
    have listedGroup : Reference.groupKey ⟨first.category, first.resource, x.output⟩ = x.groupKey :=
      sameGroup.symm
    have equal := eq_of_mem_firstByKey listed member
      ((Reference.key_eq_iff_of_groupKey_eq listedGroup).mpr rfl)
    exact equal ▸ ⟨rfl, rfl⟩
  have namedA := named a memberA group_a.symm
  have namedB := named b memberB (same.symm.trans group_a.symm)
  exact ⟨namedA.1.trans namedB.1.symm, namedA.2.trans namedB.2.symm⟩

/-- **When outputs are attributed to the resources that export them.** The dependencies of a
function are exact if and only if no two resources that it reads spell one group key. -/
theorem attributes_ofRequirements_iff (r : Requirements) :
    Attributes r.references (ofRequirements r) ↔ GroupsSeparate r.references :=
  ⟨groupsSeparate_of_attributes, attributes_of_groupsSeparate⟩

/-- The group key `a-b-c` divided in two ways. -/
def sharedGroup : Requirements where
  environment :=
    [.resourceOutput "FIRST" ⟨"a-b", "c", "x"⟩, .resourceOutput "SECOND" ⟨"a", "b-c", "y"⟩]

/-- An output of one resource can be listed under another. -/
theorem not_attributes_ofRequirements :
    ¬ ∀ r : Requirements, Attributes r.references (ofRequirements r) := by
  intro attributed
  have separate := groupsSeparate_of_attributes (attributed sharedGroup)
  have named := separate ⟨"a-b", "c", "x"⟩ (by decide) ⟨"a", "b-c", "y"⟩ (by decide) (by decide)
  exact absurd named.1 (by decide)

/-- Where categories hold no hyphen, every output is attributed to the resource that exports it. -/
theorem attributes_ofRequirements_of_hyphenFree {r : Requirements}
    (plain : ∀ a ∈ r.references, '-' ∉ a.category.toList) :
    Attributes r.references (ofRequirements r) :=
  attributes_of_groupsSeparate fun a first b second =>
    Reference.resource_eq_of_groupKey_eq (plain a first) (plain b second)

end Stackwright.Dependency

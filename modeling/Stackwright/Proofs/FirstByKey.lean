import Stackwright.Dependency

/-!
# First occurrences

`firstByKey` keeps the first element of each key, in order: the keys it keeps are the distinct keys
in order of first occurrence (`map_firstByKey`), and an element is kept if a search for its key
finds it (`mem_firstByKey_iff`).
-/

namespace Stackwright

variable {α κ : Type} [DecidableEq κ] {key : α → κ}

theorem firstByKey_subset {items : List α} {a : α} (member : a ∈ firstByKey key items) :
    a ∈ items := by
  induction items with
  | nil => cases member
  | cons first rest ih =>
    rcases List.mem_cons.mp member with same | later
    · exact same ▸ List.mem_cons_self
    · exact List.mem_cons_of_mem _ (ih (List.mem_filter.mp later).1)

/-- An element is kept if it is the first one with its key. -/
theorem mem_firstByKey_iff {items : List α} {a : α} :
    a ∈ firstByKey key items ↔ items.find? (fun b => decide (key b = key a)) = some a := by
  induction items with
  | nil => simp [firstByKey]
  | cons first rest ih =>
    rw [firstByKey, List.mem_cons, List.mem_filter, ih, List.find?_cons]
    by_cases same : key first = key a
    · simp only [same, decide_true, Bool.not_true, Bool.false_eq_true, and_false, or_false,
        Option.some.injEq]
      exact eq_comm
    · have other : ¬ key a = key first := fun equal => same equal.symm
      have different : a ≠ first := fun equal => same (congrArg key equal.symm)
      simp only [same, other, different, decide_false, Bool.not_false, and_true, false_or]

variable (key) in
/-- The items that are first with their keys have distinct keys. -/
theorem firstByKey_pairwise (items : List α) :
    (firstByKey key items).Pairwise fun a b => key a ≠ key b := by
  induction items with
  | nil => exact List.Pairwise.nil
  | cons first rest ih =>
    refine List.pairwise_cons.mpr ⟨?_, ih.filter _⟩
    intro later member equal
    have kept := (List.mem_filter.mp member).2
    simp [equal] at kept

variable (key) in
/-- The kept elements stand in the order in which they first occur. -/
theorem pairwise_idxOf_firstByKey [BEq α] [LawfulBEq α] (items : List α) :
    (firstByKey key items).Pairwise fun a b => items.idxOf a < items.idxOf b := by
  induction items with
  | nil => exact List.Pairwise.nil
  | cons first rest ih =>
    have different : ∀ b ∈ (firstByKey key rest).filter (fun b => !decide (key b = key first)),
        first ≠ b := by
      intro b member same
      simpa [same] using (List.mem_filter.mp member).2
    have later : ∀ b, first ≠ b → (first :: rest).idxOf b = rest.idxOf b + 1 := by
      intro b apart
      rw [List.idxOf_cons, beq_eq_false_iff_ne.mpr apart, cond_false]
    rw [firstByKey]
    refine List.pairwise_cons.mpr ⟨fun b member => ?_, ?_⟩
    · rw [List.idxOf_cons_self, later b (different b member)]
      exact Nat.succ_pos _
    · refine (ih.filter _).imp_of_mem fun {a b} ofA ofB before => ?_
      rw [later a (different a ofA), later b (different b ofB)]
      exact Nat.succ_lt_succ before

/-- Among the kept elements the key determines the element. -/
theorem eq_of_mem_firstByKey {items : List α} {a b : α} (first : a ∈ firstByKey key items)
    (second : b ∈ firstByKey key items) (same : key a = key b) : a = b := by
  have foundFirst := mem_firstByKey_iff.mp first
  rw [same, mem_firstByKey_iff.mp second] at foundFirst
  exact (Option.some.inj foundFirst).symm

variable (key) in
/-- Every key is kept. -/
theorem exists_mem_firstByKey {items : List α} {a : α} (member : a ∈ items) :
    ∃ b ∈ firstByKey key items, key b = key a := by
  have present : (items.find? fun b => decide (key b = key a)).isSome := by
    rw [List.find?_isSome]
    exact ⟨a, member, decide_eq_true rfl⟩
  obtain ⟨b, found⟩ := Option.isSome_iff_exists.mp present
  have same : key b = key a := by simpa using List.find?_some found
  exact ⟨b, mem_firstByKey_iff.mpr (by rw [same]; exact found), same⟩

/-- Leaving elements out and leaving repetitions out can be done in either order. -/
theorem filter_eraseDups {β : Type} [BEq β] [LawfulBEq β] (keep : β → Bool) (items : List β) :
    items.eraseDups.filter keep = (items.filter keep).eraseDups := by
  -- Repetitions of the head are removed from the tail, so the recursion is on the length.
  induction length : items.length using Nat.strongRecOn generalizing items with
  | ind n ih =>
    cases items with
    | nil => simp
    | cons first rest =>
      have shorter : (rest.filter fun b => !b == first).length < n := by
        have := List.length_filter_le (fun b => !b == first) rest
        simp only [List.length_cons] at length
        omega
      rw [List.eraseDups_cons, List.filter_cons, ih _ shorter _ rfl, List.filter_filter]
      by_cases kept : keep first = true
      · simp only [kept, ↓reduceIte, List.filter_cons, List.eraseDups_cons, List.filter_filter,
          Bool.and_comm]
      · have same : (rest.filter fun b => keep b && !b == first) = rest.filter keep := by
          apply List.filter_congr
          intro b _
          by_cases equal : b = first
          · simp [equal, Bool.eq_false_iff.mpr kept]
          · simp [equal]
        simp only [kept, Bool.false_eq_true, ↓reduceIte, List.filter_cons, same]

theorem eraseDups_of_nodup {β : Type} [BEq β] [LawfulBEq β] {items : List β}
    (distinct : items.Nodup) : items.eraseDups = items := by
  induction items with
  | nil => rfl
  | cons first rest ih =>
    obtain ⟨fresh, distinct⟩ := List.nodup_cons.mp distinct
    have kept : (rest.filter fun b => !b == first) = rest := by
      rw [List.filter_eq_self]
      intro b member
      simpa using fun same : b = first => fresh (same ▸ member)
    rw [List.eraseDups_cons, kept, ih distinct]

/-- The keys of the first items are all keys, each once. -/
theorem map_firstByKey [BEq κ] [LawfulBEq κ] (items : List α) :
    (firstByKey key items).map key = (items.map key).eraseDups := by
  induction items with
  | nil => rfl
  | cons first rest ih =>
    rw [firstByKey, List.map_cons, List.map_cons, List.eraseDups_cons, ← filter_eraseDups, ← ih,
      List.filter_map]
    congr 2
    apply List.filter_congr
    intro b _
    by_cases same : key b = key first <;> simp [same]

/-- Keys that tell the same elements apart keep the same elements. -/
theorem firstByKey_congr {μ : Type} [DecidableEq μ] (other : α → μ) {items : List α}
    (agree : ∀ a ∈ items, ∀ b ∈ items, key a = key b ↔ other a = other b) :
    firstByKey key items = firstByKey other items := by
  induction items with
  | nil => rfl
  | cons first rest ih =>
    have agreeRest := fun a memberA b memberB =>
      agree a (List.mem_cons_of_mem _ memberA) b (List.mem_cons_of_mem _ memberB)
    rw [firstByKey, firstByKey, ih agreeRest]
    congr 1
    apply List.filter_congr
    intro b member
    have inside := List.mem_cons_of_mem first (firstByKey_subset member)
    simp only [agree b inside first List.mem_cons_self]

/-- An item at the end comes first with its key only if the key is new. -/
theorem firstByKey_append_singleton (items : List α) (a : α) :
    firstByKey key (items ++ [a]) =
      if key a ∈ items.map key then firstByKey key items else firstByKey key items ++ [a] := by
  induction items with
  | nil => simp [firstByKey]
  | cons first rest ih =>
    rw [List.cons_append, firstByKey, ih, firstByKey, List.map_cons]
    by_cases same : key a = key first
    · by_cases present : key first ∈ rest.map key
      · simp only [same, present, ↓reduceIte, List.mem_cons, true_or]
      · simp only [same, present, ↓reduceIte, List.mem_cons, true_or, List.filter_append,
          List.filter_cons, decide_true, Bool.not_true, Bool.false_eq_true, List.filter_nil,
          List.append_nil]
    · by_cases present : key a ∈ rest.map key
      · simp only [present, ↓reduceIte, List.mem_cons, or_true]
      · simp only [same, present, ↓reduceIte, List.mem_cons, or_self, List.filter_append,
          List.filter_cons, decide_false, Bool.not_false, List.filter_nil, List.cons_append]

end Stackwright

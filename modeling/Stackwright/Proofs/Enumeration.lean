import Mathlib.Data.List.Lex
import Mathlib.Data.Nat.Basic

/-!
# Lists in the order of addresses

What a search meets first depends on the order of a list. An address tells where an element comes
from, as the step taken at each level, and addresses are ordered step by step. A list enumerates
what stands at the addresses if it holds exactly that, in this order (`Enumerates`); a search in
such a list finds what stands at the least address (`Enumerates.find?_eq_some_iff`).
-/

namespace Stackwright

variable {α β : Type}

/-- The list holds what stands at the addresses, in the order of the addresses. -/
def Enumerates (listed : List β) (stands : List Nat → β → Prop) : Prop :=
  ∃ located : List (List Nat × β), located.map Prod.snd = listed ∧
    (located.Pairwise fun a b => a.1 < b.1) ∧
    ∀ address b, (address, b) ∈ located ↔ stands address b

namespace Enumerates

variable {listed later : List β} {stands follows : List Nat → β → Prop}

/-- What stands at the addresses may be said in other words. -/
theorem congr (enumerates : Enumerates listed stands)
    (same : ∀ address b, stands address b ↔ follows address b) : Enumerates listed follows := by
  obtain ⟨located, values, ordered, complete⟩ := enumerates
  exact ⟨located, values, ordered, fun address b => (complete address b).trans (same address b)⟩

theorem nil (nowhere : ∀ address b, ¬ stands address b) : Enumerates [] stands :=
  ⟨[], rfl, .nil, by simpa using nowhere⟩

theorem singleton (address : List Nat) (b : β) :
    Enumerates [b] fun other c => other = address ∧ c = b :=
  ⟨[(address, b)], rfl, List.pairwise_singleton _ _, by simp⟩

/-- Lists follow one another if their addresses do. -/
theorem append (first : Enumerates listed stands) (second : Enumerates later follows)
    (apart : ∀ address b other c, stands address b → follows other c → address < other) :
    Enumerates (listed ++ later) fun address b => stands address b ∨ follows address b := by
  obtain ⟨before, valuesBefore, orderedBefore, completeBefore⟩ := first
  obtain ⟨after, valuesAfter, orderedAfter, completeAfter⟩ := second
  refine ⟨before ++ after, by rw [List.map_append, valuesBefore, valuesAfter], ?_, ?_⟩
  · refine List.pairwise_append.mpr ⟨orderedBefore, orderedAfter, ?_⟩
    intro a memberBefore b memberAfter
    exact apart _ _ _ _ ((completeBefore _ _).mp memberBefore) ((completeAfter _ _).mp memberAfter)
  · intro address b
    rw [List.mem_append, completeBefore, completeAfter]

/-- Entering with the same step keeps the order. -/
theorem enter (step : Nat) (inner : Enumerates listed stands) :
    Enumerates listed fun address b => ∃ rest, address = step :: rest ∧ stands rest b := by
  obtain ⟨located, values, ordered, complete⟩ := inner
  refine ⟨located.map fun entry => (step :: entry.1, entry.2), ?_, ?_, ?_⟩
  · rw [List.map_map, ← values]
    rfl
  · refine List.pairwise_map.mpr (ordered.imp ?_)
    intro a b before
    exact List.cons_lt_cons_iff.mpr (.inr ⟨rfl, before⟩)
  · intro address b
    simp only [List.mem_map, Prod.exists, Prod.mk.injEq, complete]
    constructor
    · rintro ⟨rest, c, there, rfl, rfl⟩
      exact ⟨rest, rfl, there⟩
    · rintro ⟨rest, rfl, there⟩
      exact ⟨rest, b, there, rfl, rfl⟩

/-- Mapping the list maps what stands at the addresses. -/
theorem map {γ : Type} (f : β → γ) (inner : Enumerates listed stands) :
    Enumerates (listed.map f) fun address c => ∃ b, stands address b ∧ c = f b := by
  obtain ⟨located, values, ordered, complete⟩ := inner
  refine ⟨located.map fun entry => (entry.1, f entry.2), ?_, List.pairwise_map.mpr ordered, ?_⟩
  · rw [← values, List.map_map, List.map_map]
    rfl
  · intro address c
    simp only [List.mem_map, Prod.exists, Prod.mk.injEq, complete]
    constructor
    · rintro ⟨_, b, there, rfl, rfl⟩
      exact ⟨b, there, rfl⟩
    · rintro ⟨b, there, rfl⟩
      exact ⟨address, b, there, rfl, rfl⟩

/-- What the items contribute is enumerated item after item, the first step being the position of
the item. -/
theorem flatMap {items : List α} {f : α → List β} {stands : α → List Nat → β → Prop}
    (each : ∀ item ∈ items, Enumerates (f item) (stands item)) :
    Enumerates (items.flatMap f) fun address b =>
      ∃ i item rest, items[i]? = some item ∧ address = i :: rest ∧ stands item rest b := by
  -- The positions of the tail are counted from one more, so the count is generalised.
  suffices counted : ∀ start, Enumerates (items.flatMap f) fun address b =>
      ∃ i item rest, items[i]? = some item ∧ address = (start + i) :: rest ∧ stands item rest b by
    simpa using counted 0
  induction items with
  | nil => exact fun _ => nil (by simp)
  | cons first rest ih =>
    intro start
    rw [List.forall_mem_cons] at each
    rw [List.flatMap_cons]
    refine ((each.1.enter start).append (ih each.2 (start + 1)) ?_).congr ?_
    · rintro _ _ _ _ ⟨_, rfl, _⟩ ⟨i, _, _, _, rfl, _⟩
      exact List.cons_lt_cons_iff.mpr (.inl (by omega))
    · intro address b
      constructor
      · rintro (⟨inner, rfl, there⟩ | ⟨i, item, inner, present, rfl, there⟩)
        · exact ⟨0, first, inner, rfl, rfl, there⟩
        · exact ⟨i + 1, item, inner, present, by rw [Nat.add_right_comm, Nat.add_assoc], there⟩
      · rintro ⟨i, item, inner, present, rfl, there⟩
        cases i with
        | zero =>
          cases present
          exact .inl ⟨inner, rfl, there⟩
        | succ i => exact .inr ⟨i, item, inner, present, by rw [Nat.add_right_comm, Nat.add_assoc],
            there⟩

/-- A mapped list enumerates its items by their positions. -/
theorem mapItems (f : α → β) (items : List α) :
    Enumerates (items.map f) fun address b =>
      ∃ i item, items[i]? = some item ∧ address = [i] ∧ b = f item := by
  rw [List.map_eq_flatMap]
  refine (flatMap fun item _ => singleton [] (f item)).congr fun address b => ?_
  constructor
  · rintro ⟨i, item, _, present, rfl, rfl, same⟩
    exact ⟨i, item, present, rfl, same⟩
  · rintro ⟨i, item, present, rfl, same⟩
    exact ⟨i, item, [], present, rfl, rfl, same⟩

theorem mem_iff (enumerates : Enumerates listed stands) {b : β} :
    b ∈ listed ↔ ∃ address, stands address b := by
  obtain ⟨located, rfl, _, complete⟩ := enumerates
  simp only [List.mem_map, Prod.exists, exists_eq_right, complete]

/-- What a search finds stands before all else that is looked for. -/
theorem before_of_find? {located : List (List Nat × β)}
    (ordered : located.Pairwise fun a b => a.1 < b.1) {sought : List Nat × β → Bool}
    {entry other : List Nat × β} (found : located.find? sought = some entry)
    (member : other ∈ located) (wanted : sought other = true) :
    entry = other ∨ entry.1 < other.1 := by
  obtain ⟨_, before, after, split, passed⟩ := List.find?_eq_some_iff_append.mp found
  rw [split] at ordered member
  rcases List.mem_append.mp member with earlier | later
  · simpa [wanted] using passed other earlier
  · rcases List.mem_cons.mp later with same | later
    · exact .inl same.symm
    · exact .inr ((List.pairwise_cons.mp (List.pairwise_append.mp ordered).2.1).1 other later)

/-- A search finds what stands at the least address of those that are looked for. -/
theorem find?_eq_some_iff (enumerates : Enumerates listed stands) {sought : β → Bool} {b : β} :
    listed.find? sought = some b ↔
      ∃ address, stands address b ∧ sought b = true ∧
        ∀ other c, stands other c → sought c = true → address ≤ other := by
  obtain ⟨located, rfl, ordered, complete⟩ := enumerates
  rw [List.find?_map, Option.map_eq_some_iff]
  constructor
  · rintro ⟨⟨address, b⟩, found, rfl⟩
    have wanted : (sought ∘ Prod.snd) (address, b) = true := List.find?_some found
    refine ⟨address, (complete _ _).mp (List.mem_of_find?_eq_some found), wanted, ?_⟩
    intro other c there alsoWanted
    rcases before_of_find? ordered found ((complete other c).mpr there) alsoWanted
      with same | before
    · cases same
      exact le_refl address
    · exact le_of_lt before
  · rintro ⟨address, there, wanted, least⟩
    have member := (complete address b).mpr there
    have present : (located.find? (sought ∘ Prod.snd)).isSome := by
      rw [List.find?_isSome]
      exact ⟨(address, b), member, wanted⟩
    obtain ⟨entry, found⟩ := Option.isSome_iff_exists.mp present
    refine ⟨entry, found, ?_⟩
    rcases before_of_find? ordered found member wanted with same | before
    · rw [same]
    · have foundThere := (complete entry.1 entry.2).mp (List.mem_of_find?_eq_some found)
      have foundWanted : (sought ∘ Prod.snd) entry = true := List.find?_some found
      exact (not_lt_of_ge (least _ _ foundThere foundWanted) before).elim

end Enumerates

end Stackwright

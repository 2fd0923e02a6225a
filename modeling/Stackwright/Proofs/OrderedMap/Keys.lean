import Mathlib.Data.List.Induction
import Mathlib.Data.List.Nodup
import Stackwright.Proofs.FirstByKey
import Stackwright.Proofs.OrderedMap

/-!
# Keys in order of first write

The keys of a map are those that were written, each once, where it was first written: a run of
writes adds its new keys at the end (`OrderedMap.keys_insertMany`). What is written later under a
key that is there moves nothing.
-/

namespace Stackwright

section Repetitions

variable {α β : Type} [DecidableEq α] [DecidableEq β]

theorem nodup_eraseDups (items : List α) : items.eraseDups.Nodup := by
  have distinct := firstByKey_pairwise id items
  rwa [← List.map_id (firstByKey id items), map_firstByKey, List.map_id] at distinct

/-- Items that are there already add nothing. -/
theorem eraseDups_append_of_subset {items more : List α} (present : more ⊆ items) :
    (items ++ more).eraseDups = items.eraseDups := by
  have added : more.removeAll items = [] := by
    rw [List.removeAll, List.filter_eq_nil_iff]
    intro item member
    simpa using present member
  rw [List.eraseDups_append, added, List.eraseDups_nil, List.append_nil]

/-- A new item is added at the end. -/
theorem eraseDups_append_singleton {items : List α} {a : α} (absent : a ∉ items) :
    (items ++ [a]).eraseDups = items.eraseDups ++ [a] := by
  have added : [a].removeAll items = [a] := by
    simp [List.removeAll, absent]
  rw [List.eraseDups_append, added, eraseDups_of_nodup (List.nodup_singleton a)]

/-- Of what stands before, only the first occurrences matter. -/
theorem eraseDups_append_congr {items items' : List α} (same : items.eraseDups = items'.eraseDups)
    (more : List α) : (items ++ more).eraseDups = (items' ++ more).eraseDups := by
  have added : more.removeAll items = more.removeAll items' := by
    apply List.filter_congr
    intro item _
    have present : item ∈ items ↔ item ∈ items' := by
      rw [← List.mem_eraseDups, same, List.mem_eraseDups]
    simp [present]
  rw [List.eraseDups_append, List.eraseDups_append, same, added]

/-- What is repeated before a function is applied is repeated after it. -/
theorem eraseDups_map_eraseDups (f : α → β) (items : List α) :
    (items.eraseDups.map f).eraseDups = (items.map f).eraseDups := by
  induction items using List.reverseRecOn with
  | nil => rfl
  | append_singleton items a ih =>
    by_cases present : a ∈ items
    · have again : [f a] ⊆ items.map f := by
        simpa using ⟨a, present, rfl⟩
      rw [eraseDups_append_of_subset (by simpa using present), ih, List.map_append,
        List.map_singleton, eraseDups_append_of_subset again]
    · rw [eraseDups_append_singleton present, List.map_append, List.map_append, List.map_singleton]
      exact eraseDups_append_congr ih [f a]

end Repetitions

namespace OrderedMap

variable {α β : Type} [DecidableEq α]

theorem eraseDups_keys (m : OrderedMap α β) : m.keys.eraseDups = m.keys :=
  eraseDups_of_nodup m.distinct

/-- One write adds its key at the end if it is new. -/
theorem keys_insert_eq_eraseDups (m : OrderedMap α β) (key : α) (value : β) :
    (m.insert key value).keys = (m.keys ++ [key]).eraseDups := by
  rw [keys_insert]
  by_cases present : key ∈ m.keys
  · rw [if_pos present, eraseDups_append_of_subset (by simpa using present), eraseDups_keys]
  · rw [if_neg present, eraseDups_append_singleton present, eraseDups_keys]

/-- A run of writes adds its new keys at the end, each where it is first written. -/
theorem keys_insertMany (m : OrderedMap α β) (pairs : List (α × β)) :
    (m.insertMany pairs).keys = (m.keys ++ pairs.map Prod.fst).eraseDups := by
  induction pairs generalizing m with
  | nil => rw [insertMany_nil, List.map_nil, List.append_nil, eraseDups_keys]
  | cons pair rest ih =>
    have first : (m.insert pair.1 pair.2).keys.eraseDups = (m.keys ++ [pair.1]).eraseDups := by
      rw [eraseDups_keys, keys_insert_eq_eraseDups]
    calc
      _ = ((m.insert pair.1 pair.2).keys ++ rest.map Prod.fst).eraseDups := ih _
      _ = (m.keys ++ [pair.1] ++ rest.map Prod.fst).eraseDups := eraseDups_append_congr first _
      _ = (m.keys ++ (pair :: rest).map Prod.fst).eraseDups := by
        rw [List.append_assoc, List.singleton_append, List.map_cons]

/-- The keys of a map made of pairs are those of the pairs, each where it came first. -/
theorem keys_ofList (pairs : List (α × β)) :
    (ofList pairs).keys = (pairs.map Prod.fst).eraseDups := by
  rw [ofList, keys_insertMany, keys_empty, List.nil_append]

end OrderedMap

end Stackwright

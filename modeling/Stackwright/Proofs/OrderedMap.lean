import Stackwright.OrderedMap

/-!
# Writing to ordered maps

After a run of writes a key holds what the last write to it said (`OrderedMap.get?_insertMany`), and
the keys are those that were there and those that were written (`OrderedMap.mem_keys_insertMany`).
-/

namespace Stackwright

section Entries

variable {α β : Type} [DecidableEq α]

theorem mem_of_findEntry {key : α} {value : β} {entries : List (α × β)}
    (found : findEntry key entries = some value) : (key, value) ∈ entries := by
  induction entries with
  | nil => simp [findEntry] at found
  | cons entry rest ih =>
    obtain ⟨k, v⟩ := entry
    by_cases same : k = key
    · simp only [findEntry, same, ↓reduceIte, Option.some.injEq] at found
      simp [same, found]
    · simp only [findEntry, same, ↓reduceIte] at found
      exact List.mem_cons_of_mem _ (ih found)

/-- Without a repeated key, looking up finds every entry. -/
theorem findEntry_of_mem {key : α} {value : β} {entries : List (α × β)}
    (distinct : (entries.map Prod.fst).Nodup) (member : (key, value) ∈ entries) :
    findEntry key entries = some value := by
  induction entries with
  | nil => cases member
  | cons entry rest ih =>
    obtain ⟨k, v⟩ := entry
    rw [List.map_cons, List.nodup_cons] at distinct
    rcases List.mem_cons.mp member with same | later
    · cases same
      simp [findEntry]
    · have other : k ≠ key := by
        intro same
        subst same
        exact distinct.1 (List.mem_map.mpr ⟨_, later, rfl⟩)
      simp only [findEntry, other, ↓reduceIte]
      exact ih distinct.2 later

/-- In two lists one after the other, the first has precedence. -/
theorem findEntry_append (key : α) (first second : List (α × β)) :
    findEntry key (first ++ second) = (findEntry key first).or (findEntry key second) := by
  induction first with
  | nil => simp [findEntry]
  | cons entry rest ih =>
    obtain ⟨k, v⟩ := entry
    by_cases same : k = key <;> simp [findEntry, same, ih]

theorem findEntry_eq_find? (key : α) (entries : List (α × β)) :
    findEntry key entries = (entries.find? fun entry => decide (entry.1 = key)).map Prod.snd := by
  induction entries with
  | nil => rfl
  | cons entry rest ih => by_cases same : entry.1 = key <;> simp [findEntry, same, ih]

/-- Entries made from a list are found by the first item of that name. -/
theorem findEntry_map {ι : Type} (key : α) (name : ι → α) (value : ι → β) (items : List ι) :
    findEntry key (items.map fun item => (name item, value item)) =
      (items.find? fun item => decide (name item = key)).map value := by
  rw [findEntry_eq_find?, List.find?_map, Option.map_map]
  rfl

/-- Writing to a key that is there changes its entry alone. -/
theorem setEntry_eq_map {key : α} {value : β}
    {entries : List (α × β)} (distinct : (entries.map Prod.fst).Nodup)
    (present : key ∈ entries.map Prod.fst) :
    setEntry key value entries =
      entries.map fun entry => if entry.1 = key then (key, value) else entry := by
  induction entries with
  | nil => cases present
  | cons entry rest ih =>
    obtain ⟨k, v⟩ := entry
    obtain ⟨fresh, distinctRest⟩ := List.nodup_cons.mp distinct
    by_cases same : k = key
    · have unchanged : ∀ entry ∈ rest, (if entry.1 = key then (key, value) else entry) = entry := by
        intro entry member
        have other : entry.1 ≠ key := fun equal =>
          fresh (List.mem_map.mpr ⟨entry, member, equal.trans same.symm⟩)
        simp only [other, ↓reduceIte]
      simp only [setEntry, same, ↓reduceIte, List.map_cons, List.map_congr_left unchanged,
        List.map_id']
    · have presentRest : key ∈ rest.map Prod.fst :=
        (List.mem_cons.mp present).resolve_left fun equal => same equal.symm
      simp only [setEntry, same, ↓reduceIte, List.map_cons, ih distinctRest presentRest]

/-- A new key is set at the end. -/
theorem setEntry_eq_append {key : α} {value : β}
    {entries : List (α × β)} (absent : key ∉ entries.map Prod.fst) :
    setEntry key value entries = entries ++ [(key, value)] := by
  induction entries with
  | nil => rfl
  | cons entry rest ih =>
    rw [List.map_cons, List.mem_cons, not_or] at absent
    have other : ¬ entry.1 = key := fun equal => absent.1 equal.symm
    simp only [setEntry, other, ↓reduceIte, ih absent.2, List.cons_append]

/-- Of two writes to one key the later one stays. -/
theorem setEntry_setEntry (key : α) (first second : β) (entries : List (α × β)) :
    setEntry key second (setEntry key first entries) = setEntry key second entries := by
  induction entries with
  | nil => simp [setEntry]
  | cons entry rest ih =>
    by_cases same : entry.1 = key
    · simp [setEntry, same]
    · simp [setEntry, same, ih]

/-- Leaving out keys hides what stood under them, and nothing else. -/
theorem findEntry_filter (kept : α → Bool) (key : α) (entries : List (α × β)) :
    findEntry key (entries.filter fun entry => kept entry.1) =
      if kept key then findEntry key entries else none := by
  induction entries with
  | nil => simp [findEntry]
  | cons entry rest ih =>
    obtain ⟨k, v⟩ := entry
    by_cases same : k = key
    · subst same
      cases keep : kept k <;> simp_all [findEntry]
    · cases keep : kept k <;> simp [findEntry, same, keep, ih]

/-- Dropping a key hides what stood under it, and nothing else. -/
theorem findEntry_dropEntry (key other : α) (entries : List (α × β)) :
    findEntry other (dropEntry key entries) =
      if other = key then none else findEntry other entries := by
  rw [dropEntry, findEntry_filter fun k => !decide (k = key)]
  by_cases same : other = key <;> simp [same]

end Entries

namespace OrderedMap

variable {α β : Type}

/-- A map is determined by its entries. -/
theorem eq_of_entries {m m' : OrderedMap α β} (same : m.entries = m'.entries) : m = m' := by
  cases m
  cases m'
  cases same
  rfl

@[simp] theorem keys_empty : (empty : OrderedMap α β).keys = [] := rfl

variable [DecidableEq α]

@[simp] theorem get?_empty (key : α) : (empty : OrderedMap α β).get? key = none := rfl

/-- A key has a value exactly if the two are an entry. -/
theorem get?_eq_some_iff {m : OrderedMap α β} {key : α} {value : β} :
    m.get? key = some value ↔ (key, value) ∈ m.entries :=
  ⟨mem_of_findEntry, findEntry_of_mem m.distinct⟩

theorem contains_iff {m : OrderedMap α β} {key : α} : m.contains key = true ↔ key ∈ m.keys := by
  simp only [contains, Option.isSome_iff_exists, get?_eq_some_iff, keys, List.mem_map]
  constructor
  · rintro ⟨value, member⟩
    exact ⟨(key, value), member, rfl⟩
  · rintro ⟨⟨_, value⟩, member, rfl⟩
    exact ⟨value, member⟩

/-- A write changes what stands under its key, and nothing else. -/
theorem get?_insert (m : OrderedMap α β) (key other : α) (value : β) :
    (m.insert key value).get? other = if other = key then some value else m.get? other := by
  by_cases same : other = key
  · simp [same]
  · simp only [same, ↓reduceIte, get?_insert_of_ne m same value]

/-- A second write under a key replaces the first. -/
theorem insert_insert (m : OrderedMap α β) (key : α) (first second : β) :
    (m.insert key first).insert key second = m.insert key second :=
  eq_of_entries (setEntry_setEntry key first second m.entries)

/-- Erasing a key empties it and changes nothing else. -/
theorem get?_erase (m : OrderedMap α β) (key other : α) :
    (m.erase key).get? other = if other = key then none else m.get? other :=
  findEntry_dropEntry key other m.entries

/-- A write adds its key and no other. -/
theorem mem_keys_insert {m : OrderedMap α β} {key other : α} {value : β} :
    other ∈ (m.insert key value).keys ↔ other = key ∨ other ∈ m.keys := by
  rw [keys_insert]
  split
  · rename_i present
    exact ⟨Or.inr, fun either => either.elim (fun same => same ▸ present) id⟩
  · simp only [List.mem_append, List.mem_singleton, or_comm]

/-- After a write an entry is the written one or was there before. -/
theorem mem_entries_insert {m : OrderedMap α β} {key : α} {value : β} {entry : α × β}
    (member : entry ∈ (m.insert key value).entries) : entry = (key, value) ∨ entry ∈ m.entries := by
  have found := get?_eq_some_iff.mpr member
  rw [get?_insert] at found
  split at found
  · rename_i same
    exact Or.inl (Prod.ext same (Option.some.inj found).symm)
  · exact Or.inr (get?_eq_some_iff.mp found)

theorem insertMany_nil (m : OrderedMap α β) : m.insertMany [] = m := rfl

theorem insertMany_cons (m : OrderedMap α β) (pair : α × β) (rest : List (α × β)) :
    m.insertMany (pair :: rest) = (m.insert pair.1 pair.2).insertMany rest := rfl

/-- A run of writes can be cut anywhere. -/
theorem insertMany_append (m : OrderedMap α β) (first second : List (α × β)) :
    m.insertMany (first ++ second) = (m.insertMany first).insertMany second :=
  List.foldl_append

/-- The last write to a key decides what it holds. -/
theorem get?_insertMany (m : OrderedMap α β) (pairs : List (α × β)) (key : α) :
    (m.insertMany pairs).get? key = (findEntry key pairs.reverse).or (m.get? key) := by
  induction pairs generalizing m with
  | nil => simp [insertMany_nil, findEntry]
  | cons pair rest ih =>
    obtain ⟨k, v⟩ := pair
    rw [insertMany_cons, ih, get?_insert, List.reverse_cons, findEntry_append, Option.or_assoc]
    by_cases same : key = k
    · simp [findEntry, same]
    · have other : k ≠ key := fun equal => same equal.symm
      simp [findEntry, same, other]

/-- A run of writes adds the keys that it writes and no others. -/
theorem mem_keys_insertMany {m : OrderedMap α β} {pairs : List (α × β)} {key : α} :
    key ∈ (m.insertMany pairs).keys ↔ key ∈ m.keys ∨ key ∈ pairs.map Prod.fst := by
  induction pairs generalizing m with
  | nil => simp [insertMany_nil]
  | cons pair rest ih =>
    rw [insertMany_cons, ih, mem_keys_insert, List.map_cons, List.mem_cons]
    constructor
    · rintro ((same | present) | written)
      · exact Or.inr (Or.inl same)
      · exact Or.inl present
      · exact Or.inr (Or.inr written)
    · rintro (present | same | written)
      · exact Or.inl (Or.inr present)
      · exact Or.inl (Or.inl same)
      · exact Or.inr written

/-- An entry after a run of writes was there before or is one of the writes. -/
theorem mem_entries_insertMany {m : OrderedMap α β} {pairs : List (α × β)} {entry : α × β}
    (member : entry ∈ (m.insertMany pairs).entries) : entry ∈ m.entries ∨ entry ∈ pairs := by
  have found := get?_eq_some_iff.mpr member
  rw [get?_insertMany, Option.or_eq_some_iff] at found
  rcases found with written | ⟨_, kept⟩
  · exact Or.inr (List.mem_reverse.mp (mem_of_findEntry written))
  · exact Or.inl (get?_eq_some_iff.mp kept)

theorem mem_entries_ofList {pairs : List (α × β)} {entry : α × β}
    (member : entry ∈ (ofList pairs).entries) : entry ∈ pairs := by
  rcases mem_entries_insertMany member with absent | written
  · cases absent
  · exact written

theorem mem_keys_ofList {pairs : List (α × β)} {key : α} :
    key ∈ (ofList pairs).keys ↔ key ∈ pairs.map Prod.fst := by
  simp only [ofList, mem_keys_insertMany, keys_empty, List.not_mem_nil, false_or]

/-- Writes to keys that are all different add their pairs at the end. -/
theorem entries_insertMany {m : OrderedMap α β} {pairs : List (α × β)}
    (distinct : (m.entries ++ pairs).map Prod.fst |>.Nodup) :
    (m.insertMany pairs).entries = m.entries ++ pairs := by
  induction pairs generalizing m with
  | nil => rw [insertMany_nil, List.append_nil]
  | cons pair rest ih =>
    have absent : pair.1 ∉ m.entries.map Prod.fst := by
      rw [List.map_append, List.nodup_append] at distinct
      exact fun present => distinct.2.2 _ present pair.1 (by simp) rfl
    have added : (m.insert pair.1 pair.2).entries = m.entries ++ [pair] := setEntry_eq_append absent
    have regrouped : m.entries ++ pair :: rest = (m.insert pair.1 pair.2).entries ++ rest := by
      rw [added, List.append_assoc, List.singleton_append]
    rw [insertMany_cons, ih (regrouped ▸ distinct), regrouped]

/-- Pairs with distinct keys are the entries of the map made of them. -/
theorem entries_ofList {pairs : List (α × β)} (distinct : (pairs.map Prod.fst).Nodup) :
    (ofList pairs).entries = pairs :=
  entries_insertMany distinct

theorem ofList_entries (m : OrderedMap α β) : ofList m.entries = m :=
  eq_of_entries (entries_ofList m.distinct)

/-- Writes that agree on a key leave what they all write to it. -/
theorem get?_ofList_of_agree {pairs : List (α × β)} {key : α} {value : β}
    (written : (key, value) ∈ pairs) (agree : ∀ other, (key, other) ∈ pairs → other = value) :
    (ofList pairs).get? key = some value := by
  have present : key ∈ (ofList pairs).keys :=
    mem_keys_ofList.mpr (List.mem_map.mpr ⟨_, written, rfl⟩)
  obtain ⟨other, found⟩ := Option.isSome_iff_exists.mp (contains_iff.mpr present)
  rw [found, agree other (mem_entries_ofList (get?_eq_some_iff.mp found))]

/-- The map without the keys; the others keep their order. -/
def without (m : OrderedMap α β) (keys : List α) : OrderedMap α β where
  entries := m.entries.filter fun entry => !decide (entry.1 ∈ keys)
  distinct := m.distinct.sublist (List.filter_sublist.map Prod.fst)

/-- Leaving out keys empties them and changes nothing else. -/
theorem get?_without (m : OrderedMap α β) (keys : List α) (key : α) :
    (m.without keys).get? key = if key ∈ keys then none else m.get? key := by
  have found := findEntry_filter (fun key => !decide (key ∈ keys)) key m.entries
  by_cases left : key ∈ keys
  · rw [if_pos left]
    exact found.trans (if_neg (by simpa using left))
  · rw [if_neg left]
    exact found.trans (if_pos (by simpa using left))

/-- Maps that are the same without the keys hold the same for all others. -/
theorem get?_congr_of_without {m m' : OrderedMap α β} {keys : List α}
    (same : m'.without keys = m.without keys) {key : α} (other : key ∉ keys) :
    m'.get? key = m.get? key := by
  have held := congrArg (fun m => m.get? key) same
  simpa only [get?_without, other, ↓reduceIte] using held

/-- The map with the value at a key changed, if the key is there. -/
def modify (m : OrderedMap α β) (key : α) (change : β → β) : OrderedMap α β where
  entries := m.entries.map fun entry =>
    (entry.1, if entry.1 = key then change entry.2 else entry.2)
  distinct := by
    rw [List.map_map]
    exact m.distinct

/-- Values that the change makes equal cannot be told apart after it. -/
theorem modify_insert_congr (m : OrderedMap α β) (key : α) {change : β → β} {value value' : β}
    (same : change value = change value') :
    (m.insert key value).modify key change = (m.insert key value').modify key change := by
  apply eq_of_entries
  change (setEntry key value m.entries).map _ = (setEntry key value' m.entries).map _
  induction m.entries with
  | nil => simp [setEntry, same]
  | cons entry rest ih =>
    obtain ⟨k, v⟩ := entry
    by_cases here : k = key
    · simp [setEntry, here, same]
    · simp [setEntry, here, ih]

end OrderedMap

end Stackwright

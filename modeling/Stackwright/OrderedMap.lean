/-!
# Maps that remember insertion order

A finite map kept as its list of entries without a repeated key. Writing to a present key keeps the
position of the key and replaces the value, so of several writes the first fixes the place and the
last fixes the value.
-/

namespace Stackwright

/-- The entries with `key` bound to `value`: in place if the key is there, else at the end. -/
def setEntry {α β : Type} [DecidableEq α] (key : α) (value : β) : List (α × β) → List (α × β)
  | [] => [(key, value)]
  | (k, v) :: rest => if k = key then (key, value) :: rest else (k, v) :: setEntry key value rest

/-- The entries with every binding of `key` left out. -/
def dropEntry {α β : Type} [DecidableEq α] (key : α) (entries : List (α × β)) : List (α × β) :=
  entries.filter fun entry => !decide (entry.1 = key)

/-- The value of the first binding of `key`. -/
def findEntry {α β : Type} [DecidableEq α] (key : α) : List (α × β) → Option β
  | [] => none
  | (k, v) :: rest => if k = key then some v else findEntry key rest

section Entries

variable {α β : Type} [DecidableEq α]

/-- Setting an entry keeps the keys in their places and adds a new key at the end. -/
theorem map_fst_setEntry (key : α) (value : β) (entries : List (α × β)) :
    (setEntry key value entries).map Prod.fst =
      if key ∈ entries.map Prod.fst then entries.map Prod.fst
      else entries.map Prod.fst ++ [key] := by
  induction entries with
  | nil => simp [setEntry]
  | cons entry rest ih =>
    obtain ⟨k, v⟩ := entry
    by_cases same : k = key
    · simp [setEntry, same]
    · have other : ¬ key = k := fun equal => same equal.symm
      by_cases member : key ∈ rest.map Prod.fst
      · simp only [member, ↓reduceIte] at ih
        simp [setEntry, same, ih, List.mem_map.mp member]
      · simp only [member, ↓reduceIte] at ih
        have absent : ¬ ∃ value, (key, value) ∈ rest := by
          rintro ⟨value, found⟩
          exact member (List.mem_map.mpr ⟨_, found, rfl⟩)
        simp [setEntry, same, other, ih, absent]

/-- Setting an entry keeps the keys distinct. -/
theorem nodup_setEntry (key : α) (value : β) {entries : List (α × β)}
    (distinct : (entries.map Prod.fst).Nodup) :
    ((setEntry key value entries).map Prod.fst).Nodup := by
  rw [map_fst_setEntry]
  split
  · exact distinct
  · rename_i absent
    refine List.nodup_append.mpr ⟨distinct, by simp, ?_⟩
    intro a member b single equal
    rw [List.mem_singleton.mp single] at equal
    exact absent (equal ▸ member)

theorem nodup_dropEntry (key : α) {entries : List (α × β)}
    (distinct : (entries.map Prod.fst).Nodup) :
    ((dropEntry key entries).map Prod.fst).Nodup :=
  List.Nodup.sublist (List.Sublist.map _ List.filter_sublist) distinct

/-- What was set under a key is found there. -/
@[simp] theorem findEntry_setEntry_self (key : α) (value : β) (entries : List (α × β)) :
    findEntry key (setEntry key value entries) = some value := by
  induction entries with
  | nil => simp [setEntry, findEntry]
  | cons entry rest ih =>
    by_cases same : entry.1 = key <;> simp [setEntry, findEntry, same, ih]

/-- Setting one key changes nothing under another. -/
theorem findEntry_setEntry_of_ne {key other : α} (different : other ≠ key) (value : β)
    (entries : List (α × β)) :
    findEntry other (setEntry key value entries) = findEntry other entries := by
  induction entries with
  | nil => simp [setEntry, findEntry, different.symm]
  | cons entry rest ih =>
    by_cases same : entry.1 = key
    · simp [setEntry, findEntry, same, different.symm]
    · simp [setEntry, findEntry, same, ih]

end Entries

/-- A map with its entries in the order in which their keys were first written. -/
structure OrderedMap (α β : Type) where
  entries : List (α × β)
  distinct : (entries.map Prod.fst).Nodup
deriving DecidableEq, Repr

namespace OrderedMap

variable {α β γ : Type}

/-- The map without entries. -/
def empty : OrderedMap α β := ⟨[], List.nodup_nil⟩

instance : Inhabited (OrderedMap α β) := ⟨empty⟩

/-- The keys in order of first write. -/
def keys (m : OrderedMap α β) : List α := m.entries.map Prod.fst

def size (m : OrderedMap α β) : Nat := m.entries.length

variable [DecidableEq α]

def get? (m : OrderedMap α β) (key : α) : Option β := findEntry key m.entries

def contains (m : OrderedMap α β) (key : α) : Bool := (m.get? key).isSome

/-- Binds `key` to `value`; a key that is there keeps its place. -/
def insert (m : OrderedMap α β) (key : α) (value : β) : OrderedMap α β :=
  ⟨setEntry key value m.entries, nodup_setEntry key value m.distinct⟩

/-- Removes `key`; the rest keeps its order. -/
def erase (m : OrderedMap α β) (key : α) : OrderedMap α β :=
  ⟨dropEntry key m.entries, nodup_dropEntry key m.distinct⟩

/-- Writes the pairs one after the other. -/
def insertMany (m : OrderedMap α β) (pairs : List (α × β)) : OrderedMap α β :=
  pairs.foldl (fun acc pair => acc.insert pair.1 pair.2) m

def ofList (pairs : List (α × β)) : OrderedMap α β := empty.insertMany pairs

/-- A write keeps the keys in their places and adds a new key at the end. -/
theorem keys_insert (m : OrderedMap α β) (key : α) (value : β) :
    (m.insert key value).keys = if key ∈ m.keys then m.keys else m.keys ++ [key] :=
  map_fst_setEntry key value m.entries

@[simp] theorem get?_insert_self (m : OrderedMap α β) (key : α) (value : β) :
    (m.insert key value).get? key = some value :=
  findEntry_setEntry_self key value m.entries

theorem get?_insert_of_ne (m : OrderedMap α β) {key other : α} (different : other ≠ key)
    (value : β) : (m.insert key value).get? other = m.get? other :=
  findEntry_setEntry_of_ne different value m.entries

end OrderedMap

end Stackwright

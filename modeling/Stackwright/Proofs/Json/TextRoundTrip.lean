import Stackwright.Proofs.Json.Lexing
import Stackwright.Proofs.OrderedMap

/-!
# Printed text reads back

A value without null, without numbers that are not whole and with whole numbers of 64 bits, that
repeats no name and does not nest too deeply, is what its printed text spells
(`ofText?_pretty`, `toJson_ofJson`).
-/

namespace Stackwright.Json

namespace Written

mutual

/-- The text that spells the value, as written. -/
def ofJson : Json → Written
  | .null => .null
  | .bool b => .bool b
  | .integer n => .integer n
  | .float x => .float x
  | .string s => .string s
  | .array items => .array (ofItems items)
  | .object members => .object (ofMembers members)

def ofItems : List Json → List Written
  | [] => []
  | item :: rest => ofJson item :: ofItems rest

def ofMembers : List (String × Json) → List (Except Fault String × Written)
  | [] => []
  | (name, value) :: rest => (.ok name, ofJson value) :: ofMembers rest

end

end Written

open Written

attribute [local simp] build?

/-- Above the limit of levels a value is kept. -/
theorem atLevel_eq {level : Nat} (shallow : level < levelLimit) (value : Written) :
    atLevel level value = value := by
  rw [atLevel, if_neg (by omega)]

/-- Inside any open containers that leave room for `depth` more, the lexemes of the value nest to
the value. -/
def Nests (depth : Nat) (j : Json) : Prop :=
  ∀ rest frames, frames.length + depth < levelLimit →
    build? (lexemes j ++ rest) frames .value = build? rest frames (.after (ofJson j))

/-- A value that is the first item of an array nests as any value. -/
theorem build?_firstItem (j : Json) (rest : List Lexeme) (frames : List Frame) :
    build? (lexemes j ++ rest) frames .firstItem = build? (lexemes j ++ rest) frames .value := by
  cases j with
  | null | bool | integer | float | string => simp [lexemes]
  | array items => cases items <;> simp [lexemes]
  | object members => cases members <;> simp [lexemes]

/-- The lexemes of further items go to the open list, which then closes. -/
theorem build?_itemLexemes {depth : Nat} {items : List Json}
    (each : ∀ item ∈ items, Nests depth item) {rest : List Lexeme} {outer : List Frame}
    (shallow : outer.length + (depth + 1) < levelLimit) (done : List Written) (value : Written) :
    build? (itemLexemes items ++ .closeArray :: rest) (.array done :: outer) (.after value) =
      build? rest outer (.after (.array (done.reverse ++ value :: ofItems items))) := by
  induction items generalizing done value with
  | nil =>
    have level : outer.length + 1 < levelLimit := by omega
    simp [itemLexemes, ofItems, atLevel_eq level]
  | cons item tail ih =>
    rw [List.forall_mem_cons] at each
    have room : (Frame.array (value :: done) :: outer).length + depth < levelLimit := by
      rw [List.length_cons]
      omega
    rw [itemLexemes, List.cons_append, build?, List.append_assoc, each.1 _ _ room, ih each.2]
    simp [ofItems]

theorem build?_memberLexemes {depth : Nat} {members : List (String × Json)}
    (each : ∀ member ∈ members, Nests depth member.2) {rest : List Lexeme} {outer : List Frame}
    (shallow : outer.length + (depth + 1) < levelLimit)
    (done : List (Except Fault String × Written)) (name : String) (value : Written) :
    build? (memberLexemes members ++ .closeObject :: rest) (.object done (.ok name) :: outer)
        (.after value) =
      build? rest outer
        (.after (.object (done.reverse ++ (.ok name, value) :: ofMembers members))) := by
  induction members generalizing done name value with
  | nil =>
    have level : outer.length + 1 < levelLimit := by omega
    simp [memberLexemes, ofMembers, atLevel_eq level]
  | cons member tail ih =>
    obtain ⟨next, json⟩ := member
    rw [List.forall_mem_cons] at each
    have room : (Frame.object ((.ok name, value) :: done) (.ok next) :: outer).length + depth <
        levelLimit := by
      rw [List.length_cons]
      omega
    rw [memberLexemes, List.cons_append, build?, List.cons_append, build?, List.cons_append, build?,
      List.append_assoc, each.1 _ _ room, ih each.2]
    simp [ofMembers]

/-- A list nests one level deeper than its items. -/
theorem nests_array {depth : Nat} {items : List Json} (each : ∀ item ∈ items, Nests depth item) :
    Nests (depth + 1) (.array items) := by
  intro rest frames shallow
  cases items with
  | nil =>
    have level : frames.length + 1 < levelLimit := by omega
    simp [lexemes, ofJson, ofItems, atLevel_eq level]
  | cons item tail =>
    rw [List.forall_mem_cons] at each
    have room : (Frame.array [] :: frames).length + depth < levelLimit := by
      rw [List.length_cons]
      omega
    rw [lexemes, List.cons_append, build?, List.append_assoc, List.append_assoc, build?_firstItem,
      each.1 _ _ room, List.singleton_append, build?_itemLexemes each.2 shallow]
    simp [ofJson, ofItems]

theorem nests_object {depth : Nat} {members : List (String × Json)}
    (each : ∀ member ∈ members, Nests depth member.2) : Nests (depth + 1) (.object members) := by
  intro rest frames shallow
  cases members with
  | nil =>
    have level : frames.length + 1 < levelLimit := by omega
    simp [lexemes, ofJson, ofMembers, atLevel_eq level]
  | cons member tail =>
    obtain ⟨name, value⟩ := member
    rw [List.forall_mem_cons] at each
    have room : (Frame.object [] (.ok name) :: frames).length + depth < levelLimit := by
      rw [List.length_cons]
      omega
    rw [lexemes, List.cons_append, build?, List.cons_append, build?, List.cons_append, build?,
      List.append_assoc, List.append_assoc, each.1 _ _ room, List.singleton_append,
      build?_memberLexemes each.2 shallow]
    simp [ofJson, ofMembers]

/-- A portable value nests within its depth. -/
theorem nests_of_portable {depth : Nat} {j : Json} (portable : Portable depth j) :
    Nests depth j := by
  induction portable with
  | bool b => exact fun rest frames _ => by simp [lexemes, ofJson]
  | integer fits => exact fun rest frames _ => by simp [lexemes, ofJson]
  | string s => exact fun rest frames _ => by simp [lexemes, ofJson]
  | array _ ih => exact nests_array ih
  | object _ _ ih => exact nests_object ih

/-- The printed text of a portable value is read as this value. -/
theorem ofText?_pretty {depth : Nat} {j : Json} (portable : Portable depth j)
    (shallow : depth < levelLimit) : Written.ofText? j.pretty = some (ofJson j) := by
  have nested := nests_of_portable portable [] [] (by simpa using shallow)
  rw [List.append_nil] at nested
  rw [Written.ofText?, lex?_pretty portable]
  exact nested.trans (by rw [build?])

/-- Items are taken over one by one. -/
theorem itemsToJson_ofItems {items : List Json}
    (each : ∀ item ∈ items, (ofJson item).toJson = .ok item) :
    itemsToJson (ofItems items) = .ok items := by
  induction items with
  | nil => rfl
  | cons item tail ih =>
    rw [List.forall_mem_cons] at each
    simp [ofItems, itemsToJson, each.1, ih each.2, bind, Except.bind, pure, Except.pure]

/-- Members with distinct names are taken over one by one, after those that are done. -/
theorem membersToJson_ofMembers (done : List (String × Json)) {members : List (String × Json)}
    (distinct : ((done ++ members).map Prod.fst).Nodup)
    (each : ∀ member ∈ members, (ofJson member.2).toJson = .ok member.2) :
    membersToJson done (ofMembers members) = .ok (done ++ members) := by
  induction members generalizing done with
  | nil => simp [ofMembers, membersToJson]
  | cons member tail ih =>
    obtain ⟨name, value⟩ := member
    rw [List.forall_mem_cons] at each
    have absent : name ∉ done.map Prod.fst := by
      rw [List.map_append] at distinct
      exact fun present =>
        (List.nodup_append.mp distinct).2.2 name present name List.mem_cons_self rfl
    simp only [ofMembers, membersToJson, bind, Except.bind, each.1]
    rw [setEntry_eq_append absent, ih _ (by simpa using distinct) each.2, List.append_assoc]
    rfl

/-- What is written has the value. -/
theorem toJson_ofJson {j : Json} (wellFormed : j.WellFormed) : (ofJson j).toJson = .ok j := by
  induction wellFormed with
  | null => rfl
  | bool b => rfl
  | integer n => rfl
  | float x => rfl
  | string s => rfl
  | array items _ ih =>
    simp [ofJson, toJson, itemsToJson_ofItems ih, bind, Except.bind, pure, Except.pure]
  | object members distinct _ ih =>
    have read := membersToJson_ofMembers [] distinct ih
    simp [ofJson, toJson, read, bind, Except.bind, pure, Except.pure]

/-- A portable value is well formed. -/
theorem Portable.wellFormed {depth : Nat} {j : Json} (portable : Portable depth j) :
    j.WellFormed := by
  induction portable with
  | bool b => exact .bool b
  | integer fits => exact .integer _
  | string s => exact .string s
  | array _ ih => exact .array _ ih
  | object distinct _ ih => exact .object _ distinct ih

theorem Portable.definite {depth : Nat} {j : Json} (portable : Portable depth j) :
    j.Definite := by
  induction portable with
  | bool b => exact .bool b
  | integer fits => exact .integer _
  | string s => exact .string s
  | array _ ih => exact .array ih
  | object _ _ ih => exact .object ih

end Stackwright.Json

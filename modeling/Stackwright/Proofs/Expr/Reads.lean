import Stackwright.Proofs.Expr.Calls
import Stackwright.Proofs.OrderedMap

/-!
# Names that expressions read

An expression reads names through references and through the placeholders of its texts, at any
depth; these are the names of values that its JSON uses (`Expr.value_mem_uses_toJson_iff`).
-/

namespace Stackwright

namespace Expr

/-- The names that a call mentions by itself. -/
def mentions : Expr → List String
  | .ref name => [name]
  | .sub template => placeholders template
  | _ => []

/-- The names that an expression reads. -/
def reads (e : Expr) : List String := e.subterms.flatMap mentions

section

attribute [local simp] reads subterms mentions

@[simp] theorem reads_literal (text : String) : (Expr.literal text).reads = [] := rfl

@[simp] theorem reads_ref (name : String) : (Expr.ref name).reads = [name] := rfl

/-- A text with placeholders reads the names in them. -/
@[simp] theorem reads_sub (template : String) :
    (Expr.sub template).reads = placeholders template := by
  simp

@[simp] theorem reads_getAtt (resource property : String) :
    (Expr.getAtt resource property).reads = [] := rfl

@[simp] theorem reads_importValue (name : Expr) : (Expr.importValue name).reads = name.reads := by
  simp

@[simp] theorem reads_equals (left right : Expr) :
    (Expr.equals left right).reads = left.reads ++ right.reads := by
  simp

/-- A choice reads what its branches read; its condition is no value. -/
@[simp] theorem reads_ifThenElse (condition : String) (whenTrue whenFalse : Expr) :
    (Expr.ifThenElse condition whenTrue whenFalse).reads = whenTrue.reads ++ whenFalse.reads := by
  simp

end

/-- What the subterms of arguments mention is what the arguments read. -/
theorem flatMap_mentions_subtermsAll (es : List Expr) :
    (subtermsAll es).flatMap mentions = es.flatMap reads := by
  induction es with
  | nil => rfl
  | cons e rest ih => rw [subtermsAll, List.flatMap_append, ih, List.flatMap_cons, reads]

@[simp] theorem reads_not (conditions : List Expr) :
    (Expr.not conditions).reads = conditions.flatMap reads := by
  rw [reads, subterms, List.flatMap_cons, flatMap_mentions_subtermsAll]
  rfl

@[simp] theorem reads_join (delimiter : String) (parts : List Expr) :
    (Expr.join delimiter parts).reads = parts.flatMap reads := by
  rw [reads, subterms, List.flatMap_cons, flatMap_mentions_subtermsAll]
  rfl

mutual

/-- A written expression uses as values exactly the names that it reads. -/
theorem value_mem_uses_toJson_iff {name : String} : (e : Expr) →
    (NameUse.value name ∈ e.toJson.uses ↔ name ∈ e.reads)
  | .literal _ => by simp [toJson, Json.uses]
  | .ref _ | .sub _ | .getAtt .. => by
    simp [toJson, call, Json.uses, Json.ownUses, Json.memberUses, Json.itemUses, findEntry]
  | .ifThenElse _ t e => by
    simp [toJson, call, Json.uses, Json.ownUses, Json.memberUses, Json.itemUses, findEntry,
      value_mem_uses_toJson_iff t, value_mem_uses_toJson_iff e]
  | .equals l r => by
    simp [toJson, call, Json.uses, Json.ownUses, Json.memberUses, Json.itemUses, findEntry,
      value_mem_uses_toJson_iff l, value_mem_uses_toJson_iff r]
  | .not cs => by
    simp [toJson, call, Json.uses, Json.ownUses, Json.memberUses, findEntry,
      value_mem_itemUses_toJsonAll_iff cs]
  | .importValue n => by
    simp [toJson, call, Json.uses, Json.ownUses, Json.memberUses, findEntry,
      value_mem_uses_toJson_iff n]
  | .join _ ps => by
    simp [toJson, call, Json.uses, Json.ownUses, Json.memberUses, Json.itemUses, findEntry,
      value_mem_itemUses_toJsonAll_iff ps]

/-- Written arguments use as values exactly the names that one of them reads. -/
theorem value_mem_itemUses_toJsonAll_iff {name : String} : (es : List Expr) →
    (NameUse.value name ∈ Json.itemUses (toJsonAll es) ↔ ∃ e ∈ es, name ∈ e.reads)
  | [] => by simp [toJsonAll, Json.itemUses]
  | e :: rest => by
    simp [toJsonAll, Json.itemUses, value_mem_uses_toJson_iff e,
      value_mem_itemUses_toJsonAll_iff rest]

end

end Expr

namespace Json

@[simp] theorem uses_string (text : String) : uses (.string text) = [] := rfl

@[simp] theorem uses_integer (n : Int) : uses (.integer n) = [] := rfl

@[simp] theorem uses_bool (b : Bool) : uses (.bool b) = [] := rfl

theorem uses_array_eq (items : List Json) : uses (.array items) = items.flatMap uses := by
  rw [uses, itemUses_eq_flatMap]

@[simp] theorem uses_strings (items : List String) : uses (strings items) = [] := by
  rw [strings, uses_array_eq, List.flatMap_map]
  simp

/-- An object uses no names by itself if what stands under the names of functions are objects. -/
theorem uses_object_eq {members : List (String × Json)}
    (nested : ∀ member ∈ members, member.1 ∈ Expr.functions → ∃ inner, member.2 = .object inner) :
    uses (.object members) = members.flatMap fun member => member.2.uses := by
  have under : ∀ function ∈ Expr.functions, ∀ value, findEntry function members = some value →
      ∃ inner, value = .object inner :=
    fun function known value found => nested _ (mem_of_findEntry found) known
  have own : ownUses members = [] := by
    unfold ownUses
    have ref := under "Ref" (by decide)
    have sub := under "Fn::Sub" (by decide)
    have choice := under "Fn::If" (by decide)
    split
    · rename_i found
      simpa using ref _ found
    · split
      · rename_i found
        simpa using sub _ found
      · split
        · rename_i found
          simpa using choice _ found
        · rfl
  rw [uses, own, List.nil_append, memberUses_eq_flatMap]

end Json

end Stackwright

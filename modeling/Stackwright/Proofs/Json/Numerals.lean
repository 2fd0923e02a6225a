import Stackwright.Json.Printer

/-!
# Texts of numbers

Whole numbers are written with digits and a minus sign and are told apart by their text. The text of
any other number holds a mark that no whole number has: a point, an exponent, or the name of null.
-/

namespace Stackwright.Json

section

variable {p : Char → Prop} [DecidablePred p]

/-- A property of the characters in a list is decided by going through the list, and not through
all characters there are. -/
instance (priority := high) decidableForallMem (cs : List Char) : Decidable (∀ c ∈ cs, p c) :=
  List.decidableBAll p cs

instance (priority := high) decidableExistsMem (cs : List Char) : Decidable (∃ c ∈ cs, p c) :=
  List.decidableBEx p cs

end

theorem isDigit_of_mem_toDigits {n : Nat} {c : Char} (member : c ∈ Nat.toDigits 10 n) :
    c.isDigit = true :=
  Nat.isDigit_of_mem_toDigits (by decide) (by decide) member

/-- Different natural numbers are written differently. -/
theorem toDigits_injective {m n : Nat} (same : Nat.toDigits 10 m = Nat.toDigits 10 n) : m = n := by
  rw [← Nat.ofDigitChars_ten_toDigits (n := m), same, Nat.ofDigitChars_ten_toDigits]

/-- An integer is written as its digits, after a minus sign if it is negative. -/
theorem toList_toString_int (n : Int) : (toString n).toList =
    if 0 ≤ n then Nat.toDigits 10 n.toNat else '-' :: Nat.toDigits 10 (-n).toNat := by
  rw [Int.toString_eq_repr, Int.repr_eq_if]
  split
  · exact Nat.toList_repr
  · rw [String.toList_append, Nat.toList_repr]
    rfl

/-- An integer is written with digits and the minus sign. -/
theorem isDigit_or_minus_of_mem_toString {n : Int} {c : Char} (member : c ∈ (toString n).toList) :
    c.isDigit = true ∨ c = '-' := by
  rw [toList_toString_int] at member
  split at member
  · exact .inl (isDigit_of_mem_toDigits member)
  · exact (List.mem_cons.mp member).symm.imp_left isDigit_of_mem_toDigits

theorem toString_int_ne_nil (n : Int) : (toString n).toList ≠ [] := by
  rw [toList_toString_int]
  split
  · exact Nat.toDigits_ne_nil
  · exact List.cons_ne_nil _ _

/-- Different integers are written differently. -/
theorem toString_int_injective {m n : Int} (same : (toString m).toList = (toString n).toList) :
    m = n := by
  have minus : ∀ k tail, Nat.toDigits 10 k ≠ '-' :: tail := by
    intro k tail spelled
    have digit := isDigit_of_mem_toDigits (spelled ▸ List.mem_cons_self)
    revert digit
    decide
  rw [toList_toString_int, toList_toString_int] at same
  split at same <;> split at same
  · have := toDigits_injective same
    omega
  · exact (minus _ _ same).elim
  · exact (minus _ _ same.symm).elim
  · have := toDigits_injective (List.cons.inj same).2
    omega

/-- The characters of numbers, and of null. -/
def IsNumeral (c : Char) : Prop := c.isDigit = true ∨ c ∈ ['-', '+', '.', 'e', 'n', 'u', 'l']

/-- The text has nothing but characters of numbers. -/
def AllNumeral (text : String) : Prop := ∀ c ∈ text.toList, IsNumeral c

/-- The text has a character that whole numbers do without. -/
def Marked (text : String) : Prop := ∃ c ∈ text.toList, c ∈ ['.', 'e', 'n']

instance (text : String) : Decidable (AllNumeral text) :=
  inferInstanceAs (Decidable (∀ c ∈ text.toList, c.isDigit = true ∨ _))

instance (text : String) : Decidable (Marked text) :=
  inferInstanceAs (Decidable (∃ c ∈ text.toList, c ∈ ['.', 'e', 'n']))

@[simp] theorem allNumeral_append {a b : String} :
    AllNumeral (a ++ b) ↔ AllNumeral a ∧ AllNumeral b := by
  simp only [AllNumeral, String.toList_append, List.forall_mem_append]

@[simp] theorem marked_append {a b : String} : Marked (a ++ b) ↔ Marked a ∨ Marked b := by
  simp only [Marked, String.toList_append, List.mem_append, or_and_right, exists_or]

@[simp] theorem allNumeral_zeros (n : Nat) : AllNumeral (String.ofList (List.replicate n '0')) := by
  intro c member
  rw [String.toList_ofList] at member
  rw [List.eq_of_mem_replicate member]
  exact .inl (by decide)

theorem allNumeral_toString (n : Int) : AllNumeral (toString n) := by
  intro c member
  refine (isDigit_or_minus_of_mem_toString member).imp_right fun minus => ?_
  rw [minus]
  decide

theorem lt_ten_of_mem_digits_ofNat {n : Nat} {exponent : Int} {d : Nat}
    (member : d ∈ (Decimal.ofNat n exponent).digits) : d < 10 := by
  unfold Decimal.ofNat Decimal.trimmed at member
  dsimp only at member
  rw [List.mem_reverse] at member
  have listed := List.mem_reverse.mp ((List.dropWhile_sublist _).mem member)
  obtain ⟨c, digit, rfl⟩ := List.mem_map.mp listed
  have bounds := Char.isDigit_iff_toNat.mp (isDigit_of_mem_toDigits digit)
  have nine : '9'.toNat = 57 := by decide
  omega

/-- The digits of the shortest decimal are less than ten. -/
theorem lt_ten_of_mem_digits_shortest {units d : Nat}
    (member : d ∈ (Binary64.shortest units).digits) : d < 10 := by
  unfold Binary64.shortest at member
  split at member
  · rw [List.mem_singleton.mp member]
    decide
  · dsimp only at member
    split at member
    · exact lt_ten_of_mem_digits_ofNat member
    · rw [List.mem_singleton.mp member]
      decide

/-- Digits less than ten are written with characters of numbers only. -/
theorem allNumeral_digitText {ds : List Nat} (small : ∀ d ∈ ds, d < 10) :
    AllNumeral (Decimal.digitText ds) := by
  intro c member
  rw [Decimal.digitText, String.toList_ofList] at member
  obtain ⟨d, listed, rfl⟩ := List.mem_map.mp member
  have each : ∀ d < 10, (Decimal.digitChar d).isDigit = true := by decide
  exact .inl (each d (small d listed))

/-- A decimal written out has characters of numbers only, and a mark that whole numbers lack. -/
theorem numeral_positional {d : Decimal} (small : ∀ digit ∈ d.digits, digit < 10) :
    AllNumeral (Binary64.positional d) ∧ Marked (Binary64.positional d) := by
  have whole := allNumeral_digitText small
  have front := allNumeral_digitText fun digit member => small digit
    (List.mem_of_mem_take (i := d.point.toNat) member)
  have back := allNumeral_digitText fun digit member => small digit
    (List.mem_of_mem_drop (i := d.point.toNat) member)
  have point : AllNumeral "." ∧ Marked "." := by decide
  have opening : AllNumeral "0." ∧ Marked "0." := by decide
  have ending : AllNumeral ".0" ∧ Marked ".0" := by decide
  unfold Binary64.positional
  dsimp only
  split
  · simp [opening, whole]
  · split
    · simp [ending, whole]
    · simp [point, front, back]

/-- A decimal with an exponent has characters of numbers only, and a mark that whole numbers
lack. -/
theorem numeral_exponential {d : Decimal} (small : ∀ digit ∈ d.digits, digit < 10) (plus : Bool) :
    AllNumeral (Binary64.exponential plus d) ∧ Marked (Binary64.exponential plus d) := by
  have head := allNumeral_digitText fun digit member => small digit
    (List.mem_of_mem_take (i := 1) member)
  have tail := allNumeral_digitText fun digit member => small digit
    (List.mem_of_mem_drop (i := 1) member)
  have point : AllNumeral "." := by decide
  have exponent : AllNumeral "e" ∧ Marked "e" := by decide
  have power := allNumeral_toString (d.point - 1)
  have fraction : AllNumeral (if (d.digits.drop 1).isEmpty then ""
      else "." ++ Decimal.digitText (d.digits.drop 1)) := by
    split
    · decide
    · exact allNumeral_append.mpr ⟨point, tail⟩
  have sign : AllNumeral (if plus && 0 ≤ d.point - 1 then "+" else "") := by split <;> decide
  unfold Binary64.exponential
  simp only [allNumeral_append, marked_append]
  exact ⟨⟨⟨⟨⟨head, fraction⟩, exponent.1⟩, sign⟩, power⟩, .inl (.inl (.inr exponent.2))⟩

/-- Numbers that are not whole are told from whole ones. -/
theorem numeral_float (x : Binary64) :
    AllNumeral (x.render numberLayout) ∧ Marked (x.render numberLayout) := by
  have null : AllNumeral "null" ∧ Marked "null" := by decide
  have sign : ∀ negative : Bool, AllNumeral (if negative then "-" else "") := by decide
  cases x with
  | nan => exact null
  | infinite negative =>
    exact ⟨allNumeral_append.mpr ⟨sign negative, null.1⟩, marked_append.mpr (.inr null.2)⟩
  | finite negative units =>
    have small : ∀ digit ∈ (Binary64.shortest units).digits, digit < 10 :=
      fun _ => lt_ten_of_mem_digits_shortest
    have digits : ∀ fits : Bool,
        AllNumeral (if fits then Binary64.positional (Binary64.shortest units)
          else Binary64.exponential numberLayout.plus (Binary64.shortest units)) ∧
        Marked (if fits then Binary64.positional (Binary64.shortest units)
          else Binary64.exponential numberLayout.plus (Binary64.shortest units)) := by
      intro fits
      cases fits
      · exact numeral_exponential small numberLayout.plus
      · exact numeral_positional small
    unfold Binary64.render
    simp only [allNumeral_append, marked_append]
    exact ⟨⟨sign negative, (digits _).1⟩, .inr (digits _).2⟩

end Stackwright.Json

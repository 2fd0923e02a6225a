import Mathlib.Data.Option.Basic
import Stackwright.Json.Reader
import Stackwright.Proofs.Json.Numerals

/-!
# Reading back whole numbers

The text of a whole number of 64 bits is a word that reads as that number (`atom?_toString`).
-/

namespace Stackwright.Json

/-- The number has 64 bits, with a sign if it is negative. -/
def Fits (n : Int) : Prop := -(Nat.pow 2 63 : Nat) ≤ n ∧ n ≤ significandLimit

/-- A digit has the value of its code above that of zero. -/
theorem digit?_of_isDigit {c : Char} (digit : c.isDigit = true) :
    digit? c = some (c.toNat - 48) := by
  have bounds : '0' ≤ c ∧ c ≤ '9' := by simpa [Char.isDigit, Char.le_def] using digit
  simp [digit?, bounds]

/-- Of digits alone, all are taken. -/
theorem takeDigits_eq {cs : List Char} (digits : ∀ c ∈ cs, c.isDigit = true) :
    takeDigits cs = (cs.map fun c => c.toNat - 48, []) := by
  induction cs with
  | nil => rfl
  | cons c rest ih =>
    rw [takeDigits, digit?_of_isDigit (digits c List.mem_cons_self)]
    simp [ih fun d member => digits d (List.mem_cons_of_mem c member)]

theorem le_ofDigitChars (cs : List Char) (n : Nat) : n ≤ Nat.ofDigitChars 10 cs n := by
  induction cs generalizing n with
  | nil => exact Nat.le_refl n
  | cons c rest ih =>
    rw [Nat.ofDigitChars_cons]
    have later := ih (10 * n + (c.toNat - '0'.toNat))
    omega

/-- Digits within the limit all go to the significand. -/
theorem extendSignificand_eq {cs : List Char} {n : Nat}
    (small : Nat.ofDigitChars 10 cs n ≤ significandLimit) :
    extendSignificand n (cs.map fun c => c.toNat - 48) = (Nat.ofDigitChars 10 cs n, []) := by
  induction cs generalizing n with
  | nil => rfl
  | cons c rest ih =>
    rw [Nat.ofDigitChars_cons] at small ⊢
    have first : 10 * n + (c.toNat - 48) ≤ significandLimit :=
      Nat.le_trans (le_ofDigitChars rest _) small
    rw [List.map_cons, extendSignificand, if_pos first]
    exact ih small

/-- A positive number is written without a leading zero. -/
theorem head?_toDigits_ne_zero {n : Nat} (positive : 0 < n) :
    (Nat.toDigits 10 n).head? ≠ some '0' := by
  induction n using Nat.strongRecOn with
  | _ n ih =>
    rw [Nat.toDigits_eq_if (by decide)]
    split
    · have apart : ∀ d < 10, 0 < d → d.digitChar ≠ '0' := by decide
      simpa using apart n ‹_› positive
    · rw [List.head?_append, Option.or_of_isSome (by simp [Nat.toDigits_ne_nil])]
      exact ih (n / 10) (by omega) (by omega)

/-- No digit stands behind a leading zero. -/
theorem nil_or_ne_zero_of_toDigits {n : Nat} {c : Char} {rest : List Char}
    (spelled : Nat.toDigits 10 n = c :: rest) : rest = [] ∨ c.toNat - 48 ≠ 0 := by
  by_cases small : n < 10
  · rw [Nat.toDigits_of_lt_base small] at spelled
    exact .inl (List.cons.inj spelled).2.symm
  · right
    intro zero
    have first := head?_toDigits_ne_zero (n := n) (by omega)
    have bounds := Char.isDigit_iff_toNat.mp (isDigit_of_mem_toDigits (n := n) (c := c)
      (by simp [spelled]))
    have same : c.toNat = '0'.toNat := by
      have code : '0'.toNat = 48 := by decide
      omega
    rw [spelled, List.head?_cons] at first
    exact first (congrArg some (Char.toNat_inj.mp same))

/-- The numeral that the digits of a number spell, with or without a sign. -/
theorem ofWord?_toDigits (n : Nat) (negative : Bool) :
    Numeral.ofWord? ((if negative then ['-'] else []) ++ Nat.toDigits 10 n) =
      some ⟨negative, (Nat.toDigits 10 n).map fun c => c.toNat - 48, [], none⟩ := by
  have digits := takeDigits_eq fun c member => isDigit_of_mem_toDigits (n := n) (c := c) member
  obtain ⟨c, rest, spelled⟩ := List.exists_cons_of_ne_nil (Nat.toDigits_ne_nil (b := 10) (n := n))
  have zero := nil_or_ne_zero_of_toDigits spelled
  have unsigned : c ≠ '-' := by
    rintro rfl
    have digit := isDigit_of_mem_toDigits (n := n) (c := '-') (by simp [spelled])
    revert digit
    decide
  rw [spelled] at digits ⊢
  unfold Numeral.ofWord?
  cases negative
  · simp [unsigned, digits, guard, zero]
  · simp [digits, guard, zero]

/-- The digits of a number within 64 bits are worth this number. -/
theorem value_toDigits {n : Nat} (small : n ≤ significandLimit) (negative : Bool)
    (signed : negative = true → 0 < n ∧ n ≤ Nat.pow 2 63) :
    Numeral.value ⟨negative, (Nat.toDigits 10 n).map fun c => c.toNat - 48, [], none⟩ =
      .integer (if negative then -(n : Int) else n) := by
  have whole : extendSignificand 0 ((Nat.toDigits 10 n).map fun c => c.toNat - 48) = (n, []) := by
    rw [extendSignificand_eq (by rwa [Nat.ofDigitChars_ten_toDigits]),
      Nat.ofDigitChars_ten_toDigits]
  unfold Numeral.value
  cases negative with
  | false => simp [whole]
  | true => simp [whole, signed rfl]

/-- A printed integer within 64 bits is read as this integer. -/
theorem atom?_toString {n : Int} (fits : Fits n) :
    atom? (toString n).toList = some (.integer n) := by
  have unnamed : ∀ word ∈ ["null".toList, "true".toList, "false".toList],
      (toString n).toList ≠ word := by
    have lettered : ∀ word ∈ ["null".toList, "true".toList, "false".toList],
        ∃ c ∈ word, ¬ (c.isDigit = true ∨ c = '-') := by decide
    rintro word listed rfl
    obtain ⟨c, member, letter⟩ := lettered _ listed
    exact letter (isDigit_or_minus_of_mem_toString member)
  simp only [List.forall_mem_cons] at unnamed
  unfold atom?
  rw [if_neg unnamed.1, if_neg unnamed.2.1, if_neg unnamed.2.2.1, toList_toString_int]
  by_cases positive : 0 ≤ n
  · have read := ofWord?_toDigits n.toNat false
    have value := value_toDigits (n := n.toNat) (by have := fits.2; omega) false nofun
    rw [if_pos positive]
    simp only [Bool.false_eq_true, if_false, List.nil_append] at read value
    rw [read, Option.map_some, value, Int.toNat_of_nonneg positive]
  · have limits : Nat.pow 2 63 ≤ significandLimit := by decide
    have size : (-n).toNat ≤ Nat.pow 2 63 := by have := fits.1; omega
    have read := ofWord?_toDigits (-n).toNat true
    have value := value_toDigits (n := (-n).toNat) (by omega) true fun _ => ⟨by omega, size⟩
    rw [if_neg positive]
    simp only [if_true, List.cons_append, List.nil_append] at read value
    rw [read, Option.map_some, value, Int.toNat_of_nonneg (by omega), Int.neg_neg]

end Stackwright.Json

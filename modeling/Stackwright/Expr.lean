/-!
# Template expressions

An expression is a literal text or a call of one of the deployment platform's functions. The module
also finds the names that a substitution text reads.
-/

namespace Stackwright

/-- A value that the platform computes at deployment. -/
inductive Expr where
  | literal (text : String)
  /-- The value of a parameter, pseudo parameter or logical resource. -/
  | ref (name : String)
  | ifThenElse (condition : String) (whenTrue whenFalse : Expr)
  | equals (left right : Expr)
  /-- The negation; the platform accepts one condition only. -/
  | not (conditions : List Expr)
  /-- A value that another stack exports. -/
  | importValue (name : Expr)
  /-- A text in which each `${Name}` is replaced by the value of the name. -/
  | sub (template : String)
  | join (delimiter : String) (parts : List Expr)
  | getAtt (resource property : String)
deriving Repr, Inhabited

namespace Expr

mutual

def beq : Expr → Expr → Bool
  | .literal a, .literal b => a == b
  | .ref a, .ref b => a == b
  | .ifThenElse c t e, .ifThenElse c' t' e' => c == c' && beq t t' && beq e e'
  | .equals l r, .equals l' r' => beq l l' && beq r r'
  | .not cs, .not cs' => beqAll cs cs'
  | .importValue n, .importValue n' => beq n n'
  | .sub t, .sub t' => t == t'
  | .join d ps, .join d' ps' => d == d' && beqAll ps ps'
  | .getAtt r a, .getAtt r' a' => r == r' && a == a'
  | _, _ => false

def beqAll : List Expr → List Expr → Bool
  | [], [] => true
  | a :: as, b :: bs => beq a b && beqAll as bs
  | _, _ => false

end

mutual

/-- Expressions that compare equal are equal. -/
theorem eq_of_beq : (a b : Expr) → beq a b = true → a = b
  | .literal _, b, h => by cases b <;> simp_all [beq]
  | .ref _, b, h => by cases b <;> simp_all [beq]
  | .ifThenElse _ t e, b, h => by
    cases b <;> simp only [beq, Bool.and_eq_true, Bool.false_eq_true] at h
    rename_i c' t' e'
    rw [eq_of_beq t t' h.1.2, eq_of_beq e e' h.2, LawfulBEq.eq_of_beq h.1.1]
  | .equals l r, b, h => by
    cases b <;> simp only [beq, Bool.and_eq_true, Bool.false_eq_true] at h
    rename_i l' r'
    rw [eq_of_beq l l' h.1, eq_of_beq r r' h.2]
  | .not cs, b, h => by
    cases b <;> simp only [beq, Bool.false_eq_true] at h
    rename_i cs'
    rw [eq_of_beqAll cs cs' h]
  | .importValue n, b, h => by
    cases b <;> simp only [beq, Bool.false_eq_true] at h
    rename_i n'
    rw [eq_of_beq n n' h]
  | .sub _, b, h => by cases b <;> simp_all [beq]
  | .join _ ps, b, h => by
    cases b <;> simp only [beq, Bool.and_eq_true, Bool.false_eq_true] at h
    rename_i d' ps'
    rw [eq_of_beqAll ps ps' h.2, LawfulBEq.eq_of_beq h.1]
  | .getAtt _ _, b, h => by cases b <;> simp_all [beq]

theorem eq_of_beqAll : (as bs : List Expr) → beqAll as bs = true → as = bs
  | [], bs, h => by cases bs <;> simp_all [beqAll]
  | a :: as, bs, h => by
    cases bs <;> simp only [beqAll, Bool.and_eq_true, Bool.false_eq_true] at h
    rename_i b bs
    rw [eq_of_beq a b h.1, eq_of_beqAll as bs h.2]

end

mutual

/-- Every expression compares equal to itself. -/
theorem beq_refl : (a : Expr) → beq a a = true
  | .literal _ | .ref _ | .sub _ | .getAtt .. => by simp [beq]
  | .ifThenElse _ t e => by simp [beq, beq_refl t, beq_refl e]
  | .equals l r => by simp [beq, beq_refl l, beq_refl r]
  | .not cs => by simp [beq, beqAll_refl cs]
  | .importValue n => by simp [beq, beq_refl n]
  | .join _ ps => by simp [beq, beqAll_refl ps]

theorem beqAll_refl : (as : List Expr) → beqAll as as = true
  | [] => rfl
  | a :: as => by simp [beqAll, beq_refl a, beqAll_refl as]

end

/-- The comparison of expressions decides their equality. -/
theorem beq_eq_true_iff {a b : Expr} : beq a b = true ↔ a = b :=
  ⟨eq_of_beq a b, fun same => same ▸ beq_refl a⟩

instance : DecidableEq Expr := fun _ _ => decidable_of_iff _ beq_eq_true_iff

/-- The pseudo parameter that holds the region of the deployment. -/
def region : Expr := .ref "AWS::Region"

/-- The pseudo parameter that holds the deploying account. -/
def accountId : Expr := .ref "AWS::AccountId"

/-- The text before the next closing brace, and the text after it. -/
def splitClose : List Char → Option (List Char × List Char)
  | [] => none
  | c :: rest =>
    if c = '}' then some ([], rest)
    else (splitClose rest).map fun (name, after) => (c :: name, after)

/-- What follows a closing brace is shorter than the text that was searched for it. -/
theorem length_splitClose {text name after : List Char}
    (found : splitClose text = some (name, after)) :
    after.length < text.length := by
  induction text generalizing name after with
  | nil => simp [splitClose] at found
  | cons c rest ih =>
    unfold splitClose at found
    split at found
    · cases found; simp
    · obtain ⟨⟨name', after'⟩, inner, same⟩ := Option.map_eq_some_iff.mp found
      cases same
      have := ih inner
      simp only [List.length_cons]
      omega

/-- The names between `${` and the next closing brace, in order and with repetitions. A name that
starts with an exclamation mark stands for itself; an opener that is never closed ends the text. -/
def placeholdersOf : List Char → List (List Char)
  | '$' :: '{' :: rest =>
    match found : splitClose rest with
    | some (name, after) =>
      have : after.length < rest.length := length_splitClose found
      if name.head? = some '!' then placeholdersOf after else name :: placeholdersOf after
    | none => []
  | _ :: rest => placeholdersOf rest
  | [] => []
termination_by text => text.length

/-- The names that a substitution text reads. -/
def placeholders (template : String) : List String :=
  (placeholdersOf template.toList).map String.ofList

end Expr

end Stackwright

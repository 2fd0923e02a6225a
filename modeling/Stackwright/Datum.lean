import Stackwright.Binary64.Decimal
import Stackwright.Json.Written
import Stackwright.Text.Escapes

/-!
# Self-describing data, and why it is refused

A datum is the common shape of what the document formats can say, kept aside until the reader knows
which record it belongs to. An error holds its cause and, for formats that track it, the place. The
wording is decided here and nowhere else; formats differ in two words only, the name of the null
value and the layout of numbers.
-/

namespace Stackwright

/-- A value without a declared type. Keys of a mapping are values too, and may repeat. -/
inductive Datum where
  | null
  | bool (value : Bool)
  /-- A number that a format offers as a count; it may stand for a position. -/
  | natural (value : Nat)
  | integer (value : Int)
  | float (value : Binary64)
  | string (value : String)
  | sequence (items : List Datum)
  | mapping (entries : List (Datum × Datum))
deriving Inhabited

end Stackwright

namespace Stackwright.Datum

/-- What was found where something else was expected. -/
inductive Seen where
  | null
  | bool (value : Bool)
  | integer (value : Int)
  /-- An integer beyond 64 bits. -/
  | wide (value : Int)
  | float (value : Binary64)
  | string (value : String)
  | sequence
  | mapping
  | tagged
deriving DecidableEq, Repr

/-- Why data is not a value of the expected type. -/
inductive Cause where
  | invalidType (seen : Seen) (expected : String)
  | invalidValue (seen : Seen) (expected : String)
  | invalidLength (length : Nat) (expected : String)
  | unknownVariant (name : String) (variants : List String)
  | missingField (name : String)
  | duplicateField (name : String)
  /-- No alternative of the union fits. -/
  | noAlternative (union : String)
  /-- A tagged value stands where it would have to be kept aside. -/
  | taggedValue
  /-- Elements follow the last field of a record. -/
  | surplus
  | fault (fault : Json.Fault)
  /-- Aliases repeat more than the document can account for. -/
  | repetitionLimit
  /-- An integer is too large for a JSON number. -/
  | jsonNumberRange
deriving DecidableEq, Repr

/-- A refusal, with the place if the format names one. -/
structure Error where
  cause : Cause
  place : Option String := none
deriving DecidableEq, Repr

/-- How a family of formats words its messages. -/
structure Wording where
  null : String
  number : Binary64.Layout

/-- Messages about JSON. -/
def Wording.json : Wording := ⟨"null", ⟨some (-5), some 16, true, "NaN", "inf"⟩⟩

/-- Messages about the other formats: numbers are always positional. -/
def Wording.plain : Wording := ⟨"unit value", ⟨none, none, false, "NaN", "inf"⟩⟩

def Seen.describe (wording : Wording) : Seen → String
  | .null => wording.null
  | .bool true => "boolean `true`"
  | .bool false => "boolean `false`"
  | .integer n => "integer `" ++ toString n ++ "`"
  | .wide n => "integer `" ++ toString n ++ "` as " ++ (if 0 ≤ n then "u128" else "i128")
  | .float x => "floating point `" ++ x.render wording.number ++ "`"
  | .string s => "string " ++ Text.quoted s
  | .sequence => "sequence"
  | .mapping => "map"
  | .tagged => "enum"

/-- The names to choose from, as a phrase. -/
def choices : List String → String
  | [] => "there are no variants"
  | [a] => "expected `" ++ a ++ "`"
  | [a, b] => "expected `" ++ a ++ "` or `" ++ b ++ "`"
  | names => "expected one of " ++ String.intercalate ", " (names.map fun n => "`" ++ n ++ "`")

/-- A count of elements, as a phrase. -/
def elementCount (n : Nat) : String :=
  if n = 1 then "1 element" else toString n ++ " elements"

def Cause.message (wording : Wording) : Cause → String
  | .invalidType seen expected =>
    "invalid type: " ++ seen.describe wording ++ ", expected " ++ expected
  | .invalidValue seen expected =>
    "invalid value: " ++ seen.describe wording ++ ", expected " ++ expected
  | .invalidLength n expected => "invalid length " ++ toString n ++ ", expected " ++ expected
  | .unknownVariant name variants => "unknown variant `" ++ name ++ "`, " ++ choices variants
  | .missingField name => "missing field `" ++ name ++ "`"
  | .duplicateField name => "duplicate field `" ++ name ++ "`"
  | .noAlternative union => "data did not match any variant of untagged enum " ++ union
  | .taggedValue => "untagged and internally tagged enums do not support enum input"
  | .surplus => "trailing characters"
  | .fault f => f.message
  | .repetitionLimit => "repetition limit exceeded"
  | .jsonNumberRange => "JSON number out of range"

/-- The message, after the place if there is one. -/
def Error.message (wording : Wording) (error : Error) : String :=
  match error.place with
  | some place => place ++ ": " ++ error.cause.message wording
  | none => error.cause.message wording

/-- An error without a place. -/
def Error.plain (cause : Cause) : Error := ⟨cause, none⟩

def refuse {α : Type} (cause : Cause) : Except Error α := .error (.plain cause)

end Stackwright.Datum

import Stackwright.Binary64
import Stackwright.Text.Escapes
import Stackwright.Yaml.Node

/-!
# The values of scalars

A plain scalar without a tag is null, a boolean or a number if it looks like one, and a text
otherwise. Quoted and block scalars are texts. A tag of the core types asks for a value of its
type.
-/

namespace Stackwright.Yaml

open Text (number?)

/-- The value of a scalar. -/
inductive Value where
  | null
  | bool (value : Bool)
  /-- A number without a minus sign, below `2^64`. -/
  | natural (value : Nat)
  | integer (value : Int)
  /-- An integer beyond 64 bits. -/
  | wide (value : Int)
  | float (value : Binary64)
  | string (value : String)
deriving DecidableEq, Repr

def isNull (text : String) : Bool := ["null", "Null", "NULL", "~"].contains text

def bool? (text : String) : Option Bool :=
  if ["true", "True", "TRUE"].contains text then some true
  else if ["false", "False", "FALSE"].contains text then some false
  else none

/-- Digits after a needless zero, with or without a sign: a text, not a number. -/
def isPaddedDigits (text : List Char) : Bool :=
  let digits := match text with
    | '-' :: rest => rest
    | '+' :: rest => rest
    | _ => text
  1 < digits.length && digits.head? == some '0' && digits.all Char.isDigit

/-- The base that a mark after the zero stands for. -/
def base? : Char → Option Nat
  | 'x' => some 16
  | 'o' => some 8
  | 'b' => some 2
  | _ => none

/-- A number with an optional mark of its base, at most `limit`. -/
def unsigned? (limit : Nat) (text : List Char) : Option Nat :=
  let below := fun (n : Option Nat) => n.filter (· ≤ limit)
  let bare := match text with
    | '+' :: rest => rest
    | _ => text
  let marked := match bare with
    | '0' :: mark :: digits => (base? mark).bind fun base => below (number? base digits)
    | _ => none
  marked <|> (if isPaddedDigits text then none else below (number? 10 bare))

/-- A number after a minus sign, at least `-limit`. -/
def negative? (limit : Nat) (text : List Char) : Option Int :=
  let below := fun (n : Option Nat) => (n.filter (· ≤ limit)).map fun n => -(n : Int)
  match text with
  | '-' :: bare =>
    let marked := match bare with
      | '0' :: mark :: digits => (base? mark).bind fun base => below (number? base digits)
      | _ => none
    marked <|> (if isPaddedDigits text then none else below (number? 10 bare))
  | _ => none

/-- An integer of any spelling. -/
def integer? (text : List Char) : Option Value :=
  ((unsigned? (Nat.pow 2 64 - 1) text).map Value.natural)
    <|> ((negative? (Nat.pow 2 63) text).map Value.integer)
    <|> ((unsigned? (Nat.pow 2 128 - 1) text).map fun n => .wide n)
    <|> ((negative? (Nat.pow 2 127) text).map Value.wide)

/-- Digits with an optional point and exponent, after an optional sign. -/
def decimal? (text : List Char) : Option Binary64 := do
  let (negative, text) := match text with
    | '-' :: rest => (true, rest)
    | '+' :: rest => (false, rest)
    | _ => (false, text)
  let whole := text.takeWhile Char.isDigit
  let text := text.drop whole.length
  let (fraction, text) := match text with
    | '.' :: rest => let ds := rest.takeWhile Char.isDigit; (ds, rest.drop ds.length)
    | _ => ([], text)
  guard (!(whole ++ fraction).isEmpty)
  let exponent ← match text with
    | [] => some 0
    | mark :: rest => do
      guard (mark == 'e' || mark == 'E')
      match rest with
      | '-' :: ds => (number? 10 ds).map fun n => -(n : Int)
      | '+' :: ds => (number? 10 ds).map fun n => (n : Int)
      | ds => (number? 10 ds).map fun n => (n : Int)
  let digits ← number? 10 (whole ++ fraction)
  return Binary64.ofDecimal negative digits (exponent - fraction.length)

/-- A number with a point or exponent, an infinity, or the number that is none. -/
def float? (text : String) : Option Binary64 :=
  let chars := text.toList
  let bare := match chars with
    | '+' :: rest => rest
    | _ => chars
  if bare.length < chars.length && (bare.head? == some '+' || bare.head? == some '-') then none
  else if [".inf", ".Inf", ".INF"].contains (String.ofList bare) then some (.infinite false)
  else if ["-.inf", "-.Inf", "-.INF"].contains text then some (.infinite true)
  else if [".nan", ".NaN", ".NAN"].contains text then some .nan
  else (decimal? bare).filter Binary64.isFinite

/-- The value of a plain scalar without a tag. -/
def plainValue (text : String) : Value :=
  if text.isEmpty || isNull text then .null
  else match bool? text with
    | some b => .bool b
    | none => match integer? text.toList with
      | some value => value
      | none =>
        if isPaddedDigits text.toList then .string text
        else match float? text with
          | some x => .float x
          | none => .string text

/-- The full text of the tag of a core type. -/
def coreTag (name : String) : String := "tag:yaml.org,2002:" ++ name

/-- Whether a tag belongs to the document rather than to the core types. -/
def isLocalTag (tag : Option String) : Bool := tag.any fun t => t.toList.head? == some '!'

/-- The value of a scalar, or what its tag asks for in vain. -/
def Scalar.value (s : Scalar) : Except String Value :=
  let need := fun (what : String) (value : Option Value) =>
    match value with
    | some v => Except.ok v
    | none => Except.error what
  let plain := if s.style = .plain then plainValue s.text else .string s.text
  match s.tag with
  | none => .ok plain
  | some tag =>
    if tag = coreTag "bool" then need "a boolean" ((bool? s.text).map .bool)
    else if tag = coreTag "int" then need "an integer" (integer? s.text.toList)
    else if tag = coreTag "float" then need "a float" ((float? s.text).map .float)
    else if tag = coreTag "null" then need "null" (if isNull s.text then some .null else none)
    else if isLocalTag s.tag then .ok plain
    else .ok (.string s.text)

/-- The count that a scalar spells when a count is asked for: its style matters, not its tag. -/
def Scalar.unsigned? (s : Scalar) : Option Nat :=
  if s.style = .plain || (s.style = .literal && s.tag = some (coreTag "int")) then
    Yaml.unsigned? (Nat.pow 2 64 - 1) s.text.toList
  else none

end Stackwright.Yaml

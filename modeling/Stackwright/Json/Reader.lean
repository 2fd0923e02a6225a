import Stackwright.Json.Written
import Stackwright.Text.Escapes

/-!
# Reading JSON text

Two passes, each a recursion on its input: `lex?` cuts the characters into lexemes, and `build?`
nests the lexemes with a stack of open containers.
-/

namespace Stackwright.Json

/-- A piece of JSON text. -/
inductive Lexeme where
  | openArray
  | closeArray
  | openObject
  | closeObject
  | comma
  | colon
  | text (content : Except Fault String)
  | atom (value : Written)

/-- The digits of a number, before it is given a value. -/
structure Numeral where
  negative : Bool
  whole : List Nat
  fraction : List Nat
  /-- The power of ten after `e`, with its sign. -/
  exponent : Option (Bool × List Nat)

def digit? (c : Char) : Option Nat :=
  if '0' ≤ c && c ≤ '9' then some (c.toNat - 48) else none

/-- The leading digits and what follows them. -/
def takeDigits : List Char → List Nat × List Char
  | [] => ([], [])
  | c :: rest =>
    match digit? c with
    | some d => let (ds, after) := takeDigits rest; (d :: ds, after)
    | none => ([], c :: rest)

/-- The numeral that a word spells: no needless leading zero, and a digit on each side of the
point and after the exponent mark. -/
def Numeral.ofWord? (word : List Char) : Option Numeral := do
  let (negative, word) := match word with
    | '-' :: rest => (true, rest)
    | _ => (false, word)
  let (whole, word) := takeDigits word
  guard (!whole.isEmpty && (whole.length = 1 || whole.head? != some 0))
  let (fraction, word) ← match word with
    | '.' :: rest =>
      let (ds, after) := takeDigits rest
      if ds.isEmpty then none else some (ds, after)
    | _ => some ([], word)
  match word with
  | [] => return ⟨negative, whole, fraction, none⟩
  | mark :: rest =>
    guard (mark = 'e' || mark = 'E')
    let (down, rest) := match rest with
      | '-' :: after => (true, after)
      | '+' :: after => (false, after)
      | _ => (false, rest)
    let (ds, after) := takeDigits rest
    guard (!ds.isEmpty && after.isEmpty)
    return ⟨negative, whole, fraction, some (down, ds)⟩

def digitsValue (ds : List Nat) : Nat := ds.foldl (fun n d => 10 * n + d) 0

/-- The largest significand that is kept exactly. -/
def significandLimit : Nat := Nat.pow 2 64 - 1

/-- Appends digits to a significand until one would exceed the limit; the digits from there on
are returned unread. -/
def extendSignificand (significand : Nat) : List Nat → Nat × List Nat
  | [] => (significand, [])
  | d :: rest =>
    if 10 * significand + d ≤ significandLimit then extendSignificand (10 * significand + d) rest
    else (significand, d :: rest)

/-- The value of `10^k`. -/
def powerOfTen (k : Nat) : Binary64 := Binary64.ofNat (Nat.pow 10 k)

/-- `significand * 10^exponent`, rounded after each step: the significand becomes a binary64, then
one product or quotient by a power of ten follows, or two quotients below `10^-308`. -/
def scale? (significand : Nat) (exponent : Int) : Option Binary64 :=
  let base := Binary64.ofNat significand
  if significand = 0 then some base
  else if 0 ≤ exponent then
    if exponent ≤ 308 then
      let product := base.mul (powerOfTen exponent.toNat)
      if product.isInfinite then none else some product
    else none
  else
    let places := exponent.natAbs
    if places ≤ 308 then some (base.div (powerOfTen places))
    else if places ≤ 616 then
      some ((base.div (powerOfTen 308)).div (powerOfTen (places - 308)))
    else some .zero

/-- The largest power of ten that is looked at. -/
def exponentLimit : Nat := Nat.pow 2 31 - 1

/-- The number that a numeral spells: whole if it has neither point nor exponent and lies within
64 bits, else a binary64. Digits beyond the significand only shift the point. -/
def Numeral.value (n : Numeral) : Written :=
  let (whole, dropped) := extendSignificand 0 n.whole
  if n.fraction.isEmpty && n.exponent.isNone && dropped.isEmpty then
    if !n.negative then .integer whole
    else if 0 < whole && whole ≤ Nat.pow 2 63 then .integer (-(whole : Int))
    else .float (Binary64.ofNat whole).neg
  else
    let (significand, unread) := extendSignificand whole n.fraction
    let place : Int := (dropped.length : Int) - (n.fraction.length - unread.length : Nat)
    let signed := fun (x : Binary64) => if n.negative then x.neg else x
    let scaled := fun (exponent : Int) =>
      match scale? significand exponent with
      | some x => .float (signed x)
      | none => .fault .numberOutOfRange
    match n.exponent with
    | none => scaled place
    | some (down, ds) =>
      let size := digitsValue ds
      if exponentLimit < size then
        if significand ≠ 0 && !down then .fault .numberOutOfRange else .float (signed .zero)
      else scaled (if down then place - size else place + size)

/-- A unit of string content: a character, or a 16-bit escape. -/
inductive Unit16 where
  | char (c : Char)
  | escape (code : Nat)

def shortEscape? (c : Char) : Option Char :=
  match c with
  | '"' => some '"'
  | '\\' => some '\\'
  | '/' => some '/'
  | 'b' => some '\x08'
  | 'f' => some '\x0c'
  | 'n' => some '\n'
  | 'r' => some '\r'
  | 't' => some '\t'
  | _ => none

/-- The units of string content; nothing if an escape is malformed or a control character stands
bare. -/
def units? : List Char → Option (List Unit16)
  | [] => some []
  | '\\' :: 'u' :: a :: b :: c :: d :: rest => do
    return .escape (← Text.number? 16 [a, b, c, d]) :: (← units? rest)
  | '\\' :: c :: rest => do return .char (← shortEscape? c) :: (← units? rest)
  | c :: rest => do
    guard (c != '\\' && 32 ≤ c.toNat)
    return .char c :: (← units? rest)

/-- Joins the halves of surrogate pairs; the first half that stands alone is a fault. -/
def joinUnits : List Unit16 → Except Fault (List Char)
  | [] => .ok []
  | .char c :: rest => do return c :: (← joinUnits rest)
  | .escape code :: rest =>
    if 0xDC00 ≤ code && code ≤ 0xDFFF then .error .loneSurrogate
    else if 0xD800 ≤ code && code ≤ 0xDBFF then
      match rest with
      | .escape low :: after =>
        if 0xDC00 ≤ low && low ≤ 0xDFFF then do
          return Char.ofNat (0x10000 + (code - 0xD800) * 1024 + (low - 0xDC00))
            :: (← joinUnits after)
        else .error .loneSurrogate
      | _ => .error .brokenSurrogatePair
    else do return Char.ofNat code :: (← joinUnits rest)

def atom? (word : List Char) : Option Written :=
  if word = "null".toList then some .null
  else if word = "true".toList then some (.bool true)
  else if word = "false".toList then some (.bool false)
  else (Numeral.ofWord? word).map Numeral.value

def isBlank (c : Char) : Bool := c == ' ' || c == '\t' || c == '\n' || c == '\r'

def mark? (c : Char) : Option Lexeme :=
  match c with
  | '[' => some .openArray
  | ']' => some .closeArray
  | '{' => some .openObject
  | '}' => some .closeObject
  | ',' => some .comma
  | ':' => some .colon
  | _ => none

/-- What the lexer is in the middle of, its characters in reverse. -/
inductive Pending where
  | nothing
  | word (reversed : List Char)
  | content (reversed : List Char) (escaped : Bool)

/-- The lexemes so far with a pending word completed. -/
def flush? (pending : List Char) (done : List Lexeme) : Option (List Lexeme) := do
  if pending.isEmpty then return done
  return .atom (← atom? pending.reverse) :: done

/-- The lexemes of a text, in reverse in `done` until the end. -/
def lex? : List Char → Pending → List Lexeme → Option (List Lexeme)
  | [], .nothing, done => some done.reverse
  | [], .word word, done => (flush? word done).map List.reverse
  | [], .content .., _ => none
  | c :: rest, .content content escaped, done =>
    if escaped then lex? rest (.content (c :: content) false) done
    else if c = '\\' then lex? rest (.content (c :: content) true) done
    else if c = '"' then do
      let units ← units? content.reverse
      lex? rest .nothing (.text ((joinUnits units).map String.ofList) :: done)
    else lex? rest (.content (c :: content) false) done
  | c :: rest, .nothing, done =>
    if isBlank c then lex? rest .nothing done
    else if c = '"' then lex? rest (.content [] false) done
    else match mark? c with
      | some mark => lex? rest .nothing (mark :: done)
      | none => lex? rest (.word [c]) done
  | c :: rest, .word word, done =>
    if isBlank c then do lex? rest .nothing (← flush? word done)
    else if c = '"' then do lex? rest (.content [] false) (← flush? word done)
    else match mark? c with
      | some mark => do lex? rest .nothing (mark :: (← flush? word done))
      | none => lex? rest (.word (c :: word)) done

/-- An open container with what it holds so far, in reverse. -/
inductive Frame where
  | array (done : List Written)
  /-- An object that waits for the value of `name`. -/
  | object (done : List (Except Fault String × Written)) (name : Except Fault String)

/-- What may come next. -/
inductive Expecting where
  | value
  /-- An item, or the end of an array just opened. -/
  | firstItem
  /-- A name in an object, with the members so far. -/
  | name (done : List (Except Fault String × Written)) (orEnd : Bool)
  /-- The colon after a name. -/
  | colon (done : List (Except Fault String × Written)) (name : Except Fault String)
  /-- What follows a complete value. -/
  | after (value : Written)

/-- Containers at this level or deeper are refused. -/
def levelLimit : Nat := 128

/-- A container that stands at `level`, counted from one. -/
def atLevel (level : Nat) (value : Written) : Written :=
  if levelLimit ≤ level then .fault .recursionLimit else value

/-- The value that the lexemes nest to, given the open containers from the inside out. -/
def build? : List Lexeme → List Frame → Expecting → Option Written
  | [], [], .after value => some value
  | [], _, _ => none
  | lexeme :: rest, frames, .value =>
    match lexeme with
    | .openArray => build? rest (.array [] :: frames) .firstItem
    | .openObject => build? rest frames (.name [] true)
    | .text (.ok s) => build? rest frames (.after (.string s))
    | .text (.error f) => build? rest frames (.after (.fault f))
    | .atom value => build? rest frames (.after value)
    | _ => none
  | lexeme :: rest, frames, .firstItem =>
    match lexeme, frames with
    | .closeArray, _ :: outer =>
      build? rest outer (.after (atLevel frames.length (.array [])))
    | .openArray, _ => build? rest (.array [] :: frames) .firstItem
    | .openObject, _ => build? rest frames (.name [] true)
    | .text (.ok s), _ => build? rest frames (.after (.string s))
    | .text (.error f), _ => build? rest frames (.after (.fault f))
    | .atom value, _ => build? rest frames (.after value)
    | _, _ => none
  | lexeme :: rest, frames, .name done orEnd =>
    match lexeme with
    | .text name => build? rest frames (.colon done name)
    | .closeObject =>
      if orEnd then build? rest frames (.after (atLevel (frames.length + 1) (.object done.reverse)))
      else none
    | _ => none
  | lexeme :: rest, frames, .colon done name =>
    match lexeme with
    | .colon => build? rest (.object done name :: frames) .value
    | _ => none
  | lexeme :: rest, frames, .after value =>
    match lexeme, frames with
    | .comma, .array done :: outer => build? rest (.array (value :: done) :: outer) .value
    | .closeArray, .array done :: outer =>
      build? rest outer (.after (atLevel frames.length (.array (value :: done).reverse)))
    | .comma, .object done name :: outer =>
      build? rest outer (.name ((name, value) :: done) false)
    | .closeObject, .object done name :: outer =>
      build? rest outer
        (.after (atLevel frames.length (.object ((name, value) :: done).reverse)))
    | _, _ => none

/-- What a text spells; nothing if it is not well-formed. -/
def Written.ofText? (text : String) : Option Written := do
  build? (← lex? text.toList .nothing []) [] .value

end Stackwright.Json

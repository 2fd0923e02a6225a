import Stackwright.Text.Escapes
import Stackwright.Toml.Table

/-!
# TOML scalars

Texts in either kind of quotes, on one line or several, and the words that spell numbers, truth
values and moments.
-/

namespace Stackwright.Toml

def isBlank (c : Char) : Bool := c == ' ' || c == '\t'

/-- The characters that texts and comments may hold as they are. -/
def isTextChar (c : Char) : Bool := c == '\t' || (0x20 ≤ c.toNat && c.toNat != 0x7F)

/-- What follows a line break. -/
def newline? : List Char → Option (List Char)
  | '\n' :: rest => some rest
  | '\r' :: '\n' :: rest => some rest
  | _ => none

/-- The character that a backslash and a letter stand for. -/
def shortEscape? : Char → Option Char
  | 'b' => some '\x08'
  | 't' => some '\t'
  | 'n' => some '\n'
  | 'f' => some '\x0c'
  | 'r' => some '\r'
  | '"' => some '"'
  | '\\' => some '\\'
  | _ => none

/-- Past blanks and line breaks. -/
def skipSpace : List Char → List Char
  | '\r' :: '\n' :: rest => skipSpace rest
  | c :: rest => if isBlank c || c == '\n' then skipSpace rest else c :: rest
  | [] => []

/-- What a backslash and the characters after it stand for. With `lines`, a line break and the
space around it stand for nothing. -/
def escape? (lines : Bool) : List Char → Option (List Char × List Char)
  | [] => none
  | 'u' :: rest => do return ([← Text.codePoint? 4 (rest.take 4)], rest.drop 4)
  | 'U' :: rest => do return ([← Text.codePoint? 8 (rest.take 8)], rest.drop 8)
  | c :: rest =>
    match shortEscape? c with
    | some char => some ([char], rest)
    | none => do
      guard lines
      return ([], skipSpace (← newline? ((c :: rest).dropWhile isBlank)))

/-- The rest of a text after its opening quotes, what was read in reverse in `done`. With `lines`
three quotes end the text, and up to two more before them belong to it. -/
def textBody? (quote : Char) (lines : Bool) :
    Nat → List Char → List Char → Option (String × List Char)
  | 0, _, _ => none
  | _, _, [] => none
  | fuel + 1, done, c :: rest =>
    if c == quote then
      if !lines then some (String.ofList done.reverse, rest)
      else
        let quotes := (c :: rest).takeWhile (· == quote)
        if quotes.length < 3 then textBody? quote lines fuel (c :: done) rest
        else if quotes.length ≤ 5 then
          some (String.ofList (done.reverse ++ quotes.drop 3), (c :: rest).drop quotes.length)
        else none
    else if c == '\\' && quote == '"' then do
      let (chars, rest) ← escape? lines rest
      textBody? quote lines fuel (chars ++ done) rest
    else if isTextChar c then textBody? quote lines fuel (c :: done) rest
    else do
      guard lines
      textBody? quote lines fuel ('\n' :: done) (← newline? (c :: rest))

/-- A text on one line, with its quotes. -/
def lineText? : List Char → Option (String × List Char)
  | [] => none
  | quote :: rest => do
    guard (quote == '"' || quote == '\'')
    textBody? quote false (rest.length + 1) [] rest

/-- A text of either form, with its quotes; a line break right after three quotes is dropped. -/
def text? (chars : List Char) : Option (String × List Char) :=
  match chars with
  | a :: b :: c :: rest =>
    if (a == '"' || a == '\'') && a == b && b == c then
      textBody? a true (rest.length + 1) [] ((newline? rest).getD rest)
    else lineText? chars
  | _ => lineText? chars

/-- The digits of a run without the underscores that stand between two of them. -/
def groupedDigits? : List Char → Option (List Char)
  | [] => none
  | [c] => if c == '_' then none else some [c]
  | c :: '_' :: rest => if c == '_' then none else (c :: ·) <$> groupedDigits? rest
  | c :: rest => if c == '_' then none else (c :: ·) <$> groupedDigits? rest

/-- The number that digits of a base spell in groups. -/
def grouped? (base : Nat) (chars : List Char) : Option Nat := do
  Text.number? base (← groupedDigits? chars)

/-- The integers are those of 64 bits. -/
def integer? (n : Int) : Option Value :=
  if -(Nat.pow 2 63 : Int) ≤ n && n < (Nat.pow 2 63 : Int) then some (.integer n) else none

/-- Whether a mark stands before the fraction or the exponent. -/
def isFloatMark (c : Char) : Bool := c == '.' || c == 'e' || c == 'E'

/-- The digits after a point, if there is one, and what follows. -/
def fraction? : List Char → Option (List Char × List Char)
  | '.' :: rest =>
    let run := rest.takeWhile fun c => !isFloatMark c
    (groupedDigits? run).map fun digits => (digits, rest.drop run.length)
  | rest => some ([], rest)

/-- The power of ten after its mark; nothing stands for none. -/
def exponent? : List Char → Option Int
  | [] => some 0
  | mark :: rest => do
    guard (mark == 'e' || mark == 'E')
    match rest with
    | '-' :: digits => (grouped? 10 digits).map fun n => -(n : Int)
    | '+' :: digits => (grouped? 10 digits).map fun n => (n : Int)
    | digits => (grouped? 10 digits).map fun n => (n : Int)

/-- A number in decimal notation without its sign. Only a number below zero may be too large for a
float. -/
def decimal? (negative : Bool) (word : List Char) : Option Value := do
  let whole := word.takeWhile fun c => !isFloatMark c
  let digits ← groupedDigits? whole
  guard (digits.length = 1 || digits.head? != some '0')
  let marks := word.drop whole.length
  if marks.isEmpty then
    let n ← Text.number? 10 digits
    integer? (if negative then -(n : Int) else n)
  else
    let (fraction, marks) ← fraction? marks
    let n ← Text.number? 10 (digits ++ fraction)
    let x := Binary64.ofDecimal negative n ((← exponent? marks) - fraction.length)
    guard (x != .infinite false)
    return .float x

/-- A number in decimal notation, or one that no digits spell. -/
def signed? (negative : Bool) (word : List Char) : Option Value :=
  if word = "inf".toList then some (.float (.infinite negative))
  else if word = "nan".toList then some (.float .nan)
  else decimal? negative word

def number? : List Char → Option Value
  | '0' :: 'x' :: digits => do integer? (← grouped? 16 digits)
  | '0' :: 'o' :: digits => do integer? (← grouped? 8 digits)
  | '0' :: 'b' :: digits => do integer? (← grouped? 2 digits)
  | '+' :: word => signed? false word
  | '-' :: word => signed? true word
  | word => signed? false word

/-- What follows a character. -/
def after? (c : Char) : List Char → Option (List Char)
  | d :: rest => if c == d then some rest else none
  | [] => none

/-- Two digits that spell a number from `low` to `high`. -/
def twoDigits? (low high : Nat) : List Char → Option (Nat × List Char)
  | a :: b :: rest => do
    let n ← Text.number? 10 [a, b]
    guard (low ≤ n && n ≤ high)
    return (n, rest)
  | _ => none

def isLeapYear (year : Nat) : Bool := year % 4 == 0 && (year % 100 != 0 || year % 400 == 0)

def daysInMonth (year month : Nat) : Nat :=
  if month = 2 then (if isLeapYear year then 29 else 28)
  else if [4, 6, 9, 11].contains month then 30
  else 31

/-- What follows a date. -/
def date? (chars : List Char) : Option (List Char) := do
  guard (4 ≤ chars.length)
  let year ← Text.number? 10 (chars.take 4)
  let (month, chars) ← twoDigits? 1 12 (← after? '-' (chars.drop 4))
  let (_, chars) ← twoDigits? 1 (daysInMonth year month) (← after? '-' chars)
  return chars

/-- What follows a time of day, the second of which may be a leap second. -/
def time? (chars : List Char) : Option (List Char) := do
  let (_, chars) ← twoDigits? 0 23 chars
  let (_, chars) ← twoDigits? 0 59 (← after? ':' chars)
  let (_, chars) ← twoDigits? 0 60 (← after? ':' chars)
  match chars with
  | '.' :: rest =>
    let digits := rest.takeWhile Char.isDigit
    guard !digits.isEmpty
    return rest.drop digits.length
  | _ => return chars

/-- What follows the distance from universal time, if one is given. -/
def zone? : List Char → Option (List Char)
  | [] => some []
  | mark :: rest =>
    if mark == 'Z' || mark == 'z' then some rest
    else do
      guard (mark == '+' || mark == '-')
      let (_, rest) ← twoDigits? 0 23 rest
      let (_, rest) ← twoDigits? 0 59 (← after? ':' rest)
      return rest

/-- Whether a word is a date, a time of day, or both with or without a zone. -/
def isMoment (word : List Char) : Bool :=
  match date? word with
  | some [] => true
  | some (mark :: rest) =>
    (mark == 'T' || mark == 't' || mark == ' ') && ((time? rest).bind zone?) == some []
  | none => time? word == some []

/-- Whether a character cannot be part of a word. -/
def endsWord (c : Char) : Bool :=
  isBlank c || c == '\n' || c == '\r' || c == '#' || c == ',' || c == ']' || c == '}'

/-- The word in front. A blank between a date and a time of day is part of it. -/
def word (chars : List Char) : List Char :=
  let first := chars.takeWhile fun c => !endsWord c
  match date? first, chars.drop first.length with
  | some [], ' ' :: rest =>
    if rest.head?.any Char.isDigit then first ++ ' ' :: rest.takeWhile fun c => !endsWord c
    else first
  | _, _ => first

/-- The value that a word spells. -/
def wordValue? (word : List Char) : Option Value :=
  if word = "true".toList then some (.bool true)
  else if word = "false".toList then some (.bool false)
  else if isMoment word then some (.moment (String.ofList word))
  else number? word

/-- A value that is neither an array nor a table. -/
def scalar? (chars : List Char) : Option (Value × List Char) :=
  if chars.head? == some '"' || chars.head? == some '\'' then
    (text? chars).map fun (text, rest) => (.string text, rest)
  else
    let spelled := word chars
    (wordValue? spelled).map fun value => (value, chars.drop spelled.length)

end Stackwright.Toml

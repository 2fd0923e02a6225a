import Stackwright.Binary64.Decimal
import Stackwright.Json
import Stackwright.Yaml.Cursor
import Stackwright.Yaml.Resolution

/-!
# YAML text of JSON values

Collections are written in block form, the items of a sequence below their key without further
indentation, and empty ones as brackets. A text is written plainly if it then reads back as that
text, and otherwise in the first style that can hold it.
-/

namespace Stackwright.Yaml

/-- Numbers that are not whole are laid out as in JSON, but a positive exponent has no sign. -/
def numberLayout : Binary64.Layout := ⟨some (-5), some 16, false, ".nan", ".inf"⟩

def spaces (n : Nat) : List Char := List.replicate n ' '

/-- Characters that stand for themselves in every style. -/
def isPrintable (c : Char) : Bool :=
  let code := c.toNat
  code == 0x0A || (0x20 ≤ code && code ≤ 0x7E) || (0xA0 ≤ code && code ≤ 0xD7FF)
    || (0xE000 ≤ code && code ≤ 0xFFFD && code != 0xFEFF) || 0x10000 ≤ code

/-- Marks that cannot start a plain scalar. -/
def leadingMarks : List Char :=
  ['#', ',', '[', ']', '{', '}', '&', '*', '!', '|', '>', '\'', '"', '%', '@', '`']

/-- Whether what follows ends a word: a blank, a line break or the end. -/
def gapNext (rest : List Char) : Bool :=
  match rest with
  | c :: _ => isBlank c || isBreak c
  | [] => true

/-- Whether a mark inside a plain scalar would end it, given whether a gap stands before. -/
def hasInnerMark (afterGap : Bool) : List Char → Bool
  | [] => false
  | c :: rest =>
    (c == ':' && gapNext rest) || (c == '#' && afterGap)
      || hasInnerMark (isBlank c || isBreak c) rest

/-- Whether a text holds marks that a plain scalar cannot. -/
def hasMarks (text : List Char) : Bool :=
  text.take 3 == ['-', '-', '-'] || text.take 3 == ['.', '.', '.']
    || match text with
      | c :: rest =>
        leadingMarks.contains c || (['?', ':', '-'].contains c && gapNext rest)
          || hasInnerMark (isBlank c || isBreak c) rest
      | [] => false

/-- Whether a character with the first property is followed by one with the second. -/
def hasPair (p q : Char → Bool) : List Char → Bool
  | a :: b :: rest => (p a && q b) || hasPair p q (b :: rest)
  | _ => false

def isSpace (c : Char) : Bool := c == ' '

def isMultiline (text : List Char) : Bool := text.any isBreak

/-- Characters or places of blanks that only the double-quoted style can hold. -/
def needsEscapes (text : List Char) : Bool :=
  text.any (fun c => !isPrintable c) || hasPair isSpace isBreak text

def plainAllowed (text : List Char) : Bool :=
  !hasMarks text && !isMultiline text && !needsEscapes text
    && !text.head?.any isSpace && !text.getLast?.any isSpace

def singleQuotedAllowed (text : List Char) : Bool :=
  !needsEscapes text && !hasPair isBreak isSpace text

def literalAllowed (text : List Char) : Bool :=
  !needsEscapes text && !text.getLast?.any isSpace

/-- Whether a text would be taken for something else without quotes. -/
def looksTyped (text : String) : Bool :=
  plainValue text != .string text || isPaddedDigits text.toList

/-- The style of a text; a text with line feeds is written in lines if it can be. -/
def textStyle (text : String) : Style :=
  let chars := text.toList
  if chars.contains '\n' then
    if literalAllowed chars then .literal else .doubleQuoted
  else if !looksTyped text && plainAllowed chars then .plain
  else if singleQuotedAllowed chars then .singleQuoted
  else .doubleQuoted

/-- The hexadecimal digits of a code, padded to a width. -/
def hexDigits (width code : Nat) : List Char :=
  (List.range width).reverse.map fun k =>
    let d := code / Nat.pow 16 k % 16
    if d < 10 then Char.ofNat (48 + d) else Char.ofNat (55 + d)

/-- A character in double quotes. -/
def doubleQuotedChar (c : Char) : List Char :=
  if c == '"' || c == '\\' then ['\\', c]
  else if isPrintable c && !isBreak c then [c]
  else match c with
    | '\x00' => ['\\', '0']
    | '\x07' => ['\\', 'a']
    | '\x08' => ['\\', 'b']
    | '\t' => ['\\', 't']
    | '\n' => ['\\', 'n']
    | '\x0b' => ['\\', 'v']
    | '\x0c' => ['\\', 'f']
    | '\r' => ['\\', 'r']
    | '\x1b' => ['\\', 'e']
    | '\x85' => ['\\', 'N']
    | '\u2028' => ['\\', 'L']
    | '\u2029' => ['\\', 'P']
    | _ =>
      let code := c.toNat
      if code ≤ 0xFF then '\\' :: 'x' :: hexDigits 2 code
      else if code ≤ 0xFFFF then '\\' :: 'u' :: hexDigits 4 code
      else '\\' :: 'U' :: hexDigits 8 code

/-- The characters with each line that is not empty moved to `indent`; `fresh` at the start of a
line. -/
def indentLines (indent : Nat) : (fresh : Bool) → List Char → List Char
  | _, [] => []
  | fresh, c :: rest =>
    if isBreak c then c :: indentLines indent true rest
    else (if fresh then List.replicate indent ' ' else []) ++ c :: indentLines indent false rest

/-- The characters in single quotes; a line break, which is none to most readers, is followed by
the indentation. -/
def singleQuotedBody (indent : Nat) (text : List Char) : List Char :=
  indentLines indent false (text.flatMap fun c => if c == '\'' then ['\'', '\''] else [c])
    ++ (if text.getLast?.any isBreak then List.replicate indent ' ' else [])

/-- What follows the mark of a literal scalar: an explicit indentation if its first line hides it,
and what becomes of the line breaks at its end. -/
def literalHints (text : List Char) : List Char :=
  (if text.head?.any fun c => isSpace c || isBreak c then ['2'] else [])
    ++ match text.reverse with
      | [] => ['-']
      | last :: before =>
        if !isBreak last then ['-']
        else if before.isEmpty || before.head?.any isBreak then ['+']
        else []

/-- A text inside a collection that stands at `indent`. -/
def textAt (indent : Nat) (text : String) : List Char :=
  let chars := text.toList
  match textStyle text with
  | .plain => chars
  | .singleQuoted => '\'' :: singleQuotedBody (indent + 2) chars ++ ['\'']
  | .literal => '|' :: literalHints chars ++ '\n' :: indentLines (indent + 2) true chars
  | _ => '"' :: chars.flatMap doubleQuotedChar ++ ['"']

/-- The longest key, in bytes, that stands on one line with its value. -/
def keyLimit : Nat := 128

def isSimpleKey (key : String) : Bool :=
  !isMultiline key.toList && key.utf8ByteSize ≤ keyLimit

/-- The text with its last line ended. -/
def endLine (text : List Char) : List Char :=
  if text.getLast?.any isBreak then text else text ++ ['\n']

/-- Two lines, the second one at `indent`. -/
def below (indent : Nat) (first second : List Char) : List Char :=
  endLine first ++ spaces indent ++ second

mutual

/-- A value after the dash, or the colon of its own line, that stands at `indent`. -/
def afterDash (indent : Nat) : Json → List Char
  | .array [] => ['[', ']']
  | .object [] => ['{', '}']
  | .array items => itemsAt (indent + 2) items
  | .object members => membersAt (indent + 2) members
  | .null => "null".toList
  | .bool true => "true".toList
  | .bool false => "false".toList
  | .integer n => (toString n).toList
  | .float x => (x.render numberLayout).toList
  | .string s => textAt indent s

/-- The items of a sequence, each after a dash at `indent`. -/
def itemsAt (indent : Nat) : List Json → List Char
  | [] => []
  | [item] => '-' :: ' ' :: afterDash indent item
  | item :: rest => below indent ('-' :: ' ' :: afterDash indent item) (itemsAt indent rest)

/-- The entries of a mapping at `indent`. A long key and one of several lines has a line of its
own; below a short one, the items of a sequence need no further indentation. -/
def membersAt (indent : Nat) : List (String × Json) → List Char
  | [] => []
  | (name, value) :: rest =>
    let entry :=
      if isSimpleKey name then
        textAt indent name ++ ':' :: match value with
          | .array (item :: more) => '\n' :: spaces indent ++ itemsAt indent (item :: more)
          | .object (member :: more) =>
            '\n' :: spaces (indent + 2) ++ membersAt (indent + 2) (member :: more)
          | other => ' ' :: afterDash indent other
      else
        below indent ('?' :: ' ' :: textAt indent name) (':' :: ' ' :: afterDash indent value)
    if rest.isEmpty then entry else below indent entry (membersAt indent rest)

end

/-- The characters of a value as a document. -/
def chars (json : Json) : List Char :=
  endLine <| match json with
    | .array (item :: rest) => itemsAt 0 (item :: rest)
    | .object (member :: rest) => membersAt 0 (member :: rest)
    | other => afterDash 0 other

/-- The text of a value as a document. -/
def render (json : Json) : String := String.ofList (chars json)

end Stackwright.Yaml

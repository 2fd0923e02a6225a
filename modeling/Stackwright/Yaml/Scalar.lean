import Stackwright.Text.Escapes
import Stackwright.Yaml.Cursor

/-!
# The text of scalars

Each of the five styles has its own rules for where a scalar ends, which line breaks it keeps, and
how characters can be escaped.
-/

namespace Stackwright.Yaml

/-- The character that a backslash and a letter stand for. -/
def shortEscape? : Char → Option Char
  | '0' => some '\x00'
  | 'a' => some '\x07'
  | 'b' => some '\x08'
  | 't' => some '\t'
  | '\t' => some '\t'
  | 'n' => some '\n'
  | 'v' => some '\x0b'
  | 'f' => some '\x0c'
  | 'r' => some '\r'
  | 'e' => some '\x1b'
  | ' ' => some ' '
  | '"' => some '"'
  | '/' => some '/'
  | '\\' => some '\\'
  | 'N' => some '\x85'
  | '_' => some '\xa0'
  | 'L' => some '\u2028'
  | 'P' => some '\u2029'
  | _ => none

/-- The number of hexadecimal digits after a backslash and a letter. -/
def escapeLength? : Char → Option Nat
  | 'x' => some 2
  | 'u' => some 4
  | 'U' => some 8
  | _ => none

/-- The character that an escape at the cursor stands for, and its length. -/
def escape? (c : Cursor) : Option (Char × Nat) := do
  let letter ← c.ahead? 1
  match escapeLength? letter with
  | some n => return (← Text.codePoint? n ((c.rest.drop 2).take n), n + 2)
  | none => return (← shortEscape? letter, 2)

/-- The rest of a quoted scalar, in reverse in `done`; the cursor ends after the closing quote. -/
def quoted? (quote : Char) : Nat → Cursor → List Char → Option (List Char × Cursor)
  | 0, _, _ => none
  | fuel + 1, c, done => do
    guard !c.atDocumentMark
    let ch ← c.head?
    if isBlank ch || isBreak ch then
      let (gap, after) := c.gap 0 c.rest.length false
      quoted? quote fuel after (gap.folded.reverse ++ done)
    else if ch == quote then
      if quote == '\'' && c.ahead? 1 == some '\'' then
        quoted? quote fuel (c.advance 2) ('\'' :: done)
      else return (done.reverse, c.advance 1)
    else if quote == '"' && ch == '\\' then
      if (c.ahead? 1).any isBreak then
        let (gap, after) := (c.advance 1).newLine.gap 0 c.rest.length true
        quoted? quote fuel after (gap.breaks.reverse ++ done)
      else
        let (plain, length) ← escape? c
        quoted? quote fuel (c.advance length) (plain :: done)
    else quoted? quote fuel (c.advance 1) (ch :: done)

/-- Whether the character at the cursor ends a plain scalar. -/
def endsPlain (inFlow : Bool) (c : Cursor) : Bool :=
  match c.head? with
  | none => true
  | some ':' => c.gapAhead 1
  | some ch => inFlow && [',', '[', ']', '{', '}'].contains ch

/-- Whether a colon at the cursor runs into a mark of a flow collection. -/
def colonBeforeMark (c : Cursor) : Bool :=
  c.head? == some ':' && (c.ahead? 1).any fun ch => [',', '?', '[', ']', '{', '}'].contains ch

/-- The rest of a plain scalar that must be indented by `indent` columns, its text in reverse in
`done` and the gap before the cursor held back. The last part tells whether a line break came
last. -/
def plain? (inFlow : Bool) (indent : Nat) :
    Nat → Cursor → Gap → List Char → Option (List Char × Cursor × Bool)
  | 0, _, _, _ => none
  | fuel + 1, c, gap, done => do
    let stop := some (done.reverse, c, !gap.breaks.isEmpty)
    let afterGap := !gap.blanks.isEmpty || !gap.breaks.isEmpty
    if c.atDocumentMark || (c.head? == some '#' && afterGap) then stop
    else match c.head? with
      | none => stop
      | some ch =>
        if isBlank ch || isBreak ch then
          let (gap, after) := c.gap indent c.rest.length false
          guard !gap.tabInIndent
          if !inFlow && after.column < indent then
            return (done.reverse, after, !gap.breaks.isEmpty)
          else plain? inFlow indent fuel after gap done
        else do
          guard !(inFlow && colonBeforeMark c)
          if endsPlain inFlow c then stop
          else plain? inFlow indent fuel (c.advance 1) {} (ch :: (gap.folded.reverse ++ done))

/-- What is done with the line breaks at the end of a block scalar. -/
inductive Chomping where
  | strip
  | clip
  | keep
deriving DecidableEq

def chomping? : Char → Option Chomping
  | '+' => some .keep
  | '-' => some .strip
  | _ => none

/-- A digit of explicit indentation, which must not be zero. -/
def indentDigit? (c : Cursor) : Option (Nat × Cursor) :=
  match c.head? with
  | some ch =>
    if '1' ≤ ch && ch ≤ '9' then some (ch.toNat - 48, c.advance 1)
    else if ch == '0' then none
    else some (0, c)
  | none => some (0, c)

/-- The two indicators after the mark of a block scalar, in either order. -/
def blockHeader? (c : Cursor) : Option (Chomping × Nat × Cursor) := do
  match c.head?.bind chomping? with
  | some chomping =>
    let (increment, c) ← indentDigit? (c.advance 1)
    return (chomping, increment, c)
  | none =>
    let (increment, c) ← indentDigit? c
    match c.head?.bind chomping? with
    | some chomping => return (chomping, increment, c.advance 1)
    | none => return (.clip, increment, c)

/-- Past the line breaks before a line of content, which are returned. Without a known indentation
all blanks count as such, and the widest line so far is returned too. -/
def leadingBreaks? (indent : Nat) : Nat → Cursor → Nat → Option (List Char × Nat × Cursor)
  | 0, _, _ => none
  | fuel + 1, c, widest =>
    let missing := c.rest.takeWhile (· == ' ')
    let width := if indent = 0 then missing.length else min missing.length (indent - c.column)
    let c := c.advance width
    let widest := max widest c.column
    match c.head? with
    | some ch =>
      if (indent = 0 || c.column < indent) && ch == '\t' then none
      else if isBreak ch then do
        let (breaks, widest, after) ← leadingBreaks? indent fuel c.newLine widest
        return (breakText ch :: breaks, widest, after)
      else some ([], widest, c)
    | none => some ([], widest, c)

/-- The lines of a block scalar that stand at `indent`, in reverse in `done`, where `pending` is the
line break after the last of them and `empty` the ones that follow it. -/
def blockLines? (literal : Bool) (indent : Nat) :
    Nat → Cursor → (done : List Char) → (pending empty : List Char) → (wasBlank : Bool) →
    Option (List Char × List Char × List Char × Cursor)
  | 0, _, _, _, _, _ => none
  | fuel + 1, c, done, pending, empty, wasBlank =>
    if c.column == indent && !c.atEnd then do
      let isBlank := c.head?.any isBlank
      let joined :=
        if !literal && pending == ['\n'] && !wasBlank && !isBlank then
          if empty.isEmpty then [' '] else empty
        else pending ++ empty
      let (line, c) := c.span fun _ => true
      let pending := (c.head?.map breakText).toList
      let next := if c.atEnd then c else c.newLine
      let (breaks, _, next) ← leadingBreaks? indent (next.rest.length + 1) next 0
      blockLines? literal indent fuel next (line.reverse ++ (joined.reverse ++ done)) pending breaks
        isBlank
    else some (done.reverse, pending, empty, c)

/-- A block scalar whose mark is just before the cursor, inside a block that is indented by
`parent` columns. -/
def block? (literal : Bool) (parent : Int) (c : Cursor) : Option (List Char × Cursor) := do
  let (chomping, increment, c) ← blockHeader? c
  let c ← c.restOfLine?
  let given := if increment = 0 then 0 else (max parent 0).toNat + increment
  let (breaks, widest, c) ← leadingBreaks? given (c.rest.length + 1) c 0
  let indent := if given = 0 then max widest (max 1 (parent + 1).toNat) else given
  let (text, pending, empty, c) ←
    blockLines? literal indent (c.rest.length + 1) c [] [] breaks false
  let tail := match chomping with
    | .strip => []
    | .clip => pending
    | .keep => pending ++ empty
  return (text ++ tail, c)

end Stackwright.Yaml

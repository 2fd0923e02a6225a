/-!
# Places in YAML text

The rest of a text with the place reached in it, and the classes of characters that the format
tells apart.
-/

namespace Stackwright.Yaml

/-- The characters that a text may hold. -/
def isAllowed (c : Char) : Bool :=
  let code := c.toNat
  code == 0x09 || code == 0x0A || code == 0x0D || (0x20 ≤ code && code ≤ 0x7E) || code == 0x85
    || (0xA0 ≤ code && code ≤ 0xD7FF) || (0xE000 ≤ code && code ≤ 0xFFFD) || 0x10000 ≤ code

def isBreak (c : Char) : Bool :=
  c == '\n' || c == '\r' || c == '\x85' || c == '\u2028' || c == '\u2029'

def isBlank (c : Char) : Bool := c == ' ' || c == '\t'

/-- Letters, digits, the hyphen and the underscore, all ASCII. -/
def isWord (c : Char) : Bool := c.isAlphanum || c == '_' || c == '-'

/-- A line break as it stands in a scalar: the separators of lines and paragraphs are kept, all
others are one. -/
def breakText (c : Char) : Char := if c == '\u2028' || c == '\u2029' then c else '\n'

/-- The rest of a text and the place of its first character, all counted from zero. -/
structure Cursor where
  rest : List Char
  index : Nat := 0
  line : Nat := 0
  column : Nat := 0

namespace Cursor

def head? (c : Cursor) : Option Char := c.rest.head?

/-- The character `n` places further. -/
def ahead? (c : Cursor) (n : Nat) : Option Char := (c.rest.drop n).head?

def atEnd (c : Cursor) : Bool := c.rest.isEmpty

/-- Whether a blank, a line break or the end stands `n` places further. -/
def gapAhead (c : Cursor) (n : Nat) : Bool :=
  match c.ahead? n with
  | some ch => isBlank ch || isBreak ch
  | none => true

/-- Past `n` characters of the line. -/
def advance (c : Cursor) (n : Nat) : Cursor :=
  { c with rest := c.rest.drop n, index := c.index + n, column := c.column + n }

/-- Past one line break, two characters of which may make one. -/
def newLine (c : Cursor) : Cursor :=
  match c.rest with
  | '\r' :: '\n' :: rest => ⟨rest, c.index + 2, c.line + 1, 0⟩
  | _ :: rest => ⟨rest, c.index + 1, c.line + 1, 0⟩
  | [] => c

/-- The longest run of characters with a property, none of which is a line break. -/
def span (c : Cursor) (p : Char → Bool) : List Char × Cursor :=
  let run := c.rest.takeWhile fun ch => p ch && !isBreak ch
  (run, c.advance run.length)

/-- Past the longest run of characters with a property. -/
def skip (c : Cursor) (p : Char → Bool) : Cursor := (c.span p).2

/-- Past a comment, up to the end of the line. -/
def skipComment (c : Cursor) : Cursor :=
  if c.head? == some '#' then c.skip fun _ => true else c

/-- Past blanks and a comment to the next line; nothing if something else stands on the line. -/
def restOfLine? (c : Cursor) : Option Cursor :=
  let c := (c.skip isBlank).skipComment
  match c.head? with
  | none => some c
  | some ch => if isBreak ch then some c.newLine else none

/-- Whether the mark of a document's start or end stands here, at the start of a line. -/
def atDocumentMark (c : Cursor) : Bool :=
  c.column == 0 && (c.rest.take 3 == ['-', '-', '-'] || c.rest.take 3 == ['.', '.', '.'])
    && c.gapAhead 3

end Cursor

/-- Blanks and line breaks between two parts of a scalar. -/
structure Gap where
  /-- The blanks before the first line break. -/
  blanks : List Char := []
  breaks : List Char := []
  /-- Whether a tab stands where `limit` columns of indentation are asked for. -/
  tabInIndent : Bool := false

/-- The gap at a cursor; `broken` if a line break came just before. -/
def Cursor.gap (limit : Nat) : Nat → Bool → Cursor → Gap × Cursor
  | 0, _, c => ({}, c)
  | fuel + 1, broken, c =>
    match c.head? with
    | none => ({}, c)
    | some ch =>
      if isBlank ch then
        let (gap, after) := gap limit fuel broken (c.advance 1)
        if broken then
          ({ gap with tabInIndent := gap.tabInIndent || (c.column < limit && ch == '\t') }, after)
        else ({ gap with blanks := ch :: gap.blanks }, after)
      else if isBreak ch then
        let (gap, after) := gap limit fuel true c.newLine
        ({ gap with breaks := breakText ch :: gap.breaks }, after)
      else ({}, c)

/-- What a gap stands for in a scalar: a single line break is a blank, of several the first is
dropped, and blanks beside line breaks do not count. -/
def Gap.folded (gap : Gap) : List Char :=
  match gap.breaks with
  | [] => gap.blanks
  | '\n' :: [] => [' ']
  | '\n' :: more => more
  | breaks => breaks

end Stackwright.Yaml

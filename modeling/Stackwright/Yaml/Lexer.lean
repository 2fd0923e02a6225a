import Stackwright.Yaml.Scalar
import Stackwright.Yaml.Node

/-!
# From text to tokens

Indentation opens and closes blocks, and what stands before a colon turns out to be a key only when
the colon is reached: the lexer remembers, for each open collection, where a key might have
started, and inserts the mark of the key there.
-/

namespace Stackwright.Yaml

/-- A place where a key may have started. -/
structure KeyStart where
  /-- Whether nothing but a key may stand there. -/
  required : Bool
  /-- The number of tokens before it. -/
  count : Nat
  index : Nat
  line : Nat
  column : Nat

/-- The state of the lexer. -/
structure Lexer where
  cursor : Cursor
  /-- The tokens so far, in reverse, and their number. -/
  done : List Token := []
  count : Nat := 0
  /-- The column of the open block, and those of the blocks around it. -/
  indent : Int := -1
  indents : List Int := []
  /-- Whether a key may start here. -/
  keyAllowed : Bool := true
  /-- The possible key of the open collection, and of the flow collections around it. -/
  keyStart : Option KeyStart := none
  outerKeys : List (Option KeyStart) := []

namespace Lexer

def inFlow (l : Lexer) : Bool := !l.outerKeys.isEmpty

def column (l : Lexer) : Int := l.cursor.column

def emit (l : Lexer) (t : Token) : Lexer := { l with done := t :: l.done, count := l.count + 1 }

/-- Inserts a token after the first `count` ones. -/
def insertAt (l : Lexer) (count : Nat) (t : Token) : Lexer :=
  let later := l.count - count
  { l with done := l.done.take later ++ t :: l.done.drop later, count := l.count + 1 }

def advance (l : Lexer) (n : Nat) : Lexer := { l with cursor := l.cursor.advance n }

/-- Opens a block at `column` if it is deeper than the open one; its start goes after the first
`count` tokens. -/
def roll (l : Lexer) (column : Int) (count : Nat) (start : Token) : Lexer :=
  if !l.inFlow && l.indent < column then
    { l.insertAt count start with indent := column, indents := l.indent :: l.indents }
  else l

/-- Closes the blocks that are deeper than `column`, given those around the open one. -/
def unrollFrom (column : Int) : List Int → Lexer → Lexer
  | [], l => l
  | outer :: more, l =>
    if column < l.indent then
      unrollFrom column more { l.emit .blockEnd with indent := outer, indents := more }
    else l

def unroll (l : Lexer) (column : Int) : Lexer :=
  if l.inFlow then l else unrollFrom column l.indents l

/-- Gives up the possible key of the open collection. -/
def dropKey? (l : Lexer) : Option Lexer :=
  match l.keyStart with
  | some key => if key.required then none else some { l with keyStart := none }
  | none => some l

/-- Notes that a key may start here. -/
def saveKey? (l : Lexer) : Option Lexer :=
  if l.keyAllowed then do
    let l ← l.dropKey?
    return { l with
      keyStart := some ⟨!l.inFlow && l.indent == l.column, l.count, l.cursor.index, l.cursor.line,
        l.cursor.column⟩ }
  else some l

/-- The longest distance from the start of a key to its colon. -/
def keyLength : Nat := 1024

/-- A possible key that is still one at the cursor: keys stay on one line and are short. -/
def freshKey? (c : Cursor) : Option KeyStart → Option (Option KeyStart)
  | some key =>
    if key.line < c.line || key.index + keyLength < c.index then
      if key.required then none else some none
    else some (some key)
  | none => some none

/-- Gives up the possible keys that the cursor has left behind. -/
def dropStale? (l : Lexer) : Option Lexer := do
  return { l with
    keyStart := ← freshKey? l.cursor l.keyStart
    outerKeys := ← l.outerKeys.mapM (freshKey? l.cursor) }

/-- Past blanks, comments and line breaks; in a block, a new line allows a key. -/
def toNextToken (inFlow : Bool) : Nat → Cursor → Bool → Cursor × Bool
  | 0, c, keyAllowed => (c, keyAllowed)
  | fuel + 1, c, keyAllowed =>
    let c := if c.index == 0 && c.head? == some '\uFEFF' then c.advance 1 else c
    let c := c.skip fun ch => ch == ' ' || ((inFlow || !keyAllowed) && ch == '\t')
    let c := c.skipComment
    if c.head?.any isBreak then toNextToken inFlow fuel c.newLine (!inFlow || keyAllowed)
    else (c, keyAllowed)

def skipGap (l : Lexer) : Lexer :=
  let (c, keyAllowed) := toNextToken l.inFlow (l.cursor.rest.length + 1) l.cursor l.keyAllowed
  { l with cursor := c, keyAllowed := keyAllowed }

/-- A number of at most nine digits. -/
def versionNumber? (c : Cursor) : Option (Nat × Cursor) := do
  let (ds, c) := c.span Char.isDigit
  guard (ds.length ≤ 9)
  return (← Text.number? 10 ds, c)

/-- The characters of a tag, apart from escapes. -/
def isTagChar (verbatim : Bool) (c : Char) : Bool :=
  isWord c
    || [';', '/', '?', ':', '@', '&', '=', '+', '$', '.', '!', '~', '*', '\'', '(', ')'].contains c
    || (verbatim && [',', '[', ']'].contains c)

/-- The byte that an escape of a tag stands for. -/
def tagByte? (c : Cursor) : Option Nat := do
  guard (c.head? == some '%')
  Text.hexNumber? 2 ((c.rest.drop 1).take 2)

/-- The character that the escapes at the cursor spell in UTF-8, and the number of its bytes. -/
def tagEscape? (c : Cursor) : Option (Char × Nat) := do
  let first ← tagByte? c
  let (width, high) ←
    if first < 0x80 then some (1, first)
    else if 0xC0 ≤ first && first < 0xE0 then some (2, first - 0xC0)
    else if 0xE0 ≤ first && first < 0xF0 then some (3, first - 0xE0)
    else if 0xF0 ≤ first && first < 0xF8 then some (4, first - 0xF0)
    else none
  let others ← (List.range (width - 1)).mapM fun i => do
    let byte ← tagByte? (c.advance (3 * (i + 1)))
    guard (0x80 ≤ byte && byte < 0xC0)
    return byte - 0x80
  return (Char.ofNat (others.foldl (fun n b => 64 * n + b) high), width)

/-- The text of a tag from the cursor on, with the number of characters and escapes read. -/
def tagText? (verbatim : Bool) : Nat → Cursor → Option (List Char × Nat × Cursor)
  | 0, c => some ([], 0, c)
  | fuel + 1, c =>
    match c.head? with
    | some '%' => do
      let (ch, width) ← tagEscape? c
      let (text, n, c) ← tagText? verbatim fuel (c.advance (3 * width))
      return (ch :: text, n + 1, c)
    | some ch =>
      if isTagChar verbatim ch then do
        let (text, n, c) ← tagText? verbatim fuel (c.advance 1)
        return (ch :: text, n + 1, c)
      else some ([], 0, c)
    | none => some ([], 0, c)

/-- A handle: an exclamation mark, a word, and perhaps a second exclamation mark. -/
def tagHandle? (c : Cursor) : Option (List Char × Cursor) := do
  guard (c.head? == some '!')
  let (word, c) := (c.advance 1).span isWord
  if c.head? == some '!' then return ('!' :: word ++ ['!'], c.advance 1)
  else return ('!' :: word, c)

/-- Whether a handle has its second exclamation mark. -/
def isFullHandle (handle : List Char) : Bool :=
  2 ≤ handle.length && handle.getLast? == some '!'

def directive? (c : Cursor) : Option (Token × Cursor) := do
  let (name, c) := (c.advance 1).span isWord
  guard (!name.isEmpty && c.gapAhead 0)
  let (token, c) ←
    if name == "YAML".toList then do
      let (major, c) ← versionNumber? (c.skip isBlank)
      guard (c.head? == some '.')
      let (minor, c) ← versionNumber? (c.advance 1)
      pure (Token.version major minor, c)
    else if name == "TAG".toList then do
      let (handle, c) ← tagHandle? (c.skip isBlank)
      guard (isFullHandle handle || handle == ['!'])
      guard (c.head?.any isBlank)
      let (text, n, c) ← tagText? true c.rest.length (c.skip isBlank)
      guard (n != 0 && c.gapAhead 0)
      pure (Token.tagHandle (String.ofList handle) (String.ofList text), c)
    else none
  return (token, ← c.restOfLine?)

/-- The name of an anchor or alias. -/
def anchorName? (c : Cursor) : Option (String × Cursor) := do
  let (name, c) := (c.advance 1).span isWord
  guard (!name.isEmpty)
  guard (c.gapAhead 0 || c.head?.any ['?', ':', ',', ']', '}', '%', '@', '`'].contains)
  return (String.ofList name, c)

def tag? (inFlow : Bool) (c : Cursor) : Option (Token × Cursor) := do
  let (handle, suffix, c) ←
    if c.ahead? 1 == some '<' then do
      let (text, n, c) ← tagText? true c.rest.length (c.advance 2)
      guard (n != 0 && c.head? == some '>')
      pure ([], text, c.advance 1)
    else do
      let (handle, c) ← tagHandle? c
      let (text, n, c) ← tagText? false c.rest.length c
      if isFullHandle handle then
        guard (n != 0)
        pure (handle, text, c)
      else
        let suffix := handle.drop 1 ++ text
        if suffix.isEmpty then pure ([], ['!'], c) else pure (['!'], suffix, c)
  guard ((inFlow && c.head? == some ',') || c.gapAhead 0)
  return (.tag (String.ofList handle) (String.ofList suffix), c)

/-- A mark of a document's start or end, or a directive: closes all blocks. -/
def atTopLevel? (l : Lexer) : Option Lexer := do
  let l ← (l.unroll (-1)).dropKey?
  return { l with keyAllowed := false }

def openFlow? (l : Lexer) (t : Token) : Option Lexer := do
  let l ← l.saveKey?
  return { (l.advance 1).emit t with
    keyAllowed := true, keyStart := none, outerKeys := l.keyStart :: l.outerKeys }

def closeFlow? (l : Lexer) (t : Token) : Option Lexer := do
  let l ← l.dropKey?
  let l := { (l.advance 1).emit t with keyAllowed := false }
  match l.outerKeys with
  | key :: outer => return { l with keyStart := key, outerKeys := outer }
  | [] => return l

/-- A mark that needs a place where a key may start, and opens a block there. -/
def startBlock? (l : Lexer) (start : Token) : Option Lexer := do
  guard (l.inFlow || l.keyAllowed)
  return l.roll l.column l.count start

def blockEntry? (l : Lexer) : Option Lexer := do
  let l ← (← l.startBlock? .blockSequenceStart).dropKey?
  return { (l.advance 1).emit .blockEntry with keyAllowed := true }

def key? (l : Lexer) : Option Lexer := do
  let l ← (← l.startBlock? .blockMappingStart).dropKey?
  return { (l.advance 1).emit .key with keyAllowed := !l.inFlow }

def value? (l : Lexer) : Option Lexer := do
  match l.keyStart with
  | some key =>
    let l := (l.insertAt key.count .key).roll key.column key.count .blockMappingStart
    return { (l.advance 1).emit .value with keyStart := none, keyAllowed := false }
  | none =>
    let l ← l.startBlock? .blockMappingStart
    return { (l.advance 1).emit .value with keyAllowed := !l.inFlow }

/-- A token that may be or start a key, read by `read`. -/
def content? (l : Lexer) (read : Cursor → Option (Token × Cursor)) : Option Lexer := do
  let l ← l.saveKey?
  let (t, c) ← read l.cursor
  return { l.emit t with cursor := c, keyAllowed := false }

def quotedToken? (quote : Char) (style : Style) (c : Cursor) : Option (Token × Cursor) := do
  let (text, c) ← quoted? quote (c.rest.length + 1) (c.advance 1) []
  return (.scalar (String.ofList text) style, c)

def plainToken? (l : Lexer) : Option Lexer := do
  let l ← l.saveKey?
  let (text, c, broken) ←
    plain? l.inFlow (l.indent + 1).toNat (l.cursor.rest.length + 1) l.cursor {} []
  return { l.emit (.scalar (String.ofList text) .plain) with cursor := c, keyAllowed := broken }

def blockToken? (l : Lexer) (literal : Bool) : Option Lexer := do
  let l ← l.dropKey?
  let (text, c) ← block? literal l.indent (l.cursor.advance 1)
  let style := if literal then Style.literal else .folded
  return { l.emit (.scalar (String.ofList text) style) with cursor := c, keyAllowed := true }

/-- Whether a plain scalar can start with the character at the cursor. -/
def startsPlain (inFlow : Bool) (c : Cursor) : Bool :=
  match c.head? with
  | none => false
  | some '-' => !(c.ahead? 1).any isBlank
  | some ch =>
    if ch == '?' || ch == ':' then !inFlow && !c.gapAhead 1
    else !(isBlank ch || isBreak ch || [',', '[', ']', '{', '}', '#', '&', '*', '!', '|', '>', '\'',
      '"', '%', '@', '`'].contains ch)

/-- Reads the token that starts with the character at the cursor. -/
def token? (l : Lexer) (ch : Char) : Option Lexer := do
  let c := l.cursor
  let afterMark := c.gapAhead 1
  if c.column == 0 && ch == '%' then
    let l ← l.atTopLevel?
    let (t, c) ← directive? c
    return { l.emit t with cursor := c }
  else if c.atDocumentMark then
    return ((← l.atTopLevel?).advance 3).emit (if ch == '-' then .documentStart else .documentEnd)
  else match ch with
    | '[' => l.openFlow? .flowSequenceStart
    | '{' => l.openFlow? .flowMappingStart
    | ']' => l.closeFlow? .flowSequenceEnd
    | '}' => l.closeFlow? .flowMappingEnd
    | ',' => do return { ((← l.dropKey?).advance 1).emit .flowEntry with keyAllowed := true }
    | '*' => l.content? fun c => (anchorName? c).map fun (n, c) => (.aliasOf n, c)
    | '&' => l.content? fun c => (anchorName? c).map fun (n, c) => (.anchor n, c)
    | '!' => l.content? (tag? l.inFlow)
    | '\'' => l.content? (quotedToken? '\'' .singleQuoted)
    | '"' => l.content? (quotedToken? '"' .doubleQuoted)
    | _ =>
      if ch == '-' && afterMark then l.blockEntry?
      else if ch == '?' && (l.inFlow || afterMark) then l.key?
      else if ch == ':' && (l.inFlow || afterMark) then l.value?
      else if ch == '|' && !l.inFlow then l.blockToken? true
      else if ch == '>' && !l.inFlow then l.blockToken? false
      else if startsPlain l.inFlow c then l.plainToken?
      else none

/-- All tokens from the current state on. -/
def run? : Nat → Lexer → Option (List Token)
  | 0, _ => none
  | fuel + 1, l => do
    let l ← l.skipGap.dropStale?
    let l := l.unroll l.column
    match l.cursor.head? with
    | some ch => run? fuel (← l.token? ch)
    | none => return (← (l.unroll (-1)).dropKey?).done.reverse

end Lexer

/-- The tokens of a text; nothing if it is malformed. A byte order mark may stand before it. -/
def Token.ofChars? (text : List Char) : Option (List Token) :=
  let chars := match text with
    | '\uFEFF' :: rest => rest
    | chars => chars
  if chars.all isAllowed then Lexer.run? (chars.length + 1) { cursor := ⟨chars, 0, 0, 0⟩ } else none

end Stackwright.Yaml

import Stackwright.Datum.Source
import Stackwright.Toml.Scalar
import Stackwright.Toml.Table

/-!
# TOML documents

Reading the statements of a document, bindings of keys and the headers of tables, and the values of
a document as a source of data: nothing in it is null, and elements that follow the last field of a
record are ignored.
-/

namespace Stackwright.Toml

/-- The deepest nesting of arrays and tables in braces, and the longest key. -/
def depthLimit : Nat := 79

def skipBlanks (chars : List Char) : List Char := chars.dropWhile isBlank

/-- A key with the keys that lead to its table. -/
structure Key where
  path : List String
  last : String

def isKeyChar (c : Char) : Bool := c.isAlphanum || c == '-' || c == '_'

def keyPart? (chars : List Char) : Option (String × List Char) :=
  match lineText? chars with
  | some part => some part
  | none => do
    let run := chars.takeWhile isKeyChar
    guard !run.isEmpty
    return (String.ofList run, chars.drop run.length)

/-- A key of at most `limit` parts, with the blanks around it. -/
def key? : (limit : Nat) → List Char → Option (Key × List Char)
  | 0, _ => none
  | limit + 1, chars => do
    let (part, chars) ← keyPart? (skipBlanks chars)
    match skipBlanks chars with
    | '.' :: rest =>
      let (key, rest) ← key? limit rest
      return (⟨part :: key.path, key.last⟩, rest)
    | rest => return (⟨[], part⟩, rest)

/-- A reader of one value, which returns what follows. -/
abbrev ValueReader := List Char → Option (Value × List Char)

/-- Past blanks, line breaks and comments. -/
def skipGap : (inComment : Bool) → List Char → List Char
  | _, '\n' :: rest => skipGap false rest
  | _, '\r' :: '\n' :: rest => skipGap false rest
  | true, c :: rest => if isTextChar c then skipGap true rest else c :: rest
  | false, c :: rest =>
    if isBlank c then skipGap false rest
    else if c == '#' then skipGap true rest
    else c :: rest
  | _, [] => []

/-- The items of an array after its bracket, those read so far in reverse in `done`. -/
def items? (value : ValueReader) :
    Nat → List Value → List Char → Option (List Value × List Char)
  | 0, _, _ => none
  | fuel + 1, done, chars =>
    match skipGap false chars with
    | ']' :: rest => some (done.reverse, rest)
    | chars => do
      let (item, chars) ← value chars
      match skipGap false chars with
      | ',' :: rest => items? value fuel (item :: done) rest
      | ']' :: rest => some ((item :: done).reverse, rest)
      | _ => none

/-- A key, the equals sign and a value. -/
def binding? (value : ValueReader) (chars : List Char) : Option ((Key × Value) × List Char) := do
  let (key, chars) ← key? depthLimit chars
  let (value, chars) ← value (skipBlanks (← after? '=' chars))
  return ((key, value), chars)

/-- The bindings of a table in braces, of which there has to be one more. -/
def members? (value : ValueReader) : Nat → Entries → List Char → Option (Entries × List Char)
  | 0, _, _ => none
  | fuel + 1, done, chars => do
    let ((key, bound), chars) ← binding? value chars
    let done ← assign key.path key.last bound .braces done
    match skipBlanks chars with
    | ',' :: rest => members? value fuel done rest
    | '}' :: rest => some (done, rest)
    | _ => none

/-- A table in braces after the opening one. -/
def braced? (value : ValueReader) (chars : List Char) : Option (Entries × List Char) :=
  match skipBlanks chars with
  | '}' :: rest => some ([], rest)
  | _ => members? value (chars.length + 1) [] chars

/-- A value that nests at most `depth` levels. -/
def value? : (depth : Nat) → ValueReader
  | 0, chars => scalar? chars
  | depth + 1, chars =>
    match chars with
    | '[' :: rest => do
      let (items, rest) ← items? (value? depth) (rest.length + 1) [] rest
      return (.array items, rest)
    | '{' :: rest => do
      let (entries, rest) ← braced? (value? depth) rest
      return (.table .braces entries, rest)
    | _ => scalar? chars

/-- Past the rest of a line on which nothing but a comment stands. -/
def lineEnd? (chars : List Char) : Option (List Char) :=
  let rest := match skipBlanks chars with
    | '#' :: comment => comment.dropWhile isTextChar
    | other => other
  if rest.isEmpty then some [] else newline? rest

/-- One statement; the draft with it, and what follows. -/
def statement? (draft : Draft) : List Char → Option (Draft × List Char)
  | '[' :: '[' :: chars => do
    let (key, chars) ← key? depthLimit chars
    let chars ← after? ']' (← after? ']' chars)
    return (← draft.addTable? key.path key.last, chars)
  | '[' :: chars => do
    let (key, chars) ← key? depthLimit chars
    let chars ← after? ']' chars
    return (← draft.openTable? key.path key.last, chars)
  | chars => do
    let ((key, value), chars) ← binding? (value? depthLimit) chars
    return (← draft.assign? key.path key.last value, chars)

/-- The document that the lines complete. -/
def lines? : Nat → Draft → List Char → Option Entries
  | 0, _, _ => none
  | fuel + 1, draft, chars =>
    if chars.isEmpty then some draft.root
    else match lineEnd? chars with
      | some rest => lines? fuel draft rest
      | none => do
        let (draft, chars) ← statement? draft (skipBlanks chars)
        lines? fuel draft (← lineEnd? chars)

/-- The table that a text spells; nothing if it is not well-formed. A mark of the byte order in
front does not count. -/
def Value.ofText? (text : String) : Option Value := do
  let chars := match text.toList with
    | '\ufeff' :: rest => rest
    | chars => chars
  return .table .header (← lines? (chars.length + 1) {} chars)

end Stackwright.Toml

namespace Stackwright.Toml.Value

open Datum

/-- A moment looks like a record with this single field. -/
def momentField : String := "$__toml_private_datetime"

mutual

/-- The value as data; its numbers never serve as positions. -/
def toDatum : Value → Datum
  | .bool b => .bool b
  | .integer n => .integer n
  | .float x => .float x
  | .string s => .string s
  | .moment text => .mapping [(.string momentField, .string text)]
  | .array items => .sequence (itemsToDatum items)
  | .table _ entries => .mapping (entriesToDatum entries)
  | .tables items => .sequence (tablesToDatum items)

def itemsToDatum : List Value → List Datum
  | [] => []
  | item :: rest => toDatum item :: itemsToDatum rest

def entriesToDatum : List (String × Value) → List (Datum × Datum)
  | [] => []
  | (name, value) :: rest => (.string name, toDatum value) :: entriesToDatum rest

def tablesToDatum : List (List (String × Value)) → List Datum
  | [] => []
  | entries :: rest => .mapping (entriesToDatum entries) :: tablesToDatum rest

end

def view : Value → View Value
  | .bool b => .bool b
  | .integer n => .integer n
  | .float x => .float x
  | .string s => .string s
  | .moment text => .mapping [(.ok (.name momentField), .string text)]
  | .array items => .sequence items
  | .table _ entries => .mapping (entries.map fun entry => (.ok (.name entry.1), entry.2))
  | .tables items => .sequence (items.map fun entries => .table .header entries)

instance : Source Value where
  view v := .ok v.view
  buffer v := .ok v.toDatum
  surplus _ _ := none

end Stackwright.Toml.Value

import Stackwright.Yaml.Lexer
import Stackwright.Yaml.Node

/-!
# From tokens to documents

A recursive descent along the tokens. Anchors are numbered on the way: a new name takes the number
of names before it, also when an old name is given away again, and a number stands for the node
that took it last.
-/

namespace Stackwright.Yaml

/-- What is left to read, and what is known of tags and anchors. -/
structure Feed where
  tokens : List Token
  /-- The texts that tag handles stand for. -/
  handles : List (String × String) := []
  /-- The number of each anchor name. -/
  numbers : List (String × Nat) := []
  /-- The serial number of the node that took an anchor number last. -/
  latest : List (Nat × Nat) := []
  /-- The anchored nodes by serial number. -/
  nodes : List (Nat × Node) := []
  serial : Nat := 0
  events : Nat := 0

abbrev Parse := StateT Feed Option

namespace Parse

/-- The next token; none at the end of the stream. -/
def peek : Parse (Option Token) := do return (← get).tokens.head?

def skip : Parse Unit := modify fun f => { f with tokens := f.tokens.tail }

def count (n : Nat) : Parse Unit := modify fun f => { f with events := f.events + n }

/-- Skips a token that must come next. -/
def expect (t : Token) : Parse Unit := do
  guard ((← peek) == some t)
  skip

/-- Whether one of the tokens comes next. -/
def before (ts : List Token) : Parse Bool := do return (← peek).any ts.contains

def emptyScalar : Parse Node := do
  count 1
  return .scalar { text := "" }

/-- An entry of an association list, replaced or added. -/
def assign {α β : Type} [BEq α] (key : α) (value : β) (entries : List (α × β)) : List (α × β) :=
  (key, value) :: entries.filter fun entry => !(entry.1 == key)

/-- Reserves the number of an anchor whose node begins here; returns the serial number. -/
def openAnchor (name : Option String) : Parse (Option Nat) := do
  match name with
  | none => return none
  | some name =>
    let f ← get
    let number := f.numbers.length
    set { f with
      numbers := assign name number f.numbers
      latest := assign number f.serial f.latest
      serial := f.serial + 1 }
    return some f.serial

/-- Completes an anchored node. -/
def closeAnchor (serial : Option Nat) (node : Node) : Parse Node := do
  if let some n := serial then modify fun f => { f with nodes := (n, node) :: f.nodes }
  return node

/-- The node that an alias repeats must have an anchor before it. -/
def aliasNode (name : String) : Parse Node := do
  match (← get).numbers.lookup name with
  | some number => count 1; return .aliasOf number
  | none => failure

/-- The full text of a tag. -/
def resolveTag (handle suffix : String) : Parse String := do
  if handle.isEmpty then return suffix
  match (← get).handles.lookup handle with
  | some expansion => return expansion ++ suffix
  | none => failure

def anchor? : Parse (Option String) := do
  match ← peek with
  | some (.anchor name) => skip; return some name
  | _ => return none

def tag? : Parse (Option (String × String)) := do
  match ← peek with
  | some (.tag handle suffix) => skip; return some (handle, suffix)
  | _ => return none

/-- The anchor and the tag before a node, in either order. -/
def properties : Parse (Option String × Option String) := do
  let first ← anchor?
  let tag ← tag?
  let anchor ← match first with
    | some name => pure (some name)
    | none => if tag.isSome then anchor? else pure none
  match tag with
  | some (handle, suffix) => return (anchor, some (← resolveTag handle suffix))
  | none => return (anchor, none)

/-- The tag of a scalar; a bare exclamation mark is none. -/
def scalarTag (tag : Option String) : Option String := if tag == some "!" then none else tag

mutual

/-- A node; in a block if `block`, and perhaps a sequence that is not indented. -/
def node (block unindented : Bool) : Nat → Parse Node
  | 0 => failure
  | fuel + 1 => do
    match ← peek with
    | some (.aliasOf name) => skip; aliasNode name
    | _ =>
      let (anchor, tag) ← properties
      match ← peek, unindented, block with
      | some (.scalar text style), _, _ => do
        skip
        count 1
        closeAnchor (← openAnchor anchor) (.scalar ⟨text, style, scalarTag tag⟩)
      | some .flowSequenceStart, _, _ => do
        skip
        let serial ← begin anchor
        closeAnchor serial (.sequence tag (← flowItems true fuel))
      | some .flowMappingStart, _, _ => do
        skip
        let serial ← begin anchor
        closeAnchor serial (.mapping tag (← flowEntries true fuel))
      | some .blockEntry, true, _ => do
        let serial ← begin anchor
        closeAnchor serial (.sequence tag (← unindentedItems fuel))
      | some .blockSequenceStart, _, true => do
        skip
        let serial ← begin anchor
        closeAnchor serial (.sequence tag (← blockItems fuel))
      | some .blockMappingStart, _, true => do
        skip
        let serial ← begin anchor
        closeAnchor serial (.mapping tag (← blockEntries fuel))
      | _, _, _ => do
        guard (anchor.isSome || tag.isSome)
        count 1
        closeAnchor (← openAnchor anchor) (.scalar ⟨"", .plain, scalarTag tag⟩)
where
  begin (anchor : Option String) : Parse (Option Nat) := do
    count 2
    openAnchor anchor

def blockItems : Nat → Parse (List Node)
  | 0 => failure
  | fuel + 1 => do
    match ← peek with
    | some .blockEntry => do
      skip
      let first ←
        if ← before [.blockEntry, .blockEnd] then emptyScalar else node true false fuel
      return first :: (← blockItems fuel)
    | some .blockEnd => skip; return []
    | _ => failure

def unindentedItems : Nat → Parse (List Node)
  | 0 => failure
  | fuel + 1 => do
    match ← peek with
    | some .blockEntry => do
      skip
      let first ←
        if ← before [.blockEntry, .key, .value, .blockEnd] then emptyScalar
        else node true false fuel
      return first :: (← unindentedItems fuel)
    | _ => return []

/-- A key or value of a block mapping, which may be left out. -/
def blockPart : Nat → Parse Node
  | 0 => failure
  | fuel + 1 => do
    if ← before [.key, .value, .blockEnd] then emptyScalar else node true true fuel

def blockEntries : Nat → Parse (List (Node × Node))
  | 0 => failure
  | fuel + 1 => do
    match ← peek with
    | some .key => do
      skip
      let key ← blockPart fuel
      let value ←
        if (← peek) == some .value then do
          skip
          blockPart fuel
        else emptyScalar
      return (key, value) :: (← blockEntries fuel)
    | some .blockEnd => skip; return []
    | _ => failure

/-- The items of a flow sequence; a key mark makes a mapping of one entry. -/
def flowItems (first : Bool) : Nat → Parse (List Node)
  | 0 => failure
  | fuel + 1 => do
    if (← peek) == some .flowSequenceEnd then
      skip
      return []
    unless first do expect .flowEntry
    match ← peek with
    | some .flowSequenceEnd => skip; return []
    | some .key => do
      skip
      count 2
      let key ←
        if ← before [.value, .flowEntry, .flowSequenceEnd] then do
          skip
          emptyScalar
        else node false false fuel
      let value ← flowValue .flowSequenceEnd fuel
      return .mapping none [(key, value)] :: (← flowItems false fuel)
    | _ => do
      let item ← node false false fuel
      return item :: (← flowItems false fuel)

/-- The value after a key in a flow collection, which may be left out. -/
def flowValue (close : Token) : Nat → Parse Node
  | 0 => failure
  | fuel + 1 => do
    if (← peek) == some .value then
      skip
      if ← before [.flowEntry, close] then emptyScalar else node false false fuel
    else emptyScalar

def flowEntries (first : Bool) : Nat → Parse (List (Node × Node))
  | 0 => failure
  | fuel + 1 => do
    if (← peek) == some .flowMappingEnd then
      skip
      return []
    unless first do expect .flowEntry
    match ← peek with
    | some .flowMappingEnd => skip; return []
    | some .key => do
      skip
      let key ←
        if ← before [.value, .flowEntry, .flowMappingEnd] then emptyScalar
        else node false false fuel
      let value ← flowValue .flowMappingEnd fuel
      return (key, value) :: (← flowEntries false fuel)
    | _ => do
      let key ← node false false fuel
      let value ← emptyScalar
      return (key, value) :: (← flowEntries false fuel)

end

/-- The directives before a document; `versioned` once a version has been given. -/
def directives (versioned : Bool) : Nat → Parse Unit
  | 0 => failure
  | fuel + 1 => do
    match ← peek with
    | some (.version major minor) => do
      guard (!versioned && major == 1 && (minor == 1 || minor == 2))
      skip
      directives true fuel
    | some (.tagHandle handle expansion) => do
      guard ((← get).handles.lookup handle).isNone
      skip
      modify fun f => { f with handles := f.handles ++ [(handle, expansion)] }
      directives versioned fuel
    | _ => return ()

/-- The handles that need no directive, behind those declared. -/
def standardHandles : Parse Unit :=
  modify fun f => { f with handles := f.handles ++ [("!", "!"), ("!!", "tag:yaml.org,2002:")] }

/-- The root of the only document. -/
def root (fuel : Nat) : Parse (Option Node) := do
  match ← peek with
  | none => return none
  | some (.version ..) | some (.tagHandle ..) | some .documentStart => do
    directives false fuel
    standardHandles
    expect .documentStart
    match ← peek with
    | none | some (.version ..) | some (.tagHandle ..) | some .documentStart
    | some .documentEnd => return some (← emptyScalar)
    | _ => return some (← node true false fuel)
  | _ => do
    standardHandles
    return some (← node true false fuel)

/-- The document, after which nothing but end marks may come. -/
def document (fuel : Nat) : Parse Document := do
  let root ← root fuel
  let f ← get
  guard (f.tokens.all (· == .documentEnd))
  return {
    root := root
    anchors := f.latest.filterMap fun (number, serial) =>
      (f.nodes.lookup serial).map fun node => (number, node)
    events := f.events }

end Parse

namespace Document

/-- The only document of a text; nothing if the text is malformed or holds several. -/
def ofChars? (text : List Char) : Option Document := do
  let tokens ← Token.ofChars? text
  (← (Parse.document (3 * tokens.length + 3)).run { tokens := tokens }).1

def ofText? (text : String) : Option Document := ofChars? text.toList

end Document

end Stackwright.Yaml

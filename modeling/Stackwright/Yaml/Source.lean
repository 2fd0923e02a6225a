import Stackwright.Datum.Source
import Stackwright.Yaml.Parser
import Stackwright.Yaml.Resolution

/-!
# YAML documents as a source of data

Aliases are followed on the way, as often as the size of the document allows, and errors name the
path to the node they are about. Text fields take the text of any scalar; data kept aside takes
the values that the scalars resolve to.
-/

namespace Stackwright.Yaml

open Datum

/-- The way from the root to a node; none at the root itself. -/
abbrev Path := Option String

namespace Path

def child (path : Path) (key : String) : Path :=
  match path with
  | none => some key
  | some parent => some (parent ++ "." ++ key)

def item (path : Path) (index : Nat) : Path :=
  some (path.getD "." ++ "[" ++ toString index ++ "]")

/-- The path to the value under a key; only a key that is itself a scalar has a name. -/
def value (path : Path) : Node → Path
  | .scalar key => path.child key.text
  | _ => path.child "?"

/-- The error with this place, unless it has one or belongs to the document as a whole. -/
def locate (path : Path) (error : Error) : Error :=
  match error.cause, error.place with
  | .fault _, _ => error
  | .repetitionLimit, _ => error
  | _, some _ => error
  | _, none => { error with place := path }

/-- Refuses the node at the path. -/
def refuse {α : Type} (path : Path) (cause : Cause) : Except Error α :=
  .error (path.locate (.plain cause))

end Path

/-- How deep collections may nest. -/
def depthLimit : Nat := 128

namespace Document

/-- The number of aliases that may be followed. -/
def jumpLimit (doc : Document) : Nat := 100 * doc.events

/-- The node itself, or the one that it repeats, with the number of aliases followed so far. -/
def follow (doc : Document) (node : Node) (jumps : Nat) : Except Error (Node × Nat) :=
  match node with
  | .aliasOf number =>
    if doc.jumpLimit ≤ jumps then .error (.plain .repetitionLimit)
    else .ok ((doc.anchors.lookup number).getD (.scalar { text := "" }), jumps + 1)
  | _ => .ok (node, jumps)

/-- The number of aliases followed once the node has been read as a whole; beyond the limit it is
not counted on. -/
def jumpsAfter (doc : Document) : Nat → Node → Nat → Nat
  | depth, node, jumps =>
    match doc.follow node jumps with
    | .error _ => jumps
    | .ok (.sequence _ items, jumps) =>
      match depth with
      | 0 => jumps
      | depth + 1 => items.foldl (fun jumps item => doc.jumpsAfter depth item jumps) jumps
    | .ok (.mapping _ entries, jumps) =>
      match depth with
      | 0 => jumps
      | depth + 1 =>
        entries.foldl (fun jumps (key, value) =>
          doc.jumpsAfter depth value (doc.jumpsAfter depth key jumps)) jumps
    | .ok (_, jumps) => jumps

end Document

abbrev Visit := StateT Nat (Except Error)

/-- The value of a scalar, or the objection to its tag. -/
def scalarValue (path : Path) (s : Scalar) : Except Error Value :=
  match s.value with
  | .ok value => .ok value
  | .error expected => path.refuse (.invalidValue (.string s.text) expected)

/-- What was found, when a scalar stands where `expected` should. -/
def scalarCause (s : Scalar) (expected : String) : Cause :=
  match s.value with
  | .error what => .invalidValue (.string s.text) what
  | .ok .null => .invalidType .null expected
  | .ok (.bool b) => .invalidType (.bool b) expected
  | .ok (.natural n) => .invalidType (.integer n) expected
  | .ok (.integer n) => .invalidType (.integer n) expected
  | .ok (.wide n) => .invalidType (.wide n) expected
  | .ok (.float x) => .invalidType (.float x) expected
  | .ok (.string t) => .invalidType (.string t) expected

/-- What was found, when a node stands where `expected` should. -/
def nodeCause (node : Node) (expected : String) : Cause :=
  match node with
  | .scalar s => scalarCause s expected
  | .sequence .. => .invalidType .sequence expected
  | .mapping .. => .invalidType .mapping expected
  | .aliasOf _ => .repetitionLimit

/-- The node as data. A tag that the document defines cannot be kept aside. -/
def toDatum (doc : Document) : Nat → Path → Node → Visit Datum
  | depth, path, node => do
    match ← (doc.follow node : Visit Node) with
    | .scalar s => do
      if isLocalTag s.tag then path.refuse .taggedValue
      match ← scalarValue path s with
      | .null => return .null
      | .bool b => return .bool b
      | .natural n => return .natural n
      | .integer n => return .integer n
      | .float x => return .float x
      | .string t => return .string t
      | .wide n => path.refuse (.invalidType (.wide n) "any value")
    | .sequence tag items => do
      if isLocalTag tag then path.refuse .taggedValue
      match depth with
      | 0 => throw (.plain (.fault .recursionLimit))
      | depth + 1 =>
        return .sequence (← items.zipIdx.mapM fun (item, i) => toDatum doc depth (path.item i) item)
    | .mapping tag entries => do
      if isLocalTag tag then path.refuse .taggedValue
      match depth with
      | 0 => throw (.plain (.fault .recursionLimit))
      | depth + 1 =>
        return .mapping (← entries.mapM fun (key, value) => do
          let k ← toDatum doc depth path key
          return (k, ← toDatum doc depth (path.value key) value))
    | .aliasOf _ => throw (.plain .repetitionLimit)

/-- The text of a key. -/
def keyText (doc : Document) (path : Path) (expected : String) (key : Node) : Visit String := do
  match ← (doc.follow key : Visit Node) with
  | .scalar s => return s.text
  | other => path.refuse (nodeCause other expected)

/-- The node as a JSON value. Numbers that are none become null. -/
def toJson (doc : Document) : Nat → Path → Node → Visit Json
  | depth, path, node => do
    let tagged := Cause.invalidType .tagged "any valid JSON value"
    match ← (doc.follow node : Visit Node) with
    | .scalar s => do
      if isLocalTag s.tag then path.refuse tagged
      match ← scalarValue path s with
      | .null => return .null
      | .bool b => return .bool b
      | .natural n => return .integer n
      | .integer n => return .integer n
      | .float x => return if x.isFinite then .float x else .null
      | .string t => return .string t
      | .wide _ => path.refuse .jsonNumberRange
    | .sequence tag items => do
      if isLocalTag tag then path.refuse tagged
      match depth with
      | 0 => throw (.plain (.fault .recursionLimit))
      | depth + 1 =>
        return .array (← items.zipIdx.mapM fun (item, i) => toJson doc depth (path.item i) item)
    | .mapping tag entries => do
      if isLocalTag tag then path.refuse tagged
      match depth with
      | 0 => throw (.plain (.fault .recursionLimit))
      | depth + 1 =>
        let members ← entries.zipIdx.mapM fun ((key, value), i) => do
          let name ← keyText doc path (if i = 0 then "a string key" else "a string") key
          return (name, ← toJson doc depth (path.value key) value)
        return .object (OrderedMap.ofList members).entries
    | .aliasOf _ => throw (.plain .repetitionLimit)

/-- The document as a JSON value; an empty one is null. -/
def Document.toJson (doc : Document) : Except Error Json :=
  match doc.root with
  | none => .ok .null
  | some node => (·.1) <$> (Yaml.toJson doc depthLimit none node).run 0

/-- A node with all that is needed to read it: its document and path, how deep collections may
still nest, and the aliases followed before. -/
structure Place where
  doc : Document
  /-- None for the root of an empty document. -/
  node : Option Node
  path : Path := none
  depth : Nat := depthLimit
  jumps : Nat := 0

namespace Place

def ofDocument (doc : Document) : Place := { doc := doc, node := doc.root }

/-- The node with its alias followed. -/
def resolve (p : Place) : Except Error Place :=
  match p.node with
  | none => .ok p
  | some node => do
    let (node, jumps) ← p.doc.follow node p.jumps
    return { p with node := some node, jumps := jumps }

/-- Whether nothing at all is written. -/
def isBlank (p : Place) : Bool :=
  match p.node with
  | none => true
  | some (.scalar s) => s.text.isEmpty && s.style = .plain
  | _ => false

def refuse {α : Type} (p : Place) (expected : String) : Except Error α :=
  match p.node with
  | some node => p.path.refuse (nodeCause node expected)
  | none => p.path.refuse (.invalidType .null expected)

/-- The entries of a mapping with the keys as field names. -/
def entries (p : Place) (entries : List (Node × Node)) :
    Except Error (List (Except Error FieldKey × Place)) := do
  match p.depth with
  | 0 => .error (.plain (.fault .recursionLimit))
  | depth + 1 => return go depth p.jumps entries
where
  go (depth : Nat) (jumps : Nat) :
      List (Node × Node) → List (Except Error FieldKey × Place)
    | [] => []
    | (key, value) :: rest =>
      let name := (keyText p.doc p.path "field identifier" key).run jumps
      let jumps := p.doc.jumpsAfter depth key jumps
      (name.map fun (text, _) => .name text,
          { p with node := some value, path := p.path.value key, depth := depth, jumps := jumps })
        :: go depth (p.doc.jumpsAfter depth value jumps) rest

/-- The items of a sequence. -/
def items (p : Place) (items : List Node) : Except Error (List Place) := do
  match p.depth with
  | 0 => .error (.plain (.fault .recursionLimit))
  | depth + 1 => return go depth 0 p.jumps items
where
  go (depth index : Nat) (jumps : Nat) : List Node → List Place
    | [] => []
    | item :: rest =>
      { p with node := some item, path := p.path.item index, depth := depth, jumps := jumps }
        :: go depth (index + 1) (p.doc.jumpsAfter depth item jumps) rest

def view (p : Place) : Except Error (View Place) := do
  let p ← p.resolve
  match p.node with
  | none => return .null
  | some (.scalar s) =>
    match ← scalarValue p.path s with
    | .null => return .null
    | .bool b => return .bool b
    | .natural n => return .integer n
    | .integer n => return .integer n
    | .wide n => return .integer n
    | .float x => return .float x
    | .string t => return .string t
  | some (.sequence _ items) => return .sequence (← p.items items)
  | some (.mapping _ entries) => return .mapping (← p.entries entries)
  | some (.aliasOf _) => .error (.plain .repetitionLimit)

def text (p : Place) : Except Error String := do
  let p ← p.resolve
  match p.node with
  | some (.scalar s) => return s.text
  | _ => p.refuse "a string"

def count (p : Place) : Except Error Nat := do
  let p ← p.resolve
  match p.node with
  | some (.scalar s) =>
    match s.unsigned? with
    | some n => (countOf n).mapError p.path.locate
    | none => p.refuse "u32"
  | _ => p.refuse "u32"

/-- Absent if nothing or a plain null is written, whose tag may only be that of null. -/
def optional (p : Place) : Except Error (Option Place) := do
  let p ← p.resolve
  match p.node with
  | none => return none
  | some (.scalar s) =>
    if s.style ≠ .plain then return some p
    else match s.tag with
      | none => return if s.text.isEmpty || isNull s.text then none else some p
      | some tag =>
        if tag ≠ coreTag "null" then return some p
        else if isNull s.text then return none
        else .error (.plain (.invalidValue (.string s.text) "null"))
  | some _ => return some p

/-- Records are mappings; blank counts as one without entries. -/
def record (expected : String) (p : Place) : Except Error (RecordForm Place) := do
  let p ← p.resolve
  match p.node with
  | some (.mapping _ entries) => return .keyed (← p.entries entries)
  | _ => if p.isBlank then return .keyed [] else p.refuse expected

end Place

instance : Source Place where
  view := Place.view
  buffer p :=
    match p.node with
    | none => .ok .null
    | some node => (·.1) <$> (toDatum p.doc p.depth p.path node).run p.jumps
  locate p := p.path.locate
  text := Place.text
  count := Place.count
  optional := Place.optional
  record := Place.record
  surplus _ _ := none

end Stackwright.Yaml

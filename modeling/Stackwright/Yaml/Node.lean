/-!
# YAML tokens and nodes

The tokens that a text is cut into and the tree that they spell. Aliases are kept as numbers, so
that a tree stays as small as its text however often its parts are repeated.
-/

namespace Stackwright.Yaml

/-- How a scalar is written. -/
inductive Style where
  | plain
  | singleQuoted
  | doubleQuoted
  | literal
  | folded
deriving DecidableEq, Repr

/-- A token; indentation has been turned into the starts and ends of blocks. -/
inductive Token where
  | version (major minor : Nat)
  /-- Lets a tag handle stand for a longer text. -/
  | tagHandle (handle expansion : String)
  | documentStart
  | documentEnd
  | blockSequenceStart
  | blockMappingStart
  | blockEnd
  | flowSequenceStart
  | flowSequenceEnd
  | flowMappingStart
  | flowMappingEnd
  | blockEntry
  | flowEntry
  | key
  | value
  | aliasOf (anchor : String)
  | anchor (name : String)
  | tag (handle suffix : String)
  | scalar (text : String) (style : Style)
deriving DecidableEq, Repr

/-- A scalar as written. -/
structure Scalar where
  text : String
  style : Style := .plain
  tag : Option String := none
deriving DecidableEq, Repr

inductive Node where
  | scalar (value : Scalar)
  | sequence (tag : Option String) (items : List Node)
  | mapping (tag : Option String) (entries : List (Node × Node))
  /-- Repeats the node with the given number. -/
  | aliasOf (number : Nat)
deriving Repr, Inhabited

/-- A document: its root, unless it is empty, and the nodes that aliases repeat. -/
structure Document where
  root : Option Node
  anchors : List (Nat × Node)
  /-- The number of events in the document: one for each scalar and alias, two for each
  collection. -/
  events : Nat

end Stackwright.Yaml

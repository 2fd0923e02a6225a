import Stackwright.Binary64
import Stackwright.OrderedMap

/-!
# TOML tables

A document is a table. How a table came to be decides what may still be added to it, so tables
remember their origin. Statements of a document add to tables that a path of keys leads to. No
statement may define a key twice, and a table that was written out as a whole is closed to dotted
keys.
-/

namespace Stackwright.Toml

/-- How a table came to be. -/
inductive Origin where
  /-- By a header of its own; the document itself counts as opened this way. -/
  | header
  /-- On the way to a table that a header names. -/
  | passage
  /-- On the way of a dotted key. -/
  | dotted
  /-- Between braces, and complete with them. -/
  | braces
deriving DecidableEq, Repr

/-- A value. Keys of a table stand in the order in which they were written. -/
inductive Value where
  | bool (value : Bool)
  | integer (value : Int)
  | float (value : Binary64)
  | string (value : String)
  /-- A date, a time of day, or both, as written. -/
  | moment (text : String)
  | array (items : List Value)
  | table (origin : Origin) (entries : List (String × Value))
  /-- The tables that headers in double brackets add one after the other. -/
  | tables (items : List (List (String × Value)))

/-- What a table holds. -/
abbrev Entries := List (String × Value)

/-- A change to a table of some origin, which may be refused. -/
abbrev Change := Origin → Entries → Option Entries

/-- Whether a path made of such steps may lead through a table: headers lead through any table
without braces, dotted keys only through those without a header. -/
def mayPass : (step origin : Origin) → Bool
  | _, .braces => false
  | .dotted, .header => false
  | _, _ => true

/-- Changes the table that a path leads to. Tables that are missing on the way are made; of tables
added one after the other the path takes the last. -/
def within (step : Origin) (change : Change) : List String → Change
  | [], origin, entries => change origin entries
  | key :: path, _, entries => do
    match findEntry key entries with
    | none => return setEntry key (.table step (← within step change path step [])) entries
    | some (.table origin inner) =>
      guard (mayPass step origin)
      return setEntry key (.table origin (← within step change path origin inner)) entries
    | some (.tables items) =>
      let last ← within step change path .header (← items.getLast?)
      return setEntry key (.tables (items.dropLast ++ [last])) entries
    | some _ => none

/-- Binds a key that is not there yet; behind other keys it goes only into a table that dotted keys
have made. -/
def assign (path : List String) (key : String) (value : Value) : Change :=
  within .dotted (fun origin entries => do
    guard (path.isEmpty || origin = .dotted)
    guard (findEntry key entries).isNone
    return setEntry key value entries) path

/-- Opens the table that a header names. A table that was only passed by other headers moves to
the end with what it holds. -/
def openTable (path : List String) (key : String) : Change :=
  within .passage (fun _ entries =>
    match findEntry key entries with
    | none => some (setEntry key (.table .header []) entries)
    | some (.table .passage inner) =>
      some (setEntry key (.table .header inner) (dropEntry key entries))
    | some _ => none) path

/-- Adds one more table to those that a header in double brackets names. -/
def addTable (path : List String) (key : String) : Change :=
  within .passage (fun _ entries =>
    match findEntry key entries with
    | none => some (setEntry key (.tables [[]]) entries)
    | some (.tables items) => some (setEntry key (.tables (items ++ [[]])) entries)
    | some _ => none) path

/-- A document of which some statements have been read. -/
structure Draft where
  root : Entries := []
  /-- The path of the table that was opened last. -/
  here : List String := []

namespace Draft

/-- Binds a key in the table that was opened last. -/
def assign? (d : Draft) (path : List String) (key : String) (value : Value) : Option Draft := do
  return { d with root := ← within .passage (assign path key value) d.here .header d.root }

def openTable? (d : Draft) (path : List String) (key : String) : Option Draft := do
  return ⟨← openTable path key .header d.root, path ++ [key]⟩

def addTable? (d : Draft) (path : List String) (key : String) : Option Draft := do
  return ⟨← addTable path key .header d.root, path ++ [key]⟩

end Draft

end Stackwright.Toml

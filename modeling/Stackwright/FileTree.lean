import Stackwright.FilePath
import Stackwright.OrderedMap

/-!
# Trees of files

Directories and plain files as a value. A file holds bytes; there are no links and no permissions.
Paths are followed one part at a time and only through directories that exist. The steps here take
effect as a whole or say why they cannot; what can break off in between, such as writing a file,
is made of several of them (`Storage`).
-/

namespace Stackwright

/-- Why an operation on files fails. -/
inductive FileError where
  | notFound
  | busy
  | alreadyExists
  | notADirectory
  | isADirectory
  | nameTooLong
  | zeroInName
  | notText
  | other (text : String)
deriving DecidableEq, Repr

namespace FileError

def message : FileError → String
  | .notFound => "No such file or directory (os error 2)"
  | .busy => "Device or resource busy (os error 16)"
  | .alreadyExists => "File exists (os error 17)"
  | .notADirectory => "Not a directory (os error 20)"
  | .isADirectory => "Is a directory (os error 21)"
  | .nameTooLong => "File name too long (os error 36)"
  | .zeroInName => "file name contained an unexpected NUL byte"
  | .notText => "stream did not contain valid UTF-8"
  | .other text => text

end FileError

/-- A place in the tree: the names from the root down to it. -/
abbrev Location := List String

inductive Node where
  | file (content : ByteArray)
  | directory

/-- Files are the same if they hold the same bytes. -/
instance : DecidableEq Node
  | .file a, .file b =>
    decidable_of_iff (a.data = b.data) (by rw [← ByteArray.ext_iff, Node.file.injEq])
  | .directory, .directory => isTrue rfl
  | .file _, .directory | .directory, .file _ => isFalse nofun

/-- Files and directories by location. The root is a directory that needs no entry. -/
structure FileTree where
  nodes : OrderedMap Location Node
  /-- Where relative paths start. -/
  home : Location
deriving DecidableEq

namespace FileTree

def node? (t : FileTree) (place : Location) : Option Node :=
  if place = [] then some .directory else t.nodes.get? place

/-- The content of the file at a location. -/
def content? (t : FileTree) (place : Location) : Option ByteArray :=
  match t.node? place with
  | some (.file content) => some content
  | _ => none

/-- The longest name of a file or directory, in bytes. -/
def nameLimit : Nat := 255

/-- The longest path, in bytes. -/
def pathLimit : Nat := 4095

/-- Where one part leads from a location, which has to be a directory. -/
def enter (t : FileTree) (place : Location) (part : String) : Except FileError Location :=
  match t.node? place with
  | none => .error .notFound
  | some (.file _) => .error .notADirectory
  | some .directory =>
    if FilePath.isIdle part then .ok place
    else if part = ".." then .ok place.dropLast
    else if nameLimit < part.utf8ByteSize then .error .nameTooLong
    else .ok (place ++ [part])

/-- Where the parts of a path lead. -/
def walk (t : FileTree) (p : FilePath) (parts : List String) : Except FileError Location :=
  if p.text = "" then .error .notFound
  else if p.text.toList.contains '\x00' then .error .zeroInName
  else if pathLimit < p.text.utf8ByteSize then .error .nameTooLong
  else parts.foldlM t.enter (if p.isAbsolute then [] else t.home)

/-- Where a path leads whose end need not exist yet. -/
inductive Target where
  /-- To a place with a name; `slash` if the path has slashes at its end. -/
  | named (location : Location) (slash : Bool)
  /-- To a directory that is not called by its name. -/
  | unnamed
deriving DecidableEq, Repr

def target (t : FileTree) (p : FilePath) : Except FileError Target := do
  let parts := (p.parts.reverse.dropWhile (· == "")).reverse
  let parent ← t.walk p parts.dropLast
  match parts.getLast? with
  | none => return .unnamed
  | some last =>
    let location ← t.enter parent last
    if last = "." || last = ".." then return .unnamed
    else return .named location (parts.length < p.parts.length)

def isDirectory (t : FileTree) (p : FilePath) : Bool :=
  match t.walk p p.parts with
  | .ok place => t.node? place == some .directory
  | .error _ => false

/-- The text that bytes spell in UTF-8. -/
def textOf (bytes : ByteArray) : Except FileError String :=
  match String.fromUTF8? bytes with
  | some text => .ok text
  | none => .error .notText

/-- The text in a file. -/
def read (t : FileTree) (p : FilePath) : Except FileError String := do
  match t.node? (← t.walk p p.parts) with
  | some (.file content) => textOf content
  | some .directory => .error .isADirectory
  | none => .error .notFound

def setNode (t : FileTree) (place : Location) (node : Node) : FileTree :=
  { t with nodes := t.nodes.insert place node }

/-- Opens a file to write it from its start: it is there afterwards and empty, whatever it held
before. Gives its place too. -/
def create (t : FileTree) (p : FilePath) : Except FileError (Location × FileTree) := do
  match ← t.target p with
  | .named place false =>
    if t.node? place = some .directory then .error .isADirectory
    else return (place, t.setNode place (.file .empty))
  | _ => .error .isADirectory

/-- Creates a directory whose parent exists. -/
def makeDirectory (t : FileTree) (p : FilePath) : Except FileError FileTree := do
  match ← t.target p with
  | .named place _ =>
    if (t.node? place).isSome then .error .alreadyExists else return t.setNode place .directory
  | .unnamed => .error .alreadyExists

/-- Moves a file, replacing the one that may be there. -/
def rename (t : FileTree) (source destination : FilePath) : Except FileError FileTree := do
  match ← t.target source with
  | .named start false =>
    match t.node? start with
    | none => .error .notFound
    | some node =>
      match ← t.target destination with
      | .unnamed => .error .busy
      | .named _ true => .error .notADirectory
      | .named goal false =>
        if t.node? goal = some .directory then .error .isADirectory
        else if goal = start then return t
        else return { t with nodes := (t.nodes.erase start).insert goal node }
  | _ => .error .busy

end FileTree

end Stackwright

import Stackwright.FileTree

/-!
# Operations on files

What commands do with files (`FileSystem`), and how it ends on a tree of files where operations can
also fail for reasons that the tree does not show, such as a full disk (`Storage`). Reading, moving
and creating one directory happen as a whole or not at all. Writing a file empties it first and can
break off after any number of bytes, and of several directories some can be there when one fails.
-/

namespace Stackwright

/-- Operations on files, each of which succeeds or says why not. -/
class FileSystem (m : Type → Type) where
  read : FilePath → m (Except FileError String)
  /-- Creates a directory and those that it lies in, as far as they are missing. -/
  makeDirectories : FilePath → m (Except FileError Unit)
  /-- Creates a file with the given content, or replaces the content of one. -/
  write : FilePath → String → m (Except FileError Unit)
  rename : FilePath → FilePath → m (Except FileError Unit)

/-- What goes wrong with an operation although the tree allows it. -/
structure Mishap where
  error : FileError
  /-- How many bytes have been written until then, if the operation writes bytes. -/
  written : Nat := 0
deriving DecidableEq, Repr

/-- A tree of files, and what goes wrong with the operations on it, one after the other. After the
last entry nothing does. -/
structure Storage where
  tree : FileTree
  mishaps : List (Option Mishap) := []

namespace Storage

/-- What goes wrong with the operation that is next. -/
def nextMishap : StateM Storage (Option Mishap) := fun s =>
  (s.mishaps.head?.join, { s with mishaps := s.mishaps.tail })

/-- An operation that takes effect as a whole or not at all. -/
def perform {α : Type} (operation : FileTree → Except FileError (α × FileTree)) :
    StateM Storage (Except FileError α) := do
  match ← nextMishap with
  | some mishap => return .error mishap.error
  | none => fun s =>
    match operation s.tree with
    | .ok (a, changed) => (.ok a, { s with tree := changed })
    | .error e => (.error e, s)

def read (p : FilePath) : StateM Storage (Except FileError String) :=
  perform fun t => (t.read p).map fun text => (text, t)

/-- Whether a directory is seen at a path; it is not where looking fails. -/
def isDirectory (p : FilePath) : StateM Storage Bool := do
  match ← perform fun t => .ok (t.isDirectory p, t) with
  | .ok found => return found
  | .error _ => return false

def makeDirectory (p : FilePath) : StateM Storage (Except FileError Unit) :=
  perform fun t => (t.makeDirectory p).map fun changed => ((), changed)

/-- Creates the first of several directories, each of which lies in the next, and before it those
of the others that are missing. A directory that is there in spite of an error is good enough. -/
def makeDirectories : List FilePath → StateM Storage (Except FileError Unit)
  | [] => return .ok ()
  | p :: parents => do
    match ← makeDirectory p with
    | .ok () => return .ok ()
    | .error .notFound =>
      if p.parent? = none then return .error (.other "failed to create whole tree")
      else match ← makeDirectories parents with
        | .error e => return .error e
        | .ok () =>
          match ← makeDirectory p with
          | .ok () => return .ok ()
          | .error e => settle p e
    | .error e => settle p e
where
  /-- The end of an attempt to create a directory that failed. -/
  settle (p : FilePath) (e : FileError) : StateM Storage (Except FileError Unit) := do
    return if ← isDirectory p then .ok () else .error e

/-- Writes bytes into a file that is open and empty. -/
def fill (place : Location) (content : ByteArray) : StateM Storage (Except FileError Unit) := do
  match ← nextMishap with
  | some mishap => fun s =>
    (.error mishap.error,
      { s with tree := s.tree.setNode place (.file (content.extract 0 mishap.written)) })
  | none => fun s => (.ok (), { s with tree := s.tree.setNode place (.file content) })

def write (p : FilePath) (content : String) : StateM Storage (Except FileError Unit) := do
  match ← perform fun t => t.create p with
  | .error e => return .error e
  | .ok place => fill place content.toUTF8

def rename (source destination : FilePath) : StateM Storage (Except FileError Unit) :=
  perform fun t => (t.rename source destination).map fun changed => ((), changed)

instance : FileSystem (StateM Storage) where
  read := read
  makeDirectories p := makeDirectories p.ancestors
  write := write
  rename := rename

end Storage

end Stackwright

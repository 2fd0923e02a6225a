/-!
# File paths

A path is a text whose parts stand between slashes. Empty parts and single points lead nowhere, so
the name at the end of a path is its last part that is neither.
-/

namespace Stackwright

structure FilePath where
  text : String
deriving DecidableEq, Repr, Inhabited

namespace FilePath

/-- The parts of a text between slashes; one more than there are slashes. -/
def splitSlashes : List Char → List (List Char)
  | [] => [[]]
  | c :: rest =>
    if c = '/' then [] :: splitSlashes rest
    else match splitSlashes rest with
      | first :: more => (c :: first) :: more
      | [] => [[c]]

def parts (p : FilePath) : List String := (splitSlashes p.text.toList).map String.ofList

/-- The path with the given parts. -/
def ofParts (parts : List String) : FilePath := ⟨String.intercalate "/" parts⟩

def isAbsolute (p : FilePath) : Bool := p.text.toList.head? == some '/'

/-- Parts that lead nowhere. -/
def isIdle (part : String) : Bool := part == "" || part == "."

/-- The parts without the idle ones at the end; the first part is kept in any case. -/
def trimEnd : List String → List String
  | [] => []
  | first :: rest => first :: (rest.reverse.dropWhile isIdle).reverse

/-- The name at the end, unless the path ends in the root, the start or a step upwards. -/
def name? (p : FilePath) : Option String :=
  (trimEnd p.parts).getLast?.filter fun part => !isIdle part && part != ".."

/-- A name cut at its last point, which must not be its first character. -/
def splitName (name : String) : String × Option String :=
  let reversed := name.toList.reverse
  let ending := reversed.takeWhile (· != '.')
  match reversed.drop ending.length with
  | '.' :: before =>
    if before.isEmpty then (name, none)
    else (String.ofList before.reverse, some (String.ofList ending.reverse))
  | _ => (name, none)

/-- What follows the last point of the name. -/
def extension? (p : FilePath) : Option String := p.name?.bind fun name => (splitName name).2

/-- The path without its last part; the root and the empty path have none. -/
def parent? (p : FilePath) : Option FilePath :=
  match trimEnd p.parts with
  | [] => none
  | [first] => if first = "" then none else some ⟨""⟩
  | trimmed =>
    match trimEnd trimmed.dropLast with
    | [first] => some (if first = "" then ⟨"/"⟩ else ⟨first⟩)
    | rest => some (ofParts rest)

/-- The path and those that it lies below, from the inside out, without the empty one. -/
def ancestors (p : FilePath) : List FilePath := go p.parts.length p
where
  /-- At most `fuel` steps; each one drops a part. -/
  go : (fuel : Nat) → FilePath → List FilePath
    | 0, _ => []
    | fuel + 1, p =>
      if p.text = "" then []
      else p :: match p.parent? with
        | some parent => go fuel parent
        | none => []

/-- The path with another extension on its name. First the text loses as many characters as the
old extension has; if what is left ends in no name, it stays as it is. -/
def withExtension (p : FilePath) (extension : String) : FilePath :=
  let cut := p.text.toList.length - (p.extension?.map String.length).getD 0
  let bare : FilePath := ⟨String.ofList (p.text.toList.take cut)⟩
  match bare.name? with
  | none => bare
  | some name =>
    ofParts ((trimEnd bare.parts).dropLast ++ [(splitName name).1 ++ "." ++ extension])

end FilePath

end Stackwright

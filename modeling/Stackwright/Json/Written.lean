import Stackwright.Json

/-!
# JSON text as written

What a well-formed text spells before anything is decided about it: members may repeat a name, and
a part that spells no value holds its fault in place, so that the fault counts only for a reader
who looks at that part.
-/

namespace Stackwright.Json

/-- Why a well-formed part of a text spells no value. -/
inductive Fault where
  /-- The container stands inside too many others. -/
  | recursionLimit
  /-- One half of a surrogate pair stands where it cannot. -/
  | loneSurrogate
  /-- The first half of a surrogate pair is not followed by another escape. -/
  | brokenSurrogatePair
  /-- The number is too large for binary64. -/
  | numberOutOfRange
deriving DecidableEq, Repr

def Fault.message : Fault → String
  | .recursionLimit => "recursion limit exceeded"
  | .loneSurrogate => "lone leading surrogate in hex escape"
  | .brokenSurrogatePair => "unexpected end of hex escape"
  | .numberOutOfRange => "number out of range"

/-- A text as written, with its faults in place. -/
inductive Written where
  | fault (fault : Fault)
  | null
  | bool (value : Bool)
  | integer (value : Int)
  | float (value : Binary64)
  | string (value : String)
  | array (items : List Written)
  | object (members : List (Except Fault String × Written))
deriving Inhabited

namespace Written

mutual

/-- The value that is spelled, or the first fault in order of writing. A later member replaces an
earlier one of its name. -/
def toJson : Written → Except Fault Json
  | .fault f => .error f
  | .null => .ok .null
  | .bool b => .ok (.bool b)
  | .integer n => .ok (.integer n)
  | .float x => .ok (.float x)
  | .string s => .ok (.string s)
  | .array items => do return .array (← itemsToJson items)
  | .object members => do return .object (← membersToJson [] members)

def itemsToJson : List Written → Except Fault (List Json)
  | [] => .ok []
  | item :: rest => do
    let first ← toJson item
    return first :: (← itemsToJson rest)

/-- The members written after those in `done`. -/
def membersToJson (done : List (String × Json)) :
    List (Except Fault String × Written) → Except Fault (List (String × Json))
  | [] => .ok done
  | (name, value) :: rest => do
    let key ← name
    let json ← toJson value
    membersToJson (setEntry key json done) rest

end

end Written

end Stackwright.Json

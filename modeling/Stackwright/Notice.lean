/-!
# Notices

What is reported beside a result: places where a later declaration replaced an earlier one, and
milestones.
-/

namespace Stackwright

inductive Notice where
  | variableDeclaredTwice (name : String)
  | parameterRedeclared (parameter : String) (first second : Option String)
  | fixedParameterOverrides (parameter : String)
  | variableOverwritten (name : String)
  | compiled (function : String) (parameters conditions resources : Nat)
  | templateUnreadable (path : String)
deriving DecidableEq, Repr

namespace Notice

/-- Whether the notice warns that something was replaced. -/
def isWarning : Notice → Bool
  | .compiled .. | .templateUnreadable _ => false
  | _ => true

def message : Notice → String
  | .variableDeclaredTwice _ => "environment variable declared twice, later entry wins"
  | .parameterRedeclared .. => "parameter redeclared with a different default, later wins"
  | .fixedParameterOverrides _ => "fixed parameter overrides declared parameter"
  | .variableOverwritten _ => "environment variable overwritten by later entry"
  | .compiled .. => "compiled template"
  | .templateUnreadable _ => "existing template unreadable, rewriting"

end Notice

end Stackwright

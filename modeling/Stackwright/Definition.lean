import Stackwright.Permission
import Stackwright.Reference
import Stackwright.Text.Uppercase

/-!
# Function definitions

A definition names a function, says how it runs, and lists all that it needs from elsewhere: what
it may do, and what it finds in its environment, each variable derived from values of the template.
-/

namespace Stackwright

/-- Where a value comes from at deployment. -/
inductive ValueSource where
  | reference (reference : Reference)
  | parameter (parameter : Parameter)
deriving DecidableEq, Repr

/-- A variable of the function's environment. -/
inductive Variable where
  /-- The run-time name of a table, under a name derived from the table. -/
  | tableName (table : Table)
  | parameter (name : String) (parameter : Parameter)
  | resourceOutput (name : String) (reference : Reference)
  /-- The first source unless it is empty at deployment, else the second. -/
  | coalesced (name : String) (first second : ValueSource)
deriving DecidableEq, Repr

/-- The variable that holds the table's name, in upper case. -/
def Table.variableName (t : Table) : String := Text.upper (t.tableName ++ "_table_name")

/-- The name of the kind in definitions. -/
def Variable.kind : Variable → String
  | .tableName _ => "table_name"
  | .parameter .. => "parameter"
  | .resourceOutput .. => "resource_output"
  | .coalesced .. => "coalesced"

/-- The name in the environment. -/
def Variable.name : Variable → String
  | .tableName table => table.variableName
  | .parameter name _ => name
  | .resourceOutput name _ => name
  | .coalesced name _ _ => name

/-- Where the packaged code of the function lies. -/
structure CodeLocation where
  bucket : String
  key : String
deriving DecidableEq, Repr

/-- How the function runs. -/
structure Settings where
  handler : String := "index.handler"
  runtime : String := "nodejs18.x"
  /-- In seconds. -/
  timeout : Nat := 25
  /-- In megabytes; the platform chooses when absent. -/
  memorySize : Option Nat := none
  code : Option CodeLocation := none
deriving DecidableEq, Repr, Inhabited

/-- All that the function needs: what it may do, what it finds in its environment, and the table
whose changes trigger it. -/
structure Requirements where
  permissions : List Permission := []
  environment : List Variable := []
  eventSource : Option Table := none
deriving DecidableEq, Repr, Inhabited

structure Definition where
  name : String
  settings : Settings := {}
  requirements : Requirements := {}
deriving DecidableEq, Repr, Inhabited

end Stackwright

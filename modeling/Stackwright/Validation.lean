import Stackwright.Definition
import Stackwright.Notice

/-!
# Validation

What a definition must not leave empty. Validation lists every fault in the order of the
definition, and notes variables that are declared more than once.
-/

namespace Stackwright

namespace Validation

/-- The faults of a table. -/
def tableFaults (t : Table) : List String :=
  (if t.apiName.isEmpty then ["has an empty api name"] else [])
    ++ (if t.tableName.isEmpty then ["has an empty table name"] else [])

def whenTrue (fault : Bool) (message : String) : List String := if fault then [message] else []

/-- What is wrong with a permission by itself. -/
def permissionFaults : Permission → List String
  | .table host actions => tableFaults host ++ whenTrue actions.isEmpty "has no actions"
  | .userPool pool actions =>
    whenTrue pool.authName.isEmpty "has an empty auth name"
      ++ whenTrue actions.isEmpty "has no actions"
  | .sendMail identity =>
    whenTrue identity.name.isEmpty "has an empty identity parameter name"
  | .iamAction actions resources =>
    whenTrue actions.isEmpty "has no actions"
      ++ whenTrue (actions.any String.isEmpty) "has an empty action"
      ++ whenTrue resources.isEmpty "has no resources"

/-- What is wrong with a variable by itself. -/
def variableFaults (v : Variable) : List String :=
  (match v with
    | .tableName host => (tableFaults host).map ("table_name variable " ++ ·)
    | _ => [])
  ++ whenTrue v.name.isEmpty "environment variable has an empty name"

/-- All faults of a definition, in order. -/
def faults (d : Definition) : List String :=
  whenTrue d.name.isEmpty "name must not be empty"
    ++ (d.requirements.permissions.zipIdx.flatMap fun (p, i) =>
      (permissionFaults p).map (p.label i ++ " " ++ ·))
    ++ d.requirements.environment.flatMap variableFaults
    ++ d.requirements.eventSource.toList.flatMap fun t =>
      (tableFaults t).map ("event source " ++ ·)

/-- A notice for each name that an earlier name in the list equals. -/
def repeatedNames (seen : List String) : List String → List Notice
  | [] => []
  | name :: rest =>
    if name.isEmpty then repeatedNames seen rest
    else if name ∈ seen then .variableDeclaredTwice name :: repeatedNames seen rest
    else repeatedNames (name :: seen) rest

def notices (d : Definition) : List Notice :=
  repeatedNames [] (d.requirements.environment.map Variable.name)

end Validation

/-- A definition without faults. -/
def Definition.Valid (d : Definition) : Prop := Validation.faults d = []

instance (d : Definition) : Decidable d.Valid := inferInstanceAs (Decidable (_ = _))

end Stackwright

import Stackwright.Expr
import Stackwright.Datum.Variant

/-!
# Expressions as JSON

A literal is a string, a call an object with the name of the function as its only member. Reading
accepts exactly these shapes, with the arguments that the function takes; in a format whose keys
may be numbers, a function may also be named by its position.
-/

namespace Stackwright.Expr

open Datum

/-- The names of the functions that expressions call; a position counts them in this order. -/
def functions : List String :=
  ["Ref", "Fn::If", "Fn::Equals", "Fn::Not", "Fn::ImportValue", "Fn::Sub", "Fn::Join", "Fn::GetAtt"]

/-- The function that a key names. -/
def function? : Datum → Option String
  | .string name => some name
  | .natural position => functions[position]?
  | _ => none

/-- A call as an object. -/
def call (function : String) (argument : Json) : Json := .object [(function, argument)]

mutual

def toJson : Expr → Json
  | .literal s => .string s
  | .ref name => call "Ref" (.string name)
  | .ifThenElse c t e => call "Fn::If" (.array [.string c, toJson t, toJson e])
  | .equals l r => call "Fn::Equals" (.array [toJson l, toJson r])
  | .not cs => call "Fn::Not" (.array (toJsonAll cs))
  | .importValue n => call "Fn::ImportValue" (toJson n)
  | .sub t => call "Fn::Sub" (.string t)
  | .join d ps => call "Fn::Join" (.array [.string d, .array (toJsonAll ps)])
  | .getAtt r a => call "Fn::GetAtt" (.array [.string r, .string a])

def toJsonAll : List Expr → List Json
  | [] => []
  | e :: rest => toJson e :: toJsonAll rest

end

mutual

/-- The expression that the data spells. -/
def ofDatum? : Datum → Option Expr
  | .string s => some (.literal s)
  | .mapping [(key, argument)] => do ofCall? (← function? key) argument
  | _ => none

/-- The call of a function on an argument. -/
def ofCall? (function : String) (argument : Datum) : Option Expr :=
  match function, argument with
  | "Ref", .string name => some (.ref name)
  | "Fn::If", .sequence [.string c, t, e] => do return .ifThenElse c (← ofDatum? t) (← ofDatum? e)
  | "Fn::Equals", .sequence [l, r] => do return .equals (← ofDatum? l) (← ofDatum? r)
  | "Fn::Not", .sequence cs => do return .not (← ofData? cs)
  | "Fn::ImportValue", n => do return .importValue (← ofDatum? n)
  | "Fn::Sub", .string t => some (.sub t)
  | "Fn::Join", .sequence [.string d, .sequence ps] => do return .join d (← ofData? ps)
  | "Fn::GetAtt", .sequence [.string r, .string a] => some (.getAtt r a)
  | _, _ => none

def ofData? : List Datum → Option (List Expr)
  | [] => some []
  | d :: rest => do
    let first ← ofDatum? d
    return first :: (← ofData? rest)

end

/-- Reads an expression; there is one message for all that is not one. -/
def read {ν : Type} [Source ν] (v : ν) : Except Error Expr := do
  match ofDatum? (← Source.buffer v) with
  | some e => return e
  | none => refuse (.noAlternative "Expr")

end Stackwright.Expr

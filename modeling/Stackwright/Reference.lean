/-!
# References between stacks

A function reads values that other stacks export. Each such output reaches the template through a
parameter whose name is derived from the reference alone, so that the two sides agree without
talking to each other.
-/

namespace Stackwright

/-- A named output of a resource that another stack manages. -/
structure Reference where
  category : String
  resource : String
  output : String
deriving DecidableEq, Repr

/-- A template parameter with its default, if it has one. -/
structure Parameter where
  name : String
  defaultValue : Option String := none
deriving DecidableEq, Repr

/-- A table that an API stack hosts. -/
structure Table where
  apiName : String
  tableName : String
deriving DecidableEq, Repr

/-- A pool of user identities. -/
structure UserPool where
  authName : String
deriving DecidableEq, Repr

namespace Reference

/-- The parameter that carries the output: the three names without a separator. -/
def parameterName (r : Reference) : String := r.category ++ r.resource ++ r.output

/-- The names joined by hyphens; references with the same key count as one. -/
def key (r : Reference) : String := r.category ++ "-" ++ r.resource ++ "-" ++ r.output

/-- The resource by its names joined by a hyphen. -/
def groupKey (r : Reference) : String := r.category ++ "-" ++ r.resource

/-- The parameter that the reference needs; it has no default. -/
def toParameter (r : Reference) : Parameter := ⟨r.parameterName, none⟩

end Reference

namespace Table

/-- The output by which the hosting API is known. -/
def outputReference (t : Table) : Reference := ⟨"api", t.apiName, "GraphQLAPIIdOutput"⟩

/-- The logical id of the table inside the API stack. -/
def logicalId (t : Table) : String := t.tableName ++ "Table"

end Table

namespace UserPool

/-- An output of the stack that manages the pool. -/
def outputReference (p : UserPool) (output : String) : Reference := ⟨"auth", p.authName, output⟩

/-- The output that holds the id of the pool. -/
def idReference (p : UserPool) : Reference := p.outputReference "UserPoolId"

end UserPool

end Stackwright

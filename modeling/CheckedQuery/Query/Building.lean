import CheckedQuery.Projection.Compile
import CheckedQuery.Validator.Number

/-!
# Building queries

The ways to grow a query.  Those that leave the shape of the result alone keep its
validator; the others replace it, and are refused once there is one.
-/

namespace CheckedQuery

inductive Direction where
  | ascending
  | descending
  deriving DecidableEq

def Direction.text : Direction → String
  | .ascending => "asc"
  | .descending => "desc"

namespace Query

def star (query : Query) : Query :=
  { query.extend "*" with cardinality := .many }

def filter (query : Query) (condition : String) : Query :=
  query.extend ("[" ++ condition ++ "]")

def filterByType (query : Query) (types : List String) : Query :=
  query.filter (" || ".intercalate (types.map ConditionalGroup.typeCondition))

def order (query : Query) (fields : List (String × Direction)) : Query :=
  let terms := fields.map fun field => field.1 ++ " " ++ field.2.text
  query.extend (" | order(" ++ ", ".intercalate terms ++ ")")

def slice (query : Query) (first last : Nat) : Except ConfigError Query :=
  query.chainAs ("[" ++ toString first ++ "..." ++ toString last ++ "]") none .many

def sliceOne (query : Query) (position : Nat) : Except ConfigError Query :=
  query.chainAs ("[" ++ toString position ++ "]") none .one

/-- What a reference points to. -/
def dereference (query : Query) : Except ConfigError Query :=
  query.chain "->" none

/-- Whether a path stands for all items of an array. -/
def endsWithItems (path : String) : Bool :=
  "[]".toList.isSuffixOf path.toList

/-- One field of the result.  The validator is that of a single item. -/
def field (query : Query) (path : String) (validator : Option Validator) :
    Except ConfigError Query :=
  let cardinality := if endsWithItems path then .many else query.cardinality
  let text := if query.text.isEmpty then path else "." ++ path
  query.chainAs text (validator.map cardinality.wrap) cardinality

/-- Text of any kind that gives the result a new shape. -/
def raw (query : Query) (text : String) (validator : Option Validator) :
    Except ConfigError Query :=
  query.chain text validator

/-- Text of any kind that leaves the shape of the result alone. -/
def passthrough (query : Query) (text : String) : Query :=
  query.extend text

def project (query : Query) (projection : Projection) : Except ConfigError Query := do
  let compiled ← projection.compile query
  query.chain compiled.text (compiled.validator.map query.cardinality.wrap)

/-- The query of the first condition that holds, or else the fallback, or else
null. -/
def select (query : Query) (arms : List (String × Query)) (fallback : Option Query) :
    Except ConfigError Query := do
  let parts := arms.map fun arm => arm.1 ++ " => " ++ arm.2.text
  let conditions := arms.map fun arm => (arm.1, arm.2.validator)
  let last := fallback.toList
  let covered ← Branch.cover
    (conditions ++ last.map fun fallback => ("default", fallback.validator))
  let validator := covered.map fun branches =>
    let resolved := Branch.firstMatch branches true
    if fallback.isSome then resolved else resolved.nullable
  query.chainAs ("select(" ++ ", ".intercalate (parts ++ last.map Query.text) ++ ")")
    validator .one

def count (query : Query) : Except ConfigError Query :=
  match query.validator with
  | some _ => .error (.chainAfterValidator "count()")
  | none =>
      .ok { query with
        text := "count(" ++ query.text ++ ")"
        validator := some (NumberShape.any.require .whole).validator
        cardinality := .one }

end Query

end CheckedQuery

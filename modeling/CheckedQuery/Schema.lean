import CheckedQuery.Condition.Branch
import CheckedQuery.Validator.Fields
import CheckedQuery.Validator.Items
import CheckedQuery.Validator.Number
import CheckedQuery.Validator.Text

/-!
# Schemas

A schema is the description of a validator as a tree: what it is put together
from, down to validators that are given from outside.
-/

namespace CheckedQuery

inductive Schema where
  | string (shape : TextShape)
  | number (shape : NumberShape)
  | boolean
  | null
  | unknown
  | anyObject
  | literal (expected : Value)
  /-- Fields in the order of their declarations. -/
  | fields (declarations : List (String × Option Schema))
  | items (item : Option Schema) (orSingle : Bool)
  | union (options : List Schema)
  | layered (layers : List Schema)
  | andThen (first second : Schema)
  | nullable (inner : Schema)
  | withDefault (inner : Schema) (fallback : Value)
  /-- Branches with their conditions and discriminators. -/
  | conditional (branches : List (String × Option Discriminator × Schema))
      (policy : BranchPolicy) (exhaustive : Bool)
  /-- A validator given from outside. -/
  | given (validator : Validator)

namespace Schema

/-- The schema of a single item, or of as many as the cardinality says. -/
def wrap (cardinality : Cardinality) (item : Schema) : Schema :=
  match cardinality with
  | .one => item
  | .many => .items (some item) false
  | .unknown => .items (some item) true

/-- `andThen` where a missing schema changes nothing. -/
def chain? : Option Schema → Option Schema → Option Schema
  | some first, some second => some (first.andThen second)
  | some only, none => some only
  | none, some only => some only
  | none, none => none

mutual

def validator : Schema → Validator
  | .string shape => shape.validator
  | .number shape => shape.validator
  | .boolean => .boolean
  | .null => .null
  | .unknown => .unknown
  | .anyObject => .anyObject
  | .literal expected => .literal expected
  | .fields declarations => (FieldShape.ofList (fieldValidators declarations)).validator
  | .items none orSingle => ItemShape.validator { item := none, orSingle := orSingle }
  | .items (some item) orSingle =>
      ItemShape.validator { item := some item.validator, orSingle := orSingle }
  | .union options => .union (validators options)
  | .layered layers => .layered (validators layers)
  | .andThen first second => first.validator.andThen second.validator
  | .nullable inner => inner.validator.nullable
  | .withDefault inner fallback => inner.validator.withDefault fallback
  | .conditional branches policy exhaustive =>
      Branch.resolve (branchValidators branches) policy exhaustive
  | .given validator => validator

/-- List counterpart of `validator`. -/
def validators : List Schema → List Validator
  | [] => []
  | schema :: schemas => schema.validator :: validators schemas

/-- Field counterpart of `validator`. -/
def fieldValidators : List (String × Option Schema) → List (String × Option Validator)
  | [] => []
  | (name, none) :: rest => (name, none) :: fieldValidators rest
  | (name, some schema) :: rest => (name, some schema.validator) :: fieldValidators rest

/-- Branch counterpart of `validator`. -/
def branchValidators : List (String × Option Discriminator × Schema) → List Branch
  | [] => []
  | (condition, discriminator, schema) :: rest =>
      { condition := condition
        validator := schema.validator
        discriminator := discriminator } :: branchValidators rest

end

end Schema

end CheckedQuery

import CheckedQuery.Validator

/-!
# Arrays of items

An item shape applies one validator to every item of an array.  A shape that also
takes a single item applies it to whatever is no array.
-/

namespace CheckedQuery

/-- The validator of the items, if they have one, and whether a document that is no
array counts as one item. -/
structure ItemShape where
  item : Option Validator
  orSingle : Bool

namespace ItemShape

/-- Walk the items from `position` on, gathering the output and the issues. -/
def validateEach (item : Validator) (position : Nat) (collector : Collector)
    (output : List Value) : List Value → Collector × List Value
  | [] => (collector, output)
  | value :: values =>
      match item.validate value with
      | .ok result => validateEach item (position + 1) collector (output ++ [result]) values
      | .error report =>
          validateEach item (position + 1) (collector.add (some (.index position)) report)
            output values

def validateItems (shape : ItemShape) (items : List Value) : Outcome :=
  match shape.item with
  | none => .ok (.array items)
  | some item =>
      let (collector, output) := validateEach item 0 .empty [] items
      collector.finish (.array output)

def validateSingle (shape : ItemShape) (value : Value) : Outcome :=
  match shape.item with
  | none => .ok value
  | some item => item.validate value

def validator (shape : ItemShape) : Validator :=
  { validate := fun value =>
      match value with
      | .array items => shape.validateItems items
      | _ => if shape.orSingle then shape.validateSingle value else mismatch "an array" value }

end ItemShape

/-- How many documents a query returns. -/
inductive Cardinality where
  | one
  | many
  | unknown
  deriving DecidableEq

/-- The validator of a result whose items have the validator `item`. -/
def Cardinality.wrap (cardinality : Cardinality) (item : Validator) : Validator :=
  match cardinality with
  | .one => item
  | .many => ItemShape.validator { item := some item, orSingle := false }
  | .unknown => ItemShape.validator { item := some item, orSingle := true }

end CheckedQuery

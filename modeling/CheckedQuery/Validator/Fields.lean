import CheckedQuery.Keyed
import CheckedQuery.Validator

/-!
# Objects with declared fields

A field shape accepts an object if every declared field is accepted by its
validator, where a missing member reads as null.  Its output has the declared
fields and no other.  Layers of validators over the same object merge their
outputs, the later layer winning every key.
-/

namespace CheckedQuery

/-- Fields by name.  A field without validator is copied as it is. -/
structure FieldShape where
  fields : Keyed (Option Validator)

namespace FieldShape

def empty : FieldShape :=
  { fields := .empty }

def field (shape : FieldShape) (name : String) (validator : Validator) : FieldShape :=
  { fields := shape.fields.insert name (some validator) }

def copy (shape : FieldShape) (name : String) : FieldShape :=
  { fields := shape.fields.insert name none }

def ofList (declarations : List (String × Option Validator)) : FieldShape :=
  { fields := .ofList declarations }

def validateField (value : Value) : Option Validator → Outcome
  | none => .ok value
  | some validator => validator.validate value

/-- Walk the fields in order, gathering the output and the issues. -/
def validateEach (members : Members Value) (collector : Collector) (output : Members Value) :
    List (String × Option Validator) → Collector × Members Value
  | [] => (collector, output)
  | (name, validator) :: fields =>
      match validateField ((members.get? name).getD .null) validator with
      | .ok value => validateEach members collector (output.insert name value) fields
      | .error report =>
          validateEach members (collector.add (some (.field name)) report) output fields

def validator (shape : FieldShape) : Validator :=
  { validate := fun value =>
      match value with
      | .object members =>
          let (collector, output) := validateEach members .empty .empty shape.fields.entries
          collector.finish (.object output)
      | _ => mismatch "an object" value }

end FieldShape

namespace Validator

/-- Run every layer on the same object, merging what they make of it. -/
def mergeLayers (value : Value) (collector : Collector) (merged : Members Value) :
    List Validator → Collector × Members Value
  | [] => (collector, merged)
  | layer :: layers =>
      match layer.validate value with
      | .ok (.object members) => mergeLayers value collector (merged.merge members) layers
      | .ok other =>
          mergeLayers value
            (collector.addIssue none other (mismatchMessage "an object" other) "invalid_type")
            merged layers
      | .error report => mergeLayers value (collector.add none report) merged layers

def layered (layers : List Validator) : Validator :=
  { validate := fun value =>
      match value with
      | .object _ =>
          let (collector, merged) := mergeLayers value .empty .empty layers
          collector.finish (.object merged)
      | _ => mismatch "an object" value }

end Validator

end CheckedQuery

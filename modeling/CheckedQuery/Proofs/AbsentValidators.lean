import CheckedQuery.Proofs.Shapes
import CheckedQuery.Query

/-!
# Absent validators

Where a validator may be absent, everything is accepted as it is.  Chains, shapes and queries
each take a short cut there instead of asking `unknown`, and none of the short cuts shows: with
`unknown` in the place of what is absent the outcome is the same.  Read this way a chain is a
composition, and `unknown` is its unit.
-/

namespace CheckedQuery

namespace Validator

/-- A validator, or the one that accepts everything in its place. -/
def orUnknown (validator : Option Validator) : Validator :=
  validator.getD unknown

@[simp] theorem unknown_andThen (validator : Validator) : unknown.andThen validator = validator :=
  rfl

@[simp] theorem andThen_unknown (validator : Validator) :
    validator.andThen unknown = validator := by
  ext value
  simp only [andThen]
  cases validator.validate value <;> rfl

theorem andThen_assoc (first second third : Validator) :
    (first.andThen second).andThen third = first.andThen (second.andThen third) := by
  ext value
  simp only [andThen]
  cases first.validate value <;> rfl

/-- A chain is a composition in which absent validators are units. -/
theorem orUnknown_chain? (first second : Option Validator) :
    orUnknown (chain? first second) = (orUnknown first).andThen (orUnknown second) := by
  cases first <;> cases second <;> simp [orUnknown, chain?]

theorem orUnknown_chain?_assoc (first second third : Option Validator) :
    orUnknown (chain? (chain? first second) third) =
      orUnknown (chain? first (chain? second third)) := by
  simp only [orUnknown_chain?, andThen_assoc]

end Validator

namespace FieldShape

/-- Fields that do the same with every value may be exchanged. -/
theorem validateEach_map {change : String → Option Validator → Option Validator}
    (same : ∀ name validator value,
      validateField value (change name validator) = validateField value validator)
    (members output : Members Value) (collector : Collector)
    (fields : List (String × Option Validator)) :
    validateEach members collector output
        (fields.map fun field => (field.1, change field.1 field.2)) =
      validateEach members collector output fields := by
  induction fields generalizing collector output with
  | nil => rfl
  | cons field fields induction =>
      simp only [List.map_cons, validateEach, same]
      cases validateField ((members.get? field.1).getD .null) field.2 with
      | ok value => exact induction _ _
      | error report => exact induction _ _

/-- The shape with `unknown` for the copied fields of some names. -/
def unknownAt (chosen : String → Bool) (shape : FieldShape) : FieldShape :=
  { fields := shape.fields.map fun name validator =>
      if chosen name then some (.orUnknown validator) else validator }

theorem validateField_orUnknown (validator : Option Validator) (value : Value) :
    validateField value (some (.orUnknown validator)) = validateField value validator := by
  cases validator <;> rfl

theorem validator_unknownAt (chosen : String → Bool) (shape : FieldShape) :
    (shape.unknownAt chosen).validator = shape.validator := by
  have same : ∀ (name : String) (validator : Option Validator) (value : Value),
      validateField value (if chosen name then some (.orUnknown validator) else validator) =
        validateField value validator := by
    intro name validator value
    split
    · exact validateField_orUnknown validator value
    · rfl
  simp only [FieldShape.validator, unknownAt, Keyed.map, validateEach_map same]

end FieldShape

namespace ItemShape

theorem validateItems_unknown (orSingle : Bool) (items : List Value) :
    validateItems { item := some .unknown, orSingle := orSingle } items = .ok (.array items) := by
  have issues : (items.zipIdx.flatMap fun entry => itemIssues .unknown entry) = [] :=
    List.flatMap_eq_nil_iff.mpr fun entry _ => rfl
  have outputs : outputs .unknown items = items := List.filterMap_some
  simp only [validateItems, validateEach_eq, Collector.empty, List.nil_append, outputs]
  exact Collector.finish_eq_ok_iff.mpr ⟨issues, rfl⟩

theorem validator_unknown (orSingle : Bool) :
    ItemShape.validator { item := some .unknown, orSingle := orSingle } =
      ItemShape.validator { item := none, orSingle := orSingle } := by
  ext value
  cases value with
  | array items => exact validateItems_unknown orSingle items
  | null | bool | int | float | string | object => rfl

end ItemShape

namespace Query

def withUnknown (query : Query) : Query :=
  { query with validator := some .unknown }

theorem parse_withUnknown (query : Query) (raw : Value) : query.withUnknown.parse raw = .ok raw :=
  rfl

theorem parse_of_absent {query : Query} (absent : query.validator = none) (raw : Value) :
    query.parse raw =
      if query.validationRequired then .error (.config .validationRequired) else .ok raw := by
  simp only [parse, absent]

end Query

/-- To a document an absent validator is the same as `unknown`, wherever it is absent. -/
structure AbsentIsUnknown (value : Value) : Prop where
  /-- A chain is a composition. -/
  composed : ∀ first second : Option Validator,
    (Validator.orUnknown (Validator.chain? first second)).validate value =
      ((Validator.orUnknown first).andThen (Validator.orUnknown second)).validate value
  /-- It does not matter how a chain is put together. -/
  regrouped : ∀ first second third : Option Validator,
    (Validator.orUnknown (Validator.chain? (Validator.chain? first second) third)).validate
        value =
      (Validator.orUnknown (Validator.chain? first (Validator.chain? second third))).validate
        value
  /-- Copied fields may be given `unknown`, any of them. -/
  copied : ∀ (shape : FieldShape) (chosen : String → Bool),
    (shape.unknownAt chosen).validator.validate value = shape.validator.validate value
  /-- So may items, with single items or without. -/
  items : ∀ orSingle,
    (ItemShape.validator { item := none, orSingle := orSingle }).validate value =
      (ItemShape.validator { item := some .unknown, orSingle := orSingle }).validate value
  /-- A query without validator can be given `unknown`, and then gives the same result exactly
  if it need not have a validator. -/
  parsed : ∀ query : Query, query.validator = none →
    query.chain "" (some .unknown) = .ok query.withUnknown ∧
      (query.withUnknown.parse value = query.parse value ↔ query.validationRequired = false)

theorem absentIsUnknown (value : Value) : AbsentIsUnknown value := by
  constructor
  case composed =>
    intro first second
    rw [Validator.orUnknown_chain?]
  case regrouped =>
    intro first second third
    rw [Validator.orUnknown_chain?_assoc]
  case copied =>
    intro shape chosen
    rw [FieldShape.validator_unknownAt]
  case items =>
    intro orSingle
    rw [ItemShape.validator_unknown]
  case parsed =>
    intro query absent
    constructor
    · simp [Query.chain, Query.chainAs, Query.withUnknown, absent]
    · rw [Query.parse_withUnknown, Query.parse_of_absent absent]
      cases query.validationRequired <;> simp

end CheckedQuery

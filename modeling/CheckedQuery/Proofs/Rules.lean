import CheckedQuery.Proofs.Outcomes
import CheckedQuery.Validator.Number
import CheckedQuery.Validator.Text

/-!
# Broken rules

A text or a number is reported for every rule that it breaks, in the order of the
rules, and always as a whole.
-/

namespace CheckedQuery

def TextRule.issue (text : String) (rule : TextRule) : Issue :=
  .atRoot (.string text) (rule.message.getD (rule.test.message text)) rule.test.code

namespace TextShape

/-- The issues of a text, one for each rule that it breaks. -/
def issues (shape : TextShape) (text : String) : List Issue :=
  (shape.rules.filter fun rule => rule.test.isBroken text).map (TextRule.issue text)

/-- The issue of a document that is no text. -/
def kindIssue (shape : TextShape) (value : Value) : Issue :=
  .atRoot value (shape.kindMessage.getD (mismatchMessage "string" value)) "invalid_type"

theorem check_eq (text : String) (collector : Collector) (rules : List TextRule) :
    check (.string text) text collector rules =
      { issues := collector.issues ++
          (rules.filter fun rule => rule.test.isBroken text).map (TextRule.issue text) } := by
  induction rules generalizing collector with
  | nil => simp [check]
  | cons rule rules induction =>
      by_cases broken : rule.test.isBroken text = true
      · simp [check, broken, induction, TextRule.issue]
      · simp [check, broken, induction]

theorem validate_string (shape : TextShape) (text : String) :
    shape.validator.validate (.string text) =
      Collector.finish { issues := shape.issues text } (.string text) := by
  simp only [validator, check_eq, Collector.empty, List.nil_append, issues]

theorem validate_other (shape : TextShape) {value : Value} (other : value.asString? = none) :
    shape.validator.validate value = .error (.single (shape.kindIssue value)) := by
  obtain ⟨rules, kindMessage⟩ := shape
  cases value <;> first | (cases kindMessage <;> rfl) | cases other

end TextShape

def NumberRule.issue (value : Value) (rule : NumberRule) : Issue :=
  .atRoot value (rule.message.getD rule.test.message) rule.test.code

namespace NumberShape

/-- The issues of a number, one for each rule that it breaks. -/
def issues (shape : NumberShape) (value : Value) (number : Float) : List Issue :=
  (shape.rules.filter fun rule => rule.test.isBroken number).map (NumberRule.issue value)

theorem check_eq (value : Value) (number : Float) (collector : Collector)
    (rules : List NumberRule) :
    check value number collector rules =
      { issues := collector.issues ++
          (rules.filter fun rule => rule.test.isBroken number).map (NumberRule.issue value) } := by
  induction rules generalizing collector with
  | nil => simp [check]
  | cons rule rules induction =>
      by_cases broken : rule.test.isBroken number = true
      · simp [check, broken, induction, NumberRule.issue]
      · simp [check, broken, induction]

theorem validate_number (shape : NumberShape) {value : Value} {number : Float}
    (read : value.asFloat? = some number) :
    shape.validator.validate value =
      Collector.finish { issues := shape.issues value number } value := by
  simp only [validator, read, check_eq, Collector.empty, List.nil_append, issues]

theorem validate_other (shape : NumberShape) {value : Value} (other : value.asFloat? = none) :
    shape.validator.validate value = mismatch "number" value := by
  simp only [validator, other]

end NumberShape

end CheckedQuery

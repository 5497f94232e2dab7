import CheckedQuery.Number.Layout
import CheckedQuery.Validator

/-!
# Numbers within bounds

A number shape accepts a number of either kind that breaks none of its rules, and
otherwise reports every rule that is broken, in the order in which the rules were
given.
-/

namespace CheckedQuery

inductive NumberTest where
  | atLeast (bound : Float)
  | atMost (bound : Float)
  | whole
  | positive

namespace NumberTest

def isBroken (number : Float) : NumberTest → Bool
  | .atLeast bound => number < bound
  | .atMost bound => bound < number
  | .whole => number.floor != number
  | .positive => number ≤ 0

def code : NumberTest → String
  | .atLeast _ => "min_value"
  | .atMost _ => "max_value"
  | .whole => "not_integer"
  | .positive => "not_positive"

def message : NumberTest → String
  | .atLeast bound =>
      "Number must be greater than or equal to " ++ String.ofList (Layout.message.text bound)
  | .atMost bound =>
      "Number must be less than or equal to " ++ String.ofList (Layout.message.text bound)
  | .whole => "Expected integer, received float"
  | .positive => "Number must be greater than 0"

end NumberTest

/-- A test, and the message that takes the place of its own. -/
structure NumberRule where
  test : NumberTest
  message : Option String

structure NumberShape where
  rules : List NumberRule

namespace NumberShape

def any : NumberShape :=
  { rules := [] }

def require (shape : NumberShape) (test : NumberTest) : NumberShape :=
  { rules := shape.rules ++ [{ test := test, message := none }] }

def explainLast (message : String) : List NumberRule → List NumberRule
  | [] => []
  | [rule] => [{ rule with message := some message }]
  | rule :: rules => rule :: explainLast message rules

/-- Give the last rule a message of its own.  Without rules nothing changes. -/
def explain (shape : NumberShape) (message : String) : NumberShape :=
  { rules := explainLast message shape.rules }

def check (value : Value) (number : Float) (collector : Collector) :
    List NumberRule → Collector
  | [] => collector
  | rule :: rules =>
      if rule.test.isBroken number then
        check value number
          (collector.addIssue none value (rule.message.getD rule.test.message) rule.test.code) rules
      else check value number collector rules

def validator (shape : NumberShape) : Validator :=
  { validate := fun value =>
      match value.asFloat? with
      | none => mismatch "number" value
      | some number => (check value number .empty shape.rules).finish value }

end NumberShape

end CheckedQuery

import CheckedQuery.ConfigError
import CheckedQuery.Pattern
import CheckedQuery.Validator

/-!
# Texts within bounds

A text shape accepts a text that breaks none of its rules, and otherwise reports
every rule that is broken, in the order in which the rules were given.
-/

namespace CheckedQuery

/-- What a text can be required to be.  Lengths count characters. -/
inductive TextTest where
  | minLength (least : Nat)
  | maxLength (most : Nat)
  | accepted (source : String) (accepts : String → Bool)

namespace TextTest

def isBroken (text : String) : TextTest → Bool
  | .minLength least => text.length < least
  | .maxLength most => most < text.length
  | .accepted _ accepts => !accepts text

def code : TextTest → String
  | .minLength _ => "min_length"
  | .maxLength _ => "max_length"
  | .accepted _ _ => "pattern"

def message (text : String) : TextTest → String
  | .minLength least =>
      "String must contain at least " ++ toString least ++ " character(s), got " ++
        toString text.length
  | .maxLength most =>
      "String must contain at most " ++ toString most ++ " character(s), got " ++
        toString text.length
  | .accepted source _ => "String must match pattern '" ++ source ++ "'"

end TextTest

/-- A test, and the message that takes the place of its own. -/
structure TextRule where
  test : TextTest
  message : Option String

/-- The rules for a text, in the order in which they were given, and the message
for a document that is no text. -/
structure TextShape where
  rules : List TextRule
  kindMessage : Option String

namespace TextShape

def any : TextShape :=
  { rules := []
    kindMessage := none }

def require (shape : TextShape) (test : TextTest) : TextShape :=
  { shape with rules := shape.rules ++ [{ test := test, message := none }] }

/-- Require a match of a pattern somewhere in the text. -/
def pattern (shape : TextShape) (source : String) : Except ConfigError TextShape :=
  match Pattern.ofText source with
  | .ok pattern => .ok (shape.require (.accepted source pattern.isMatch))
  | .error fault => .error (.invalidPattern source fault.message)

def explainLast (message : String) : List TextRule → List TextRule
  | [] => []
  | [rule] => [{ rule with message := some message }]
  | rule :: rules => rule :: explainLast message rules

/-- Give the last rule a message of its own, or the kind if there is no rule. -/
def explain (shape : TextShape) (message : String) : TextShape :=
  if shape.rules.isEmpty then { shape with kindMessage := some message }
  else { shape with rules := explainLast message shape.rules }

def check (value : Value) (text : String) (collector : Collector) :
    List TextRule → Collector
  | [] => collector
  | rule :: rules =>
      if rule.test.isBroken text then
        check value text
          (collector.addIssue none value
            (rule.message.getD (rule.test.message text)) rule.test.code) rules
      else check value text collector rules

def validator (shape : TextShape) : Validator :=
  { validate := fun value =>
      match value with
      | .string text => (check value text .empty shape.rules).finish value
      | _ =>
          match shape.kindMessage with
          | some message => reject value message "invalid_type"
          | none => mismatch "string" value }

end TextShape

end CheckedQuery

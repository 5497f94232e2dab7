import CheckedQuery.Json.Reader
import CheckedQuery.Text.Blank
import CheckedQuery.Text.Identifier

/-!
# Discriminators

Two kinds of condition can be decided from a document alone: that a field is
defined, and that a field equals a literal.  Every other condition is left to the
store that evaluated it.
-/

namespace CheckedQuery

inductive FieldTest where
  | defined
  | equals (literal : Value)

/-- A condition on one field.  `carried` says that the documents at hand would
carry the field if the store had it, so that its absence fails the test. -/
structure Discriminator where
  field : String
  test : FieldTest
  carried : Bool

namespace Discriminator

/-- What follows `token` in a text that starts with it. -/
def after? : (token text : List Char) → Option (List Char)
  | [], text => some text
  | _ :: _, [] => none
  | expected :: token, c :: text => if expected = c then after? token text else none

/-- The field of a condition `defined(field)`, with blanks around the tokens.  This is what
the first group of `^\s*defined\(\s*([A-Za-z_$][A-Za-z0-9_$]*)\s*\)\s*$` captures. -/
def definedField? (condition : List Char) : Option (List Char) :=
  match after? "defined(".toList (Text.skipBlanks condition) with
  | none => none
  | some rest =>
      match Text.splitIdentifier? (Text.skipBlanks rest) with
      | none => none
      | some (field, rest) =>
          match Text.skipBlanks rest with
          | ')' :: rest => if (Text.skipBlanks rest).isEmpty then some field else none
          | _ => none

/-- The field and the stripped right side of a condition `field == literal`.  These are what
the two groups of `^\s*([A-Za-z_$][A-Za-z0-9_$]*)\s*==\s*(.+?)\s*$` capture, where a dot
stands for everything but a line break. -/
def equation? (condition : List Char) : Option (List Char × List Char) :=
  match Text.splitIdentifier? (Text.skipBlanks condition) with
  | none => none
  | some (field, rest) =>
      match Text.skipBlanks rest with
      | '=' :: '=' :: rest =>
          let literal := Text.strip rest
          if literal.isEmpty || literal.contains '\n' then none else some (field, literal)
      | _ => none

/-- The discriminator that a condition spells out, if it does. -/
def ofCondition? (condition : String) : Option Discriminator :=
  match definedField? condition.toList with
  | some field => some { field := String.ofList field, test := .defined, carried := false }
  | none =>
      match equation? condition.toList with
      | none => none
      | some (field, literal) =>
          match Value.read? literal with
          | none => none
          | some literal =>
              some { field := String.ofList field, test := .equals literal, carried := false }

/-- Whether the condition holds of a document; `none` if the document cannot
tell. -/
def holds? (discriminator : Discriminator) (value : Value) : Option Bool :=
  match value.member? discriminator.field with
  | some found =>
      match discriminator.test with
      | .equals literal => some (found.same literal)
      | .defined => some !found.isNull
  | none => if discriminator.carried then some false else none

end Discriminator

end CheckedQuery

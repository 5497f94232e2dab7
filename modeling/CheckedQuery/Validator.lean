import CheckedQuery.Json.Printer
import CheckedQuery.Report

/-!
# Validators

A validator takes a document and makes another one of it, or reports everything
it finds wrong.  Here are the validators that look at a document as a whole and
the ways to join validators; the ones with fields, items or bounds have modules
of their own.
-/

namespace CheckedQuery

structure Validator where
  validate : Value → Outcome

instance : ToString Validator :=
  ⟨fun _ => "Validator(..)"⟩

def reject (value : Value) (message code : String) : Outcome :=
  .error (.single (.atRoot value message code))

def mismatchMessage (expected : String) (value : Value) : String :=
  "Expected " ++ expected ++ ", received " ++ value.typeName

def mismatch (expected : String) (value : Value) : Outcome :=
  reject value (mismatchMessage expected value) "invalid_type"

namespace Validator

/-- A validator whose failures are one message about the whole document. -/
def ofExcept (check : Value → Except String Value) : Validator :=
  { validate := fun value =>
      match check value with
      | .ok output => .ok output
      | .error message => reject value message "custom" }

def boolean : Validator :=
  { validate := fun value =>
      match value with
      | .bool _ => .ok value
      | _ => mismatch "boolean" value }

def null : Validator :=
  { validate := fun value =>
      match value with
      | .null => .ok .null
      | _ => mismatch "null" value }

def unknown : Validator :=
  { validate := fun value => .ok value }

def anyObject : Validator :=
  { validate := fun value =>
      match value with
      | .object _ => .ok value
      | _ => mismatch "an object" value }

def literal (expected : Value) : Validator :=
  { validate := fun value =>
      if value.same expected then .ok value
      else
        reject value
          ("Expected literal " ++ expected.print ++ ", received " ++ value.print)
          "invalid_literal" }

def nullable (inner : Validator) : Validator :=
  { validate := fun value =>
      match value with
      | .null => .ok .null
      | _ => inner.validate value }

/-- Puts a fixed document in the place of null. -/
def withDefault (inner : Validator) (fallback : Value) : Validator :=
  { validate := fun value =>
      match value with
      | .null => .ok fallback
      | _ => inner.validate value }

/-- Feeds what the first validator makes to the second. -/
def andThen (first second : Validator) : Validator :=
  { validate := fun value =>
      match first.validate value with
      | .ok output => second.validate output
      | .error report => .error report }

/-- `andThen` where a missing validator changes nothing. -/
def chain? : Option Validator → Option Validator → Option Validator
  | some first, some second => some (first.andThen second)
  | some only, none => some only
  | none, some only => some only
  | none, none => none

/-- The first success among the options, or the issues of all of them. -/
def firstSuccess (value : Value) : Collector → List Validator → Except Collector Value
  | collector, [] => .error collector
  | collector, option :: options =>
      match option.validate value with
      | .ok output => .ok output
      | .error report => firstSuccess value (collector.add none report) options

/-- Accepts what one of the options accepts; the first that does decides. -/
def union (options : List Validator) : Validator :=
  { validate := fun value =>
      match firstSuccess value .empty options with
      | .ok output => .ok output
      | .error collector =>
          (collector.addIssue none value
            ("value did not match any of " ++ toString options.length ++ " options")
            "union_none_matched").finish .null }

end Validator

end CheckedQuery

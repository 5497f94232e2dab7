import CheckedQuery.Proofs.Rules
import Mathlib.Data.List.Induction

/-!
# Text shapes by their calls

A text shape is built by calls that require something or say what to report.  What a message is
for depends on the calls before it: it belongs to the last requirement, or to the kind of the
document as long as nothing is required.  Read from the calls alone, every requirement has the
last message that was given before the next one, and so has the kind.  Each call keeps the shape
and this reading together, so they agree on every row of calls.
-/

namespace CheckedQuery

/-- A text fails a test.  Its length is the number of its characters. -/
def TextTest.Breaks (text : String) : TextTest → Prop
  | .minLength least => text.toList.length < least
  | .maxLength most => most < text.toList.length
  | .accepted _ accepts => accepts text = false

theorem TextTest.isBroken_eq_true_iff {test : TextTest} {text : String} :
    test.isBroken text = true ↔ test.Breaks text := by
  cases test <;> simp [isBroken, Breaks, String.length_toList]

instance (test : TextTest) (text : String) : Decidable (test.Breaks text) :=
  decidable_of_iff _ TextTest.isBroken_eq_true_iff

namespace TextShape

/-- A call that builds a text shape further.  A pattern is required like any other test, with
some set of texts that it accepts. -/
inductive Call where
  | require (test : TextTest)
  | explain (message : String)

def perform (shape : TextShape) : Call → TextShape
  | .require test => shape.require test
  | .explain message => shape.explain message

def build (calls : List Call) : TextShape :=
  calls.foldl perform any

theorem build_append_singleton (calls : List Call) (call : Call) :
    build (calls ++ [call]) = (build calls).perform call := by
  simp only [build, List.foldl_append, List.foldl_cons, List.foldl_nil]

/-- The messages that are given before the first requirement. -/
def leadingMessages : List Call → List String
  | .explain message :: calls => message :: leadingMessages calls
  | _ => []

/-- Every requirement, with the last message that is given between it and the next one. -/
def requirements : List Call → List TextRule
  | [] => []
  | .explain _ :: calls => requirements calls
  | .require test :: calls =>
      { test := test, message := (leadingMessages calls).getLast? } :: requirements calls

theorem leadingMessages_append_require (calls : List Call) (test : TextTest) :
    leadingMessages (calls ++ [.require test]) = leadingMessages calls := by
  induction calls with
  | nil => rfl
  | cons call calls induction =>
      cases call with
      | require other => rfl
      | explain message => exact congrArg (message :: ·) induction

theorem leadingMessages_append_explain (calls : List Call) (message : String) :
    leadingMessages (calls ++ [.explain message]) =
      if requirements calls = [] then leadingMessages calls ++ [message]
      else leadingMessages calls := by
  induction calls with
  | nil => rfl
  | cons call calls induction =>
      cases call with
      | require test => simp [leadingMessages, requirements]
      | explain earlier =>
          simp only [List.cons_append, leadingMessages, requirements, induction]
          by_cases none : requirements calls = [] <;> simp [none]

theorem requirements_append_require (calls : List Call) (test : TextTest) :
    requirements (calls ++ [.require test]) =
      requirements calls ++ [{ test := test, message := none }] := by
  induction calls with
  | nil => rfl
  | cons call calls induction =>
      cases call with
      | require other =>
          simp only [List.cons_append, requirements, leadingMessages_append_require, induction]
      | explain message => exact induction

/-- A message that comes last is for the last requirement. -/
theorem requirements_append_explain (calls : List Call) (message : String) :
    requirements (calls ++ [.explain message]) = explainLast message (requirements calls) := by
  induction calls with
  | nil => rfl
  | cons call calls induction =>
      cases call with
      | explain earlier => exact induction
      | require test =>
          simp only [List.cons_append, requirements, leadingMessages_append_explain, induction]
          cases requirements calls with
          | nil => simp [explainLast]
          | cons rule rules => simp [explainLast]

/-- The shape that calls describe, read from them alone. -/
def described (calls : List Call) : TextShape :=
  { rules := requirements calls
    kindMessage := (leadingMessages calls).getLast? }

theorem perform_described (calls : List Call) (call : Call) :
    (described calls).perform call = described (calls ++ [call]) := by
  cases call with
  | require test =>
      simp only [perform, require, described, requirements_append_require,
        leadingMessages_append_require]
  | explain message =>
      simp only [perform, explain, described, requirements_append_explain,
        leadingMessages_append_explain]
      by_cases none : requirements calls = []
      · simp [none, explainLast]
      · simp [none]

theorem build_eq_described (calls : List Call) : build calls = described calls := by
  induction calls using List.reverseRecOn with
  | nil => rfl
  | append_singleton calls call induction =>
      rw [build_append_singleton, induction, perform_described]

/-- A pattern that can be read is a requirement like any other. -/
theorem exists_accepted_of_pattern {shape built : TextShape} {source : String}
    (success : shape.pattern source = .ok built) :
    ∃ accepts, built = shape.perform (.require (.accepted source accepts)) := by
  simp only [pattern] at success
  split at success
  · next pattern _ => exact ⟨pattern.isMatch, (Except.ok.inj success).symm⟩
  · cases success

/-- The issues of a text: one for every requirement that it breaks, in the order of the calls,
with the message given for it or else the one that the test has of its own. -/
def violations (calls : List Call) (text : String) : List Issue :=
  ((requirements calls).filter fun rule => rule.test.Breaks text).map (TextRule.issue text)

theorem issues_build (calls : List Call) (text : String) :
    (build calls).issues text = violations calls text := by
  rw [build_eq_described, issues, violations]
  congr 2
  funext rule
  exact Bool.eq_iff_iff.mpr (TextTest.isBroken_eq_true_iff.trans decide_eq_true_iff.symm)

/-- A shape says of every document what calls ask for. -/
structure Follows (calls : List Call) (shape : TextShape) : Prop where
  /-- Of a text it reports the violations. -/
  reported : ∀ text, (shape.validator.validate (.string text)).issues = violations calls text
  /-- A text without violations is returned as it is, and no other. -/
  accepted : ∀ text, shape.validator.validate (.string text) = .ok (.string text) ↔
    violations calls text = []
  /-- Of any other document it reports the kind, with the last message before all requirements
  or else with the kinds expected and found. -/
  otherKind : ∀ value, value.asString? = none →
    shape.validator.validate value =
      .error (.single (.atRoot value
        ((leadingMessages calls).getLast?.getD (mismatchMessage "string" value))
        "invalid_type"))
  /-- A pattern that can be read continues the calls with a requirement. -/
  continued : ∀ source built, shape.pattern source = .ok built →
    ∃ accepts, built = build (calls ++ [.require (.accepted source accepts)])

/-- A shape follows the calls that built it, in whatever order requirements and messages came
and however often. -/
theorem follows_build (calls : List Call) : Follows calls (build calls) := by
  constructor
  case reported =>
    intro text
    rw [validate_string, Collector.issues_finish, issues_build]
  case accepted =>
    intro text
    rw [validate_string, Collector.finish_eq_ok_iff, issues_build]
    simp only [and_true]
  case otherKind =>
    intro value other
    rw [validate_other _ other, build_eq_described]
    rfl
  case continued =>
    intro source built success
    obtain ⟨accepts, rfl⟩ := exists_accepted_of_pattern success
    exact ⟨accepts, (build_append_singleton calls _).symm⟩

/-- The first message is for the kind, the next two are for the least length, and the later of
them counts. -/
def explainedCalls : List Call :=
  [.explain "no text", .require (.minLength 3), .explain "short", .explain "too short",
    .require (.maxLength 1)]

def plainCalls : List Call :=
  [.require (.minLength 3), .require (.maxLength 1),
    .require (.accepted "^[a-z]$" fun text => text = "a")]

theorem follows_build_lengths :
    ((build explainedCalls).validator.validate (.string "ab")).issues =
      [{ path := .root
         value := .string "ab"
         message := "too short"
         code := "min_length" },
       { path := .root
         value := .string "ab"
         message := "String must contain at most 1 character(s), got 2"
         code := "max_length" }] ∧
    (build explainedCalls).validator.validate .null =
      .error (.single
        { path := .root
          value := .null
          message := "no text"
          code := "invalid_type" }) ∧
    ((build plainCalls).validator.validate (.string "ab")).issues =
      [{ path := .root
         value := .string "ab"
         message := "String must contain at least 3 character(s), got 2"
         code := "min_length" },
       { path := .root
         value := .string "ab"
         message := "String must contain at most 1 character(s), got 2"
         code := "max_length" },
       { path := .root
         value := .string "ab"
         message := "String must match pattern '^[a-z]$'"
         code := "pattern" }] ∧
    (build plainCalls).validator.validate .null =
      .error (.single
        { path := .root
          value := .null
          message := "Expected string, received null"
          code := "invalid_type" }) := by
  refine ⟨?_, ?_, ?_, ?_⟩
  · exact (follows_build explainedCalls).reported "ab"
  · exact (follows_build explainedCalls).otherKind .null rfl
  · exact (follows_build plainCalls).reported "ab"
  · exact (follows_build plainCalls).otherKind .null rfl

end TextShape

end CheckedQuery

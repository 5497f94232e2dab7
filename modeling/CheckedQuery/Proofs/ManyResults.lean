import CheckedQuery.Proofs.Compilation
import CheckedQuery.Proofs.FinalValidator
import CheckedQuery.Proofs.Selection
import Mathlib.Data.List.Induction

/-!
# Queries for many results

A validator is attached for the cardinality that the query has at that moment.  Later
only a star changes the cardinality, and it leaves the validator as it is.  So a query
for many results refuses a single one, unless a star came after the validator.
-/

namespace CheckedQuery

/-- Whether the caller settles the validator or the cardinality of the result. -/
def Operation.settlesResult : Operation → Bool
  | .withCardinality _ | .chain _ _ | .raw _ _ => true
  | _ => false

namespace Query

/-- Whatever is no array is refused with one issue at the root. -/
def RefusesSingles (query : Query) : Prop :=
  ∀ raw : Value, raw.asItems? = none →
    query.parse raw = .error (.data (.single
      { path := .root
        value := raw
        message := "Expected an array, received " ++ raw.typeName
        code := "invalid_type" }))

/-- With a validator, a query for many results refuses a single one. -/
def InStep (query : Query) : Prop :=
  query.validator ≠ none → query.cardinality = .many → query.RefusesSingles

/-- A star comes after a validator that was not attached for many results, and what it is
put behind is grown till the end. -/
structure StarredLate (query : Query) (before after operations : List Operation) : Prop where
  operations : operations = before ++ .star :: after
  grow : ∀ operation ∈ after, operation.startsAnew = false
  validated : (query.attemptAll before).validator ≠ none
  cardinality : (query.attemptAll before).cardinality ≠ .many

variable {query next : Query} {operation : Operation} {before after operations : List Operation}

theorem inStep_of_unvalidated (unvalidated : query.validator = none) : query.InStep := by
  intro validated
  exact absurd unvalidated validated

theorem inStep_of_single (single : query.cardinality = .one) : query.InStep := by
  intro _ many
  rw [single] at many
  cases many

/-- A validator of single results that is attached for the cardinality of the query. -/
theorem inStep_of_wrapped {text : String} {item : Option Validator} {cardinality : Cardinality}
    (chained : query.chainAs text (item.map cardinality.wrap) cardinality = .ok next) :
    next.InStep := by
  cases eq_of_chainAs chained
  cases item with
  | none => exact inStep_of_unvalidated rfl
  | some item =>
      intro _ many raw single
      cases many
      rw [parse_of_validator rfl, Cardinality.wrap, ItemShape.validate_other _ single]
      rfl

/-- Without a validator at hand, an operation attaches none or one that fits the
cardinality. -/
theorem inStep_of_apply (unvalidated : query.validator = none)
    (derives : operation.settlesResult = false) (applied : operation.apply query = .ok next) :
    next.InStep := by
  cases operation with
  | star | filter | filterByType | order | passthrough | extend | withKnownFields =>
      cases applied
      exact inStep_of_unvalidated unvalidated
  | subquery =>
      cases applied
      exact inStep_of_unvalidated rfl
  | slice | sliceOne | dereference =>
      cases eq_of_chainAs applied
      exact inStep_of_unvalidated rfl
  | field path supplied => exact inStep_of_wrapped applied
  | project projection =>
      obtain ⟨compiled, -, chained⟩ := bind_eq_ok_iff.mp applied
      exact inStep_of_wrapped chained
  | select arms fallback =>
      obtain ⟨covered, -, chained⟩ := bind_eq_ok_iff.mp applied
      cases eq_of_chainAs chained
      exact inStep_of_single rfl
  | count =>
      rw [Operation.apply, count, unvalidated] at applied
      cases applied
      exact inStep_of_single rfl
  | chain | raw | withCardinality => cases derives

theorem inStep_of_startsAnew (anew : operation.startsAnew = true) :
    (query.attempt operation).InStep := by
  cases operation with
  | subquery => exact inStep_of_unvalidated rfl
  | _ => cases anew

/-- Only a star changes the cardinality of a query with a validator. -/
theorem cardinality_attempt {validator : Validator} (attached : query.validator = some validator)
    (derives : operation.settlesResult = false) (grows : operation.startsAnew = false)
    (noStar : operation ≠ .star) : (query.attempt operation).cardinality = query.cardinality := by
  unfold attempt
  by_cases replaces : operation.replacesShape = true
  · obtain ⟨error, refused⟩ := operation.apply_of_replacesShape attached replaces
    rw [refused]
  · cases operation with
    | filter | filterByType | order | passthrough | extend | withKnownFields => rfl
    | star => exact absurd rfl noStar
    | subquery => cases grows
    | withCardinality => cases derives
    | slice | sliceOne | dereference | field | raw | chain | project | select | count =>
        exact absurd rfl replaces

/-- One operation keeps a query in step, unless it is a star on a validator that was not
attached for many results. -/
theorem inStep_attempt (inStep : query.InStep) (derives : operation.settlesResult = false)
    (onTime : operation = .star → query.validator ≠ none → query.cardinality = .many) :
    (query.attempt operation).InStep := by
  cases attached : query.validator with
  | none =>
      unfold attempt
      cases applied : operation.apply query with
      | error error => exact inStep
      | ok next => exact inStep_of_apply attached derives applied
  | some validator =>
      have validated : query.validator ≠ none := by
        rw [attached]
        exact Option.some_ne_none validator
      cases grows : operation.startsAnew with
      | true => exact inStep_of_startsAnew grows
      | false =>
          intro _ many raw single
          have wasMany : query.cardinality = .many := by
            by_cases isStar : operation = .star
            · exact onTime isStar validated
            · rw [← cardinality_attempt attached derives grows isStar]
              exact many
          rw [(continues_attempt attached grows).parse_eq]
          exact inStep validated wasMany raw single

theorem attemptAll_append (query : Query) (operations : List Operation) (operation : Operation) :
    query.attemptAll (operations ++ [operation]) =
      (query.attemptAll operations).attempt operation := by
  simp [attemptAll]

/-- A late star and all that follows it add text to the query. -/
theorem StarredLate.continues (late : query.StarredLate before after operations) :
    (query.attemptAll before).Continues (query.attemptAll operations) := by
  have reached : query.attemptAll operations =
      (query.attemptAll before).attemptAll (.star :: after) := by
    rw [late.operations, attemptAll, List.foldl_append]
    rfl
  obtain ⟨validator, attached⟩ := Option.ne_none_iff_exists'.mp late.validated
  rw [reached]
  apply continues_attemptAll attached
  intro operation membership
  rcases List.mem_cons.mp membership with rfl | later
  · rfl
  · exact late.grow operation later

/-- A run leaves a query in step, or a star came late. -/
theorem inStep_or_starredLate (inStep : query.InStep)
    (derive : ∀ operation ∈ operations, operation.settlesResult = false) :
    (query.attemptAll operations).InStep ∨
      ∃ before after, query.StarredLate before after operations := by
  -- The induction goes from the end, since a late star is undone by a new start.
  induction operations using List.reverseRecOn with
  | nil => exact .inl inStep
  | append_singleton operations operation induction =>
      have derives := derive operation (by simp)
      rw [attemptAll_append]
      rcases induction fun other membership => derive other (by simp [membership]) with
        reached | ⟨before, after, late⟩
      · by_cases onTime : operation = .star → (query.attemptAll operations).validator ≠ none →
            (query.attemptAll operations).cardinality = .many
        · exact .inl (inStep_attempt reached derives onTime)
        · simp only [Classical.not_imp] at onTime
          obtain ⟨rfl, validated, single⟩ := onTime
          exact .inr ⟨operations, [],
            { operations := rfl
              grow := by simp
              validated := validated
              cardinality := single }⟩
      · cases grows : operation.startsAnew with
        | true => exact .inl (inStep_of_startsAnew grows)
        | false =>
            refine .inr ⟨before, after ++ [operation], { late with operations := ?_, grow := ?_ }⟩
            · rw [late.operations]
              simp
            · intro other membership
              rcases List.mem_append.mp membership with earlier | last
              · exact late.grow other earlier
              · rw [List.mem_singleton.mp last]
                exact grows

/-- Among operations that leave validator and cardinality to the query, a query for many
results that has a validator refuses a single one, unless a star came late.  After such a
star it still validates as the query did for which the validator was attached. -/
theorem parse_of_many (required : Bool) {validator : Validator}
    (derive : ∀ operation ∈ operations, operation.settlesResult = false)
    (validated : ((start required).attemptAll operations).validator = some validator)
    (many : ((start required).attemptAll operations).cardinality = .many) :
    ((∀ before after, ¬(start required).StarredLate before after operations) →
      ((start required).attemptAll operations).RefusesSingles) ∧
    ∀ before after, (start required).StarredLate before after operations →
      ((start required).attemptAll before).validator = some validator ∧
      ∀ raw, ((start required).attemptAll operations).parse raw =
        ((start required).attemptAll before).parse raw := by
  constructor
  · intro onTime
    have started : (start required).InStep := inStep_of_unvalidated rfl
    rcases inStep_or_starredLate started derive with reached | ⟨before, after, late⟩
    · exact reached (by rw [validated]; exact Option.some_ne_none validator) many
    · exact absurd late (onTime before after)
  · intro before after late
    have continues := late.continues
    rw [← continues.validator]
    exact ⟨validated, continues.parse_eq⟩

/-- The star comes first, and the tags are validated for many results. -/
def taggedScript : List Operation :=
  [.star, .filter "defined(tags)", .field "tags" (some .boolean), .extend " // all"]

/-- The star comes after the validator of a single title. -/
def starredTitle : List Operation :=
  [.field "title" (some TextShape.any.validator), .star]

theorem parse_of_many_tagged :
    ((start true).attemptAll taggedScript).RefusesSingles ∧
    ∀ raw, ((start true).attemptAll starredTitle).parse raw =
      ((start true).attemptAll [.field "title" (some TextShape.any.validator)]).parse raw := by
  have deriveTagged : ∀ operation ∈ taggedScript, operation.settlesResult = false := by
    simp [taggedScript, Operation.settlesResult]
  have deriveStarred : ∀ operation ∈ starredTitle, operation.settlesResult = false := by
    simp [starredTitle, Operation.settlesResult]
  constructor
  · apply (parse_of_many true deriveTagged rfl rfl).1
    intro before after late
    cases before with
    | nil => exact late.validated rfl
    | cons first before =>
        have starAgain : taggedScript.tail = before ++ .star :: after :=
          congrArg List.tail late.operations
        have membership : Operation.star ∈ before ++ .star :: after := by simp
        rw [← starAgain] at membership
        simp [taggedScript] at membership
  · have late : (start true).StarredLate [.field "title" (some TextShape.any.validator)] []
        starredTitle :=
      { operations := rfl
        grow := by simp
        validated := Option.some_ne_none _
        cardinality := by decide }
    exact ((parse_of_many true deriveStarred rfl rfl).2 _ _ late).2

/-- The star has made the results many, and a single title is still accepted. -/
theorem single_accepted_after_star :
    (∀ operation ∈ starredTitle, operation.settlesResult = false) ∧
    ((start false).attemptAll starredTitle).cardinality = .many ∧
    ((start false).attemptAll starredTitle).parse (.string "x") = .ok (.string "x") ∧
    ¬((start false).attemptAll starredTitle).InStep := by
  refine ⟨by simp [starredTitle, Operation.settlesResult], rfl, rfl, ?_⟩
  intro inStep
  have refused := inStep (Option.some_ne_none _) rfl (.string "x") rfl
  cases refused

end Query

end CheckedQuery

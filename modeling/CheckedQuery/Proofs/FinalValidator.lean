import CheckedQuery.Query.Operation

/-!
# The validator of a query is final

Once a query carries a validator, no operation replaces it.  An operation that gives
the result a new shape is refused, and what the others make of the query is the same
query with more text behind it.
-/

namespace CheckedQuery

namespace Operation

/-- Whether the operation starts another query instead of growing the one at hand. -/
def startsAnew : Operation → Bool
  | .subquery => true
  | _ => false

/-- Whether the operation gives the result a new shape. -/
def replacesShape : Operation → Bool
  | .chain _ _ | .raw _ _ | .slice _ _ | .sliceOne _ | .dereference | .field _ _
  | .project _ | .select _ _ | .count => true
  | _ => false

/-- Whether the operation leaves the shape of the result alone. -/
def keepsShape : Operation → Bool
  | .extend _ | .passthrough _ | .star | .filter _ | .filterByType _ | .order _
  | .withKnownFields _ | .withCardinality _ => true
  | _ => false

end Operation

namespace Query

/-- What becomes of a query; an operation that fails leaves it as it was. -/
def attempt (query : Query) (operation : Operation) : Query :=
  match operation.apply query with
  | .ok next => next
  | .error _ => query

/-- Attempt one operation after another. -/
def attemptAll (query : Query) (operations : List Operation) : Query :=
  operations.foldl attempt query

/-- `last` is `first` with more text behind it, and maybe another cardinality or other
known fields. -/
structure Continues (first last : Query) : Prop where
  validator : last.validator = first.validator
  requirement : last.validationRequired = first.validationRequired
  text : ∃ more, last.text = first.text ++ more

namespace Continues

variable {first middle last : Query}

theorem refl (query : Query) : query.Continues query :=
  { validator := rfl
    requirement := rfl
    text := ⟨"", by simp⟩ }

theorem trans (earlier : first.Continues middle) (later : middle.Continues last) :
    first.Continues last := by
  obtain ⟨more, grown⟩ := earlier.text
  obtain ⟨further, grownFurther⟩ := later.text
  exact
    { validator := later.validator.trans earlier.validator
      requirement := later.requirement.trans earlier.requirement
      text := ⟨more ++ further, by rw [grownFurther, grown, String.append_assoc]⟩ }

/-- Results are validated by the validator and the requirement alone. -/
theorem parse_eq (continues : first.Continues last) (raw : Value) :
    last.parse raw = first.parse raw := by
  rw [parse, parse, continues.validator, continues.requirement]

end Continues

theorem continues_extend (query : Query) (text : String) :
    query.Continues (query.extend text) :=
  { validator := rfl
    requirement := rfl
    text := ⟨text, rfl⟩ }

theorem chainAs_of_attached {query : Query} {validator : Validator}
    (attached : query.validator = some validator) (text : String)
    (supplied : Option Validator) (cardinality : Cardinality) :
    query.chainAs text supplied cardinality = .error (.chainAfterValidator text) := by
  rw [chainAs, attached]

theorem eq_of_chainAs {query next : Query} {text : String} {supplied : Option Validator}
    {cardinality : Cardinality}
    (chained : query.chainAs text supplied cardinality = .ok next) :
    next =
      { query with
        text := query.text ++ text
        validator := supplied
        cardinality := cardinality } := by
  unfold chainAs at chained
  split at chained
  · cases chained
  · exact (Except.ok.inj chained).symm

end Query

namespace Operation

variable {query : Query} {validator : Validator} {operation : Operation}

theorem apply_of_keepsShape (query : Query) (keeps : operation.keepsShape = true) :
    ∃ next, operation.apply query = .ok next ∧ query.Continues next := by
  cases operation with
  | extend text | passthrough text => exact ⟨_, rfl, query.continues_extend text⟩
  | filter condition => exact ⟨_, rfl, query.continues_extend _⟩
  | filterByType types => exact ⟨_, rfl, query.continues_extend _⟩
  | order fields => exact ⟨_, rfl, query.continues_extend _⟩
  | star =>
      obtain ⟨validator, requirement, text⟩ := query.continues_extend "*"
      exact ⟨_, rfl, validator, requirement, text⟩
  | withKnownFields | withCardinality =>
      obtain ⟨validator, requirement, text⟩ := Query.Continues.refl query
      exact ⟨_, rfl, validator, requirement, text⟩
  | slice | sliceOne | dereference | field | raw | chain | project | select | count
  | subquery => cases keeps

theorem apply_of_replacesShape (attached : query.validator = some validator)
    (replaces : operation.replacesShape = true) :
    ∃ error, operation.apply query = .error error := by
  have refused := Query.chainAs_of_attached attached
  cases operation with
  | chain text supplied | raw text supplied => exact ⟨_, refused _ _ _⟩
  | slice first last => exact ⟨_, refused _ _ _⟩
  | sliceOne position => exact ⟨_, refused _ _ _⟩
  | dereference => exact ⟨_, refused _ _ _⟩
  | field path supplied => exact ⟨_, refused _ _ _⟩
  | project projection =>
      -- A projection with mistakes of its own is refused for these.
      rw [apply, Query.project]
      cases projection.compile query with
      | error error => exact ⟨error, rfl⟩
      | ok compiled => exact ⟨_, refused _ _ _⟩
  | select arms fallback =>
      simp only [apply, Query.select]
      cases Branch.cover ((arms.map fun arm => (arm.1, arm.2.validator)) ++
          fallback.toList.map fun fallback => ("default", fallback.validator)) with
      | error error => exact ⟨error, rfl⟩
      | ok covered => exact ⟨_, refused _ _ _⟩
  | count =>
      rw [apply, Query.count, attached]
      exact ⟨_, rfl⟩
  | star | filter | filterByType | order | passthrough | extend | subquery | withKnownFields
  | withCardinality => cases replaces

/-- An operation on the query at hand either keeps the shape or replaces it. -/
theorem keepsShape_of_not_replacesShape (grows : operation.startsAnew = false)
    (stays : ¬operation.replacesShape = true) : operation.keepsShape = true := by
  cases operation <;> simp_all [startsAnew, replacesShape, keepsShape]

end Operation

namespace Query

variable {query : Query} {validator : Validator} {operation : Operation}

/-- One step keeps the validator and everything that goes with it. -/
theorem continues_attempt (attached : query.validator = some validator)
    (grows : operation.startsAnew = false) : query.Continues (query.attempt operation) := by
  unfold attempt
  by_cases replaces : operation.replacesShape = true
  · obtain ⟨error, refused⟩ := operation.apply_of_replacesShape attached replaces
    rw [refused]
    exact .refl query
  · obtain ⟨next, applied, continues⟩ := operation.apply_of_keepsShape query
      (operation.keepsShape_of_not_replacesShape grows replaces)
    rw [applied]
    exact continues

theorem continues_attemptAll {operations : List Operation}
    (attached : query.validator = some validator)
    (grow : ∀ operation ∈ operations, operation.startsAnew = false) :
    query.Continues (query.attemptAll operations) := by
  induction operations generalizing query with
  | nil => exact .refl query
  | cons operation operations induction =>
      have step := continues_attempt attached (grow operation List.mem_cons_self)
      exact step.trans (induction (step.validator.trans attached)
        fun other membership => grow other (List.mem_cons_of_mem _ membership))

/-- Whatever is attempted on a query with a validator, one operation after another, the
operations that give the result a new shape fail, and only those that leave it alone
succeed.  In the end validator and requirement are the same, the text starts with the
one before, and every raw result is validated alike. -/
theorem validator_final {operations : List Operation}
    (attached : query.validator = some validator)
    (grow : ∀ operation ∈ operations, operation.startsAnew = false) :
    (∀ before operation after, operations = before ++ operation :: after →
      (operation.replacesShape = true →
        ∃ error, operation.apply (query.attemptAll before) = .error error) ∧
      ((∃ next, operation.apply (query.attemptAll before) = .ok next) ↔
        operation.keepsShape = true)) ∧
    (query.attemptAll operations).validator = some validator ∧
    (query.attemptAll operations).validationRequired = query.validationRequired ∧
    (∃ more, (query.attemptAll operations).text = query.text ++ more) ∧
    ∀ raw, (query.attemptAll operations).parse raw = query.parse raw := by
  have continues := continues_attemptAll attached grow
  refine ⟨?_, continues.validator.trans attached, continues.requirement, continues.text,
    continues.parse_eq⟩
  rintro before operation after rfl
  have earlier : ∀ other ∈ before, other.startsAnew = false := fun other membership =>
    grow other (List.mem_append_left _ membership)
  have reached : (query.attemptAll before).validator = some validator :=
    (continues_attemptAll attached earlier).validator.trans attached
  refine ⟨operation.apply_of_replacesShape reached, ?_, ?_⟩
  · rintro ⟨next, applied⟩
    refine operation.keepsShape_of_not_replacesShape (grow operation (by simp)) ?_
    intro replaces
    obtain ⟨error, refused⟩ := operation.apply_of_replacesShape reached replaces
    rw [applied] at refused
    cases refused
  · intro keeps
    obtain ⟨next, applied, -⟩ := operation.apply_of_keepsShape (query.attemptAll before) keeps
    exact ⟨next, applied⟩

/-- All documents, each of which has to be an array. -/
def listing : Query :=
  { start true with
    text := "*"
    validator := some (Cardinality.many.wrap .anyObject)
    cardinality := .many }

def listingScript : List Operation :=
  [.filter "a", .count, .withCardinality .one, .slice 0 2, .extend " // b"]

theorem validator_final_listing :
    (∃ error, Operation.apply (listing.attemptAll [.filter "a"]) .count = .error error) ∧
    (listing.attemptAll listingScript).text = "*[a] // b" ∧
    (listing.attemptAll listingScript).parse .null = listing.parse .null := by
  have attached : listing.validator = some (Cardinality.many.wrap .anyObject) := rfl
  have grow : ∀ operation ∈ listingScript, operation.startsAnew = false := by
    simp [listingScript, Operation.startsAnew]
  have final := validator_final attached grow
  exact ⟨(final.1 [.filter "a"] .count _ rfl).1 rfl, by decide, final.2.2.2.2 .null⟩

end Query

end CheckedQuery

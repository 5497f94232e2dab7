import CheckedQuery.Proofs.Branches
import CheckedQuery.Query.Building
import CheckedQuery.Validator.Text

/-!
# Selections

A selection offers its arms in order, and its fallback last.  The first query whose
validator accepts the result decides.  Without a fallback null needs no arm, and is taken
before any of them: an arm that makes something else of null is never asked.
-/

namespace CheckedQuery

namespace Branch

/-- The first branch that accepts a document decides, where no condition does. -/
theorem firstMatch_of_undecided {branches : List Branch}
    (undecided : ∀ branch ∈ branches, branch.discriminator = none) (exhaustive : Bool)
    (value : Value) :
    (firstMatch branches exhaustive).validate value =
      match branches.findSome? fun branch => (branch.validator.validate value).toOption with
      | some output => .ok output
      | none => noneApplies branches.length value exhaustive := by
  have found : firstApplicable? value branches =
      (branches.findSome? fun branch => (branch.validator.validate value).toOption).map .ok := by
    induction branches with
    | nil => rfl
    | cons branch branches induction =>
        have here : branch.decided? value = none := by
          rw [decided?, undecided branch List.mem_cons_self]
          rfl
        have later := induction fun other inside =>
          undecided other (List.mem_cons_of_mem branch inside)
        rw [firstApplicable?, here, List.findSome?_cons]
        cases branch.validator.validate value with
        | ok output => rfl
        | error report => exact later
  simp only [firstMatch, found]
  cases branches.findSome? fun branch => (branch.validator.validate value).toOption with
  | none => rfl
  | some output => rfl

/-- The branches of the conditions that have a validator. -/
def covered (conditions : List (String × Option Validator)) : List Branch :=
  conditions.filterMap fun condition => condition.2.map (ofCondition condition.1)

variable {conditions : List (String × Option Validator)}

/-- Conditions that all have a validator are branches, unless there are none. -/
theorem cover_of_validated (validated : ∀ condition ∈ conditions, condition.2 ≠ none) :
    cover conditions = .ok (if conditions = [] then none else some (covered conditions)) := by
  have noneMissing : conditions.filter (fun condition => condition.2.isNone) = [] := by
    apply List.filter_eq_nil_iff.mpr
    intro condition inside isNone
    exact validated condition inside (Option.isNone_iff_eq_none.mp isNone)
  simp only [cover, noneMissing, List.map_nil, List.length_nil, List.isEmpty_nil, if_true]
  cases conditions with
  | nil => rfl
  | cons condition conditions => simp [covered]

theorem discriminator_of_mem_covered {branch : Branch} (inside : branch ∈ covered conditions) :
    branch.discriminator = none := by
  obtain ⟨condition, -, made⟩ := List.mem_filterMap.mp inside
  obtain ⟨validator, -, rfl⟩ := Option.map_eq_some_iff.mp made
  rfl

theorem length_covered (validated : ∀ condition ∈ conditions, condition.2 ≠ none) :
    (covered conditions).length = conditions.length := by
  induction conditions with
  | nil => rfl
  | cons condition conditions induction =>
      obtain ⟨validator, supplied⟩ :=
        Option.ne_none_iff_exists'.mp (validated condition List.mem_cons_self)
      have later := induction fun other inside =>
        validated other (List.mem_cons_of_mem condition inside)
      rw [covered] at later ⊢
      rw [List.filterMap_cons, supplied, Option.map_some, List.length_cons, List.length_cons, later]

theorem findSome?_covered (value : Value) :
    (covered conditions).findSome? (fun branch => (branch.validator.validate value).toOption) =
      conditions.findSome? fun condition =>
        condition.2.bind fun validator => (validator.validate value).toOption := by
  rw [covered]
  induction conditions with
  | nil => rfl
  | cons condition conditions induction =>
      obtain ⟨name, supplied⟩ := condition
      cases supplied with
      | none => exact induction
      | some validator =>
          simp only [List.filterMap_cons, Option.map_some, List.findSome?_cons, induction,
            Option.bind_some, ofCondition]

end Branch

theorem Validator.validate_nullable {value : Value} (notNull : value ≠ .null)
    (inner : Validator) : inner.nullable.validate value = inner.validate value := by
  cases value with
  | null => exact absurd rfl notNull
  | _ => rfl

/-- The refusal of a result that none of `count` queries accepts. -/
def Report.noneSelected (count : Nat) (raw : Value) : Report :=
  .single (.atRoot raw
    ("The data did not match any of the " ++ toString count ++ " conditional assertions")
    "conditional_none_matched")

namespace Query

/-- The queries that a selection offers, in order. -/
def options (arms : List (String × Query)) (fallback : Option Query) : List Query :=
  arms.map Prod.snd ++ fallback.toList

/-- What the validator of a query makes of a result that it accepts. -/
def accepted? (raw : Value) (option : Query) : Option Value :=
  option.validator.bind fun validator => (validator.validate raw).toOption

/-- The answer in which null comes after all options: the first that accepts the result
decides, and null is left for a selection without fallback that none of its arms accepts. -/
def answerInOrder (arms : List (String × Query)) (fallback : Option Query) (raw : Value) :
    Except QueryError Value :=
  match (options arms fallback).findSome? (accepted? raw) with
  | some output => .ok output
  | none =>
      if fallback.isNone && raw.isNull then .ok .null
      else .error (.data (.noneSelected (options arms fallback).length raw))

/-- How a query answers that selects among arms and a fallback. -/
structure Selects (selection : Query) (arms : List (String × Query)) (fallback : Option Query) :
    Prop where
  /-- Only null without a fallback is not taken in order. -/
  inOrder : ∀ raw, ¬(fallback = none ∧ raw = .null) →
    selection.parse raw = answerInOrder arms fallback raw
  /-- Without a fallback null is taken before any arm. -/
  nullFirst : fallback = none → selection.parse .null = .ok .null
  /-- The order is kept for null just when no arm makes something else of it first. -/
  inOrder_null_iff : fallback = none →
    (selection.parse .null = answerInOrder arms fallback .null ↔
      ∀ output, (options arms fallback).findSome? (accepted? .null) = some output →
        output = .null)

variable {query : Query} {arms : List (String × Query)} {fallback : Option Query}

/-- The conditions of a selection with the validators of what they stand for. -/
def conditions (arms : List (String × Query)) (fallback : Option Query) :
    List (String × Option Validator) :=
  (arms.map fun arm => (arm.1, arm.2.validator)) ++
    fallback.toList.map fun fallback => ("default", fallback.validator)

theorem map_snd_conditions (arms : List (String × Query)) (fallback : Option Query) :
    (conditions arms fallback).map Prod.snd = (options arms fallback).map validator := by
  cases fallback <;> simp [conditions, options]

theorem length_conditions (arms : List (String × Query)) (fallback : Option Query) :
    (conditions arms fallback).length = (options arms fallback).length := by
  have same := congrArg List.length (map_snd_conditions arms fallback)
  simpa using same

theorem validated_conditions
    (validated : ∀ option ∈ options arms fallback, option.validator ≠ none) :
    ∀ condition ∈ conditions arms fallback, condition.2 ≠ none := by
  intro condition inside
  have supplied : condition.2 ∈ (options arms fallback).map validator := by
    rw [← map_snd_conditions]
    exact List.mem_map_of_mem inside
  obtain ⟨option, isOption, same⟩ := List.mem_map.mp supplied
  rw [← same]
  exact validated option isOption

theorem validate_covered (validated : ∀ option ∈ options arms fallback, option.validator ≠ none)
    (raw : Value) :
    (Branch.firstMatch (Branch.covered (conditions arms fallback)) true).validate raw =
      match (options arms fallback).findSome? (accepted? raw) with
      | some output => .ok output
      | none => .error (.noneSelected (options arms fallback).length raw) := by
  have found : (conditions arms fallback).findSome? (fun condition =>
      condition.2.bind fun validator => (validator.validate raw).toOption) =
        (options arms fallback).findSome? (accepted? raw) := by
    have supplied := congrArg (List.findSome? fun supplied : Option Validator =>
      supplied.bind fun validator => (validator.validate raw).toOption)
      (map_snd_conditions arms fallback)
    rw [List.findSome?_map, List.findSome?_map] at supplied
    exact supplied
  rw [Branch.firstMatch_of_undecided fun branch => Branch.discriminator_of_mem_covered,
    Branch.findSome?_covered, found, Branch.length_covered (validated_conditions validated),
    length_conditions]
  rfl

/-- A selection among validated queries succeeds, and its validator is that of its arms
with null in front if there is no fallback. -/
theorem exists_select_of_validated (unvalidated : query.validator = none)
    (validated : ∀ option ∈ options arms fallback, option.validator ≠ none) :
    ∃ selection, query.select arms fallback = .ok selection ∧
      selection.validationRequired = query.validationRequired ∧
      selection.validator =
        if options arms fallback = [] then none
        else
          let resolved := Branch.firstMatch (Branch.covered (conditions arms fallback)) true
          some (if fallback.isSome then resolved else resolved.nullable) := by
  have covers := Branch.cover_of_validated (validated_conditions validated)
  have noneOffered : conditions arms fallback = [] ↔ options arms fallback = [] := by
    rw [← List.length_eq_zero_iff, length_conditions, List.length_eq_zero_iff]
  obtain ⟨text, unfolded⟩ : ∃ text, query.select arms fallback =
      (Branch.cover (conditions arms fallback)).bind fun covered =>
        query.chainAs text (covered.map fun branches =>
          if fallback.isSome then Branch.firstMatch branches true
          else (Branch.firstMatch branches true).nullable) .one :=
    ⟨_, rfl⟩
  rw [unfolded, covers]
  simp only [Except.bind, chainAs, unvalidated]
  refine ⟨_, rfl, rfl, ?_⟩
  by_cases offered : options arms fallback = []
  · simp [offered, noneOffered.mpr offered]
  · have offeredConditions : conditions arms fallback ≠ [] :=
      fun noCondition => offered (noneOffered.mp noCondition)
    simp [offered, offeredConditions]

theorem parse_of_validator {validator : Validator} (supplied : query.validator = some validator)
    (raw : Value) :
    query.parse raw =
      match validator.validate raw with
      | .ok output => .ok output
      | .error report => .error (.data report) := by
  cases outcome : validator.validate raw with
  | ok output => simp [parse, supplied, outcome]
  | error report => simp [parse, supplied, outcome]

/-- Where null is not at stake, the branches of the options answer in order. -/
theorem parse_eq_answerInOrder {selection : Query} {validator : Validator} {raw : Value}
    (validated : ∀ option ∈ options arms fallback, option.validator ≠ none)
    (supplied : selection.validator = some validator)
    (same : validator.validate raw =
      (Branch.firstMatch (Branch.covered (conditions arms fallback)) true).validate raw)
    (notNull : (fallback.isNone && raw.isNull) = false) :
    selection.parse raw = answerInOrder arms fallback raw := by
  rw [parse_of_validator supplied, same, validate_covered validated, answerInOrder, notNull]
  cases (options arms fallback).findSome? (accepted? raw) with
  | none => rfl
  | some output => rfl

private theorem selects_with_fallback {selection last : Query}
    (validated : ∀ option ∈ options arms (some last), option.validator ≠ none)
    (supplied : selection.validator =
      some (Branch.firstMatch (Branch.covered (conditions arms (some last))) true)) :
    selection.Selects arms (some last) :=
  { inOrder := fun raw _ => parse_eq_answerInOrder validated supplied rfl rfl
    nullFirst := by
      intro absent
      cases absent
    inOrder_null_iff := by
      intro absent
      cases absent }

private theorem selects_without_fallback {selection : Query}
    (validated : ∀ option ∈ options arms none, option.validator ≠ none)
    (supplied : selection.validator =
      some (Branch.firstMatch (Branch.covered (conditions arms none)) true).nullable) :
    selection.Selects arms none := by
  have nullFirst : selection.parse .null = .ok .null := by
    rw [parse_of_validator supplied]
    rfl
  refine { inOrder := ?_, nullFirst := fun _ => nullFirst, inOrder_null_iff := fun _ => ?_ }
  · intro raw other
    have notNull : raw ≠ .null := fun isNull => other ⟨rfl, isNull⟩
    apply parse_eq_answerInOrder validated supplied (Validator.validate_nullable notNull _)
    cases raw with
    | null => exact absurd rfl notNull
    | _ => rfl
  · rw [nullFirst, answerInOrder]
    cases (options arms none).findSome? (accepted? .null) with
    | none => simp [Value.isNull]
    | some output => simp [eq_comm]

/-- Whatever the arms are, a selection among validated queries answers in order, except
that without a fallback null goes before the arms.  A selection among no queries at all
validates nothing. -/
theorem parse_select (unvalidated : query.validator = none)
    (validated : ∀ option ∈ options arms fallback, option.validator ≠ none) :
    ∃ selection, query.select arms fallback = .ok selection ∧
      (options arms fallback ≠ [] → selection.Selects arms fallback) ∧
      (options arms fallback = [] → ∀ raw, selection.parse raw =
        if query.validationRequired then .error (.config .validationRequired) else .ok raw) := by
  obtain ⟨selection, success, requirement, supplied⟩ :=
    exists_select_of_validated unvalidated validated
  refine ⟨selection, success, ?_, ?_⟩
  · intro offered
    rw [if_neg offered] at supplied
    cases fallback with
    | some last => exact selects_with_fallback validated supplied
    | none => exact selects_without_fallback validated supplied
  · intro noneOffered raw
    rw [if_pos noneOffered] at supplied
    simp only [parse, supplied, requirement]

/-- A query for a title, which is put in the place of null. -/
def titled (requirement : Bool) : Query :=
  { start requirement with
    text := "title"
    validator := some (TextShape.any.validator.withDefault (.string "untitled")) }

theorem parse_select_titled :
    ((start true).validator = none ∧
      ∀ option ∈ options [("defined(title)", titled true)] none, option.validator ≠ none) ∧
    ∃ selection, (start true).select [("defined(title)", titled true)] none = .ok selection ∧
      (options [("defined(title)", titled true)] none ≠ [] →
        selection.Selects [("defined(title)", titled true)] none) ∧
      (options [("defined(title)", titled true)] none = [] → ∀ raw, selection.parse raw =
        if (start true).validationRequired then .error (.config .validationRequired)
        else .ok raw) := by
  have validated : ∀ option ∈ options [("defined(title)", titled true)] none,
      option.validator ≠ none := by
    intro option inside supplied
    rw [List.mem_singleton.mp inside] at supplied
    cases supplied
  exact ⟨⟨rfl, validated⟩, parse_select rfl validated⟩

/-- The arm makes a title of null, and the selection still answers null. -/
theorem null_before_arm :
    ∃ selection, (start false).select [("defined(title)", titled false)] none = .ok selection ∧
      answerInOrder [("defined(title)", titled false)] none .null = .ok (.string "untitled") ∧
      selection.parse .null = .ok .null ∧
      selection.parse .null ≠ answerInOrder [("defined(title)", titled false)] none .null := by
  refine ⟨_, rfl, rfl, rfl, ?_⟩
  intro same
  cases same

end Query

end CheckedQuery

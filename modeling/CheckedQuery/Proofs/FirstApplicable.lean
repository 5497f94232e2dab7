import CheckedQuery.Proofs.Selection
import Mathlib.Logic.Relation

/-!
# What a choice depends on

A choice is decided by its first applicable branch.  Branches that do not apply may be taken
out, and after a branch that applies any others may follow: the result is the same.  Only
where no branch applies does an exhaustive choice tell how many branches it has.  Branches
that are left to their validators make a choice a union that has no issues of its own.
-/

namespace CheckedQuery

theorem Validator.union_eq_ok_iff {options : List Validator} {value output : Value} :
    (union options).validate value = .ok output ↔
      (options.findSome? fun option => (option.validate value).toOption) = some output := by
  rw [union_eq]
  cases options.findSome? fun option => (option.validate value).toOption with
  | some made => simp
  | none => simp [Collector.finish_eq_ok_iff]

namespace Branch

/-- A change to the branches of a choice that a document does not notice. -/
inductive Revision (value : Value) : List Branch → List Branch → Prop where
  /-- A branch that does not apply is taken out. -/
  | removed (before after : List Branch) {branch : Branch}
      (inapplicable : branch.applies value = false) :
      Revision value (before ++ branch :: after) (before ++ after)
  /-- More branches are put in, somewhere after one that applies. -/
  | added (before more after : List Branch)
      (settled : ∃ branch ∈ before, branch.applies value = true) :
      Revision value (before ++ after) (before ++ (more ++ after))

/-- Branches that come out of others by any number of revisions. -/
def Revised (value : Value) : List Branch → List Branch → Prop :=
  Relation.ReflTransGen (Revision value)

/-- How the first applicable branch decides a choice about a document, and what remains to
say where there is none. -/
structure DecidedByFirst (branches : List Branch) (value : Value) : Prop where
  /-- The first applicable branch gives the result, failure included. -/
  decided : ∀ branch, branches.find? (applies value) = some branch → ∀ exhaustive,
    (firstMatch branches exhaustive).validate value = branch.validator.validate value
  /-- If a branch applies, no revision changes the result. -/
  unchanged : (∃ branch ∈ branches, branch.applies value = true) →
    ∀ exhaustive revised, Revised value branches revised →
      (firstMatch revised exhaustive).validate value =
        (firstMatch branches exhaustive).validate value
  /-- If none applies, a revision changes nothing but the number of branches that an
  exhaustive choice reports. -/
  counted : (∀ branch ∈ branches, branch.applies value = false) →
    ∀ exhaustive revised, Revised value branches revised →
      (firstMatch revised exhaustive).validate value =
        if exhaustive then .error (.noneSelected revised.length value)
        else .ok .emptyObject
  /-- Without tests an exhaustive choice accepts what the union of its validators accepts,
  and makes the same of it. -/
  ok_iff_union : (∀ branch ∈ branches, branch.discriminator = none) → ∀ output,
    (firstMatch branches true).validate value = .ok output ↔
      (Validator.union (branches.map validator)).validate value = .ok output
  /-- Without tests any other choice is that union, with an empty object in the place of
  every failure. -/
  empty_or_union : (∀ branch ∈ branches, branch.discriminator = none) →
    (firstMatch branches false).validate value =
      match (Validator.union (branches.map validator)).validate value with
      | .ok output => .ok output
      | .error _ => .ok .emptyObject

variable {branches revised : List Branch} {value output : Value}

/-- No step of a revision changes the first applicable branch. -/
theorem find?_of_revision (step : Revision value branches revised) :
    revised.find? (applies value) = branches.find? (applies value) := by
  cases step with
  | removed before after inapplicable =>
      rw [List.find?_append, List.find?_append, List.find?_cons_of_neg (by simp [inapplicable])]
  | added before more after settled =>
      obtain ⟨first, found⟩ := Option.isSome_iff_exists.mp (List.find?_isSome.mpr settled)
      simp only [List.find?_append, found, Option.some_or]

/-- A whole revision leaves the first applicable branch where it is. -/
theorem find?_of_revised (steps : Revised value branches revised) :
    revised.find? (applies value) = branches.find? (applies value) := by
  induction steps with
  | refl => rfl
  | tail _ step induction => exact (find?_of_revision step).trans induction

theorem firstMatch_of_applicable (applicable : ∃ branch ∈ branches, branch.applies value = true)
    (exhaustive : Bool) (steps : Revised value branches revised) :
    (firstMatch revised exhaustive).validate value =
      (firstMatch branches exhaustive).validate value := by
  obtain ⟨first, found⟩ := Option.isSome_iff_exists.mp (List.find?_isSome.mpr applicable)
  rw [firstMatch_eq, firstMatch_eq, find?_of_revised steps, found]

theorem firstMatch_of_inapplicable
    (inapplicable : ∀ branch ∈ branches, branch.applies value = false)
    (exhaustive : Bool) (steps : Revised value branches revised) :
    (firstMatch revised exhaustive).validate value =
      if exhaustive then .error (.noneSelected revised.length value)
      else .ok .emptyObject := by
  have none : branches.find? (applies value) = none := by
    simpa [List.find?_eq_none] using inapplicable
  rw [firstMatch_eq, find?_of_revised steps, none]
  rfl

/-- Branches without tests choose like the union of their validators. -/
theorem firstMatch_of_untested (untested : ∀ branch ∈ branches, branch.discriminator = none)
    (exhaustive : Bool) :
    (firstMatch branches exhaustive).validate value =
      match (Validator.union (branches.map validator)).validate value with
      | .ok output => .ok output
      | .error _ => noneApplies branches.length value exhaustive := by
  have options : ((branches.map validator).findSome? fun option =>
      (option.validate value).toOption) =
        branches.findSome? fun branch => (branch.validator.validate value).toOption := by
    rw [List.findSome?_map]
    rfl
  rw [firstMatch_of_undecided untested, ← options]
  cases joined : (Validator.union (branches.map validator)).validate value with
  | ok output => rw [Validator.union_eq_ok_iff.mp joined]
  | error report =>
      have noneAccepts : ((branches.map validator).findSome? fun option =>
          (option.validate value).toOption) = none := by
        rw [Option.eq_none_iff_forall_ne_some]
        intro output accepted
        rw [Validator.union_eq_ok_iff.mpr accepted] at joined
        cases joined
      rw [noneAccepts]

/-- For every list of branches and every document: revisions that leave the first applicable
branch alone leave the result of a choice alone, up to the number of branches that it reports
when none applies, and without tests a choice is a union. -/
theorem decidedByFirst (branches : List Branch) (value : Value) :
    DecidedByFirst branches value := by
  constructor
  case decided =>
    intro branch first exhaustive
    rw [firstMatch_eq, first]
  case unchanged =>
    intro applicable exhaustive revised steps
    exact firstMatch_of_applicable applicable exhaustive steps
  case counted =>
    intro inapplicable exhaustive revised steps
    exact firstMatch_of_inapplicable inapplicable exhaustive steps
  case ok_iff_union =>
    intro untested output
    rw [firstMatch_of_untested untested]
    cases (Validator.union (branches.map validator)).validate value with
    | ok made => rfl
    | error report => simp [noneApplies, reject]
  case empty_or_union =>
    intro untested
    exact firstMatch_of_untested untested false

/-- A branch for documents in which a field is present, and has to be a boolean. -/
def present (field : String) : Branch :=
  { condition := "defined(" ++ field ++ ")"
    validator := FieldShape.validator (.ofList [(field, some .boolean)])
    discriminator := some { field := field, test := .defined, carried := true } }

/-- A document that leaves out the first of two fields, and has a text in the second. -/
def pathOnly : Value :=
  .object (Members.ofList [("path", .string "x")])

theorem decidedByFirst_pathOnly :
    Revised pathOnly [present "url", present "path"]
      [present "path", .ofCondition "true" .anyObject] ∧
    (firstMatch [present "path", .ofCondition "true" .anyObject] false).validate pathOnly =
      (firstMatch [present "url", present "path"] false).validate pathOnly ∧
    (firstMatch [present "url", present "path"] false).validate pathOnly =
      .error (.single
        { path := { segments := [.field "path"] }
          value := .string "x"
          message := "Expected boolean, received string"
          code := "invalid_type" }) ∧
    Revised .emptyObject [present "url", present "path"] [present "path"] ∧
    (firstMatch [present "path"] true).validate .emptyObject =
      .error (.single
        { path := .root
          value := .emptyObject
          message := "The data did not match any of the 1 conditional assertions"
          code := "conditional_none_matched" }) := by
  have without : ∀ value, applies value (present "url") = false →
      Revised value [present "url", present "path"] [present "path"] :=
    fun _ inapplicable => .single (.removed [] [present "path"] inapplicable)
  have revised : Revised pathOnly [present "url", present "path"]
      [present "path", .ofCondition "true" .anyObject] := by
    apply (without pathOnly rfl).tail
    exact .added [present "path"] [.ofCondition "true" .anyObject] []
      ⟨present "path", List.mem_singleton_self _, rfl⟩
  refine ⟨revised, ?_, ?_, without .emptyObject rfl, ?_⟩
  · exact (decidedByFirst _ pathOnly).unchanged ⟨present "path", by simp, rfl⟩ false _ revised
  · exact (decidedByFirst _ pathOnly).decided (present "path") rfl false
  · have inapplicable : ∀ branch ∈ [present "url", present "path"],
        applies .emptyObject branch = false := by
      simp only [List.forall_mem_cons, List.not_mem_nil, false_imp_iff, implies_true, and_true]
      exact ⟨rfl, rfl⟩
    exact (decidedByFirst _ .emptyObject).counted inapplicable true _ (without .emptyObject rfl)

end Branch

end CheckedQuery

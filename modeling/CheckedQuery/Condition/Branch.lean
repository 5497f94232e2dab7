import CheckedQuery.Condition.Discriminator
import CheckedQuery.ConfigError
import CheckedQuery.Validator

/-!
# Branches

A branch pairs a condition with the validator of what it adds.  A condition that
the document decides selects or rejects its branch for good; any other branch
applies when its validator accepts the document.  Either the first applicable
branch gives the result, or all of them are merged.
-/

namespace CheckedQuery

structure Branch where
  condition : String
  validator : Validator
  discriminator : Option Discriminator

namespace Branch

def ofCondition (condition : String) (validator : Validator) : Branch :=
  { condition := condition
    validator := validator
    discriminator := none }

/-- Whether the document selects or rejects the branch by itself. -/
def decided? (branch : Branch) (value : Value) : Option Bool :=
  branch.discriminator.bind fun discriminator => discriminator.holds? value

end Branch

/-- What several applicable branches amount to. -/
inductive BranchPolicy where
  | firstMatch
  | mergeAll
  deriving DecidableEq

namespace Branch

/-- The result when none of `count` branches applies. -/
def noneApplies (count : Nat) (value : Value) (exhaustive : Bool) : Outcome :=
  if exhaustive then
    reject value
      ("The data did not match any of the " ++ toString count ++ " conditional assertions")
      "conditional_none_matched"
  else .ok .emptyObject

def firstApplicable? (value : Value) : List Branch → Option Outcome
  | [] => none
  | branch :: branches =>
      match branch.decided? value with
      | some false => firstApplicable? value branches
      | some true => some (branch.validator.validate value)
      | none =>
          match branch.validator.validate value with
          | .ok output => some (.ok output)
          | .error _ => firstApplicable? value branches

def firstMatch (branches : List Branch) (exhaustive : Bool) : Validator :=
  { validate := fun value =>
      match firstApplicable? value branches with
      | some outcome => outcome
      | none => noneApplies branches.length value exhaustive }

structure Merging where
  matched : Nat
  collector : Collector
  merged : Members Value

/-- Take up what one branch makes of the document. -/
def mergeOne (value : Value) (merging : Merging) (branch : Branch) : Merging :=
  let decided := branch.decided? value
  if decided = some false then merging
  else
    match branch.validator.validate value with
    | .ok (.object members) =>
        { merging with
          matched := merging.matched + 1
          merged := merging.merged.merge members }
    | .ok other =>
        { merging with
          matched := merging.matched + 1
          collector := merging.collector.addIssue none other
            ("Conditional branch `" ++ branch.condition ++ "` produced a non-object value")
            "invalid_type" }
    | .error report =>
        if decided = some true then
          { merging with
            matched := merging.matched + 1
            collector := merging.collector.add none report }
        else merging

def mergeAll (branches : List Branch) (exhaustive : Bool) : Validator :=
  { validate := fun value =>
      let merging := branches.foldl (mergeOne value)
        { matched := 0, collector := .empty, merged := .empty }
      if merging.matched = 0 then noneApplies branches.length value exhaustive
      else merging.collector.finish (.object merging.merged) }

def resolve (branches : List Branch) (policy : BranchPolicy) (exhaustive : Bool) : Validator :=
  match policy with
  | .firstMatch => firstMatch branches exhaustive
  | .mergeAll => mergeAll branches exhaustive

/-- The branches of conditions with validators, if they have any.  Either every
condition has one or none has. -/
def cover (conditions : List (String × Option Validator)) :
    Except ConfigError (Option (List Branch)) :=
  let missing := (conditions.filter fun condition => condition.2.isNone).map Prod.fst
  if missing.length = conditions.length then .ok none
  else if missing.isEmpty then
    .ok (some (conditions.filterMap fun condition =>
      condition.2.map (ofCondition condition.1)))
  else .error (.partialBranchValidation missing)

end Branch

end CheckedQuery

import CheckedQuery.Condition.Branch
import CheckedQuery.Proofs.Shapes

/-!
# Applicable branches

Both policies look at the same branches, those that apply to the document.  One takes
the first of them, the other gathers what all of them report and lays their members
over each other.
-/

namespace CheckedQuery.Branch

/-- Whether a branch applies: the document selects it, or leaves it open and is
accepted by its validator. -/
def applies (value : Value) (branch : Branch) : Bool :=
  match branch.decided? value with
  | some selected => selected
  | none => (branch.validator.validate value).isOk

/-- What a merge reports of a branch whose output is no object. -/
def complaint (branch : Branch) (output : Value) : Issue :=
  .atRoot output ("Conditional branch `" ++ branch.condition ++ "` produced a non-object value")
    "invalid_type"

/-- What a branch adds to the issues of a merge. -/
def mergeIssues (value : Value) (branch : Branch) : List Issue :=
  (branch.validator.validate value).objectIssues branch.complaint

/-- What a branch lays over the ones before it. -/
def mergeMembers (value : Value) (branch : Branch) : Members Value :=
  (branch.validator.validate value).objectMembers

theorem mergeIssues_eq_issues {branch : Branch} {value : Value}
    (makes : branch.validator.MakesObject value) :
    branch.mergeIssues value = (branch.validator.validate value).issues :=
  Outcome.objectIssues_eq_issues _ makes

theorem firstApplicable?_eq (value : Value) (branches : List Branch) :
    firstApplicable? value branches =
      (branches.find? (applies value)).map fun branch => branch.validator.validate value := by
  induction branches with
  | nil => rfl
  | cons branch branches induction =>
      cases decided : branch.decided? value with
      | some selected =>
          cases selected <;> simp [firstApplicable?, applies, decided, induction]
      | none =>
          cases outcome : branch.validator.validate value <;>
            simp [firstApplicable?, applies, decided, outcome, induction, Except.isOk,
              Except.toBool]

theorem firstMatch_eq (branches : List Branch) (exhaustive : Bool) (value : Value) :
    (firstMatch branches exhaustive).validate value =
      match branches.find? (applies value) with
      | some branch => branch.validator.validate value
      | none => noneApplies branches.length value exhaustive := by
  simp only [firstMatch, firstApplicable?_eq]
  cases branches.find? (applies value) <;> rfl

theorem mergeOne_eq (value : Value) (merging : Merging) (branch : Branch) :
    mergeOne value merging branch =
      if applies value branch then
        { matched := merging.matched + 1
          collector := { issues := merging.collector.issues ++ mergeIssues value branch }
          merged := merging.merged.merge (mergeMembers value branch) }
      else merging := by
  cases outcome : branch.validator.validate value with
  | error report =>
      cases decided : branch.decided? value with
      | none => simp [mergeOne, applies, decided, outcome, Except.isOk, Except.toBool]
      | some selected =>
          cases selected <;>
            simp [mergeOne, applies, decided, outcome, mergeIssues, mergeMembers,
              Outcome.objectIssues, Outcome.objectMembers, Collector.add]
  | ok output =>
      have applied : applies value branch = true ↔ branch.decided? value ≠ some false := by
        cases decided : branch.decided? value with
        | none => simp [applies, decided, outcome, Except.isOk, Except.toBool]
        | some selected => cases selected <;> simp [applies, decided]
      by_cases rejected : branch.decided? value = some false
      · simp [mergeOne, applied, rejected]
      · cases output <;>
          simp [mergeOne, applied, rejected, outcome, mergeIssues, mergeMembers,
            Outcome.objectIssues, Outcome.objectMembers, Outcome.members?, complaint,
            Collector.addIssue]

/-- Merging adds up the applicable branches and passes over the others. -/
theorem foldl_mergeOne (value : Value) (merging : Merging) (branches : List Branch) :
    branches.foldl (mergeOne value) merging =
      { matched := merging.matched + (branches.filter (applies value)).length
        collector := { issues := merging.collector.issues ++
          (branches.filter (applies value)).flatMap (mergeIssues value) }
        merged := ((branches.filter (applies value)).map (mergeMembers value)).foldl
          Members.merge merging.merged } := by
  induction branches generalizing merging with
  | nil => simp
  | cons branch branches induction =>
      rw [List.foldl_cons, induction, mergeOne_eq]
      by_cases applied : applies value branch = true
      · simp only [applied, if_true, List.filter_cons_of_pos, List.length_cons,
          List.flatMap_cons, List.map_cons, List.foldl_cons, List.append_assoc,
          Nat.add_assoc, Nat.add_comm 1]
      · simp only [applied, if_false, List.filter_cons_of_neg, not_false_eq_true,
          Bool.false_eq_true]

theorem mergeAll_eq (branches : List Branch) (exhaustive : Bool) (value : Value) :
    (mergeAll branches exhaustive).validate value =
      if branches.filter (applies value) = [] then
        noneApplies branches.length value exhaustive
      else
        Collector.finish
          { issues := (branches.filter (applies value)).flatMap (mergeIssues value) }
          (.object (Members.stack
            ((branches.filter (applies value)).map (mergeMembers value)))) := by
  simp only [mergeAll, foldl_mergeOne, Collector.empty, List.nil_append, Nat.zero_add,
    List.length_eq_zero_iff, Members.stack]

theorem eq_of_noneApplies {count : Nat} {value output : Value} {exhaustive : Bool}
    (accepted : noneApplies count value exhaustive = .ok output) :
    output = .object .nil := by
  cases exhaustive with
  | true => cases accepted
  | false => exact (Except.ok.inj accepted).symm

theorem resolve_makesObject {branches : List Branch} {value : Value} (policy : BranchPolicy)
    (exhaustive : Bool) (each : ∀ branch ∈ branches, branch.validator.MakesObject value) :
    (resolve branches policy exhaustive).MakesObject value := by
  intro output accepted
  cases policy with
  | firstMatch =>
      simp only [resolve, firstMatch_eq] at accepted
      cases found : branches.find? (applies value) with
      | some branch =>
          rw [found] at accepted
          exact each branch (List.mem_of_find?_eq_some found) output accepted
      | none =>
          rw [found] at accepted
          exact ⟨.nil, eq_of_noneApplies accepted⟩
  | mergeAll =>
      simp only [resolve, mergeAll_eq] at accepted
      split at accepted
      · exact ⟨.nil, eq_of_noneApplies accepted⟩
      · exact ⟨_, (Collector.finish_eq_ok_iff.mp accepted).2.symm⟩

/-- A branch may be exchanged for one that applies to the same documents and makes the
same of those it applies to. -/
theorem resolve_exchange {before after : List Branch} {branch other : Branch} {value : Value}
    (policy : BranchPolicy) (exhaustive : Bool)
    (alike : branch.applies value = other.applies value)
    (same : branch.applies value = true → branch.condition = other.condition ∧
      branch.validator.validate value = other.validator.validate value) :
    (resolve (before ++ branch :: after) policy exhaustive).validate value =
      (resolve (before ++ other :: after) policy exhaustive).validate value := by
  cases applied : branch.applies value with
  | false =>
      have otherApplied := alike.symm.trans applied
      cases policy with
      | firstMatch => simp [resolve, firstMatch_eq, List.find?_append, applied, otherApplied]
      | mergeAll => simp [resolve, mergeAll_eq, List.filter_append, applied, otherApplied]
  | true =>
      have otherApplied := alike.symm.trans applied
      obtain ⟨condition, outcome⟩ := same applied
      cases policy with
      | firstMatch =>
          simp only [resolve, firstMatch_eq, List.find?_append, List.find?_cons, applied,
            otherApplied]
          cases before.find? (applies value) with
          | some earlier => rfl
          | none => exact outcome
      | mergeAll =>
          have issues : mergeIssues value branch = mergeIssues value other := by
            rw [mergeIssues, mergeIssues, outcome]
            unfold complaint
            rw [condition]
          have members : mergeMembers value branch = mergeMembers value other := by
            rw [mergeMembers, mergeMembers, outcome]
          simp [resolve, mergeAll_eq, List.filter_append, applied, otherApplied, issues, members]

/-- Whatever the result of branches shows, one of them shows. -/
theorem exists_branch_of_resolve {branches : List Branch} {policy : BranchPolicy}
    {exhaustive : Bool} {value found : Value} {output : Members Value} {key : String}
    (accepted : (resolve branches policy exhaustive).validate value = .ok (.object output))
    (shown : output.get? key = some found) :
    ∃ branch ∈ branches, ∃ made,
      branch.validator.validate value = .ok (.object made) ∧ made.get? key = some found := by
  have empty : ∀ count, noneApplies count value exhaustive = .ok (.object output) → False := by
    intro count inapplicable
    cases eq_of_noneApplies inapplicable
    cases shown
  cases policy with
  | firstMatch =>
      simp only [resolve, firstMatch_eq] at accepted
      cases first : branches.find? (applies value) with
      | none =>
          rw [first] at accepted
          exact (empty _ accepted).elim
      | some branch =>
          rw [first] at accepted
          exact ⟨branch, List.mem_of_find?_eq_some first, output, accepted, shown⟩
  | mergeAll =>
      simp only [resolve, mergeAll_eq] at accepted
      split at accepted
      · exact (empty _ accepted).elim
      · cases (Collector.finish_eq_ok_iff.mp accepted).2
        rw [Members.get?_stack] at shown
        obtain ⟨layer, isLayer, shows⟩ := List.exists_of_findSome?_eq_some shown
        obtain ⟨branch, applicable, rfl⟩ := List.mem_map.mp (List.mem_reverse.mp isLayer)
        rw [mergeMembers, Outcome.get?_objectMembers] at shows
        obtain ⟨made, isMade, present⟩ := Option.bind_eq_some_iff.mp shows
        exact ⟨branch, (List.mem_filter.mp applicable).1, made,
          Outcome.members?_eq_some_iff.mp isMade, present⟩

end CheckedQuery.Branch

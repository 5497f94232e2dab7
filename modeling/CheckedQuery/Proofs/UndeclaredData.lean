import CheckedQuery.Proofs.DeclaredKeys

/-!
# Undeclared data

A projection that spreads nothing reads the keys that it and its branches name, and the
fields that the conditions of its branches test.  Two objects that agree there are
accepted alike with the same result, and otherwise refused with the same findings; only
the documents that the issues quote may differ.
-/

namespace CheckedQuery

/-- What an issue says, without the document that it quotes. -/
def Issue.finding (issue : Issue) : Path × String × String :=
  (issue.path, issue.message, issue.code)

namespace Outcome

/-- Two outcomes with the same document, or with the same findings in the same order. -/
structure SameFindings (left right : Outcome) : Prop where
  accepted : left.toOption = right.toOption
  reported : left.issues.map Issue.finding = right.issues.map Issue.finding

namespace SameFindings

variable {left right : Outcome}

theorem of_eq (same : left = right) : left.SameFindings right := by
  subst same
  exact { accepted := rfl, reported := rfl }

theorem isOk_eq (same : left.SameFindings right) : left.isOk = right.isOk := by
  have accepted := same.accepted
  cases left <;> cases right <;> first | rfl | cases accepted

theorem eq_ok_iff (same : left.SameFindings right) (output : Value) :
    left = .ok output ↔ right = .ok output := by
  rw [← toOption_eq_some_iff, same.accepted, toOption_eq_some_iff]

theorem objectMembers_eq (same : left.SameFindings right) :
    left.objectMembers = right.objectMembers := by
  have accepted := same.accepted
  cases left with
  | error report =>
      cases right with
      | error other => rfl
      | ok output => cases accepted
  | ok output => rw [(same.eq_ok_iff output).mp rfl]

theorem objectIssues (same : left.SameFindings right) (complain : Value → Issue) :
    (left.objectIssues complain).map Issue.finding =
      (right.objectIssues complain).map Issue.finding := by
  have accepted := same.accepted
  cases left with
  | error report =>
      cases right with
      | error other => exact same.reported
      | ok output => cases accepted
  | ok output => rw [(same.eq_ok_iff output).mp rfl]

end SameFindings

theorem sameFindings_finish {issues others : List Issue} (output : Value)
    (same : issues.map Issue.finding = others.map Issue.finding) :
    SameFindings (Collector.finish { issues := issues } output)
      (Collector.finish { issues := others } output) := by
  refine { accepted := ?_, reported := by simpa using same }
  cases issues with
  | nil =>
      rw [List.map_nil] at same
      rw [List.map_eq_nil_iff.mp same.symm]
  | cons issue issues =>
      cases others with
      | nil => cases same
      | cons other others => rfl

end Outcome

/-- Lists that say the same item by item say the same when they are put together. -/
theorem map_flatMap_congr {α β γ : Type} {items : List α} {left right : α → List β}
    {say : β → γ} (each : ∀ item ∈ items, (left item).map say = (right item).map say) :
    (items.flatMap left).map say = (items.flatMap right).map say := by
  rw [List.map_flatMap, List.map_flatMap]
  exact List.flatMap_congr each

namespace FieldShape

/-- A field shape looks at its fields only. -/
theorem sameFindings {shape : FieldShape} {left right : Members Value}
    (agree : ∀ field ∈ shape.fields.entries, left.get? field.1 = right.get? field.1) :
    Outcome.SameFindings (shape.validator.validate (.object left))
      (shape.validator.validate (.object right)) := by
  apply Outcome.SameFindings.of_eq
  apply validate_congr
  intro field membership
  rw [MembersAbove.read, MembersAbove.read, agree field membership]

end FieldShape

namespace Validator

theorem sameFindings_layered {layers : List Validator} {left right : Members Value}
    (each : ∀ layer ∈ layers,
      Outcome.SameFindings (layer.validate (.object left)) (layer.validate (.object right))) :
    Outcome.SameFindings ((layered layers).validate (.object left))
      ((layered layers).validate (.object right)) := by
  have sameMembers : layers.map (layerMembers (.object left)) =
      layers.map (layerMembers (.object right)) :=
    List.map_congr_left fun layer membership => (each layer membership).objectMembers_eq
  rw [layered_object, layered_object, sameMembers]
  refine Outcome.sameFindings_finish _ (map_flatMap_congr fun layer membership => ?_)
  exact (each layer membership).objectIssues _

end Validator

namespace Branch

/-- Two documents that decide the branch alike, and of which its validator makes the
same. -/
structure Alike (left right : Value) (branch : Branch) : Prop where
  decided : branch.decided? left = branch.decided? right
  outcome : Outcome.SameFindings (branch.validator.validate left)
    (branch.validator.validate right)

variable {left right : Value} {branches : List Branch} {branch : Branch}

theorem Alike.applies_eq (alike : branch.Alike left right) :
    branch.applies left = branch.applies right := by
  rw [applies, applies, alike.decided, alike.outcome.isOk_eq]

theorem sameFindings_noneApplies (count : Nat) (exhaustive : Bool) :
    Outcome.SameFindings (noneApplies count left exhaustive)
      (noneApplies count right exhaustive) := by
  cases exhaustive with
  | false => exact .of_eq rfl
  | true => exact { accepted := rfl, reported := rfl }

theorem sameFindings_firstMatch (each : ∀ branch ∈ branches, branch.Alike left right)
    (exhaustive : Bool) :
    Outcome.SameFindings ((firstMatch branches exhaustive).validate left)
      ((firstMatch branches exhaustive).validate right) := by
  have sameFirst : branches.find? (applies left) = branches.find? (applies right) := by
    rw [← List.head?_filter, ← List.head?_filter]
    exact congrArg List.head?
      (List.filter_congr fun branch membership => (each branch membership).applies_eq)
  rw [firstMatch_eq, firstMatch_eq, sameFirst]
  cases found : branches.find? (applies right) with
  | none => exact sameFindings_noneApplies branches.length exhaustive
  | some branch => exact (each branch (List.mem_of_find?_eq_some found)).outcome

theorem sameFindings_mergeAll (each : ∀ branch ∈ branches, branch.Alike left right)
    (exhaustive : Bool) :
    Outcome.SameFindings ((mergeAll branches exhaustive).validate left)
      ((mergeAll branches exhaustive).validate right) := by
  have sameApplicable : branches.filter (applies left) = branches.filter (applies right) :=
    List.filter_congr fun branch membership => (each branch membership).applies_eq
  have applicable : ∀ branch ∈ branches.filter (applies right), branch.Alike left right :=
    fun branch membership => each branch (List.mem_filter.mp membership).1
  have sameMembers : (branches.filter (applies right)).map (mergeMembers left) =
      (branches.filter (applies right)).map (mergeMembers right) :=
    List.map_congr_left fun branch membership =>
      (applicable branch membership).outcome.objectMembers_eq
  rw [mergeAll_eq, mergeAll_eq, sameApplicable]
  split
  · exact sameFindings_noneApplies branches.length exhaustive
  · rw [sameMembers]
    refine Outcome.sameFindings_finish _ (map_flatMap_congr fun branch membership => ?_)
    exact (applicable branch membership).outcome.objectIssues _

theorem sameFindings_resolve (each : ∀ branch ∈ branches, branch.Alike left right)
    (policy : BranchPolicy) (exhaustive : Bool) :
    Outcome.SameFindings ((resolve branches policy exhaustive).validate left)
      ((resolve branches policy exhaustive).validate right) := by
  cases policy with
  | firstMatch => exact sameFindings_firstMatch each exhaustive
  | mergeAll => exact sameFindings_mergeAll each exhaustive

end Branch

/-- A condition looks at its own field only. -/
theorem Discriminator.holds?_eq_of_agree {discriminator : Discriminator}
    {left right : Members Value}
    (agree : left.get? discriminator.field = right.get? discriminator.field) :
    discriminator.holds? (.object left) = discriminator.holds? (.object right) := by
  simp only [holds?, Value.member?, agree]

namespace Projection

variable {query : Query} {projection : Projection} {compiled : Compiled}
  {validator : Validator} {left right : Members Value}

/-- A condition of a branch tests a field, in the projection or below a branch. -/
inductive Consults (field : String) : Projection → Prop where
  | condition {projection : Projection} {group : ConditionalGroup}
      {branch : String × Projection} {discriminator : Discriminator}
      (inGroups : group ∈ projection.groups) (inBranches : branch ∈ group.branches)
      (parsed : Discriminator.ofCondition? branch.1 = some discriminator)
      (isField : discriminator.field = field) : Consults field projection
  | inBranch {projection : Projection} {group : ConditionalGroup}
      {branch : String × Projection} (inGroups : group ∈ projection.groups)
      (inBranches : branch ∈ group.branches) (consults : Consults field branch.2) :
      Consults field projection

/-- Two objects that show the same wherever the projection or a branch looks. -/
def AgreeOn (projection : Projection) (left right : Members Value) : Prop :=
  ∀ key, projection.Declares key ∨ projection.Consults key → left.get? key = right.get? key

theorem AgreeOn.of_branch {group : ConditionalGroup} {branch : String × Projection}
    (agree : projection.AgreeOn left right) (inGroups : group ∈ projection.groups)
    (inBranches : branch ∈ group.branches) : branch.2.AgreeOn left right := by
  rintro key (declares | consults)
  · exact agree key (.inl (.inBranch inGroups inBranches declares))
  · exact agree key (.inr (.inBranch inGroups inBranches consults))

theorem layers_of_spreadless (spreadless : projection.Spreadless) (groups : List Validator) :
    layers projection.spread? projection.namedFields groups =
      (if projection.namedFields.isEmpty then [] else [projection.namedShape.validator]) ++
        groups := by
  rw [spread?_of_spreadless spreadless]
  rfl

/-- The named entries look at the keys that they name. -/
theorem sameFindings_named (success : projection.compile query = .ok compiled)
    (agree : projection.AgreeOn left right) :
    Outcome.SameFindings (projection.namedShape.validator.validate (.object left))
      (projection.namedShape.validator.validate (.object right)) := by
  refine FieldShape.sameFindings fun field membership => ?_
  obtain ⟨named, isNamed, same⟩ := List.mem_map.mp (Keyed.mem_of_mem_ofList membership)
  refine agree field.1 (.inl (.named ?_))
  rw [← keys_namedFields success, ← same]
  exact List.mem_map_of_mem isNamed

/-- A group looks at the fields of its conditions and at what its branches look at. -/
theorem sameFindings_group (agree : projection.AgreeOn left right)
    (below : ∀ group ∈ projection.groups, ∀ branch ∈ group.branches,
      ∀ {inner : Compiled} {innerValidator : Validator},
        branch.2.compile query = .ok inner → inner.validator = some innerValidator →
        Outcome.SameFindings (innerValidator.validate (.object left))
          (innerValidator.validate (.object right)))
    (isGroup : validator ∈ projection.groupValidators query) :
    Outcome.SameFindings (validator.validate (.object left))
      (validator.validate (.object right)) := by
  obtain ⟨group, inGroups, isValidator⟩ := List.mem_filterMap.mp isGroup
  obtain ⟨compiledGroup, success, validated⟩ := Option.bind_eq_some_iff.mp isValidator
  obtain ⟨compiledBranches, computed, rfl⟩ :=
    ConditionalGroup.exists_branches_of_compile (toOption_eq_some_iff.mp success) validated
  refine Branch.sameFindings_resolve (fun branch membership => ?_) _ _
  obtain ⟨compiledBranch, isCompiled, resolved⟩ := List.mem_filterMap.mp membership
  obtain ⟨source, inBranches, compiles⟩ :=
    exists_of_mem_of_map_eq_ok (mapM_eq_ok_iff.mp computed) isCompiled
  obtain ⟨branchValidator, branchValidated, rfl⟩ := Option.map_eq_some_iff.mp resolved
  obtain ⟨inner, innerCompiles, rfl⟩ := CompiledBranch.ofBranch_eq_ok_iff.mp compiles
  refine
    { decided := ?_
      outcome := below group inGroups source inBranches innerCompiles branchValidated }
  unfold Branch.decided? CompiledBranch.discriminator?
  cases parsed : Discriminator.ofCondition? source.1 with
  | none => rfl
  | some discriminator =>
      exact Discriminator.holds?_eq_of_agree
        (agree discriminator.field (.inr (.condition inGroups inBranches parsed rfl)))

theorem sameFindings_of_agreeOn (spreadless : projection.Everywhere Spreadless)
    (success : projection.compile query = .ok compiled)
    (validated : compiled.validator = some validator)
    (agree : projection.AgreeOn left right) :
    Outcome.SameFindings (validator.validate (.object left))
      (validator.validate (.object right)) := by
  induction spreadless generalizing compiled validator with
  | node here below induction =>
      next projection =>
      rw [validator_eq_layered success validated, layers_of_spreadless here]
      refine Validator.sameFindings_layered fun layer membership => ?_
      rcases List.mem_append.mp membership with isNamed | isGroup
      · split at isNamed
        · cases isNamed
        · rw [List.mem_singleton.mp isNamed]
          exact sameFindings_named success agree
      · refine sameFindings_group agree ?_ isGroup
        intro group inGroups branch inBranches inner innerValidator compiles innerValidated
        exact induction group inGroups branch inBranches compiles innerValidated
          (agree.of_branch inGroups inBranches)

/-- Nothing but the declared keys and the tested fields of an object matters to a
projection that spreads nothing: two objects that agree there are accepted alike, with
the same result, and otherwise both are refused with the same number of issues, which
agree one by one in path, message and code. -/
theorem validate_of_agreeOn (spreadless : projection.Everywhere Spreadless)
    (success : projection.compile query = .ok compiled)
    (validated : compiled.validator = some validator)
    (agree : projection.AgreeOn left right) :
    (∀ output, validator.validate (.object left) = .ok output ↔
      validator.validate (.object right) = .ok output) ∧
    ∀ report, validator.validate (.object left) = .error report →
      ∃ other, validator.validate (.object right) = .error other ∧
        report.size = other.size ∧
        report.issues.map Issue.finding = other.issues.map Issue.finding := by
  have same := sameFindings_of_agreeOn spreadless success validated agree
  refine ⟨same.eq_ok_iff, fun report refused => ?_⟩
  cases outcome : validator.validate (.object right) with
  | ok output =>
      rw [(same.eq_ok_iff output).mpr outcome] at refused
      cases refused
  | error other =>
      have reported := same.reported
      rw [refused, outcome] at reported
      refine ⟨other, rfl, ?_, reported⟩
      simpa [Report.size] using congrArg List.length reported

/-- A copied entry, and a choice of which one branch has to apply. -/
def classified : Projection :=
  .declare
    [("title", .flag true),
      ("[Conditional] kind", .conditional (.make "kind"
        [("defined(kind)", .declare [("url", .validator .boolean)])] .firstMatch true))]

private theorem eq_of_mem_classified {group : ConditionalGroup} {branch : String × Projection}
    (inGroups : group ∈ classified.groups) (inBranches : branch ∈ group.branches) :
    branch = ("defined(kind)", .declare [("url", .validator .boolean)]) := by
  have only : classified.groups = [.make "kind"
      [("defined(kind)", .declare [("url", .validator .boolean)])] .firstMatch true] :=
    rfl
  rw [only, List.mem_singleton] at inGroups
  subst inGroups
  exact List.mem_singleton.mp inBranches

private theorem relevant_classified {key : String}
    (relevant : classified.Declares key ∨ classified.Consults key) : "secret" ≠ key := by
  rintro rfl
  rcases relevant with declares | consults
  · cases declares with
    | named membership => exact absurd membership (by decide)
    | inBranch inGroups inBranches declares =>
        cases eq_of_mem_classified inGroups inBranches
        cases declares with
        | named membership => exact absurd membership (by decide)
        | inBranch inGroups => cases inGroups
  · cases consults with
    | condition inGroups inBranches parsed isField =>
        cases eq_of_mem_classified inGroups inBranches
        have tested : (Discriminator.ofCondition? "defined(kind)").map Discriminator.field =
            some "kind" := by decide
        rw [parsed, Option.map_some, isField] at tested
        exact absurd tested (by decide)
    | inBranch inGroups inBranches consults =>
        cases eq_of_mem_classified inGroups inBranches
        cases consults with
        | condition inGroups => cases inGroups
        | inBranch inGroups => cases inGroups

/-- Both reports quote the whole object, with and without its undeclared member. -/
theorem validate_of_agreeOn_classified :
    ∃ compiled validator report other,
      classified.compile (.start false) = .ok compiled ∧ compiled.validator = some validator ∧
      validator.validate (.object (Members.ofList
        [("kind", .null), ("secret", .bool true)])) = .error report ∧
      validator.validate (.object (Members.ofList [("kind", .null)])) = .error other ∧
      report.size = other.size ∧
      report.issues.map Issue.finding = other.issues.map Issue.finding := by
  have spreadless : classified.Everywhere Spreadless := by
    refine .node (by decide) fun group inGroups branch inBranches => ?_
    rw [eq_of_mem_classified inGroups inBranches]
    refine .node (by decide) fun inner membership => ?_
    cases membership
  have agree : classified.AgreeOn
      (Members.ofList [("kind", .null), ("secret", .bool true)])
      (Members.ofList [("kind", .null)]) := by
    intro key relevant
    have inserted := Members.get?_insert (Members.ofList [("kind", Value.null)]) "secret" key
      (Value.bool true)
    rw [if_neg (relevant_classified relevant)] at inserted
    exact inserted
  have refuses : ∃ compiled, classified.compile (.start false) = .ok compiled ∧
      ∃ validator, compiled.validator = some validator ∧
        ∃ report, validator.validate (.object (Members.ofList
          [("kind", .null), ("secret", .bool true)])) = .error report :=
    ⟨_, rfl, _, rfl, _, rfl⟩
  obtain ⟨compiled, success, validator, validated, report, refused⟩ := refuses
  obtain ⟨other, alsoRefused, sameSize, sameFindings⟩ :=
    (validate_of_agreeOn spreadless success validated agree).2 report refused
  exact ⟨compiled, validator, report, other, success, validated, refused, alsoRefused,
    sameSize, sameFindings⟩

end Projection

end CheckedQuery

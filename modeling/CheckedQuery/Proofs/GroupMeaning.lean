import CheckedQuery.Proofs.ProjectionMeaning

/-!
# The meaning of a compiled group

A branch whose condition names a field is decided by an object that shows the field,
and rejected by one that lacks it although the branch declares it.  Any other branch is
left to its validator.  The result of a group depends on these verdicts and on what the
validators of the applicable branches make of the object.
-/

namespace CheckedQuery

/-- What an object says about a branch before any validator looks at it. -/
inductive Verdict where
  | selected
  | rejected
  | undecided
  deriving DecidableEq

/-- Whether a field that is there passes its test. -/
def FieldTest.passes (found : Value) : FieldTest → Bool
  | .defined => !found.isNull
  | .equals literal => found.same literal

theorem Discriminator.holds?_object (discriminator : Discriminator)
    (members : Members Value) :
    discriminator.holds? (.object members) =
      match members.get? discriminator.field with
      | some found => some (discriminator.test.passes found)
      | none => if discriminator.carried then some false else none := by
  simp only [holds?, Value.member?]
  cases members.get? discriminator.field with
  | none => rfl
  | some found => cases discriminator.test <;> rfl

/-- A branch of a group with the text and the validator that its projection compiles
to. -/
structure ValidatedBranch where
  condition : String
  projection : Projection
  text : String
  validator : Validator

namespace ValidatedBranch

/-- The verdict of an object on a branch, by the condition of the branch and the keys
that its projection declares. -/
def verdict (members : Members Value) (branch : ValidatedBranch) : Verdict :=
  match Discriminator.ofCondition? branch.condition with
  | none => .undecided
  | some discriminator =>
      match members.get? discriminator.field with
      | some found => if discriminator.test.passes found then .selected else .rejected
      | none =>
          if discriminator.field ∈ branch.projection.entries.keys then .rejected
          else .undecided

/-- What the validator of a branch makes of an object. -/
def outcome (members : Members Value) (branch : ValidatedBranch) : Outcome :=
  branch.validator.validate (.object members)

/-- Whether a branch applies: it is selected, or undecided and accepted. -/
def applies (members : Members Value) (branch : ValidatedBranch) : Bool :=
  match branch.verdict members with
  | .selected => true
  | .rejected => false
  | .undecided => (branch.outcome members).isOk

/-- What an applicable branch shows at a key. -/
def member? (members : Members Value) (key : String) (branch : ValidatedBranch) :
    Option Value :=
  (branch.outcome members).members?.bind fun output => output.get? key

/-- The issues of the branches that the object selects, in order. -/
def failures (members : Members Value) (branches : List ValidatedBranch) : List Issue :=
  (branches.filter fun branch => branch.verdict members = .selected).flatMap fun branch =>
    (branch.outcome members).issues

/-- The projection of the branch compiles to the text and the validator at hand. -/
def Compiles (query : Query) (branch : ValidatedBranch) : Prop :=
  branch.projection.compile query =
    .ok { text := branch.text
          validator := some branch.validator }

/-- The branch as it stands in the compiled group. -/
def compiledBranch (branch : ValidatedBranch) : CompiledBranch :=
  { condition := branch.condition
    keys := branch.projection.declarations.map Prod.fst
    compiled :=
      { text := branch.text
        validator := some branch.validator } }

/-- The branch as it is resolved. -/
def resolved (branch : ValidatedBranch) : Branch :=
  { condition := branch.condition
    validator := branch.validator
    discriminator := branch.compiledBranch.discriminator? }

end ValidatedBranch

/-- The issue of an object to which none of `count` branches applies. -/
def Issue.noneMatched (count : Nat) (members : Members Value) : Issue :=
  { path := .root
    value := .object members
    message :=
      "The data did not match any of the " ++ toString count ++ " conditional assertions"
    code := "conditional_none_matched" }

/-- What a group makes of an object, by the verdicts on its branches. -/
structure ConditionalGroup.Resolves (group : ConditionalGroup)
    (branches : List ValidatedBranch) (members : Members Value) (outcome : Outcome) :
    Prop where
  /-- Without an applicable branch nothing is added, unless the group is exhaustive. -/
  none_applies : (∀ branch ∈ branches, branch.applies members = false) →
    outcome =
      if group.isExhaustive then .error (.single (.noneMatched branches.length members))
      else .ok .emptyObject
  /-- A choice is what its first applicable branch makes of the object, failure
  included. -/
  first_applies : group.policy = .firstMatch → ∀ branch,
    branches.find? (ValidatedBranch.applies members) = some branch →
      outcome = branch.outcome members
  /-- A merge reports what its selected branches report. -/
  merge_fails : group.policy = .mergeAll →
    (∃ branch ∈ branches, branch.applies members = true) →
    ValidatedBranch.failures members branches ≠ [] →
      ∃ report, outcome = .error report ∧
        report.issues = ValidatedBranch.failures members branches
  /-- A merge without failures shows at every key what the last applicable branch with
  that key shows. -/
  merge_accepts : group.policy = .mergeAll →
    (∃ branch ∈ branches, branch.applies members = true) →
    ValidatedBranch.failures members branches = [] →
      ∃ output, outcome = .ok (.object output) ∧ ∀ key,
        output.get? key =
          (branches.filter (ValidatedBranch.applies members)).reverse.findSome?
            (ValidatedBranch.member? members key)
  /-- Whatever the result shows comes from a branch that is not rejected. -/
  shown : ∀ output key value, outcome = .ok (.object output) →
    output.get? key = some value →
      ∃ branch ∈ branches, branch.verdict members ≠ .rejected ∧
        branch.member? members key = some value
  /-- Whatever is reported comes from a selected branch, or is that none applies. -/
  reported : ∀ report issue, outcome = .error report → issue ∈ report.issues →
    issue = .noneMatched branches.length members ∨
      ∃ branch ∈ branches, branch.verdict members = .selected ∧
        issue ∈ (branch.outcome members).issues

namespace ValidatedBranch

variable (members : Members Value) (branch : ValidatedBranch)

theorem decided?_resolved :
    branch.resolved.decided? (.object members) =
      match branch.verdict members with
      | .selected => some true
      | .rejected => some false
      | .undecided => none := by
  unfold Branch.decided? verdict resolved CompiledBranch.discriminator? compiledBranch
  cases Discriminator.ofCondition? branch.condition with
  | none => rfl
  | some discriminator =>
      simp only [Option.map_some, Option.bind_some, Discriminator.holds?_object]
      cases members.get? discriminator.field with
      | some found =>
          dsimp only
          cases discriminator.test.passes found <;> rfl
      | none =>
          have carried : (branch.projection.declarations.map Prod.fst).contains
              discriminator.field = true ↔
                discriminator.field ∈ branch.projection.entries.keys := by
            rw [List.contains_iff_mem, Projection.entries, Keyed.mem_keys_ofList_iff]
          simp only [carried]
          split <;> rfl

theorem applies_resolved :
    branch.resolved.applies (.object members) = branch.applies members := by
  unfold Branch.applies applies
  rw [decided?_resolved]
  cases branch.verdict members <;> rfl

variable {members branch}

theorem applies_of_selected (selected : branch.verdict members = .selected) :
    branch.applies members = true := by
  simp [applies, selected]

theorem not_rejected_of_applies (applied : branch.applies members = true) :
    branch.verdict members ≠ .rejected := by
  intro rejected
  simp [applies, rejected] at applied

/-- An applicable branch that is not selected has nothing to report. -/
theorem issues_of_applies (applied : branch.applies members = true)
    (unselected : branch.verdict members ≠ .selected) : (branch.outcome members).issues = [] := by
  cases verdict : branch.verdict members with
  | selected => exact absurd verdict unselected
  | rejected => simp [applies, verdict] at applied
  | undecided =>
      rw [applies, verdict] at applied
      exact Outcome.issues_eq_nil_of_isOk applied

theorem mergeIssues_resolved {query : Query} (compiles : branch.Compiles query) :
    branch.resolved.mergeIssues (.object members) = (branch.outcome members).issues :=
  Branch.mergeIssues_eq_issues (Projection.makesObjects_of_compile compiles rfl (.object members))

theorem get?_mergeMembers_resolved (key : String) :
    (branch.resolved.mergeMembers (.object members)).get? key = branch.member? members key :=
  Outcome.get?_objectMembers _ key

/-- The applicable branches report what the selected ones report. -/
theorem flatMap_filter_applies (branches : List ValidatedBranch) :
    (branches.filter (applies members)).flatMap (fun branch => (branch.outcome members).issues) =
      failures members branches := by
  induction branches with
  | nil => rfl
  | cons branch branches induction =>
      unfold failures at induction ⊢
      by_cases selected : branch.verdict members = .selected
      · simp [applies_of_selected selected, selected, induction]
      · by_cases applied : branch.applies members = true
        · simp [applied, selected, induction, issues_of_applies applied selected]
        · simp [applied, selected, induction]

section Resolution

variable {query : Query} {branches : List ValidatedBranch}

private theorem filter_resolved :
    (branches.map resolved).filter (Branch.applies (.object members)) =
      (branches.filter (applies members)).map resolved := by
  simp [List.filter_map, Function.comp_def, applies_resolved]

/-- A choice takes the first applicable branch. -/
theorem firstMatch_resolved (exhaustive : Bool) :
    (Branch.firstMatch (branches.map resolved) exhaustive).validate (.object members) =
      match branches.find? (applies members) with
      | some branch => branch.outcome members
      | none => Branch.noneApplies branches.length (.object members) exhaustive := by
  rw [Branch.firstMatch_eq, List.find?_map, List.length_map]
  simp only [Function.comp_def, applies_resolved]
  cases branches.find? (applies members) <;> rfl

/-- A merge takes all applicable branches. -/
theorem mergeAll_resolved (exhaustive : Bool)
    (compiles : ∀ branch ∈ branches, branch.Compiles query) :
    (Branch.mergeAll (branches.map resolved) exhaustive).validate (.object members) =
      if branches.filter (applies members) = [] then
        Branch.noneApplies branches.length (.object members) exhaustive
      else
        Collector.finish { issues := failures members branches }
          (.object (Members.stack ((branches.filter (applies members)).map fun branch =>
            branch.resolved.mergeMembers (.object members)))) := by
  have reported : ((branches.filter (applies members)).map resolved).flatMap
      (Branch.mergeIssues (.object members)) = failures members branches := by
    rw [← flatMap_filter_applies, List.flatMap_map]
    refine List.flatMap_congr fun branch membership => ?_
    exact mergeIssues_resolved (compiles branch (List.mem_filter.mp membership).1)
  rw [Branch.mergeAll_eq, filter_resolved, reported, List.length_map, List.map_map]
  simp only [List.map_eq_nil_iff]
  rfl

private theorem noneApplies_object (count : Nat) (exhaustive : Bool) :
    Branch.noneApplies count (.object members) exhaustive =
      if exhaustive then .error (.single (.noneMatched count members))
      else .ok .emptyObject :=
  rfl

private theorem get?_of_noneApplies {count : Nat} {exhaustive : Bool}
    {output : Members Value} (accepted :
      Branch.noneApplies count (.object members) exhaustive = .ok (.object output))
    (key : String) : output.get? key = none := by
  rw [noneApplies_object] at accepted
  split at accepted
  · cases accepted
  · cases accepted
    rfl

private theorem eq_noneMatched_of_noneApplies {count : Nat} {exhaustive : Bool}
    {report : Report} (refused :
      Branch.noneApplies count (.object members) exhaustive = .error report)
    {issue : Issue} (membership : issue ∈ report.issues) :
    issue = .noneMatched count members := by
  rw [noneApplies_object] at refused
  split at refused
  · cases refused
    exact List.mem_singleton.mp membership
  · cases refused

/-- Under either policy the verdicts decide alike when no branch applies. -/
private theorem resolves_noneApplies (group : ConditionalGroup)
    (inapplicable : ∀ branch ∈ branches, branch.applies members = false) :
    group.Resolves branches members
      (Branch.noneApplies branches.length (.object members) group.isExhaustive) := by
  have noneApplicable : ¬∃ branch ∈ branches, branch.applies members = true := by
    rintro ⟨branch, membership, applied⟩
    rw [inapplicable branch membership] at applied
    cases applied
  exact
    { none_applies := fun _ => rfl
      first_applies := by
        intro _ branch first
        exact absurd ⟨branch, List.mem_of_find?_eq_some first, List.find?_some first⟩
          noneApplicable
      merge_fails := fun _ applicable => absurd applicable noneApplicable
      merge_accepts := fun _ applicable => absurd applicable noneApplicable
      shown := by
        intro output key value accepted present
        rw [get?_of_noneApplies accepted key] at present
        cases present
      reported := by
        intro report issue refused membership
        exact .inl (eq_noneMatched_of_noneApplies refused membership) }

theorem resolves_firstMatch {group : ConditionalGroup} (policy : group.policy = .firstMatch) :
    group.Resolves branches members
      ((Branch.firstMatch (branches.map resolved) group.isExhaustive).validate
        (.object members)) := by
  rw [firstMatch_resolved]
  cases found : branches.find? (applies members) with
  | none =>
      refine resolves_noneApplies group fun branch membership => ?_
      simpa using List.find?_eq_none.mp found branch membership
  | some branch =>
      have membership := List.mem_of_find?_eq_some found
      have applied : branch.applies members = true := List.find?_some found
      exact
        { none_applies := by
            intro inapplicable
            rw [inapplicable branch membership] at applied
            cases applied
          first_applies := by
            intro _ first isFirst
            rw [found, Option.some.injEq] at isFirst
            rw [isFirst]
          merge_fails := fun merging => by simp [policy] at merging
          merge_accepts := fun merging => by simp [policy] at merging
          shown := by
            intro output key value accepted present
            refine ⟨branch, membership, not_rejected_of_applies applied, ?_⟩
            dsimp only at accepted
            rw [member?, accepted]
            exact present
          reported := by
            intro report issue refused found
            dsimp only at refused
            have mine : issue ∈ (branch.outcome members).issues := by
              rw [refused]
              exact found
            refine .inr ⟨branch, membership, ?_, mine⟩
            by_cases selected : branch.verdict members = .selected
            · exact selected
            · rw [issues_of_applies applied selected] at mine
              cases mine }

private theorem get?_stack_resolved (key : String) :
    (Members.stack ((branches.filter (applies members)).map fun branch =>
        branch.resolved.mergeMembers (.object members))).get? key =
      (branches.filter (applies members)).reverse.findSome? (member? members key) := by
  rw [Members.get?_stack, ← List.map_reverse, List.findSome?_map]
  simp only [Function.comp_def, get?_mergeMembers_resolved]

theorem resolves_mergeAll {group : ConditionalGroup} (policy : group.policy = .mergeAll)
    (compiles : ∀ branch ∈ branches, branch.Compiles query) :
    group.Resolves branches members
      ((Branch.mergeAll (branches.map resolved) group.isExhaustive).validate
        (.object members)) := by
  rw [mergeAll_resolved group.isExhaustive compiles]
  by_cases empty : branches.filter (applies members) = []
  · rw [if_pos empty]
    refine resolves_noneApplies group fun branch membership => ?_
    simpa using List.filter_eq_nil_iff.mp empty branch membership
  · rw [if_neg empty]
    exact
      { none_applies := by
          intro inapplicable
          refine absurd (List.filter_eq_nil_iff.mpr ?_) empty
          intro branch membership
          simp [inapplicable branch membership]
        first_applies := fun choosing => by simp [policy] at choosing
        merge_fails := fun _ _ found => Collector.exists_error_of_issues_ne_nil _ found
        merge_accepts := by
          intro _ _ accepted
          rw [accepted]
          exact ⟨_, rfl, get?_stack_resolved⟩
        shown := by
          intro output key value accepted present
          cases (Collector.finish_eq_ok_iff.mp accepted).2
          rw [get?_stack_resolved] at present
          obtain ⟨branch, membership, contributed⟩ := List.exists_of_findSome?_eq_some present
          have applicable := List.mem_filter.mp (List.mem_reverse.mp membership)
          exact ⟨branch, applicable.1, not_rejected_of_applies applicable.2, contributed⟩
        reported := by
          intro report issue refused membership
          rw [← Collector.finish_eq_error_iff.mp refused] at membership
          obtain ⟨branch, selected, mine⟩ := List.mem_flatMap.mp membership
          have chosen := List.mem_filter.mp selected
          exact .inr ⟨branch, chosen.1, by simpa using chosen.2, mine⟩ }

end Resolution

end ValidatedBranch

namespace ConditionalGroup

variable {query : Query} {group : ConditionalGroup} {branches : List ValidatedBranch}

theorem compile_of_validated
    (declared : group.branches = branches.map fun branch => (branch.condition, branch.projection))
    (compiles : ∀ branch ∈ branches, branch.Compiles query) :
    group.compile query =
      .ok { text := groupText group.policy (branches.map ValidatedBranch.compiledBranch)
            validator :=
              if branches = [] then none
              else some (Branch.resolve (branches.map ValidatedBranch.resolved) group.policy
                group.isExhaustive) } := by
  have computed : group.branches.mapM (CompiledBranch.ofBranch query) =
      .ok (branches.map ValidatedBranch.compiledBranch) := by
    rw [mapM_eq_ok_iff, declared, List.map_map, List.map_map]
    refine List.map_congr_left fun branch membership => ?_
    have success := compiles branch membership
    unfold ValidatedBranch.Compiles at success
    simp only [Function.comp_def, CompiledBranch.ofBranch, success]
    rfl
  have covered : CompiledBranch.unvalidated (branches.map ValidatedBranch.compiledBranch) =
      [] := by
    simp [CompiledBranch.unvalidated_eq_nil_iff, ValidatedBranch.compiledBranch]
  have resolved : (branches.map ValidatedBranch.compiledBranch).filterMap
      CompiledBranch.branch? = branches.map ValidatedBranch.resolved := by
    rw [List.filterMap_map, ← List.filterMap_eq_map]
    rfl
  rw [compile_eq, computed]
  change assembleGroup group.policy group.isExhaustive _ = _
  rw [assembleGroup_eq, covered, resolved, List.length_map]
  cases branches with
  | nil => rfl
  | cons branch branches => rfl

private theorem exists_validated_of_branches {branches : List (String × Projection)}
    (each : ∀ branch ∈ branches, ∃ text validator,
      branch.2.compile query = .ok { text := text, validator := some validator }) :
    ∃ validated : List ValidatedBranch,
      branches = validated.map (fun branch => (branch.condition, branch.projection)) ∧
      ∀ branch ∈ validated, branch.Compiles query := by
  induction branches with
  | nil => exact ⟨[], rfl, by simp⟩
  | cons branch branches induction =>
      obtain ⟨⟨text, validator, compiles⟩, others⟩ := List.forall_mem_cons.mp each
      obtain ⟨validated, rfl, compile⟩ := induction others
      refine ⟨{ condition := branch.1
                projection := branch.2
                text := text
                validator := validator } :: validated, rfl, ?_⟩
      exact List.forall_mem_cons.mpr ⟨compiles, compile⟩

/-- A group with a validator has one for each of its branches, and resolves them. -/
theorem exists_validated_of_compile {compiled : Compiled} {validator : Validator}
    (success : group.compile query = .ok compiled)
    (validated : compiled.validator = some validator) :
    ∃ branches : List ValidatedBranch,
      group.branches = branches.map (fun branch => (branch.condition, branch.projection)) ∧
      (∀ branch ∈ branches, branch.Compiles query) ∧
      validator = Branch.resolve (branches.map ValidatedBranch.resolved) group.policy
        group.isExhaustive := by
  have compiledEach : ∀ branch ∈ group.branches, ∃ text inner,
      branch.2.compile query = .ok { text := text, validator := some inner } := by
    have assembled := success
    rw [compile_eq, bind_eq_ok_iff] at assembled
    obtain ⟨compiledBranches, computed, assembled⟩ := assembled
    rw [assembleGroup_eq] at assembled
    split at assembled
    · cases assembled
      cases validated
    · split at assembled
      · next covered =>
          intro branch membership
          have mapped : CompiledBranch.ofBranch query branch ∈ compiledBranches.map .ok :=
            mapM_eq_ok_iff.mp computed ▸ List.mem_map_of_mem membership
          obtain ⟨compiledBranch, inCompiled, compiles⟩ := List.mem_map.mp mapped
          obtain ⟨result, success, rfl⟩ := CompiledBranch.ofBranch_eq_ok_iff.mp compiles.symm
          obtain ⟨inner, isValidator⟩ := Option.isSome_iff_exists.mp
            (CompiledBranch.unvalidated_eq_nil_iff.mp covered _ inCompiled)
          exact ⟨result.text, inner, by rw [success, ← isValidator]⟩
      · cases assembled
  obtain ⟨branches, declared, compile⟩ := exists_validated_of_branches compiledEach
  refine ⟨branches, declared, compile, ?_⟩
  rw [compile_of_validated declared compile] at success
  cases success
  dsimp only at validated
  split at validated
  · cases validated
  · exact (Option.some.inj validated).symm

/-- A group whose branches all compile to a validator compiles.  It has a validator
itself unless it has no branches, and then the verdicts of an object on the branches
decide what becomes of the object. -/
theorem resolves_of_compile
    (declared : group.branches = branches.map fun branch => (branch.condition, branch.projection))
    (compiles : ∀ branch ∈ branches, branch.Compiles query) :
    ∃ compiled, group.compile query = .ok compiled ∧
      (compiled.validator = none ↔ branches = []) ∧
      ∀ validator, compiled.validator = some validator → ∀ members : Members Value,
        group.Resolves branches members (validator.validate (.object members)) := by
  refine ⟨_, compile_of_validated declared compiles, ?_, ?_⟩
  · by_cases empty : branches = [] <;> simp [empty]
  · intro validator validated members
    dsimp only at validated
    split at validated
    · cases validated
    · cases validated
      cases policy : group.policy with
      | firstMatch => exact ValidatedBranch.resolves_firstMatch policy
      | mergeAll => exact ValidatedBranch.resolves_mergeAll policy compiles

/-- The branches of a group that looks at the locator and at the type of an object. -/
def locatedBranches : List ValidatedBranch :=
  [{ condition := "defined(url)"
     projection := .declare [("url", .validator .boolean)]
     text := "\x7b url \x7d"
     validator := .layered [FieldShape.validator (.ofList [("url", some .boolean)])] },
   { condition := "_type == \"page\""
     projection := .declare [("_type", .validator .unknown)]
     text := "\x7b _type \x7d"
     validator := .layered [FieldShape.validator (.ofList [("_type", some .unknown)])] }]

def located : ConditionalGroup :=
  .make "kind" (locatedBranches.map fun branch => (branch.condition, branch.projection))
    .mergeAll true

theorem resolves_of_compile_located :
    ∃ compiled validator,
      located.compile (.start false) = .ok compiled ∧ compiled.validator = some validator ∧
      ∃ report,
        validator.validate (.object (Members.ofList [("url", .string "x")])) = .error report ∧
        report.issues =
          [{ path := { segments := [.field "url"] }
             value := .string "x"
             message := "Expected boolean, received string"
             code := "invalid_type" }] := by
  have compiles : ∀ branch ∈ locatedBranches, branch.Compiles (.start false) := by
    intro branch membership
    rcases List.mem_cons.mp membership with rfl | later
    · rfl
    · rw [List.mem_singleton.mp later]
      rfl
  obtain ⟨compiled, success, uncovered, resolves⟩ :=
    resolves_of_compile (show located.branches = _ from rfl) compiles
  obtain ⟨validator, validated⟩ :=
    Option.ne_none_iff_exists'.mp (mt uncovered.mp (List.cons_ne_nil _ _))
  have resolution := resolves validator validated (Members.ofList [("url", .string "x")])
  have reported := resolution.merge_fails rfl ⟨_, List.mem_cons_self, rfl⟩ (List.cons_ne_nil _ _)
  exact ⟨compiled, validator, success, validated, reported⟩

end ConditionalGroup

end CheckedQuery

import CheckedQuery.Proofs.DeclaredValues

/-!
# Well-formed projections

Whether a projection compiles, and what is wrong with it otherwise, can be said
without compiling it.  A well-formed projection meets the same conditions at every
level of nesting, and any other one makes a first mistake in a fixed order.
-/

namespace CheckedQuery

/-- Either all items meet a condition, or there is a first one that does not. -/
theorem forall_or_exists_first {α : Type} (condition : α → Prop) (items : List α) :
    (∀ item ∈ items, condition item) ∨
      ∃ before item after, items = before ++ item :: after ∧
        (∀ earlier ∈ before, condition earlier) ∧ ¬condition item := by
  induction items with
  | nil => simp
  | cons item items induction =>
      by_cases met : condition item
      · rcases induction with all | ⟨before, failing, after, rfl, earlier, fails⟩
        · exact .inl (List.forall_mem_cons.mpr ⟨met, all⟩)
        · exact .inr ⟨item :: before, failing, after, rfl,
            List.forall_mem_cons.mpr ⟨met, earlier⟩, fails⟩
      · exact .inr ⟨[], item, items, rfl, by simp, met⟩

/-- Whether a declared value or a branch at any depth supplies a validator. -/
def Projection.suppliesValidator (projection : Projection) : Bool :=
  projection.entries.entries.any (fun entry => entry.2.isValidated) ||
    projection.declaredGroups.attach.any fun group =>
      group.1.branches.attach.any fun branch => branch.1.2.suppliesValidator
termination_by sizeOf projection
decreasing_by
  exact Projection.sizeOf_branch_lt_of_mem_declaredGroups group.2 branch.2

namespace ConditionalGroup

def suppliesValidator (group : ConditionalGroup) : Bool :=
  group.branches.any fun branch => branch.2.suppliesValidator

/-- Either all branches supply a validator or none does. -/
def Uniform (group : ConditionalGroup) : Prop :=
  (∀ branch ∈ group.branches, branch.2.suppliesValidator = true) ∨
    ∀ branch ∈ group.branches, branch.2.suppliesValidator = false

/-- The conditions of the branches that supply no validator, in order. -/
def unvalidatedConditions (group : ConditionalGroup) : List String :=
  (group.branches.filter fun branch => !branch.2.suppliesValidator).map Prod.fst

end ConditionalGroup

namespace Projection

/-- Every field that is included as it is is one that the query declares, if it
declares any. -/
def Known (query : Query) (projection : Projection) : Prop :=
  ∀ declared, query.knownFields = some declared →
    ∀ key ∈ projection.includedKeys, key ∈ declared.keys

/-- Where validation is required, there is no bare spread and the value under every name
brings a validator. -/
def Covered (query : Query) (projection : Projection) : Prop :=
  query.validationRequired = true →
    projection.spreadsBare = false ∧
      ∀ entry ∈ projection.entries.entries, IsName entry.1 → entry.2.isValidated = true

/-- What a projection has to meet on each level. -/
structure WellFormedHere (query : Query) (projection : Projection) : Prop where
  classified : projection.Classified
  known : projection.Known query
  covered : projection.Covered query
  uniform : ∀ group ∈ projection.declaredGroups, group.Uniform

/-- Well formed on every level. -/
inductive WellFormed (query : Query) : Projection → Prop where
  | node {projection : Projection} (here : projection.WellFormedHere query)
      (below : ∀ group ∈ projection.declaredGroups, ∀ branch ∈ group.branches,
        WellFormed query branch.2) :
      WellFormed query projection

end Projection

/-- All branches are well formed, and a validator is supplied by all or none. -/
structure ConditionalGroup.WellFormed (query : Query) (group : ConditionalGroup) : Prop where
  branches : ∀ branch ∈ group.branches, branch.2.WellFormed query
  uniform : group.Uniform

/-- The first mistake in a projection: an entry with a value that its key does not
allow, a field that is included without being known, missing validators, or the first
mistake in the first group that is not well formed. -/
inductive Projection.FirstMistake (query : Query) : Projection → ConfigError → Prop where
  | misplaced {projection : Projection} {before after : List (String × FieldValue)}
      {key : String} {value : FieldValue}
      (entries : projection.entries.entries = before ++ (key, value) :: after)
      (earlier : ∀ entry ∈ before, ∃ spec, FieldSpec.ReadsAs entry.1 entry.2 spec)
      (unread : ∀ spec, ¬FieldSpec.ReadsAs key value spec) :
      FirstMistake query projection (.unexpectedProjectionValue key)
  | unknown {projection : Projection} {declared : Keyed Unit} {before after : List String}
      {key : String} (classified : projection.Classified)
      (declares : query.knownFields = some declared)
      (included : projection.includedKeys = before ++ key :: after)
      (earlier : ∀ name ∈ before, name ∈ declared.keys) (unknown : key ∉ declared.keys) :
      FirstMistake query projection (.unknownField key)
  | uncovered {projection : Projection} (classified : projection.Classified)
      (known : projection.Known query) (uncovered : ¬projection.Covered query) :
      FirstMistake query projection (.missingValidation projection.missingKeys)
  | inBranch {projection inner : Projection} {error : ConfigError}
      {before after : List ConditionalGroup} {group : ConditionalGroup}
      {first rest : List (String × Projection)} {condition : String}
      (classified : projection.Classified) (known : projection.Known query)
      (covered : projection.Covered query)
      (groups : projection.declaredGroups = before ++ group :: after)
      (earlier : ∀ other ∈ before, other.WellFormed query)
      (branches : group.branches = first ++ (condition, inner) :: rest)
      (earlierBranches : ∀ branch ∈ first, branch.2.WellFormed query)
      (mistake : FirstMistake query inner error) :
      FirstMistake query projection error
  | mixed {projection : Projection} {before after : List ConditionalGroup}
      {group : ConditionalGroup} (classified : projection.Classified)
      (known : projection.Known query) (covered : projection.Covered query)
      (groups : projection.declaredGroups = before ++ group :: after)
      (earlier : ∀ other ∈ before, other.WellFormed query)
      (wellFormed : ∀ branch ∈ group.branches, branch.2.WellFormed query)
      (mixed : ¬group.Uniform) :
      FirstMistake query projection (.partialBranchValidation group.unvalidatedConditions)

namespace Projection

variable {query : Query} {projection : Projection}

theorem suppliesValidator_iff :
    projection.suppliesValidator = true ↔
      (∃ entry ∈ projection.entries.entries, entry.2.isValidated = true) ∨
      ∃ group ∈ projection.declaredGroups, group.suppliesValidator = true := by
  rw [suppliesValidator]
  simp [ConditionalGroup.suppliesValidator]

theorem mayInclude_iff {key : String} :
    query.mayInclude key = true ↔
      ∀ declared, query.knownFields = some declared → key ∈ declared.keys := by
  unfold Query.mayInclude
  cases query.knownFields <;> simp

/-- The keys that compiling searches for unknown ones. -/
theorem known_iff (classified : projection.Classified) :
    projection.Known query ↔ ∀ key ∈ projection.copiedKeys, query.mayInclude key = true := by
  rw [copiedKeys_eq_includedKeys classified]
  simp only [Known, mayInclude_iff]
  exact ⟨fun known key membership declared declares => known declared declares key membership,
    fun known declared declares key membership => known key membership declared declares⟩

theorem covered_iff :
    projection.Covered query ↔
      (query.validationRequired = true → projection.missingKeys = []) := by
  rw [missingKeys_eq_nil_iff]
  rfl

theorem compile_of_misplaced {before after : List (String × FieldValue)} {key : String}
    {value : FieldValue} (entries : projection.entries.entries = before ++ (key, value) :: after)
    (earlier : ∀ entry ∈ before, ∃ spec, FieldSpec.ReadsAs entry.1 entry.2 spec)
    (unread : ∀ spec, ¬FieldSpec.ReadsAs key value spec) :
    projection.compile query = .error (.unexpectedProjectionValue key) := by
  have failed : projection.entries.entries.mapM FieldSpec.ofEntry =
      .error (.unexpectedProjectionValue key) := by
    rw [entries]
    refine mapM_eq_error_of_first ?_ ?_
    · intro entry membership
      obtain ⟨spec, reads⟩ := earlier entry membership
      exact ⟨(entry.1, spec), FieldSpec.ofEntry_eq_ok_iff.mpr
        ⟨rfl, FieldSpec.classify_eq_ok_iff_readsAs.mpr reads⟩⟩
    · have unclassified : ∀ spec, FieldSpec.classify key value ≠ .ok spec :=
        fun spec => mt FieldSpec.classify_eq_ok_iff_readsAs.mp (unread spec)
      rw [FieldSpec.ofEntry, FieldSpec.classify_eq_error unclassified]
      rfl
  rw [compile_eq, failed]
  rfl

theorem compile_of_unknown {declared : Keyed Unit} {before after : List String} {key : String}
    (classified : projection.Classified) (declares : query.knownFields = some declared)
    (included : projection.includedKeys = before ++ key :: after)
    (earlier : ∀ name ∈ before, name ∈ declared.keys) (unknown : key ∉ declared.keys) :
    projection.compile query = .error (.unknownField key) := by
  obtain ⟨specs, computed⟩ := exists_specs_iff_classified.mpr classified
  have first : projection.copiedKeys.find? (fun key => !query.mayInclude key) = some key := by
    rw [copiedKeys_eq_includedKeys classified, List.find?_eq_some_iff_append]
    refine ⟨by simpa [Query.mayInclude, declares] using unknown, before, after, included, ?_⟩
    intro name membership
    simpa [Query.mayInclude, declares] using earlier name membership
  rw [compile_eq, computed, first]
  rfl

theorem compile_of_uncovered (classified : projection.Classified)
    (known : projection.Known query) (uncovered : ¬projection.Covered query) :
    projection.compile query = .error (.missingValidation projection.missingKeys) := by
  obtain ⟨specs, computed⟩ := exists_specs_iff_classified.mpr classified
  have noneUnknown : projection.copiedKeys.find? (fun key => !query.mayInclude key) = none := by
    simpa using (known_iff classified).mp known
  rw [covered_iff, Classical.not_imp] at uncovered
  rw [compile_eq, computed, noneUnknown, unvalidatedKeys_eq_missingKeys classified]
  simp [bind, Except.bind, uncovered.1, uncovered.2]
  rfl

/-- Past its own mistakes, compiling a projection is compiling its groups. -/
theorem compile_eq_map_groups (classified : projection.Classified)
    (known : projection.Known query) (covered : projection.Covered query) :
    projection.compile query =
      (projection.declaredGroups.mapM (ConditionalGroup.compile query)).map
        projection.assembled := by
  obtain ⟨specs, computed⟩ := exists_specs_iff_classified.mpr classified
  have noneUnknown : projection.copiedKeys.find? (fun key => !query.mayInclude key) = none := by
    simpa using (known_iff classified).mp known
  have noneMissing : (query.validationRequired && !projection.missingKeys.isEmpty) = false := by
    simpa using covered_iff.mp covered
  rw [compile_eq, computed, noneUnknown, unvalidatedKeys_eq_missingKeys classified,
    groups_eq_declaredGroups classified]
  simp only [bind, Except.bind, noneMissing, Bool.false_eq_true, if_false]
  cases projection.declaredGroups.mapM (ConditionalGroup.compile query) <;> rfl

end Projection

section Presence

variable {query : Query}

/-- The compiled branches without a validator are those that supply none. -/
private theorem unvalidated_of_agree {branches : List (String × Projection)}
    {compiled : List CompiledBranch}
    (computed : branches.mapM (CompiledBranch.ofBranch query) = .ok compiled)
    (agree : ∀ branch ∈ branches, ∀ result, branch.2.compile query = .ok result →
      result.validator.isSome = branch.2.suppliesValidator) :
    compiled.length = branches.length ∧
      CompiledBranch.unvalidated compiled =
        (branches.filter fun branch => !branch.2.suppliesValidator).map Prod.fst := by
  rw [mapM_eq_ok_iff] at computed
  induction branches generalizing compiled with
  | nil =>
      cases compiled with
      | nil => exact ⟨rfl, rfl⟩
      | cons first others => cases computed
  | cons branch branches induction =>
      cases compiled with
      | nil => cases computed
      | cons first others =>
          simp only [List.map_cons, List.cons.injEq] at computed
          obtain ⟨length, unvalidated⟩ := induction computed.2
            fun other membership => agree other (List.mem_cons_of_mem _ membership)
          obtain ⟨result, success, rfl⟩ := CompiledBranch.ofBranch_eq_ok_iff.mp computed.1
          have present := agree branch List.mem_cons_self result success
          unfold CompiledBranch.unvalidated at unvalidated ⊢
          refine ⟨by rw [List.length_cons, List.length_cons, length], ?_⟩
          rw [List.filter_cons, List.filter_cons, ← present]
          cases result.validator <;> simp [unvalidated]

namespace ConditionalGroup

variable {group : ConditionalGroup}

theorem length_unvalidatedConditions_eq_iff :
    group.unvalidatedConditions.length = group.branches.length ↔
      ∀ branch ∈ group.branches, branch.2.suppliesValidator = false := by
  simp [unvalidatedConditions, List.length_filter_eq_length_iff]

theorem unvalidatedConditions_eq_nil_iff :
    group.unvalidatedConditions = [] ↔
      ∀ branch ∈ group.branches, branch.2.suppliesValidator = true := by
  simp [unvalidatedConditions, List.filter_eq_nil_iff]

private theorem assembleGroup_of_agree {compiledBranches : List CompiledBranch}
    (computed : group.branches.mapM (CompiledBranch.ofBranch query) = .ok compiledBranches)
    (agree : ∀ branch ∈ group.branches, ∀ result, branch.2.compile query = .ok result →
      result.validator.isSome = branch.2.suppliesValidator) :
    group.compile query =
      if group.unvalidatedConditions.length = group.branches.length then
        .ok { text := groupText group.policy compiledBranches
              validator := none }
      else if group.unvalidatedConditions = [] then
        .ok { text := groupText group.policy compiledBranches
              validator := some (Branch.resolve
                (compiledBranches.filterMap CompiledBranch.branch?) group.policy
                group.isExhaustive) }
      else .error (.partialBranchValidation group.unvalidatedConditions) := by
  obtain ⟨length, unvalidated⟩ := unvalidated_of_agree computed agree
  rw [compile_eq, computed]
  change assembleGroup _ _ _ = _
  rw [assembleGroup_eq, unvalidated, length]
  rfl

private theorem isSome_validator_of_agree {compiled : Compiled}
    (success : group.compile query = .ok compiled)
    (agree : ∀ branch ∈ group.branches, ∀ result, branch.2.compile query = .ok result →
      result.validator.isSome = branch.2.suppliesValidator) :
    compiled.validator.isSome = group.suppliesValidator := by
  have assembled := success
  rw [compile_eq, bind_eq_ok_iff] at assembled
  obtain ⟨compiledBranches, computed, -⟩ := assembled
  rw [assembleGroup_of_agree computed agree] at success
  unfold suppliesValidator
  split at success
  · next none =>
      cases success
      have unsupplied := length_unvalidatedConditions_eq_iff.mp none
      simpa using unsupplied
  · next some =>
      split at success
      · next all =>
          cases success
          have supplied := unvalidatedConditions_eq_nil_iff.mp all
          cases branches : group.branches with
          | nil => simp [all, branches] at some
          | cons branch others =>
              have first := supplied branch (by simp [branches])
              simp [first]
      · cases success

end ConditionalGroup

/-- Whether a compiled projection has a validator does not depend on the query. -/
theorem Projection.isSome_validator_of_compile {projection : Projection} {compiled : Compiled}
    (success : projection.compile query = .ok compiled) :
    compiled.validator.isSome = projection.suppliesValidator := by
  induction projection using branch_induction generalizing compiled with
  | node projection induction =>
      obtain ⟨specs, -, -, compiledGroups, computed, rfl⟩ := compile_eq_ok_iff.mp success
      have classified := exists_specs_iff_classified.mp specs
      have groupwise : compiledGroups.filterMap Compiled.validator = [] ↔
          ∀ group ∈ projection.groups, group.suppliesValidator = false := by
        rw [filterMap_of_map_eq_ok (mapM_eq_ok_iff.mp computed), List.filterMap_eq_nil_iff]
        refine forall₂_congr fun group membership => ?_
        obtain ⟨result, compiles⟩ := exists_mapM_eq_ok_iff.mp ⟨_, computed⟩ group membership
        have present := ConditionalGroup.isSome_validator_of_agree compiles
          fun branch inBranches _ success => induction group membership branch inBranches success
        rw [← present, compiles]
        simp [Except.toOption]
      have supplied : compiledGroups.filterMap Compiled.validator ≠ [] ↔
          ∃ group ∈ projection.declaredGroups, group.suppliesValidator = true := by
        rw [Ne, groupwise, groups_eq_declaredGroups classified]
        simp
      rw [isSome_validator_assembled, Bool.eq_iff_iff, isValidated_iff, supplied, ← or_assoc,
        exists_validated_iff classified, suppliesValidator_iff]

variable {projection : Projection} {group : ConditionalGroup}

namespace ConditionalGroup

private theorem exists_compiledBranches
    (compiles : ∀ branch ∈ group.branches, ∃ compiled, branch.2.compile query = .ok compiled) :
    ∃ compiledBranches,
      group.branches.mapM (CompiledBranch.ofBranch query) = .ok compiledBranches := by
  refine exists_mapM_eq_ok_iff.mpr fun branch membership => ?_
  obtain ⟨result, success⟩ := compiles branch membership
  exact ⟨_, CompiledBranch.ofBranch_eq_ok_iff.mpr ⟨result, success, rfl⟩⟩

private theorem exists_compile_of_uniform
    (compiles : ∀ branch ∈ group.branches, ∃ compiled, branch.2.compile query = .ok compiled)
    (uniform : group.Uniform) : ∃ compiled, group.compile query = .ok compiled := by
  obtain ⟨compiledBranches, computed⟩ := exists_compiledBranches compiles
  rw [assembleGroup_of_agree computed fun _ _ _ => Projection.isSome_validator_of_compile]
  rcases uniform with all | none
  · rw [unvalidatedConditions_eq_nil_iff.mpr all]
    split <;> exact ⟨_, rfl⟩
  · rw [if_pos (length_unvalidatedConditions_eq_iff.mpr none)]
    exact ⟨_, rfl⟩

private theorem compile_of_mixed
    (compiles : ∀ branch ∈ group.branches, ∃ compiled, branch.2.compile query = .ok compiled)
    (mixed : ¬group.Uniform) :
    group.compile query = .error (.partialBranchValidation group.unvalidatedConditions) := by
  obtain ⟨compiledBranches, computed⟩ := exists_compiledBranches compiles
  rw [assembleGroup_of_agree computed fun _ _ _ => Projection.isSome_validator_of_compile]
  rw [Uniform, not_or] at mixed
  rw [if_neg (mt length_unvalidatedConditions_eq_iff.mp mixed.2),
    if_neg (mt unvalidatedConditions_eq_nil_iff.mp mixed.1)]

end ConditionalGroup

end Presence

section Soundness

variable {query : Query}

theorem Projection.exists_compile_of_wellFormed {projection : Projection}
    (wellFormed : projection.WellFormed query) :
    ∃ compiled, projection.compile query = .ok compiled := by
  induction wellFormed with
  | node here below induction =>
      rw [compile_eq_map_groups here.classified here.known here.covered]
      obtain ⟨compiledGroups, computed⟩ := exists_mapM_eq_ok_iff.mpr fun group membership =>
        ConditionalGroup.exists_compile_of_uniform (induction group membership)
          (here.uniform group membership)
      rw [computed]
      exact ⟨_, rfl⟩

theorem ConditionalGroup.exists_compile_of_wellFormed {group : ConditionalGroup}
    (wellFormed : group.WellFormed query) : ∃ compiled, group.compile query = .ok compiled :=
  exists_compile_of_uniform (fun branch membership =>
    Projection.exists_compile_of_wellFormed (wellFormed.branches branch membership))
    wellFormed.uniform

/-- A group fails with what its first branch that fails, fails with. -/
theorem ConditionalGroup.compile_of_branch {group : ConditionalGroup}
    {first rest : List (String × Projection)} {condition : String} {inner : Projection}
    {error : ConfigError} (branches : group.branches = first ++ (condition, inner) :: rest)
    (earlier : ∀ branch ∈ first, branch.2.WellFormed query)
    (failed : inner.compile query = .error error) : group.compile query = .error error := by
  have computed : group.branches.mapM (CompiledBranch.ofBranch query) = .error error := by
    rw [branches]
    refine mapM_eq_error_of_first ?_ ?_
    · intro branch membership
      obtain ⟨result, success⟩ :=
        Projection.exists_compile_of_wellFormed (earlier branch membership)
      exact ⟨_, CompiledBranch.ofBranch_eq_ok_iff.mpr ⟨result, success, rfl⟩⟩
    · rw [CompiledBranch.ofBranch, failed]
      rfl
  rw [compile_eq, computed]
  rfl

namespace Projection

variable {projection : Projection}

/-- A projection fails with what its first group that fails, fails with. -/
theorem compile_of_group {before after : List ConditionalGroup} {group : ConditionalGroup}
    {error : ConfigError} (classified : projection.Classified)
    (known : projection.Known query) (covered : projection.Covered query)
    (groups : projection.declaredGroups = before ++ group :: after)
    (earlier : ∀ other ∈ before, other.WellFormed query)
    (failed : group.compile query = .error error) :
    projection.compile query = .error error := by
  rw [compile_eq_map_groups classified known covered, groups,
    mapM_eq_error_of_first (fun other membership =>
      ConditionalGroup.exists_compile_of_wellFormed (earlier other membership)) failed]
  rfl

theorem compile_of_firstMistake {error : ConfigError}
    (mistake : projection.FirstMistake query error) :
    projection.compile query = .error error := by
  induction mistake with
  | misplaced entries earlier unread =>
      exact compile_of_misplaced entries earlier unread
  | unknown classified declares included earlier unknown =>
      exact compile_of_unknown classified declares included earlier unknown
  | uncovered classified known uncovered =>
      exact compile_of_uncovered classified known uncovered
  | inBranch classified known covered groups earlier branches earlierBranches _ induction =>
      exact compile_of_group classified known covered groups earlier
        (ConditionalGroup.compile_of_branch branches earlierBranches induction)
  | mixed classified known covered groups earlier wellFormed mixed =>
      exact compile_of_group classified known covered groups earlier
        (ConditionalGroup.compile_of_mixed (fun branch membership =>
          exists_compile_of_wellFormed (wellFormed branch membership)) mixed)

end Projection

end Soundness

namespace Projection

variable {query : Query}

private theorem known_or_exists_unknown (query : Query) (projection : Projection) :
    projection.Known query ∨
      ∃ declared before key after, query.knownFields = some declared ∧
        projection.includedKeys = before ++ key :: after ∧
        (∀ name ∈ before, name ∈ declared.keys) ∧ key ∉ declared.keys := by
  cases declares : query.knownFields with
  | none =>
      left
      intro declared impossible
      rw [declares] at impossible
      cases impossible
  | some declared =>
      rcases forall_or_exists_first (· ∈ declared.keys) projection.includedKeys with
        known | ⟨before, key, after, included, earlier, unknown⟩
      · left
        intro found same
        rw [declares] at same
        cases same
        exact known
      · exact .inr ⟨declared, before, key, after, rfl, included, earlier, unknown⟩

/-- Nothing lies between well-formedness and a first mistake. -/
theorem wellFormed_or_firstMistake (query : Query) (projection : Projection) :
    projection.WellFormed query ∨ ∃ error, projection.FirstMistake query error := by
  induction projection using branch_induction with
  | node projection induction =>
      rcases forall_or_exists_first
          (fun entry => ∃ spec, FieldSpec.ReadsAs entry.1 entry.2 spec)
          projection.entries.entries with
        classified | ⟨before, ⟨key, value⟩, after, entries, earlier, unread⟩
      case inr =>
        exact .inr ⟨_, .misplaced entries earlier (not_exists.mp unread)⟩
      rcases known_or_exists_unknown query projection with
        known | ⟨declared, before, key, after, declares, included, earlier, unknown⟩
      case inr =>
        exact .inr ⟨_, .unknown classified declares included earlier unknown⟩
      by_cases covered : projection.Covered query
      case neg =>
        exact .inr ⟨_, .uncovered classified known covered⟩
      rw [groups_eq_declaredGroups classified] at induction
      rcases forall_or_exists_first (ConditionalGroup.WellFormed query)
          projection.declaredGroups with
        groups | ⟨before, group, after, groups, earlier, malformed⟩
      · exact .inl (.node
          { classified := classified
            known := known
            covered := covered
            uniform := fun group membership => (groups group membership).uniform }
          fun group membership => (groups group membership).branches)
      -- The first group that is not well formed fails in a branch or has mixed branches.
      · have inGroups : group ∈ projection.declaredGroups := by simp [groups]
        rcases forall_or_exists_first (fun branch : String × Projection =>
            branch.2.WellFormed query) group.branches with
          wellFormed | ⟨first, ⟨condition, inner⟩, rest, branches, earlierBranches, faulty⟩
        · exact .inr ⟨_, .mixed classified known covered groups earlier wellFormed
            fun uniform => malformed ⟨wellFormed, uniform⟩⟩
        · have inBranches : (condition, inner) ∈ group.branches := by simp [branches]
          obtain ⟨error, mistake⟩ :=
            (induction group inGroups _ inBranches).resolve_left faulty
          exact .inr ⟨error, .inBranch classified known covered groups earlier branches
            earlierBranches mistake⟩

theorem WellFormed.of_branch {projection : Projection} {group : ConditionalGroup}
    {branch : String × Projection} (wellFormed : projection.WellFormed query)
    (inGroups : group ∈ projection.declaredGroups) (inBranches : branch ∈ group.branches) :
    branch.2.WellFormed query := by
  cases wellFormed with
  | node here below => exact below group inGroups branch inBranches

/-- Exactly the well-formed projections compile.  The result has a validator when a
declared value brings one or a compiled branch has one, and any other projection is
refused for its first mistake. -/
theorem compiles_iff_wellFormed (query : Query) (projection : Projection) :
    ((∃ compiled, projection.compile query = .ok compiled) ↔ projection.WellFormed query) ∧
    (∀ compiled, projection.compile query = .ok compiled →
      compiled.validator.isSome = projection.suppliesValidator ∧
      (compiled.validator.isSome = true ↔
        (∃ entry ∈ projection.entries.entries, entry.2.isValidated = true) ∨
        ∃ group ∈ projection.declaredGroups, ∃ branch ∈ group.branches, ∃ inner,
          branch.2.compile query = .ok inner ∧ inner.validator.isSome = true)) ∧
    ∀ error, projection.compile query = .error error ↔
      projection.FirstMistake query error := by
  have succeeds : (∃ compiled, projection.compile query = .ok compiled) ↔
      projection.WellFormed query := by
    constructor
    · rintro ⟨compiled, success⟩
      rcases wellFormed_or_firstMistake query projection with wellFormed | ⟨error, mistake⟩
      · exact wellFormed
      · rw [compile_of_firstMistake mistake] at success
        cases success
    · exact exists_compile_of_wellFormed
  refine ⟨succeeds, ?_, ?_⟩
  · intro compiled success
    refine ⟨isSome_validator_of_compile success, ?_⟩
    have below := succeeds.mp ⟨compiled, success⟩
    rw [isSome_validator_of_compile success, suppliesValidator_iff]
    refine or_congr_right (exists_congr fun group =>
      and_congr_right fun inGroups => ?_)
    rw [ConditionalGroup.suppliesValidator, List.any_eq_true]
    refine exists_congr fun branch => and_congr_right fun inBranches => ?_
    obtain ⟨inner, compiles⟩ :=
      exists_compile_of_wellFormed (below.of_branch inGroups inBranches)
    simp [compiles, ← isSome_validator_of_compile compiles]
  · intro error
    constructor
    · intro failed
      rcases wellFormed_or_firstMistake query projection with wellFormed | ⟨found, mistake⟩
      · obtain ⟨compiled, success⟩ := exists_compile_of_wellFormed wellFormed
        rw [success] at failed
        cases failed
      · have same := compile_of_firstMistake mistake
        rw [failed] at same
        cases same
        exact mistake
    · exact compile_of_firstMistake

def strictQuery : Query :=
  (Query.start true).withKnownFields ["title", "slug"]

private def choosing (branches : List (String × Projection)) : Projection :=
  .declare [("[Conditional] media", .conditional (.make "media" branches .mergeAll false))]

/-- The spread and two names lack a validator, and the name between them has one. -/
def bareListing : Projection :=
  .declare
    [("title", .flag true), ("...", .flag true), ("rating", .validator .boolean),
      ("slug", .path "slug.current")]

/-- The field that is not known is found before the names without a validator. -/
def unknownListing : Projection :=
  .declare [("title", .flag true), ("body", .flag true), ("slug", .path "slug.current")]

/-- The path under the spread key is found before the field that is not known. -/
def misplacedListing : Projection :=
  .declare [("body", .flag true), ("...", .path "slug.current")]

/-- Two branches of a branch without a validator, next to one that has one. -/
def mixedListing : Projection :=
  choosing [("defined(url)", choosing
    [("defined(alt)", .declare []), ("defined(width)", .declare [("width", .validator .boolean)]),
      ("defined(caption)", .declare [])])]

/-- Only the branches of a branch have validators. -/
def coveredListing : Projection :=
  choosing [("defined(url)", choosing
    [("defined(width)", .declare [("width", .validator .boolean)]),
      ("defined(caption)", .declare [("caption", .pathWith "caption.text" .null)])])]

theorem compiles_iff_wellFormed_listings :
    bareListing.compile strictQuery = .error (.missingValidation ["...", "title", "slug"]) ∧
    bareListing.FirstMistake strictQuery (.missingValidation ["...", "title", "slug"]) ∧
    unknownListing.FirstMistake strictQuery (.unknownField "body") ∧
    misplacedListing.FirstMistake strictQuery (.unexpectedProjectionValue "...") ∧
    mixedListing.FirstMistake strictQuery
      (.partialBranchValidation ["defined(alt)", "defined(caption)"]) ∧
    coveredListing.WellFormed strictQuery ∧
    ∃ compiled, coveredListing.compile strictQuery = .ok compiled ∧
      compiled.validator.isSome = true := by
  refine ⟨rfl, ?_, ?_, ?_, ?_, ?_, ?_⟩
  · exact ((compiles_iff_wellFormed strictQuery bareListing).2.2 _).mp rfl
  · exact ((compiles_iff_wellFormed strictQuery unknownListing).2.2 _).mp rfl
  · exact ((compiles_iff_wellFormed strictQuery misplacedListing).2.2 _).mp rfl
  · exact ((compiles_iff_wellFormed strictQuery mixedListing).2.2 _).mp rfl
  · exact (compiles_iff_wellFormed strictQuery coveredListing).1.mp ⟨_, rfl⟩
  · exact ⟨_, rfl, rfl⟩

end Projection

end CheckedQuery

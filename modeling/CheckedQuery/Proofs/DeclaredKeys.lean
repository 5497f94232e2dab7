import CheckedQuery.Proofs.ProjectionMeaning
import CheckedQuery.Proofs.ProjectionTree

/-!
# Declared keys

The result of a projection that spreads nothing has the keys that the projection
names, and any other key of it is named by a branch.  Whatever else the source has,
it stays there.
-/

namespace CheckedQuery

namespace Projection

variable {query : Query} {projection : Projection} {compiled : Compiled}
  {validator : Validator}

/-- The keys that are neither the spread nor those of groups. -/
def namedKeys (projection : Projection) : List String :=
  projection.entries.keys.filter fun key => key ≠ spreadKey ∧ FieldSpec.isGroupKey key = false

/-- Nothing is spread on this level. -/
def Spreadless (projection : Projection) : Prop :=
  spreadKey ∉ projection.entries.keys

instance (projection : Projection) : Decidable projection.Spreadless :=
  inferInstanceAs (Decidable (spreadKey ∉ projection.entries.keys))

/-- A projection names a key, or a branch of one of its groups declares it. -/
inductive Declares (key : String) : Projection → Prop where
  | named {projection : Projection} (membership : key ∈ projection.namedKeys) :
      Declares key projection
  | inBranch {projection : Projection} {group : ConditionalGroup}
      {branch : String × Projection} (inGroups : group ∈ projection.groups)
      (inBranches : branch ∈ group.branches) (declares : Declares key branch.2) :
      Declares key projection

private theorem named_of_entry {entry : String × FieldValue} {spec : FieldSpec}
    (classified : FieldSpec.classify entry.1 entry.2 = .ok spec) :
    ((FieldSpec.ofEntry entry).toOption.bind fun found =>
        NamedField.ofSpec? found.1 found.2).map NamedField.key =
      if entry.1 ≠ spreadKey ∧ FieldSpec.isGroupKey entry.1 = false then some entry.1
      else none := by
  have own := FieldSpec.isSome_ofSpec?_iff classified
  rw [FieldSpec.ofEntry, classified]
  simp only [Except.map, Except.toOption, Option.bind_some]
  cases named : NamedField.ofSpec? entry.1 spec with
  | none =>
      rw [if_neg fun reserved => by simpa [named] using own.mpr reserved]
      rfl
  | some field =>
      rw [if_pos (own.mp (by rw [named]; rfl)), Option.map_some,
        NamedField.key_of_ofSpec? named]

/-- The named entries of a projection that compiles are those with keys of their
own. -/
theorem keys_namedFields (success : projection.compile query = .ok compiled) :
    projection.namedFields.map NamedField.key = projection.namedKeys := by
  obtain ⟨⟨allowed, classified⟩, -⟩ := compile_eq_ok_iff.mp success
  calc
    projection.namedFields.map NamedField.key =
        projection.entries.entries.filterMap fun entry =>
          ((FieldSpec.ofEntry entry).toOption.bind fun found =>
            NamedField.ofSpec? found.1 found.2).map NamedField.key := by
      simp only [namedFields, specs, List.map_filterMap, List.filterMap_filterMap]
    _ = projection.entries.entries.filterMap fun entry =>
          if entry.1 ≠ spreadKey ∧ FieldSpec.isGroupKey entry.1 = false then some entry.1
          else none := by
      refine List.filterMap_congr fun entry membership => ?_
      obtain ⟨⟨key, spec⟩, isSpec⟩ :=
        exists_mapM_eq_ok_iff.mp ⟨allowed, classified⟩ entry membership
      cases found : FieldSpec.classify entry.1 entry.2 with
      | error error =>
          rw [FieldSpec.ofEntry, found] at isSpec
          cases isSpec
      | ok spec => exact named_of_entry found
    _ = projection.namedKeys := by
      rw [namedKeys, Keyed.keys, ← List.filterMap_eq_filter, List.filterMap_map]
      refine List.filterMap_congr fun entry _ => ?_
      simp [Option.guard]

theorem spread?_of_spreadless (spreadless : projection.Spreadless) :
    projection.spread? = none := by
  refine List.findSome?_eq_none_iff.mpr ?_
  rintro ⟨key, spec⟩ membership
  obtain ⟨value, inEntries, classified⟩ := mem_specs_iff.mp membership
  cases spec with
  | spread supplied =>
      have isSpread := FieldSpec.eq_spreadKey_of_classify classified
      exact absurd (List.mem_map.mpr ⟨_, inEntries, isSpread⟩) spreadless
  | copied | path | pathWith | validator | nested | conditional => rfl

theorem base_of_spreadless (spreadless : projection.Spreadless) (members : Members Value) :
    projection.base members = .ok .emptyObject := by
  rw [base, spread?_of_spreadless spreadless]

theorem isSome_result?_of_named {members : Members Value} {key : String}
    (silent : projection.issues query members = [])
    (named : key ∈ projection.namedFields.map NamedField.key) :
    (projection.result? query members key).isSome = true := by
  obtain ⟨field, isField, sameKey⟩ := List.mem_map.mp named
  obtain ⟨first, isFirst⟩ : ∃ first,
      (projection.namedFields.find? fun field => field.key = key) = some first :=
    Option.isSome_iff_exists.mp (List.find?_isSome.mpr ⟨field, isField, by simpa using sameKey⟩)
  simp only [issues, List.append_eq_nil_iff, List.flatMap_eq_nil_iff, List.map_eq_nil_iff]
    at silent
  obtain ⟨output, outcome⟩ := Outcome.issues_eq_nil_iff.mp
    (silent.1.2 first (List.mem_of_find?_eq_some isFirst))
  simp [result?, isFirst, outcome, Except.toOption]

theorem exists_branch_of_groupValidator {members made : Members Value} {key : String}
    {found : Value} (isGroup : validator ∈ projection.groupValidators query)
    (accepted : validator.validate (.object members) = .ok (.object made))
    (shown : made.get? key = some found) :
    ∃ group ∈ projection.groups, ∃ branch ∈ group.branches,
      ∃ inner branchValidator output, branch.2.compile query = .ok inner ∧
        inner.validator = some branchValidator ∧
        branchValidator.validate (.object members) = .ok (.object output) ∧
        output.get? key = some found := by
  obtain ⟨group, inGroups, isValidator⟩ := List.mem_filterMap.mp isGroup
  obtain ⟨compiledGroup, success, validated⟩ := Option.bind_eq_some_iff.mp isValidator
  obtain ⟨compiledBranches, computed, rfl⟩ :=
    ConditionalGroup.exists_branches_of_compile (toOption_eq_some_iff.mp success) validated
  obtain ⟨branch, isBranch, output, outcome, present⟩ :=
    Branch.exists_branch_of_resolve accepted shown
  obtain ⟨compiledBranch, isCompiled, resolved⟩ := List.mem_filterMap.mp isBranch
  obtain ⟨source, inBranches, compiles⟩ :=
    exists_of_mem_of_map_eq_ok (mapM_eq_ok_iff.mp computed) isCompiled
  obtain ⟨branchValidator, branchValidated, rfl⟩ := Option.map_eq_some_iff.mp resolved
  exact ⟨group, inGroups, source, inBranches, _, branchValidator, output,
    CompiledBranch.compile_of_ofBranch compiles, branchValidated, outcome, present⟩

/-- Every key of a result is declared somewhere, if nothing is spread. -/
theorem declares_of_validate {value : Value} {made : Members Value} {key : String}
    {found : Value} (spreadless : projection.Everywhere Spreadless)
    (success : projection.compile query = .ok compiled)
    (validated : compiled.validator = some validator)
    (accepted : validator.validate value = .ok (.object made))
    (shown : made.get? key = some found) : projection.Declares key := by
  induction spreadless generalizing compiled validator value made with
  | node here below induction =>
      next projection =>
      obtain ⟨members, result, rfl, same, -, shows⟩ :=
        exists_result_of_validate success validated accepted
      cases same
      rw [shows, result?, base_of_spreadless here, Option.or_eq_some_iff,
        Option.or_eq_some_iff] at shown
      rcases shown with fromGroup | ⟨-, fromField | ⟨-, fromBase⟩⟩
      · obtain ⟨group, isGroup, contributes⟩ := List.exists_of_findSome?_eq_some fromGroup
        obtain ⟨output, isOutput, present⟩ := Option.bind_eq_some_iff.mp contributes
        obtain ⟨source, inGroups, branch, inBranches, inner, branchValidator, part, compiles,
            branchValidated, outcome, contributed⟩ :=
          exists_branch_of_groupValidator (List.mem_reverse.mp isGroup)
            (Outcome.members?_eq_some_iff.mp isOutput) present
        exact .inBranch inGroups inBranches
          (induction source inGroups branch inBranches compiles branchValidated outcome
            contributed)
      · obtain ⟨field, isField, -⟩ := Option.bind_eq_some_iff.mp fromField
        refine .named ?_
        rw [← keys_namedFields success]
        have sameKey : field.key = key := by simpa using List.find?_some isField
        exact sameKey ▸ List.mem_map_of_mem (List.mem_of_find?_eq_some isField)
      · cases fromBase

/-- The result of a projection that spreads nothing is an object with all the keys that
it names, and every key of the result is named by the projection or by a branch at some
depth. -/
theorem keys_of_validate {value output : Value} (spreadless : projection.Everywhere Spreadless)
    (success : projection.compile query = .ok compiled)
    (validated : compiled.validator = some validator)
    (accepted : validator.validate value = .ok output) :
    ∃ made, output = .object made ∧
      (∀ key ∈ projection.namedKeys, (made.get? key).isSome = true) ∧
      ∀ key, (made.get? key).isSome = true → projection.Declares key := by
  obtain ⟨members, made, rfl, rfl, silent, shows⟩ :=
    exists_result_of_validate success validated accepted
  refine ⟨made, rfl, ?_, ?_⟩
  · intro key named
    rw [← keys_namedFields success] at named
    rw [shows]
    exact isSome_result?_of_named silent named
  · intro key present
    obtain ⟨found, shown⟩ := Option.isSome_iff_exists.mp present
    exact declares_of_validate spreadless success validated accepted shown

/-- A validated entry and a group with one branch. -/
def located : Projection :=
  .declare
    [("title", .validator .unknown),
      ("[Conditional] place", .conditional (.make "place"
        [("defined(url)", .declare [("url", .validator .boolean)])] .mergeAll false))]

theorem keys_of_validate_located :
    ∃ compiled validator made,
      located.compile (.start false) = .ok compiled ∧ compiled.validator = some validator ∧
      validator.validate (.object (Members.ofList
        [("title", .string "x"), ("url", .bool true), ("secret", .bool true)])) =
          .ok (.object made) ∧
      (made.get? "title").isSome = true ∧
      ∀ key, (made.get? key).isSome = true → located.Declares key := by
  have spreadless : located.Everywhere Spreadless := by
    refine .node (by decide) ?_
    intro group inGroups branch inBranches
    have groups : located.groups = [.make "place"
        [("defined(url)", .declare [("url", .validator .boolean)])] .mergeAll false] :=
      rfl
    rw [groups, List.mem_singleton] at inGroups
    subst inGroups
    rw [ConditionalGroup.branches, List.mem_singleton] at inBranches
    subst inBranches
    refine .node (by decide) ?_
    intro inner membership
    cases membership
  have compiles : ∃ compiled, located.compile (.start false) = .ok compiled ∧
      ∃ validator, compiled.validator = some validator ∧
        ∃ output, validator.validate (.object (Members.ofList
          [("title", .string "x"), ("url", .bool true), ("secret", .bool true)])) = .ok output :=
    ⟨_, rfl, _, rfl, _, rfl⟩
  obtain ⟨compiled, success, validator, validated, output, accepted⟩ := compiles
  obtain ⟨made, rfl, named, declared⟩ := keys_of_validate spreadless success validated accepted
  exact ⟨compiled, validator, made, success, validated, accepted,
    named "title" (by decide), declared⟩

end Projection

end CheckedQuery

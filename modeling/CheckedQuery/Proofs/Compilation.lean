import CheckedQuery.Proofs.Classification
import CheckedQuery.Proofs.Entries
import CheckedQuery.Proofs.Outcomes
import CheckedQuery.Projection.Compile

/-!
# The steps of compiling

A projection is compiled from what its keys make of its entries: a spread, named
fields and conditional groups.  The equations below give the result, or the first
mistake, in these terms alone, and do the same for a group in terms of its compiled
branches.
-/

namespace CheckedQuery

theorem bind_eq_ok_iff {α β ε : Type} {computed : Except ε α} {next : α → Except ε β}
    {result : β} :
    computed >>= next = .ok result ↔ ∃ value, computed = .ok value ∧ next value = .ok result := by
  cases computed <;> simp [bind, Except.bind]

/-- Mapping over a list of computations succeeds exactly with a list of their
results. -/
theorem mapM_eq_ok_iff {α β ε : Type} {compute : α → Except ε β} {items : List α}
    {results : List β} :
    items.mapM compute = .ok results ↔ items.map compute = results.map .ok := by
  induction items generalizing results with
  | nil => cases results <;> simp [pure, Except.pure]
  | cons item items induction =>
      simp only [List.mapM_cons, bind_eq_ok_iff, induction, pure, Except.pure, Except.ok.injEq]
      constructor
      · rintro ⟨first, computed, others, rest, rfl⟩
        simp [computed, rest]
      · intro same
        cases results with
        | nil => cases same
        | cons first others =>
            simp only [List.map_cons, List.cons.injEq] at same
            exact ⟨first, same.1, others, same.2, rfl⟩

theorem exists_mapM_eq_ok_iff {α β ε : Type} {compute : α → Except ε β} {items : List α} :
    (∃ results, items.mapM compute = .ok results) ↔
      ∀ item ∈ items, ∃ result, compute item = .ok result := by
  induction items with
  | nil => simp [pure, Except.pure]
  | cons item items induction =>
      rw [List.forall_mem_cons, ← induction]
      simp only [mapM_eq_ok_iff, List.map_cons]
      constructor
      · rintro ⟨results, same⟩
        cases results with
        | nil => cases same
        | cons first others =>
            simp only [List.map_cons, List.cons.injEq] at same
            exact ⟨⟨first, same.1⟩, others, same.2⟩
      · rintro ⟨⟨first, computed⟩, others, rest⟩
        exact ⟨first :: others, by rw [computed, rest, List.map_cons]⟩

/-- Mapping over a list of computations fails with the error of the first that
fails. -/
theorem mapM_eq_error_of_first {α β ε : Type} {compute : α → Except ε β}
    {before after : List α} {item : α} {error : ε}
    (succeeds : ∀ earlier ∈ before, ∃ result, compute earlier = .ok result)
    (fails : compute item = .error error) :
    (before ++ item :: after).mapM compute = .error error := by
  obtain ⟨results, computed⟩ := exists_mapM_eq_ok_iff.mpr succeeds
  rw [List.mapM_append, computed, List.mapM_cons, fails]
  rfl

/-- Where each computation is followed by one of another kind, a list of computations is
followed by a list of the others. -/
theorem mapM_map_eq_ok {α β γ δ ε : Type} {compute : α → Except ε β}
    {other : γ → Except ε δ} {change : α → γ} {adapt : β → δ} {items : List α}
    {results : List β} (computed : items.mapM compute = .ok results)
    (follows : ∀ item ∈ items, ∀ result, compute item = .ok result →
      other (change item) = .ok (adapt result)) :
    (items.map change).mapM other = .ok (results.map adapt) := by
  rw [mapM_eq_ok_iff] at computed ⊢
  induction items generalizing results with
  | nil =>
      cases results with
      | nil => rfl
      | cons first others => cases computed
  | cons item items induction =>
      cases results with
      | nil => cases computed
      | cons first others =>
          simp only [List.map_cons, List.cons.injEq] at computed ⊢
          exact ⟨follows item List.mem_cons_self first computed.1,
            induction computed.2 fun later membership =>
              follows later (List.mem_cons_of_mem _ membership)⟩

/-- Where each result of a list of computations reads as its item does, so do the lists. -/
theorem map_of_mapM_eq_ok {α β γ ε : Type} {compute : α → Except ε β} {items : List α}
    {results : List β} {read : β → γ} {other : α → γ}
    (computed : items.mapM compute = .ok results)
    (reads : ∀ item ∈ items, ∀ result, compute item = .ok result → read result = other item) :
    results.map read = items.map other := by
  have followed : (items.map other).mapM (Except.ok (ε := ε)) = .ok (results.map read) :=
    mapM_map_eq_ok computed fun item inItems result isResult =>
      congrArg Except.ok (reads item inItems result isResult).symm
  exact ((List.map_inj_right fun _ _ => Except.ok.inj).mp (mapM_eq_ok_iff.mp followed)).symm

theorem mapM_map_except {α β γ ε : Type} (compute : α → Except ε β) (change : β → γ)
    (items : List α) :
    items.mapM (fun item => (compute item).map change) =
      (items.mapM compute).map (List.map change) := by
  induction items with
  | nil => rfl
  | cons item items induction =>
      rw [List.mapM_cons, List.mapM_cons, induction]
      cases compute item with
      | error error => rfl
      | ok result => cases items.mapM compute <;> rfl

theorem filterMap_of_map_eq_ok {α β γ ε : Type} {compute : α → Except ε β}
    {items : List α} {results : List β} (computed : items.map compute = results.map .ok)
    (select : β → Option γ) :
    results.filterMap select =
      items.filterMap fun item => (compute item).toOption.bind select := by
  calc
    results.filterMap select =
        (results.map (Except.ok (ε := ε))).filterMap fun result =>
          result.toOption.bind select := by
      rw [List.filterMap_map]
      rfl
    _ = items.filterMap fun item => (compute item).toOption.bind select := by
      rw [← computed, List.filterMap_map]
      rfl

theorem exists_of_mem_of_map_eq_ok {α β ε : Type} {compute : α → Except ε β}
    {items : List α} {results : List β} (computed : items.map compute = results.map .ok)
    {result : β} (membership : result ∈ results) :
    ∃ item ∈ items, compute item = .ok result := by
  have mapped : Except.ok result ∈ items.map compute :=
    computed ▸ List.mem_map_of_mem membership
  exact List.mem_map.mp mapped

namespace Part

def ofEntry (query : Query) (entry : String × FieldSpec) : Part :=
  match entry.2 with
  | .conditional inner => .group (inner.compile query)
  | spec => ofSpec entry.1 (.ok .empty) spec

variable (query : Query) (entry : String × FieldSpec)

@[simp] theorem spread?_ofEntry : (ofEntry query entry).spread? = entry.2.spread? := by
  obtain ⟨key, spec⟩ := entry
  cases spec <;> rfl

@[simp] theorem named?_ofEntry :
    (ofEntry query entry).named? = NamedField.ofSpec? entry.1 entry.2 := by
  obtain ⟨key, spec⟩ := entry
  cases spec <;> rfl

@[simp] theorem group?_ofEntry :
    (ofEntry query entry).group? = entry.2.group?.map (ConditionalGroup.compile query) := by
  obtain ⟨key, spec⟩ := entry
  cases spec <;> rfl

@[simp] theorem copied?_ofEntry :
    (ofEntry query entry).copied? = if entry.2.isCopied then some entry.1 else none := by
  obtain ⟨key, spec⟩ := entry
  cases spec <;> rfl

end Part

namespace Projection

variable (query : Query) (projection : Projection)

/-- The entries that their keys allow, in order. -/
def specs : List (String × FieldSpec) :=
  projection.entries.entries.filterMap fun entry => (FieldSpec.ofEntry entry).toOption

variable {projection} in
theorem mem_specs_iff {key : String} {spec : FieldSpec} :
    (key, spec) ∈ projection.specs ↔
      ∃ value, (key, value) ∈ projection.entries.entries ∧
        FieldSpec.classify key value = .ok spec := by
  simp only [specs, List.mem_filterMap, toOption_eq_some_iff, FieldSpec.ofEntry_eq_ok_iff]
  constructor
  · rintro ⟨⟨name, value⟩, membership, rfl, classified⟩
    exact ⟨value, membership, classified⟩
  · rintro ⟨value, membership, classified⟩
    exact ⟨(key, value), membership, rfl, classified⟩

def spread? : Option (Option Validator) :=
  projection.specs.findSome? fun entry => entry.2.spread?

def namedFields : List NamedField :=
  projection.specs.filterMap fun entry => NamedField.ofSpec? entry.1 entry.2

def groups : List ConditionalGroup :=
  projection.specs.filterMap fun entry => entry.2.group?

def copiedKeys : List String :=
  projection.specs.filterMap fun entry => if entry.2.isCopied then some entry.1 else none

/-- Whether any part of a projection is validated. -/
def isValidated (groupValidators : List Validator) : Bool :=
  projection.namedFields.any (fun field => field.validator.isSome) ||
    !groupValidators.isEmpty || (projection.spread?.map Option.isSome).getD false

/-- What a projection without mistakes compiles to, given its compiled groups. -/
def assembled (compiledGroups : List Compiled) : Compiled :=
  let validators := compiledGroups.filterMap Compiled.validator
  { text := bracedText
      ((if projection.spread?.isSome then [spreadKey] else []) ++
        projection.namedFields.map NamedField.text ++ compiledGroups.map Compiled.text)
    validator :=
      if projection.isValidated validators then
        some (.layered (layers projection.spread? projection.namedFields validators))
      else none }

@[simp] theorem isSome_validator_assembled (compiledGroups : List Compiled) :
    (projection.assembled compiledGroups).validator.isSome =
      projection.isValidated (compiledGroups.filterMap Compiled.validator) := by
  rw [assembled]
  cases projection.isValidated (compiledGroups.filterMap Compiled.validator) <;> simp

theorem isValidated_iff {groupValidators : List Validator} :
    projection.isValidated groupValidators = true ↔
      (∃ field ∈ projection.namedFields, field.validator.isSome = true) ∨
      (∃ supplied, projection.spread? = some (some supplied)) ∨ groupValidators ≠ [] := by
  unfold isValidated
  cases projection.spread? with
  | none => simp
  | some supplied => cases supplied <;> simp

theorem prepare_eq (key : String) (value : FieldValue) :
    value.prepare query key = (FieldSpec.ofEntry (key, value)).map (Part.ofEntry query) := by
  unfold FieldSpec.ofEntry
  cases classified : FieldSpec.classify key value with
  | error error => cases value <;> simp [FieldValue.prepare, classified, Except.map]
  | ok spec =>
      cases spec with
      | conditional group =>
          cases FieldSpec.eq_conditional_of_classify classified
          simp [FieldValue.prepare, classified, Except.map, Part.ofEntry, Part.ofSpec,
            NamedField.ofSpec?]
      | copied | path | pathWith | validator | nested | spread =>
          cases value <;> simp [FieldValue.prepare, classified, Except.map, Part.ofEntry,
            Part.ofSpec, NamedField.ofSpec?]

theorem prepareEach_eq_map (declarations : List (String × FieldValue)) :
    prepareEach query declarations =
      declarations.map fun declaration =>
        (declaration.1, declaration.2.prepare query declaration.1) := by
  induction declarations with
  | nil => simp [prepareEach]
  | cons declaration declarations induction => simp [prepareEach, induction]

private theorem compile_eq_assemble :
    projection.compile query =
      assemble query (projection.entries.entries.map fun entry =>
        (entry.1, entry.2.prepare query entry.1)) := by
  cases projection with
  | declare declarations =>
      rw [compile, prepareEach_eq_map,
        Keyed.ofList_map fun key value => FieldValue.prepare query key value]
      rfl

private theorem unknownField?_map_ofEntry :
    unknownField? query (projection.specs.map (Part.ofEntry query)) =
      projection.copiedKeys.find? fun key => !query.mayInclude key := by
  have same : Part.copied? ∘ Part.ofEntry query =
      fun entry => if entry.2.isCopied then some entry.1 else none :=
    funext (Part.copied?_ofEntry query)
  rw [unknownField?, copiedKeys, List.filterMap_map, same]

private theorem findSome?_map_ofEntry :
    (projection.specs.map (Part.ofEntry query)).findSome? Part.spread? = projection.spread? := by
  simp [spread?, List.findSome?_map, Function.comp_def]

private theorem named?_map_ofEntry :
    (projection.specs.map (Part.ofEntry query)).filterMap Part.named? =
      projection.namedFields := by
  have same : Part.named? ∘ Part.ofEntry query =
      fun entry => NamedField.ofSpec? entry.1 entry.2 :=
    funext (Part.named?_ofEntry query)
  rw [namedFields, List.filterMap_map, same]

private theorem group?_map_ofEntry :
    (projection.specs.map (Part.ofEntry query)).filterMap Part.group? =
      projection.groups.map (ConditionalGroup.compile query) := by
  have same : Part.group? ∘ Part.ofEntry query =
      fun entry => entry.2.group?.map (ConditionalGroup.compile query) :=
    funext (Part.group?_ofEntry query)
  rw [groups, List.filterMap_map, List.map_filterMap, same]

theorem eq_specs_of_mapM {specs : List (String × FieldSpec)}
    (classified : projection.entries.entries.mapM FieldSpec.ofEntry = .ok specs) :
    specs = projection.specs := by
  have selected := filterMap_of_map_eq_ok (mapM_eq_ok_iff.mp classified) some
  simpa [Projection.specs] using selected

/-- Compiling goes through the mistakes in a fixed order: entries that their keys do
not allow, copied fields that are not known, entries without a required validator,
and the mistakes inside the groups. -/
theorem compile_eq :
    projection.compile query = do
      let _ ← projection.entries.entries.mapM FieldSpec.ofEntry
      if let some key := projection.copiedKeys.find? (fun key => !query.mayInclude key) then
        throw (.unknownField key)
      let unvalidated := unvalidatedKeys projection.spread? projection.namedFields
      if query.validationRequired && !unvalidated.isEmpty then
        throw (.missingValidation unvalidated)
      let compiledGroups ← projection.groups.mapM (ConditionalGroup.compile query)
      return projection.assembled compiledGroups := by
  have parts : (projection.entries.entries.map fun entry =>
      (entry.1, entry.2.prepare query entry.1)).mapM Prod.snd =
        (projection.entries.entries.mapM FieldSpec.ofEntry).map
          (List.map (Part.ofEntry query)) := by
    rw [List.mapM_map, ← mapM_map_except]
    exact congrArg (projection.entries.entries.mapM ·)
      (funext fun entry => prepare_eq query entry.1 entry.2)
  rw [compile_eq_assemble, assemble, parts]
  cases classified : projection.entries.entries.mapM FieldSpec.ofEntry with
  | error error => rfl
  | ok specs =>
      have same := projection.eq_specs_of_mapM classified
      subst same
      simp only [Except.map, bind, Except.bind, unknownField?_map_ofEntry,
        findSome?_map_ofEntry, named?_map_ofEntry, group?_map_ofEntry, List.mapM_map]
      rfl

variable {query projection}

/-- A projection compiles when it makes none of the four mistakes. -/
theorem compile_eq_ok_iff {compiled : Compiled} :
    projection.compile query = .ok compiled ↔
      (∃ specs, projection.entries.entries.mapM FieldSpec.ofEntry = .ok specs) ∧
      (∀ key ∈ projection.copiedKeys, query.mayInclude key = true) ∧
      (query.validationRequired = true →
        unvalidatedKeys projection.spread? projection.namedFields = []) ∧
      ∃ compiledGroups,
        projection.groups.mapM (ConditionalGroup.compile query) = .ok compiledGroups ∧
        compiled = projection.assembled compiledGroups := by
  rw [compile_eq, bind_eq_ok_iff, ← exists_and_right]
  refine exists_congr fun specs => and_congr_right fun _ => ?_
  cases unknown : projection.copiedKeys.find? fun key => !query.mayInclude key with
  | some key =>
      have found := List.find?_some unknown
      have membership := List.mem_of_find?_eq_some unknown
      constructor
      · intro impossible
        cases impossible
      · rintro ⟨known, -⟩
        simp [known key membership] at found
  | none =>
      have known : ∀ key ∈ projection.copiedKeys, query.mayInclude key = true := by
        simpa using unknown
      by_cases missing : (query.validationRequired &&
          !(unvalidatedKeys projection.spread? projection.namedFields).isEmpty) = true
      · simp only [missing, if_true]
        constructor
        · intro impossible
          cases impossible
        · rintro ⟨-, covered, -⟩
          simp only [Bool.and_eq_true] at missing
          simp [covered missing.1] at missing
      · have covered : query.validationRequired = true →
            unvalidatedKeys projection.spread? projection.namedFields = [] := by
          simpa using missing
        simp only [missing, Bool.false_eq_true, if_false, bind_eq_ok_iff]
        constructor
        · rintro ⟨compiledGroups, computed, result⟩
          exact ⟨known, covered, compiledGroups, computed, (Except.ok.inj result).symm⟩
        · rintro ⟨-, -, compiledGroups, computed, rfl⟩
          exact ⟨compiledGroups, computed, rfl⟩

end Projection

namespace CompiledBranch

def ofBranch (query : Query) (branch : String × Projection) :
    Except ConfigError CompiledBranch :=
  (branch.2.compile query).map fun compiled =>
    { condition := branch.1
      keys := branch.2.declarations.map Prod.fst
      compiled := compiled }

theorem ofBranch_eq_ok_iff {query : Query} {branch : String × Projection}
    {compiled : CompiledBranch} :
    ofBranch query branch = .ok compiled ↔
      ∃ result, branch.2.compile query = .ok result ∧
        compiled =
          { condition := branch.1
            keys := branch.2.declarations.map Prod.fst
            compiled := result } := by
  unfold ofBranch
  cases branch.2.compile query <;> simp [Except.map, eq_comm]

/-- What a compiled branch adds to the validator of its group. -/
def branch? (branch : CompiledBranch) : Option Branch :=
  branch.compiled.validator.map fun validator =>
    { condition := branch.condition
      validator := validator
      discriminator := branch.discriminator? }

/-- The conditions whose branches have no validator. -/
def unvalidated (branches : List CompiledBranch) : List String :=
  (branches.filter fun branch => branch.compiled.validator.isNone).map condition

theorem unvalidated_eq_nil_iff {branches : List CompiledBranch} :
    unvalidated branches = [] ↔
      ∀ branch ∈ branches, branch.compiled.validator.isSome = true := by
  simp [unvalidated, List.filter_eq_nil_iff, Option.isSome_iff_ne_none]

private theorem zipWith_covered {branches : List CompiledBranch}
    (validated : ∀ branch ∈ branches, branch.compiled.validator.isSome = true) :
    List.zipWith
        (fun (branch : Branch) (compiled : CompiledBranch) =>
          { branch with discriminator := compiled.discriminator? })
        (branches.filterMap fun branch =>
          branch.compiled.validator.map (Branch.ofCondition branch.condition))
        branches =
      branches.filterMap branch? := by
  induction branches with
  | nil => rfl
  | cons branch branches induction =>
      obtain ⟨validator, isValidator⟩ := Option.isSome_iff_exists.mp (validated branch (by simp))
      have later := induction fun other membership => validated other (by simp [membership])
      have covered : branch.compiled.validator.map (Branch.ofCondition branch.condition) =
          some (Branch.ofCondition branch.condition validator) := by
        simp [isValidator]
      have first : branch.branch? = some
          { condition := branch.condition
            validator := validator
            discriminator := branch.discriminator? } := by
        simp [branch?, isValidator]
      simp only [List.filterMap_cons, covered, first, List.zipWith_cons_cons, later]
      rfl

end CompiledBranch

/-- A group has a validator if all of its branches have one, has none if none of them
has one, and is refused otherwise. -/
theorem assembleGroup_eq (policy : BranchPolicy) (exhaustive : Bool)
    (branches : List CompiledBranch) :
    assembleGroup policy exhaustive branches =
      if (CompiledBranch.unvalidated branches).length = branches.length then
        .ok { text := groupText policy branches
              validator := none }
      else if CompiledBranch.unvalidated branches = [] then
        .ok { text := groupText policy branches
              validator := some (Branch.resolve (branches.filterMap CompiledBranch.branch?)
                policy exhaustive) }
      else .error (.partialBranchValidation (CompiledBranch.unvalidated branches)) := by
  have missing : ((branches.map fun branch =>
      (branch.condition, branch.compiled.validator)).filter
        fun condition => condition.2.isNone).map Prod.fst =
      CompiledBranch.unvalidated branches := by
    simp [CompiledBranch.unvalidated, List.filter_map, Function.comp_def]
  simp only [assembleGroup, Branch.cover, missing, List.length_map]
  by_cases none : (CompiledBranch.unvalidated branches).length = branches.length
  · simp only [none, if_true]
    rfl
  · by_cases all : CompiledBranch.unvalidated branches = []
    · have covered := CompiledBranch.zipWith_covered
        (CompiledBranch.unvalidated_eq_nil_iff.mp all)
      rw [if_neg none, if_neg none, all]
      simp only [List.isEmpty_nil, if_true, ← covered, List.filterMap_map]
      rfl
    · simp only [none, if_false, all, List.isEmpty_iff]
      rfl

namespace ConditionalGroup

theorem compileBranches_eq_mapM (query : Query) (branches : List (String × Projection)) :
    compileBranches query branches = branches.mapM (CompiledBranch.ofBranch query) := by
  induction branches with
  | nil => simp [compileBranches, pure, Except.pure]
  | cons branch branches induction =>
      obtain ⟨condition, projection⟩ := branch
      rw [List.mapM_cons, ← induction]
      cases compiled : projection.compile query with
      | error error => simp [compileBranches, CompiledBranch.ofBranch, compiled, Except.map,
          bind, Except.bind]
      | ok result =>
          cases others : compileBranches query branches <;>
            simp [compileBranches, CompiledBranch.ofBranch, compiled, others, Except.map,
              bind, Except.bind, pure, Except.pure]

theorem compile_eq (query : Query) (group : ConditionalGroup) :
    group.compile query =
      group.branches.mapM (CompiledBranch.ofBranch query) >>=
        assembleGroup group.policy group.isExhaustive := by
  cases group with
  | make name branches policy exhaustive =>
      rw [compile, compileBranches_eq_mapM, ConditionalGroup.branches,
        ConditionalGroup.policy, ConditionalGroup.isExhaustive]
      cases branches.mapM (CompiledBranch.ofBranch query) <;> rfl

end ConditionalGroup

end CheckedQuery

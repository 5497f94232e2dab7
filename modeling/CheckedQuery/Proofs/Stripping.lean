import CheckedQuery.Proofs.ProjectionTree

/-!
# Projections without their validators

Taking every validator out of a projection changes neither which values its keys
allow nor what it is written as.  So the text of a compiled projection can be read off
the projection without its validators, for a query that requires nothing and declares
no fields.
-/

namespace CheckedQuery

/-- The query without what it validates. -/
def Query.stripped (query : Query) : Query :=
  { query with
    validator := none
    validationRequired := false }

mutual

/-- The projection with copied fields in place of validated ones, at every depth. -/
def Projection.stripped : Projection → Projection
  | .declare declarations => .declare (Projection.stripEach declarations)

def Projection.stripEach : List (String × FieldValue) → List (String × FieldValue)
  | [] => []
  | (key, value) :: rest => (key, value.stripped) :: Projection.stripEach rest

def FieldValue.stripped : FieldValue → FieldValue
  | .flag truth => .flag truth
  | .path fragment => .path fragment
  | .pathWith fragment _ => .path fragment
  | .validator _ => .flag true
  | .query query => .query query.stripped
  | .conditional group => .conditional group.stripped

def ConditionalGroup.stripped : ConditionalGroup → ConditionalGroup
  | .make name branches policy exhaustive =>
      .make name (ConditionalGroup.stripBranches branches) policy exhaustive

def ConditionalGroup.stripBranches : List (String × Projection) → List (String × Projection)
  | [] => []
  | (condition, projection) :: rest =>
      (condition, projection.stripped) :: ConditionalGroup.stripBranches rest

end

def FieldSpec.stripped : FieldSpec → FieldSpec
  | .copied => .copied
  | .path fragment => .path fragment
  | .pathWith fragment _ => .path fragment
  | .validator _ => .copied
  | .nested query => .nested query.stripped
  | .spread _ => .spread none
  | .conditional group => .conditional group.stripped

def NamedField.stripped (field : NamedField) : NamedField :=
  { field with validator := none }

@[simp] theorem NamedField.text_stripped (field : NamedField) :
    field.stripped.text = field.text :=
  rfl

def Compiled.stripped (compiled : Compiled) : Compiled :=
  { compiled with validator := none }

def CompiledBranch.stripped (branch : CompiledBranch) : CompiledBranch :=
  { branch with compiled := branch.compiled.stripped }

@[simp] theorem CompiledBranch.text_stripped (branch : CompiledBranch) :
    branch.stripped.text = branch.text :=
  rfl

namespace Projection

theorem stripEach_eq_map (declarations : List (String × FieldValue)) :
    stripEach declarations =
      declarations.map fun declaration => (declaration.1, declaration.2.stripped) := by
  induction declarations with
  | nil => simp [stripEach]
  | cons declaration declarations induction => simp [stripEach, induction]

theorem declarations_stripped (projection : Projection) :
    projection.stripped.declarations =
      projection.declarations.map fun declaration =>
        (declaration.1, declaration.2.stripped) := by
  cases projection with
  | declare declarations => rw [stripped, Projection.declarations, stripEach_eq_map]; rfl

theorem entries_stripped (projection : Projection) :
    projection.stripped.entries.entries =
      projection.entries.entries.map fun entry => (entry.1, entry.2.stripped) := by
  rw [entries, declarations_stripped,
    Keyed.ofList_map (fun _ value => FieldValue.stripped value)]
  rfl

end Projection

namespace ConditionalGroup

theorem stripBranches_eq_map (branches : List (String × Projection)) :
    stripBranches branches = branches.map fun branch => (branch.1, branch.2.stripped) := by
  induction branches with
  | nil => simp [stripBranches]
  | cons branch branches induction => simp [stripBranches, induction]

theorem branches_stripped (group : ConditionalGroup) :
    group.stripped.branches = group.branches.map fun branch => (branch.1, branch.2.stripped) := by
  cases group with
  | make name branches policy exhaustive =>
      rw [stripped, ConditionalGroup.branches, stripBranches_eq_map]
      rfl

@[simp] theorem policy_stripped (group : ConditionalGroup) :
    group.stripped.policy = group.policy := by
  cases group
  simp [stripped, policy]

@[simp] theorem isExhaustive_stripped (group : ConditionalGroup) :
    group.stripped.isExhaustive = group.isExhaustive := by
  cases group
  simp [stripped, isExhaustive]

end ConditionalGroup

namespace FieldSpec

theorem read?_stripped (key : String) (value : FieldValue) :
    read? key value.stripped = (read? key value).map stripped := by
  unfold read?
  split
  · cases value with
    | flag truth => cases truth <;> simp [FieldValue.stripped, ofSpread?, stripped]
    | path | pathWith | validator | query | conditional =>
        simp [FieldValue.stripped, ofSpread?, stripped]
  · split
    · cases value <;> simp [FieldValue.stripped, ofGroup?, stripped]
    · cases value with
      | flag truth => cases truth <;> simp [FieldValue.stripped, ofNamed?, stripped]
      | path | pathWith | validator | query | conditional =>
          simp [FieldValue.stripped, ofNamed?, stripped]

theorem classify_stripped (key : String) (value : FieldValue) :
    classify key value.stripped = (classify key value).map stripped := by
  rw [classify_eq, classify_eq, read?_stripped]
  cases read? key value <;> rfl

theorem ofEntry_stripped (key : String) (value : FieldValue) :
    ofEntry (key, value.stripped) =
      (ofEntry (key, value)).map fun entry => (entry.1, entry.2.stripped) := by
  rw [ofEntry, ofEntry, classify_stripped]
  cases classify key value <;> rfl

theorem spread?_stripped (spec : FieldSpec) :
    spec.stripped.spread? = spec.spread?.map fun _ => none := by
  cases spec <;> rfl

theorem group?_stripped (spec : FieldSpec) :
    spec.stripped.group? = spec.group?.map ConditionalGroup.stripped := by
  cases spec <;> rfl

theorem ofSpec?_stripped (key : String) (spec : FieldSpec) :
    NamedField.ofSpec? key spec.stripped =
      (NamedField.ofSpec? key spec).map NamedField.stripped := by
  cases spec <;> rfl

end FieldSpec

namespace Projection

variable (projection : Projection)

theorem specs_stripped :
    projection.stripped.specs =
      projection.specs.map fun entry => (entry.1, entry.2.stripped) := by
  rw [specs, specs, entries_stripped, List.filterMap_map, List.map_filterMap]
  congr 1
  funext entry
  obtain ⟨key, value⟩ := entry
  rw [Function.comp_apply, FieldSpec.ofEntry_stripped]
  cases FieldSpec.ofEntry (key, value) <;> rfl

theorem spread?_stripped :
    projection.stripped.spread? = projection.spread?.map fun _ => none := by
  rw [spread?, spread?, specs_stripped, List.findSome?_map, List.map_findSome?]
  simp [Function.comp_def, FieldSpec.spread?_stripped]

theorem namedFields_stripped :
    projection.stripped.namedFields = projection.namedFields.map NamedField.stripped := by
  rw [namedFields, namedFields, specs_stripped, List.filterMap_map, List.map_filterMap]
  congr 1
  funext entry
  exact FieldSpec.ofSpec?_stripped entry.1 entry.2

theorem groups_stripped :
    projection.stripped.groups = projection.groups.map ConditionalGroup.stripped := by
  rw [groups, groups, specs_stripped, List.filterMap_map, List.map_filterMap]
  congr 1
  funext entry
  exact FieldSpec.group?_stripped entry.2

/-- Without validators there is nothing to validate. -/
theorem isValidated_stripped : projection.stripped.isValidated [] = false := by
  rw [← Bool.not_eq_true, isValidated_iff, namedFields_stripped, spread?_stripped]
  simp [NamedField.stripped]

variable {projection}

theorem classified_stripped
    (classified : ∃ specs, projection.entries.entries.mapM FieldSpec.ofEntry = .ok specs) :
    ∃ specs, projection.stripped.entries.entries.mapM FieldSpec.ofEntry = .ok specs := by
  rw [exists_mapM_eq_ok_iff] at classified ⊢
  rw [entries_stripped]
  intro entry membership
  obtain ⟨⟨key, value⟩, inEntries, rfl⟩ := List.mem_map.mp membership
  obtain ⟨result, computed⟩ := classified _ inEntries
  exact ⟨_, by rw [FieldSpec.ofEntry_stripped, computed]; rfl⟩

theorem assembled_stripped (compiledGroups : List Compiled) :
    projection.stripped.assembled (compiledGroups.map Compiled.stripped) =
      (projection.assembled compiledGroups).stripped := by
  have unvalidated :
      (compiledGroups.map Compiled.stripped).filterMap Compiled.validator = [] := by
    simp [Compiled.stripped]
  rw [assembled, unvalidated]
  simp [isValidated_stripped, assembled, Compiled.stripped, spread?_stripped,
    namedFields_stripped, Function.comp_def]

end Projection

theorem ofBranch_stripped {query : Query} {branch : String × Projection}
    {compiled : CompiledBranch}
    (below : ∀ result, branch.2.compile query = .ok result →
      branch.2.stripped.compile (.start false) = .ok result.stripped)
    (success : CompiledBranch.ofBranch query branch = .ok compiled) :
    CompiledBranch.ofBranch (.start false) (branch.1, branch.2.stripped) =
      .ok compiled.stripped := by
  obtain ⟨result, computed, rfl⟩ := CompiledBranch.ofBranch_eq_ok_iff.mp success
  refine CompiledBranch.ofBranch_eq_ok_iff.mpr ⟨result.stripped, below result computed, ?_⟩
  simp [CompiledBranch.stripped, Projection.declarations_stripped, Function.comp_def]

namespace ConditionalGroup

theorem text_of_assembleGroup {policy : BranchPolicy} {exhaustive : Bool}
    {branches : List CompiledBranch} {compiled : Compiled}
    (success : assembleGroup policy exhaustive branches = .ok compiled) :
    compiled.text = groupText policy branches := by
  rw [assembleGroup_eq] at success
  split at success
  · cases success
    rfl
  · split at success
    · cases success
      rfl
    · cases success

/-- A group none of whose branches has a validator is not refused. -/
theorem assembleGroup_stripped {policy : BranchPolicy} {exhaustive : Bool}
    {branches : List CompiledBranch} {compiled : Compiled}
    (success : assembleGroup policy exhaustive branches = .ok compiled) :
    assembleGroup policy exhaustive (branches.map CompiledBranch.stripped) =
      .ok compiled.stripped := by
  have unvalidated : (CompiledBranch.unvalidated (branches.map CompiledBranch.stripped)).length =
      (branches.map CompiledBranch.stripped).length := by
    have none : ∀ branch ∈ branches.map CompiledBranch.stripped,
        branch.compiled.validator.isNone = true := by
      simp [CompiledBranch.stripped, Compiled.stripped]
    rw [CompiledBranch.unvalidated, List.filter_eq_self.mpr none, List.length_map]
  have text : groupText policy (branches.map CompiledBranch.stripped) =
      groupText policy branches := by
    simp [groupText, Function.comp_def]
  rw [assembleGroup_eq, if_pos unvalidated, text, ← text_of_assembleGroup success]
  rfl

theorem compile_stripped {query : Query} {group : ConditionalGroup} {compiled : Compiled}
    (below : ∀ branch ∈ group.branches, ∀ result, branch.2.compile query = .ok result →
      branch.2.stripped.compile (.start false) = .ok result.stripped)
    (success : group.compile query = .ok compiled) :
    group.stripped.compile (.start false) = .ok compiled.stripped := by
  rw [compile_eq, bind_eq_ok_iff] at success ⊢
  obtain ⟨branches, computed, assembled⟩ := success
  refine ⟨branches.map CompiledBranch.stripped, ?_, ?_⟩
  · rw [branches_stripped]
    exact mapM_map_eq_ok computed fun branch inBranches _ =>
      ofBranch_stripped (below branch inBranches)
  · simpa using assembleGroup_stripped assembled

end ConditionalGroup

/-- What compiles for any query, compiles without its validators for one that requires
nothing, and to the same text. -/
theorem Projection.compile_stripped {query : Query} {projection : Projection}
    {compiled : Compiled} (success : projection.compile query = .ok compiled) :
    projection.stripped.compile (.start false) = .ok compiled.stripped := by
  induction projection using Projection.branch_induction generalizing compiled with
  | node projection below =>
      obtain ⟨classified, -, -, compiledGroups, computed, rfl⟩ := compile_eq_ok_iff.mp success
      -- The same query would not do: a field that is copied once its validator is gone need
      -- not be one that the query declares.
      refine compile_eq_ok_iff.mpr
        ⟨classified_stripped classified, fun _ _ => rfl, (nomatch ·),
          compiledGroups.map Compiled.stripped, ?_, (assembled_stripped compiledGroups).symm⟩
      rw [groups_stripped]
      exact mapM_map_eq_ok computed fun group inGroups _ =>
        ConditionalGroup.compile_stripped fun branch inBranches _ =>
          below group inGroups branch inBranches

/-- What a projection is written as does not depend on the validators in it, nor on the
query that it is compiled for. -/
theorem Projection.text_eq_of_stripped_eq {leftQuery rightQuery : Query}
    {left right : Projection} {leftCompiled rightCompiled : Compiled}
    (same : left.stripped = right.stripped)
    (leftCompiles : left.compile leftQuery = .ok leftCompiled)
    (rightCompiles : right.compile rightQuery = .ok rightCompiled) :
    leftCompiled.text = rightCompiled.text := by
  have leftStripped := compile_stripped leftCompiles
  rw [same, compile_stripped rightCompiles] at leftStripped
  exact (congrArg Compiled.text (Except.ok.inj leftStripped)).symm

end CheckedQuery

import CheckedQuery.Proofs.Branches
import CheckedQuery.Proofs.Compilation
import Mathlib.Data.List.Basic

/-!
# The meaning of a compiled projection

The validator of a projection refuses whatever is no object.  Of an object it reports
what the spread, the named entries and the conditional groups report, in this order,
and if that is nothing, it gives the object in which groups win over named entries and
named entries win over the spread.
-/

namespace CheckedQuery

namespace NamedField

theorem key_of_ofSpec? {key : String} {spec : FieldSpec} {field : NamedField}
    (named : ofSpec? key spec = some field) : field.key = key := by
  cases spec <;> cases named <;> rfl

end NamedField

namespace Projection

variable {query : Query} {projection : Projection} {compiled : Compiled}
  {validator : Validator}

theorem nodup_specs (projection : Projection) : (projection.specs.map Prod.fst).Nodup := by
  refine nodup_keys_filterMap ?_ projection.entries.distinct
  intro entry found allowed
  exact (FieldSpec.ofEntry_eq_ok_iff.mp (toOption_eq_some_iff.mp allowed)).1.symm

/-- No two named entries have the same key. -/
theorem nodup_namedFields (projection : Projection) :
    (projection.namedFields.map NamedField.key).Nodup := by
  refine nodup_keys_filterMap ?_ projection.nodup_specs
  intro entry field named
  exact NamedField.key_of_ofSpec? named

variable (query projection) in
/-- The validators of the conditional groups that have one, in the order of their
declarations. -/
def groupValidators : List Validator :=
  projection.groups.filterMap fun group => (group.compile query).toOption.bind Compiled.validator

/-- The validator of a projection is a stack of layers. -/
theorem validator_eq_layered (success : projection.compile query = .ok compiled)
    (validated : compiled.validator = some validator) :
    validator =
      .layered (layers projection.spread? projection.namedFields
        (projection.groupValidators query)) := by
  obtain ⟨-, -, -, compiledGroups, computed, rfl⟩ := compile_eq_ok_iff.mp success
  have sameGroups : compiledGroups.filterMap Compiled.validator =
      projection.groupValidators query :=
    filterMap_of_map_eq_ok (mapM_eq_ok_iff.mp computed) Compiled.validator
  simp only [assembled, sameGroups] at validated
  split at validated
  · exact (Option.some.inj validated).symm
  · cases validated

theorem makesObjects_of_compile (success : projection.compile query = .ok compiled)
    (validated : compiled.validator = some validator) : validator.MakesObjects := by
  rw [validator_eq_layered success validated]
  exact Validator.layered_makesObjects _

end Projection

namespace CompiledBranch

theorem compile_of_ofBranch {query : Query} {branch : String × Projection}
    {compiled : CompiledBranch} (success : ofBranch query branch = .ok compiled) :
    branch.2.compile query = .ok compiled.compiled := by
  obtain ⟨result, compiles, rfl⟩ := ofBranch_eq_ok_iff.mp success
  exact compiles

end CompiledBranch

namespace ConditionalGroup

variable {query : Query} {group : ConditionalGroup} {compiled : Compiled}
  {validator : Validator}

/-- The validator of a group resolves its compiled branches. -/
theorem exists_branches_of_compile (success : group.compile query = .ok compiled)
    (validated : compiled.validator = some validator) :
    ∃ compiledBranches,
      group.branches.mapM (CompiledBranch.ofBranch query) = .ok compiledBranches ∧
      validator = Branch.resolve (compiledBranches.filterMap CompiledBranch.branch?)
        group.policy group.isExhaustive := by
  rw [compile_eq, bind_eq_ok_iff] at success
  obtain ⟨compiledBranches, computed, assembled⟩ := success
  refine ⟨compiledBranches, computed, ?_⟩
  rw [assembleGroup_eq] at assembled
  split at assembled
  · cases assembled
    cases validated
  · split at assembled
    · cases assembled
      exact (Option.some.inj validated).symm
    · cases assembled

theorem makesObjects_of_compile (success : group.compile query = .ok compiled)
    (validated : compiled.validator = some validator) : validator.MakesObjects := by
  obtain ⟨compiledBranches, computed, rfl⟩ := exists_branches_of_compile success validated
  intro value
  refine Branch.resolve_makesObject _ _ ?_
  intro branch membership
  obtain ⟨compiledBranch, compiledMember, isBranch⟩ := List.mem_filterMap.mp membership
  obtain ⟨source, -, sourceCompiles⟩ :=
    exists_of_mem_of_map_eq_ok (mapM_eq_ok_iff.mp computed) compiledMember
  obtain ⟨branchValidator, branchValidated, rfl⟩ := Option.map_eq_some_iff.mp isBranch
  exact Projection.makesObjects_of_compile
    (CompiledBranch.compile_of_ofBranch sourceCompiles) branchValidated value

end ConditionalGroup

namespace Projection

variable (query : Query) (projection : Projection) (members : Members Value)

/-- What the spread makes of an object.  Without a spread there is nothing below the
named entries. -/
def base : Outcome :=
  match projection.spread? with
  | none => .ok .emptyObject
  | some supplied => (supplied.getD .anyObject).validate (.object members)

/-- What a named entry makes of its member.  Without a validator it takes the member
as it is. -/
def namedOutcome (field : NamedField) : Outcome :=
  match field.validator with
  | none => .ok (members.read field.key)
  | some supplied => supplied.validate (members.read field.key)

/-- Everything that is wrong with an object: first what the spread reports, where an
output that is no object is reported as such, then what the named entries report of
their members, then what the conditional groups report. -/
def issues : List Issue :=
  (projection.base members).objectIssues (.ofKind "an object") ++
    projection.namedFields.flatMap (fun field =>
      (namedOutcome members field).issues.map (Issue.under (.field field.key))) ++
    (projection.groupValidators query).flatMap fun validator =>
      (validator.validate (.object members)).issues

/-- What the result shows at a key: what the last group with that key shows, or else
what the named entry makes of its member, or else what the spread shows. -/
def result? (key : String) : Option Value :=
  ((projection.groupValidators query).reverse.findSome? fun validator =>
      (validator.validate (.object members)).members?.bind fun output => output.get? key).or
    (((projection.namedFields.find? fun field => field.key = key).bind fun field =>
        (namedOutcome members field).toOption).or
      ((projection.base members).members?.bind fun output => output.get? key))

/-- The field shape that the named entries amount to. -/
def namedShape : FieldShape :=
  .ofList (projection.namedFields.map fun field => (field.key, field.validator))

private theorem namedOutcome_eq (field : NamedField) :
    namedOutcome members field =
      FieldShape.validateField (members.read field.key) field.validator := by
  unfold namedOutcome
  cases field.validator <;> rfl

private theorem entries_namedShape :
    projection.namedShape.fields.entries =
      projection.namedFields.map fun field => (field.key, field.validator) := by
  refine Keyed.ofList_entries_of_nodup ?_
  simpa [List.map_map, Function.comp_def] using projection.nodup_namedFields

private theorem issues_namedShape :
    projection.namedShape.issues members =
      projection.namedFields.flatMap fun field =>
        (namedOutcome members field).issues.map (Issue.under (.field field.key)) := by
  rw [FieldShape.issues, entries_namedShape, List.flatMap_map]
  simp only [FieldShape.fieldIssues, namedOutcome_eq]

private theorem get?_namedShape (key : String) :
    (projection.namedShape.output members).get? key =
      (projection.namedFields.find? fun field => field.key = key).bind fun field =>
        (namedOutcome members field).toOption := by
  rw [FieldShape.get?_output, Keyed.get?, entries_namedShape, Keyed.find?_map_pair]
  cases found : projection.namedFields.find? fun field => field.key = key with
  | none => rfl
  | some field =>
      have sameKey : field.key = key := by simpa using List.find?_some found
      simp [namedOutcome_eq, sameKey]

/-- The layer of the named entries, which is left out when there are none. -/
private def namedLayers : List Validator :=
  if projection.namedFields.isEmpty then [] else [projection.namedShape.validator]

/-- The layer of the spread, if there is one. -/
private def baseLayers : List Validator :=
  match projection.spread? with
  | some supplied => [supplied.getD .anyObject]
  | none => []

private theorem layers_eq (groups : List Validator) :
    layers projection.spread? projection.namedFields groups =
      projection.baseLayers ++ projection.namedLayers ++ groups :=
  rfl

private theorem layerIssues_baseLayers :
    projection.baseLayers.flatMap (Validator.layerIssues (.object members)) =
      (projection.base members).objectIssues (.ofKind "an object") := by
  unfold baseLayers base
  cases projection.spread? with
  | none => rfl
  | some supplied => exact List.append_nil _

private theorem get?_baseLayers (key : String) :
    (projection.baseLayers.reverse.findSome? fun layer =>
        (layer.layerMembers (.object members)).get? key) =
      (projection.base members).members?.bind fun output => output.get? key := by
  unfold baseLayers base
  cases projection.spread? with
  | none => rfl
  | some supplied =>
      simp [Validator.layerMembers, Outcome.get?_objectMembers]

private theorem layerIssues_namedLayers :
    projection.namedLayers.flatMap (Validator.layerIssues (.object members)) =
      projection.namedFields.flatMap fun field =>
        (namedOutcome members field).issues.map (Issue.under (.field field.key)) := by
  rw [← issues_namedShape]
  unfold namedLayers
  split
  · next empty =>
      rw [issues_namedShape, List.isEmpty_iff.mp empty]
      rfl
  · rw [List.flatMap_singleton, FieldShape.layerIssues_validator]

private theorem get?_namedLayers (key : String)
    (accepted : projection.namedShape.issues members = []) :
    (projection.namedLayers.reverse.findSome? fun layer =>
        (layer.layerMembers (.object members)).get? key) =
      (projection.namedFields.find? fun field => field.key = key).bind fun field =>
        (namedOutcome members field).toOption := by
  rw [← get?_namedShape]
  unfold namedLayers
  split
  · next empty =>
      rw [get?_namedShape, List.isEmpty_iff.mp empty]
      rfl
  · simp [FieldShape.layerMembers_validator accepted]

private theorem layerIssues_groupValidators :
    (projection.groupValidators query).flatMap (Validator.layerIssues (.object members)) =
      (projection.groupValidators query).flatMap fun validator =>
        (validator.validate (.object members)).issues := by
  have each : ∀ validator ∈ projection.groupValidators query,
      Validator.layerIssues (.object members) validator =
        (validator.validate (.object members)).issues := by
    intro validator membership
    obtain ⟨group, -, isValidator⟩ := List.mem_filterMap.mp membership
    refine Validator.layerIssues_eq_issues ?_
    obtain ⟨compiled, success, validated⟩ := Option.bind_eq_some_iff.mp isValidator
    exact ConditionalGroup.makesObjects_of_compile (toOption_eq_some_iff.mp success)
      validated _
  exact List.flatMap_congr each

private theorem layerIssues_layers :
    (layers projection.spread? projection.namedFields
        (projection.groupValidators query)).flatMap
          (Validator.layerIssues (.object members)) =
      projection.issues query members := by
  rw [layers_eq, List.flatMap_append, List.flatMap_append, layerIssues_baseLayers,
    layerIssues_namedLayers, layerIssues_groupValidators]
  rfl

private theorem get?_layers (key : String)
    (accepted : projection.issues query members = []) :
    (Members.stack ((layers projection.spread? projection.namedFields
        (projection.groupValidators query)).map
          (Validator.layerMembers (.object members)))).get? key =
      projection.result? query members key := by
  simp only [issues, List.append_eq_nil_iff, ← issues_namedShape] at accepted
  -- The stack is searched from the top: groups, named entries, spread.
  rw [Members.get?_stack, ← List.map_reverse, List.findSome?_map, layers_eq,
    List.reverse_append, List.reverse_append, List.findSome?_append, List.findSome?_append]
  simp only [Function.comp_def, get?_baseLayers, get?_namedLayers _ _ _ accepted.1.2]
  simp only [Validator.layerMembers, Outcome.get?_objectMembers]
  rfl

variable {query projection}

/-- What no object is, is refused before any entry is looked at. -/
theorem validate_other_of_compile {compiled : Compiled} {validator : Validator}
    {value : Value} (success : projection.compile query = .ok compiled)
    (validated : compiled.validator = some validator) (other : value.asMembers? = none) :
    validator.validate value = mismatch "an object" value := by
  rw [validator_eq_layered success validated]
  exact Validator.layered_other _ other

/-- Of an object, everything that is wrong with it is gathered before it is settled. -/
theorem exists_made_of_compile {compiled : Compiled} {validator : Validator}
    (success : projection.compile query = .ok compiled)
    (validated : compiled.validator = some validator) (members : Members Value) :
    ∃ made, validator.validate (.object members) =
        Collector.finish { issues := projection.issues query members } (.object made) ∧
      (projection.issues query members = [] →
        ∀ key, made.get? key = projection.result? query members key) := by
  rw [validator_eq_layered success validated, Validator.layered_object, layerIssues_layers]
  exact ⟨_, rfl, fun silent key => get?_layers query projection members key silent⟩

/-- Only an object is accepted, and only one of which nothing is reported. -/
theorem exists_result_of_validate {compiled : Compiled} {validator : Validator}
    {value output : Value} (success : projection.compile query = .ok compiled)
    (validated : compiled.validator = some validator)
    (accepted : validator.validate value = .ok output) :
    ∃ members made, value = .object members ∧ output = .object made ∧
      projection.issues query members = [] ∧
      ∀ key, made.get? key = projection.result? query members key := by
  cases value with
  | object members =>
      obtain ⟨made, outcome, shown⟩ := exists_made_of_compile success validated members
      obtain ⟨silent, rfl⟩ := Collector.finish_eq_ok_iff.mp (outcome ▸ accepted)
      exact ⟨members, made, rfl, rfl, silent, shown silent⟩
  | null | bool | int | float | string | array =>
      rw [validate_other_of_compile success validated rfl] at accepted
      cases accepted

end Projection

end CheckedQuery

import CheckedQuery.Proofs.ProjectionMeaning
import CheckedQuery.Proofs.WellFormedness
import Mathlib.Data.List.Find
import Mathlib.Data.List.Perm.Basic

/-!
# The order of declarations

The order in which a projection declares its entries shows in its text and in the order
of the issues that its validator reports.  As long as the conditional groups stay in
order among themselves, nothing else depends on it.
-/

namespace CheckedQuery

/-- The same output, or the same issues in some order. -/
inductive Outcome.Reordered : Outcome → Outcome → Prop where
  | ok (output : Value) : Reordered (.ok output) (.ok output)
  | error {left right : Report} (issues : left.issues.Perm right.issues) :
      Reordered (.error left) (.error right)

namespace Outcome

theorem Reordered.refl (outcome : Outcome) : outcome.Reordered outcome := by
  cases outcome with
  | ok output => exact .ok output
  | error report => exact .error (.refl _)

/-- Issues that were gathered in another order are settled alike. -/
theorem reordered_finish {left right : List Issue} {output other : Value}
    (issues : left.Perm right) (outputs : left = [] → output = other) :
    Outcome.Reordered (Collector.finish { issues := left } output)
      (Collector.finish { issues := right } other) := by
  by_cases silent : left = []
  · subst silent
    rw [List.nil_perm.mp issues, outputs rfl]
    exact .ok other
  · have loud : right ≠ [] := fun none => silent (List.perm_nil.mp (none ▸ issues))
    obtain ⟨report, refused, lists⟩ := Collector.exists_error_of_issues_ne_nil output silent
    obtain ⟨again, refusedAgain, listsAgain⟩ :=
      Collector.exists_error_of_issues_ne_nil other loud
    rw [refused, refusedAgain]
    exact .error (by rwa [lists, listsAgain])

end Outcome

/-- Whatever two validators are given, they say the same up to the order of issues. -/
def Validator.Reordered (left right : Validator) : Prop :=
  ∀ value, (left.validate value).Reordered (right.validate value)

/-- Among items with keys of their own, it does not matter in which order a key is
searched. -/
theorem find?_key_of_perm {α : Type} {key : α → String} {items others : List α}
    (same : items.Perm others) (distinct : (items.map key).Nodup) (name : String) :
    (items.find? fun item => key item = name) = others.find? fun item => key item = name := by
  refine List.find?_eq_find?_of_perm same ?_
  rintro item ⟨membership, named⟩ other ⟨otherMembership, otherNamed⟩
  refine List.inj_on_of_nodup_map distinct membership otherMembership ?_
  exact (of_decide_eq_true named).trans (of_decide_eq_true otherNamed).symm

namespace Projection

/-- The entries that are declared as conditional groups, in order. -/
def conditionals (projection : Projection) : List (String × FieldValue) :=
  projection.entries.entries.filter fun entry =>
    match entry.2 with
    | .conditional _ => true
    | _ => false

/-- The same entries in some order that is the same for the conditional groups. -/
structure Reordered (first second : Projection) : Prop where
  entries : first.entries.entries.Perm second.entries.entries
  conditionals : first.conditionals = second.conditionals

variable {projection first second : Projection} {query : Query}

/-- The groups are the conditional entries that their keys allow. -/
theorem groups_eq :
    projection.groups = projection.conditionals.filterMap fun entry =>
      (FieldSpec.ofEntry entry).toOption.bind fun spec => spec.2.group? := by
  rw [groups, specs, conditionals, List.filterMap_filterMap, List.filterMap_filter]
  refine List.filterMap_congr fun entry _ => ?_
  split
  · rfl
  · next notGroup =>
      -- What is read as a group was declared as one.
      refine Option.eq_none_iff_forall_ne_some.mpr fun group isGroup => ?_
      obtain ⟨⟨key, spec⟩, read, isGroup⟩ := Option.bind_eq_some_iff.mp isGroup
      obtain ⟨-, classified⟩ := FieldSpec.ofEntry_eq_ok_iff.mp (toOption_eq_some_iff.mp read)
      cases spec with
      | conditional inner => exact notGroup inner (FieldSpec.eq_conditional_of_classify classified)
      | copied | path | pathWith | validator | nested | spread => cases isGroup

theorem declaredGroups_eq :
    projection.declaredGroups = projection.conditionals.filterMap fun entry =>
      entry.2.group? := by
  rw [declaredGroups, conditionals, List.filterMap_filter]
  refine List.filterMap_congr fun entry _ => ?_
  cases entry.2 <;> rfl

namespace Reordered

theorem symm (reordered : first.Reordered second) : second.Reordered first :=
  { entries := reordered.entries.symm
    conditionals := reordered.conditionals.symm }

theorem specs (reordered : first.Reordered second) : first.specs.Perm second.specs :=
  reordered.entries.filterMap _

theorem namedFields (reordered : first.Reordered second) :
    first.namedFields.Perm second.namedFields :=
  reordered.specs.filterMap _

theorem copiedKeys (reordered : first.Reordered second) :
    first.copiedKeys.Perm second.copiedKeys :=
  reordered.specs.filterMap _

theorem spread? (reordered : first.Reordered second) : first.spread? = second.spread? :=
  Option.ext fun supplied => by
    rw [spread?_eq_some_iff, spread?_eq_some_iff, reordered.specs.mem_iff]

theorem groups (reordered : first.Reordered second) : first.groups = second.groups := by
  rw [groups_eq, groups_eq, reordered.conditionals]

theorem declaredGroups (reordered : first.Reordered second) :
    first.declaredGroups = second.declaredGroups := by
  rw [declaredGroups_eq, declaredGroups_eq, reordered.conditionals]

theorem suppliesValidator (reordered : first.Reordered second) :
    first.suppliesValidator = second.suppliesValidator := by
  rw [Bool.eq_iff_iff, suppliesValidator_iff, suppliesValidator_iff, reordered.declaredGroups]
  simp only [reordered.entries.mem_iff]

theorem missingKeys (reordered : first.Reordered second) :
    first.missingKeys.Perm second.missingKeys := by
  have spreads : first.spreadsBare = second.spreadsBare := reordered.entries.any_eq
  rw [Projection.missingKeys, Projection.missingKeys, spreads]
  exact ((reordered.entries.filter _).map _).append_left _

theorem issues (reordered : first.Reordered second) (query : Query)
    (members : Members Value) :
    (first.issues query members).Perm (second.issues query members) := by
  simp only [Projection.issues, base, groupValidators, reordered.spread?, reordered.groups]
  exact ((reordered.namedFields.flatMap_right _).append_left _).append_right _

theorem result? (reordered : first.Reordered second) (query : Query)
    (members : Members Value) (key : String) :
    first.result? query members key = second.result? query members key := by
  simp only [Projection.result?, base, groupValidators, reordered.spread?, reordered.groups,
    find?_key_of_perm reordered.namedFields first.nodup_namedFields key]

theorem exists_compile (reordered : first.Reordered second)
    (compiles : ∃ compiled, first.compile query = .ok compiled) :
    ∃ compiled, second.compile query = .ok compiled := by
  obtain ⟨compiled, success⟩ := compiles
  obtain ⟨specs, known, covered, compiledGroups, computed, -⟩ := compile_eq_ok_iff.mp success
  have firstClassified := exists_specs_iff_classified.mp specs
  have classified : second.Classified :=
    fun entry membership => firstClassified entry (reordered.entries.mem_iff.mpr membership)
  refine ⟨_, compile_eq_ok_iff.mpr
    ⟨exists_specs_iff_classified.mpr classified, ?_, ?_, compiledGroups, ?_, rfl⟩⟩
  · intro key membership
    exact known key (reordered.copiedKeys.mem_iff.mpr membership)
  · intro required
    have nothing := covered required
    rw [unvalidatedKeys_eq_missingKeys firstClassified] at nothing
    rw [unvalidatedKeys_eq_missingKeys classified]
    exact List.nil_perm.mp (nothing ▸ reordered.missingKeys)
  · rw [← reordered.groups]
    exact computed

theorem validator {left right : Compiled} {former latter : Validator}
    (reordered : first.Reordered second) (compiles : first.compile query = .ok left)
    (compilesAgain : second.compile query = .ok right) (validated : left.validator = some former)
    (validatedAgain : right.validator = some latter) : former.Reordered latter := by
  intro value
  cases value with
  | object members =>
      have sameIssues := reordered.issues query members
      obtain ⟨made, outcome, shown⟩ := exists_made_of_compile compiles validated members
      obtain ⟨remade, outcomeAgain, shownAgain⟩ :=
        exists_made_of_compile compilesAgain validatedAgain members
      rw [outcome, outcomeAgain]
      apply Outcome.reordered_finish sameIssues
      intro silent
      have silentAgain : second.issues query members = [] :=
        List.nil_perm.mp (silent ▸ sameIssues)
      refine congrArg Value.object (MembersAbove.ext_get? fun key => ?_)
      rw [shown silent, shownAgain silentAgain, reordered.result?]
  | null | bool | int | float | string | array =>
      rw [validate_other_of_compile compiles validated rfl,
        validate_other_of_compile compilesAgain validatedAgain rfl]
      exact .refl _

end Reordered

/-- Projections with the same entries in another order, in which the conditional groups
keep their order, compile alike.  Both have a validator or none has, and the two
validators make the same outputs and report the same issues, each as often. -/
theorem compile_of_reordered (query : Query) (reordered : first.Reordered second) :
    ((∃ left, first.compile query = .ok left) ↔ ∃ right, second.compile query = .ok right) ∧
    ∀ left right, first.compile query = .ok left → second.compile query = .ok right →
      Option.Rel Validator.Reordered left.validator right.validator := by
  constructor
  · exact ⟨reordered.exists_compile, reordered.symm.exists_compile⟩
  · intro left right compiles compilesAgain
    have present : left.validator.isSome = right.validator.isSome := by
      rw [isSome_validator_of_compile compiles, isSome_validator_of_compile compilesAgain,
        reordered.suppliesValidator]
    cases validated : left.validator with
    | none =>
        cases validatedAgain : right.validator with
        | none => exact .none
        | some latter => simp [validated, validatedAgain] at present
    | some former =>
        cases validatedAgain : right.validator with
        | none => simp [validated, validatedAgain] at present
        | some latter =>
            exact .some (reordered.validator compiles compilesAgain validated validatedAgain)

private def kindGroup : ConditionalGroup :=
  .make "kind" [("defined(url)", .declare [("url", .validator .boolean)])] .mergeAll false

private def sizeGroup : ConditionalGroup :=
  .make "size" [("defined(width)", .declare [("url", .validator .null)])] .mergeAll false

def titleFirst : Projection :=
  .declare
    [("title", .validator .boolean), ("...", .flag true),
      ("[Conditional] kind", .conditional kindGroup), ("price", .validator .boolean),
      ("[Conditional] size", .conditional sizeGroup)]

def titleLast : Projection :=
  .declare
    [("...", .flag true), ("[Conditional] kind", .conditional kindGroup),
      ("price", .validator .boolean), ("[Conditional] size", .conditional sizeGroup),
      ("title", .validator .boolean)]

theorem compile_of_reordered_title :
    titleFirst.Reordered titleLast ∧
    ∃ left right former latter,
      titleFirst.compile (.start false) = .ok left ∧ left.validator = some former ∧
      titleLast.compile (.start false) = .ok right ∧ right.validator = some latter ∧
      former.Reordered latter ∧
      (former.validate (.object Members.empty)).issues.map Issue.path =
        [{ segments := [.field "title"] }, { segments := [.field "price"] }] ∧
      (latter.validate (.object Members.empty)).issues.map Issue.path =
        [{ segments := [.field "price"] }, { segments := [.field "title"] }] := by
  have reordered : titleFirst.Reordered titleLast :=
    { entries := (List.perm_append_singleton _ _).symm
      conditionals := rfl }
  refine ⟨reordered, _, _, _, _, rfl, rfl, rfl, rfl, ?_, rfl, rfl⟩
  have related := (compile_of_reordered (.start false) reordered).2 _ _ rfl rfl
  exact Option.rel_some_some.mp related

end Projection

end CheckedQuery

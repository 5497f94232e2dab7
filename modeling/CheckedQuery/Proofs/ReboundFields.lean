import CheckedQuery.Proofs.GroupMeaning
import CheckedQuery.Validator.Number
import CheckedQuery.Validator.Text

/-!
# Fields under other names

The field that a condition names is looked for under its name in the result.  A
projection may put something else there: the branch is then decided by what the result
shows under the name, and not by the field that the store tested.  Where that agrees with
the validator of the branch, the test changes nothing.  Otherwise it has the last word.
-/

namespace CheckedQuery

/-- A named entry puts something other than the field under the name of the field. -/
def Projection.Rebinds (projection : Projection) (field : String) : Prop :=
  ∃ named ∈ projection.namedFields, named.key = field ∧ named.fragment ≠ field

/-- What a group makes of documents when `branch` stands between the others. -/
def ConditionalGroup.resolvedWith (group : ConditionalGroup) (before : List ValidatedBranch)
    (branch : Branch) (after : List ValidatedBranch) : Validator :=
  Branch.resolve (before.map ValidatedBranch.resolved ++
    branch :: after.map ValidatedBranch.resolved) group.policy group.isExhaustive

namespace ValidatedBranch

/-- The branch without its test, left to its validator. -/
def untested (branch : ValidatedBranch) : Branch :=
  .ofCondition branch.condition branch.validator

/-- The verdict of an object on a branch contradicts the validator of the branch. -/
def Contradicted (members : Members Value) (branch : ValidatedBranch) : Prop :=
  branch.verdict members = .selected ∧ (branch.outcome members).isOk = false ∨
    branch.verdict members = .rejected ∧ (branch.outcome members).isOk = true

end ValidatedBranch

/-- What the test of one branch does to the result of its group: nothing, unless it
contradicts the validator, and then it has the last word. -/
structure ConditionalGroup.FollowsVerdict (group : ConditionalGroup)
    (before : List ValidatedBranch) (branch : ValidatedBranch) (after : List ValidatedBranch)
    (members : Members Value) (outcome : Outcome) : Prop where
  /-- Unless it contradicts the validator, the test does nothing. -/
  agreed : ¬branch.Contradicted members →
    outcome = (group.resolvedWith before branch.untested after).validate (.object members)
  /-- A rejected branch is passed over as if its validator had refused the object. -/
  rejected : branch.verdict members = .rejected →
    ∀ refusing : Validator, (refusing.validate (.object members)).isOk = false →
      outcome = (group.resolvedWith before (.ofCondition branch.condition refusing)
        after).validate (.object members)
  /-- A choice ends with a selected branch, if it comes that far. -/
  chosen : group.policy = .firstMatch → branch.verdict members = .selected →
    outcome =
      if before.any (ValidatedBranch.applies members) then
        (group.resolvedWith before branch.untested after).validate (.object members)
      else branch.outcome members
  /-- A merge reports what a selected branch reports. -/
  merged : group.policy = .mergeAll → branch.verdict members = .selected →
    (branch.outcome members).isOk = false →
      ∃ report, outcome = .error report ∧
        ∀ issue ∈ (branch.outcome members).issues, issue ∈ report.issues

namespace ValidatedBranch

variable {members : Members Value} {branch : ValidatedBranch} {before after : List ValidatedBranch}
  {query : Query}

theorem verdict_of_found {discriminator : Discriminator} {found : Value}
    (parsed : Discriminator.ofCondition? branch.condition = some discriminator)
    (shown : members.get? discriminator.field = some found) :
    branch.verdict members =
      if discriminator.test.passes found then .selected else .rejected := by
  simp only [verdict, parsed, shown]

theorem applies_eq_of_agreed (agreed : ¬branch.Contradicted members) :
    branch.applies members = (branch.outcome members).isOk := by
  unfold Contradicted at agreed
  unfold applies
  cases verdict : branch.verdict members with
  | selected => simpa [verdict] using agreed
  | rejected => simpa [verdict] using agreed
  | undecided => rfl

private theorem find?_before {earlier : ValidatedBranch} (other : Branch)
    (found : before.find? (applies members) = some earlier) :
    (before.map resolved ++ other :: after.map resolved).find?
      (Branch.applies (.object members)) = some earlier.resolved := by
  rw [List.find?_append, List.find?_map]
  simp only [Function.comp_def, applies_resolved, found]
  rfl

theorem followsVerdict (group : ConditionalGroup)
    (compile : ∀ other ∈ before ++ branch :: after, other.Compiles query) :
    group.FollowsVerdict before branch after members
      ((Branch.resolve ((before ++ branch :: after).map resolved) group.policy
        group.isExhaustive).validate (.object members)) := by
  constructor
  case agreed =>
    intro agreed
    rw [List.map_append, List.map_cons]
    apply Branch.resolve_exchange
    · rw [applies_resolved, applies_eq_of_agreed agreed]
      rfl
    · intro _
      exact ⟨rfl, rfl⟩
  case rejected =>
    intro rejected refusing refuses
    have passedOver : branch.resolved.applies (.object members) = false := by
      rw [applies_resolved, applies, rejected]
    rw [List.map_append, List.map_cons]
    apply Branch.resolve_exchange
    · exact passedOver.trans refuses.symm
    · intro applied
      rw [passedOver] at applied
      cases applied
  case chosen =>
    intro policy selected
    rw [ConditionalGroup.resolvedWith, policy, Branch.resolve, Branch.resolve,
      firstMatch_resolved, Branch.firstMatch_eq]
    cases found : before.find? (applies members) with
    | some earlier =>
        have any : before.any (applies members) = true := by
          rw [List.any_eq_true]
          exact ⟨earlier, List.mem_of_find?_eq_some found, List.find?_some found⟩
        rw [if_pos any, List.find?_append, found, find?_before branch.untested found]
        rfl
    | none =>
        have noneBefore : ¬before.any (applies members) = true := by
          simpa using found
        rw [if_neg noneBefore, List.find?_append, found,
          List.find?_cons_of_pos (applies_of_selected selected)]
        rfl
  case merged =>
    intro policy selected refused
    have reported : ∀ issue ∈ (branch.outcome members).issues,
        issue ∈ failures members (before ++ branch :: after) := by
      intro issue membership
      apply List.mem_flatMap.mpr
      exact ⟨branch, by simp [selected], membership⟩
    have fails : failures members (before ++ branch :: after) ≠ [] := by
      intro silent
      have noIssue : (branch.outcome members).issues = [] := by
        rw [List.eq_nil_iff_forall_not_mem]
        intro issue membership
        exact List.not_mem_nil (silent ▸ reported issue membership)
      obtain ⟨output, accepted⟩ := Outcome.issues_eq_nil_iff.mp noIssue
      rw [accepted] at refused
      cases refused
    rw [policy]
    obtain ⟨report, outcome, issues⟩ := (resolves_mergeAll policy compile).merge_fails policy
      ⟨branch, by simp, applies_of_selected selected⟩ fails
    exact ⟨report, outcome, fun issue membership => issues ▸ reported issue membership⟩

end ValidatedBranch

namespace Projection

variable {projection : Projection} {query : Query}

theorem mem_keys_of_rebinds {field : String} (rebinds : projection.Rebinds field) :
    field ∈ projection.entries.keys := by
  obtain ⟨named, membership, rfl, -⟩ := rebinds
  obtain ⟨⟨key, spec⟩, inSpecs, isNamed⟩ := List.mem_filterMap.mp membership
  obtain ⟨value, inEntries, -⟩ := mem_specs_iff.mp inSpecs
  rw [NamedField.key_of_ofSpec? isNamed]
  exact List.mem_map.mpr ⟨(key, value), inEntries, rfl⟩

/-- For every group with a validator in a projection that compiles, and every branch of it
whose condition names a field: whatever the projection and the branch put under the name of
the field, the result of the group follows the verdict on what stands there.  If the branch
puts another field there, an object without the name rejects the branch. -/
theorem followsVerdict_of_compile {compiled : Compiled} {group : ConditionalGroup}
    (success : projection.compile query = .ok compiled) (inGroups : group ∈ projection.groups) :
    ∃ compiledGroup, group.compile query = .ok compiledGroup ∧
      ∀ validator, compiledGroup.validator = some validator →
        ∃ branches : List ValidatedBranch,
          group.branches = branches.map (fun branch => (branch.condition, branch.projection)) ∧
          (∀ branch ∈ branches, branch.Compiles query) ∧
          ∀ before branch after, branches = before ++ branch :: after →
            ∀ discriminator, Discriminator.ofCondition? branch.condition = some discriminator →
              ∀ members : Members Value,
                (branch.projection.Rebinds discriminator.field →
                  members.get? discriminator.field = none →
                    branch.verdict members = .rejected) ∧
                group.FollowsVerdict before branch after members
                  (validator.validate (.object members)) := by
  obtain ⟨-, -, -, compiledGroups, computed, -⟩ := compile_eq_ok_iff.mp success
  obtain ⟨compiledGroup, compiles⟩ := exists_mapM_eq_ok_iff.mp ⟨_, computed⟩ group inGroups
  refine ⟨compiledGroup, compiles, fun validator validated => ?_⟩
  obtain ⟨branches, declared, compile, rfl⟩ :=
    ConditionalGroup.exists_validated_of_compile compiles validated
  refine ⟨branches, declared, compile, ?_⟩
  rintro before branch after rfl discriminator parsed members
  constructor
  · intro rebinds absent
    simp only [ValidatedBranch.verdict, parsed, absent]
    rw [if_pos (mem_keys_of_rebinds rebinds)]
  · exact ValidatedBranch.followsVerdict group compile

/-- A branch for sources with a price, which shows the price of the offer in its place. -/
def offered : ValidatedBranch :=
  { condition := "defined(price)"
    projection := .declare
      [("price", .pathWith "offer.price" NumberShape.any.validator.nullable),
        ("name", .validator TextShape.any.validator)]
    text := "\x7b \"price\": offer.price, name \x7d"
    validator := .layered [FieldShape.validator (.ofList
      [("price", some NumberShape.any.validator.nullable),
        ("name", some TextShape.any.validator)])] }

def offers : ConditionalGroup :=
  .make "offers" [(offered.condition, offered.projection)] .mergeAll false

def listing : Projection :=
  .declare [(offers.key, .conditional offers)]

theorem ofCondition?_offered :
    Discriminator.ofCondition? offered.condition =
      some { field := "price", test := .defined, carried := false } :=
  rfl

/-- A result with a name, and with null as the price of the offer. -/
def unpriced : Members Value :=
  .ofList [("name", .string "n"), ("price", .null)]

theorem followsVerdict_of_compile_listing :
    ∃ compiled validator,
      offers.compile (.start false) = .ok compiled ∧ compiled.validator = some validator ∧
      validator.validate (.object unpriced) = .ok .emptyObject := by
  have success : ∃ compiled, listing.compile (.start false) = .ok compiled := ⟨_, rfl⟩
  have computed : ∃ text validator, offers.compile (.start false) =
      .ok { text := text, validator := some validator } := ⟨_, _, rfl⟩
  obtain ⟨compiledListing, success⟩ := success
  obtain ⟨text, validator, computed⟩ := computed
  have inGroups : offers ∈ listing.groups := List.mem_singleton.mpr rfl
  obtain ⟨compiled, compiles, follows⟩ := followsVerdict_of_compile success inGroups
  cases computed.symm.trans compiles
  obtain ⟨branches, declared, -, each⟩ := follows validator rfl
  obtain ⟨branch, rfl, isOffered⟩ := List.map_eq_singleton_iff.mp declared.symm
  have condition : branch.condition = offered.condition := congrArg Prod.fst isOffered
  have parsed : Discriminator.ofCondition? branch.condition =
      some { field := "price", test := .defined, carried := false } := by
    rw [condition, ofCondition?_offered]
  have shown : unpriced.get? "price" = some .null := by rfl
  have rejected : branch.verdict unpriced = .rejected := by
    rw [ValidatedBranch.verdict_of_found parsed shown]
    rfl
  have passedOver := (each [] branch [] rfl _ parsed unpriced).2.rejected rejected .null rfl
  exact ⟨_, validator, computed, rfl, passedOver⟩

/-- The result has a name and a price, and the validator of the branch accepts it.  Yet the
price of the offer stands where the store tested the price of the source, and the branch is
dropped for it. -/
theorem rebound_price_drops_branch :
    (∃ compiled, listing.compile (.start false) = .ok compiled) ∧ offers ∈ listing.groups ∧
    offered.Compiles (.start false) ∧
    (∃ discriminator, Discriminator.ofCondition? offered.condition = some discriminator ∧
      offered.projection.Rebinds discriminator.field) ∧
    ∃ compiled validator,
      offers.compile (.start false) = .ok compiled ∧ compiled.validator = some validator ∧
      validator.validate (.object unpriced) = .ok .emptyObject ∧
      (offers.resolvedWith [] offered.untested []).validate (.object unpriced) =
        .ok (.object unpriced) ∧
      validator.validate (.object unpriced) ≠
        (offers.resolvedWith [] offered.untested []).validate (.object unpriced) := by
  refine ⟨⟨_, rfl⟩, List.mem_singleton.mpr rfl, rfl, ?_, _, _, rfl, rfl, rfl, rfl, ?_⟩
  · exact ⟨_, ofCondition?_offered, _, List.mem_cons_self, rfl, by decide⟩
  · intro same
    cases same

end Projection

end CheckedQuery

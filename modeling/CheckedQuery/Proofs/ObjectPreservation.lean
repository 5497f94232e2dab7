import CheckedQuery.Proofs.Branches
import CheckedQuery.Proofs.Rules
import CheckedQuery.Proofs.SchemaTree

/-!
# Objects stay objects

Without validators from outside no schema makes anything but an object of an object.
Only an output from outside can therefore be refused for its kind where layers are laid
over an object.
-/

namespace CheckedQuery.Schema

def isGiven : Schema → Bool
  | .given _ => true
  | _ => false

/-- Nothing below comes from outside. -/
def SelfContained : Schema → Prop :=
  Everywhere fun schema => schema.isGiven = false

/-- What a schema makes of an object is an object. -/
def KeepsObjects (schema : Schema) : Prop :=
  ∀ members : Members Value, schema.validator.MakesObject (.object members)

private theorem keepsObjects_items {item : Option Schema} {orSingle : Bool}
    (keeps : ∀ child ∈ (Schema.items item orSingle).children, child.KeepsObjects) :
    (Schema.items item orSingle).KeepsObjects := by
  intro members output accepted
  cases orSingle with
  | false => cases item <;> cases accepted
  | true =>
      cases item with
      | none => exact ⟨members, (Except.ok.inj accepted).symm⟩
      | some item => exact keeps item (List.mem_singleton.mpr rfl) members output accepted

private theorem keepsObjects_union {options : List Schema}
    (keeps : ∀ child ∈ options, child.KeepsObjects) : (Schema.union options).KeepsObjects := by
  intro members output accepted
  obtain ⟨option, membership, success⟩ := Validator.exists_of_union_ok accepted
  rw [validators_eq_map] at membership
  obtain ⟨child, present, rfl⟩ := List.mem_map.mp membership
  exact keeps child present members output success

private theorem keepsObjects_conditional
    {branches : List (String × Option Discriminator × Schema)} {policy : BranchPolicy}
    {exhaustive : Bool}
    (keeps : ∀ child ∈ (Schema.conditional branches policy exhaustive).children,
      child.KeepsObjects) :
    (Schema.conditional branches policy exhaustive).KeepsObjects := by
  intro members
  refine Branch.resolve_makesObject policy exhaustive ?_
  intro branch membership
  rw [branchValidators_eq_map] at membership
  obtain ⟨declared, present, rfl⟩ := List.mem_map.mp membership
  exact keeps _ (mem_children_conditional present) members

theorem keepsObjects {schema : Schema} (selfContained : schema.SelfContained) :
    schema.KeepsObjects := by
  induction schema using children_induction with
  | node schema induction =>
      have keeps : ∀ child ∈ schema.children, child.KeepsObjects := fun child membership =>
        induction child membership (selfContained.of_child membership)
      clear induction
      cases schema with
      | string shape =>
          intro members output accepted
          rw [validator, TextShape.validate_other shape rfl] at accepted
          cases accepted
      | number shape =>
          intro members output accepted
          rw [validator, NumberShape.validate_other shape rfl] at accepted
          cases accepted
      | boolean | null =>
          intro members output accepted
          cases accepted
      | unknown | anyObject =>
          intro members output accepted
          exact ⟨members, (Except.ok.inj accepted).symm⟩
      | literal expected =>
          intro members output accepted
          simp only [validator, Validator.literal] at accepted
          split at accepted
          · exact ⟨members, (Except.ok.inj accepted).symm⟩
          · cases accepted
      | fields declarations =>
          intro members output accepted
          rw [validator, FieldShape.validate_object] at accepted
          exact ⟨_, (Collector.finish_eq_ok_iff.mp accepted).2.symm⟩
      | items item orSingle => exact keepsObjects_items keeps
      | union options => exact keepsObjects_union keeps
      | layered layers =>
          intro members
          exact Validator.layered_makesObjects _ _
      | andThen first second =>
          intro members output accepted
          simp only [validator, Validator.andThen] at accepted
          split at accepted
          · next middle success =>
              obtain ⟨between, rfl⟩ :=
                keeps first (by simp [children]) members middle success
              exact keeps second (by simp [children]) between output accepted
          · cases accepted
      | nullable inner =>
          exact keeps inner (List.mem_singleton.mpr rfl)
      | withDefault inner fallback =>
          exact keeps inner (List.mem_singleton.mpr rfl)
      | conditional branches policy exhaustive => exact keepsObjects_conditional keeps
      | given supplied => cases selfContained.here

variable {members : Members Value}

/-- Of layers that make objects nothing is reported but what they report. -/
theorem issues_layered_object {layers : List Schema}
    (keeps : ∀ layer ∈ layers, layer.KeepsObjects) :
    ((Schema.layered layers).validator.validate (.object members)).issues =
      layers.flatMap fun layer => (layer.validator.validate (.object members)).issues := by
  rw [validator, Validator.layered_object, Collector.issues_finish, validators_eq_map,
    List.flatMap_map]
  exact List.flatMap_congr fun layer membership =>
    Validator.layerIssues_eq_issues (keeps layer membership members)

/-- The branches that apply to a document. -/
def applicable (branches : List (String × Option Discriminator × Schema)) (value : Value) :
    List (String × Option Discriminator × Schema) :=
  branches.filter fun branch => (branchOf branch).applies value

/-- Of branches that make objects nothing is reported but what they report, and that none of
them applies. -/
theorem issues_merge_object {branches : List (String × Option Discriminator × Schema)}
    {exhaustive : Bool} (keeps : ∀ branch ∈ branches, branch.2.2.KeepsObjects) :
    ((Schema.conditional branches .mergeAll exhaustive).validator.validate
        (.object members)).issues =
      if applicable branches (.object members) = [] then
        (Branch.noneApplies branches.length (.object members) exhaustive).issues
      else
        (applicable branches (.object members)).flatMap fun branch =>
          (branch.2.2.validator.validate (.object members)).issues := by
  have selected : (branches.map branchOf).filter (Branch.applies (.object members)) =
      (applicable branches (.object members)).map branchOf :=
    List.filter_map
  rw [validator, branchValidators_eq_map, Branch.resolve, Branch.mergeAll_eq, selected,
    List.length_map]
  by_cases inapplicable : applicable branches (.object members) = []
  · rw [if_pos inapplicable, if_pos (List.map_eq_nil_iff.mpr inapplicable)]
  · rw [if_neg inapplicable, if_neg (mt List.map_eq_nil_iff.mp inapplicable),
      Collector.issues_finish, List.flatMap_map]
    refine List.flatMap_congr fun branch membership => ?_
    exact Branch.mergeIssues_eq_issues (keeps branch (List.mem_filter.mp membership).1 members)

/-- No output is complained about for its kind, except by a merge over something else than an
object. -/
structure Uncomplaining (part : Schema) : Prop where
  /-- What is made of an object is an object. -/
  kept : part.KeepsObjects
  /-- Layers refuse what is no object themselves, and none of them sees it. -/
  refused : ∀ layers, part = .layered layers → ∀ value, value.asMembers? = none →
    part.validator.validate value = .error (.single (.ofKind "an object" value))
  /-- Of an object they report what each of them reports, and add nothing. -/
  layered : ∀ layers, part = .layered layers → ∀ members,
    (part.validator.validate (.object members)).issues =
      layers.flatMap fun layer => (layer.validator.validate (.object members)).issues
  /-- A merge reports of an object what each applicable branch reports, and adds nothing.  If
  no branch applies, it may say just that. -/
  merged : ∀ branches exhaustive, part = .conditional branches .mergeAll exhaustive →
    ∀ members, (part.validator.validate (.object members)).issues =
      if applicable branches (.object members) = [] then
        (Branch.noneApplies branches.length (.object members) exhaustive).issues
      else
        (applicable branches (.object members)).flatMap fun branch =>
          (branch.2.2.validator.validate (.object members)).issues

/-- Without validators from outside objects stay objects wherever a schema meets them.  So no
layer is ever refused for what it makes, and no branch of a merge for what it makes of an
object. -/
theorem everywhere_uncomplaining {schema : Schema} (selfContained : schema.SelfContained) :
    schema.Everywhere Uncomplaining := by
  refine selfContained.nested.mono fun part inside => ?_
  constructor
  case kept => exact keepsObjects inside
  case refused =>
    rintro layers rfl value other
    exact Validator.layered_other _ other
  case layered =>
    rintro layers rfl members
    exact issues_layered_object fun layer membership =>
      keepsObjects (inside.of_child membership)
  case merged =>
    rintro branches exhaustive rfl members
    exact issues_merge_object fun branch membership =>
      keepsObjects (inside.of_child (mem_children_conditional membership))

/-- A merge whose branch makes a scalar of null, and what it is given of everything else. -/
def pricedOrNothing : Schema :=
  .conditional [("defined(price)", none, .withDefault .anyObject (.bool false))] .mergeAll false

/-- The merge laid under a chain, which puts a flag in the place of a missing one. -/
def flaggedProduct : Schema :=
  .layered
    [pricedOrNothing,
      .andThen (.union [.boolean, .anyObject])
        (.fields [("flag", some (.withDefault .boolean (.bool true)))])]

/-- The merge complains of what it makes of null.  The layers give it no null, and of an object
neither of them has anything to say. -/
theorem everywhere_uncomplaining_flagged :
    flaggedProduct.SelfContained ∧ pricedOrNothing.Uncomplaining ∧
    flaggedProduct.Uncomplaining ∧
    (pricedOrNothing.validator.validate .null).issues =
      [.atRoot (.bool false) "Conditional branch `defined(price)` produced a non-object value"
        "invalid_type"] ∧
    flaggedProduct.validator.validate .null =
      .error (.single (.ofKind "an object" .null)) ∧
    flaggedProduct.validator.validate .emptyObject =
      .ok (.object (Members.ofList [("flag", .bool true)])) := by
  have anyObject : Schema.anyObject.SelfContained := .leaf rfl rfl
  have boolean : Schema.boolean.SelfContained := .leaf rfl rfl
  have priced : pricedOrNothing.SelfContained := by
    refine .node rfl (List.forall_mem_singleton.mpr ?_)
    exact .node rfl (List.forall_mem_singleton.mpr anyObject)
  have union : SelfContained (.union [.boolean, .anyObject]) := by
    refine .node rfl (List.forall_mem_cons.mpr ⟨boolean, ?_⟩)
    exact List.forall_mem_singleton.mpr anyObject
  have fields : SelfContained (.fields [("flag", some (.withDefault .boolean (.bool true)))]) := by
    refine .node rfl (List.forall_mem_singleton.mpr ?_)
    exact .node rfl (List.forall_mem_singleton.mpr boolean)
  have selfContained : flaggedProduct.SelfContained := by
    refine .node rfl (List.forall_mem_cons.mpr ⟨priced, List.forall_mem_singleton.mpr ?_⟩)
    refine .node rfl (List.forall_mem_cons.mpr ⟨union, ?_⟩)
    exact List.forall_mem_singleton.mpr fields
  have everywhere := everywhere_uncomplaining selfContained
  exact ⟨selfContained, (everywhere.of_child List.mem_cons_self).here, everywhere.here, rfl,
    everywhere.here.refused _ rfl .null rfl, rfl⟩

end CheckedQuery.Schema

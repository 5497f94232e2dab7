import CheckedQuery.Proofs.Branches
import CheckedQuery.Validator.Text

/-!
# Where the policies agree

A choice stops at the first applicable branch, a merge goes through all of them.  Where
only one branch applies the two cannot differ, as long as what it makes is an object.  A
merge in turn is nothing but layers: over an object it does what the validators of the
applicable branches do when they are laid over each other.
-/

namespace CheckedQuery

namespace Outcome

/-- Whatever the outcome makes is an object. -/
def IsObject (outcome : Outcome) : Prop :=
  ∀ output, outcome = .ok output → ∃ members, output = .object members

theorem isObject_error (report : Report) : IsObject (.error report) := by
  intro output accepted
  cases accepted

theorem isObject_ok_iff {output : Value} :
    IsObject (.ok output) ↔ ∃ members, output = .object members := by
  constructor
  · intro object
    exact object output rfl
  · intro isObject made accepted
    cases accepted
    exact isObject

/-- One outcome that is gathered and finished again comes out as it was just if it is an
object or a report. -/
theorem finish_eq_self_iff (complain : Value → Issue) (outcome : Outcome) :
    Collector.finish { issues := outcome.objectIssues complain }
        (.object outcome.objectMembers) = outcome ↔ outcome.IsObject := by
  cases outcome with
  | error report => simpa [isObject_error] using Collector.finish_eq_error_iff.mpr rfl
  | ok output =>
      rw [isObject_ok_iff, Collector.finish_eq_ok_iff]
      cases output <;> simp [objectIssues, objectMembers, members?]

/-- Two ways to complain are told apart by an output that is no object, and by nothing
else. -/
theorem objectIssues_eq_iff {complain other : Value → Issue}
    (different : ∀ output, complain output ≠ other output) (outcome : Outcome) :
    outcome.objectIssues complain = outcome.objectIssues other ↔ outcome.IsObject := by
  cases outcome with
  | error report => simp [objectIssues, isObject_error]
  | ok output =>
      rw [isObject_ok_iff]
      cases output <;> simp [objectIssues, different]

end Outcome

namespace Branch

variable {branches : List Branch} {exhaustive : Bool} {value : Value}

/-- What the applicable branches make of the document is an object. -/
def ApplicableMakeObjects (value : Value) (branches : List Branch) : Prop :=
  ∀ branch ∈ branches, branch.applies value = true → branch.validator.MakesObject value

theorem applicableMakeObjects_iff_filter :
    ApplicableMakeObjects value branches ↔
      ∀ branch ∈ branches.filter (applies value), branch.validator.MakesObject value := by
  constructor
  · intro objects branch membership
    obtain ⟨inside, applied⟩ := List.mem_filter.mp membership
    exact objects branch inside applied
  · intro objects branch inside applied
    exact objects branch (List.mem_filter.mpr ⟨inside, applied⟩)

theorem mergeAll_of_filter_singleton {branch : Branch}
    (only : branches.filter (applies value) = [branch]) :
    (mergeAll branches exhaustive).validate value =
      Collector.finish { issues := branch.mergeIssues value }
        (.object (branch.mergeMembers value)) := by
  rw [mergeAll_eq, only, if_neg (List.cons_ne_nil branch [])]
  simp [Members.stack]

/-- Where at most one branch applies, a choice and a merge do the same just if that
branch, should its validator accept the document, makes an object of it. -/
theorem firstMatch_eq_mergeAll_iff (exclusive : branches.countP (applies value) ≤ 1) :
    (firstMatch branches exhaustive).validate value =
        (mergeAll branches exhaustive).validate value ↔
      ApplicableMakeObjects value branches := by
  rw [List.countP_eq_length_filter] at exclusive
  rw [applicableMakeObjects_iff_filter, firstMatch_eq, ← List.head?_filter]
  cases applicable : branches.filter (applies value) with
  | nil => simp [mergeAll_eq, applicable]
  | cons branch others =>
      cases others with
      | nil =>
          rw [mergeAll_of_filter_singleton applicable, List.forall_mem_singleton]
          exact eq_comm.trans
            (Outcome.finish_eq_self_iff branch.complaint (branch.validator.validate value))
      | cons other others => simp [applicable] at exclusive

/-- A branch for documents of one type, which have a text in a field. -/
def typed (type field : String) : Branch :=
  { condition := "_type == \"" ++ type ++ "\""
    validator := FieldShape.validator (.ofList [(field, some TextShape.any.validator)])
    discriminator := some { field := "_type", test := .equals (.string type), carried := false } }

/-- Of the three branches the first is rejected, the second has nothing to decide it and
refuses the document, and the third is selected and fails. -/
def pageBranches : List Branch :=
  [typed "post" "_type", .ofCondition "title match \"a*\"" TextShape.any.validator,
    typed "page" "title"]

/-- A page with a title that is no text. -/
def untitledPage : Value :=
  .object (Members.ofList [("_type", .string "page"), ("title", .bool true)])

theorem firstMatch_eq_mergeAll_iff_pages :
    pageBranches.countP (applies untitledPage) ≤ 1 ∧
    (firstMatch pageBranches true).validate untitledPage =
      (mergeAll pageBranches true).validate untitledPage ∧
    ((mergeAll pageBranches true).validate untitledPage).issues =
      [{ path := { segments := [.field "title"] }
         value := .bool true
         message := "Expected string, received boolean"
         code := "invalid_type" }] := by
  have exclusive : pageBranches.countP (applies untitledPage) ≤ 1 := Nat.le_refl 1
  refine ⟨exclusive, ?_, rfl⟩
  apply (firstMatch_eq_mergeAll_iff exclusive).mpr
  intro branch inside applied output accepted
  rcases List.mem_cons.mp inside with rfl | inside
  · cases applied
  · rcases List.mem_cons.mp inside with rfl | inside
    · cases applied
    · rw [List.mem_singleton.mp inside] at accepted
      cases accepted

/-- A merge and layers never complain in the same words. -/
theorem complaint_ne_ofKind (branch : Branch) (output : Value) :
    branch.complaint output ≠ .ofKind "an object" output := by
  intro same
  have messages := congrArg (fun issue => issue.message.toList) same
  simp [complaint, Issue.ofKind, Issue.atRoot, mismatchMessage] at messages

theorem mergeIssues_eq_layerIssues_iff (branch : Branch) (value : Value) :
    branch.mergeIssues value = Validator.layerIssues value branch.validator ↔
      branch.validator.MakesObject value :=
  Outcome.objectIssues_eq_iff branch.complaint_ne_ofKind (branch.validator.validate value)

private theorem length_mergeIssues (branch : Branch) (value : Value) :
    (branch.mergeIssues value).length =
      (Validator.layerIssues value branch.validator).length := by
  unfold mergeIssues Validator.layerIssues
  cases branch.validator.validate value with
  | error report => rfl
  | ok output => cases output <;> rfl

/-- Branches report what their validators report as layers just if all of them make
objects. -/
theorem flatMap_mergeIssues_eq_iff (applicable : List Branch) (value : Value) :
    applicable.flatMap (mergeIssues value) =
        (applicable.map validator).flatMap (Validator.layerIssues value) ↔
      ∀ branch ∈ applicable, branch.validator.MakesObject value := by
  induction applicable with
  | nil => simp
  | cons branch applicable induction =>
      rw [List.map_cons, List.flatMap_cons, List.flatMap_cons, List.forall_mem_cons,
        ← induction, ← mergeIssues_eq_layerIssues_iff]
      constructor
      · intro same
        exact List.append_inj same (length_mergeIssues branch value)
      · rintro ⟨here, later⟩
        rw [here, later]

private theorem noneApplies_eq_emptyObject_iff {count : Nat} :
    noneApplies count value exhaustive = .ok .emptyObject ↔ exhaustive = false := by
  cases exhaustive <;> simp [noneApplies, reject]

/-- Over every object a merge does what the validators of the applicable branches do as
layers, in the order of the branches, just if all that they make is objects, and an
exhaustive merge has an applicable branch at all. -/
theorem mergeAll_eq_layered_iff (branches : List Branch) (exhaustive : Bool)
    (members : Members Value) :
    (mergeAll branches exhaustive).validate (.object members) =
        (Validator.layered
          ((branches.filter (applies (.object members))).map validator)).validate
          (.object members) ↔
      (exhaustive = true → ∃ branch ∈ branches, branch.applies (.object members) = true) ∧
        ApplicableMakeObjects (.object members) branches := by
  have nonempty_iff : (∃ branch ∈ branches, branch.applies (.object members) = true) ↔
      branches.filter (applies (.object members)) ≠ [] := by
    simp [List.filter_eq_nil_iff]
  rw [applicableMakeObjects_iff_filter, nonempty_iff, mergeAll_eq]
  by_cases empty : branches.filter (applies (.object members)) = []
  · rw [if_pos empty, empty]
    apply noneApplies_eq_emptyObject_iff.trans
    simp
  · rw [if_neg empty, Validator.layered_object, List.map_map, ← flatMap_mergeIssues_eq_iff]
    constructor
    · intro same
      refine ⟨fun _ => empty, ?_⟩
      have issues := congrArg Outcome.issues same
      rwa [Collector.issues_finish, Collector.issues_finish] at issues
    · rintro ⟨-, issues⟩
      rw [issues]
      rfl

/-- A branch that copies a field, without a test. -/
def copying (field : String) : Branch :=
  .ofCondition ("count(" ++ field ++ ") > 0") (FieldShape.validator (.ofList [(field, none)]))

/-- The first branch is rejected although its validator accepts every page with a kind, the
second one has nothing to decide it, and the third one is selected. -/
def mergedBranches : List Branch :=
  [typed "post" "kind", copying "tags", typed "page" "title"]

def titledPage : Value :=
  .object (Members.ofList
    [("_type", .string "page"), ("kind", .string "news"), ("tags", .array []),
      ("title", .string "a")])

theorem mergeAll_eq_layered_iff_pages :
    (∀ page ∈ [titledPage, untitledPage],
      (mergeAll mergedBranches true).validate page =
        (Validator.layered [(copying "tags").validator, (typed "page" "title").validator]).validate
          page) ∧
    (mergeAll mergedBranches true).validate titledPage =
      .ok (.object (Members.ofList [("tags", .array []), ("title", .string "a")])) ∧
    (mergeAll mergedBranches true).validate untitledPage =
      .error (.single
        { path := { segments := [.field "title"] }
          value := .bool true
          message := "Expected string, received boolean"
          code := "invalid_type" }) := by
  have objects : ∀ branch ∈ mergedBranches, branch.validator.MakesObjects := by
    simp [mergedBranches, typed, copying, ofCondition, FieldShape.makesObjects]
  have layers : ∀ members : Members Value,
      mergedBranches.filter (applies (.object members)) = [copying "tags", typed "page" "title"] →
      (mergeAll mergedBranches true).validate (.object members) =
        (Validator.layered [(copying "tags").validator, (typed "page" "title").validator]).validate
          (.object members) := by
    intro members applicable
    have applied : copying "tags" ∈ mergedBranches.filter (applies (.object members)) := by
      simp [applicable]
    have same := (mergeAll_eq_layered_iff mergedBranches true members).mpr
      ⟨fun _ => ⟨_, List.mem_filter.mp applied⟩, fun branch inside _ => objects branch inside _⟩
    rwa [applicable] at same
  refine ⟨?_, rfl, rfl⟩
  intro page inside
  rcases List.mem_cons.mp inside with rfl | inside
  · exact layers _ rfl
  · obtain rfl := List.mem_singleton.mp inside
    exact layers _ rfl

end Branch

end CheckedQuery

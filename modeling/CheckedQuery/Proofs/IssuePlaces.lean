import CheckedQuery.Proofs.ObjectPreservation

/-!
# Where issues stand

A schema hands the document, or what is one step further in, over to its children.  As
long as no child is handed what another one made, every issue stands where a part of the
schema met the value that the issue shows.  Only a merge also complains about what its
branches make.
-/

namespace CheckedQuery

namespace Value

/-- What stands at the end of some steps into a document.  A missing member reads as null.
A step of the wrong kind leads nowhere, and so does a step past the last item. -/
def at? : Value → List Segment → Option Value
  | value, [] => some value
  | .object members, .field name :: rest => (members.read name).at? rest
  | .array values, .index position :: rest =>
      values[position]?.bind fun value => value.at? rest
  | _, _ :: _ => none

theorem at?_append (value : Value) (first rest : List Segment) :
    value.at? (first ++ rest) = (value.at? first).bind fun found => found.at? rest := by
  induction first generalizing value with
  | nil => simp [at?]
  | cons segment first induction =>
      cases value <;> cases segment <;> simp [at?, induction, Option.bind_assoc]

end Value

namespace Schema

/-- A schema hands a value over to one of its children, some steps further in. -/
inductive HandsOver : Schema → Value → List Segment → Schema → Value → Prop where
  | field {declarations : List (String × Option Schema)} {members : Members Value}
      {name : String} {child : Schema}
      (declared : (Keyed.ofList declarations).get? name = some (some child)) :
      HandsOver (.fields declarations) (.object members) [.field name] child
        (members.read name)
  | item {child : Schema} {orSingle : Bool} {values : List Value} {position : Nat}
      {value : Value} (found : values[position]? = some value) :
      HandsOver (.items (some child) orSingle) (.array values) [.index position] child value
  | single {child : Schema} {value : Value} (other : value.asItems? = none) :
      HandsOver (.items (some child) true) value [] child value
  | option {options : List Schema} {child : Schema} {value : Value}
      (membership : child ∈ options) : HandsOver (.union options) value [] child value
  | layer {layers : List Schema} {child : Schema} {members : Members Value}
      (membership : child ∈ layers) :
      HandsOver (.layered layers) (.object members) [] child (.object members)
  | nullable {child : Schema} {value : Value} (present : value.isNull = false) :
      HandsOver (.nullable child) value [] child value
  | withDefault {child : Schema} {fallback value : Value} (present : value.isNull = false) :
      HandsOver (.withDefault child fallback) value [] child value
  | branch {branches : List (String × Option Discriminator × Schema)} {policy : BranchPolicy}
      {exhaustive : Bool} {branch : String × Option Discriminator × Schema} {value : Value}
      (membership : branch ∈ branches) (applied : (branchOf branch).applies value = true) :
      HandsOver (.conditional branches policy exhaustive) value [] branch.2.2 value

/-- A schema passes values on until a part of it meets one at the end of some steps. -/
inductive Reaches : Schema → Value → List Segment → Schema → Value → Prop where
  | here (schema : Schema) (value : Value) : Reaches schema value [] schema value
  | step {schema child part : Schema} {value inner found : Value}
      {steps path : List Segment} (handed : HandsOver schema value steps child inner)
      (reaches : Reaches child inner path part found) :
      Reaches schema value (steps ++ path) part found

/-- The issue of a merge, anywhere in a document, about a branch that applies and makes
something else of the value at hand than an object. -/
inductive MergeComplaint : Schema → Value → Issue → Prop where
  | make {branches : List (String × Option Discriminator × Schema)} {exhaustive : Bool}
      {branch : String × Option Discriminator × Schema} {value output : Value} (path : Path)
      (membership : branch ∈ branches) (applied : (branchOf branch).applies value = true)
      (made : branch.2.2.validator.validate value = .ok output)
      (other : output.asMembers? = none) :
      MergeComplaint (.conditional branches .mergeAll exhaustive) value
        { (branchOf branch).complaint output with path := path }

theorem HandsOver.at?_eq {schema child : Schema} {value inner : Value} {steps : List Segment}
    (handed : HandsOver schema value steps child inner) : value.at? steps = some inner := by
  cases handed with
  | item found => simp [Value.at?, found]
  | field | single | option | layer | nullable | withDefault | branch => simp [Value.at?]

/-- The steps lead to the value that is met. -/
theorem Reaches.at?_eq {schema part : Schema} {value found : Value} {path : List Segment}
    (reaches : Reaches schema value path part found) : value.at? path = some found := by
  induction reaches with
  | here schema value => simp [Value.at?]
  | step handed reaches induction =>
      rw [Value.at?_append, handed.at?_eq]
      exact induction

/-- An issue stands where a part of the schema met the value that it shows, or where a
merge complains about one of its branches. -/
def Locates (schema : Schema) (value : Value) (issue : Issue) : Prop :=
  ∃ part found, schema.Reaches value issue.path.segments part found ∧
    (issue.value = found ∨ part.MergeComplaint found issue)

theorem locates_atRoot (schema : Schema) (value : Value) (message code : String) :
    schema.Locates value (.atRoot value message code) :=
  ⟨schema, value, .here schema value, .inl rfl⟩

theorem Locates.of_child {schema child : Schema} {value inner : Value}
    {steps : List Segment} {issue : Issue}
    (handed : HandsOver schema value steps child inner) (located : child.Locates inner issue) :
    schema.Locates value (issue.within steps) := by
  obtain ⟨part, found, reaches, shown⟩ := located
  refine ⟨part, found, .step handed reaches, ?_⟩
  rcases shown with shown | complaint
  · exact .inl shown
  · cases complaint with
    | make path membership applied made other =>
        exact .inr (.make _ membership applied made other)

def LocatesIssues (schema : Schema) : Prop :=
  ∀ value, ∀ issue ∈ (schema.validator.validate value).issues, schema.Locates value issue

private theorem locates_of_mismatch {schema : Schema} {value : Value} {expected : String}
    {issue : Issue} (membership : issue ∈ (mismatch expected value).issues) :
    schema.Locates value issue := by
  rw [List.mem_singleton.mp membership]
  exact locates_atRoot schema value _ _

private theorem locatesIssues_string (shape : TextShape) :
    (Schema.string shape).LocatesIssues := by
  intro value issue membership
  rw [validator] at membership
  cases value with
  | string text =>
      rw [TextShape.validate_string, Collector.issues_finish] at membership
      obtain ⟨rule, -, rfl⟩ := List.mem_map.mp membership
      exact locates_atRoot _ _ _ _
  | null | bool | int | float | array | object =>
      rw [TextShape.validate_other shape rfl] at membership
      rw [List.mem_singleton.mp membership]
      exact locates_atRoot _ _ _ _

private theorem locatesIssues_number (shape : NumberShape) :
    (Schema.number shape).LocatesIssues := by
  intro value issue membership
  rw [validator] at membership
  cases read : value.asFloat? with
  | none =>
      rw [NumberShape.validate_other shape read] at membership
      exact locates_of_mismatch membership
  | some number =>
      rw [NumberShape.validate_number shape read, Collector.issues_finish] at membership
      obtain ⟨rule, -, rfl⟩ := List.mem_map.mp membership
      exact locates_atRoot _ _ _ _

private theorem locatesIssues_literal (expected : Value) :
    (Schema.literal expected).LocatesIssues := by
  intro value issue membership
  simp only [validator, Validator.literal] at membership
  split at membership
  · cases membership
  · rw [List.mem_singleton.mp membership]
    exact locates_atRoot _ _ _ _

private theorem locatesIssues_fields {declarations : List (String × Option Schema)}
    (located : ∀ child ∈ (Schema.fields declarations).children, child.LocatesIssues) :
    (Schema.fields declarations).LocatesIssues := by
  intro value issue membership
  rw [validator] at membership
  cases value with
  | object members =>
      rw [FieldShape.validate_object, Collector.issues_finish, FieldShape.issues,
        fields_ofList_fieldValidators, Keyed.map, List.flatMap_map] at membership
      obtain ⟨⟨name, schema⟩, declared, reported⟩ := List.mem_flatMap.mp membership
      obtain ⟨inner, found, rfl⟩ := List.mem_map.mp reported
      cases schema with
      | none => cases found
      | some child =>
          have present := mem_children_fields (Keyed.mem_of_mem_ofList declared)
          have handed : HandsOver (.fields declarations) (.object members) [.field name] child
              (members.read name) :=
            .field (Keyed.find?_of_mem (Keyed.ofList declarations).distinct declared)
          exact (located child present _ inner found).of_child handed
  | null | bool | int | float | string | array =>
      rw [FieldShape.validate_other _ rfl] at membership
      exact locates_of_mismatch membership

private theorem locatesIssues_items {item : Option Schema} {orSingle : Bool}
    (located : ∀ child ∈ (Schema.items item orSingle).children, child.LocatesIssues) :
    (Schema.items item orSingle).LocatesIssues := by
  intro value issue membership
  cases found : value.asItems? with
  | none =>
      cases item with
      | none =>
          rw [validator, ItemShape.validate_other _ found] at membership
          cases orSingle with
          | true => cases membership
          | false => exact locates_of_mismatch membership
      | some item =>
          rw [validator, ItemShape.validate_other _ found] at membership
          cases orSingle with
          | true =>
              have inside := located item (List.mem_singleton.mpr rfl) value issue membership
              exact inside.of_child (.single found)
          | false => exact locates_of_mismatch membership
  | some values =>
      cases value with
      | array values =>
          cases item with
          | none => cases membership
          | some item =>
              rw [validator, ItemShape.validate_array, Collector.issues_finish] at membership
              obtain ⟨⟨entry, position⟩, indexed, reported⟩ := List.mem_flatMap.mp membership
              obtain ⟨inner, raised, rfl⟩ := List.mem_map.mp reported
              have handed : HandsOver (.items (some item) orSingle) (.array values)
                  [.index position] item entry :=
                .item (List.mk_mem_zipIdx_iff_getElem?.mp indexed)
              have inside := located item (List.mem_singleton.mpr rfl) entry inner raised
              exact inside.of_child handed
      | null | bool | int | float | string | object => cases found

private theorem locatesIssues_union {options : List Schema}
    (located : ∀ child ∈ options, child.LocatesIssues) :
    (Schema.union options).LocatesIssues := by
  intro value issue membership
  rw [validator, Validator.union_eq] at membership
  split at membership
  · cases membership
  · rw [Collector.issues_finish, validators_eq_map, List.flatMap_map] at membership
    rcases List.mem_append.mp membership with among | own
    · obtain ⟨child, present, raised⟩ := List.mem_flatMap.mp among
      exact (located child present value issue raised).of_child (.option present)
    · rw [List.mem_singleton.mp own]
      exact locates_atRoot _ _ _ _

private theorem locatesIssues_layered {layers : List Schema}
    (located : ∀ child ∈ layers, child.LocatesIssues)
    (keeps : ∀ child ∈ layers, child.KeepsObjects) : (Schema.layered layers).LocatesIssues := by
  intro value issue membership
  cases value with
  | object members =>
      rw [issues_layered_object keeps] at membership
      obtain ⟨child, present, raised⟩ := List.mem_flatMap.mp membership
      exact (located child present _ issue raised).of_child (.layer present)
  | null | bool | int | float | string | array =>
      rw [validator, Validator.layered_other _ rfl] at membership
      exact locates_of_mismatch membership

private theorem locates_of_noneApplies {schema : Schema} {count : Nat} {value : Value}
    {exhaustive : Bool} {issue : Issue}
    (membership : issue ∈ (Branch.noneApplies count value exhaustive).issues) :
    schema.Locates value issue := by
  cases exhaustive with
  | true =>
      rw [List.mem_singleton.mp membership]
      exact locates_atRoot _ _ _ _
  | false => cases membership

private theorem locatesIssues_conditional
    {branches : List (String × Option Discriminator × Schema)} {policy : BranchPolicy}
    {exhaustive : Bool}
    (located : ∀ child ∈ (Schema.conditional branches policy exhaustive).children,
      child.LocatesIssues) :
    (Schema.conditional branches policy exhaustive).LocatesIssues := by
  intro value issue membership
  rw [validator, branchValidators_eq_map] at membership
  have inside : ∀ branch ∈ branches, (branchOf branch).applies value = true →
      issue ∈ ((branchOf branch).validator.validate value).issues →
        (Schema.conditional branches policy exhaustive).Locates value issue := by
    intro branch present applied raised
    exact (located _ (mem_children_conditional present) value issue raised).of_child
      (.branch present applied)
  cases policy with
  | firstMatch =>
      rw [Branch.resolve, Branch.firstMatch_eq] at membership
      split at membership
      · next branch first =>
          obtain ⟨declared, present, rfl⟩ := List.mem_map.mp (List.mem_of_find?_eq_some first)
          exact inside declared present (List.find?_some first) membership
      · exact locates_of_noneApplies membership
  | mergeAll =>
      rw [Branch.resolve, Branch.mergeAll_eq] at membership
      split at membership
      · exact locates_of_noneApplies membership
      · rw [Collector.issues_finish] at membership
        obtain ⟨branch, selected, reported⟩ := List.mem_flatMap.mp membership
        obtain ⟨mapped, applied⟩ := List.mem_filter.mp selected
        obtain ⟨declared, present, rfl⟩ := List.mem_map.mp mapped
        rcases Outcome.mem_objectIssues reported with raised | ⟨output, made, other, rfl⟩
        · exact inside declared present applied raised
        · exact ⟨_, value, .here _ value, .inr (.make .root present applied made other)⟩

/-- Whether a schema hands its children nothing but parts of the document, and comes
with its own code. -/
def isDirect : Schema → Bool
  | .andThen _ _ => false
  | .given _ => false
  | _ => true

/-- No chain and nothing from outside occurs. -/
def Direct : Schema → Prop :=
  Everywhere fun schema => schema.isDirect = true

theorem Direct.selfContained {schema : Schema} (direct : schema.Direct) :
    schema.SelfContained := by
  refine Everywhere.mono direct fun schema here => ?_
  cases schema <;> first | rfl | cases here

theorem locatesIssues {schema : Schema} (direct : schema.Direct) : schema.LocatesIssues := by
  induction schema using children_induction with
  | node schema induction =>
      have located : ∀ child ∈ schema.children, child.LocatesIssues :=
        fun child present => induction child present (direct.of_child present)
      have keeps : ∀ child ∈ schema.children, child.KeepsObjects :=
        fun child present => keepsObjects (Direct.selfContained (direct.of_child present))
      cases schema with
      | string shape => exact locatesIssues_string shape
      | number shape => exact locatesIssues_number shape
      | boolean | null | anyObject =>
          intro value issue membership
          cases value <;> first | exact locates_of_mismatch membership | cases membership
      | unknown =>
          intro value issue membership
          cases membership
      | literal expected => exact locatesIssues_literal expected
      | fields declarations => exact locatesIssues_fields located
      | items item orSingle => exact locatesIssues_items located
      | union options => exact locatesIssues_union located
      | layered layers => exact locatesIssues_layered located keeps
      | nullable inner =>
          have inside := located inner (List.mem_singleton.mpr rfl)
          intro value issue membership
          cases value with
          | null => cases membership
          | bool | int | float | string | array | object =>
              exact (inside _ issue membership).of_child (.nullable rfl)
      | withDefault inner fallback =>
          have inside := located inner (List.mem_singleton.mpr rfl)
          intro value issue membership
          cases value with
          | null => cases membership
          | bool | int | float | string | array | object =>
              exact (inside _ issue membership).of_child (.withDefault rfl)
      | conditional branches policy exhaustive => exact locatesIssues_conditional located
      | andThen first second => cases direct.here
      | given supplied => cases direct.here

/-- The path of an issue leads to a value in the document that a part of the schema has
met there, and the issue shows this value.  The only other issues are those of a merge at
the end of the path about a branch that makes something else than an object. -/
theorem issue_at_place {schema : Schema} (direct : schema.Direct) {value : Value}
    {report : Report} (refused : schema.validator.validate value = .error report)
    {issue : Issue} (membership : issue ∈ report.issues) :
    ∃ part found, schema.Reaches value issue.path.segments part found ∧
      value.at? issue.path.segments = some found ∧
      (issue.value = found ∨ part.MergeComplaint found issue) := by
  have raised : issue ∈ (schema.validator.validate value).issues := by
    rw [refused]
    exact membership
  obtain ⟨part, found, reaches, shown⟩ := locatesIssues direct value issue raised
  exact ⟨part, found, reaches, reaches.at?_eq, shown⟩

/-- A field whose missing value is replaced before it is merged. -/
def replacedField : Schema :=
  .fields [("shape", some (.conditional
    [("defined(url)", none, .withDefault .unknown (.bool true))] .mergeAll false))]

theorem issue_at_place_replacedField :
    ∃ report issue part,
      replacedField.validator.validate .emptyObject = .error report ∧
      issue ∈ report.issues ∧
      issue.path.segments = [.field "shape"] ∧ issue.value = .bool true ∧
      Value.emptyObject.at? [.field "shape"] = some .null ∧
      MergeComplaint part .null issue := by
  have direct : replacedField.Direct := by
    have inner : Direct (.withDefault .unknown (.bool true)) := by
      refine .node rfl fun child present => ?_
      cases List.mem_singleton.mp present
      exact .node rfl fun child present => by cases present
    refine .node rfl fun child present => ?_
    cases List.mem_singleton.mp present
    refine .node rfl fun child present => ?_
    cases List.mem_singleton.mp present
    exact inner
  have refused : ∃ report issue, replacedField.validator.validate .emptyObject = .error report ∧
      issue ∈ report.issues ∧ issue.path.segments = [.field "shape"] ∧
        issue.value = .bool true :=
    ⟨_, _, rfl, List.mem_singleton.mpr rfl, rfl, rfl⟩
  obtain ⟨report, issue, refused, membership, place, shown⟩ := refused
  obtain ⟨part, found, -, leads, cause⟩ := issue_at_place direct refused membership
  rw [place] at leads
  cases leads
  rcases cause with same | complaint
  · rw [shown] at same
    cases same
  · exact ⟨report, issue, part, refused, membership, place, shown, rfl, complaint⟩

end Schema

end CheckedQuery

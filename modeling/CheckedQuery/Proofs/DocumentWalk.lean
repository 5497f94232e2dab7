import CheckedQuery.Proofs.SchemaTree
import CheckedQuery.Proofs.Shapes
import Mathlib.Data.List.Basic

/-!
# Walking a schema and a document together

Objects and arrays only pass on what is below them.  A walk through the two trees at
once collects the outcomes at the places where nothing is passed on any more, each with
the steps that lead there, and a validator reports exactly what these outcomes report.
-/

namespace CheckedQuery

/-- An outcome that a walk comes across, and the steps from the root to it. -/
structure Visit where
  above : List Segment
  outcome : Outcome

def Visit.issues (visit : Visit) : List Issue :=
  visit.outcome.issues.map (Issue.within visit.above)

/-- A walk that meets an object or an array with a document of another kind comes across
one issue about that document. -/
def Visit.ofOtherKind (above : List Segment) (expected : String) (value : Value) : Visit :=
  { above := above
    outcome := .error (.single
      { path := .root
        value := value
        message := "Expected " ++ expected ++ ", received " ++ value.typeName
        code := "invalid_type" }) }

namespace Schema

/-- Whether a walk goes no further. -/
def isLeaf : Schema → Bool
  | .fields _ => false
  | .items _ _ => false
  | _ => true

mutual

/-- Walk a schema and a document, fields in the order of their declarations and items in
the order of their indexes.  A document of the wrong kind ends the walk. -/
def visits : Schema → List Segment → Value → List Visit
  | .fields declarations, above, value =>
      match value with
      | .object members =>
          (Keyed.ofList (fieldVisits declarations above members)).entries.flatMap Prod.snd
      | _ => [.ofOtherKind above "an object" value]
  | .items none orSingle, above, value =>
      match value with
      | .array _ => []
      | _ => if orSingle then [] else [.ofOtherKind above "an array" value]
  | .items (some item) orSingle, above, value =>
      match value with
      | .array values =>
          values.zipIdx.flatMap fun entry => item.visits (above ++ [.index entry.2]) entry.1
      | _ =>
          if orSingle then item.visits above value
          else [.ofOtherKind above "an array" value]
  | schema, above, value => [{ above := above, outcome := schema.validator.validate value }]

/-- Field counterpart of `visits`.  A missing member reads as null. -/
def fieldVisits : List (String × Option Schema) → List Segment → Members Value →
    List (String × List Visit)
  | [], _, _ => []
  | (name, none) :: rest, above, members => (name, []) :: fieldVisits rest above members
  | (name, some schema) :: rest, above, members =>
      (name, schema.visits (above ++ [.field name]) (members.read name)) ::
        fieldVisits rest above members

end

/-- Everything that a walk from the root comes across, in order. -/
def reported (schema : Schema) (value : Value) : List Issue :=
  (schema.visits [] value).flatMap Visit.issues

/-- A document rebuilt from what the leaves of a schema make of its parts. -/
inductive Rebuilt : Schema → Value → Value → Prop where
  | leaf {schema : Schema} {value output : Value} (isLeaf : schema.isLeaf = true)
      (accepted : schema.validator.validate value = .ok output) : Rebuilt schema value output
  /-- An object has exactly the declared keys. -/
  | fields {declarations : List (String × Option Schema)} {members output : Members Value}
      (keys : ∀ name, (output.get? name).isSome = true ↔ name ∈ declarations.map Prod.fst)
      (copied : ∀ name, (Keyed.ofList declarations).get? name = some none →
        output.get? name = some (members.read name))
      (checked : ∀ name schema made, (Keyed.ofList declarations).get? name = some (some schema) →
        output.get? name = some made → Rebuilt schema (members.read name) made) :
      Rebuilt (.fields declarations) (.object members) (.object output)
  /-- An array keeps its length. -/
  | items {item : Schema} {orSingle : Bool} {values output : List Value}
      (length : output.length = values.length)
      (each : ∀ (position : Nat) (value made : Value), values[position]? = some value →
        output[position]? = some made → Rebuilt item value made) :
      Rebuilt (.items (some item) orSingle) (.array values) (.array output)
  | single {item : Schema} {value output : Value} (other : value.asItems? = none)
      (made : Rebuilt item value output) : Rebuilt (.items (some item) true) value output
  | copiedItems {orSingle : Bool} (values : List Value) :
      Rebuilt (.items none orSingle) (.array values) (.array values)
  | copiedSingle {value : Value} (other : value.asItems? = none) :
      Rebuilt (.items none true) value value

def memberVisits (above : List Segment) (members : Members Value) (name : String) :
    Option Schema → List Visit
  | none => []
  | some schema => schema.visits (above ++ [.field name]) (members.read name)

theorem fieldVisits_eq_map (declarations : List (String × Option Schema))
    (above : List Segment) (members : Members Value) :
    fieldVisits declarations above members =
      declarations.map fun declaration =>
        (declaration.1, memberVisits above members declaration.1 declaration.2) := by
  induction declarations with
  | nil => rfl
  | cons declaration declarations induction =>
      obtain ⟨name, schema⟩ := declaration
      cases schema <;> simp [fieldVisits, memberVisits, induction]

theorem visits_object (declarations : List (String × Option Schema)) (above : List Segment)
    (members : Members Value) :
    (Schema.fields declarations).visits above (.object members) =
      (Keyed.ofList declarations).entries.flatMap fun declaration =>
        memberVisits above members declaration.1 declaration.2 := by
  rw [visits, fieldVisits_eq_map, Keyed.ofList_map, Keyed.map, List.flatMap_map]

theorem visits_leaf {schema : Schema} (isLeaf : schema.isLeaf = true) (above : List Segment)
    (value : Value) :
    schema.visits above value =
      [{ above := above, outcome := schema.validator.validate value }] := by
  cases schema <;> first | rfl | cases isLeaf

/-- A walk comes across what the validator reports. -/
def WalkAgrees (schema : Schema) : Prop :=
  ∀ (above : List Segment) (value : Value),
    (schema.visits above value).flatMap Visit.issues =
      (schema.validator.validate value).issues.map (Issue.within above)

private theorem walkAgrees_leaf {schema : Schema} (isLeaf : schema.isLeaf = true) :
    schema.WalkAgrees := by
  intro above value
  rw [visits_leaf isLeaf, List.flatMap_singleton, Visit.issues]

private theorem issues_memberVisits {name : String} {schema : Option Schema}
    (agrees : ∀ child ∈ schema, child.WalkAgrees) (above : List Segment)
    (members : Members Value) :
    (memberVisits above members name schema).flatMap Visit.issues =
      (FieldShape.fieldIssues members (name, schema.map validator)).map
        (Issue.within above) := by
  cases schema with
  | none => rfl
  | some schema =>
      rw [memberVisits, agrees schema rfl, FieldShape.fieldIssues, List.map_map]
      exact List.map_congr_left fun issue _ => (Issue.within_under _ _ issue).symm

private theorem walkAgrees_fields {declarations : List (String × Option Schema)}
    (agrees : ∀ child ∈ (Schema.fields declarations).children, child.WalkAgrees) :
    (Schema.fields declarations).WalkAgrees := by
  intro above value
  cases value with
  | object members =>
      -- A repeated key is walked once, so the comparison is over the declarations in effect.
      have each : ∀ declaration ∈ (Keyed.ofList declarations).entries,
          (memberVisits above members declaration.1 declaration.2).flatMap Visit.issues =
            (FieldShape.fieldIssues members
              (declaration.1, declaration.2.map validator)).map (Issue.within above) := by
        rintro ⟨name, schema⟩ membership
        refine issues_memberVisits (fun child present => ?_) above members
        cases present
        exact agrees child (mem_children_fields (Keyed.mem_of_mem_ofList membership))
      rw [visits_object, List.flatMap_assoc, List.flatMap_congr each, validator,
        FieldShape.validate_object, Collector.issues_finish, FieldShape.issues,
        fields_ofList_fieldValidators, Keyed.map, List.flatMap_map, List.map_flatMap]
  | null | bool | int | float | string | array => rfl

private theorem walkAgrees_items {item : Option Schema} {orSingle : Bool}
    (agrees : ∀ child ∈ (Schema.items item orSingle).children, child.WalkAgrees) :
    (Schema.items item orSingle).WalkAgrees := by
  intro above value
  cases item with
  | none => cases value <;> cases orSingle <;> rfl
  | some item =>
      have inside : item.WalkAgrees := agrees item (List.mem_singleton.mpr rfl)
      cases value with
      | array values =>
          have each : ∀ entry ∈ values.zipIdx,
              (item.visits (above ++ [.index entry.2]) entry.1).flatMap Visit.issues =
                (ItemShape.itemIssues item.validator entry).map (Issue.within above) := by
            intro entry _
            rw [inside, ItemShape.itemIssues, List.map_map]
            exact List.map_congr_left fun issue _ => (Issue.within_under _ _ issue).symm
          rw [visits, List.flatMap_assoc, List.flatMap_congr each, validator,
            ItemShape.validate_array, Collector.issues_finish, List.map_flatMap]
      | null | bool | int | float | string | object =>
          cases orSingle with
          | true => exact inside above _
          | false => rfl

theorem walkAgrees (schema : Schema) : schema.WalkAgrees := by
  induction schema using children_induction with
  | node schema agrees =>
      cases schema with
      | fields declarations => exact walkAgrees_fields agrees
      | items item orSingle => exact walkAgrees_items agrees
      | _ => exact walkAgrees_leaf rfl

theorem issues_eq_reported (schema : Schema) (value : Value) :
    (schema.validator.validate value).issues = schema.reported value := by
  have agrees := schema.walkAgrees [] value
  rw [reported, agrees]
  exact (List.map_id' _).symm

private theorem validate_object_eq_ok_iff {declarations : List (String × Option Schema)}
    {members output : Members Value} :
    (Schema.fields declarations).validator.validate (.object members) = .ok (.object output) ↔
      (∀ name, (output.get? name).isSome = true ↔ name ∈ declarations.map Prod.fst) ∧
      ∀ name schema made, (Keyed.ofList declarations).get? name = some schema →
        output.get? name = some made →
          FieldShape.validateField (members.read name) (schema.map validator) = .ok made := by
  rw [validator, FieldShape.validate_object_eq_ok_iff]
  simp only [get?_fieldValidators, Option.isSome_map, Keyed.get?_isSome_ofList_iff,
    Option.map_eq_some_iff]
  refine and_congr_right fun _ => ?_
  constructor
  · intro each name schema made found shown
    exact each name _ made ⟨schema, found, rfl⟩ shown
  · rintro each name _ made ⟨schema, found, rfl⟩ shown
    exact each name schema made found shown

theorem Rebuilt.accepted {schema : Schema} {value output : Value}
    (rebuilt : Rebuilt schema value output) :
    schema.validator.validate value = .ok output := by
  induction rebuilt with
  | leaf isLeaf accepted => exact accepted
  | fields keys copied checked induction =>
      refine validate_object_eq_ok_iff.mpr ⟨keys, ?_⟩
      intro name schema made found shown
      cases schema with
      | none =>
          rw [copied name found] at shown
          exact congrArg Except.ok (Option.some.inj shown)
      | some schema => exact induction name schema made found shown
  | items length each induction =>
      exact ItemShape.validate_array_eq_ok_iff.mpr ⟨length, induction⟩
  | single other made induction =>
      rw [validator, ItemShape.validate_other _ other]
      exact induction
  | copiedItems values => rfl
  | copiedSingle other => exact ItemShape.validate_other _ other

private theorem rebuilt_fields {declarations : List (String × Option Schema)}
    (each : ∀ child ∈ (Schema.fields declarations).children, ∀ value output,
      child.validator.validate value = .ok output → Rebuilt child value output)
    {value output : Value}
    (accepted : (Schema.fields declarations).validator.validate value = .ok output) :
    Rebuilt (.fields declarations) value output := by
  cases value with
  | object members =>
      have shaped := accepted
      rw [validator, FieldShape.validate_object] at shaped
      obtain ⟨-, rfl⟩ := Collector.finish_eq_ok_iff.mp shaped
      obtain ⟨keys, made⟩ := validate_object_eq_ok_iff.mp accepted
      refine .fields keys ?_ ?_
      · intro name found
        have declared := Keyed.get?_isSome_ofList_iff.mp (by rw [found, Option.isSome_some])
        obtain ⟨shown, present⟩ := Option.isSome_iff_exists.mp ((keys name).mpr declared)
        cases made name none shown found present
        exact present
      · intro name schema shown found present
        have declared := Keyed.mem_of_mem_ofList (Keyed.mem_of_find? found)
        exact each schema (mem_children_fields declared) _ _
          (made name (some schema) shown found present)
  | null | bool | int | float | string | array => cases accepted

private theorem rebuilt_items {item : Option Schema} {orSingle : Bool}
    (each : ∀ child ∈ (Schema.items item orSingle).children, ∀ value output,
      child.validator.validate value = .ok output → Rebuilt child value output)
    {value output : Value}
    (accepted : (Schema.items item orSingle).validator.validate value = .ok output) :
    Rebuilt (.items item orSingle) value output := by
  cases item with
  | none =>
      cases value with
      | array values =>
          cases accepted
          exact .copiedItems values
      | null | bool | int | float | string | object =>
          cases orSingle <;> cases accepted
          exact .copiedSingle rfl
  | some item =>
      have inside := each item (List.mem_singleton.mpr rfl)
      cases value with
      | array values =>
          have shaped := accepted
          rw [validator, ItemShape.validate_array] at shaped
          obtain ⟨-, rfl⟩ := Collector.finish_eq_ok_iff.mp shaped
          obtain ⟨length, made⟩ := ItemShape.validate_array_eq_ok_iff.mp accepted
          exact .items length fun position value output found shown =>
            inside value output (made position value output found shown)
      | null | bool | int | float | string | object =>
          cases orSingle with
          | true => exact .single rfl (inside _ _ accepted)
          | false => cases accepted

theorem rebuilt_of_accepted {schema : Schema} {value output : Value}
    (accepted : schema.validator.validate value = .ok output) : Rebuilt schema value output := by
  induction schema using children_induction generalizing value output with
  | node schema each =>
      cases schema with
      | fields declarations =>
          exact rebuilt_fields (fun child present _ _ => each child present) accepted
      | items item orSingle =>
          exact rebuilt_items (fun child present _ _ => each child present) accepted
      | _ => exact .leaf rfl accepted

/-- A validator refuses a document with exactly the issues of the leaves that a walk comes
across, each behind the steps that lead to its leaf.  It accepts the document exactly
when there are none, and what it makes of the document is rebuilt from what the leaves
make of its parts. -/
theorem validate_by_walk (schema : Schema) (value : Value) :
    (∀ report, schema.validator.validate value = .error report ↔
      report.issues = schema.reported value) ∧
    ((∃ output, schema.validator.validate value = .ok output) ↔ schema.reported value = []) ∧
    ∀ output, schema.validator.validate value = .ok output ↔ Rebuilt schema value output := by
  rw [← issues_eq_reported]
  refine ⟨fun report => ?_, Outcome.issues_eq_nil_iff.symm, fun output => ?_⟩
  · exact Outcome.eq_error_iff.trans eq_comm
  · exact ⟨rebuilt_of_accepted, Rebuilt.accepted⟩

/-- One row or several, each with an identity and a list of anything. -/
def table : Schema :=
  .fields [("rows", some (.items
    (some (.fields [("id", some .boolean), ("tags", some (.items none false))])) true))]

theorem validate_by_walk_table :
    (∃ report,
      table.validator.validate (.object (Members.ofList
        [("rows", .array [.object (Members.ofList [("tags", .string "x")]), .null])])) =
          .error report ∧
      report.issues =
        [{ path := { segments := [.field "rows", .index 0, .field "id"] }
           value := .null
           message := "Expected boolean, received null"
           code := "invalid_type" },
         { path := { segments := [.field "rows", .index 0, .field "tags"] }
           value := .string "x"
           message := "Expected an array, received string"
           code := "invalid_type" },
         { path := { segments := [.field "rows", .index 1] }
           value := .null
           message := "Expected an object, received null"
           code := "invalid_type" }]) ∧
    Rebuilt table
      (.object (Members.ofList
        [("rows", .object (Members.ofList
            [("tags", .array [.null]), ("size", .null), ("id", .bool true)])),
          ("count", .null)]))
      (.object (Members.ofList
        [("rows", .object (Members.ofList [("id", .bool true), ("tags", .array [.null])]))])) := by
  constructor
  · exact ⟨{ issues := _, nonempty := List.cons_ne_nil _ _ },
      ((validate_by_walk table _).1 _).mpr rfl, rfl⟩
  · exact ((validate_by_walk table _).2.2 _).mp rfl

end Schema

end CheckedQuery

import CheckedQuery.Proofs.Entries
import CheckedQuery.Proofs.Outcomes
import CheckedQuery.Validator.Fields
import CheckedQuery.Validator.Items
import Mathlib.Data.List.Basic

/-!
# What shapes, layers and unions amount to

Each of them walks its children with a collector.  The equations below say in one
step what such a walk gathers, so that later proofs never follow the walk itself.
-/

namespace CheckedQuery

/-- What an object shows at a name; a missing member reads as null. -/
def MembersAbove.read {low : Option String} (members : MembersAbove Value low)
    (name : String) : Value :=
  (members.get? name).getD .null

namespace Outcome

/-- The issues of an outcome that has to be an object.  Any other document is
answered by `complain`. -/
def objectIssues (complain : Value → Issue) : Outcome → List Issue
  | .ok (.object _) => []
  | .ok other => [complain other]
  | .error report => report.issues

def objectMembers (outcome : Outcome) : Members Value :=
  outcome.members?.getD .empty

theorem get?_objectMembers (outcome : Outcome) (name : String) :
    outcome.objectMembers.get? name = outcome.members?.bind fun members => members.get? name := by
  unfold objectMembers
  cases outcome.members? <;> rfl

@[simp] theorem objectIssues_finish (complain : Value → Issue) (collector : Collector)
    (members : Members Value) :
    (collector.finish (.object members)).objectIssues complain = collector.issues := by
  obtain ⟨issues⟩ := collector
  cases issues <;> rfl

/-- Nothing is complained about when only objects are accepted. -/
theorem objectIssues_eq_issues {outcome : Outcome} (complain : Value → Issue)
    (object : ∀ output, outcome = .ok output → ∃ members, output = .object members) :
    outcome.objectIssues complain = outcome.issues := by
  cases outcome with
  | error report => rfl
  | ok output =>
      obtain ⟨members, rfl⟩ := object output rfl
      rfl

theorem mem_objectIssues {outcome : Outcome} {complain : Value → Issue} {issue : Issue}
    (membership : issue ∈ outcome.objectIssues complain) :
    issue ∈ outcome.issues ∨
      ∃ output, outcome = .ok output ∧ output.asMembers? = none ∧ issue = complain output := by
  cases outcome with
  | error report => exact .inl membership
  | ok output =>
      cases output with
      | object members => cases membership
      | null | bool | int | float | string | array =>
          exact .inr ⟨_, rfl, rfl, List.mem_singleton.mp membership⟩

end Outcome

namespace FieldShape

/-- The issues of one field, seen from the object. -/
def fieldIssues (members : Members Value) (field : String × Option Validator) : List Issue :=
  (validateField (members.read field.1) field.2).issues.map (Issue.under (.field field.1))

/-- The issues of all fields in the order of their declarations. -/
def issues (shape : FieldShape) (members : Members Value) : List Issue :=
  shape.fields.entries.flatMap (fieldIssues members)

def output (shape : FieldShape) (members : Members Value) : Members Value :=
  (validateEach members .empty .empty shape.fields.entries).2

private theorem validateEach_cons_ok {members output : Members Value} {collector : Collector}
    {name : String} {validator : Option Validator} {fields : List (String × Option Validator)}
    {value : Value} (accepted : validateField (members.read name) validator = .ok value) :
    validateEach members collector output ((name, validator) :: fields) =
      validateEach members collector (output.insert name value) fields := by
  unfold MembersAbove.read at accepted
  simp [validateEach, accepted]

private theorem validateEach_cons_error {members output : Members Value}
    {collector : Collector} {name : String} {validator : Option Validator}
    {fields : List (String × Option Validator)} {report : Report}
    (refused : validateField (members.read name) validator = .error report) :
    validateEach members collector output ((name, validator) :: fields) =
      validateEach members (collector.add (some (.field name)) report) output fields := by
  unfold MembersAbove.read at refused
  simp [validateEach, refused]

theorem issues_validateEach (members output : Members Value) (collector : Collector)
    (fields : List (String × Option Validator)) :
    (validateEach members collector output fields).1.issues =
      collector.issues ++ fields.flatMap (fieldIssues members) := by
  induction fields generalizing collector output with
  | nil => simp [validateEach]
  | cons field fields induction =>
      obtain ⟨name, validator⟩ := field
      cases outcome : validateField (members.read name) validator with
      | ok value =>
          rw [validateEach_cons_ok outcome, induction]
          simp [fieldIssues, outcome]
      | error report =>
          rw [validateEach_cons_error outcome, induction]
          simp [fieldIssues, outcome]

theorem get?_validateEach (members output : Members Value) (collector : Collector)
    {fields : List (String × Option Validator)} (distinct : (fields.map Prod.fst).Nodup)
    (name : String) :
    (validateEach members collector output fields).2.get? name =
      ((Keyed.find? name fields).bind fun validator =>
        (validateField (members.read name) validator).toOption).or (output.get? name) := by
  induction fields generalizing collector output with
  | nil => rfl
  | cons field fields induction =>
      obtain ⟨key, validator⟩ := field
      rw [List.map_cons, List.nodup_cons] at distinct
      have later := Keyed.find?_eq_none_iff.mpr distinct.1
      cases outcome : validateField (members.read key) validator with
      | ok value =>
          rw [validateEach_cons_ok outcome, induction _ _ distinct.2, Members.get?_insert]
          by_cases same : key = name
          · subst same
            simp [Keyed.find?, later, outcome, Except.toOption]
          · simp [Keyed.find?, same]
      | error report =>
          rw [validateEach_cons_error outcome, induction _ _ distinct.2]
          by_cases same : key = name
          · subst same
            simp [Keyed.find?, later, outcome, Except.toOption]
          · simp [Keyed.find?, same]

theorem validate_object (shape : FieldShape) (members : Members Value) :
    shape.validator.validate (.object members) =
      Collector.finish { issues := shape.issues members } (.object (shape.output members)) := by
  have gathered := issues_validateEach members .empty .empty shape.fields.entries
  simp only [Collector.empty, List.nil_append] at gathered
  simp only [validator, issues, output, Collector.empty, ← gathered]

theorem validate_other (shape : FieldShape) {value : Value} (other : value.asMembers? = none) :
    shape.validator.validate value = mismatch "an object" value := by
  cases value <;> first | rfl | cases other

/-- The output of a field shape shows what each declared field makes of its member,
and nothing at any other name. -/
theorem get?_output (shape : FieldShape) (members : Members Value) (name : String) :
    (shape.output members).get? name =
      (shape.fields.get? name).bind fun validator =>
        (validateField (members.read name) validator).toOption := by
  rw [output, get?_validateEach members .empty .empty shape.fields.distinct, Members.get?_empty,
    Option.or_none]
  rfl

/-- A shape reads an object at the declared names only. -/
theorem validate_congr {shape : FieldShape} {left right : Members Value}
    (reads : ∀ field ∈ shape.fields.entries, left.read field.1 = right.read field.1) :
    shape.validator.validate (.object left) = shape.validator.validate (.object right) := by
  have sameIssues : shape.issues left = shape.issues right := by
    refine List.flatMap_congr fun field membership => ?_
    rw [fieldIssues, fieldIssues, reads field membership]
  have sameOutput : shape.output left = shape.output right := by
    refine MembersAbove.ext_get? fun name => ?_
    rw [get?_output, get?_output]
    cases found : shape.fields.get? name with
    | none => rfl
    | some validator =>
        simp only [Option.bind_some, reads (name, validator) (Keyed.mem_of_find? found)]
  rw [validate_object, validate_object, sameIssues, sameOutput]

theorem issues_eq_nil_iff {shape : FieldShape} {members : Members Value} :
    shape.issues members = [] ↔
      ∀ name validator, shape.fields.get? name = some validator →
        ∃ made, validateField (members.read name) validator = .ok made := by
  simp only [issues, List.flatMap_eq_nil_iff, fieldIssues, List.map_eq_nil_iff,
    Outcome.issues_eq_nil_iff]
  constructor
  · intro accepted name validator found
    exact accepted (name, validator) (Keyed.mem_of_find? found)
  · intro accepted field membership
    exact accepted field.1 field.2 (Keyed.find?_of_mem shape.fields.distinct membership)

/-- What a field shape accepts, and what becomes of it. -/
theorem validate_object_eq_ok_iff {shape : FieldShape} {members output : Members Value} :
    shape.validator.validate (.object members) = .ok (.object output) ↔
      (∀ name, (output.get? name).isSome = true ↔ (shape.fields.get? name).isSome = true) ∧
      ∀ name validator made, shape.fields.get? name = some validator →
        output.get? name = some made → validateField (members.read name) validator = .ok made := by
  rw [validate_object, Collector.finish_eq_ok_iff, Value.object.injEq]
  dsimp only
  rw [issues_eq_nil_iff]
  constructor
  · rintro ⟨accepted, rfl⟩
    constructor
    · intro name
      rw [get?_output]
      cases found : shape.fields.get? name with
      | none => rfl
      | some validator =>
          obtain ⟨made, outcome⟩ := accepted name validator found
          simp [outcome, Except.toOption]
    · intro name validator made found shown
      obtain ⟨value, outcome⟩ := accepted name validator found
      rw [get?_output, found, Option.bind_some, outcome] at shown
      cases shown
      exact outcome
  · rintro ⟨keys, each⟩
    have present : ∀ name validator, shape.fields.get? name = some validator →
        ∃ made, output.get? name = some made := by
      intro name validator found
      exact Option.isSome_iff_exists.mp ((keys name).mpr (by rw [found, Option.isSome_some]))
    constructor
    · intro name validator found
      obtain ⟨made, shown⟩ := present name validator found
      exact ⟨made, each name validator made found shown⟩
    · refine MembersAbove.ext_get? fun name => ?_
      rw [get?_output]
      cases found : shape.fields.get? name with
      | none =>
          have absent : ¬(output.get? name).isSome = true := by simp [keys, found]
          exact (Option.not_isSome_iff_eq_none.mp absent).symm
      | some validator =>
          obtain ⟨made, shown⟩ := present name validator found
          rw [shown, Option.bind_some, each name validator made found shown]
          rfl

end FieldShape

namespace Validator

/-- What is made of a document is an object. -/
def MakesObject (validator : Validator) (value : Value) : Prop :=
  ∀ output, validator.validate value = .ok output → ∃ members, output = .object members

def MakesObjects (validator : Validator) : Prop :=
  ∀ value, validator.MakesObject value

/-- What a layer reports, an output that is no object included. -/
def layerIssues (value : Value) (layer : Validator) : List Issue :=
  (layer.validate value).objectIssues (.ofKind "an object")

/-- What a layer lays over the ones below. -/
def layerMembers (value : Value) (layer : Validator) : Members Value :=
  (layer.validate value).objectMembers

theorem layerIssues_eq_issues {layer : Validator} {value : Value}
    (makes : layer.MakesObject value) : layerIssues value layer = (layer.validate value).issues :=
  Outcome.objectIssues_eq_issues _ makes

theorem layerMembers_of_ok {layer : Validator} {value : Value} {output : Members Value}
    (accepted : layer.validate value = .ok (.object output)) :
    layerMembers value layer = output := by
  rw [layerMembers, accepted]
  rfl

theorem mergeLayers_eq (value : Value) (collector : Collector) (merged : Members Value)
    (layers : List Validator) :
    mergeLayers value collector merged layers =
      ({ issues := collector.issues ++ layers.flatMap (layerIssues value) },
        (layers.map (layerMembers value)).foldl Members.merge merged) := by
  induction layers generalizing collector merged with
  | nil => simp [mergeLayers]
  | cons layer layers induction =>
      cases outcome : layer.validate value with
      | error report =>
          simp [mergeLayers, outcome, induction, layerIssues, layerMembers,
            Outcome.objectIssues, Outcome.objectMembers]
      | ok output =>
          cases output <;>
            simp [mergeLayers, outcome, induction, layerIssues, layerMembers,
              Outcome.objectIssues, Outcome.objectMembers, Outcome.members?, Issue.ofKind]

theorem layered_object (layers : List Validator) (members : Members Value) :
    (layered layers).validate (.object members) =
      Collector.finish { issues := layers.flatMap (layerIssues (.object members)) }
        (.object (Members.stack (layers.map (layerMembers (.object members))))) := by
  simp only [layered, mergeLayers_eq, Collector.empty, List.nil_append, Members.stack]

theorem layered_other (layers : List Validator) {value : Value}
    (other : value.asMembers? = none) :
    (layered layers).validate value = mismatch "an object" value := by
  cases value <;> first | rfl | cases other

theorem layered_makesObjects (layers : List Validator) : (layered layers).MakesObjects := by
  intro value output accepted
  cases value with
  | object members =>
      rw [layered_object] at accepted
      exact ⟨_, (Collector.finish_eq_ok_iff.mp accepted).2.symm⟩
  | null | bool | int | float | string | array => cases accepted

theorem anyObject_makesObjects : anyObject.MakesObjects := by
  intro value output accepted
  cases value with
  | object members => exact ⟨members, (Except.ok.inj accepted).symm⟩
  | null | bool | int | float | string | array => cases accepted

end Validator

namespace FieldShape

variable {members : Members Value}

theorem exists_output_of_validate {shape : FieldShape} {value result : Value}
    (accepted : shape.validator.validate value = .ok result) :
    ∃ members output, value = .object members ∧ result = .object output := by
  cases value with
  | object members =>
      rw [validate_object] at accepted
      exact ⟨members, _, rfl, (Collector.finish_eq_ok_iff.mp accepted).2.symm⟩
  | null | bool | int | float | string | array => cases accepted

theorem makesObjects (shape : FieldShape) : shape.validator.MakesObjects := by
  intro value result accepted
  obtain ⟨members, output, -, made⟩ := exists_output_of_validate accepted
  exact ⟨output, made⟩

theorem layerIssues_validator (shape : FieldShape) :
    Validator.layerIssues (.object members) shape.validator = shape.issues members := by
  rw [Validator.layerIssues, validate_object, Outcome.objectIssues_finish]

theorem layerMembers_validator {shape : FieldShape} (accepted : shape.issues members = []) :
    Validator.layerMembers (.object members) shape.validator = shape.output members := by
  apply Validator.layerMembers_of_ok
  rw [validate_object]
  exact Collector.finish_eq_ok_iff.mpr ⟨accepted, rfl⟩

end FieldShape

namespace Validator

/-- What a union reports besides the issues of its options. -/
def unmatched (options : List Validator) (value : Value) : Issue :=
  .atRoot value ("value did not match any of " ++ toString options.length ++ " options")
    "union_none_matched"

theorem firstSuccess_eq (value : Value) (collector : Collector) (options : List Validator) :
    firstSuccess value collector options =
      match options.findSome? fun option => (option.validate value).toOption with
      | some output => .ok output
      | none =>
          .error { issues := collector.issues ++
            options.flatMap fun option => (option.validate value).issues } := by
  induction options generalizing collector with
  | nil => simp [firstSuccess]
  | cons option options induction =>
      cases outcome : option.validate value with
      | ok output => simp [firstSuccess, outcome, Except.toOption]
      | error report => simp [firstSuccess, outcome, Except.toOption, induction]

/-- A union is its first option that accepts, or reports what all options report. -/
theorem union_eq (options : List Validator) (value : Value) :
    (union options).validate value =
      match options.findSome? fun option => (option.validate value).toOption with
      | some output => .ok output
      | none =>
          Collector.finish { issues := (options.flatMap fun option =>
            (option.validate value).issues) ++ [unmatched options value] } .null := by
  simp only [union, firstSuccess_eq]
  cases options.findSome? fun option => (option.validate value).toOption <;> rfl

theorem exists_of_union_ok {options : List Validator} {value output : Value}
    (accepted : (union options).validate value = .ok output) :
    ∃ option ∈ options, option.validate value = .ok output := by
  rw [union_eq] at accepted
  split at accepted
  · next found decided =>
      obtain ⟨option, membership, success⟩ := List.exists_of_findSome?_eq_some decided
      cases accepted
      exact ⟨option, membership, toOption_eq_some_iff.mp success⟩
  · have empty := (Collector.finish_eq_ok_iff.mp accepted).1
    simp at empty

end Validator

namespace ItemShape

/-- The issues of one item, seen from the array. -/
def itemIssues (item : Validator) (entry : Value × Nat) : List Issue :=
  (item.validate entry.1).issues.map (Issue.under (.index entry.2))

def outputs (item : Validator) (items : List Value) : List Value :=
  items.filterMap fun value => (item.validate value).toOption

theorem validateEach_eq (item : Validator) (position : Nat) (collector : Collector)
    (output values : List Value) :
    validateEach item position collector output values =
      ({ issues := collector.issues ++ (values.zipIdx position).flatMap (itemIssues item) },
        output ++ outputs item values) := by
  induction values generalizing position collector output with
  | nil => simp [validateEach, outputs]
  | cons value values induction =>
      cases outcome : item.validate value <;>
        simp [validateEach, outcome, induction, itemIssues, outputs, Except.toOption]

theorem validate_array (item : Validator) (orSingle : Bool) (items : List Value) :
    (ItemShape.validator { item := some item, orSingle := orSingle }).validate (.array items) =
      Collector.finish { issues := items.zipIdx.flatMap (itemIssues item) }
        (.array (outputs item items)) := by
  simp only [validator, validateItems, validateEach_eq, Collector.empty, List.nil_append]

theorem validate_other (shape : ItemShape) {value : Value} (other : value.asItems? = none) :
    shape.validator.validate value =
      if shape.orSingle then shape.validateSingle value else mismatch "an array" value := by
  cases value <;> first | rfl | cases other

private theorem map_ok_outputs {item : Validator} {items : List Value}
    (accepted : ∀ value ∈ items, ∃ made, item.validate value = .ok made) :
    items.map item.validate = (outputs item items).map .ok := by
  induction items with
  | nil => rfl
  | cons value items induction =>
      obtain ⟨made, outcome⟩ := accepted value List.mem_cons_self
      have others := induction fun value membership =>
        accepted value (List.mem_cons_of_mem _ membership)
      simp only [outputs] at others ⊢
      simp [outcome, others, Except.toOption]

private theorem outputs_of_map_ok {item : Validator} {items made : List Value}
    (accepted : items.map item.validate = made.map .ok) : outputs item items = made := by
  calc
    outputs item items = (items.map item.validate).filterMap Except.toOption := by
      rw [List.filterMap_map]
      rfl
    _ = (made.map .ok).filterMap Except.toOption := by rw [accepted]
    _ = made := by
      rw [List.filterMap_map]
      exact List.filterMap_some

private theorem issues_items_eq_nil_iff {item : Validator} {items : List Value} :
    items.zipIdx.flatMap (itemIssues item) = [] ↔
      ∀ value ∈ items, ∃ made, item.validate value = .ok made := by
  simp only [List.flatMap_eq_nil_iff, itemIssues, List.map_eq_nil_iff,
    Outcome.issues_eq_nil_iff]
  constructor
  · intro accepted value membership
    obtain ⟨position, bound, rfl⟩ := List.getElem_of_mem membership
    exact accepted (items[position], position) (List.mk_mem_zipIdx_iff_getElem?.mpr (by simp))
  · intro accepted entry membership
    exact accepted entry.1 (List.mem_of_getElem? (List.mem_zipIdx_iff_getElem?.mp membership))

private theorem map_eq_map_ok_iff {item : Validator} {items made : List Value} :
    items.map item.validate = made.map .ok ↔
      made.length = items.length ∧
        ∀ (position : Nat) (value output : Value), items[position]? = some value →
          made[position]? = some output → item.validate value = .ok output := by
  constructor
  · intro accepted
    refine ⟨by simpa using (congrArg List.length accepted).symm, ?_⟩
    intro position value output found shown
    have alike := congrArg (fun outcomes => outcomes[position]?) accepted
    simpa [found, shown] using alike
  · rintro ⟨length, each⟩
    refine List.ext_getElem (by simp [length]) fun position bound _ => ?_
    rw [List.length_map] at bound
    rw [List.getElem_map, List.getElem_map]
    exact each position items[position] made[position] (List.getElem?_eq_getElem bound)
      (List.getElem?_eq_getElem (length ▸ bound))

/-- What an item shape accepts, and what becomes of it. -/
theorem validate_array_eq_ok_iff {item : Validator} {orSingle : Bool}
    {items made : List Value} :
    (ItemShape.validator { item := some item, orSingle := orSingle }).validate (.array items) =
        .ok (.array made) ↔
      made.length = items.length ∧
        ∀ (position : Nat) (value output : Value), items[position]? = some value →
          made[position]? = some output → item.validate value = .ok output := by
  rw [← map_eq_map_ok_iff, validate_array, Collector.finish_eq_ok_iff, Value.array.injEq]
  dsimp only
  rw [issues_items_eq_nil_iff]
  constructor
  · rintro ⟨accepted, rfl⟩
    exact map_ok_outputs accepted
  · intro accepted
    refine ⟨fun value membership => ?_, outputs_of_map_ok accepted⟩
    have mapped : item.validate value ∈ made.map .ok :=
      accepted ▸ List.mem_map_of_mem membership
    obtain ⟨output, -, outcome⟩ := List.mem_map.mp mapped
    exact ⟨output, outcome.symm⟩

end ItemShape

end CheckedQuery

import CheckedQuery.Proofs.Rules
import CheckedQuery.Proofs.SchemaTree
import CheckedQuery.Proofs.Shapes

/-!
# Validating a result again

What a validator makes of a document can differ from it: undeclared members are dropped,
missing ones become null, and null becomes a default.  A validator settles when a second
run changes nothing more.  Whether one settles is decided by its children, but arrays and
nulls must not come out of anything else: a shape that also takes a single item would walk
into a new array, and a default would replace a new null.
-/

namespace CheckedQuery

theorem Value.eq_null_of_isNull {value : Value} (isNull : value.isNull = true) :
    value = .null := by
  cases value <;> first | rfl | cases isNull

namespace Validator

/-- A second run accepts what the first one made and leaves it alone. -/
structure Settles (validator : Validator) : Prop where
  again : ∀ {value output}, validator.validate value = .ok output →
    validator.validate output = .ok output
  noNewArray : ∀ {value output}, validator.validate value = .ok output →
    value.asItems? = none → output.asItems? = none
  noNewNull : ∀ {value output}, validator.validate value = .ok output →
    value.isNull = false → output.isNull = false

/-- Whatever is accepted is left alone. -/
def ChangesNothing (validator : Validator) : Prop :=
  ∀ value output, validator.validate value = .ok output → output = value

theorem ChangesNothing.settles {validator : Validator} (unchanged : validator.ChangesNothing) :
    validator.Settles where
  again accepted := by
    cases unchanged _ _ accepted
    exact accepted
  noNewArray accepted other := by
    cases unchanged _ _ accepted
    exact other
  noNewNull accepted present := by
    cases unchanged _ _ accepted
    exact present

/-- Where every output is an object, no array and no null comes out. -/
theorem MakesObjects.settles {validator : Validator} (makes : validator.MakesObjects)
    (again : ∀ {value : Value} {output : Members Value},
      validator.validate value = .ok (.object output) →
        validator.validate (.object output) = .ok (.object output)) : validator.Settles := by
  constructor
  case again =>
    intro value result accepted
    obtain ⟨output, rfl⟩ := makes _ _ accepted
    exact again accepted
  case noNewArray =>
    intro value result accepted _
    obtain ⟨output, rfl⟩ := makes _ _ accepted
    rfl
  case noNewNull =>
    intro value result accepted _
    obtain ⟨output, rfl⟩ := makes _ _ accepted
    rfl

theorem changesNothing_literal (expected : Value) : (literal expected).ChangesNothing := by
  intro value output accepted
  simp only [literal] at accepted
  split at accepted
  · exact (Except.ok.inj accepted).symm
  · cases accepted

variable {inner : Validator} {fallback value : Value}

theorem validate_withDefault_of_present (present : value.isNull = false) :
    (inner.withDefault fallback).validate value = inner.validate value := by
  cases value <;> first | rfl | cases present

/-- A default that may be met again: null, or no array and left alone by the validator. -/
def KeepsDefault (inner : Validator) (fallback : Value) : Prop :=
  fallback = .null ∨ fallback.asItems? = none ∧ inner.validate fallback = .ok fallback

theorem KeepsDefault.notArray (keeps : inner.KeepsDefault fallback) :
    fallback.asItems? = none := by
  rcases keeps with rfl | ⟨other, -⟩
  · rfl
  · exact other

theorem KeepsDefault.again (keeps : inner.KeepsDefault fallback) :
    (inner.withDefault fallback).validate fallback = .ok fallback := by
  cases absent : fallback.isNull with
  | true =>
      cases Value.eq_null_of_isNull absent
      rfl
  | false =>
      rcases keeps with rfl | ⟨-, accepted⟩
      · cases absent
      · rw [validate_withDefault_of_present absent]
        exact accepted

theorem settles_withDefault (settles : inner.Settles) (keeps : inner.KeepsDefault fallback) :
    (inner.withDefault fallback).Settles := by
  -- Null gives the default, and everything else is left to the validator.
  have made : ∀ {value output}, (inner.withDefault fallback).validate value = .ok output →
      (value = .null ∧ output = fallback) ∨
        (value.isNull = false ∧ inner.validate value = .ok output) := by
    intro value output accepted
    cases absent : value.isNull with
    | true =>
        cases Value.eq_null_of_isNull absent
        exact .inl ⟨rfl, (Except.ok.inj accepted).symm⟩
    | false =>
        rw [validate_withDefault_of_present absent] at accepted
        exact .inr ⟨rfl, accepted⟩
  constructor
  case again =>
    intro value output accepted
    rcases made accepted with ⟨-, rfl⟩ | ⟨present, inside⟩
    · exact keeps.again
    · rw [validate_withDefault_of_present (settles.noNewNull inside present)]
      exact settles.again inside
  case noNewArray =>
    intro value output accepted other
    rcases made accepted with ⟨-, rfl⟩ | ⟨-, inside⟩
    · exact keeps.notArray
    · exact settles.noNewArray inside other
  case noNewNull =>
    intro value output accepted present
    rcases made accepted with ⟨rfl, -⟩ | ⟨-, inside⟩
    · cases present
    · exact settles.noNewNull inside present

/-- Letting null pass is putting null in the place of null. -/
theorem settles_nullable (settles : inner.Settles) : inner.nullable.Settles :=
  have nullKept : inner.KeepsDefault .null := .inl rfl
  settles_withDefault settles nullKept

end Validator

namespace FieldShape

variable {shape : FieldShape} {members other output : Members Value}

/-- The output of a shape shows every declared name. -/
theorem isSome_get?_of_validate
    (accepted : shape.validator.validate (.object members) = .ok (.object output))
    {field : String × Option Validator} (declared : field ∈ shape.fields.entries) :
    (output.get? field.1).isSome = true := by
  have found : shape.fields.get? field.1 = some field.2 :=
    Keyed.find?_of_mem shape.fields.distinct declared
  apply ((validate_object_eq_ok_iff.mp accepted).1 field.1).mpr
  rw [found, Option.isSome_some]

theorem settles
    (settles : ∀ name validator, shape.fields.get? name = some (some validator) →
      validator.Settles) : shape.validator.Settles := by
  apply shape.makesObjects.settles
  intro value output accepted
  obtain ⟨members, -, rfl, -⟩ := exists_output_of_validate accepted
  obtain ⟨keys, each⟩ := validate_object_eq_ok_iff.mp accepted
  refine validate_object_eq_ok_iff.mpr ⟨keys, ?_⟩
  intro name validator made declared shown
  have first := each name validator made declared shown
  have read : output.read name = made := by rw [MembersAbove.read, shown, Option.getD_some]
  rw [read]
  cases validator with
  | none => rfl
  | some validator => exact (settles name validator declared).again first

end FieldShape

namespace Validator

variable {layer : Validator} {members : Members Value} {result : Value}

theorem layerIssues_eq_nil_iff (makes : layer.MakesObjects) :
    layerIssues (.object members) layer = [] ↔
      ∃ output, layer.validate (.object members) = .ok (.object output) := by
  rw [layerIssues_eq_issues (makes (.object members)), Outcome.issues_eq_nil_iff]
  constructor
  · rintro ⟨result, accepted⟩
    obtain ⟨output, rfl⟩ := makes _ _ accepted
    exact ⟨output, accepted⟩
  · rintro ⟨output, accepted⟩
    exact ⟨_, accepted⟩

/-- Layers that make objects accept what each of them accepts. -/
theorem layered_eq_ok_iff {layers : List Validator}
    (make : ∀ layer ∈ layers, layer.MakesObjects) :
    (layered layers).validate (.object members) = .ok result ↔
      (∀ layer ∈ layers, ∃ output, layer.validate (.object members) = .ok (.object output)) ∧
        .object (Members.stack (layers.map (layerMembers (.object members)))) = result := by
  rw [layered_object, Collector.finish_eq_ok_iff, List.flatMap_eq_nil_iff]
  apply and_congr_left'
  exact forall₂_congr fun layer membership => layerIssues_eq_nil_iff (make layer membership)

/-- One layer alone gives what it makes. -/
theorem layered_alone_eq_ok_iff (makes : layer.MakesObjects) :
    (layered [layer]).validate (.object members) = .ok result ↔
      ∃ output, layer.validate (.object members) = .ok (.object output) ∧
        .object output = result := by
  rw [layered_eq_ok_iff (List.forall_mem_singleton.mpr makes), List.forall_mem_singleton,
    ← exists_and_right]
  refine exists_congr fun output => and_congr_right fun accepted => ?_
  simp [Members.stack, layerMembers_of_ok accepted]

/-- A layer over the object itself gives the object with what the layer makes on top. -/
theorem layered_over_object_eq_ok_iff (makes : layer.MakesObjects) :
    (layered [anyObject, layer]).validate (.object members) = .ok result ↔
      ∃ output, layer.validate (.object members) = .ok (.object output) ∧
        .object (members.merge output) = result := by
  have kept : anyObject.validate (.object members) = .ok (.object members) := rfl
  have make : ∀ lower ∈ [anyObject, layer], lower.MakesObjects :=
    List.forall_mem_cons.mpr ⟨anyObject_makesObjects, List.forall_mem_singleton.mpr makes⟩
  rw [layered_eq_ok_iff make, List.forall_mem_cons, List.forall_mem_singleton, and_assoc,
    and_iff_right ⟨members, kept⟩, ← exists_and_right]
  refine exists_congr fun output => and_congr_right fun accepted => ?_
  simp [Members.stack, layerMembers_of_ok kept, layerMembers_of_ok accepted]

variable {shape : FieldShape}

/-- What layers make of an object is an object, and nothing else is accepted. -/
theorem settles_layered {layers : List Validator}
    (again : ∀ members output : Members Value,
      (layered layers).validate (.object members) = .ok (.object output) →
        (layered layers).validate (.object output) = .ok (.object output)) :
    (layered layers).Settles := by
  apply (layered_makesObjects layers).settles
  intro value output accepted
  cases value with
  | object members => exact again members output accepted
  | null | bool | int | float | string | array => cases accepted

theorem settles_layered_alone (settles : shape.validator.Settles) :
    (layered [shape.validator]).Settles := by
  refine settles_layered fun members output accepted => ?_
  obtain ⟨made, inside, same⟩ := (layered_alone_eq_ok_iff shape.makesObjects).mp accepted
  cases same
  exact (layered_alone_eq_ok_iff shape.makesObjects).mpr ⟨output, settles.again inside, rfl⟩

theorem settles_layered_over_object (settles : shape.validator.Settles) :
    (layered [anyObject, shape.validator]).Settles := by
  refine settles_layered fun members output accepted => ?_
  obtain ⟨made, inside, same⟩ := (layered_over_object_eq_ok_iff shape.makesObjects).mp accepted
  cases same
  -- What the shape made lies on top, so the shape reads it again.
  have reads : ∀ field ∈ shape.fields.entries,
      (members.merge made).read field.1 = made.read field.1 := by
    intro field declared
    obtain ⟨value, shown⟩ :=
      Option.isSome_iff_exists.mp (FieldShape.isSome_get?_of_validate inside declared)
    rw [MembersAbove.read, MembersAbove.read, Members.get?_merge, shown, Option.some_or]
  refine (layered_over_object_eq_ok_iff shape.makesObjects).mpr ⟨made, ?_, ?_⟩
  · rw [FieldShape.validate_congr reads]
    exact settles.again inside
  · rw [Members.merge_merge_self]

end Validator

namespace ItemShape

variable {item : Validator} {orSingle : Bool}

theorem exists_made_of_validate_array {items : List Value} {result : Value}
    (accepted : (ItemShape.validator { item := some item, orSingle := orSingle }).validate
      (.array items) = .ok result) :
    ∃ made, result = .array made := by
  rw [validate_array] at accepted
  exact ⟨_, (Collector.finish_eq_ok_iff.mp accepted).2.symm⟩

theorem validate_other_eq_ok_iff {value result : Value} (other : value.asItems? = none) :
    (ItemShape.validator { item := some item, orSingle := orSingle }).validate value =
        .ok result ↔
      orSingle = true ∧ item.validate value = .ok result := by
  rw [validate_other _ other]
  cases orSingle with
  | true => simp [validateSingle]
  | false => simp [mismatch, reject]

theorem settles (settles : item.Settles) (orSingle : Bool) :
    (ItemShape.validator { item := some item, orSingle := orSingle }).Settles := by
  constructor
  case again =>
    intro value result accepted
    cases items : value.asItems? with
    | none =>
        obtain ⟨single, inside⟩ := (validate_other_eq_ok_iff items).mp accepted
        exact (validate_other_eq_ok_iff (settles.noNewArray inside items)).mpr
          ⟨single, settles.again inside⟩
    | some values =>
        cases value with
        | array values =>
            obtain ⟨made, rfl⟩ := exists_made_of_validate_array accepted
            obtain ⟨length, each⟩ := validate_array_eq_ok_iff.mp accepted
            refine validate_array_eq_ok_iff.mpr ⟨rfl, ?_⟩
            intro position before after found shown
            rw [found, Option.some.injEq] at shown
            subst shown
            obtain ⟨bound, -⟩ := List.getElem?_eq_some_iff.mp found
            rw [length] at bound
            exact settles.again
              (each position _ before (List.getElem?_eq_getElem bound) found)
        | null | bool | int | float | string | object => cases items
  case noNewArray =>
    intro value result accepted other
    exact settles.noNewArray ((validate_other_eq_ok_iff other).mp accepted).2 other
  case noNewNull =>
    intro value result accepted present
    cases value with
    | array values =>
        obtain ⟨made, rfl⟩ := exists_made_of_validate_array accepted
        rfl
    | null | bool | int | float | string | object =>
        exact settles.noNewNull ((validate_other_eq_ok_iff rfl).mp accepted).2 present

/-- Items without a validator are left alone. -/
theorem changesNothing_of_no_item (orSingle : Bool) :
    (ItemShape.validator { item := none, orSingle := orSingle }).ChangesNothing := by
  intro value result accepted
  cases items : value.asItems? with
  | none =>
      rw [validate_other _ items] at accepted
      cases orSingle with
      | true => exact (Except.ok.inj accepted).symm
      | false => cases accepted
  | some values =>
      cases value with
      | array values => exact (Except.ok.inj accepted).symm
      | null | bool | int | float | string | object => cases items

end ItemShape

theorem TextShape.changesNothing (shape : TextShape) : shape.validator.ChangesNothing := by
  intro value result accepted
  cases value with
  | string text =>
      rw [validate_string] at accepted
      exact (Collector.finish_eq_ok_iff.mp accepted).2.symm
  | null | bool | int | float | array | object =>
      rw [validate_other shape rfl] at accepted
      cases accepted

theorem NumberShape.changesNothing (shape : NumberShape) :
    shape.validator.ChangesNothing := by
  intro value result accepted
  cases read : value.asFloat? with
  | none =>
      rw [validate_other shape read] at accepted
      cases accepted
  | some number =>
      rw [validate_number shape read] at accepted
      exact (Collector.finish_eq_ok_iff.mp accepted).2.symm

namespace Schema

/-- Layers that make up a projection without groups: the named fields, alone or over the
whole object. -/
def IsFlat (layers : List Schema) : Prop :=
  ∃ declarations, layers = [.fields declarations] ∨ layers = [.anyObject, .fields declarations]

/-- What may stand at one place of a schema if a second run has to change nothing. -/
def MaySettle : Schema → Prop
  | .string _ | .number _ | .boolean | .null | .unknown | .anyObject | .literal _ => True
  | .fields _ | .items _ _ | .nullable _ => True
  | .withDefault inner fallback => inner.validator.KeepsDefault fallback
  | .layered layers => IsFlat layers
  | .union _ | .andThen _ _ | .conditional _ _ _ | .given _ => False

/-- Schemas put together from checks of single values, fields, items, null, defaults that
may be met again, and flat layers. -/
def Settled : Schema → Prop :=
  Everywhere MaySettle

private theorem settles_fields {declarations : List (String × Option Schema)}
    (settles : ∀ child ∈ (Schema.fields declarations).children, child.validator.Settles) :
    ∀ name validator,
      (FieldShape.ofList (fieldValidators declarations)).fields.get? name =
          some (some validator) →
        validator.Settles := by
  intro name validator declared
  rw [get?_fieldValidators] at declared
  obtain ⟨schema, found, supplied⟩ := Option.map_eq_some_iff.mp declared
  obtain ⟨child, rfl, rfl⟩ := Option.map_eq_some_iff.mp supplied
  exact settles child (mem_children_fields (Keyed.mem_of_mem_ofList (Keyed.mem_of_find? found)))

theorem settles_of_settled {schema : Schema} (settled : schema.Settled) :
    schema.validator.Settles := by
  induction schema using children_induction with
  | node schema induction =>
      have settles : ∀ child ∈ schema.children, child.validator.Settles :=
        fun child present => induction child present (settled.of_child present)
      cases schema with
      | string shape => exact shape.changesNothing.settles
      | number shape => exact shape.changesNothing.settles
      | boolean | null | unknown | anyObject =>
          refine Validator.ChangesNothing.settles fun value result accepted => ?_
          cases value <;> first | exact (Except.ok.inj accepted).symm | cases accepted
      | literal expected => exact (Validator.changesNothing_literal expected).settles
      | fields declarations => exact FieldShape.settles (settles_fields settles)
      | items item orSingle =>
          cases item with
          | none => exact (ItemShape.changesNothing_of_no_item orSingle).settles
          | some item =>
              exact ItemShape.settles (settles item (List.mem_singleton.mpr rfl)) orSingle
      | nullable inner =>
          exact Validator.settles_nullable (settles inner (List.mem_singleton.mpr rfl))
      | withDefault inner fallback =>
          exact Validator.settles_withDefault (settles inner (List.mem_singleton.mpr rfl))
            settled.here
      | layered layers =>
          obtain ⟨declarations, rfl | rfl⟩ := settled.here
          · have fields := settles (.fields declarations) (by simp [children])
            exact Validator.settles_layered_alone fields
          · have fields := settles (.fields declarations) (by simp [children])
            exact Validator.settles_layered_over_object fields
      | union options => cases settled.here
      | andThen first second => cases settled.here
      | conditional branches policy exhaustive => cases settled.here
      | given supplied => cases settled.here

/-- Whatever a settled schema makes of a document, it accepts that and makes the same of
it again. -/
theorem validate_output {schema : Schema} (settled : schema.Settled) {value output : Value}
    (accepted : schema.validator.validate value = .ok output) :
    schema.validator.validate output = .ok output :=
  (settles_of_settled settled).again accepted

/-- Articles as they are, with a title for those without one. -/
def articles : Schema :=
  .items (some (.layered [.anyObject, .fields
    [("title", some (.withDefault (.string .any) (.string "untitled"))),
      ("tags", some (.items (some .unknown) true)), ("slug", none)]])) false

theorem validate_output_articles :
    ∃ output, articles.validator.validate
        (.array [.object (Members.ofList [("author", .string "a")])]) = .ok (.array [output]) ∧
      output.member? "author" = some (.string "a") ∧
      output.member? "title" = some (.string "untitled") ∧
      output.member? "slug" = some .null ∧
      articles.validator.validate (.array [output]) = .ok (.array [output]) := by
  have settled : articles.Settled := by
    refine .node trivial fun child present => ?_
    cases List.mem_singleton.mp present
    refine .node ⟨_, .inr rfl⟩ fun child present => ?_
    simp only [children, List.mem_cons, List.not_mem_nil, or_false] at present
    rcases present with rfl | rfl
    · exact .leaf trivial rfl
    refine .node trivial fun child present => ?_
    simp only [children, List.filterMap_cons, List.filterMap_nil, List.mem_cons,
      List.not_mem_nil, or_false] at present
    rcases present with rfl | rfl
    · refine .node (.inr ⟨rfl, rfl⟩) fun child present => ?_
      cases List.mem_singleton.mp present
      exact .leaf trivial rfl
    · refine .node trivial fun child present => ?_
      cases List.mem_singleton.mp present
      exact .leaf trivial rfl
  have accepted : ∃ output, articles.validator.validate
      (.array [.object (Members.ofList [("author", .string "a")])]) = .ok (.array [output]) ∧
      output.member? "author" = some (.string "a") ∧
      output.member? "title" = some (.string "untitled") ∧
      output.member? "slug" = some .null :=
    ⟨_, rfl, rfl, rfl, rfl⟩
  obtain ⟨output, accepted, author, title, slug⟩ := accepted
  exact ⟨output, accepted, author, title, slug, validate_output settled accepted⟩

end Schema

end CheckedQuery

import CheckedQuery.Proofs.LayerNesting
import Mathlib.Data.List.Nodup

/-!
# Fields spread over layers

A field is a layer of its own: a shape reports of an object, and makes of it, what its fields do
when each of them is laid over the ones before it.  So fields may stand in one shape or be
spread over several that share no key, and no document tells the difference as long as their
order stays.
-/

namespace CheckedQuery

/-- Where keys are distinct it does not matter from which end they are looked up. -/
theorem Keyed.findSome?_reverse {α β : Type} (read : α → Option β) (key : String)
    {entries : List (String × α)} (distinct : (entries.map Prod.fst).Nodup) :
    (entries.reverse.findSome? fun entry => if entry.1 = key then read entry.2 else none) =
      (find? key entries).bind read := by
  induction entries with
  | nil => rfl
  | cons entry rest induction =>
      obtain ⟨name, value⟩ := entry
      rw [List.map_cons, List.nodup_cons] at distinct
      rw [List.reverse_cons, List.findSome?_append, induction distinct.2]
      by_cases same : name = key
      · have absent : find? key rest = none := find?_eq_none_iff.mpr (same ▸ distinct.1)
        simp [find?, same, absent]
      · simp [find?, same]

namespace FieldShape

variable {members : Members Value}

def single (field : String × Option Validator) : FieldShape :=
  .ofList [field]

theorem issues_single (field : String × Option Validator) :
    (single field).issues members = fieldIssues members field :=
  List.append_nil _

theorem get?_output_single (field : String × Option Validator) (name : String) :
    ((single field).output members).get? name =
      if field.1 = name then (validateField (members.read name) field.2).toOption else none := by
  have declared : (single field).fields.get? name =
      if field.1 = name then some field.2 else none := rfl
  rw [get?_output, declared]
  split <;> rfl

theorem stack_output_single (shape : FieldShape) :
    Members.stack (shape.fields.entries.map fun field => (single field).output members) =
      shape.output members := by
  refine MembersAbove.ext_get? fun name => ?_
  rw [Members.get?_stack, ← List.map_reverse, List.findSome?_map, get?_output]
  simp only [Function.comp_def, get?_output_single]
  exact Keyed.findSome?_reverse
    (fun validator => (validateField (members.read name) validator).toOption) name
    shape.fields.distinct

/-- The fields of a shape as layers. -/
def layers (shape : FieldShape) : List Validator :=
  shape.fields.entries.map fun field => (single field).validator

theorem layerIssues_layers (shape : FieldShape) :
    shape.layers.flatMap (Validator.layerIssues (.object members)) = shape.issues members := by
  rw [layers, List.flatMap_map]
  simp only [layerIssues_validator, issues_single]
  rfl

theorem layerMembers_layers {shape : FieldShape} (accepted : shape.issues members = []) :
    shape.layers.map (Validator.layerMembers (.object members)) =
      shape.fields.entries.map fun field => (single field).output members := by
  rw [layers, List.map_map]
  refine List.map_congr_left fun field membership => ?_
  refine layerMembers_validator ?_
  rw [issues_single]
  exact List.flatMap_eq_nil_iff.mp accepted field membership

/-- A shape is its fields, laid over each other. -/
theorem validator_eq_layered (shape : FieldShape) :
    shape.validator = Validator.layered shape.layers := by
  ext value
  cases value with
  | object members =>
      rw [validate_object, Validator.layered_object, layerIssues_layers]
      apply Collector.finish_congr
      intro accepted
      rw [layerMembers_layers accepted, stack_output_single]
  | null | bool | int | float | string | array => rfl

theorem opens_layers (shape : FieldShape) : shape.validator.Opens shape.layers := by
  rw [validator_eq_layered]
  exact Validator.opens_layered shape.layers

/-- No key is declared by both shapes. -/
def Apart (shape other : FieldShape) : Prop :=
  shape.fields.keys.Disjoint other.fields.keys

/-- One shape that is given the fields of several, one after the other. -/
def joined (shapes : List FieldShape) : FieldShape :=
  .ofList (shapes.flatMap fun shape => shape.fields.entries)

variable {shapes : List FieldShape}

theorem entries_joined (apart : shapes.Pairwise Apart) :
    (joined shapes).fields.entries = shapes.flatMap fun shape => shape.fields.entries := by
  refine Keyed.ofList_entries_of_nodup ?_
  rw [List.map_flatMap, List.nodup_flatMap]
  exact ⟨fun shape _ => shape.fields.distinct, apart⟩

theorem layers_joined (apart : shapes.Pairwise Apart) :
    (joined shapes).layers = shapes.flatMap layers := by
  rw [layers, entries_joined apart, List.map_flatMap]
  rfl

/-- Shapes that share no key do as layers, with every document, what one shape with all their
fields in the same order does: the same refusal, the same issues in the same order or the same
object. -/
theorem layered_eq_joined (apart : shapes.Pairwise Apart) :
    ((joined shapes).fields.entries = shapes.flatMap fun shape => shape.fields.entries) ∧
      ∀ value, (Validator.layered (shapes.map validator)).validate value =
        (joined shapes).validator.validate value := by
  refine ⟨entries_joined apart, fun value => ?_⟩
  refine congrArg (fun made : Validator => made.validate value) ?_
  calc
    Validator.layered (shapes.map validator)
    _ = Validator.layered (shapes.flatMap layers) :=
      Validator.layered_map_of_opens shapes fun shape _ => shape.opens_layers
    _ = Validator.layered (joined shapes).layers := by rw [layers_joined apart]
    _ = (joined shapes).validator := (joined shapes).validator_eq_layered.symm

/-- A title that is a text with a slug that is copied, no field at all, and a price. -/
def productLayers : List FieldShape :=
  [.ofList [("title", some TextShape.any.validator), ("slug", none)], .empty,
    .ofList [("price", some NumberShape.any.validator)]]

/-- Title and price are of the wrong kind, and there is no slug. -/
def garbledProduct : Value :=
  .object (Members.ofList [("price", .string "3"), ("title", .bool true)])

theorem layered_eq_joined_product :
    productLayers.Pairwise Apart ∧
    ((joined productLayers).fields.keys = ["title", "slug", "price"]) ∧
    (Validator.layered (productLayers.map validator)).validate garbledProduct =
      (joined productLayers).validator.validate garbledProduct ∧
    ((joined productLayers).validator.validate garbledProduct).issues =
      [Issue.under (.field "title") (.ofKind "string" (.bool true)),
        Issue.under (.field "price") (.ofKind "number" (.string "3"))] := by
  have apart : productLayers.Pairwise Apart := by
    have keys : productLayers.map (fun shape => shape.fields.keys) =
        [["title", "slug"], [], ["price"]] := rfl
    have disjoint : [["title", "slug"], [], ["price"]].Pairwise List.Disjoint := by simp
    rw [← keys, List.pairwise_map] at disjoint
    exact disjoint
  exact ⟨apart, rfl, (layered_eq_joined apart).2 garbledProduct, rfl⟩

/-- A key that two layers declare is reported twice, and once by one shape. -/
example :
    let shapes := [FieldShape.ofList [("a", some .null)], .ofList [("a", some .null)]]
    let value : Value := .object (Members.ofList [("a", .bool true)])
    ((Validator.layered (shapes.map validator)).validate value).issues.length = 2 ∧
      ((joined shapes).validator.validate value).issues.length = 1 :=
  ⟨rfl, rfl⟩

end FieldShape

end CheckedQuery

import CheckedQuery.Proofs.SchemaTree
import CheckedQuery.Proofs.Shapes

/-!
# Layers within layers

A layer may be made of layers itself.  It reports what they report, in their order, and what
it lays over the layers below is what they lay over each other.  A group with an issue gives
up what its other layers made, but then the layers around it fail as well and give up all of
it.  So groups can be opened wherever they stand, and only the order of the innermost layers
counts.
-/

namespace CheckedQuery

namespace Members

variable {α : Type}

/-- A stack in the place of one layer shows what its layers show there. -/
theorem stack_group (below group above : List (Members α)) :
    stack (below ++ stack group :: above) = stack (below ++ (group ++ above)) := by
  refine MembersAbove.ext_get? fun name => ?_
  simp only [get?_stack, List.reverse_append, List.reverse_cons, List.findSome?_append,
    List.append_assoc, List.singleton_append, List.findSome?_cons]
  cases group.reverse.findSome? fun layer => layer.get? name <;> simp

end Members

/-- What a collector would accept matters only if it has no issues. -/
theorem Collector.finish_congr {issues : List Issue} {output other : Value}
    (same : issues = [] → output = other) :
    finish { issues := issues } output = finish { issues := issues } other := by
  cases issues with
  | nil => rw [same rfl]
  | cons issue issues => rfl

namespace Validator

variable {members : Members Value}

theorem layerIssues_layered (layers : List Validator) :
    layerIssues (.object members) (layered layers) =
      layers.flatMap (layerIssues (.object members)) := by
  rw [layerIssues_eq_issues (layered_makesObjects layers _), layered_object,
    Collector.issues_finish]

theorem layerMembers_layered {layers : List Validator}
    (accepted : layers.flatMap (layerIssues (.object members)) = []) :
    layerMembers (.object members) (layered layers) =
      Members.stack (layers.map (layerMembers (.object members))) := by
  apply layerMembers_of_ok
  rw [layered_object]
  exact Collector.finish_eq_ok_iff.mpr ⟨accepted, rfl⟩

/-- Other validators may stand for one of several layers, wherever it is among them. -/
def Opens (layer : Validator) (parts : List Validator) : Prop :=
  ∀ below above, layered (below ++ layer :: above) = layered (below ++ (parts ++ above))

/-- A group may be opened. -/
theorem opens_layered (group : List Validator) : (layered group).Opens group := by
  intro below above
  ext value
  cases value with
  | object members =>
      have issues : (below ++ layered group :: above).flatMap (layerIssues (.object members)) =
          (below ++ (group ++ above)).flatMap (layerIssues (.object members)) := by
        simp only [List.flatMap_append, List.flatMap_cons, layerIssues_layered]
      rw [layered_object, layered_object, issues]
      apply Collector.finish_congr
      intro accepted
      -- Only a group without issues has members to show.
      have groupAccepted : group.flatMap (layerIssues (.object members)) = [] := by
        simp only [List.flatMap_append, List.append_eq_nil_iff] at accepted
        exact accepted.2.1
      simp only [List.map_append, List.map_cons, layerMembers_layered groupAccepted,
        Members.stack_group]
  | null | bool | int | float | string | array => rfl

section

variable {α : Type} {layer : α → Validator} {parts : α → List Validator}

/-- Layers that may all be opened may be opened one after the other. -/
theorem layered_map_append_of_opens (items : List α)
    (opens : ∀ item ∈ items, (layer item).Opens (parts item)) (below above : List Validator) :
    layered (below ++ (items.map layer ++ above)) =
      layered (below ++ (items.flatMap parts ++ above)) := by
  induction items generalizing below with
  | nil => rfl
  | cons item items induction =>
      obtain ⟨here, later⟩ := List.forall_mem_cons.mp opens
      calc
        layered (below ++ ((item :: items).map layer ++ above))
        _ = layered (below ++ (parts item ++ (items.map layer ++ above))) :=
          here below (items.map layer ++ above)
        _ = layered (below ++ parts item ++ (items.map layer ++ above)) := by
          rw [List.append_assoc]
        _ = layered (below ++ parts item ++ (items.flatMap parts ++ above)) :=
          induction later (below ++ parts item)
        _ = layered (below ++ ((item :: items).flatMap parts ++ above)) := by
          rw [List.flatMap_cons, List.append_assoc, List.append_assoc]

theorem layered_map_of_opens (items : List α)
    (opens : ∀ item ∈ items, (layer item).Opens (parts item)) :
    layered (items.map layer) = layered (items.flatMap parts) := by
  have opened := layered_map_append_of_opens items opens [] []
  rwa [List.nil_append, List.nil_append, List.append_nil, List.append_nil] at opened

end

end Validator

namespace Schema

mutual

/-- The layers that a schema amounts to when all groups in it are opened; the schema itself
unless it is a group. -/
def flatLayers : Schema → List Validator
  | .layered layers => flatLayersOf layers
  | schema => [schema.validator]

/-- List counterpart of `flatLayers`. -/
def flatLayersOf : List Schema → List Validator
  | [] => []
  | layer :: layers => layer.flatLayers ++ flatLayersOf layers

end

theorem flatLayersOf_eq_flatMap (layers : List Schema) :
    flatLayersOf layers = layers.flatMap flatLayers := by
  induction layers with
  | nil => rfl
  | cons layer layers induction => rw [flatLayersOf, induction, List.flatMap_cons]

/-- All groups in a schema may be opened at once. -/
theorem opens_flatLayers (schema : Schema) : schema.validator.Opens schema.flatLayers := by
  induction schema using children_induction with
  | node schema induction =>
      intro below above
      cases schema with
      | layered layers =>
          rw [validator, flatLayers, validators_eq_map, flatLayersOf_eq_flatMap,
            Validator.opens_layered]
          exact Validator.layered_map_append_of_opens layers induction below above
      | string | number | boolean | null | unknown | anyObject | literal | fields | items
        | union | andThen | nullable | withDefault | conditional | given => rfl

end Schema

namespace Validator

/-- The outcome of laying over each other, in order, what layers make of a document. -/
structure Overlay (layers : List Validator) (value : Value) (outcome : Outcome) : Prop where
  /-- A document that is no object is refused once, and no layer looks at it. -/
  otherKind : value.asMembers? = none → outcome = .error (.single (.ofKind "an object" value))
  /-- An object is reported for all that any layer finds, and for every output of a layer that
  is no object. -/
  reported : ∀ members, value = .object members →
    outcome.issues = layers.flatMap fun layer =>
      (layer.validate value).objectIssues (.ofKind "an object")
  /-- Without issues the result shows at every key what the last layer with that key shows. -/
  shown : ∀ members, value = .object members → outcome.issues = [] →
    ∃ output, outcome = .ok (.object output) ∧ ∀ key, output.get? key =
      layers.reverse.findSome? fun layer =>
        (layer.validate value).members?.bind fun made => made.get? key

theorem overlay_layered (layers : List Validator) (value : Value) :
    Overlay layers value ((layered layers).validate value) := by
  constructor
  case otherKind =>
    intro other
    exact layered_other layers other
  case reported =>
    rintro members rfl
    rw [layered_object, Collector.issues_finish]
    rfl
  case shown =>
    rintro members rfl accepted
    rw [layered_object, Collector.issues_finish] at accepted
    rw [layered_object]
    refine ⟨_, Collector.finish_eq_ok_iff.mpr ⟨accepted, rfl⟩, fun key => ?_⟩
    rw [Members.get?_stack, ← List.map_reverse, List.findSome?_map]
    simp only [Function.comp_def, layerMembers, Outcome.get?_objectMembers]

/-- Layers made of groups do what all layers of the groups do when they are laid over each
other in a row, with every document: the same refusal, the same issues in the same order or
the same object.  That holds for groups of given layers, and for groups within groups to any
depth. -/
theorem layered_flatten :
    (∀ (groups : List (List Validator)) (value : Value),
      (layered (groups.map layered)).validate value = (layered groups.flatten).validate value ∧
        Overlay groups.flatten value ((layered (groups.map layered)).validate value)) ∧
    ∀ (layers : List Schema) (value : Value),
      (Schema.layered layers).validator.validate value =
        (layered (layers.flatMap Schema.flatLayers)).validate value := by
  constructor
  · intro groups value
    rw [layered_map_of_opens groups fun group _ => opens_layered group, List.flatMap_id']
    exact ⟨rfl, overlay_layered groups.flatten value⟩
  · intro layers value
    rw [Schema.validator, Schema.validators_eq_map,
      layered_map_of_opens layers fun layer _ => layer.opens_flatLayers]

end Validator

end CheckedQuery

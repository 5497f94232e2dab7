import CheckedQuery.Proofs.Entries
import CheckedQuery.Schema

/-!
# Schemas as trees

Every schema has a list of children, whatever they are for.  An induction over
schemas may assume its claim for all of them, so that only the constructors that
matter to a claim have to be told apart.
-/

namespace CheckedQuery.Schema

/-- The schemas that a schema is put together from. -/
def children : Schema → List Schema
  | .fields declarations => declarations.filterMap Prod.snd
  | .items item _ => item.toList
  | .union options => options
  | .layered layers => layers
  | .andThen first second => [first, second]
  | .nullable inner => [inner]
  | .withDefault inner _ => [inner]
  | .conditional branches _ _ => branches.map fun branch => branch.2.2
  | _ => []

theorem mem_children_fields {declarations : List (String × Option Schema)} {name : String}
    {schema : Schema} (membership : (name, some schema) ∈ declarations) :
    schema ∈ (Schema.fields declarations).children :=
  List.mem_filterMap.mpr ⟨(name, some schema), membership, rfl⟩

theorem mem_children_conditional {branches : List (String × Option Discriminator × Schema)}
    {policy : BranchPolicy} {exhaustive : Bool} {branch : String × Option Discriminator × Schema}
    (membership : branch ∈ branches) :
    branch.2.2 ∈ (Schema.conditional branches policy exhaustive).children :=
  List.mem_map_of_mem membership

private theorem sizeOf_lt_of_mem_fields {declarations : List (String × Option Schema)}
    {child : Schema} (membership : child ∈ declarations.filterMap Prod.snd) :
    sizeOf child < sizeOf declarations := by
  obtain ⟨⟨name, schema⟩, declared, present⟩ := List.mem_filterMap.mp membership
  dsimp only at present
  subst present
  have smaller := List.sizeOf_lt_of_mem declared
  simp only [Prod.mk.sizeOf_spec, Option.some.sizeOf_spec] at smaller
  omega

private theorem sizeOf_lt_of_mem_branches
    {branches : List (String × Option Discriminator × Schema)} {child : Schema}
    (membership : child ∈ branches.map fun branch => branch.2.2) :
    sizeOf child < sizeOf branches := by
  obtain ⟨⟨condition, discriminator, schema⟩, declared, rfl⟩ := List.mem_map.mp membership
  have smaller := List.sizeOf_lt_of_mem declared
  simp only [Prod.mk.sizeOf_spec] at smaller
  dsimp only
  omega

theorem sizeOf_lt_of_mem_children {schema child : Schema}
    (membership : child ∈ schema.children) : sizeOf child < sizeOf schema := by
  cases schema with
  | fields declarations =>
      have smaller := sizeOf_lt_of_mem_fields membership
      simp only [fields.sizeOf_spec]
      omega
  | items item orSingle =>
      cases Option.mem_toList.mp membership
      simp only [items.sizeOf_spec, Option.some.sizeOf_spec]
      omega
  | union options =>
      have smaller := List.sizeOf_lt_of_mem membership
      simp only [union.sizeOf_spec, children] at smaller ⊢
      omega
  | layered layers =>
      have smaller := List.sizeOf_lt_of_mem membership
      simp only [layered.sizeOf_spec, children] at smaller ⊢
      omega
  | andThen first second =>
      simp only [children, List.mem_cons, List.not_mem_nil, or_false] at membership
      simp only [andThen.sizeOf_spec]
      rcases membership with rfl | rfl <;> omega
  | nullable inner =>
      cases List.mem_singleton.mp membership
      simp only [nullable.sizeOf_spec]
      omega
  | withDefault inner fallback =>
      cases List.mem_singleton.mp membership
      simp only [withDefault.sizeOf_spec]
      omega
  | conditional branches policy exhaustive =>
      have smaller := sizeOf_lt_of_mem_branches membership
      simp only [conditional.sizeOf_spec]
      omega
  | string | number | boolean | null | unknown | anyObject | literal | given =>
      cases membership

@[elab_as_elim]
theorem children_induction {motive : Schema → Prop}
    (node : ∀ schema : Schema, (∀ child ∈ schema.children, motive child) → motive schema)
    (schema : Schema) : motive schema :=
  node schema fun child _ => children_induction node child
termination_by sizeOf schema
decreasing_by
  exact sizeOf_lt_of_mem_children ‹_›

/-- A condition that a schema meets with all schemas below it. -/
inductive Everywhere (condition : Schema → Prop) : Schema → Prop where
  | node {schema : Schema} (here : condition schema)
      (below : ∀ child ∈ schema.children, Everywhere condition child) :
      Everywhere condition schema

namespace Everywhere

variable {condition : Schema → Prop} {schema : Schema}

theorem here (everywhere : Everywhere condition schema) : condition schema := by
  cases everywhere with
  | node here below => exact here

theorem of_child (everywhere : Everywhere condition schema) {child : Schema}
    (membership : child ∈ schema.children) : Everywhere condition child := by
  cases everywhere with
  | node here below => exact below child membership

theorem leaf (here : condition schema) (childless : schema.children = []) :
    Everywhere condition schema := by
  refine .node here fun child present => ?_
  rw [childless] at present
  cases present

theorem mono {weaker : Schema → Prop} (everywhere : Everywhere condition schema)
    (implies : ∀ schema, condition schema → weaker schema) : Everywhere weaker schema := by
  induction everywhere with
  | node here below induction => exact .node (implies _ here) induction

/-- What a schema meets everywhere, every schema below it meets everywhere. -/
theorem nested (everywhere : Everywhere condition schema) :
    Everywhere (Everywhere condition) schema := by
  induction everywhere with
  | node here below induction => exact .node (.node here below) induction

end Everywhere

theorem validators_eq_map (schemas : List Schema) :
    validators schemas = schemas.map validator := by
  induction schemas with
  | nil => rfl
  | cons schema schemas induction => rw [validators, induction, List.map_cons]

theorem fieldValidators_eq_map (declarations : List (String × Option Schema)) :
    fieldValidators declarations =
      declarations.map fun declaration => (declaration.1, declaration.2.map validator) := by
  induction declarations with
  | nil => rfl
  | cons declaration declarations induction =>
      obtain ⟨name, schema⟩ := declaration
      cases schema <;> simp [fieldValidators, induction]

theorem fields_ofList_fieldValidators (declarations : List (String × Option Schema)) :
    (FieldShape.ofList (fieldValidators declarations)).fields =
      (Keyed.ofList declarations).map fun _ schema => schema.map validator := by
  rw [fieldValidators_eq_map]
  exact Keyed.ofList_map (fun _ schema => Option.map validator schema) declarations

theorem get?_fieldValidators (declarations : List (String × Option Schema)) (name : String) :
    (FieldShape.ofList (fieldValidators declarations)).fields.get? name =
      ((Keyed.ofList declarations).get? name).map (Option.map validator) := by
  rw [fields_ofList_fieldValidators]
  exact Keyed.find?_map (fun _ => Option.map validator) name (Keyed.ofList declarations).entries

def branchOf (branch : String × Option Discriminator × Schema) : Branch :=
  { condition := branch.1
    validator := branch.2.2.validator
    discriminator := branch.2.1 }

theorem branchValidators_eq_map (branches : List (String × Option Discriminator × Schema)) :
    branchValidators branches = branches.map branchOf := by
  induction branches with
  | nil => rfl
  | cons branch branches induction =>
      rw [branchValidators, induction, List.map_cons, branchOf]

end CheckedQuery.Schema

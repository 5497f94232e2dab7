import CheckedQuery.Proofs.Compilation

/-!
# Projections as trees

The branches of the conditional groups of a projection are projections again.  An
induction over projections may assume its claim for all of them, at whatever depth
the declarations hold the groups.
-/

namespace CheckedQuery

namespace Projection

variable {projection : Projection} {group : ConditionalGroup} {branch : String × Projection}

theorem exists_declaration_of_mem_groups (membership : group ∈ projection.groups) :
    ∃ key, (key, FieldValue.conditional group) ∈ projection.declarations := by
  obtain ⟨⟨key, spec⟩, inSpecs, isGroup⟩ := List.mem_filterMap.mp membership
  obtain ⟨value, inEntries, classified⟩ := mem_specs_iff.mp inSpecs
  cases spec with
  | conditional inner =>
      cases isGroup
      rw [FieldSpec.eq_conditional_of_classify classified] at inEntries
      exact ⟨key, Keyed.mem_of_mem_ofList inEntries⟩
  | copied | path | pathWith | validator | nested | spread => cases isGroup

/-- The branches of a declared group are smaller than the projection, whether or not its
key allows a group. -/
theorem sizeOf_branch_lt_of_declared {key : String}
    (declared : (key, FieldValue.conditional group) ∈ projection.declarations)
    (inBranches : branch ∈ group.branches) : sizeOf branch.2 < sizeOf projection := by
  obtain ⟨declarations⟩ := projection
  obtain ⟨name, branches, policy, exhaustive⟩ := group
  obtain ⟨condition, inner⟩ := branch
  have groupSmaller := List.sizeOf_lt_of_mem declared
  have branchSmaller := List.sizeOf_lt_of_mem inBranches
  simp only [Projection.declarations, ConditionalGroup.branches, Prod.mk.sizeOf_spec,
    FieldValue.conditional.sizeOf_spec, ConditionalGroup.make.sizeOf_spec,
    Projection.declare.sizeOf_spec] at groupSmaller branchSmaller ⊢
  omega

theorem sizeOf_branch_lt (inGroups : group ∈ projection.groups)
    (inBranches : branch ∈ group.branches) : sizeOf branch.2 < sizeOf projection := by
  obtain ⟨key, declared⟩ := exists_declaration_of_mem_groups inGroups
  exact sizeOf_branch_lt_of_declared declared inBranches

@[elab_as_elim]
theorem branch_induction {motive : Projection → Prop}
    (node : ∀ projection : Projection,
      (∀ group ∈ projection.groups, ∀ branch ∈ group.branches, motive branch.2) →
        motive projection)
    (projection : Projection) : motive projection :=
  node projection fun _ _ branch _ => branch_induction node branch.2
termination_by sizeOf projection
decreasing_by
  exact sizeOf_branch_lt ‹_› ‹_›

/-- A condition that a projection meets with the projections of all branches, at any
depth. -/
inductive Everywhere (condition : Projection → Prop) : Projection → Prop where
  | node {projection : Projection} (here : condition projection)
      (below : ∀ group ∈ projection.groups, ∀ branch ∈ group.branches,
        Everywhere condition branch.2) :
      Everywhere condition projection

namespace Everywhere

variable {condition : Projection → Prop}

theorem here (everywhere : projection.Everywhere condition) : condition projection := by
  cases everywhere with
  | node here below => exact here

theorem of_branch (everywhere : projection.Everywhere condition)
    (inGroups : group ∈ projection.groups) (inBranches : branch ∈ group.branches) :
    branch.2.Everywhere condition := by
  cases everywhere with
  | node here below => exact below group inGroups branch inBranches

theorem and {other : Projection → Prop} (everywhere : projection.Everywhere condition)
    (others : projection.Everywhere other) :
    projection.Everywhere fun level => condition level ∧ other level := by
  induction everywhere with
  | node here below induction =>
      refine .node ⟨here, others.here⟩ fun group inGroups branch inBranches => ?_
      exact induction group inGroups branch inBranches (others.of_branch inGroups inBranches)

theorem mono {weaker : Projection → Prop} (everywhere : projection.Everywhere condition)
    (implies : ∀ level, condition level → weaker level) : projection.Everywhere weaker := by
  induction everywhere with
  | node here below induction => exact .node (implies _ here) induction

end Everywhere

/-- What compiles, compiles on every level. -/
theorem everywhere_of_compile {query : Query} {compiled : Compiled}
    (success : projection.compile query = .ok compiled) :
    projection.Everywhere fun level => ∃ compiled, level.compile query = .ok compiled := by
  induction projection using branch_induction generalizing compiled with
  | node projection below =>
      refine .node ⟨compiled, success⟩ fun group inGroups branch inBranches => ?_
      obtain ⟨-, -, -, compiledGroups, computed, -⟩ := compile_eq_ok_iff.mp success
      obtain ⟨compiledGroup, isCompiled⟩ :=
        exists_mapM_eq_ok_iff.mp ⟨compiledGroups, computed⟩ group inGroups
      rw [ConditionalGroup.compile_eq, bind_eq_ok_iff] at isCompiled
      obtain ⟨branches, branchesComputed, -⟩ := isCompiled
      obtain ⟨compiledBranch, isBranch⟩ :=
        exists_mapM_eq_ok_iff.mp ⟨branches, branchesComputed⟩ branch inBranches
      obtain ⟨inner, compiles, -⟩ := CompiledBranch.ofBranch_eq_ok_iff.mp isBranch
      exact below group inGroups branch inBranches compiles

end Projection

end CheckedQuery

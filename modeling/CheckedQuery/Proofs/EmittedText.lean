import CheckedQuery.Proofs.DeclaredKeys
import CheckedQuery.Proofs.Stripping

/-!
# The text of compiled projections

A projection writes one part for its spread, for each named entry and for each conditional
group, with commas between them.  A part is empty only if it is that of a group of merged
branches without any branch, and such a group leaves its commas behind.
-/

namespace CheckedQuery

theorem length_intercalate (first : String) (others : List String) :
    (", ".intercalate (first :: others)).length =
      ((first :: others).flatMap String.toList).length + 2 * others.length := by
  induction others generalizing first with
  | nil => simp [← String.length_toList]
  | cons next others induction =>
      have separator : ", ".length = 2 := rfl
      rw [String.intercalate_cons_cons, String.length_append, String.length_append, induction,
        separator]
      simp only [List.flatMap_cons, List.length_append, String.length_toList, List.length_cons]
      omega

/-- Each text between the braces takes two characters more than it has. -/
theorem length_bracedText (texts : List String) :
    (bracedText texts).length = (texts.flatMap String.toList).length + 2 * texts.length + 2 := by
  cases texts with
  | nil => rfl
  | cons first others =>
      have opening : "\x7b ".length = 2 := rfl
      have closing : " \x7d".length = 2 := rfl
      rw [bracedText, List.isEmpty_cons, if_neg Bool.false_ne_true, String.length_append,
        String.length_append, length_intercalate, opening, closing, List.length_cons]
      omega

/-- There is always something between the braces, unless there are no texts. -/
theorem bracedText_eq_bare_iff {texts : List String} :
    bracedText texts = "\x7b\x7d" ↔ texts = [] := by
  constructor
  · intro bare
    have lengths := congrArg String.length bare
    have two : "\x7b\x7d".length = 2 := rfl
    rw [length_bracedText, two] at lengths
    have none : texts.length = 0 := by omega
    exact List.length_eq_zero_iff.mp none
  · rintro rfl
    rfl

/-- Empty texts have no characters. -/
theorem flatMap_toList_filter (texts : List String) :
    (texts.filter (· ≠ "")).flatMap String.toList = texts.flatMap String.toList := by
  induction texts with
  | nil => rfl
  | cons text texts induction =>
      rw [List.filter_cons, List.flatMap_cons, ← induction]
      by_cases isEmpty : text = ""
      · subst isEmpty
        rfl
      · rw [if_pos (decide_eq_true isEmpty), List.flatMap_cons]

/-- Empty texts cannot be left out between braces without being missed. -/
theorem bracedText_eq_filter_iff {texts : List String} :
    bracedText texts = bracedText (texts.filter (· ≠ "")) ↔ ∀ text ∈ texts, text ≠ "" := by
  constructor
  · intro same
    have lengths := congrArg String.length same
    rw [length_bracedText, length_bracedText, flatMap_toList_filter] at lengths
    have kept : (texts.filter (· ≠ "")).length = texts.length := by omega
    simpa using List.length_filter_eq_length_iff.mp kept
  · intro nonempty
    rw [List.filter_eq_self.mpr fun text inside => decide_eq_true (nonempty text inside)]

namespace Projection

/-- The text that a projection compiles to, if it does. -/
def textFor (query : Query) (projection : Projection) : String :=
  match projection.compile query with
  | .ok compiled => compiled.text
  | .error _ => ""

/-- What writes a part of the text between the braces of a projection. -/
inductive Slot where
  | spread
  | named (field : NamedField)
  | group (group : ConditionalGroup)

namespace Slot

/-- The part of a slot.  That of a group is made of the texts of its branches. -/
def text (query : Query) : Slot → String
  | .spread => spreadKey
  | .named field => field.text
  | .group inner =>
      let texts := ", ".intercalate (inner.branches.map fun branch =>
        branch.1 ++ " => " ++ branch.2.textFor query)
      match inner.policy with
      | .mergeAll => texts
      | .firstMatch => "...select(" ++ texts ++ ")"

/-- A group of merged branches that has none. -/
def Vacant : Slot → Prop
  | .group inner => inner.policy = .mergeAll ∧ inner.branches = []
  | _ => False

end Slot

/-- The slots of a projection, in the order of its text. -/
def slots (projection : Projection) : List Slot :=
  (if projection.spread?.isSome then [.spread] else []) ++
    projection.namedFields.map .named ++ projection.groups.map .group

/-- The parts of the text of a projection. -/
def parts (query : Query) (projection : Projection) : List String :=
  projection.slots.map (Slot.text query)

variable {query : Query} {projection : Projection} {compiled : Compiled}

theorem textFor_of_compile (success : projection.compile query = .ok compiled) :
    projection.textFor query = compiled.text := by
  rw [textFor, success]

theorem text_of_compile_group {group : ConditionalGroup}
    (success : group.compile query = .ok compiled) :
    compiled.text = Slot.text query (.group group) := by
  rw [ConditionalGroup.compile_eq, bind_eq_ok_iff] at success
  obtain ⟨branches, computed, assembled⟩ := success
  have texts : branches.map CompiledBranch.text =
      group.branches.map fun branch => branch.1 ++ " => " ++ branch.2.textFor query := by
    refine map_of_mapM_eq_ok computed fun branch _ result isResult => ?_
    obtain ⟨inner, compiles, rfl⟩ := CompiledBranch.ofBranch_eq_ok_iff.mp isResult
    rw [CompiledBranch.text, textFor_of_compile compiles]
  rw [ConditionalGroup.text_of_assembleGroup assembled, groupText.eq_def, texts]
  rfl

/-- A projection writes its parts between braces. -/
theorem text_of_compile (success : projection.compile query = .ok compiled) :
    compiled.text = bracedText (projection.parts query) := by
  obtain ⟨-, -, -, compiledGroups, computed, rfl⟩ := compile_eq_ok_iff.mp success
  have groups : compiledGroups.map Compiled.text =
      projection.groups.map fun group => Slot.text query (.group group) :=
    map_of_mapM_eq_ok computed fun _ _ _ compiles => text_of_compile_group compiles
  rw [assembled, parts, slots, List.map_append, List.map_append, List.map_map, List.map_map,
    groups]
  cases projection.spread? with
  | none => rfl
  | some supplied => rfl

/-- Branches between commas are no empty text, unless there are none. -/
theorem intercalate_branches_eq_empty_iff {branches : List (String × Projection)} :
    ", ".intercalate (branches.map fun branch =>
      branch.1 ++ " => " ++ branch.2.textFor query) = "" ↔ branches = [] := by
  cases branches with
  | nil => simp
  | cons branch branches =>
      have arrow : " => ".length = 4 := rfl
      rw [← String.length_eq_zero_iff, List.map_cons, length_intercalate, List.flatMap_cons,
        List.length_append, String.length_toList, String.length_append, String.length_append, arrow]
      constructor
      · omega
      · intro impossible
        cases impossible

theorem text_ne_empty {field : NamedField} (keyed : field.key ≠ "") : field.text ≠ "" := by
  rw [NamedField.text]
  split
  · exact keyed
  · simp

/-- Only a vacant slot writes nothing, if no entry has the empty key. -/
theorem Slot.text_eq_empty_iff {slot : Slot}
    (keyed : ∀ field, slot = .named field → field.key ≠ "") :
    slot.text query = "" ↔ slot.Vacant := by
  cases slot with
  | spread => simp [Slot.text, Slot.Vacant, spreadKey]
  | named field => simp [Slot.text, Slot.Vacant, text_ne_empty (keyed field rfl)]
  | group inner =>
      cases isPolicy : inner.policy with
      | mergeAll =>
          simp only [Slot.text, Slot.Vacant, isPolicy, true_and]
          exact intercalate_branches_eq_empty_iff
      | firstMatch => simp [Slot.text, Slot.Vacant, isPolicy]

theorem slots_ne_nil_of_mem_specs {entry : String × FieldSpec}
    (inSpecs : entry ∈ projection.specs) : projection.slots ≠ [] := by
  intro none
  simp only [slots, List.append_eq_nil_iff, List.map_eq_nil_iff] at none
  obtain ⟨⟨noSpread, noFields⟩, noGroups⟩ := none
  obtain ⟨key, spec⟩ := entry
  cases spec with
  | spread supplied =>
      have isSpread : projection.spread?.isSome = true :=
        List.findSome?_isSome_iff.mpr ⟨_, inSpecs, rfl⟩
      rw [if_pos isSpread] at noSpread
      cases noSpread
  | conditional inner =>
      have inGroups : inner ∈ projection.groups := List.mem_filterMap.mpr ⟨_, inSpecs, rfl⟩
      rw [noGroups] at inGroups
      cases inGroups
  | copied | path | pathWith | validator | nested =>
      have unnamed := List.filterMap_eq_nil_iff.mp noFields _ inSpecs
      cases unnamed

/-- Every entry of a projection that compiles has a slot. -/
theorem slots_eq_nil_iff (success : projection.compile query = .ok compiled) :
    projection.slots = [] ↔ projection.entries.entries = [] := by
  obtain ⟨⟨allowed, classified⟩, -⟩ := compile_eq_ok_iff.mp success
  have specs := projection.eq_specs_of_mapM classified
  subst specs
  have lengths := congrArg List.length (mapM_eq_ok_iff.mp classified)
  rw [List.length_map, List.length_map] at lengths
  rw [← List.length_eq_zero_iff (l := projection.entries.entries), lengths, List.length_eq_zero_iff]
  constructor
  · intro none
    refine List.eq_nil_iff_forall_not_mem.mpr fun entry inSpecs => ?_
    exact slots_ne_nil_of_mem_specs inSpecs none
  · intro none
    rw [slots, spread?, namedFields, groups, none]
    rfl

/-- No entry of a projection has the empty key. -/
def HasNonemptyKeys (projection : Projection) : Prop :=
  "" ∉ projection.entries.keys

instance (projection : Projection) : Decidable projection.HasNonemptyKeys :=
  inferInstanceAs (Decidable ("" ∉ projection.entries.keys))

/-- How the text of a level is put together.  Each part is that of a slot, and is empty
only if the slot is vacant; only without any entry there is nothing between the braces; and
the text is made of its nonempty parts alone exactly if no slot is vacant. -/
structure Emits (query : Query) (level : Projection) (text : String) : Prop where
  braced : text = bracedText (level.parts query)
  part_eq_empty_iff : ∀ slot ∈ level.slots, slot.text query = "" ↔ slot.Vacant
  bare_iff : text = "\x7b\x7d" ↔ level.entries.entries = []
  tidy_iff : text = bracedText ((level.parts query).filter (· ≠ "")) ↔
    ∀ slot ∈ level.slots, ¬slot.Vacant

theorem text_eq_empty_iff_of_mem_slots (nonempty : projection.HasNonemptyKeys)
    (success : projection.compile query = .ok compiled) {slot : Slot}
    (inSlots : slot ∈ projection.slots) : slot.text query = "" ↔ slot.Vacant := by
  refine Slot.text_eq_empty_iff fun field isNamed isEmpty => nonempty ?_
  subst isNamed
  have inFields : field ∈ projection.namedFields := by
    simpa [slots] using inSlots
  have inKeys : field.key ∈ projection.namedKeys := by
    rw [← keys_namedFields success]
    exact List.mem_map_of_mem inFields
  rw [← isEmpty]
  exact List.mem_of_mem_filter inKeys

theorem emits_of_hasNonemptyKeys (nonempty : projection.HasNonemptyKeys)
    (success : projection.compile query = .ok compiled) :
    projection.Emits query compiled.text where
  braced := text_of_compile success
  part_eq_empty_iff _ := text_eq_empty_iff_of_mem_slots nonempty success
  bare_iff := by
    rw [text_of_compile success, bracedText_eq_bare_iff, parts, List.map_eq_nil_iff,
      slots_eq_nil_iff success]
  tidy_iff := by
    rw [text_of_compile success, bracedText_eq_filter_iff, parts, List.forall_mem_map]
    exact forall₂_congr fun slot inSlots =>
      not_congr (text_eq_empty_iff_of_mem_slots nonempty success inSlots)

/-- On every level of a projection that compiles, the text is made of the parts of its
entries, and only groups of merged branches without any branch leave a part empty. -/
theorem emits_of_compile (nonempty : projection.Everywhere HasNonemptyKeys)
    (success : projection.compile query = .ok compiled) :
    projection.Everywhere fun level => ∃ result,
      level.compile query = .ok result ∧ level.Emits query result.text := by
  refine (nonempty.and (everywhere_of_compile success)).mono ?_
  rintro level ⟨keys, result, compiles⟩
  exact ⟨result, compiles, emits_of_hasNonemptyKeys keys compiles⟩

/-- An entry and a group of merged branches without any branch. -/
def withVacantGroup : Projection :=
  .declare
    [("a", .flag true), ("[Conditional] c", .conditional (.merge "c"))]

theorem hasNonemptyKeys_withVacantGroup : withVacantGroup.Everywhere HasNonemptyKeys := by
  refine .node (by decide) fun group inGroups branch inBranches => ?_
  have groups : withVacantGroup.groups = [.merge "c"] := rfl
  rw [groups, List.mem_singleton] at inGroups
  subst inGroups
  cases inBranches

/-- The group writes nothing, and the comma in front of it stays. -/
theorem vacant_group_leaves_comma :
    withVacantGroup.Everywhere HasNonemptyKeys ∧
    withVacantGroup.parts (.start false) = ["a", ""] ∧
    withVacantGroup.compile (.start false) =
      .ok { text := "\x7b a,  \x7d", validator := none } ∧
    "\x7b a,  \x7d" ≠ bracedText (["a", ""].filter (· ≠ "")) :=
  ⟨hasNonemptyKeys_withVacantGroup, rfl, rfl, by decide⟩

/-- A choice of one branch, which holds an entry and a vacant group. -/
def withVacantBranch : Projection :=
  .declare
    [("...", .flag true),
      ("[Conditional] k", .conditional (.make "k" [("defined(a)", withVacantGroup)]
        .firstMatch false))]

theorem emits_of_compile_withVacantBranch :
    withVacantBranch.Everywhere HasNonemptyKeys ∧
    withVacantBranch.compile (.start false) =
      .ok { text := "\x7b ..., ...select(defined(a) => \x7b a,  \x7d) \x7d", validator := none } ∧
    withVacantBranch.Everywhere fun level => ∃ result,
      level.compile (.start false) = .ok result ∧ level.Emits (.start false) result.text := by
  have nonempty : withVacantBranch.Everywhere HasNonemptyKeys := by
    refine .node (by decide) fun group inGroups branch inBranches => ?_
    have groups : withVacantBranch.groups =
        [.make "k" [("defined(a)", withVacantGroup)] .firstMatch false] :=
      rfl
    rw [groups, List.mem_singleton] at inGroups
    subst inGroups
    rw [ConditionalGroup.branches, List.mem_singleton] at inBranches
    subst inBranches
    exact hasNonemptyKeys_withVacantGroup
  have compiles : withVacantBranch.compile (.start false) =
      .ok { text := "\x7b ..., ...select(defined(a) => \x7b a,  \x7d) \x7d",
            validator := none } :=
    rfl
  exact ⟨nonempty, compiles, emits_of_compile nonempty compiles⟩

end Projection

end CheckedQuery

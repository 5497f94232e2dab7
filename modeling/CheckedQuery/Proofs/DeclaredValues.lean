import CheckedQuery.Proofs.ProjectionMeaning
import CheckedQuery.Proofs.ProjectionTree
import Mathlib.Data.List.Nodup

/-!
# What declarations say

A projection can be judged by its declarations alone: which values their keys allow, which
fields are included as they are, which values bring a validator with them and which groups
there are.  Where every key allows its value, compiling works with just that.
-/

namespace CheckedQuery

/-- A key that stands neither for the spread nor for a group. -/
def IsName (key : String) : Prop :=
  key ≠ spreadKey ∧ ¬conditionalMark.toList <+: key.toList

instance (key : String) : Decidable (IsName key) :=
  inferInstanceAs (Decidable (_ ∧ _))

namespace FieldValue

/-- Whether the field is included as it is. -/
def isIncluded : FieldValue → Bool
  | .flag truth => truth
  | _ => false

/-- Whether a value brings a validator with it.  What the branches of a group bring is not
counted here. -/
def isValidated : FieldValue → Bool
  | .flag _ => false
  | .path _ => false
  | .pathWith _ _ => true
  | .validator _ => true
  | .query inner => inner.validator.isSome
  | .conditional _ => false

def group? : FieldValue → Option ConditionalGroup
  | .conditional group => some group
  | _ => none

end FieldValue

namespace FieldSpec

/-- How a key reads a value, for all values that it allows. -/
inductive ReadsAs : String → FieldValue → FieldSpec → Prop where
  | bareSpread : ReadsAs spreadKey (.flag true) (.spread none)
  | spread (supplied : Validator) :
      ReadsAs spreadKey (.validator supplied) (.spread (some supplied))
  | group {key : String} (marked : conditionalMark.toList <+: key.toList)
      (group : ConditionalGroup) : ReadsAs key (.conditional group) (.conditional group)
  | included {key : String} (name : IsName key) : ReadsAs key (.flag true) .copied
  | path {key : String} (name : IsName key) (fragment : String) :
      ReadsAs key (.path fragment) (.path fragment)
  | pathWith {key : String} (name : IsName key) (fragment : String) (supplied : Validator) :
      ReadsAs key (.pathWith fragment supplied) (.pathWith fragment supplied)
  | validator {key : String} (name : IsName key) (supplied : Validator) :
      ReadsAs key (.validator supplied) (.validator supplied)
  | query {key : String} (name : IsName key) (query : Query) :
      ReadsAs key (.query query) (.nested query)

variable {key : String} {value : FieldValue} {spec : FieldSpec}

theorem isGroupKey_iff : isGroupKey key = true ↔ conditionalMark.toList <+: key.toList :=
  List.isPrefixOf_iff_prefix

theorem not_isName_spreadKey : ¬IsName spreadKey :=
  fun name => name.1 rfl

theorem ne_spreadKey_of_marked (marked : conditionalMark.toList <+: key.toList) :
    key ≠ spreadKey := by
  rintro rfl
  exact absurd marked (by decide)

private theorem readsAs_of_ofSpread? (isRead : ofSpread? value = some spec) :
    ReadsAs spreadKey value spec := by
  cases value with
  | flag truth =>
      cases truth <;> cases isRead
      exact .bareSpread
  | validator supplied =>
      cases isRead
      exact .spread supplied
  | path | pathWith | query | conditional => cases isRead

private theorem readsAs_of_ofNamed? (name : IsName key) (isRead : ofNamed? value = some spec) :
    ReadsAs key value spec := by
  cases value with
  | flag truth =>
      cases truth <;> cases isRead
      exact .included name
  | path fragment =>
      cases isRead
      exact .path name fragment
  | pathWith fragment supplied =>
      cases isRead
      exact .pathWith name fragment supplied
  | validator supplied =>
      cases isRead
      exact .validator name supplied
  | query inner =>
      cases isRead
      exact .query name inner
  | conditional group => cases isRead

theorem ReadsAs.of_read? (isRead : read? key value = some spec) : ReadsAs key value spec := by
  rw [read?] at isRead
  split at isRead
  · next isSpread =>
      subst isSpread
      exact readsAs_of_ofSpread? isRead
  · next notSpread =>
      split at isRead
      · next isGroup =>
          cases value with
          | conditional group =>
              cases isRead
              exact .group (isGroupKey_iff.mp isGroup) group
          | flag | path | pathWith | validator | query => cases isRead
      · next notGroup =>
          exact readsAs_of_ofNamed? ⟨notSpread, mt isGroupKey_iff.mpr notGroup⟩ isRead

theorem ReadsAs.read? (reads : ReadsAs key value spec) :
    FieldSpec.read? key value = some spec := by
  have named : ∀ {key : String}, IsName key → ∀ value,
      FieldSpec.read? key value = ofNamed? value := by
    intro key name value
    rw [FieldSpec.read?, if_neg name.1, if_neg (mt isGroupKey_iff.mp name.2)]
  cases reads with
  | bareSpread => rfl
  | spread supplied => rfl
  | group marked group =>
      rw [FieldSpec.read?, if_neg (ne_spreadKey_of_marked marked),
        if_pos (isGroupKey_iff.mpr marked)]
      rfl
  | included name => exact named name _
  | path name fragment => exact named name _
  | pathWith name fragment supplied => exact named name _
  | validator name supplied => exact named name _
  | query name query => exact named name _

/-- A validator that is declared ends up with a named entry or with the spread. -/
theorem ReadsAs.isValidated_iff (reads : ReadsAs key value spec) :
    value.isValidated = true ↔
      (∃ field, NamedField.ofSpec? key spec = some field ∧ field.validator.isSome = true) ∨
        ∃ supplied, key = spreadKey ∧ spec = .spread (some supplied) := by
  cases reads <;> simp [FieldValue.isValidated, NamedField.ofSpec?]

theorem classify_eq_ok_iff_readsAs : classify key value = .ok spec ↔ ReadsAs key value spec :=
  classify_eq_ok_iff.trans ⟨ReadsAs.of_read?, ReadsAs.read?⟩

end FieldSpec

namespace Projection

/-- The value of every entry is one that its key allows. -/
def Classified (projection : Projection) : Prop :=
  ∀ entry ∈ projection.entries.entries, ∃ spec, FieldSpec.ReadsAs entry.1 entry.2 spec

def declaredGroups (projection : Projection) : List ConditionalGroup :=
  projection.entries.entries.filterMap fun entry => entry.2.group?

/-- The names of the fields that are included as they are. -/
def includedKeys (projection : Projection) : List String :=
  (projection.entries.entries.filter fun entry =>
    IsName entry.1 ∧ entry.2.isIncluded = true).map Prod.fst

/-- Whether the source is spread without a validator. -/
def spreadsBare (projection : Projection) : Bool :=
  projection.entries.entries.any fun entry => entry.1 = spreadKey ∧ entry.2.isIncluded = true

/-- What lacks a validator: the spread, and then the names in the order of their
declarations. -/
def missingKeys (projection : Projection) : List String :=
  (if projection.spreadsBare then [spreadKey] else []) ++
    (projection.entries.entries.filter fun entry =>
      IsName entry.1 ∧ entry.2.isValidated = false).map Prod.fst

variable {projection : Projection}

theorem exists_specs_iff_classified :
    (∃ specs, projection.entries.entries.mapM FieldSpec.ofEntry = .ok specs) ↔
      projection.Classified := by
  rw [exists_mapM_eq_ok_iff]
  refine forall₂_congr fun entry _ => ?_
  simp only [← FieldSpec.classify_eq_ok_iff_readsAs]
  unfold FieldSpec.ofEntry
  cases FieldSpec.classify entry.1 entry.2 <;> simp [Except.map]

theorem mem_specs_iff_readsAs {key : String} {spec : FieldSpec} :
    (key, spec) ∈ projection.specs ↔
      ∃ value, (key, value) ∈ projection.entries.entries ∧ FieldSpec.ReadsAs key value spec := by
  simp only [mem_specs_iff, FieldSpec.classify_eq_ok_iff_readsAs]

/-- What is picked out of the readings can be picked out of the declarations. -/
theorem filterMap_specs {α : Type} {select : String × FieldSpec → Option α}
    {pick : String × FieldValue → Option α} (classified : projection.Classified)
    (same : ∀ key value spec, FieldSpec.ReadsAs key value spec →
      select (key, spec) = pick (key, value)) :
    projection.specs.filterMap select = projection.entries.entries.filterMap pick := by
  rw [specs, List.filterMap_filterMap]
  apply List.filterMap_congr
  rintro ⟨key, value⟩ membership
  obtain ⟨spec, reads⟩ := classified _ membership
  have isSpec : FieldSpec.ofEntry (key, value) = .ok (key, spec) :=
    FieldSpec.ofEntry_eq_ok_iff.mpr ⟨rfl, FieldSpec.classify_eq_ok_iff_readsAs.mpr reads⟩
  rw [isSpec]
  exact same key value spec reads

theorem sizeOf_branch_lt_of_mem_declaredGroups {group : ConditionalGroup}
    {branch : String × Projection} (inGroups : group ∈ projection.declaredGroups)
    (inBranches : branch ∈ group.branches) : sizeOf branch.2 < sizeOf projection := by
  obtain ⟨⟨key, value⟩, inEntries, isGroup⟩ := List.mem_filterMap.mp inGroups
  cases value with
  | conditional inner =>
      cases isGroup
      exact sizeOf_branch_lt_of_declared (Keyed.mem_of_mem_ofList inEntries) inBranches
  | flag | path | pathWith | validator | query => cases isGroup

theorem groups_eq_declaredGroups (classified : projection.Classified) :
    projection.groups = projection.declaredGroups := by
  apply filterMap_specs classified
  intro key value spec reads
  cases reads <;> rfl

private theorem filter_map_fst (holds : String × FieldValue → Bool)
    (entries : List (String × FieldValue)) :
    (entries.filter holds).map Prod.fst =
      entries.filterMap fun entry => if holds entry then some entry.1 else none := by
  rw [← List.filterMap_eq_map, List.filterMap_filter]
  rfl

theorem copiedKeys_eq_includedKeys (classified : projection.Classified) :
    projection.copiedKeys = projection.includedKeys := by
  rw [includedKeys, filter_map_fst]
  apply filterMap_specs classified
  intro key value spec reads
  cases reads with
  | bareSpread | spread => simp [FieldSpec.isCopied, FieldSpec.not_isName_spreadKey]
  | included name => simp [FieldSpec.isCopied, FieldValue.isIncluded, name]
  | group | path | pathWith | validator | query =>
      simp [FieldSpec.isCopied, FieldValue.isIncluded]

private theorem eq_spread_of_mem_specs {entry : String × FieldSpec} {found : Option Validator}
    (membership : entry ∈ projection.specs) (isSpread : entry.2.spread? = some found) :
    entry = (spreadKey, .spread found) := by
  obtain ⟨key, spec⟩ := entry
  cases spec with
  | spread inner =>
      cases isSpread
      obtain ⟨value, -, reads⟩ := mem_specs_iff_readsAs.mp membership
      cases reads <;> rfl
  | copied | path | pathWith | validator | nested | conditional => cases isSpread

/-- The spread is what stands under the spread key. -/
theorem spread?_eq_some_iff {supplied : Option Validator} :
    projection.spread? = some supplied ↔ (spreadKey, .spread supplied) ∈ projection.specs := by
  constructor
  · intro found
    obtain ⟨entry, membership, isSpread⟩ := List.exists_of_findSome?_eq_some found
    exact eq_spread_of_mem_specs membership isSpread ▸ membership
  · intro membership
    cases found : projection.spread? with
    | none =>
        have absent := List.findSome?_eq_none_iff.mp found _ membership
        cases absent
    | some other =>
        obtain ⟨entry, otherMembership, isSpread⟩ := List.exists_of_findSome?_eq_some found
        obtain rfl := eq_spread_of_mem_specs otherMembership isSpread
        have same := List.inj_on_of_nodup_map projection.nodup_specs membership otherMembership rfl
        cases same
        rfl

theorem spread?_eq_bare_iff :
    projection.spread? = some none ↔ projection.spreadsBare = true := by
  rw [spread?_eq_some_iff, mem_specs_iff_readsAs]
  simp only [spreadsBare, List.any_eq_true, decide_eq_true_eq]
  constructor
  · rintro ⟨value, membership, reads⟩
    cases reads
    exact ⟨_, membership, rfl, rfl⟩
  · rintro ⟨⟨key, value⟩, membership, rfl, included⟩
    cases value with
    | flag truth =>
        cases included
        exact ⟨_, membership, .bareSpread⟩
    | path | pathWith | validator | query | conditional => cases included

private theorem map_key_unvalidated (classified : projection.Classified) :
    (projection.namedFields.filter fun field => field.validator.isNone).map NamedField.key =
      (projection.entries.entries.filter fun entry =>
        IsName entry.1 ∧ entry.2.isValidated = false).map Prod.fst := by
  rw [filter_map_fst, ← List.filterMap_eq_map, List.filterMap_filter, namedFields,
    List.filterMap_filterMap]
  apply filterMap_specs classified
  intro key value spec reads
  cases reads with
  | bareSpread | spread => simp [NamedField.ofSpec?, FieldSpec.not_isName_spreadKey]
  | group marked group => simp [NamedField.ofSpec?, IsName, marked]
  | included name | path name | pathWith name | validator name =>
      simp [NamedField.ofSpec?, FieldValue.isValidated, name]
  | query name inner =>
      cases supplied : inner.validator <;>
        simp [NamedField.ofSpec?, FieldValue.isValidated, name, supplied]

/-- The keys that compiling misses a validator for are those that lack one as declared. -/
theorem unvalidatedKeys_eq_missingKeys (classified : projection.Classified) :
    unvalidatedKeys projection.spread? projection.namedFields = projection.missingKeys := by
  rw [missingKeys, ← map_key_unvalidated classified]
  cases isBare : projection.spreadsBare with
  | true =>
      rw [spread?_eq_bare_iff.mpr isBare]
      rfl
  | false =>
      have notBare : projection.spread? ≠ some none := by
        rw [Ne, spread?_eq_bare_iff, isBare]
        exact Bool.false_ne_true
      cases spread : projection.spread? with
      | none => rfl
      | some supplied =>
          cases supplied with
          | none => exact absurd spread notBare
          | some supplied => rfl

theorem missingKeys_eq_nil_iff :
    projection.missingKeys = [] ↔
      projection.spreadsBare = false ∧
        ∀ entry ∈ projection.entries.entries, IsName entry.1 → entry.2.isValidated = true := by
  rw [missingKeys, List.append_eq_nil_iff, List.map_eq_nil_iff, List.filter_eq_nil_iff]
  refine and_congr ?_ (forall₂_congr fun entry _ => ?_)
  · cases projection.spreadsBare <;> simp
  · cases entry.2.isValidated <;> simp

/-- A named entry or the spread has a validator just if a declared value brings one. -/
theorem exists_validated_iff (classified : projection.Classified) :
    ((∃ field ∈ projection.namedFields, field.validator.isSome = true) ∨
        ∃ supplied, projection.spread? = some (some supplied)) ↔
      ∃ entry ∈ projection.entries.entries, entry.2.isValidated = true := by
  constructor
  · rintro (⟨field, inFields, supplied⟩ | ⟨supplied, spread⟩)
    · obtain ⟨⟨key, spec⟩, inSpecs, isField⟩ := List.mem_filterMap.mp inFields
      obtain ⟨value, inEntries, reads⟩ := mem_specs_iff_readsAs.mp inSpecs
      exact ⟨(key, value), inEntries, reads.isValidated_iff.mpr (.inl ⟨field, isField, supplied⟩)⟩
    · obtain ⟨value, inEntries, reads⟩ :=
        mem_specs_iff_readsAs.mp (spread?_eq_some_iff.mp spread)
      exact ⟨(spreadKey, value), inEntries, reads.isValidated_iff.mpr (.inr ⟨supplied, rfl, rfl⟩)⟩
  · rintro ⟨⟨key, value⟩, inEntries, validated⟩
    obtain ⟨spec, reads⟩ := classified _ inEntries
    have inSpecs : (key, spec) ∈ projection.specs :=
      mem_specs_iff_readsAs.mpr ⟨value, inEntries, reads⟩
    rcases reads.isValidated_iff.mp validated with
      ⟨field, isField, supplied⟩ | ⟨supplied, rfl, rfl⟩
    · exact .inl ⟨field, List.mem_filterMap.mpr ⟨_, inSpecs, isField⟩, supplied⟩
    · exact .inr ⟨supplied, spread?_eq_some_iff.mpr inSpecs⟩

end Projection

end CheckedQuery

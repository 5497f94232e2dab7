import CheckedQuery.Projection

/-!
# What a key says about its value

The value that a projection declares under a key is read as a spread, as a named entry
or as a conditional group, and only the key decides as which.
-/

namespace CheckedQuery

namespace FieldSpec

def spread? : FieldSpec → Option (Option Validator)
  | .spread supplied => some supplied
  | _ => none

def group? : FieldSpec → Option ConditionalGroup
  | .conditional inner => some inner
  | _ => none

/-- How a value is read under a key, if it is allowed there. -/
def read? (key : String) (value : FieldValue) : Option FieldSpec :=
  if key = spreadKey then ofSpread? value
  else if isGroupKey key then ofGroup? value
  else ofNamed? value

theorem classify_eq (key : String) (value : FieldValue) :
    classify key value =
      match read? key value with
      | some spec => .ok spec
      | none => .error (.unexpectedProjectionValue key) :=
  rfl

variable {key : String} {value : FieldValue} {spec : FieldSpec}

theorem classify_eq_ok_iff :
    classify key value = .ok spec ↔ read? key value = some spec := by
  rw [classify_eq]
  cases read? key value <;> simp

theorem classify_eq_error (unclassified : ∀ spec, classify key value ≠ .ok spec) :
    classify key value = .error (.unexpectedProjectionValue key) := by
  have unread : read? key value = none := by
    refine Option.eq_none_iff_forall_ne_some.mpr fun spec isRead => ?_
    exact unclassified spec (classify_eq_ok_iff.mpr isRead)
  rw [classify_eq, unread]

private theorem exists_spread_of_ofSpread? (isRead : ofSpread? value = some spec) :
    ∃ supplied, spec = .spread supplied := by
  cases value with
  | flag truth =>
      cases truth with
      | false => cases isRead
      | true => exact ⟨none, (Option.some.inj isRead).symm⟩
  | validator supplied => exact ⟨some supplied, (Option.some.inj isRead).symm⟩
  | path | pathWith | query | conditional => cases isRead

private theorem exists_group_of_ofGroup? (isRead : ofGroup? value = some spec) :
    ∃ group, value = .conditional group ∧ spec = .conditional group := by
  cases value with
  | conditional group => exact ⟨group, rfl, (Option.some.inj isRead).symm⟩
  | flag | path | pathWith | validator | query => cases isRead

private theorem isSome_ofSpec?_of_ofNamed? (key : String)
    (isRead : ofNamed? value = some spec) :
    (NamedField.ofSpec? key spec).isSome = true := by
  cases value with
  | flag truth =>
      cases truth with
      | false => cases isRead
      | true =>
          cases isRead
          rfl
  | path | pathWith | validator | query =>
      cases isRead
      rfl
  | conditional group => cases isRead

/-- What the key of an entry says about its value. -/
theorem classify_cases (classified : classify key value = .ok spec) :
    (key = spreadKey ∧ ∃ supplied, spec = .spread supplied) ∨
    (key ≠ spreadKey ∧ isGroupKey key = true ∧
      ∃ group, value = .conditional group ∧ spec = .conditional group) ∨
    (key ≠ spreadKey ∧ isGroupKey key = false ∧
      (NamedField.ofSpec? key spec).isSome = true) := by
  rw [classify_eq_ok_iff, read?] at classified
  by_cases isSpread : key = spreadKey
  · rw [if_pos isSpread] at classified
    exact .inl ⟨isSpread, exists_spread_of_ofSpread? classified⟩
  · rw [if_neg isSpread] at classified
    cases isGroup : isGroupKey key with
    | true =>
        rw [if_pos isGroup] at classified
        exact .inr (.inl ⟨isSpread, rfl, exists_group_of_ofGroup? classified⟩)
    | false =>
        rw [if_neg (Bool.not_eq_true _ ▸ isGroup)] at classified
        exact .inr (.inr ⟨isSpread, rfl, isSome_ofSpec?_of_ofNamed? key classified⟩)

/-- Only a group is read as a group. -/
theorem eq_conditional_of_classify {group : ConditionalGroup}
    (classified : classify key value = .ok (.conditional group)) :
    value = .conditional group := by
  rcases classify_cases classified with
    ⟨-, supplied, impossible⟩ | ⟨-, -, inner, isValue, same⟩ | ⟨-, -, named⟩
  · cases impossible
  · cases same
    exact isValue
  · cases named

theorem eq_spreadKey_of_classify {supplied : Option Validator}
    (classified : classify key value = .ok (.spread supplied)) : key = spreadKey := by
  rcases classify_cases classified with
    ⟨isSpread, -⟩ | ⟨-, -, group, -, impossible⟩ | ⟨-, -, named⟩
  · exact isSpread
  · cases impossible
  · cases named

/-- An entry has a name of its own unless its key is reserved. -/
theorem isSome_ofSpec?_iff (classified : classify key value = .ok spec) :
    (NamedField.ofSpec? key spec).isSome = true ↔
      key ≠ spreadKey ∧ isGroupKey key = false := by
  rcases classify_cases classified with
    ⟨isSpread, supplied, rfl⟩ | ⟨-, isGroup, group, -, rfl⟩ | ⟨notSpread, notGroup, named⟩
  · simp [NamedField.ofSpec?, isSpread]
  · simp [NamedField.ofSpec?, isGroup]
  · simp [named, notSpread, notGroup]

def ofEntry (entry : String × FieldValue) : Except ConfigError (String × FieldSpec) :=
  (classify entry.1 entry.2).map fun spec => (entry.1, spec)

theorem ofEntry_eq_ok_iff {entry : String × FieldValue} {found : String × FieldSpec} :
    ofEntry entry = .ok found ↔
      entry.1 = found.1 ∧ classify entry.1 entry.2 = .ok found.2 := by
  obtain ⟨key, spec⟩ := found
  unfold ofEntry
  cases classify entry.1 entry.2 <;> simp [Except.map]

end FieldSpec

end CheckedQuery

import CheckedQuery.Proofs.EmittedText

/-!
# Projections that only name fields

Where every key stands for the field of the same name, the keys are written as they are,
with commas between them.  So the text gives back the names between its commas, and a key
that has a comma and a blank of its own reads as several names.
-/

namespace CheckedQuery

namespace Text

/-- The names that a text lists, with a comma and a blank between them. -/
def listedNames : List Char → List (List Char)
  | [] => [[]]
  | ',' :: ' ' :: rest => [] :: listedNames rest
  | c :: rest => (listedNames rest).modifyHead (c :: ·)

theorem listedNames_cons {c : Char} {rest : List Char} (plain : ¬[',', ' '] <+: c :: rest) :
    listedNames (c :: rest) = (listedNames rest).modifyHead (c :: ·) := by
  rw [listedNames]
  rintro others rfl rfl
  exact plain ⟨others, rfl⟩

theorem exists_listedNames_eq (text : List Char) :
    ∃ first others, listedNames text = first :: others := by
  fun_induction listedNames text with
  | case1 => exact ⟨[], [], rfl⟩
  | case2 rest => exact ⟨[], listedNames rest, rfl⟩
  | case3 c rest notSeparator induction =>
      obtain ⟨first, others, same⟩ := induction
      exact ⟨c :: first, others, by rw [same, List.modifyHead_cons]⟩

/-- What stands on both sides of a separator is listed by itself. -/
theorem listedNames_append (left right : List Char) :
    listedNames (left ++ ',' :: ' ' :: right) = listedNames left ++ listedNames right := by
  fun_induction listedNames left with
  | case1 => rfl
  | case2 rest induction =>
      rw [List.cons_append, List.cons_append, listedNames, induction, List.cons_append]
  | case3 c rest notSeparator induction =>
      obtain ⟨first, others, same⟩ := exists_listedNames_eq rest
      rw [List.cons_append, listedNames_cons, induction, same]
      · rfl
      -- The separator starts with a comma, so it cannot make one out of `c`.
      · cases rest with
        | nil => simp
        | cons d rest =>
            rintro ⟨after, separates⟩
            cases separates
            exact notSeparator rest rfl rfl

/-- A text without a separator is one name. -/
theorem listedNames_eq_singleton {text : List Char} (plain : ¬[',', ' '] <:+: text) :
    listedNames text = [text] := by
  induction text with
  | nil => rfl
  | cons c rest induction =>
      rw [List.infix_cons_iff, not_or] at plain
      rw [listedNames_cons plain.1, induction plain.2]
      rfl

/-- The names give the text back. -/
theorem intercalate_listedNames (text : List Char) :
    [',', ' '].intercalate (listedNames text) = text := by
  fun_induction listedNames text with
  | case1 => rfl
  | case2 rest induction =>
      obtain ⟨first, others, same⟩ := exists_listedNames_eq rest
      rw [same] at induction ⊢
      rw [List.intercalate_cons_cons, induction]
      rfl
  | case3 c rest notSeparator induction =>
      obtain ⟨first, others, same⟩ := exists_listedNames_eq rest
      rw [same] at induction ⊢
      cases others with
      | nil =>
          rw [List.intercalate_singleton] at induction
          rw [List.modifyHead_cons, List.intercalate_singleton, induction]
      | cons next others =>
          rw [List.intercalate_cons_cons] at induction
          rw [List.modifyHead_cons, List.intercalate_cons_cons, List.cons_append,
            List.cons_append, induction]

theorem listedNames_intercalate (first : List Char) (others : List (List Char)) :
    listedNames ([',', ' '].intercalate (first :: others)) =
      (first :: others).flatMap listedNames := by
  induction others generalizing first with
  | nil => rw [List.intercalate_singleton, List.flatMap_singleton]
  | cons next others induction =>
      rw [List.intercalate_cons_cons, List.append_assoc, List.cons_append, List.cons_append,
        List.nil_append, listedNames_append, induction]
      simp only [List.flatMap_cons]

/-- Texts put together read alike exactly if they list the same names. -/
theorem intercalate_eq_iff {first other : List Char} {firsts others : List (List Char)} :
    [',', ' '].intercalate (first :: firsts) = [',', ' '].intercalate (other :: others) ↔
      (first :: firsts).flatMap listedNames = (other :: others).flatMap listedNames := by
  rw [← listedNames_intercalate, ← listedNames_intercalate]
  constructor
  · exact congrArg listedNames
  · intro same
    rw [← intercalate_listedNames ([',', ' '].intercalate (first :: firsts)), same,
      intercalate_listedNames]

end Text

/-- The names that a list of keys spells out. -/
def spelledNames (keys : List String) : List (List Char) :=
  keys.flatMap fun key => Text.listedNames key.toList

/-- Keys without a separator spell out themselves. -/
theorem spelledNames_of_plain {keys : List String}
    (plain : ∀ key ∈ keys, ¬[',', ' '] <:+: key.toList) :
    spelledNames keys = keys.map String.toList := by
  induction keys with
  | nil => rfl
  | cons key keys induction =>
      have later := induction fun other inside => plain other (List.mem_cons_of_mem _ inside)
      rw [spelledNames] at later ⊢
      rw [List.flatMap_cons, later,
        Text.listedNames_eq_singleton (plain key List.mem_cons_self)]
      rfl

theorem spelledNames_cons_ne_nil (key : String) (keys : List String) :
    spelledNames (key :: keys) ≠ [] := by
  obtain ⟨first, others, same⟩ := Text.exists_listedNames_eq key.toList
  rw [spelledNames, List.flatMap_cons, same]
  exact List.cons_ne_nil _ _

theorem toList_bracedText (key : String) (keys : List String) :
    (bracedText (key :: keys)).toList =
      '\x7b' :: ' ' :: ([',', ' '].intercalate ((key :: keys).map String.toList) ++
        [' ', '\x7d']) := by
  rw [bracedText, List.isEmpty_cons, if_neg Bool.false_ne_true]
  simp

/-- Keys between braces read alike exactly if they spell out the same names. -/
theorem bracedText_eq_iff {left right : List String} :
    bracedText left = bracedText right ↔ spelledNames left = spelledNames right := by
  cases left with
  | nil =>
      cases right with
      | nil => exact iff_of_true rfl rfl
      | cons key keys =>
          exact iff_of_false
            (fun same => List.cons_ne_nil key keys (bracedText_eq_bare_iff.mp same.symm))
            (spelledNames_cons_ne_nil key keys).symm
  | cons key keys =>
      cases right with
      | nil =>
          exact iff_of_false
            (fun same => List.cons_ne_nil key keys (bracedText_eq_bare_iff.mp same))
            (spelledNames_cons_ne_nil key keys)
      | cons other others =>
          rw [← String.toList_inj, toList_bracedText, toList_bracedText, List.cons_inj_right,
            List.cons_inj_right, List.append_cancel_right_eq, List.map_cons, List.map_cons,
            Text.intercalate_eq_iff]
          simp only [spelledNames, ← List.map_cons, List.flatMap_map]

namespace Projection

variable {projection left right : Projection} {query leftQuery rightQuery : Query}
  {compiled leftCompiled rightCompiled : Compiled}

/-- Every key is that of a field, which comes back as it is or validated. -/
def OnlyNames (projection : Projection) : Prop :=
  ∀ entry ∈ projection.entries.entries,
    entry.1 ≠ spreadKey ∧ FieldSpec.isGroupKey entry.1 = false ∧
      (entry.2 = .flag true ∨ ∃ validator, entry.2 = .validator validator)

theorem text_of_mem_namedFields (onlyNames : projection.OnlyNames) {field : NamedField}
    (inFields : field ∈ projection.namedFields) : field.text = field.key := by
  obtain ⟨⟨key, spec⟩, inSpecs, named⟩ := List.mem_filterMap.mp inFields
  obtain ⟨value, inEntries, classified⟩ := mem_specs_iff.mp inSpecs
  obtain ⟨notSpread, notGroup, kind⟩ := onlyNames _ inEntries
  rw [FieldSpec.classify_eq_ok_iff, FieldSpec.read?, if_neg notSpread,
    if_neg (Bool.eq_false_iff.mp notGroup)] at classified
  rcases kind with rfl | ⟨validator, rfl⟩
  · cases classified
    cases named
    exact if_pos rfl
  · cases classified
    cases named
    exact if_pos rfl

theorem groups_of_onlyNames (onlyNames : projection.OnlyNames) : projection.groups = [] := by
  refine List.eq_nil_iff_forall_not_mem.mpr fun group inGroups => ?_
  obtain ⟨⟨key, spec⟩, inSpecs, isGroup⟩ := List.mem_filterMap.mp inGroups
  obtain ⟨value, inEntries, classified⟩ := mem_specs_iff.mp inSpecs
  obtain ⟨notSpread, notGroup, -⟩ := onlyNames _ inEntries
  have named := (FieldSpec.isSome_ofSpec?_iff classified).mpr ⟨notSpread, notGroup⟩
  cases spec with
  | conditional inner => cases named
  | copied | path | pathWith | validator | nested | spread => cases isGroup

/-- Such a projection writes its keys. -/
theorem parts_of_onlyNames (onlyNames : projection.OnlyNames)
    (success : projection.compile query = .ok compiled) :
    projection.parts query = projection.entries.keys := by
  have spreadless : projection.Spreadless := by
    intro inKeys
    obtain ⟨entry, inEntries, isSpread⟩ := List.mem_map.mp inKeys
    exact (onlyNames entry inEntries).1 isSpread
  have allNamed : projection.namedKeys = projection.entries.keys := by
    refine List.filter_eq_self.mpr fun key inKeys => decide_eq_true ?_
    obtain ⟨entry, inEntries, rfl⟩ := List.mem_map.mp inKeys
    exact ⟨(onlyNames entry inEntries).1, (onlyNames entry inEntries).2.1⟩
  calc
    projection.parts query = projection.namedFields.map NamedField.text := by
      rw [parts, slots, spread?_of_spreadless spreadless, groups_of_onlyNames onlyNames]
      simp [Function.comp_def, Slot.text]
    _ = projection.namedFields.map NamedField.key :=
      List.map_congr_left fun field => text_of_mem_namedFields onlyNames
    _ = projection.entries.keys := by rw [keys_namedFields success, allNamed]

/-- Two projections that only name fields have the same text exactly if their keys spell
out the same names; and if no key has a comma with a blank, exactly if their keys are the
same. -/
theorem text_eq_iff_of_onlyNames (leftNames : left.OnlyNames) (rightNames : right.OnlyNames)
    (leftSuccess : left.compile leftQuery = .ok leftCompiled)
    (rightSuccess : right.compile rightQuery = .ok rightCompiled) :
    (leftCompiled.text = rightCompiled.text ↔
      spelledNames left.entries.keys = spelledNames right.entries.keys) ∧
    ((∀ key ∈ left.entries.keys, ¬[',', ' '] <:+: key.toList) →
      (∀ key ∈ right.entries.keys, ¬[',', ' '] <:+: key.toList) →
      leftCompiled.text = rightCompiled.text → left.entries.keys = right.entries.keys) := by
  have spelled : leftCompiled.text = rightCompiled.text ↔
      spelledNames left.entries.keys = spelledNames right.entries.keys := by
    rw [text_of_compile leftSuccess, text_of_compile rightSuccess,
      parts_of_onlyNames leftNames leftSuccess, parts_of_onlyNames rightNames rightSuccess,
      bracedText_eq_iff]
  refine ⟨spelled, fun leftPlain rightPlain same => ?_⟩
  have sameNames := spelled.mp same
  rw [spelledNames_of_plain leftPlain, spelledNames_of_plain rightPlain] at sameNames
  exact (List.map_inj_right fun _ _ => String.toList_inj.mp).mp sameNames

/-- Two keys that have a separator between them only when they are put together. -/
def splitSeparator (value : FieldValue) : Projection :=
  .declare [("a,", value), (" b", value)]

theorem text_eq_iff_of_onlyNames_splitSeparator :
    (splitSeparator (.flag true)).OnlyNames ∧
    (splitSeparator (.validator .unknown)).OnlyNames ∧
    ∃ leftCompiled rightCompiled,
      (splitSeparator (.flag true)).compile (.start false) = .ok leftCompiled ∧
      (splitSeparator (.validator .unknown)).compile (.start true) = .ok rightCompiled ∧
      leftCompiled.text = rightCompiled.text ∧
      spelledNames (splitSeparator (.flag true)).entries.keys =
        spelledNames (splitSeparator (.validator .unknown)).entries.keys ∧
      (∀ key ∈ (splitSeparator (.flag true)).entries.keys, ¬[',', ' '] <:+: key.toList) ∧
      (∀ key ∈ (splitSeparator (.validator .unknown)).entries.keys,
        ¬[',', ' '] <:+: key.toList) ∧
      (splitSeparator (.flag true)).entries.keys =
        (splitSeparator (.validator .unknown)).entries.keys := by
  have onlyNames : ∀ value,
      (value = .flag true ∨ ∃ validator, value = FieldValue.validator validator) →
        (splitSeparator value).OnlyNames := by
    intro value kind entry inEntries
    have first : "a," ≠ spreadKey ∧ FieldSpec.isGroupKey "a," = false := by decide
    have second : " b" ≠ spreadKey ∧ FieldSpec.isGroupKey " b" = false := by decide
    rcases List.mem_cons.mp inEntries with rfl | later
    · exact ⟨first.1, first.2, kind⟩
    · rw [List.mem_singleton.mp later]
      exact ⟨second.1, second.2, kind⟩
  have leftNames := onlyNames (.flag true) (.inl rfl)
  have rightNames := onlyNames (.validator .unknown) (.inr ⟨_, rfl⟩)
  have plain : ∀ value, ∀ key ∈ (splitSeparator value).entries.keys,
      ¬[',', ' '] <:+: key.toList := by
    intro value key inKeys
    have first : ¬[',', ' '] <:+: "a,".toList := by decide
    have second : ¬[',', ' '] <:+: " b".toList := by decide
    rcases List.mem_cons.mp inKeys with rfl | later
    · exact first
    · rw [List.mem_singleton.mp later]
      exact second
  have sameText : ∃ leftCompiled rightCompiled,
      (splitSeparator (.flag true)).compile (.start false) = .ok leftCompiled ∧
      (splitSeparator (.validator .unknown)).compile (.start true) = .ok rightCompiled ∧
      leftCompiled.text = rightCompiled.text :=
    ⟨_, _, rfl, rfl, rfl⟩
  obtain ⟨leftCompiled, rightCompiled, leftSuccess, rightSuccess, same⟩ := sameText
  obtain ⟨spelled, unspelled⟩ :=
    text_eq_iff_of_onlyNames leftNames rightNames leftSuccess rightSuccess
  exact ⟨leftNames, rightNames, leftCompiled, rightCompiled, leftSuccess, rightSuccess, same,
    spelled.mp same, plain _, plain _, unspelled (plain _) (plain _) same⟩

/-- A key that reads as two. -/
def commaKey : Projection :=
  .declare [("a, b", .flag true)]

def twoKeys : Projection :=
  .declare [("a", .flag true), ("b", .flag true)]

theorem comma_key_reads_as_two :
    commaKey.OnlyNames ∧ twoKeys.OnlyNames ∧
    commaKey.compile (.start false) = .ok { text := "\x7b a, b \x7d", validator := none } ∧
    twoKeys.compile (.start false) = .ok { text := "\x7b a, b \x7d", validator := none } ∧
    commaKey.entries.keys ≠ twoKeys.entries.keys := by
  refine ⟨?_, ?_, rfl, rfl, by decide⟩
  · intro entry inEntries
    rw [List.mem_singleton.mp inEntries]
    exact ⟨by decide, by decide, .inl rfl⟩
  · intro entry inEntries
    rcases List.mem_cons.mp inEntries with rfl | later
    · exact ⟨by decide, by decide, .inl rfl⟩
    · rw [List.mem_singleton.mp later]
      exact ⟨by decide, by decide, .inl rfl⟩

end Projection

end CheckedQuery

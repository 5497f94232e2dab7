import CheckedQuery.Proofs.EqualityConditions
import CheckedQuery.Proofs.ReaderLocality
import Mathlib.Data.List.TakeWhile

/-!
# The grammar of decided conditions

Two forms of condition are decided by documents.  The grammar below gives the tokens of
both, with the blanks around them.  A condition has a discriminator exactly when it is
spelled by this grammar, and it is spelled in one way at most; so nothing but blanks may
follow the literal of a comparison.
-/

namespace CheckedQuery

namespace Text

/-- A text that neither starts nor ends with a blank. -/
structure Trimmed (text : List Char) : Prop where
  nonempty : text ≠ []
  starts : Stops isBlank text
  ends : Stops isBlank text.reverse

variable {before after text rest : List Char}

theorem AllBlank.reverse (blank : AllBlank text) : AllBlank text.reverse :=
  fun c inside => blank c (List.mem_reverse.mp inside)

theorem AllBlank.append (blankBefore : AllBlank before) (blankAfter : AllBlank after) :
    AllBlank (before ++ after) := by
  intro c inside
  rcases List.mem_append.mp inside with inBefore | inAfter
  · exact blankBefore c inBefore
  · exact blankAfter c inAfter

theorem stops_skipBlanks (text : List Char) : Stops isBlank (skipBlanks text) := by
  induction text with
  | nil => trivial
  | cons c text induction =>
      rw [skipBlanks, List.dropWhile_cons]
      split
      · exact induction
      · next visible => exact Bool.eq_false_iff.mpr visible

/-- Every text starts with a run of blanks. -/
theorem exists_blanks (text : List Char) :
    ∃ blanks, AllBlank blanks ∧ text = blanks ++ skipBlanks text :=
  ⟨text.takeWhile isBlank, fun _ inside => List.mem_takeWhile_imp inside,
    List.takeWhile_append_dropWhile.symm⟩

theorem skipBlanks_eq_nil_iff : skipBlanks text = [] ↔ AllBlank text :=
  List.dropWhile_eq_nil_iff

theorem strip_trimmed (blankBefore : AllBlank before) (trimmed : Trimmed text)
    (blankAfter : AllBlank after) : strip (before ++ (text ++ after)) = text := by
  rcases List.eq_nil_or_concat text with isNil | ⟨front, last, same⟩
  · exact absurd isNil trimmed.nonempty
  · have ends := trimmed.ends
    rw [List.concat_eq_append] at same
    rw [same, List.reverse_concat] at ends
    exact strip_append blankBefore blankAfter trimmed.starts same ends

/-- Where the visible part of a text starts and ends does not depend on how it was put
together. -/
theorem trimmed_inj {otherBefore otherText otherAfter : List Char}
    (blankBefore : AllBlank before) (trimmed : Trimmed text) (blankAfter : AllBlank after)
    (blankOtherBefore : AllBlank otherBefore) (otherTrimmed : Trimmed otherText)
    (blankOtherAfter : AllBlank otherAfter)
    (same : before ++ (text ++ after) = otherBefore ++ (otherText ++ otherAfter)) :
    before = otherBefore ∧ text = otherText ∧ after = otherAfter := by
  have sameText : text = otherText := by
    rw [← strip_trimmed blankBefore trimmed blankAfter, same,
      strip_trimmed blankOtherBefore otherTrimmed blankOtherAfter]
  subst sameText
  obtain ⟨sameBefore, sameRest⟩ := append_inj_of_stops blankBefore
    (trimmed.starts.append_of_ne_nil trimmed.nonempty after) blankOtherBefore
    (trimmed.starts.append_of_ne_nil trimmed.nonempty otherAfter) same
  exact ⟨sameBefore, rfl, List.append_cancel_left sameRest⟩

/-- Stripping takes blanks off both ends, and stops where the text is visible. -/
theorem exists_strip (text : List Char) :
    ∃ before after, AllBlank before ∧ AllBlank after ∧ text = before ++ (strip text ++ after) ∧
      (strip text ≠ [] → Trimmed (strip text)) := by
  obtain ⟨before, blankBefore, front⟩ := exists_blanks text
  obtain ⟨after, blankAfter, back⟩ := exists_blanks (skipBlanks text).reverse
  have kept : skipBlanks text = strip text ++ after.reverse := by
    rw [strip, ← List.reverse_append, ← back, List.reverse_reverse]
  refine ⟨before, after.reverse, blankBefore, blankAfter.reverse, ?_, fun nonempty => ?_⟩
  · rw [← kept]
    exact front
  · have starts := stops_skipBlanks text
    rw [kept] at starts
    refine { nonempty := nonempty, starts := ?_, ends := ?_ }
    · cases shape : strip text with
      | nil => trivial
      | cons c others =>
          rw [shape] at starts
          exact starts
    · rw [strip, List.reverse_reverse]
      exact stops_skipBlanks _

theorem isIdentifier_of_splitIdentifier? {name : List Char}
    (split : splitIdentifier? text = some (name, rest)) : isIdentifier name = true := by
  cases text with
  | nil => cases split
  | cons c others =>
      rw [splitIdentifier?] at split
      split at split
      · next starts =>
          cases split
          rw [isIdentifier, starts, Bool.true_and, List.all_eq_true]
          exact fun _ inside => List.mem_takeWhile_imp inside
      · cases split

end Text

namespace Reader

theorem isBlank_of_mem_numerals {c : Char} (numeral : c ∈ numerals) :
    Text.isBlank c = false := by
  have visible : numerals.all (fun c => !Text.isBlank c) = true := by decide
  exact (Bool.not_eq_true' _).mp (List.all_eq_true.mp visible c numeral)

/-- No blank goes on with a number. -/
theorem stops_continuesNumber {blanks : List Char} (blank : Text.AllBlank blanks) :
    Text.Stops continuesNumber blanks := by
  cases blanks with
  | nil => trivial
  | cons c blanks =>
      have isBlank := blank c List.mem_cons_self
      show continuesNumber c = false
      rw [Bool.eq_false_iff]
      intro continues
      simp only [continuesNumber, Bool.or_eq_true, beq_iff_eq] at continues
      rcases continues with ((digit | rfl) | rfl) | rfl
      · rw [isBlank_of_mem_numerals (mem_numerals_of_isDigit digit)] at isBlank
        cases isBlank
      · cases isBlank
      · cases isBlank
      · cases isBlank

/-- A document starts with a visible character. -/
theorem stops_isBlank_of_value {depth : Nat} {text rest : List Char} {found : Value}
    (read : value depth text = some (found, rest)) : Text.Stops Text.isBlank text := by
  fun_cases value depth text with
  | case1 | case2 | case3 | case4 | case5 | case6 => rfl
  | case7 =>
      rw [value] at read
      · obtain ⟨c, others, rfl, numeral⟩ := exists_numeral_of_number read
        exact isBlank_of_mem_numerals numeral
      all_goals assumption

end Reader

namespace Discriminator

open Text (AllBlank isIdentifier Trimmed)

/-- The tokens of a condition that documents decide, and the blanks around them. -/
inductive Spelling where
  | defined (before opening field closing after : List Char)
  | equals (before field between opening literal after : List Char)

namespace Spelling

def text : Spelling → List Char
  | .defined before opening field closing after =>
      before ++ ("defined(".toList ++ (opening ++ (field ++ (closing ++ ')' :: after))))
  | .equals before field between opening literal after =>
      before ++ (field ++ (between ++ '=' :: '=' :: (opening ++ (literal ++ after))))

/-- The literal of a comparison is one line with a visible character at each end. -/
inductive WellFormed : Spelling → Prop where
  | defined {before opening field closing after : List Char} (blankBefore : AllBlank before)
      (blankOpening : AllBlank opening) (identifier : isIdentifier field = true)
      (blankClosing : AllBlank closing) (blankAfter : AllBlank after) :
      WellFormed (.defined before opening field closing after)
  | equals {before field between opening literal after : List Char}
      (blankBefore : AllBlank before) (identifier : isIdentifier field = true)
      (blankBetween : AllBlank between) (blankOpening : AllBlank opening)
      (trimmed : Trimmed literal) (oneLine : '\n' ∉ literal) (blankAfter : AllBlank after) :
      WellFormed (.equals before field between opening literal after)

/-- What a spelling asks of a document.  A comparison asks nothing if its literal is no
document. -/
def discriminator? : Spelling → Option Discriminator
  | .defined _ _ field _ _ =>
      some { field := String.ofList field, test := .defined, carried := false }
  | .equals _ field _ _ literal _ =>
      (Value.read? literal).map fun value =>
        { field := String.ofList field, test := .equals value, carried := false }

end Spelling

variable {condition before opening field between closing literal after : List Char}

theorem definedField?_text
    (spelled : (Spelling.defined before opening field closing after).WellFormed) :
    definedField? (Spelling.defined before opening field closing after).text = some field := by
  cases spelled with
  | defined blankBefore blankOpening identifier blankClosing blankAfter =>
      have word := Text.skipBlanks_append blankBefore
        (show Text.Stops Text.isBlank
          ("defined(".toList ++ (opening ++ (field ++ (closing ++ ')' :: after)))) from rfl)
      have token := after?_eq_some_iff.mpr
        (Eq.refl ("defined(".toList ++ (opening ++ (field ++ (closing ++ ')' :: after)))))
      have split := Text.splitIdentifier?_append identifier
        (Text.stops_isIdentifierRest_of_blanks blankClosing
          (show Text.Stops Text.isIdentifierRest (')' :: after) from rfl))
      have bracket := Text.skipBlanks_append blankClosing
        (show Text.Stops Text.isBlank (')' :: after) from rfl)
      rw [definedField?, Spelling.text, word, token]
      simp only [Text.skipBlanks_identifier blankOpening identifier, split, bracket,
        Text.skipBlanks_eq_nil_iff.mpr blankAfter, List.isEmpty_nil, if_true]

theorem exists_defined_of_definedField? (read : definedField? condition = some field) :
    ∃ before opening closing after,
      (Spelling.defined before opening field closing after).WellFormed ∧
      (Spelling.defined before opening field closing after).text = condition := by
  rw [definedField?] at read
  split at read
  · cases read
  · next rest token =>
      rw [after?_eq_some_iff] at token
      split at read
      · cases read
      · next name following split =>
          split at read
          · next last bracket =>
              split at read
              · next ends =>
                  cases read
                  obtain ⟨before, blankBefore, isCondition⟩ := Text.exists_blanks condition
                  obtain ⟨opening, blankOpening, isRest⟩ := Text.exists_blanks rest
                  obtain ⟨closing, blankClosing, isFollowing⟩ := Text.exists_blanks following
                  have identifier := Text.isIdentifier_of_splitIdentifier? split
                  have blankAfter := Text.skipBlanks_eq_nil_iff.mp (List.isEmpty_iff.mp ends)
                  refine ⟨before, opening, closing, last,
                    .defined blankBefore blankOpening identifier blankClosing blankAfter, ?_⟩
                  rw [Spelling.text, ← bracket, ← isFollowing,
                    Text.append_of_splitIdentifier? split, ← isRest, ← token, ← isCondition]
              · cases read
          · cases read

theorem equation?_text
    (spelled : (Spelling.equals before field between opening literal after).WellFormed) :
    equation? (Spelling.equals before field between opening literal after).text =
      some (field, literal) := by
  cases spelled with
  | equals blankBefore identifier blankBetween blankOpening trimmed oneLine blankAfter =>
      have acceptable : (literal.isEmpty || literal.contains '\n') = false := by
        simp [trimmed.nonempty, oneLine]
      rw [Spelling.text, equation?_comparison blankBefore identifier blankBetween,
        Text.strip_trimmed blankOpening trimmed blankAfter, acceptable]
      exact if_neg Bool.false_ne_true

theorem exists_equals_of_equation? (read : equation? condition = some (field, literal)) :
    ∃ before between opening after,
      (Spelling.equals before field between opening literal after).WellFormed ∧
      (Spelling.equals before field between opening literal after).text = condition := by
  rw [equation?] at read
  split at read
  · cases read
  · next name following split =>
      split at read
      · next right sign =>
          simp only at read
          split at read
          · cases read
          · next acceptable =>
              cases read
              simp only [Bool.or_eq_true, List.isEmpty_iff, List.contains_iff_mem,
                not_or] at acceptable
              obtain ⟨before, blankBefore, isCondition⟩ := Text.exists_blanks condition
              obtain ⟨between, blankBetween, isFollowing⟩ := Text.exists_blanks following
              obtain ⟨opening, after, blankOpening, blankAfter, isRight, trimmed⟩ :=
                Text.exists_strip right
              have identifier := Text.isIdentifier_of_splitIdentifier? split
              refine ⟨before, between, opening, after,
                .equals blankBefore identifier blankBetween blankOpening
                  (trimmed acceptable.1) acceptable.2 blankAfter, ?_⟩
              rw [Spelling.text, ← isRight, ← sign, ← isFollowing,
                Text.append_of_splitIdentifier? split, ← isCondition]
      · cases read

/-- A comparison does not ask whether a field is defined. -/
theorem definedField?_text_equals
    (spelled : (Spelling.equals before field between opening literal after).WellFormed) :
    definedField? (Spelling.equals before field between opening literal after).text = none := by
  cases spelled with
  | equals blankBefore identifier blankBetween =>
      exact definedField?_comparison blankBefore identifier blankBetween

/-- The grammar says what every condition asks of a document. -/
theorem ofCondition?_eq_some_iff {condition : String} {discriminator : Discriminator} :
    ofCondition? condition = some discriminator ↔
      ∃ spelling : Spelling, spelling.WellFormed ∧ spelling.text = condition.toList ∧
        spelling.discriminator? = some discriminator := by
  constructor
  · intro read
    rw [ofCondition?] at read
    split at read
    · next field isDefined =>
        obtain ⟨before, opening, closing, after, wellFormed, same⟩ :=
          exists_defined_of_definedField? isDefined
        exact ⟨_, wellFormed, same, read⟩
    · split at read
      · cases read
      · next field literal isEquation =>
          obtain ⟨before, between, opening, after, wellFormed, same⟩ :=
            exists_equals_of_equation? isEquation
          refine ⟨_, wellFormed, same, ?_⟩
          split at read
          · cases read
          · next value isValue =>
              rw [Spelling.discriminator?, isValue]
              exact read
  · rintro ⟨spelling, wellFormed, same, asks⟩
    cases spelling with
    | defined before opening field closing after =>
        rw [ofCondition?, ← same, definedField?_text wellFormed]
        exact asks
    | equals before field between opening literal after =>
        obtain ⟨value, isValue, rfl⟩ := Option.map_eq_some_iff.mp asks
        simp only [ofCondition?, ← same, definedField?_text_equals wellFormed,
          equation?_text wellFormed, isValue]

theorem Spelling.carried_of_discriminator? {spelling : Spelling} {discriminator : Discriminator}
    (asks : spelling.discriminator? = some discriminator) : discriminator.carried = false := by
  cases spelling with
  | defined =>
      cases asks
      rfl
  | equals =>
      obtain ⟨value, -, rfl⟩ := Option.map_eq_some_iff.mp asks
      rfl

/-- A blank run and the identifier after it end where the identifier does. -/
theorem identifier_inj {before field rest otherBefore otherField otherRest : List Char}
    (blankBefore : AllBlank before) (identifier : isIdentifier field = true)
    (stops : Text.Stops Text.isIdentifierRest rest) (blankOther : AllBlank otherBefore)
    (otherIdentifier : isIdentifier otherField = true)
    (otherStops : Text.Stops Text.isIdentifierRest otherRest)
    (same : before ++ (field ++ rest) = otherBefore ++ (otherField ++ otherRest)) :
    before = otherBefore ∧ field = otherField ∧ rest = otherRest := by
  obtain ⟨sameBefore, sameName⟩ := Text.append_inj_of_stops blankBefore
    (Text.stops_isBlank_of_isIdentifier identifier rest) blankOther
    (Text.stops_isBlank_of_isIdentifier otherIdentifier otherRest) same
  obtain ⟨sameField, sameRest⟩ := Text.append_inj_of_stops
    (fun _ => Text.isIdentifierRest_of_mem identifier) stops
    (fun _ => Text.isIdentifierRest_of_mem otherIdentifier) otherStops sameName
  exact ⟨sameBefore, sameField, sameRest⟩

namespace Spelling

variable {before₂ opening₂ field₂ between₂ closing₂ literal₂ after₂ : List Char}

theorem defined_inj (spelled : (defined before opening field closing after).WellFormed)
    (spelled₂ : (defined before₂ opening₂ field₂ closing₂ after₂).WellFormed)
    (same : (defined before opening field closing after).text =
      (defined before₂ opening₂ field₂ closing₂ after₂).text) :
    defined before opening field closing after =
      defined before₂ opening₂ field₂ closing₂ after₂ := by
  cases spelled with
  | defined blankBefore blankOpening identifier blankClosing blankAfter =>
      cases spelled₂ with
      | defined blankBefore₂ blankOpening₂ identifier₂ blankClosing₂ blankAfter₂ =>
          have word : ∀ rest, Text.Stops Text.isBlank ("defined(".toList ++ rest) := fun _ => rfl
          have bracket : ∀ rest, Text.Stops Text.isIdentifierRest (')' :: rest) := fun _ => rfl
          have visible : ∀ rest, Text.Stops Text.isBlank (')' :: rest) := fun _ => rfl
          obtain ⟨rfl, sameToken⟩ :=
            Text.append_inj_of_stops blankBefore (word _) blankBefore₂ (word _) same
          obtain ⟨rfl, rfl, sameBracket⟩ := identifier_inj blankOpening identifier
            (Text.stops_isIdentifierRest_of_blanks blankClosing (bracket after))
            blankOpening₂ identifier₂
            (Text.stops_isIdentifierRest_of_blanks blankClosing₂ (bracket after₂))
            (List.append_cancel_left sameToken)
          obtain ⟨rfl, sameAfter⟩ :=
            Text.append_inj_of_stops blankClosing (visible after) blankClosing₂ (visible after₂)
              sameBracket
          rw [(List.cons.inj sameAfter).2]

theorem equals_inj (spelled : (equals before field between opening literal after).WellFormed)
    (spelled₂ : (equals before₂ field₂ between₂ opening₂ literal₂ after₂).WellFormed)
    (same : (equals before field between opening literal after).text =
      (equals before₂ field₂ between₂ opening₂ literal₂ after₂).text) :
    equals before field between opening literal after =
      equals before₂ field₂ between₂ opening₂ literal₂ after₂ := by
  cases spelled with
  | equals blankBefore identifier blankBetween blankOpening trimmed oneLine blankAfter =>
      cases spelled₂ with
      | equals blankBefore₂ identifier₂ blankBetween₂ blankOpening₂ trimmed₂ oneLine₂
          blankAfter₂ =>
          have sign : ∀ rest, Text.Stops Text.isIdentifierRest ('=' :: '=' :: rest) :=
            fun _ => rfl
          have visible : ∀ rest, Text.Stops Text.isBlank ('=' :: '=' :: rest) := fun _ => rfl
          obtain ⟨rfl, rfl, sameSign⟩ := identifier_inj blankBefore identifier
            (Text.stops_isIdentifierRest_of_blanks blankBetween (sign _))
            blankBefore₂ identifier₂
            (Text.stops_isIdentifierRest_of_blanks blankBetween₂ (sign _)) same
          obtain ⟨rfl, sameRight⟩ :=
            Text.append_inj_of_stops blankBetween (visible _) blankBetween₂ (visible _) sameSign
          obtain ⟨rfl, rfl, rfl⟩ := Text.trimmed_inj blankOpening trimmed blankAfter
            blankOpening₂ trimmed₂ blankAfter₂ (List.cons.inj (List.cons.inj sameRight).2).2
          rfl

theorem defined_text_ne_equals (spelled : (defined before opening field closing after).WellFormed)
    (spelled₂ : (equals before₂ field₂ between₂ opening₂ literal₂ after₂).WellFormed) :
    (defined before opening field closing after).text ≠
      (equals before₂ field₂ between₂ opening₂ literal₂ after₂).text := by
  intro same
  have isDefined := definedField?_text spelled
  rw [same, definedField?_text_equals spelled₂] at isDefined
  cases isDefined

/-- No condition is spelled in two ways. -/
theorem text_inj {left right : Spelling} (leftFormed : left.WellFormed)
    (rightFormed : right.WellFormed) (same : left.text = right.text) : left = right := by
  cases left with
  | defined =>
      cases right with
      | defined => exact defined_inj leftFormed rightFormed same
      | equals => exact absurd same (defined_text_ne_equals leftFormed rightFormed)
  | equals =>
      cases right with
      | defined => exact absurd same.symm (defined_text_ne_equals rightFormed leftFormed)
      | equals => exact equals_inj leftFormed rightFormed same

end Spelling

/-- The two sides of a comparison, whatever is on the right. -/
def equation (before field between right : List Char) : List Char :=
  before ++ (field ++ (between ++ '=' :: '=' :: right))

variable {right tail : List Char} {value : Value}

/-- An accepted literal is a document between blanks. -/
theorem exists_value_of_read? (read : Value.read? literal = some value) :
    ∃ lead text space, AllBlank lead ∧ literal = lead ++ text ∧
      Reader.value Value.nestingLimit text = some (value, space) ∧ AllBlank space := by
  have blankLead : AllBlank (literal.takeWhile Reader.isSpace) := by
    intro c inside
    exact Reader.isBlank_of_isSpace (List.mem_takeWhile_imp inside)
  have split : literal = literal.takeWhile Reader.isSpace ++ Reader.skipSpace literal :=
    List.takeWhile_append_dropWhile.symm
  rw [Value.read?] at read
  split at read
  · cases read
  · next found space isFound =>
      split at read
      · next ends =>
          cases read
          rw [List.isEmpty_iff, Reader.skipSpace, List.dropWhile_eq_nil_iff] at ends
          exact ⟨_, _, space, blankLead, split, isFound,
            fun c inside => Reader.isBlank_of_isSpace (ends c inside)⟩
      · cases read

/-- What follows an accepted literal and does not go on with it is left over. -/
theorem value_skipBlanks_append (blankBefore : AllBlank before)
    (read : Value.read? literal = some value)
    (stops : Text.Stops Reader.continuesNumber tail) :
    ∃ space, AllBlank space ∧
      Reader.value Value.nestingLimit (Text.skipBlanks (before ++ (literal ++ tail))) =
        some (value, space ++ tail) := by
  obtain ⟨lead, text, space, blankLead, rfl, isValue, blankSpace⟩ := exists_value_of_read? read
  have isLocal := Reader.value_local Value.nestingLimit
  have nonempty : text ≠ [] := by
    rintro rfl
    rw [isLocal.nil] at isValue
    cases isValue
  have starts := (Reader.stops_isBlank_of_value isValue).append_of_ne_nil nonempty tail
  have found : Text.skipBlanks (before ++ ((lead ++ text) ++ tail)) = text ++ tail := by
    rw [List.append_assoc, ← List.append_assoc before]
    exact Text.skipBlanks_append (blankBefore.append blankLead) starts
  exact ⟨space, blankSpace, by rw [found, isLocal.append isValue stops]⟩

/-- A comparison whose literal is followed by anything but blanks asks nothing. -/
theorem ofCondition?_of_followed (blankBefore : AllBlank before)
    (identifier : isIdentifier field = true) (blankBetween : AllBlank between)
    (read : Reader.value Value.nestingLimit (Text.skipBlanks right) = some (value, tail))
    (followed : ¬AllBlank tail) :
    ofCondition? (String.ofList (equation before field between right)) = none := by
  refine Option.eq_none_iff_forall_ne_some.mpr fun discriminator asked => followed ?_
  rw [ofCondition?, String.toList_ofList, equation,
    definedField?_comparison blankBefore identifier blankBetween,
    equation?_comparison blankBefore identifier blankBetween] at asked
  by_cases unfit : ((Text.strip right).isEmpty || (Text.strip right).contains '\n') = true
  · rw [if_pos unfit] at asked
    cases asked
  · rw [if_neg unfit] at asked
    cases isValue : Value.read? (Text.strip right) with
    | none =>
        simp only [isValue] at asked
        cases asked
    | some literal =>
        obtain ⟨opening, after, blankOpening, blankAfter, isRight, -⟩ := Text.exists_strip right
        obtain ⟨space, blankSpace, leaves⟩ := value_skipBlanks_append blankOpening isValue
          (Reader.stops_continuesNumber blankAfter)
        rw [← isRight, read] at leaves
        cases leaves
        exact blankSpace.append blankAfter

theorem ofCondition?_of_compound (blankBefore : AllBlank before)
    (identifier : isIdentifier field = true) (blankBetween : AllBlank between)
    (blankOpening : AllBlank opening) (read : Value.read? literal = some value)
    (stops : Text.Stops Reader.continuesNumber tail) (followed : ¬AllBlank tail) :
    ofCondition? (String.ofList
      (equation before field between (opening ++ (literal ++ tail)))) = none := by
  obtain ⟨space, -, leaves⟩ := value_skipBlanks_append blankOpening read stops
  refine ofCondition?_of_followed blankBefore identifier blankBetween leaves fun blank => ?_
  exact followed fun c inside => blank c (List.mem_append_right space inside)

/-- A condition has a discriminator exactly when the grammar spells it, as what it is
spelled to ask.  It is spelled in one way at most, and never carries its field.  Whatever
follows the literal of a comparison, unless it is blank, leaves it to the store. -/
theorem ofCondition?_grammar :
    (∀ (condition : String) (discriminator : Discriminator),
      ofCondition? condition = some discriminator ↔
        ∃ spelling : Spelling, spelling.WellFormed ∧ spelling.text = condition.toList ∧
          spelling.discriminator? = some discriminator) ∧
    (∀ condition : String, ofCondition? condition = none ↔
      ∀ spelling : Spelling, spelling.WellFormed → spelling.text = condition.toList →
        spelling.discriminator? = none) ∧
    (∀ (condition : String) (discriminator : Discriminator),
      ofCondition? condition = some discriminator → discriminator.carried = false) ∧
    (∀ left right : Spelling, left.WellFormed → right.WellFormed →
      left.text = right.text → left = right) ∧
    (∀ (before field between right : List Char) (value : Value) (tail : List Char),
      AllBlank before → isIdentifier field = true → AllBlank between →
      Reader.value Value.nestingLimit (Text.skipBlanks right) = some (value, tail) →
      ¬AllBlank tail →
      ofCondition? (String.ofList (equation before field between right)) = none) ∧
    (∀ (before field between opening literal : List Char) (value : Value) (tail : List Char),
      AllBlank before → isIdentifier field = true → AllBlank between → AllBlank opening →
      Value.read? literal = some value → Text.Stops Reader.continuesNumber tail →
      ¬AllBlank tail →
      ofCondition? (String.ofList
        (equation before field between (opening ++ (literal ++ tail)))) = none) := by
  refine ⟨fun _ _ => ofCondition?_eq_some_iff, ?_, ?_, fun _ _ => Spelling.text_inj, ?_, ?_⟩
  · intro condition
    rw [Option.eq_none_iff_forall_ne_some]
    constructor
    · intro silent spelling wellFormed same
      refine Option.eq_none_iff_forall_ne_some.mpr fun discriminator asks => ?_
      exact silent discriminator
        (ofCondition?_eq_some_iff.mpr ⟨spelling, wellFormed, same, asks⟩)
    · intro silent discriminator asked
      obtain ⟨spelling, wellFormed, same, asks⟩ := ofCondition?_eq_some_iff.mp asked
      rw [silent spelling wellFormed same] at asks
      cases asks
  · intro condition discriminator asked
    obtain ⟨spelling, -, -, asks⟩ := ofCondition?_eq_some_iff.mp asked
    exact spelling.carried_of_discriminator? asks
  · intro before field between right value tail blankBefore identifier blankBetween read followed
    exact ofCondition?_of_followed blankBefore identifier blankBetween read followed
  · intro before field between opening literal value tail blankBefore identifier blankBetween
      blankOpening read stops followed
    exact ofCondition?_of_compound blankBefore identifier blankBetween blankOpening read stops
      followed

/-- The comparison `price==<tab>[null]`, with a no-break space after it. -/
def spelledComparison : Spelling :=
  .equals [] "price".toList [] ['\t'] "[null]".toList ['\u00a0']

theorem ofCondition?_grammar_compound :
    spelledComparison.WellFormed ∧
    ofCondition? "price==\t[null]\u00a0" =
      some { field := "price", test := .equals (.array [.null]), carried := false } ∧
    (∀ other : Spelling, other.WellFormed → other.text = "price==\t[null]\u00a0".toList →
      other = spelledComparison) ∧
    ofCondition? "a == 1 && b == 2" = none ∧
    ofCondition? "a == \"x\" || c" = none := by
  obtain ⟨asks, -, -, unique, followed, compound⟩ := ofCondition?_grammar
  have wellFormed : spelledComparison.WellFormed :=
    .equals (by decide) (by decide) (by decide) (by decide) ⟨by decide, rfl, rfl⟩ (by decide)
      (by decide)
  refine ⟨wellFormed, ?_, ?_, ?_, ?_⟩
  · exact (asks _ _).mpr ⟨spelledComparison, wellFormed, rfl, rfl⟩
  · intro other otherFormed same
    exact unique other spelledComparison otherFormed wellFormed same
  · exact compound [] "a".toList [' '] [' '] "1".toList (.int ⟨1, by decide, by decide⟩)
      " && b == 2".toList (by decide) (by decide) (by decide) (by decide) rfl rfl (by decide)
  · exact followed [] "a".toList [' '] " \"x\" || c".toList (.string "x") " || c".toList
      (by decide) (by decide) (by decide) rfl (by decide)

end Discriminator

end CheckedQuery

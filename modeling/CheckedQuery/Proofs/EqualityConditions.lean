import CheckedQuery.Condition.Discriminator
import CheckedQuery.Projection
import CheckedQuery.Proofs.DocumentText

/-!
# Equality conditions

A condition that compares a field with a printed document is read as exactly that
comparison, with any blanks around its tokens.  Nothing in the document can end the
literal early: its text is one line, and it neither starts nor ends with a blank.
-/

namespace CheckedQuery

namespace Text

/-- A run of blanks, which may be empty. -/
def AllBlank (run : List Char) : Prop :=
  ∀ c ∈ run, isBlank c = true

instance (run : List Char) : Decidable (AllBlank run) :=
  decidable_of_iff (run.all isBlank = true) List.all_eq_true

/-- Identifiers are ASCII. -/
theorem toNat_lt_of_isIdentifierRest {c : Char} (identifier : isIdentifierRest c = true) :
    c.toNat < 128 := by
  simp only [isIdentifierRest, isIdentifierStart, Bool.or_eq_true, beq_iff_eq] at identifier
  rcases identifier with ((letter | rfl) | rfl) | digit
  · have cases : (c.isUpper || c.isLower) = true := letter
    rcases (Bool.or_eq_true ..).mp cases with upper | lower
    · have bounds : 'A'.val ≤ c.val ∧ c.val ≤ 'Z'.val := of_decide_eq_true upper
      exact Nat.lt_of_le_of_lt bounds.2 (by decide)
    · have bounds := (Bool.and_eq_true ..).mp lower
      exact Nat.lt_of_le_of_lt (of_decide_eq_true bounds.2) (by decide)
  · decide
  · decide
  · have bounds := (Bool.and_eq_true ..).mp digit
    exact Nat.lt_of_le_of_lt (of_decide_eq_true bounds.2) (by decide)

/-- No character of an identifier is a blank. -/
theorem isIdentifierRest_of_isBlank {c : Char} (blank : isBlank c = true) :
    isIdentifierRest c = false := by
  have ascii : ∀ code < 128, isBlank (Char.ofNat code) = true →
      isIdentifierRest (Char.ofNat code) = false := by
    decide
  rw [Bool.eq_false_iff]
  intro identifier
  have notIdentifier := ascii c.toNat (toNat_lt_of_isIdentifierRest identifier)
  rw [Char.ofNat_toNat] at notIdentifier
  rw [notIdentifier blank] at identifier
  cases identifier

variable {before after text : List Char}

theorem stops_isBlank_of_isIdentifier (identifier : isIdentifier text = true)
    (rest : List Char) : Stops isBlank (text ++ rest) := by
  obtain ⟨c, others, rfl, starts, -⟩ := isIdentifier_cases identifier
  have goesOn : isIdentifierRest c = true := by simp [isIdentifierRest, starts]
  show isBlank c = false
  rw [Bool.eq_false_iff]
  intro blank
  rw [isIdentifierRest_of_isBlank blank] at goesOn
  cases goesOn

theorem stops_isIdentifierRest_of_blanks (blank : AllBlank before)
    (stops : Stops isIdentifierRest text) : Stops isIdentifierRest (before ++ text) := by
  cases before with
  | nil => exact stops
  | cons c before => exact isIdentifierRest_of_isBlank (blank c List.mem_cons_self)

theorem skipBlanks_append (blank : AllBlank before) (stops : Stops isBlank text) :
    skipBlanks (before ++ text) = text :=
  dropWhile_append_of_stops blank stops

theorem skipBlanks_identifier (blank : AllBlank before) (identifier : isIdentifier text = true)
    (rest : List Char) : skipBlanks (before ++ (text ++ rest)) = text ++ rest :=
  skipBlanks_append blank (stops_isBlank_of_isIdentifier identifier rest)

/-- Blanks at both ends go, and nothing else. -/
theorem strip_append {front : List Char} {last : Char} (blankBefore : AllBlank before)
    (blankAfter : AllBlank after) (starts : Stops isBlank text) (ends : text = front ++ [last])
    (visible : isBlank last = false) : strip (before ++ (text ++ after)) = text := by
  have nonempty : text ≠ [] := by
    intro isNil
    rw [isNil] at ends
    simp at ends
  have blankReverse : AllBlank after.reverse := by
    intro c inside
    exact blankAfter c (List.mem_reverse.mp inside)
  have endsReverse : Stops isBlank text.reverse := by
    rw [ends, List.reverse_append]
    exact visible
  rw [strip, skipBlanks_append blankBefore (starts.append_of_ne_nil nonempty after),
    List.reverse_append, skipBlanks_append blankReverse endsReverse, List.reverse_reverse]

end Text

namespace Discriminator

theorem after?_eq_some_iff {token text rest : List Char} :
    after? token text = some rest ↔ text = token ++ rest := by
  induction token generalizing text with
  | nil => simp [after?]
  | cons expected token induction =>
      cases text with
      | nil => simp [after?]
      | cons c text =>
          rw [after?]
          split
          · next same => simp [induction, same]
          · next other => simp [Ne.symm other]

variable {before field between rest : List Char}

/-- No comparison is a `defined` condition, whatever its field is called. -/
theorem definedField?_comparison (blankBefore : Text.AllBlank before)
    (identifier : Text.isIdentifier field = true) (blankBetween : Text.AllBlank between) :
    definedField? (before ++ (field ++ (between ++ '=' :: '=' :: rest))) = none := by
  have skipped := Text.skipBlanks_identifier blankBefore identifier (between ++ '=' :: '=' :: rest)
  have noToken : after? "defined(".toList (field ++ (between ++ '=' :: '=' :: rest)) = none := by
    rw [Option.eq_none_iff_forall_ne_some]
    intro others found
    rw [after?_eq_some_iff] at found
    have ends : Text.Stops Text.isIdentifierRest (between ++ '=' :: '=' :: rest) :=
      Text.stops_isIdentifierRest_of_blanks blankBetween rfl
    have word : "defined".toList.all Text.isIdentifierRest = true := by decide
    have bracket : Text.Stops Text.isIdentifierRest ('(' :: others) := rfl
    obtain ⟨-, sameRest⟩ := Text.append_inj_of_stops
      (fun c => Text.isIdentifierRest_of_mem identifier) ends (List.all_eq_true.mp word)
      bracket found
    cases between with
    | nil => cases sameRest
    | cons c between =>
        have blank := blankBetween c List.mem_cons_self
        rw [(List.cons.inj sameRest).1] at blank
        cases blank
  rw [definedField?, skipped, noToken]

theorem equation?_comparison (blankBefore : Text.AllBlank before)
    (identifier : Text.isIdentifier field = true) (blankBetween : Text.AllBlank between) :
    equation? (before ++ (field ++ (between ++ '=' :: '=' :: rest))) =
      if (Text.strip rest).isEmpty || (Text.strip rest).contains '\n' then none
      else some (field, Text.strip rest) := by
  have skipped := Text.skipBlanks_identifier blankBefore identifier (between ++ '=' :: '=' :: rest)
  have split := Text.splitIdentifier?_append identifier
    (Text.stops_isIdentifierRest_of_blanks blankBetween
      (show Text.Stops Text.isIdentifierRest ('=' :: '=' :: rest) from rfl))
  have sign : Text.skipBlanks (between ++ '=' :: '=' :: rest) = '=' :: '=' :: rest :=
    Text.skipBlanks_append blankBetween rfl
  simp only [equation?, skipped, split, sign]

/-- A comparison with blanks around its tokens. -/
def comparison (before field between afterSign : String) (literal : Value) (after : String) :
    String :=
  before ++ field ++ between ++ "==" ++ afterSign ++ literal.print ++ after

theorem ofCondition?_of_readable {before field between afterSign after : String}
    {literal : Value} (identifier : Text.isIdentifier field.toList = true)
    (floatless : literal.Floatless) (fits : literal.nesting ≤ Value.nestingLimit)
    (blankBefore : Text.AllBlank before.toList) (blankBetween : Text.AllBlank between.toList)
    (blankAfterSign : Text.AllBlank afterSign.toList) (blankAfter : Text.AllBlank after.toList) :
    ofCondition? (comparison before field between afterSign literal after) =
      some { field := field, test := .equals literal, carried := false } := by
  have characters : (comparison before field between afterSign literal after).toList =
      before.toList ++ (field.toList ++ (between.toList ++
        '=' :: '=' :: (afterSign.toList ++ (literal.text ++ after.toList)))) := by
    simp [comparison, Value.print]
  have back := Value.readsBack floatless fits
  obtain ⟨front, last, ends, visible⟩ := Value.exists_text_eq floatless
  have stripped : Text.strip (afterSign.toList ++ (literal.text ++ after.toList)) = literal.text :=
    Text.strip_append blankAfterSign blankAfter (Value.stops_isBlank_text back) ends visible
  have nonempty : literal.text.isEmpty = false := by
    rw [ends]
    simp
  have oneLine : literal.text.contains '\n' = false := by
    have absent := Value.newline_notMem_text floatless
    simpa using absent
  rw [ofCondition?, characters, definedField?_comparison blankBefore identifier blankBetween,
    equation?_comparison blankBefore identifier blankBetween, stripped, nonempty, oneLine]
  simp only [Bool.or_self, Bool.false_eq_true, if_false, Value.read?_text floatless fits,
    String.ofList_toList]

theorem typeCondition_eq (typeName : String) :
    ConditionalGroup.typeCondition typeName =
      comparison "" "_type" " " " " (.string typeName) "" := by
  apply String.toList_inj.mp
  simp [ConditionalGroup.typeCondition, comparison, Text.quote, Value.print, Value.text]

/-- Comparisons are read as they are written, and so is every branch for a document
type. -/
theorem ofCondition?_comparison :
    (∀ (before field between afterSign : String) (literal : Value) (after : String),
      Text.isIdentifier field.toList = true → literal.Floatless →
      literal.nesting ≤ Value.nestingLimit →
      Text.AllBlank before.toList → Text.AllBlank between.toList →
      Text.AllBlank afterSign.toList → Text.AllBlank after.toList →
      ofCondition? (comparison before field between afterSign literal after) =
        some { field := field, test := .equals literal, carried := false }) ∧
    (∀ (typeName : String) (projection : Projection) (group : ConditionalGroup),
      ∃ condition,
        (group.typeBranch typeName projection).branches =
          group.branches ++ [(condition, projection)] ∧
        ofCondition? condition =
          some { field := "_type", test := .equals (.string typeName), carried := false }) := by
  constructor
  · intro before field between afterSign literal after identifier floatless fits
      blankBefore blankBetween blankAfterSign blankAfter
    exact ofCondition?_of_readable identifier floatless fits blankBefore blankBetween
      blankAfterSign blankAfter
  · intro typeName projection group
    refine ⟨ConditionalGroup.typeCondition typeName, ?_, ?_⟩
    · cases group
      rfl
    · have blank : Text.AllBlank " ".toList := by decide
      have none : Text.AllBlank "".toList := by decide
      rw [typeCondition_eq]
      exact ofCondition?_of_readable (by decide) (.string typeName) (Nat.zero_le _) none blank
        blank none

/-- A list of an object whose member looks like the end of a condition. -/
def nestedLiteral : Value :=
  .array [.object (.cons "a\"b" (.first _) (.string " == \n") .nil), .null]

theorem ofCondition?_comparison_nested :
    (Text.isIdentifier "$price_2".toList = true ∧ nestedLiteral.Floatless ∧
      nestedLiteral.nesting ≤ Value.nestingLimit ∧
      Text.AllBlank "\n ".toList ∧ Text.AllBlank "".toList ∧ Text.AllBlank "\t".toList ∧
      Text.AllBlank "\u00a0".toList) ∧
    ofCondition? (comparison "\n " "$price_2" "" "\t" nestedLiteral "\u00a0") =
      some { field := "$price_2", test := .equals nestedLiteral, carried := false } ∧
    ∃ condition,
      ((ConditionalGroup.select "kind").typeBranch "a\" == \n" .empty).branches =
        [(condition, .empty)] ∧
      ofCondition? condition =
        some { field := "_type", test := .equals (.string "a\" == \n"), carried := false } := by
  have floatless : nestedLiteral.Floatless := by
    apply Value.Floatless.array
    intro item inside
    rcases List.mem_cons.mp inside with rfl | later
    · apply Value.Floatless.object
      intro member isMember
      rw [List.mem_singleton.mp isMember]
      exact .string _
    · rw [List.mem_singleton.mp later]
      exact .null
  have fits : nestedLiteral.nesting ≤ Value.nestingLimit := by decide
  refine ⟨⟨by decide, floatless, fits, by decide, by decide, by decide, by decide⟩, ?_, ?_⟩
  · exact ofCondition?_comparison.1 "\n " "$price_2" "" "\t" nestedLiteral "\u00a0" (by decide)
      floatless fits (by decide) (by decide) (by decide) (by decide)
  · exact ofCondition?_comparison.2 "a\" == \n" .empty (.select "kind")

end Discriminator

end CheckedQuery

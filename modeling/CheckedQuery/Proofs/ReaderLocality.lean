import CheckedQuery.Proofs.DocumentText

/-!
# What follows a document

A document that is read from the front of a text is read from the front of every longer
text, and leaves the rest as it is.  Only a number has no end of its own: what follows it
must not go on with it.
-/

namespace CheckedQuery

namespace Text

section Runs

variable {holds : Char → Bool} {tail : List Char}

theorem takeWhile_append_tail (text : List Char) (stops : Stops holds tail) :
    (text ++ tail).takeWhile holds = text.takeWhile holds := by
  induction text with
  | nil =>
      cases tail with
      | nil => rfl
      | cons c tail => exact List.takeWhile_cons_of_neg (by simpa [Stops] using stops)
  | cons c text induction =>
      rw [List.cons_append, List.takeWhile_cons, List.takeWhile_cons, induction]

theorem dropWhile_append_tail (text : List Char) (stops : Stops holds tail) :
    (text ++ tail).dropWhile holds = text.dropWhile holds ++ tail := by
  induction text with
  | nil =>
      cases tail with
      | nil => rfl
      | cons c tail => exact List.dropWhile_cons_of_neg (by simpa [Stops] using stops)
  | cons c text induction =>
      rw [List.cons_append, List.dropWhile_cons, List.dropWhile_cons, induction]
      split
      · rfl
      · rfl

end Runs

/-- A closing quote ends quoted text, whatever follows it. -/
theorem unquote?_append {text content rest : List Char}
    (read : unquote? text = some (content, rest)) (tail : List Char) :
    unquote? (text ++ tail) = some (content, rest ++ tail) := by
  fun_induction unquote? text generalizing content rest with
  | case1 after =>
      cases read
      exact unquote?.eq_1 (after ++ tail)
  | case2 | case3 | case5 | case6 | case7 | case9 | case11 | case13 => cases read
  | case4 a b c d high isHigh highUnit e f g h after low isLow lowUnit induction =>
      obtain ⟨⟨text, after⟩, inner, same⟩ := Option.map_eq_some_iff.mp read
      cases same
      simp [unquote?, isHigh, highUnit, isLow, lowUnit, induction inner]
  | case8 a b c d after unit isUnit notHigh notLow induction =>
      obtain ⟨⟨text, after⟩, inner, same⟩ := Option.map_eq_some_iff.mp read
      cases same
      simp [unquote?, isUnit, notHigh, notLow, induction inner]
  | case10 c after notCode plain stands induction =>
      obtain ⟨⟨text, after⟩, inner, same⟩ := Option.map_eq_some_iff.mp read
      cases same
      rw [List.cons_append, List.cons_append, unquote?_letter stands, induction inner]
      rfl
  | case12 c after notQuote notCode notLetter readable induction =>
      obtain ⟨⟨text, after⟩, inner, same⟩ := Option.map_eq_some_iff.mp read
      cases same
      rw [not_or, Nat.not_lt] at readable
      rw [List.cons_append, unquote?_plain notQuote readable.1 readable.2, induction inner]
      rfl

end Text

namespace Reader

/-- A reader that needs a first character, and takes the same from a longer text, if that
does not go on with a number. -/
structure Local {α : Type} (item : Reader α) : Prop where
  nil : item [] = none
  append : ∀ {text : List Char} {x : α} {rest tail : List Char},
    item text = some (x, rest) → Text.Stops continuesNumber tail →
      item (text ++ tail) = some (x, rest ++ tail)

section Lists

variable {α : Type} {item : Reader α} {close : Char} {text rest tail : List Char}

theorem skipSpace_append {c : Char} (visible : skipSpace text = c :: rest)
    (tail : List Char) : skipSpace (text ++ tail) = c :: (rest ++ tail) := by
  rw [skipSpace] at visible
  rw [skipSpace, List.dropWhile_append, visible]
  rfl

theorem Local.append_skipSpace (isLocal : Local item) {x : α}
    (read : item (skipSpace text) = some (x, rest)) (stops : Text.Stops continuesNumber tail) :
    item (skipSpace (text ++ tail)) = some (x, rest ++ tail) := by
  cases visible : skipSpace text with
  | nil =>
      rw [visible, isLocal.nil] at read
      cases read
  | cons c others =>
      rw [visible] at read
      rw [skipSpace_append visible, ← List.cons_append]
      exact isLocal.append read stops

theorem separated_append (isLocal : Local item) {count longer : Nat} {items : List α}
    (read : separated item close count text = some (items, rest)) (enough : count ≤ longer)
    (stops : Text.Stops continuesNumber tail) :
    separated item close longer (text ++ tail) = some (items, rest ++ tail) := by
  fun_induction separated item close count text generalizing longer items rest with
  | case1 | case2 | case3 | case6 => cases read
  | case4 count text first middle isFirst after ends =>
      cases read
      obtain ⟨others, rfl⟩ := Nat.exists_eq_add_of_le' (Nat.le_trans (Nat.succ_pos count) enough)
      simp only [separated, isLocal.append_skipSpace isFirst stops, skipSpace_append ends, if_true]
  | case5 count text first middle isFirst after comma notClose induction =>
      obtain ⟨⟨others, last⟩, inner, same⟩ := Option.map_eq_some_iff.mp read
      cases same
      obtain ⟨more, rfl⟩ := Nat.exists_eq_add_of_le' (Nat.le_trans (Nat.succ_pos count) enough)
      have later := induction inner (Nat.le_of_succ_le_succ enough)
      simp only [separated, isLocal.append_skipSpace isFirst stops, skipSpace_append comma,
        if_neg notClose, if_true, later, Option.map_some]

theorem enclosed_local (isLocal : Local item) : Local (enclosed item close) where
  nil := rfl
  append := by
    intro text items rest tail read stops
    rw [enclosed] at read ⊢
    cases visible : skipSpace text with
    | nil =>
        rw [visible] at read
        cases read
    | cons c others =>
        rw [skipSpace_append visible]
        simp only [visible] at read ⊢
        by_cases closes : c = close
        · rw [if_pos closes] at read ⊢
          cases read
          rfl
        · rw [if_neg closes] at read ⊢
          rw [← List.cons_append]
          exact separated_append isLocal read (by simp) stops

theorem keyed_eq_some_iff {key : String} {value : α} :
    keyed item text = some ((key, value), rest) ↔
      ∃ quoted content after last, text = '"' :: quoted ∧
        Text.unquote? quoted = some (content, after) ∧ skipSpace after = ':' :: last ∧
        item (skipSpace last) = some (value, rest) ∧ String.ofList content = key := by
  constructor
  · intro read
    rw [keyed.eq_def] at read
    split at read
    · next quoted =>
        split at read
        · cases read
        · next content after isKey =>
            split at read
            · next last sign =>
                obtain ⟨⟨found, others⟩, isValue, same⟩ := Option.map_eq_some_iff.mp read
                cases same
                exact ⟨quoted, content, after, last, rfl, isKey, sign, isValue, rfl⟩
            · cases read
    · cases read
  · rintro ⟨quoted, content, after, last, rfl, isKey, sign, isValue, rfl⟩
    simp only [keyed, isKey, sign, isValue, Option.map_some]

theorem keyed_local (isLocal : Local item) : Local (keyed item) where
  nil := rfl
  append := by
    rintro text ⟨key, value⟩ rest tail read stops
    obtain ⟨quoted, content, after, last, rfl, isKey, sign, isValue, isName⟩ :=
      keyed_eq_some_iff.mp read
    exact keyed_eq_some_iff.mpr
      ⟨quoted ++ tail, content, after ++ tail, last ++ tail, rfl, Text.unquote?_append isKey tail,
        skipSpace_append sign tail, isLocal.append_skipSpace isValue stops, isName⟩

end Lists

section Numbers

variable {text rest tail : List Char}

theorem splitDigits_append (text : List Char) (stops : Text.Stops continuesNumber tail) :
    splitDigits (text ++ tail) = ((splitDigits text).1, (splitDigits text).2 ++ tail) := by
  have digits := stops_isDigit stops
  rw [splitDigits, Text.takeWhile_append_tail text digits, Text.dropWhile_append_tail text digits]
  rfl

theorem startsFraction_append (text : List Char) (stops : Text.Stops continuesNumber tail) :
    startsFraction (text ++ tail) = startsFraction text := by
  cases text with
  | nil => exact startsFraction_eq_false stops
  | cons c text => rfl

theorem fraction_of_no_point {significand : Nat} {start : Int}
    (noPoint : ∀ digits, text ≠ '.' :: digits) :
    fraction significand start text = some ((significand, start), text) := by
  rw [fraction]
  exact noPoint

theorem fraction_append {significand : Nat} {start : Int} {found : Nat × Int}
    (read : fraction significand start text = some (found, rest))
    (stops : Text.Stops continuesNumber tail) :
    fraction significand start (text ++ tail) = some (found, rest ++ tail) := by
  fun_cases fraction significand start text with
  | case1 digits run after isRun none =>
      simp [fraction, isRun, none] at read
  | case2 digits run after isRun some gathered left isGathered =>
      simp only [fraction, isRun, if_neg some, isGathered] at read
      cases read
      simp only [List.cons_append, fraction, splitDigits_append digits stops, isRun, if_neg some,
        isGathered]
  | case3 text noPoint =>
      rw [fraction_of_no_point noPoint] at read
      cases read
      refine fraction_of_no_point fun digits same => ?_
      cases text with
      | nil =>
          have point : Text.Stops continuesNumber ('.' :: digits) := same ▸ stops
          cases point
      | cons c text => exact noPoint text (by rw [(List.cons.inj same).1])

/-- The sign of an exponent, which is positive if there is none. -/
def exponentSign : List Char → Bool × List Char
  | '+' :: rest => (false, rest)
  | '-' :: rest => (true, rest)
  | rest => (false, rest)

theorem exponentSign_append (nonempty : text ≠ []) (tail : List Char) :
    exponentSign (text ++ tail) = ((exponentSign text).1, (exponentSign text).2 ++ tail) := by
  fun_cases exponentSign text with
  | case1 | case2 => rfl
  | case3 text notPlus notMinus =>
      cases text with
      | nil => exact absurd rfl nonempty
      | cons c text =>
          have plus : c ≠ '+' := fun same => notPlus text (by rw [same])
          have minus : c ≠ '-' := fun same => notMinus text (by rw [same])
          simp [exponentSign, plus, minus]

theorem exponent_cons (start : Int) (c : Char) (text : List Char) :
    exponent start (c :: text) =
      if c = 'e' ∨ c = 'E' then
        let (digits, rest) := splitDigits (exponentSign text).2
        if digits.isEmpty then none
        else
          let size : Int := Number.digitsValue 0 digits
          some (if (exponentSign text).1 then start - size else start + size, rest)
      else some (start, c :: text) := by
  rw [exponent.eq_def]
  rfl

theorem exponent_append {start power : Int}
    (read : exponent start text = some (power, rest))
    (stops : Text.Stops continuesNumber tail) :
    exponent start (text ++ tail) = some (power, rest ++ tail) := by
  cases text with
  | nil =>
      cases read
      cases tail with
      | nil => rfl
      | cons c tail =>
          have ends : continuesNumber c = false := stops
          simp only [continuesNumber, Bool.or_eq_false_iff, beq_eq_false_iff_ne] at ends
          rw [List.nil_append, exponent_cons, if_neg (not_or.mpr ⟨ends.1.2, ends.2⟩)]
  | cons c others =>
      rw [exponent_cons] at read
      rw [List.cons_append, exponent_cons]
      split at read
      · next mark =>
          cases others with
          | nil => cases read
          | cons d more =>
              rw [if_pos mark, exponentSign_append (List.cons_ne_nil d more)]
              simp only [splitDigits_append _ stops]
              simp only at read
              split at read
              · cases read
              · next some =>
                  rw [if_neg some]
                  cases read
                  rfl
      · next noMark =>
          cases read
          exact if_neg noMark

theorem unsigned_append {negative : Bool} {value : Value}
    (read : unsigned negative text = some (value, rest))
    (stops : Text.Stops continuesNumber tail) :
    unsigned negative (text ++ tail) = some (value, rest ++ tail) := by
  rw [unsigned.eq_def] at read ⊢
  rw [splitDigits_append text stops]
  generalize splitDigits text = run at read ⊢
  obtain ⟨digits, after⟩ := run
  simp only at read ⊢
  split at read
  · cases read
  · cases read
  · simp only [startsFraction_append after stops]
    split at read
    · next whole =>
        obtain ⟨found, isFound, same⟩ := Option.map_eq_some_iff.mp read
        cases same
        rw [if_pos whole, isFound]
        rfl
    · next notWhole =>
        rw [if_neg notWhole]
        split at read
        · cases read
        · next isFraction =>
            rw [fraction_append isFraction stops]
            simp only
            split at read
            · cases read
            · next isExponent =>
                rw [exponent_append isExponent stops]
                simp only
                split at read
                · cases read
                · next isMagnitude =>
                    obtain ⟨found, isFound, same⟩ := Option.map_eq_some_iff.mp read
                    cases same
                    rw [isFound]
                    rfl

theorem number_of_no_sign (noSign : ∀ digits, text ≠ '-' :: digits) :
    number text = unsigned false text := by
  rw [number]
  exact noSign

theorem number_local : Local number where
  nil := rfl
  append := by
    intro text value rest tail read stops
    fun_cases number text with
    | case1 digits => exact unsigned_append read stops
    | case2 text noSign =>
        rw [number_of_no_sign noSign] at read
        cases text with
        | nil => cases read
        | cons c others =>
            rw [number_of_no_sign]
            · exact unsigned_append read stops
            · exact fun digits same => noSign others (by rw [(List.cons.inj same).1])

theorem exists_numeral_of_number {value : Value} (read : number text = some (value, rest)) :
    ∃ c others, text = c :: others ∧ c ∈ numerals := by
  fun_cases number text with
  | case1 digits => exact ⟨'-', digits, rfl, by decide⟩
  | case2 text noSign =>
      rw [number_of_no_sign noSign, unsigned] at read
      cases text with
      | nil => cases read
      | cons c others =>
          refine ⟨c, others, rfl, ?_⟩
          cases digit : c.isDigit with
          | true => exact mem_numerals_of_isDigit digit
          | false =>
              rw [splitDigits, List.takeWhile_cons, digit] at read
              cases read

end Numbers

/-- Documents are read by their own characters and, after a number, one more. -/
theorem value_local (depth : Nat) : Local (value depth) where
  nil := by cases depth <;> rfl
  append := by
    intro text found rest tail read stops
    fun_cases value depth text with
    | case1 others | case2 others | case3 others =>
        rw [value] at read
        cases read
        exact value.eq_def ..
    | case4 others =>
        rw [value] at read
        obtain ⟨⟨content, after⟩, isContent, same⟩ := Option.map_eq_some_iff.mp read
        cases same
        rw [List.cons_append, value, Text.unquote?_append isContent tail]
        rfl
    | case5 depth others =>
        rw [value] at read
        obtain ⟨⟨items, after⟩, isItems, same⟩ := Option.map_eq_some_iff.mp read
        cases same
        rw [List.cons_append, value, (enclosed_local (value_local depth)).append isItems stops]
        rfl
    | case6 depth others =>
        rw [value] at read
        obtain ⟨⟨members, after⟩, isMembers, same⟩ := Option.map_eq_some_iff.mp read
        cases same
        rw [List.cons_append, value,
          (enclosed_local (keyed_local (value_local depth))).append isMembers stops]
        rfl
    | case7 text notNull notTrue notFalse notText notArray notObject =>
        rw [value] at read
        · obtain ⟨c, others, rfl, numeral⟩ := exists_numeral_of_number read
          rw [List.cons_append, value_of_numeral depth numeral]
          exact number_local.append read stops
        all_goals assumption

end Reader

end CheckedQuery

import CheckedQuery.Text.Quoted

/-!
# Quoted text reads back

Whatever a text contains, reading its quoted form stops exactly at the closing quote and
gives the text again.  So quoted text delimits itself in front of any other text, and it
never breaks a line.
-/

namespace CheckedQuery.Text

/-- A character is escaped by a letter, by its code, or not at all. -/
theorem escape_cases (c : Char) :
    (∃ letter, unescape? letter = some c ∧ escape c = ['\\', letter]) ∨
    (c.toNat < 32 ∧ escape c =
      ['\\', 'u', '0', '0', hexDigit (c.toNat / 16), hexDigit (c.toNat % 16)]) ∨
    (c ≠ '"' ∧ c ≠ '\\' ∧ 32 ≤ c.toNat ∧ escape c = [c]) := by
  unfold escape
  split
  · next isQuote => exact .inl ⟨'"', by rw [isQuote]; rfl, rfl⟩
  · next notQuote =>
      split
      · next isBackslash => exact .inl ⟨'\\', by rw [isBackslash]; rfl, rfl⟩
      · next notBackslash =>
          split
          · next same => exact .inl ⟨'b', same ▸ rfl, rfl⟩
          split
          · next same => exact .inl ⟨'f', same ▸ rfl, rfl⟩
          split
          · next same => exact .inl ⟨'n', same ▸ rfl, rfl⟩
          split
          · next same => exact .inl ⟨'r', same ▸ rfl, rfl⟩
          split
          · next same => exact .inl ⟨'t', same ▸ rfl, rfl⟩
          split
          · next control => exact .inr (.inl ⟨control, rfl⟩)
          · next printable =>
              exact .inr (.inr ⟨notQuote, notBackslash, Nat.not_lt.mp printable, rfl⟩)

/-- The four digits of a control character stand for its code. -/
theorem codeUnit?_hexDigits :
    ∀ code < 32, codeUnit? '0' '0' (hexDigit (code / 16)) (hexDigit (code % 16)) = some code := by
  decide

theorem unquote?_letter {letter plain : Char} (stands : unescape? letter = some plain)
    (rest : List Char) :
    unquote? ('\\' :: letter :: rest) =
      (unquote? rest).map fun (text, rest) => (plain :: text, rest) := by
  have notCode : letter ≠ 'u' := by
    rintro rfl
    cases stands
  rw [unquote?, stands]
  intro _ _ _ _ _ isCode
  exact absurd isCode notCode

theorem unquote?_code {code : Nat} (control : code < 32) (rest : List Char) :
    unquote? ('\\' :: 'u' :: '0' :: '0' :: hexDigit (code / 16) :: hexDigit (code % 16) :: rest) =
      (unquote? rest).map fun (text, rest) => (Char.ofNat code :: text, rest) := by
  have notHigh : ¬isHighSurrogate code = true := by
    simp only [isHighSurrogate, Bool.and_eq_true, decide_eq_true_eq]
    omega
  have notLow : ¬isLowSurrogate code = true := by
    simp only [isLowSurrogate, Bool.and_eq_true, decide_eq_true_eq]
    omega
  rw [unquote?, codeUnit?_hexDigits code control]
  simp only [notHigh, notLow, Bool.false_eq_true, if_false]

theorem unquote?_plain {c : Char} (notQuote : c ≠ '"') (notBackslash : c ≠ '\\')
    (printable : 32 ≤ c.toNat) (rest : List Char) :
    unquote? (c :: rest) = (unquote? rest).map fun (text, rest) => (c :: text, rest) := by
  have readable : ¬(c = '\\' ∨ c.toNat < 32) := by
    rintro (isBackslash | control)
    · exact notBackslash isBackslash
    · omega
  rw [unquote?, if_neg readable]
  · exact notQuote
  · intro _ _ _ _ _ isBackslash
    exact absurd isBackslash notBackslash
  · intro _ _ isBackslash
    exact absurd isBackslash notBackslash

/-- One escaped character reads as itself. -/
theorem unquote?_escape (c : Char) (rest : List Char) :
    unquote? (escape c ++ rest) =
      (unquote? rest).map fun (text, rest) => (c :: text, rest) := by
  rcases escape_cases c with
    ⟨letter, stands, escaped⟩ | ⟨control, escaped⟩ |
      ⟨notQuote, notBackslash, printable, escaped⟩
  · rw [escaped]
    exact unquote?_letter stands rest
  · rw [escaped]
    refine (unquote?_code control rest).trans ?_
    rw [Char.ofNat_toNat]
  · rw [escaped]
    exact unquote?_plain notQuote notBackslash printable rest

theorem unquote?_escaped (text rest : List Char) :
    unquote? (escaped text ++ '"' :: rest) = some (text, rest) := by
  induction text with
  | nil => exact unquote?.eq_1 rest
  | cons c text induction =>
      rw [escaped, List.append_assoc, unquote?_escape, induction]
      rfl

theorem newline_notMem_escape (c : Char) : '\n' ∉ escape c := by
  have digits : ∀ digit < 16, hexDigit digit ≠ '\n' := by decide
  rcases escape_cases c with
    ⟨letter, stands, escaped⟩ | ⟨control, escaped⟩ | ⟨-, -, printable, escaped⟩
  · have other : letter ≠ '\n' := by
      rintro rfl
      cases stands
    simp [escaped, other.symm]
  · have high := digits (c.toNat / 16) (by omega)
    have low := digits (c.toNat % 16) (by omega)
    simp [escaped, high.symm, low.symm]
  · have other : c ≠ '\n' := by
      rintro rfl
      exact absurd printable (by decide)
    simp [escaped, other.symm]

/-- Quoted text stays on its line. -/
theorem newline_notMem_quoted (text : List Char) : '\n' ∉ quoted text := by
  have inside : '\n' ∉ escaped text := by
    induction text with
    | nil => exact List.not_mem_nil
    | cons c text induction =>
        rw [escaped, List.mem_append]
        rintro (here | later)
        · exact newline_notMem_escape c here
        · exact induction later
  simp [quoted, inside]

end CheckedQuery.Text

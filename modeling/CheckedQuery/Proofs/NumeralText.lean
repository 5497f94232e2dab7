import CheckedQuery.Json.Printer
import CheckedQuery.Json.Reader
import CheckedQuery.Proofs.TextRuns

/-!
# Numerals read back

A whole number of 64 bits is printed without a leading zero and without a point, and
reads back as itself wherever neither a digit nor a fraction follows.
-/

namespace CheckedQuery

namespace Number

theorem digitsValue_cons (start : Nat) (digit : Char) (digits : List Char) :
    digitsValue start (digit :: digits) =
      digitsValue (start * 10 + (digit.toNat - 48)) digits :=
  List.foldl_cons ..

theorem le_digitsValue (start : Nat) (digits : List Char) : start ≤ digitsValue start digits := by
  induction digits generalizing start with
  | nil => exact Nat.le_refl start
  | cons digit digits induction =>
      rw [digitsValue_cons]
      have later := induction (start * 10 + (digit.toNat - 48))
      omega

/-- Digits that fit are all gathered. -/
theorem gather_eq_of_fits {start : Nat} {digits : List Char}
    (fits : digitsValue start digits < 18446744073709551616) :
    gather start digits = (digitsValue start digits, []) := by
  induction digits generalizing start with
  | nil => rfl
  | cons digit digits induction =>
      rw [digitsValue_cons] at fits ⊢
      have next := le_digitsValue (start * 10 + (digit.toNat - 48)) digits
      simp only [gather, if_pos (Nat.lt_of_le_of_lt next fits)]
      exact induction fits

/-- Only zero itself starts with a zero. -/
theorem eq_nil_of_toDigits_eq_zero_cons {n : Nat} {rest : List Char}
    (digits : Nat.toDigits 10 n = '0' :: rest) : rest = [] := by
  induction n using Nat.strongRecOn generalizing rest with
  | ind n induction =>
      by_cases small : n < 10
      · rw [Nat.toDigits_of_lt_base small] at digits
        exact (List.cons.inj digits).2.symm
      · rw [Nat.toDigits_of_base_le (by decide) (by omega)] at digits
        cases leading : Nat.toDigits 10 (n / 10) with
        | nil => exact absurd leading Nat.toDigits_ne_nil
        | cons first others =>
            rw [leading, List.cons_append, List.cons.injEq] at digits
            rw [digits.1] at leading
            have alone := induction (n / 10) (by omega) leading
            have value := digitsValue_toDigits (n / 10)
            rw [leading, alone] at value
            have isZero : n / 10 = 0 := value.symm
            omega

end Number

namespace Reader

/-- Whether a character could go on with a number. -/
def continuesNumber (c : Char) : Bool :=
  c.isDigit || c == '.' || c == 'e' || c == 'E'

variable {rest : List Char}

theorem stops_isDigit (stops : Text.Stops continuesNumber rest) :
    Text.Stops Char.isDigit rest := by
  cases rest with
  | nil => trivial
  | cons c rest =>
      have ends : continuesNumber c = false := stops
      simp only [continuesNumber, Bool.or_eq_false_iff] at ends
      exact ends.1.1.1

theorem startsFraction_eq_false (stops : Text.Stops continuesNumber rest) :
    startsFraction rest = false := by
  cases rest with
  | nil => rfl
  | cons c rest =>
      have ends : continuesNumber c = false := stops
      simp only [continuesNumber, Bool.or_eq_false_iff] at ends
      simp only [startsFraction, Bool.or_eq_false_iff]
      exact ⟨⟨ends.1.1.2, ends.1.2⟩, ends.2⟩

theorem splitDigits_toDigits (n : Nat) (stops : Text.Stops Char.isDigit rest) :
    splitDigits (Nat.toDigits 10 n ++ rest) = (Nat.toDigits 10 n, rest) := by
  have digits : ∀ c ∈ Nat.toDigits 10 n, c.isDigit = true :=
    fun c => Number.isDigit_of_mem_toDigits
  rw [splitDigits, Text.takeWhile_append_of_stops digits stops,
    Text.dropWhile_append_of_stops digits stops]

theorem unsigned_toDigits (negative : Bool) {n : Nat} (fits : n < 18446744073709551616)
    (stops : Text.Stops continuesNumber rest) :
    unsigned negative (Nat.toDigits 10 n ++ rest) =
      (integerValue? negative n).map fun value => (value, rest) := by
  have gathered : Number.gather 0 (Nat.toDigits 10 n) = (n, []) := by
    rw [Number.gather_eq_of_fits (by rwa [Number.digitsValue_toDigits]),
      Number.digitsValue_toDigits]
  simp only [unsigned, splitDigits_toDigits n (stops_isDigit stops)]
  split
  · next none => exact absurd none Nat.toDigits_ne_nil
  · next leading =>
      have alone := Number.eq_nil_of_toDigits_eq_zero_cons leading
      cases alone
  · simp only [gathered, startsFraction_eq_false stops, List.isEmpty_nil, Bool.not_false,
      Bool.and_self, if_true]

theorem integerValue?_natAbs (n : Integer) :
    integerValue? (n.val < 0) n.val.natAbs = some (.int n) := by
  have lower := n.lower
  have upper := n.upper
  by_cases negative : n.val < 0
  · have small : ¬(n.val.natAbs = 0 ∨ 9223372036854775808 < n.val.natAbs) := by omega
    have signed : -(n.val.natAbs : Int) = n.val := by omega
    simp only [integerValue?, negative, decide_true, if_true, if_neg small, signed]
    simp [Integer.ofInt?, lower, upper]
  · have unsigned : (n.val.natAbs : Int) = n.val := by omega
    simp only [integerValue?, negative, decide_false, Bool.false_eq_true, if_false, unsigned]
    simp [Integer.ofInt?, lower, upper]

/-- A whole number reads back wherever no number could go on. -/
theorem number_text_append (n : Integer) (stops : Text.Stops continuesNumber rest) :
    number (n.text ++ rest) = some (.int n, rest) := by
  have fits : n.val.natAbs < 18446744073709551616 := by
    have lower := n.lower
    have upper := n.upper
    omega
  have read := integerValue?_natAbs n
  by_cases negative : n.val < 0
  · rw [Integer.text, if_pos negative, List.cons_append, number, unsigned_toDigits true fits stops]
    simp only [negative, decide_true] at read
    rw [read, Option.map_some]
  · rw [Integer.text, if_neg negative, number, unsigned_toDigits false fits stops]
    · simp only [negative, decide_false] at read
      rw [read, Option.map_some]
    · intro others same
      cases numeral : Nat.toDigits 10 n.val.natAbs with
      | nil => exact Nat.toDigits_ne_nil numeral
      | cons first later =>
          have isDigit : first.isDigit = true :=
            Number.isDigit_of_mem_toDigits (numeral ▸ List.mem_cons_self)
          rw [numeral, List.cons_append, List.cons.injEq] at same
          rw [same.1] at isDigit
          cases isDigit

end Reader

end CheckedQuery

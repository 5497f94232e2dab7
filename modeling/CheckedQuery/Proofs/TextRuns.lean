import CheckedQuery.Number.Reading
import CheckedQuery.Text.Blank
import CheckedQuery.Text.Identifier

/-!
# Runs of characters

A run of characters of one class ends where the rest starts with a character of another
class.  Blanks, identifiers, numerals and lines are all read by this rule.
-/

namespace CheckedQuery

namespace Text

/-- A text that does not start with a character of the class. -/
def Stops (holds : Char → Bool) : List Char → Prop
  | [] => True
  | c :: _ => holds c = false

variable {holds : Char → Bool} {run rest : List Char}

theorem Stops.append_of_ne_nil {text : List Char} (stops : Stops holds text)
    (nonempty : text ≠ []) (rest : List Char) : Stops holds (text ++ rest) := by
  cases text with
  | nil => exact absurd rfl nonempty
  | cons c text => exact stops

theorem takeWhile_append_of_stops (all : ∀ c ∈ run, holds c = true)
    (stops : Stops holds rest) : (run ++ rest).takeWhile holds = run := by
  rw [List.takeWhile_append_of_pos all]
  cases rest with
  | nil => exact List.append_nil run
  | cons c rest =>
      have ends : holds c = false := stops
      rw [List.takeWhile_cons, ends]
      exact List.append_nil run

theorem dropWhile_append_of_stops (all : ∀ c ∈ run, holds c = true)
    (stops : Stops holds rest) : (run ++ rest).dropWhile holds = rest := by
  rw [List.dropWhile_append_of_pos all]
  cases rest with
  | nil => rfl
  | cons c rest =>
      have ends : holds c = false := stops
      rw [List.dropWhile_cons, ends]
      rfl

/-- The end of a run is where it is, whatever it is read from. -/
theorem append_inj_of_stops {otherRun otherRest : List Char}
    (all : ∀ c ∈ run, holds c = true) (stops : Stops holds rest)
    (otherAll : ∀ c ∈ otherRun, holds c = true) (otherStops : Stops holds otherRest)
    (same : run ++ rest = otherRun ++ otherRest) : run = otherRun ∧ rest = otherRest := by
  constructor
  · rw [← takeWhile_append_of_stops all stops, same,
      takeWhile_append_of_stops otherAll otherStops]
  · rw [← dropWhile_append_of_stops all stops, same,
      dropWhile_append_of_stops otherAll otherStops]

/-- A line ends at its break. -/
theorem append_inj_of_newline {otherRun otherRest : List Char} (oneLine : '\n' ∉ run)
    (stops : Stops (· ≠ '\n') rest) (otherLine : '\n' ∉ otherRun)
    (otherStops : Stops (· ≠ '\n') otherRest) (same : run ++ rest = otherRun ++ otherRest) :
    run = otherRun ∧ rest = otherRest := by
  have staysOnLine : ∀ {line : List Char}, '\n' ∉ line → ∀ c ∈ line, decide (c ≠ '\n') = true :=
    fun notMem c inside => decide_eq_true (ne_of_mem_of_not_mem inside notMem)
  exact append_inj_of_stops (staysOnLine oneLine) stops (staysOnLine otherLine) otherStops same

theorem isIdentifier_cases {name : List Char} (identifier : isIdentifier name = true) :
    ∃ c rest, name = c :: rest ∧ isIdentifierStart c = true ∧
      ∀ later ∈ rest, isIdentifierRest later = true := by
  cases name with
  | nil => cases identifier
  | cons c rest =>
      simp only [isIdentifier, Bool.and_eq_true, List.all_eq_true] at identifier
      exact ⟨c, rest, rfl, identifier.1, identifier.2⟩

theorem isIdentifierRest_of_mem {name : List Char} (identifier : isIdentifier name = true)
    {c : Char} (membership : c ∈ name) : isIdentifierRest c = true := by
  obtain ⟨first, rest, rfl, starts, goesOn⟩ := isIdentifier_cases identifier
  rcases List.mem_cons.mp membership with rfl | later
  · simp [isIdentifierRest, starts]
  · exact goesOn c later

theorem splitIdentifier?_append {name : List Char} (identifier : isIdentifier name = true)
    (stops : Stops isIdentifierRest rest) :
    splitIdentifier? (name ++ rest) = some (name, rest) := by
  obtain ⟨c, others, rfl, starts, goesOn⟩ := isIdentifier_cases identifier
  rw [List.cons_append, splitIdentifier?, if_pos starts,
    takeWhile_append_of_stops goesOn stops, dropWhile_append_of_stops goesOn stops]

end Text

namespace Number

theorem digitsValue_eq_ofDigitChars (start : Nat) (digits : List Char) :
    digitsValue start digits = Nat.ofDigitChars 10 digits start := by
  rw [digitsValue, Nat.ofDigitChars_eq_foldl]
  simp only [Nat.mul_comm]
  rfl

theorem digitsValue_toDigits (n : Nat) : digitsValue 0 (Nat.toDigits 10 n) = n := by
  rw [digitsValue_eq_ofDigitChars, Nat.ofDigitChars_ten_toDigits]

theorem isDigit_of_mem_toDigits {n : Nat} {c : Char} (membership : c ∈ Nat.toDigits 10 n) :
    c.isDigit = true :=
  Nat.isDigit_of_mem_toDigits (by decide) (by decide) membership

end Number

end CheckedQuery

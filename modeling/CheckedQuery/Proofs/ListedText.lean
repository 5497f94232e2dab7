import CheckedQuery.Json.Reader
import CheckedQuery.Proofs.NumeralText

/-!
# Items in brackets read back

Items between commas, up to the closing bracket.  If each item reads back in front of a
comma and of the bracket, so does the list of them.
-/

namespace CheckedQuery

namespace Text

/-- What follows the first of several texts between commas, up to `close`. -/
def later (close : Char) : List (List Char) → List Char
  | [] => [close]
  | text :: texts => ',' :: (text ++ later close texts)

/-- Texts between commas, up to `close`. -/
def listed (close : Char) : List (List Char) → List Char
  | [] => [close]
  | text :: texts => text ++ later close texts

variable (close : Char) (texts : List (List Char))

theorem length_lt_length_later : texts.length < (later close texts).length := by
  induction texts with
  | nil => exact Nat.zero_lt_one
  | cons text texts induction =>
      rw [later, List.length_cons, List.length_cons, List.length_append]
      omega

theorem exists_later_eq : ∃ front, later close texts = front ++ [close] := by
  induction texts with
  | nil => exact ⟨[], rfl⟩
  | cons text texts induction =>
      obtain ⟨front, same⟩ := induction
      exact ⟨',' :: (text ++ front), by rw [later, same, List.cons_append, List.append_assoc]⟩

theorem exists_listed_eq : ∃ front, listed close texts = front ++ [close] := by
  cases texts with
  | nil => exact ⟨[], rfl⟩
  | cons text texts =>
      obtain ⟨front, same⟩ := exists_later_eq close texts
      exact ⟨text ++ front, by rw [listed, same, List.append_assoc]⟩

variable {close texts}

theorem notMem_later {c : Char} (notClose : c ≠ close) (notComma : c ≠ ',')
    (each : ∀ text ∈ texts, c ∉ text) : c ∉ later close texts := by
  induction texts with
  | nil => simpa [later] using notClose
  | cons text texts induction =>
      have here := each text List.mem_cons_self
      have others := induction fun text inside => each text (List.mem_cons_of_mem _ inside)
      simp [later, notComma, here, others]

theorem notMem_listed {c : Char} (notClose : c ≠ close) (notComma : c ≠ ',')
    (each : ∀ text ∈ texts, c ∉ text) : c ∉ listed close texts := by
  cases texts with
  | nil => simpa [listed] using notClose
  | cons text texts =>
      have here := each text List.mem_cons_self
      have others := notMem_later notClose notComma
        fun text inside => each text (List.mem_cons_of_mem _ inside)
      simp [listed, here, others]

end Text

namespace Reader

/-- Whether an item could start with a character. -/
def opens (c : Char) : Bool :=
  !Text.isBlank c && c != ']' && c != '}'

theorem isBlank_of_isSpace {c : Char} (space : isSpace c = true) : Text.isBlank c = true := by
  simp only [isSpace, Bool.or_eq_true, beq_iff_eq] at space
  rcases space with ((rfl | rfl) | rfl) | rfl <;> decide

theorem isBlank_of_opens {c : Char} (opening : opens c = true) : Text.isBlank c = false := by
  simp only [opens, Bool.and_eq_true, Bool.not_eq_true'] at opening
  exact opening.1.1

theorem isSpace_of_opens {c : Char} (opening : opens c = true) : isSpace c = false := by
  have visible := isBlank_of_opens opening
  rw [Bool.eq_false_iff]
  intro space
  rw [isBlank_of_isSpace space] at visible
  cases visible

theorem skipSpace_cons {c : Char} (notSpace : isSpace c = false) (rest : List Char) :
    skipSpace (c :: rest) = c :: rest := by
  rw [skipSpace, List.dropWhile_cons, notSpace]
  rfl

/-- An item whose text shows where it starts, and reads back in front of anything that
could not go on with a number. -/
structure ReadsBack {α : Type} (item : Reader α) (write : α → List Char) (x : α) : Prop where
  starts : ∃ first later, write x = first :: later ∧ opens first = true
  reads : ∀ rest, Text.Stops continuesNumber rest → item (write x ++ rest) = some (x, rest)

variable {α : Type} {item : Reader α} {write : α → List Char} {close : Char}

theorem ReadsBack.skipSpace_append {x : α} (back : ReadsBack item write x) (rest : List Char) :
    skipSpace (write x ++ rest) = write x ++ rest := by
  obtain ⟨first, later, same, opening⟩ := back.starts
  rw [same, List.cons_append, skipSpace_cons (isSpace_of_opens opening)]

theorem isSpace_of_closing (closing : close = ']' ∨ close = '}') : isSpace close = false := by
  rcases closing with rfl | rfl
  · rfl
  · rfl

theorem separated_later (closing : close = ']' ∨ close = '}') {first : α} {others : List α}
    (back : ∀ x ∈ first :: others, ReadsBack item write x) {count : Nat}
    (enough : others.length < count) (rest : List Char) :
    separated item close count (write first ++ (Text.later close (others.map write) ++ rest)) =
      some (first :: others, rest) := by
  have closeStops : Text.Stops continuesNumber (close :: rest) := by
    rcases closing with rfl | rfl <;> rfl
  have commaNotClose : ',' ≠ close := by
    rcases closing with rfl | rfl <;> decide
  induction others generalizing first count with
  | nil =>
      cases count with
      | zero => exact absurd enough (Nat.not_lt_zero _)
      | succ count =>
          have here := back first List.mem_cons_self
          rw [separated, here.skipSpace_append, List.map_nil, Text.later, List.cons_append,
            List.nil_append, here.reads _ closeStops]
          simp only [skipSpace_cons (isSpace_of_closing closing), if_true]
  | cons other others induction =>
      cases count with
      | zero => exact absurd enough (Nat.not_lt_zero _)
      | succ count =>
          have here := back first List.mem_cons_self
          have later := induction (fun x inside => back x (List.mem_cons_of_mem first inside))
            (Nat.lt_of_succ_lt_succ enough)
          have commaStops : Text.Stops continuesNumber
              (',' :: (write other ++ (Text.later close (others.map write) ++ rest))) :=
            rfl
          have commaNotSpace : isSpace ',' = false := rfl
          rw [separated, here.skipSpace_append, List.map_cons, Text.later, List.cons_append,
            List.append_assoc, here.reads _ commaStops]
          simp only [skipSpace_cons commaNotSpace, if_neg commaNotClose, if_true, later,
            Option.map_some]

/-- Items in brackets read back. -/
theorem enclosed_listed (closing : close = ']' ∨ close = '}') {items : List α}
    (back : ∀ x ∈ items, ReadsBack item write x) (rest : List Char) :
    enclosed item close (Text.listed close (items.map write) ++ rest) = some (items, rest) := by
  cases items with
  | nil =>
      rw [enclosed, List.map_nil, Text.listed, List.cons_append, List.nil_append,
        skipSpace_cons (isSpace_of_closing closing)]
      exact if_pos rfl
  | cons first others =>
      have here := back first List.mem_cons_self
      obtain ⟨c, later, same, opening⟩ := here.starts
      have notClose : ¬c = close := by
        rintro rfl
        rcases closing with rfl | rfl <;> cases opening
      rw [enclosed, List.map_cons, Text.listed, List.append_assoc, here.skipSpace_append]
      have text : write first ++ (Text.later close (others.map write) ++ rest) =
          c :: (later ++ (Text.later close (others.map write) ++ rest)) := by
        rw [same, List.cons_append]
      -- Items are counted by the characters of the text, and each later one has its comma.
      have enough := Text.length_lt_length_later close (others.map write)
      rw [List.length_map] at enough
      simp only [text, if_neg notClose]
      rw [← text]
      refine separated_later closing back ?_ rest
      rw [List.length_append, List.length_append]
      omega

end Reader

end CheckedQuery

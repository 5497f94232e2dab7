import CheckedQuery.Path
import CheckedQuery.Proofs.QuotedText
import CheckedQuery.Proofs.TextRuns

/-!
# Paths read back

Each segment of a path says where it ends: a name at the next character that belongs to
no identifier, a quoted name at its closing quote, an index at its bracket.  So the text
of a path in front of a colon gives back its segments, whatever follows the colon.
-/

namespace CheckedQuery

namespace Segment

/-- The segment at the front of a text, and what follows it. -/
def read? : List Char → Option (Segment × List Char)
  | '.' :: rest =>
      (Text.splitIdentifier? rest).map fun (name, rest) => (.field (String.ofList name), rest)
  | '[' :: '"' :: rest =>
      (Text.unquote? rest).map fun (name, rest) => (.field (String.ofList name), rest.tail)
  | '[' :: rest =>
      some (.index (Number.digitsValue 0 (rest.takeWhile Char.isDigit)),
        (rest.dropWhile Char.isDigit).tail)
  | _ => none

variable {rest : List Char}

private theorem read?_identifier {name : String} (identifier : Text.isIdentifier name.toList)
    (stops : Text.Stops Text.isIdentifierRest rest) :
    read? ('.' :: name.toList ++ rest) = some (.field name, rest) := by
  rw [List.cons_append, read?, Text.splitIdentifier?_append identifier stops]
  simp only [Option.map_some, String.ofList_toList]

private theorem read?_quoted (name : String) :
    read? ('[' :: (Text.quoted name.toList ++ [']']) ++ rest) = some (.field name, rest) := by
  have text : '[' :: (Text.quoted name.toList ++ [']']) ++ rest =
      '[' :: '"' :: (Text.escaped name.toList ++ '"' :: ']' :: rest) := by
    simp [Text.quoted]
  rw [text, read?, Text.unquote?_escaped]
  simp only [Option.map_some, String.ofList_toList, List.tail_cons]

private theorem read?_index (position : Nat) :
    read? ('[' :: (Nat.toDigits 10 position ++ [']']) ++ rest) =
      some (.index position, rest) := by
  have text : '[' :: (Nat.toDigits 10 position ++ [']']) ++ rest =
      '[' :: (Nat.toDigits 10 position ++ ']' :: rest) := by
    simp
  have digits : ∀ c ∈ Nat.toDigits 10 position, c.isDigit = true :=
    fun c => Number.isDigit_of_mem_toDigits
  have stops : Text.Stops Char.isDigit (']' :: rest) := rfl
  have unquoted : ∀ others, Nat.toDigits 10 position ++ ']' :: rest ≠ '"' :: others := by
    intro others same
    cases numeral : Nat.toDigits 10 position with
    | nil => exact Nat.toDigits_ne_nil numeral
    | cons first later =>
        rw [numeral, List.cons_append, List.cons.injEq] at same
        have isDigit := digits first (numeral ▸ List.mem_cons_self)
        rw [same.1] at isDigit
        cases isDigit
  rw [text, read?, Text.takeWhile_append_of_stops digits stops,
    Text.dropWhile_append_of_stops digits stops, Number.digitsValue_toDigits, List.tail_cons]
  exact unquoted

/-- A segment reads back wherever no identifier could go on. -/
theorem read?_text_append (segment : Segment)
    (stops : Text.Stops Text.isIdentifierRest rest) :
    read? (segment.text ++ rest) = some (segment, rest) := by
  cases segment with
  | field name =>
      rw [text]
      split
      · next identifier => exact read?_identifier identifier stops
      · exact read?_quoted name
  | index position => exact read?_index position

theorem stops_text_append (segment : Segment) (rest : List Char) :
    Text.Stops Text.isIdentifierRest (segment.text ++ rest) := by
  cases segment with
  | field name =>
      rw [text]
      split <;> rfl
  | index position => rfl

theorem newline_notMem_text (segment : Segment) : '\n' ∉ segment.text := by
  cases segment with
  | field name =>
      rw [text]
      split
      · next identifier =>
          intro membership
          rcases List.mem_cons.mp membership with isPoint | inName
          · exact absurd isPoint (by decide)
          · exact absurd (Text.isIdentifierRest_of_mem identifier inName) (by decide)
      · simp [Text.newline_notMem_quoted]
  | index position =>
      have notDigit : '\n' ∉ Nat.toDigits 10 position := fun membership =>
        absurd (Number.isDigit_of_mem_toDigits membership) (by decide)
      simp [text, notDigit]

end Segment

namespace Path

theorem text_cons (segment : Segment) (segments : List Segment) (rest : List Char) :
    text { segments := segment :: segments } ++ rest =
      segment.text ++ (text { segments := segments } ++ rest) := by
  rw [text, List.flatMap_cons, List.append_assoc]
  rfl

theorem stops_text_append (path : Path) (rest : List Char) :
    Text.Stops Text.isIdentifierRest (path.text ++ ':' :: rest) := by
  obtain ⟨segments⟩ := path
  cases segments with
  | nil => rfl
  | cons segment segments =>
      rw [text_cons]
      exact segment.stops_text_append _

private theorem read?_text_cons (segment : Segment) (segments : List Segment)
    (rest : List Char) :
    Segment.read? (text { segments := segment :: segments } ++ ':' :: rest) =
      some (segment, text { segments := segments } ++ ':' :: rest) := by
  rw [text_cons, segment.read?_text_append (stops_text_append _ rest)]

/-- The text of a path in front of a colon determines the path and what follows. -/
theorem text_append_inj {left right : Path} {leftRest rightRest : List Char}
    (same : left.text ++ ':' :: leftRest = right.text ++ ':' :: rightRest) :
    left = right ∧ leftRest = rightRest := by
  obtain ⟨lefts⟩ := left
  obtain ⟨rights⟩ := right
  have read := congrArg Segment.read? same
  induction lefts generalizing rights with
  | nil =>
      cases rights with
      | nil => exact ⟨rfl, (List.cons.inj same).2⟩
      | cons segment segments =>
          rw [read?_text_cons] at read
          cases read
  | cons first lefts induction =>
      cases rights with
      | nil =>
          rw [read?_text_cons] at read
          cases read
      | cons other rights =>
          simp only [read?_text_cons, Option.some.injEq, Prod.mk.injEq] at read
          obtain ⟨sameSegments, sameRest⟩ :=
            induction rights read.2 (congrArg Segment.read? read.2)
          cases sameSegments
          exact ⟨by rw [read.1], sameRest⟩

/-- Distinct paths are written differently. -/
theorem text_injective : Function.Injective text := by
  intro left right same
  have beforeColon : left.text ++ ':' :: [] = right.text ++ ':' :: [] := by rw [same]
  exact (text_append_inj beforeColon).1

example : text { segments := [.field "0", .index 0, .field "a\"][\"b"] } =
    "[\"0\"][0][\"a\\\"][\\\"b\"]".toList := by
  decide

theorem newline_notMem_text (path : Path) : '\n' ∉ path.text := by
  intro membership
  obtain ⟨segment, -, inSegment⟩ := List.mem_flatMap.mp membership
  exact segment.newline_notMem_text inSegment

end Path

end CheckedQuery

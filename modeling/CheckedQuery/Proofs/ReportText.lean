import CheckedQuery.Proofs.Outcomes
import CheckedQuery.Proofs.PathText

/-!
# Reports read back

The text of a single issue gives back its path and its message, whatever stands in them.  A
printed report is a heading and one line for each issue.  Paths never break a line, so a
report whose messages keep to their lines gives back every entry: no key can pass for another
line, or for the end of its own.
-/

namespace CheckedQuery

namespace Issue

/-- What the line of an issue says. -/
def entry (issue : Issue) : Path × String :=
  (issue.path, issue.message)

theorem text_eq (issue : Issue) :
    issue.text =
      "result".toList ++ (issue.path.text ++ ':' :: ' ' :: issue.message.toList) :=
  List.append_assoc _ _ _

theorem entry_eq_of_text_eq {left right : Issue} (same : left.text = right.text) :
    left.entry = right.entry := by
  rw [text_eq, text_eq] at same
  obtain ⟨samePath, sameRest⟩ := Path.text_append_inj (List.append_cancel_left same)
  have sameMessage : left.message = right.message :=
    String.toList_inj.mp (List.cons.inj sameRest).2
  rw [entry, entry, samePath, sameMessage]

theorem text_eq_text_iff {left right : Issue} :
    left.text = right.text ↔ left.path = right.path ∧ left.message = right.message := by
  constructor
  · intro same
    exact Prod.mk.inj (entry_eq_of_text_eq same)
  · rintro ⟨samePath, sameMessage⟩
    rw [text, text, samePath, sameMessage]

/-- Where the paths of two issues part, their texts part as well. -/
theorem text_ne_of_segment_ne {first second : Segment} (different : first ≠ second)
    (above : List Segment) (left right : Issue) :
    ((left.under first).within above).text ≠ ((right.under second).within above).text := by
  intro same
  have samePath := (text_eq_text_iff.mp same).1
  simp only [within, under, Path.prepend, Path.mk.injEq, List.append_cancel_left_eq,
    List.cons.injEq] at samePath
  exact different samePath.1

/-- The text of an issue tells its path and its message, and nothing else of it.  A field does
not read like an index, whatever its name, and one key does not read like two. -/
theorem text_tells_entry (left right : Issue) :
    (left.text = right.text ↔
      left.path.segments = right.path.segments ∧ left.message = right.message) ∧
    (left.path.text = right.path.text ↔ left.path.segments = right.path.segments) ∧
    (∀ above name position,
      ((left.under (.field name)).within above).text ≠
        ((right.under (.index position)).within above).text) ∧
    ∀ above key later,
      ((left.under (.field (key ++ "\"][\"" ++ later))).within above).text ≠
        (((right.under (.field later)).under (.field key)).within above).text := by
  have samePath : left.path = right.path ↔ left.path.segments = right.path.segments := by
    rw [Path.mk.injEq]
  refine ⟨?entries, ?paths, ?kinds, ?keys⟩
  case entries => rw [text_eq_text_iff, samePath]
  case paths => rw [Path.text_injective.eq_iff, samePath]
  case kinds =>
    intro above name position
    exact text_ne_of_segment_ne Segment.noConfusion above left right
  case keys =>
    intro above key later
    have longer : key ++ "\"][\"" ++ later ≠ key := by
      intro same
      have sameLength := congrArg String.length same
      have between : "\"][\"".length = 4 := rfl
      rw [String.length_append, String.length_append, between] at sameLength
      omega
    exact text_ne_of_segment_ne (fun same => longer (Segment.field.inj same)) above left _

theorem newline_notMem_text {issue : Issue} (oneLine : '\n' ∉ issue.message.toList) :
    '\n' ∉ issue.text := by
  have noneInName : '\n' ∉ "result".toList := by decide
  have noneInPath := issue.path.newline_notMem_text
  simp only [text_eq, List.mem_append, List.mem_cons, not_or]
  exact ⟨noneInName, noneInPath, by decide, by decide, oneLine⟩

/-- The lines of issues, each after the break that starts it. -/
def lines (issues : List Issue) : List Char :=
  issues.flatMap fun issue => '\n' :: issue.text

theorem lines_cons (issue : Issue) (issues : List Issue) :
    lines (issue :: issues) = '\n' :: (issue.text ++ lines issues) := by
  rw [lines, List.flatMap_cons]
  rfl

theorem stops_lines (issues : List Issue) : Text.Stops (· ≠ '\n') (lines issues) := by
  cases issues with
  | nil => trivial
  | cons issue issues =>
      rw [lines_cons]
      rfl

theorem entries_eq_of_lines_eq {lefts rights : List Issue}
    (leftLines : ∀ issue ∈ lefts, '\n' ∉ issue.message.toList)
    (rightLines : ∀ issue ∈ rights, '\n' ∉ issue.message.toList)
    (same : lines lefts = lines rights) : lefts.map entry = rights.map entry := by
  induction lefts generalizing rights with
  | nil =>
      cases rights with
      | nil => rfl
      | cons issue issues =>
          rw [lines_cons] at same
          cases same
  | cons left lefts induction =>
      cases rights with
      | nil =>
          rw [lines_cons] at same
          cases same
      | cons right rights =>
          rw [lines_cons, lines_cons, List.cons.injEq] at same
          -- Both first lines end at the next break, so they are the same line.
          have leftLine := newline_notMem_text (leftLines left List.mem_cons_self)
          have rightLine := newline_notMem_text (rightLines right List.mem_cons_self)
          obtain ⟨sameText, sameLines⟩ :=
            Text.append_inj_of_newline leftLine (stops_lines lefts) rightLine
              (stops_lines rights) same.2
          have sameEntries :=
            induction (fun issue inside => leftLines issue (List.mem_cons_of_mem left inside))
              (fun issue inside => rightLines issue (List.mem_cons_of_mem right inside))
              sameLines
          rw [List.map_cons, List.map_cons, entry_eq_of_text_eq sameText, sameEntries]

end Issue

namespace Report

/-- What stands in front of the lines of a report. -/
def heading (report : Report) : List Char :=
  Nat.toDigits 10 report.size ++
    (if report.size = 1 then " Parsing Error:" else " Parsing Errors:").toList

theorem text_eq (report : Report) :
    report.text = report.heading ++ Issue.lines report.issues :=
  rfl

theorem newline_notMem_heading (report : Report) : '\n' ∉ report.heading := by
  rw [heading, List.mem_append]
  rintro (inNumber | inWords)
  · exact absurd (Number.isDigit_of_mem_toDigits inNumber) (by decide)
  · split at inWords
    · exact absurd inWords (by decide)
    · exact absurd inWords (by decide)

/-- Reports printed alike have the same entries, if their messages keep to their lines. -/
theorem entries_eq_of_message_eq {left right : Report}
    (leftLines : ∀ issue ∈ left.issues, '\n' ∉ issue.message.toList)
    (rightLines : ∀ issue ∈ right.issues, '\n' ∉ issue.message.toList)
    (same : left.message = right.message) :
    left.size = right.size ∧
      left.issues.map Issue.entry = right.issues.map Issue.entry := by
  have sameText : left.text = right.text := String.ofList_injective same
  rw [text_eq, text_eq] at sameText
  obtain ⟨-, sameLines⟩ :=
    Text.append_inj_of_newline left.newline_notMem_heading (Issue.stops_lines _)
      right.newline_notMem_heading (Issue.stops_lines _) sameText
  have sameEntries := Issue.entries_eq_of_lines_eq leftLines rightLines sameLines
  have sameSize := congrArg List.length sameEntries
  rw [List.length_map, List.length_map] at sameSize
  exact ⟨sameSize, sameEntries⟩

/-- A refusal at a key that looks like the end of its line and another line. -/
def forged (value : Value) (code : String) : Report :=
  single
    { path := { segments := [.field "\"]: bad\nresult[0]", .index 0] }
      value := value
      message := "Expected string"
      code := code }

theorem entries_eq_of_message_eq_forged :
    (∀ issue ∈ (forged .null "left").issues, '\n' ∉ issue.message.toList) ∧
    (∀ issue ∈ (forged (.bool true) "right").issues, '\n' ∉ issue.message.toList) ∧
    (forged .null "left").message = (forged (.bool true) "right").message ∧
    ((forged .null "left").size = (forged (.bool true) "right").size ∧
      (forged .null "left").issues.map Issue.entry =
        (forged (.bool true) "right").issues.map Issue.entry) := by
  have oneLine : ∀ value code, ∀ issue ∈ (forged value code).issues,
      '\n' ∉ issue.message.toList := by
    intro value code issue inside
    have plain : '\n' ∉ "Expected string".toList := by decide
    rw [List.mem_singleton.mp inside]
    exact plain
  have same : (forged .null "left").message = (forged (.bool true) "right").message := rfl
  exact ⟨oneLine _ _, oneLine _ _, same,
    entries_eq_of_message_eq (oneLine _ _) (oneLine _ _) same⟩

end Report

end CheckedQuery

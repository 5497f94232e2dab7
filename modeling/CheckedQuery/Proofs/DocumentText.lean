import CheckedQuery.Proofs.ListedText
import CheckedQuery.Proofs.QuotedText

/-!
# Documents read back

The compact text of a document without floating point numbers reads back as the
document, whatever follows that could not go on with a number, as long as arrays and
objects lie no deeper inside each other than the reader allows.
-/

namespace CheckedQuery

namespace Value

/-- A document without a floating point number anywhere. -/
inductive Floatless : Value → Prop where
  | null : Floatless .null
  | bool (truth : Bool) : Floatless (.bool truth)
  | int (number : Integer) : Floatless (.int number)
  | string (text : String) : Floatless (.string text)
  | array {items : List Value} (each : ∀ item ∈ items, Floatless item) :
      Floatless (.array items)
  | object {members : Members Value} (each : ∀ member ∈ members.toList, Floatless member.2) :
      Floatless (.object members)

theorem nesting_le_itemsNesting {item : Value} {items : List Value} (inside : item ∈ items) :
    item.nesting ≤ nesting.itemsNesting items := by
  induction items with
  | nil => cases inside
  | cons first items induction =>
      rw [nesting.itemsNesting]
      rcases List.mem_cons.mp inside with rfl | later
      · exact Nat.le_max_left ..
      · exact Nat.le_trans (induction later) (Nat.le_max_right ..)

theorem nesting_le_membersNesting {low : Option String} {member : String × Value}
    {members : MembersAbove Value low} (inside : member ∈ members.toList) :
    member.2.nesting ≤ nesting.membersNesting members := by
  induction members with
  | nil => cases inside
  | cons key above value rest induction =>
      rw [nesting.membersNesting]
      rcases List.mem_cons.mp inside with rfl | later
      · exact Nat.le_max_left ..
      · exact Nat.le_trans (induction later) (Nat.le_max_right ..)

/-- The text of a member. -/
def memberText (member : String × Value) : List Char :=
  Text.quoted member.1.toList ++ ':' :: member.2.text

theorem itemsText_eq (items : List Value) :
    itemsText items = Text.later ']' (items.map text) := by
  induction items with
  | nil => rfl
  | cons item items induction => rw [itemsText, induction, List.map_cons, Text.later]

theorem membersText_eq {low : Option String} (members : MembersAbove Value low) :
    membersText members = Text.later '}' (members.toList.map memberText) := by
  induction members with
  | nil => rfl
  | cons key above value rest induction =>
      rw [membersText, induction, MembersAbove.toList, List.map_cons, Text.later, memberText,
        List.append_assoc, List.cons_append]

theorem text_array (items : List Value) :
    text (.array items) = '[' :: Text.listed ']' (items.map text) := by
  cases items with
  | nil => rfl
  | cons item items => rw [text, itemsText_eq, List.map_cons, Text.listed]

theorem text_object (members : Members Value) :
    text (.object members) = '{' :: Text.listed '}' (members.toList.map memberText) := by
  cases members with
  | nil => rfl
  | cons key above value rest =>
      rw [text, membersText_eq, MembersAbove.toList, List.map_cons, Text.listed, memberText,
        List.append_assoc, List.cons_append]

end Value

theorem Members.ofList_toList {α : Type} (members : Members α) :
    Members.ofList members.toList = members := by
  refine MembersAbove.ext_get? fun name => ?_
  rw [Members.ofList, Members.get?_foldl_insert, Members.empty, MembersAbove.get?, Option.or_none]

/-- The characters of whole numbers. -/
def numerals : List Char :=
  "-0123456789".toList

theorem mem_numerals_of_isDigit {c : Char} (digit : c.isDigit = true) : c ∈ numerals := by
  have digits : ∀ code < 58, 48 ≤ code → Char.ofNat code ∈ numerals := by decide
  simp only [Char.isDigit, Bool.and_eq_true, decide_eq_true_eq] at digit
  have found := digits c.toNat (Nat.lt_succ_of_le digit.2) digit.1
  rwa [Char.ofNat_toNat] at found

namespace Integer

theorem mem_numerals_of_mem_text {n : Integer} {c : Char} (inside : c ∈ n.text) :
    c ∈ numerals := by
  have digits : c ∈ Nat.toDigits 10 n.val.natAbs → c ∈ numerals :=
    fun inDigits => mem_numerals_of_isDigit (Number.isDigit_of_mem_toDigits inDigits)
  rw [text] at inside
  split at inside
  · rcases List.mem_cons.mp inside with rfl | inDigits
    · decide
    · exact digits inDigits
  · exact digits inside

theorem text_ne_nil (n : Integer) : n.text ≠ [] := by
  rw [text]
  split
  · exact List.cons_ne_nil _ _
  · exact Nat.toDigits_ne_nil

end Integer

namespace Reader

theorem value_of_numeral (depth : Nat) {c : Char} (numeral : c ∈ numerals)
    (rest : List Char) : Reader.value depth (c :: rest) = Reader.number (c :: rest) := by
  have other : ∀ letter, letter ∉ numerals → c ≠ letter := by
    rintro letter notNumeral rfl
    exact notNumeral numeral
  rw [Reader.value]
  · exact fun _ same => other 'n' (by decide) (List.cons.inj same).1
  · exact fun _ same => other 't' (by decide) (List.cons.inj same).1
  · exact fun _ same => other 'f' (by decide) (List.cons.inj same).1
  · exact fun _ same => other '"' (by decide) (List.cons.inj same).1
  · exact fun _ _ _ same => other '[' (by decide) (List.cons.inj same).1
  · exact fun _ _ _ same => other '{' (by decide) (List.cons.inj same).1

end Reader

namespace Value

/-- A document that reads back under as many arrays and objects as are allowed around
it. -/
abbrev ReadsBack (depth : Nat) (value : Value) : Prop :=
  Reader.ReadsBack (Reader.value depth) text value

namespace ReadsBack

variable {depth : Nat}

theorem null : ReadsBack depth .null :=
  { starts := ⟨'n', _, rfl, rfl⟩
    reads := fun rest _ => by simp [text, Reader.value] }

theorem bool (truth : Bool) : ReadsBack depth (.bool truth) := by
  cases truth with
  | true =>
      exact { starts := ⟨'t', _, rfl, rfl⟩
              reads := fun rest _ => by simp [text, Reader.value] }
  | false =>
      exact { starts := ⟨'f', _, rfl, rfl⟩
              reads := fun rest _ => by simp [text, Reader.value] }

theorem int (number : Integer) : ReadsBack depth (.int number) := by
  obtain ⟨first, later, same⟩ := List.exists_cons_of_ne_nil number.text_ne_nil
  have numeral : first ∈ numerals := Integer.mem_numerals_of_mem_text (same ▸ List.mem_cons_self)
  have opening : numerals.all Reader.opens = true := by decide
  have opens := List.all_eq_true.mp opening first numeral
  refine { starts := ⟨first, later, same, opens⟩, reads := fun rest stops => ?_ }
  have read := Reader.number_text_append number stops
  rw [same, List.cons_append] at read
  rw [text, same, List.cons_append, Reader.value_of_numeral depth numeral, read]

theorem string (content : String) : ReadsBack depth (.string content) := by
  refine { starts := ⟨'"', _, rfl, rfl⟩, reads := fun rest _ => ?_ }
  rw [text, Text.quoted, List.cons_append, List.append_assoc, Reader.value]
  simp only [List.cons_append, List.nil_append, Text.unquote?_escaped, Option.map_some,
    String.ofList_toList]

theorem member {member : String × Value} (back : ReadsBack depth member.2) :
    Reader.ReadsBack (Reader.keyed (Reader.value depth)) memberText member := by
  refine { starts := ⟨'"', _, rfl, rfl⟩, reads := fun rest stops => ?_ }
  have text : memberText member ++ rest =
      '"' :: (Text.escaped member.1.toList ++ '"' :: ':' :: (member.2.text ++ rest)) := by
    simp [memberText, Text.quoted]
  rw [text, Reader.keyed, Text.unquote?_escaped]
  simp only [Reader.skipSpace_cons (show Reader.isSpace ':' = false from rfl),
    back.skipSpace_append, back.reads rest stops, Option.map_some, String.ofList_toList]

theorem array {items : List Value} (each : ∀ item ∈ items, ReadsBack depth item) :
    ReadsBack (depth + 1) (.array items) := by
  refine { starts := ⟨'[', _, text_array items, rfl⟩, reads := fun rest _ => ?_ }
  rw [text_array, List.cons_append, Reader.value, Reader.enclosed_listed (.inl rfl) each]
  rfl

theorem object {members : Members Value}
    (each : ∀ member ∈ members.toList, ReadsBack depth member.2) :
    ReadsBack (depth + 1) (.object members) := by
  refine { starts := ⟨'{', _, text_object members, rfl⟩, reads := fun rest _ => ?_ }
  rw [text_object, List.cons_append, Reader.value,
    Reader.enclosed_listed (.inr rfl) fun entry inside => (each entry inside).member]
  simp only [Option.map_some, Members.ofList_toList]

end ReadsBack

/-- One lemma for each kind of document, by induction on the document. -/
theorem readsBack {value : Value} (floatless : value.Floatless) {depth : Nat}
    (fits : value.nesting ≤ depth) : value.ReadsBack depth := by
  induction floatless generalizing depth with
  | null => exact .null
  | bool truth => exact .bool truth
  | int number => exact .int number
  | string content => exact .string content
  | array each induction =>
      cases depth with
      | zero => exact absurd fits (Nat.not_succ_le_zero _)
      | succ depth =>
          apply ReadsBack.array
          intro item inside
          have below := nesting_le_itemsNesting inside
          exact induction item inside (Nat.le_trans below (Nat.le_of_succ_le_succ fits))
  | object each induction =>
      cases depth with
      | zero => exact absurd fits (Nat.not_succ_le_zero _)
      | succ depth =>
          apply ReadsBack.object
          intro member inside
          have below := nesting_le_membersNesting inside
          exact induction member inside (Nat.le_trans below (Nat.le_of_succ_le_succ fits))

theorem read?_text {value : Value} (floatless : value.Floatless)
    (fits : value.nesting ≤ nestingLimit) : read? value.text = some value := by
  have back := readsBack floatless fits
  have reads := back.reads [] trivial
  have unpadded := back.skipSpace_append []
  rw [List.append_nil] at reads unpadded
  rw [read?, unpadded, reads]
  rfl

theorem stops_isBlank_text {depth : Nat} {value : Value} (back : value.ReadsBack depth) :
    Text.Stops Text.isBlank value.text := by
  obtain ⟨first, later, same, opening⟩ := back.starts
  rw [same]
  exact Reader.isBlank_of_opens opening

/-- No text of a document ends in a blank. -/
theorem exists_text_eq {value : Value} (floatless : value.Floatless) :
    ∃ front last, value.text = front ++ [last] ∧ Text.isBlank last = false := by
  cases floatless with
  | null => exact ⟨['n', 'u', 'l'], 'l', rfl, rfl⟩
  | bool truth =>
      cases truth with
      | true => exact ⟨['t', 'r', 'u'], 'e', rfl, rfl⟩
      | false => exact ⟨['f', 'a', 'l', 's'], 'e', rfl, rfl⟩
  | int number =>
      have visible : numerals.all (fun c => !Text.isBlank c) = true := by decide
      rcases List.eq_nil_or_concat number.text with isNil | ⟨front, last, same⟩
      · exact absurd isNil number.text_ne_nil
      · have inside : last ∈ number.text := by simp [same]
        have notBlank := List.all_eq_true.mp visible last (Integer.mem_numerals_of_mem_text inside)
        rw [List.concat_eq_append] at same
        exact ⟨front, last, same, (Bool.not_eq_true' _).mp notBlank⟩
  | string content =>
      exact ⟨'"' :: Text.escaped content.toList, '"', rfl, rfl⟩
  | @array items _ =>
      obtain ⟨front, same⟩ := Text.exists_listed_eq ']' (items.map text)
      exact ⟨'[' :: front, ']', by rw [text_array, same, List.cons_append], rfl⟩
  | @object members _ =>
      obtain ⟨front, same⟩ := Text.exists_listed_eq '}' (members.toList.map memberText)
      exact ⟨'{' :: front, '}', by rw [text_object, same, List.cons_append], rfl⟩

/-- The text of a document is one line. -/
theorem newline_notMem_text {value : Value} (floatless : value.Floatless) :
    '\n' ∉ value.text := by
  induction floatless with
  | null => decide
  | bool truth => cases truth <;> decide
  | int number =>
      intro inside
      have numeral := Integer.mem_numerals_of_mem_text inside
      exact absurd numeral (by decide)
  | string content => exact Text.newline_notMem_quoted content.toList
  | @array items each induction =>
      have lines : ∀ line ∈ items.map text, '\n' ∉ line := by
        intro line inside
        obtain ⟨item, isItem, rfl⟩ := List.mem_map.mp inside
        exact induction item isItem
      rw [text_array]
      exact List.not_mem_cons_of_ne_of_not_mem (by decide)
        (Text.notMem_listed (by decide) (by decide) lines)
  | @object members each induction =>
      have lines : ∀ line ∈ members.toList.map memberText, '\n' ∉ line := by
        intro line inside
        obtain ⟨member, isMember, rfl⟩ := List.mem_map.mp inside
        simp [memberText, Text.newline_notMem_quoted, induction member isMember]
      rw [text_object]
      exact List.not_mem_cons_of_ne_of_not_mem (by decide)
        (Text.notMem_listed (by decide) (by decide) lines)

end Value

end CheckedQuery

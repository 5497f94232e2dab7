import CheckedQuery.Json.Value
import CheckedQuery.Number.Layout
import CheckedQuery.Text.Quoted

/-!
# Printed documents

The compact text of a document: no blanks, members in the order of their keys.
-/

namespace CheckedQuery

def Integer.text (n : Integer) : List Char :=
  if n.val < 0 then '-' :: Nat.toDigits 10 n.val.natAbs else Nat.toDigits 10 n.val.natAbs

namespace Value

mutual

/-- The text of a document. -/
def text : Value → List Char
  | .null => ['n', 'u', 'l', 'l']
  | .bool true => ['t', 'r', 'u', 'e']
  | .bool false => ['f', 'a', 'l', 's', 'e']
  | .int number => number.text
  | .float number _ => Layout.document.text number
  | .string text => Text.quoted text.toList
  | .array [] => ['[', ']']
  | .array (item :: items) => '[' :: (text item ++ itemsText items)
  | .object .nil => ['{', '}']
  | .object (.cons key _ value rest) =>
      '{' :: (Text.quoted key.toList ++ ':' :: (text value ++ membersText rest))

/-- The items after the first, and the closing bracket. -/
def itemsText : List Value → List Char
  | [] => [']']
  | item :: items => ',' :: (text item ++ itemsText items)

/-- The members after the first, and the closing brace. -/
def membersText {low : Option String} : MembersAbove Value low → List Char
  | .nil => ['}']
  | .cons key _ value rest =>
      ',' :: (Text.quoted key.toList ++ ':' :: (text value ++ membersText rest))

end

def print (value : Value) : String :=
  String.ofList value.text

end Value

end CheckedQuery

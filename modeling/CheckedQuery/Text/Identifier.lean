/-!
# Identifiers

An identifier starts with an ASCII letter, an underscore or a dollar sign, and
goes on with those and ASCII digits.
-/

namespace CheckedQuery.Text

def isIdentifierStart (c : Char) : Bool :=
  c.isAlpha || c == '_' || c == '$'

def isIdentifierRest (c : Char) : Bool :=
  isIdentifierStart c || c.isDigit

def isIdentifier : List Char → Bool
  | [] => false
  | c :: rest => isIdentifierStart c && rest.all isIdentifierRest

/-- The longest identifier at the start of a text, with what follows it. -/
def splitIdentifier? : List Char → Option (List Char × List Char)
  | [] => none
  | c :: rest =>
      if isIdentifierStart c then
        some (c :: rest.takeWhile isIdentifierRest, rest.dropWhile isIdentifierRest)
      else none

theorem append_of_splitIdentifier? {text name rest : List Char}
    (split : splitIdentifier? text = some (name, rest)) : name ++ rest = text := by
  cases text with
  | nil => cases split
  | cons c tail =>
      simp only [splitIdentifier?] at split
      split at split
      · cases split
        simp
      · cases split

end CheckedQuery.Text

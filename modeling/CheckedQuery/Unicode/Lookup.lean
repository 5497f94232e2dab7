import CheckedQuery.Unicode.Age
import CheckedQuery.Unicode.Break
import CheckedQuery.Unicode.Script

/-!
# Sets by the names of properties

Names are compared without separators, without an initial "is" and in lower case.
A name stands for a binary property, or else for a general category, or else for
a script.
-/

namespace CheckedQuery.Unicode

def isSeparator (c : Char) : Bool :=
  c == ' ' || c == '_' || c == '-'

/-- A name in the form in which names are compared. -/
def normalName (name : List Char) : String :=
  let lower := name.map Char.toLower
  let rest := if ['i', 's'].isPrefixOf lower then lower.drop 2 else lower
  let kept := rest.filter fun c => !isSeparator c && c.toNat < 0x80
  if kept = ['c'] ∧ ['i', 's'].isPrefixOf lower then "isc" else String.ofList kept

/-- Abbreviations that belong to a general category although a property of another
kind has them too. -/
def categoryFirst : List String :=
  ["cf", "sc", "lc"]

/-- The set that one name stands for. -/
def named? (name : List Char) : Option CharSet :=
  let normal := normalName name
  let property := if categoryFirst.contains normal then none else property? normal
  match property with
  | some set => some set
  | none =>
      match category? normal with
      | some set => some set
      | none => script? normal

/-- The set of the code points for which a property has a value. -/
def valued? (property value : List Char) : Option CharSet :=
  let normal := normalName value
  match normalName property with
  | "gc" => category? normal
  | "generalcategory" => category? normal
  | "sc" => script? normal
  | "script" => script? normal
  | "scx" => scriptExtensions? normal
  | "scriptextensions" => scriptExtensions? normal
  | "age" => age? normal
  | "gcb" => breakKind? normal graphemeBreaks
  | "graphemeclusterbreak" => breakKind? normal graphemeBreaks
  | "wb" => breakKind? normal wordBreaks
  | "wordbreak" => breakKind? normal wordBreaks
  | "sb" => breakKind? normal sentenceBreaks
  | "sentencebreak" => breakKind? normal sentenceBreaks
  | _ => none

end CheckedQuery.Unicode

import CheckedQuery.Json.Value
import CheckedQuery.Number.Reading
import CheckedQuery.Text.Quoted

/-!
# Reading documents

The JSON grammar, with at most 127 arrays and objects inside each other.  Of
members with the same key the last stays.
-/

namespace CheckedQuery

/-- Reading from the front of a text gives a result and what follows it. -/
abbrev Reader (α : Type) : Type :=
  List Char → Option (α × List Char)

namespace Reader

def isSpace (c : Char) : Bool :=
  c == ' ' || c == '\t' || c == '\n' || c == '\r'

def skipSpace (text : List Char) : List Char :=
  text.dropWhile isSpace

/-- Items between commas, up to and including `close`.  The first argument bounds
their number. -/
def separated {α : Type} (item : Reader α) (close : Char) : Nat → Reader (List α)
  | 0, _ => none
  | count + 1, text =>
      match item (skipSpace text) with
      | none => none
      | some (first, rest) =>
          match skipSpace rest with
          | [] => none
          | c :: rest =>
              if c = close then some ([first], rest)
              else if c = ',' then
                (separated item close count rest).map fun (others, rest) => (first :: others, rest)
              else none

/-- Items between commas, or none at all, up to and including `close`. -/
def enclosed {α : Type} (item : Reader α) (close : Char) : Reader (List α) :=
  fun text =>
    match skipSpace text with
    | [] => none
    | c :: rest =>
        if c = close then some ([], rest)
        else separated item close (c :: rest).length (c :: rest)

/-- A quoted key, a colon and a value. -/
def keyed {α : Type} (item : Reader α) : Reader (String × α)
  | '"' :: rest =>
      match Text.unquote? rest with
      | none => none
      | some (key, rest) =>
          match skipSpace rest with
          | ':' :: rest =>
              (item (skipSpace rest)).map fun (value, rest) => ((String.ofList key, value), rest)
          | _ => none
  | _ => none

/-- A run of decimal digits, which may be empty. -/
def splitDigits (text : List Char) : List Char × List Char :=
  (text.takeWhile Char.isDigit, text.dropWhile Char.isDigit)

/-- An exponent, if the text has one, added to `start`. -/
def exponent (start : Int) : Reader Int
  | [] => some (start, [])
  | c :: rest =>
      if c = 'e' ∨ c = 'E' then
        let (negative, rest) :=
          match rest with
          | '+' :: rest => (false, rest)
          | '-' :: rest => (true, rest)
          | rest => (false, rest)
        let (digits, rest) := splitDigits rest
        if digits.isEmpty then none
        else
          let size : Int := Number.digitsValue 0 digits
          some (if negative then start - size else start + size, rest)
      else some (start, c :: rest)

/-- A point with its digits, if the text has one, gathered into the significand. -/
def fraction (significand : Nat) (start : Int) : Reader (Nat × Int)
  | '.' :: rest =>
      let (digits, rest) := splitDigits rest
      if digits.isEmpty then none
      else
        let (significand, left) := Number.gather significand digits
        some ((significand, start - (digits.length - left.length : Nat)), rest)
  | rest => some ((significand, start), rest)

def startsFraction : List Char → Bool
  | c :: _ => c == '.' || c == 'e' || c == 'E'
  | [] => false

/-- The document of a floating point number. -/
def floatValue? (negative : Bool) (magnitude : Float) : Option Value :=
  let number := if negative then -magnitude else magnitude
  if finite : number.isFinite = true then some (.float number finite) else none

/-- A whole number without fraction and exponent, whose digits all fit.  Zero with
a sign, and what is too small for 64 bits with a sign, are floating point. -/
def integerValue? (negative : Bool) (magnitude : Nat) : Option Value :=
  if negative then
    if magnitude = 0 ∨ 9223372036854775808 < magnitude then
      floatValue? true magnitude.toUInt64.toFloat
    else (Integer.ofInt? (-magnitude)).map Value.int
  else (Integer.ofInt? magnitude).map Value.int

/-- The rest of a number after its sign. -/
def unsigned (negative : Bool) : Reader Value := fun text =>
  let (digits, rest) := splitDigits text
  match digits with
  | [] => none
  | '0' :: _ :: _ => none
  | digits =>
      let (significand, left) := Number.gather 0 digits
      if left.isEmpty && !startsFraction rest then
        (integerValue? negative significand).map fun value => (value, rest)
      else
        match fraction significand left.length rest with
        | none => none
        | some ((significand, start), rest) =>
            match exponent start rest with
            | none => none
            | some (power, rest) =>
                match Number.scale? significand power with
                | none => none
                | some magnitude =>
                    (floatValue? negative magnitude).map fun value => (value, rest)

def number : Reader Value
  | '-' :: rest => unsigned true rest
  | text => unsigned false text

/-- A document with at most `depth` arrays and objects inside each other. -/
def value : Nat → Reader Value
  | _, 'n' :: 'u' :: 'l' :: 'l' :: rest => some (.null, rest)
  | _, 't' :: 'r' :: 'u' :: 'e' :: rest => some (.bool true, rest)
  | _, 'f' :: 'a' :: 'l' :: 's' :: 'e' :: rest => some (.bool false, rest)
  | _, '"' :: rest =>
      (Text.unquote? rest).map fun (text, rest) => (.string (String.ofList text), rest)
  | depth + 1, '[' :: rest =>
      (enclosed (value depth) ']' rest).map fun (items, rest) => (.array items, rest)
  | depth + 1, '{' :: rest =>
      (enclosed (keyed (value depth)) '}' rest).map fun (members, rest) =>
        (.object (Members.ofList members), rest)
  | _, text => number text

end Reader

/-- How many arrays and objects may lie inside each other in a text that is
read. -/
def Value.nestingLimit : Nat :=
  127

/-- The document that a whole text writes. -/
def Value.read? (text : List Char) : Option Value :=
  match Reader.value nestingLimit (Reader.skipSpace text) with
  | none => none
  | some (value, rest) => if (Reader.skipSpace rest).isEmpty then some value else none

end CheckedQuery

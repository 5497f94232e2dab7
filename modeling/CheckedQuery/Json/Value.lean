import CheckedQuery.Json.Members

/-!
# Documents

A document is what a query returns and what a validator looks at.  Whole numbers
of 64 bits and floating point numbers are two kinds, and the comparison of two
documents never crosses them.
-/

namespace CheckedQuery

/-- A whole number that fits into 64 bits, with or without a sign. -/
structure Integer where
  val : Int
  lower : -9223372036854775808 ≤ val
  upper : val < 18446744073709551616
  deriving DecidableEq

namespace Integer

def ofInt? (n : Int) : Option Integer :=
  if bounds : -9223372036854775808 ≤ n ∧ n < 18446744073709551616 then
    some { val := n, lower := bounds.1, upper := bounds.2 }
  else none

/-- The nearest floating point number, ties to even. -/
def toFloat (n : Integer) : Float :=
  if n.val < 0 then n.val.toInt64.toFloat else n.val.toNat.toUInt64.toFloat

/-- The number, if it fits into 64 bits with a sign. -/
def signed? (n : Integer) : Option Int :=
  if n.val < 9223372036854775808 then some n.val else none

end Integer

inductive Value where
  | null
  | bool (truth : Bool)
  | int (number : Integer)
  | float (number : Float) (finite : number.isFinite = true)
  | string (text : String)
  | array (items : List Value)
  | object (members : MembersAbove Value none)

namespace Value

/-- The word for the kind of a document. -/
def typeName : Value → String
  | .null => "null"
  | .bool _ => "boolean"
  | .int _ => "number"
  | .float _ _ => "number"
  | .string _ => "string"
  | .array _ => "array"
  | .object _ => "object"

def isNull : Value → Bool
  | .null => true
  | _ => false

def asString? : Value → Option String
  | .string text => some text
  | _ => none

def asItems? : Value → Option (List Value)
  | .array items => some items
  | _ => none

def asMembers? : Value → Option (Members Value)
  | .object members => some members
  | _ => none

/-- A number of either kind, as a floating point number. -/
def asFloat? : Value → Option Float
  | .int number => some number.toFloat
  | .float number _ => some number
  | _ => none

/-- A whole number that fits into 64 bits with a sign. -/
def asSigned? : Value → Option Int
  | .int number => number.signed?
  | _ => none

/-- The member under a key.  Only objects have members. -/
def member? (value : Value) (key : String) : Option Value :=
  match value with
  | .object members => members.get? key
  | _ => none

def emptyObject : Value :=
  .object .nil

mutual

/-- Equality of documents.  A whole number never equals a floating point number;
the two zeros of floating point are equal. -/
def same : Value → Value → Bool
  | .null, .null => true
  | .bool left, .bool right => left == right
  | .int left, .int right => left.val == right.val
  | .float left _, .float right _ => left == right
  | .string left, .string right => left == right
  | .array left, .array right => sameItems left right
  | .object left, .object right => sameMembers left right
  | _, _ => false

/-- Item by item counterpart of `same`. -/
def sameItems : List Value → List Value → Bool
  | [], [] => true
  | left :: lefts, right :: rights => same left right && sameItems lefts rights
  | _, _ => false

/-- Member by member counterpart of `same`. -/
def sameMembers {low bound : Option String} :
    MembersAbove Value low → MembersAbove Value bound → Bool
  | .nil, .nil => true
  | .cons key _ left lefts, .cons other _ right rights =>
      key == other && same left right && sameMembers lefts rights
  | _, _ => false

end

/-- How many arrays and objects lie around the innermost document. -/
def nesting : Value → Nat
  | .array items => itemsNesting items + 1
  | .object members => membersNesting members + 1
  | _ => 0
where
  itemsNesting : List Value → Nat
    | [] => 0
    | item :: items => max (nesting item) (itemsNesting items)
  membersNesting {low : Option String} : MembersAbove Value low → Nat
    | .nil => 0
    | .cons _ _ value rest => max (nesting value) (membersNesting rest)

end Value

end CheckedQuery

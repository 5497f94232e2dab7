/-!
# Reading floating point numbers

The digits of a number are gathered into a significand of 64 bits for as long as
they fit.  A digit of the whole part that no longer fits counts as a power of
ten, and one of the fraction is passed over.  The significand is then scaled by
its power of ten in floating point, so the last bit is that of a product or a
quotient and not always the nearest to the text.
-/

namespace CheckedQuery.Number

/-- The value of a run of decimal digits, continuing from `start`. -/
def digitsValue (start : Nat) (digits : List Char) : Nat :=
  digits.foldl (fun value digit => value * 10 + (digit.toNat - 48)) start

/-- Gather digits while the significand stays below 2 to the power 64.  The result
is the significand and the digits left over. -/
def gather (significand : Nat) : List Char → Nat × List Char
  | [] => (significand, [])
  | digit :: digits =>
      let next := significand * 10 + (digit.toNat - 48)
      if next < 18446744073709551616 then gather next digits
      else (significand, digit :: digits)

/-- Ten to a power that floating point can hold. -/
def powerOfTen (exponent : Nat) : Float :=
  Float.ofScientific 1 false exponent

/-- Divide by ten to a power, in steps of at most 308. -/
def scaleDown (number : Float) (exponent : Nat) : Float :=
  if exponent ≤ 308 then number / powerOfTen exponent
  else if number == 0 then number
  else scaleDown (number / powerOfTen 308) (exponent - 308)
termination_by exponent

/-- A significand times a power of ten.  A number beyond the finite ones is
refused. -/
def scale? (significand : Nat) (exponent : Int) : Option Float :=
  let number := significand.toUInt64.toFloat
  if exponent < 0 then some (scaleDown number exponent.natAbs)
  else if number == 0 then some number
  else if exponent ≤ 308 then
    let scaled := number * powerOfTen exponent.natAbs
    if scaled.isInf then none else some scaled
  else none

end CheckedQuery.Number

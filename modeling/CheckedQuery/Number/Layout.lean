import CheckedQuery.Number.Decimal

/-!
# Layouts of floating point numbers

How the digits of a number are set out: with a point among the digits, or with
one digit before the point and an exponent behind.  Numbers in documents and
numbers in messages differ in these decisions only.
-/

namespace CheckedQuery

/-- The decisions that turn digits into text. -/
structure Layout where
  tie : Tie
  /-- Whether a leading digit at this power of ten is written without exponent. -/
  positional : Int → Bool
  /-- What follows a whole number that is written without exponent. -/
  wholeEnding : List Char

namespace Layout

/-- Numbers in a document: an exponent below -5 or above 15 is written out, and
a whole number keeps one zero after the point. -/
def document : Layout :=
  { tie := .toEven
    positional := fun power => -5 ≤ power && power ≤ 15
    wholeEnding := ['.', '0'] }

/-- Numbers in a message: never an exponent, and nothing after a whole number. -/
def message : Layout :=
  { tie := .up
    positional := fun _ => true
    wholeEnding := [] }

/-- Digits around a point, the leading one at ten to the power `power`. -/
def positionalText (layout : Layout) (digits : List Char) (power : Int) : List Char :=
  if power < 0 then
    '0' :: '.' :: (List.replicate (-power - 1).toNat '0' ++ digits)
  else
    let whole := power.toNat + 1
    if digits.length ≤ whole then
      digits ++ List.replicate (whole - digits.length) '0' ++ layout.wholeEnding
    else
      digits.take whole ++ '.' :: digits.drop whole

/-- One digit before the point, and a signed exponent. -/
def exponentText (digits : List Char) (power : Int) : List Char :=
  let mantissa :=
    match digits with
    | [] => []
    | [only] => [only]
    | first :: rest => first :: '.' :: rest
  let sign := if power < 0 then '-' else '+'
  mantissa ++ 'e' :: sign :: Nat.toDigits 10 power.natAbs

/-- The magnitude of a finite number. -/
def magnitudeText (layout : Layout) (x : Float) : List Char :=
  let decimal := Decimal.shortest layout.tie x
  let digits := Nat.toDigits 10 decimal.digits
  let power := decimal.exponent + digits.length - 1
  if layout.positional power then layout.positionalText digits power
  else exponentText digits power

def text (layout : Layout) (x : Float) : List Char :=
  if x.isNaN then ['N', 'a', 'N']
  else
    let magnitude := if x.isInf then ['i', 'n', 'f'] else layout.magnitudeText x
    if Decimal.isNegative x then '-' :: magnitude else magnitude

end Layout

end CheckedQuery

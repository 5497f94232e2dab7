/-!
# Shortest decimal digits

A binary floating point number stands for every real number that rounds to it.
Of the decimals among them the shortest is taken, and of the shortest the one
nearest to the number itself.  An exact tie between two goes by a rule that the
caller chooses.
-/

namespace CheckedQuery

/-- The number `digits` times ten to the power `exponent`. -/
structure Decimal where
  digits : Nat
  exponent : Int
  deriving DecidableEq

/-- Which of two equally near neighbours is taken. -/
inductive Tie where
  | toEven
  | up
  deriving DecidableEq

namespace Decimal

def isNegative (x : Float) : Bool :=
  x.toBits.toNat.testBit 63

/-- The unit behind the fraction bits of a number. -/
def hiddenBit : Nat :=
  1 <<< 52

def exponentField (x : Float) : Nat :=
  x.toBits.toNat / hiddenBit % 2048

def fractionField (x : Float) : Nat :=
  x.toBits.toNat % hiddenBit

/-- The whole number `m` for which the magnitude is `m` times a power of two. -/
def significand (x : Float) : Nat :=
  if exponentField x = 0 then fractionField x else fractionField x + hiddenBit

/-- The power of two that goes with `significand`. -/
def binaryExponent (x : Float) : Int :=
  (Nat.max (exponentField x) 1 : Nat) - 1075

/-- The reals that round to a number, as fractions over one denominator. -/
structure Rounding where
  low : Nat
  exact : Nat
  high : Nat
  denominator : Nat
  inclusive : Bool

/-- The reals that round to the magnitude of `x`: half way to each neighbour, the
ends belonging to it exactly if its significand is even. -/
def rounding (x : Float) : Rounding :=
  let m := significand x
  let nearer := fractionField x = 0 ∧ 1 < exponentField x
  let scale := binaryExponent x - 2
  let factor := 1 <<< scale.toNat
  { low := (if nearer then 4 * m - 1 else 4 * m - 2) * factor
    exact := 4 * m * factor
    high := (4 * m + 2) * factor
    denominator := 1 <<< (-scale).toNat
    inclusive := m % 2 = 0 }

/-- Whether `numerator / denominator` rounds to the number. -/
def Rounding.holds (reals : Rounding) (numerator denominator : Nat) : Bool :=
  let low := reals.low * denominator
  let high := reals.high * denominator
  let point := numerator * reals.denominator
  if reals.inclusive then low ≤ point && point ≤ high
  else low < point && point < high

/-- The power of ten just above a fraction that is not zero. -/
def magnitude (numerator denominator : Nat) : Int :=
  if denominator ≤ numerator then (Nat.toDigits 10 (numerator / denominator)).length
  else 1 - ((Nat.toDigits 10 (denominator / numerator)).length : Int)

/-- The nearest decimal on the grid of step ten to the power `exponent` that
rounds to the number, if either neighbour on the grid does. -/
def nearestOn? (tie : Tie) (reals : Rounding) (exponent : Int) : Option Decimal :=
  let stepNumerator := Nat.pow 10 exponent.toNat
  let stepDenominator := Nat.pow 10 (-exponent).toNat
  let point := reals.exact * stepDenominator
  let step := stepNumerator * reals.denominator
  let below := point / step
  let holds (digits : Nat) : Bool := reals.holds (digits * stepNumerator) stepDenominator
  let remainder := point % step
  let preferAbove : Bool :=
    if 2 * remainder = step then
      match tie with
      | .up => true
      | .toEven => below % 2 = 1
    else step < 2 * remainder
  match holds below && below != 0, holds (below + 1) with
  | true, true => some ⟨if preferAbove then below + 1 else below, exponent⟩
  | true, false => some ⟨below, exponent⟩
  | false, true => some ⟨below + 1, exponent⟩
  | false, false => none

/-- Move the zeros at the end of the digits into the exponent, up to `count`. -/
def trim : Nat → Decimal → Decimal
  | 0, decimal => decimal
  | count + 1, decimal =>
      if decimal.digits % 10 = 0 then
        trim count { digits := decimal.digits / 10, exponent := decimal.exponent + 1 }
      else decimal

/-- The first grid of at most `count` more digits, `used` digits in, that has a
decimal for the number. -/
def shortestFrom (tie : Tie) (reals : Rounding) (top : Int) (used : Nat) : Nat → Option Decimal
  | 0 => none
  | count + 1 =>
      match nearestOn? tie reals (top - used) with
      | some decimal => some decimal
      | none => shortestFrom tie reals top (used + 1) count

/-- The shortest decimal that rounds to the magnitude of a finite number.
Seventeen digits always suffice. -/
def shortest (tie : Tie) (x : Float) : Decimal :=
  if significand x = 0 then { digits := 0, exponent := 0 }
  else
    let reals := rounding x
    let top := magnitude reals.exact reals.denominator
    match shortestFrom tie reals top 1 17 with
    | some decimal => trim 17 decimal
    | none => { digits := significand x, exponent := 0 }

end Decimal

end CheckedQuery

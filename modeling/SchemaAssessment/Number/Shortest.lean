/-
The shortest decimal text of a number of 64 bits. Every decimal number in the
interval around a floating-point number is read back as that number; the ends of
the interval belong to it exactly when the mantissa is even. The text has the
fewest digits with which the interval is hit, and of two hits the nearer one, or the
greater one where they are equally near. It is written out with all its zeros, never
with an exponent.
-/

import SchemaAssessment.Number.Binary
import SchemaAssessment.Number.Decimal

namespace SchemaAssessment.Binary

/-- A positive number and the interval of the decimals that are read back as it, all over one
denominator. -/
structure Neighbourhood where
  low : Nat
  value : Nat
  high : Nat
  denominator : Nat
  /-- The two ends belong to the interval. -/
  closed : Bool
  deriving DecidableEq, Repr, Inhabited

/-- The neighbourhood of `mantissa * 2 ^ exponent`. Below a power of two the numbers lie twice
as close. -/
def neighbourhood (mantissa : Nat) (exponent : Int) : Neighbourhood :=
  let gap := if mantissa = twoTo (double.precision - 1) && double.leastExponent < exponent
    then 1 else 2
  let (factor, denominator) := match exponent with
    | .ofNat shift => (twoTo shift, 4)
    | .negSucc shift => (1, 4 * twoTo (shift + 1))
  ⟨(4 * mantissa - gap) * factor, 4 * mantissa * factor, (4 * mantissa + 2) * factor, denominator,
    mantissa % 2 == 0⟩

/-- A decimal `count * 10 ^ power` lies in the interval. -/
def Neighbourhood.holds (around : Neighbourhood) (count : Nat) (power : Int) : Bool :=
  let (point, scale) := match power with
    | .ofNat power => (count * tenTo power * around.denominator, 1)
    | .negSucc power => (count * around.denominator, tenTo (power + 1))
  if around.closed then around.low * scale ≤ point && point ≤ around.high * scale
  else around.low * scale < point && point < around.high * scale

/-- How far a decimal `count * 10 ^ power` is from the number, in units that depend on the
power alone. -/
def Neighbourhood.distance (around : Neighbourhood) (count : Nat) (power : Int) : Nat :=
  let (point, centre) := match power with
    | .ofNat power => (count * tenTo power * around.denominator, around.value)
    | .negSucc power => (count * around.denominator, around.value * tenTo (power + 1))
  (point - centre) + (centre - point)

/-- The greatest `count` with `count * 10 ^ power` at most the number. -/
def Neighbourhood.below (around : Neighbourhood) (power : Int) : Nat :=
  match power with
  | .ofNat power => around.value / (around.denominator * tenTo power)
  | .negSucc power => around.value * tenTo (power + 1) / around.denominator

/-- The power of ten above the first digit of a number below one; the first argument bounds
the search. -/
def zerosAfterPoint (bound numerator denominator : Nat) : Nat :=
  match bound with
  | 0 => 0
  | bound + 1 =>
    if denominator ≤ numerator * 10 then 0
    else zerosAfterPoint bound (numerator * 10) denominator + 1

/-- The least power of ten above a positive quotient. -/
def decimalOrder (numerator denominator : Nat) : Int :=
  if denominator ≤ numerator then (Nat.toDigits 10 (numerator / denominator)).length
  else -(zerosAfterPoint 400 numerator denominator : Int)

/-- The nearest decimal of the interval on the grid of a power of ten, if the grid hits it. Of two
equally near ones it is the greater. -/
def Neighbourhood.hit? (around : Neighbourhood) (power : Int) : Option Nat :=
  let below := around.below power
  let lower := around.holds below power
  let upper := around.holds (below + 1) power
  if lower && upper then
    some (if around.distance (below + 1) power ≤ around.distance below power then below + 1
      else below)
  else if lower then some below
  else if upper then some (below + 1)
  else none

/-- The first hit on finer and finer grids, with the power of ten of its grid. -/
def Neighbourhood.firstHit (around : Neighbourhood) : Nat → Int → Nat × Int
  | 0, power => (around.below power, power)
  | grids + 1, power =>
    match around.hit? power with
    | some count => (count, power)
    | none => around.firstHit grids (power - 1)

/-- The shortest decimal `count * 10 ^ power` that is read back as a positive number. -/
def shortestDecimal (mantissa : Nat) (exponent : Int) : Nat × Int :=
  let around := neighbourhood mantissa exponent
  around.firstHit 20 (decimalOrder around.value around.denominator - 1)

/-- A decimal `count * 10 ^ power` written out. -/
def positional (count : Nat) (power : Int) : List Char :=
  match power with
  | .ofNat power => Decimal.digits (count * tenTo power)
  | .negSucc power => (Decimal.text ⟨count, power + 1⟩).toList

/-- The text of a number: `NaN`, `INF`, or the shortest decimal with its sign. -/
def text : Binary → String
  | .nan => "NaN"
  | .infinite negative => if negative then "-INF" else "INF"
  | .finite negative mantissa exponent =>
    let sign := if negative then ['-'] else []
    if mantissa = 0 then String.ofList (sign ++ ['0'])
    else
      let (count, power) := shortestDecimal mantissa exponent
      String.ofList (sign ++ positional count power)

end SchemaAssessment.Binary

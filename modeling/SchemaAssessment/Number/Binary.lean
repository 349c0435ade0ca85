/-
Binary floating-point numbers. A finite number is a sign, a mantissa and an
exponent of two; a format says how many bits the mantissa has and how far the
exponent goes. Every rounding is to the nearest number of the format, a half going
to the even mantissa, and is done on exact quotients of natural numbers.
-/

import SchemaAssessment.Number.Digits

namespace SchemaAssessment

/-- A floating-point number: not a number, an infinity, or
`± mantissa * 2 ^ exponent`. -/
inductive Binary where
  | nan
  | infinite (negative : Bool)
  | finite (negative : Bool) (mantissa : Nat) (exponent : Int)
  deriving DecidableEq, Repr, Inhabited

namespace Binary

/-- The shape of a format: the bits of a mantissa, the least exponent, and the greatest one. -/
structure Format where
  precision : Nat
  leastExponent : Int
  greatestExponent : Int
  deriving DecidableEq, Repr, Inhabited

/-- Numbers of 32 bits. -/
def single : Format := ⟨24, -149, 104⟩

/-- Numbers of 64 bits. -/
def double : Format := ⟨53, -1074, 971⟩

/-! ### Rounding a quotient -/

/-- The quotient `numerator / (denominator * 2 ^ exponent)` rounded to the nearest natural
number, a half to the even one. -/
def scaledQuotient (numerator denominator : Nat) (exponent : Int) : Nat :=
  let (top, bottom) := match exponent with
    | .ofNat shift => (numerator, denominator * twoTo shift)
    | .negSucc shift => (numerator * twoTo (shift + 1), denominator)
  let whole := top / bottom
  let rest := top % bottom
  if bottom < 2 * rest || (2 * rest == bottom && whole % 2 == 1) then whole + 1 else whole

/-- The greatest `power` with `2 ^ power * denominator ≤ numerator`, for positive arguments. -/
def binaryOrder (numerator denominator : Nat) : Int :=
  let guess : Int := (numerator.log2 : Int) - denominator.log2
  let reached : Bool := match guess with
    | .ofNat shift => denominator * twoTo shift ≤ numerator
    | .negSucc shift => denominator ≤ numerator * twoTo (shift + 1)
  if reached then guess else guess - 1

/-- The number of a format nearest to a positive quotient. -/
def ofQuotient (format : Format) (negative : Bool) (numerator denominator : Nat) : Binary :=
  if numerator = 0 then .finite negative 0 format.leastExponent
  else
    let exponent := max format.leastExponent
      (binaryOrder numerator denominator - (format.precision - 1))
    let mantissa := scaledQuotient numerator denominator exponent
    let (mantissa, exponent) :=
      if mantissa = twoTo format.precision then (twoTo (format.precision - 1), exponent + 1)
      else (mantissa, exponent)
    if format.greatestExponent < exponent then .infinite negative
    else .finite negative mantissa exponent

/-- The number of 64 bits nearest to `± digits * 10 ^ power`. Powers far outside the range of
the format are settled by the number of digits alone. -/
def ofScientific (negative : Bool) (digits : Nat) (power : Int) : Binary :=
  let order : Int := power + (Nat.toDigits 10 digits).length
  if digits = 0 || order < -400 then .finite negative 0 double.leastExponent
  else if 400 < order then .infinite negative
  else match power with
    | .ofNat power => ofQuotient double negative (digits * tenTo power) 1
    | .negSucc power => ofQuotient double negative digits (tenTo (power + 1))

/-- The number of 32 bits nearest to a number, seen again as a number of 64 bits. -/
def toSingle : Binary → Binary
  | .finite negative mantissa exponent =>
    let rounded := match exponent with
      | .ofNat shift => ofQuotient single negative (mantissa * twoTo shift) 1
      | .negSucc shift => ofQuotient single negative mantissa (twoTo (shift + 1))
    match rounded with
    | .finite negative mantissa exponent =>
      match exponent with
      | .ofNat shift => ofQuotient double negative (mantissa * twoTo shift) 1
      | .negSucc shift => ofQuotient double negative mantissa (twoTo (shift + 1))
    | other => other
  | other => other

/-! ### Order -/

/-- A finite number in units of the least positive number of 64 bits. -/
def units (negative : Bool) (mantissa : Nat) (exponent : Int) : Int :=
  let magnitude : Int := mantissa * twoTo (exponent - double.leastExponent).toNat
  if negative then -magnitude else magnitude

/-- The order of two numbers; nothing compares with what is not a number. -/
def compare : Binary → Binary → Option Ordering
  | .nan, _ => none
  | _, .nan => none
  | .infinite left, .infinite right =>
    some (if left == right then .eq else if left then .lt else .gt)
  | .infinite negative, .finite .. => some (if negative then .lt else .gt)
  | .finite .., .infinite negative => some (if negative then .gt else .lt)
  | .finite leftSign leftMantissa leftExponent, .finite rightSign rightMantissa rightExponent =>
    some (Ord.compare (units leftSign leftMantissa leftExponent)
      (units rightSign rightMantissa rightExponent))

/-- Two numbers are the same value; what is not a number is the same as itself. -/
def same : Binary → Binary → Bool
  | .nan, .nan => true
  | left, right => left.compare right == some .eq

end Binary

end SchemaAssessment

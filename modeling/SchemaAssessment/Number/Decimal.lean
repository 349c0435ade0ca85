/-
Decimal numbers as a whole mantissa over a power of ten. The mantissa has at most
96 bits and the power at most 28. A numeral whose fraction does not fit is rounded
where it stops fitting, a half going up; a numeral whose whole part does not fit is
refused. Two decimals are compared as numbers, so trailing zeros do not matter.
-/

import SchemaAssessment.Number.Digits
import SchemaAssessment.Text.Digit

namespace SchemaAssessment

/-- The number `mantissa / 10 ^ scale`. -/
structure Decimal where
  mantissa : Int
  scale : Nat
  deriving DecidableEq, Repr, Inhabited

namespace Decimal

/-- A whole number. -/
def ofInt (value : Int) : Decimal := ⟨value, 0⟩

/-! ### Order -/

/-- The order of two decimals as numbers. -/
def compare (left right : Decimal) : Ordering :=
  Ord.compare (left.mantissa * tenTo right.scale) (right.mantissa * tenTo left.scale)

/-- Two decimals are the same number. -/
def same (left right : Decimal) : Bool := left.compare right == .eq

/-- A decimal is the same number as itself. -/
theorem same_self (value : Decimal) : value.same value = true := by
  simp [same, compare]

/-! ### Normal form and text -/

/-- Drops zeros at the end of the fraction, of which there are at most as many places as the
first number says. -/
def dropZeros : Nat → Int → Decimal
  | 0, mantissa => ⟨mantissa, 0⟩
  | scale + 1, mantissa =>
    if mantissa % 10 = 0 then dropZeros scale (mantissa / 10) else ⟨mantissa, scale + 1⟩

/-- The same number without zeros at the end of its fraction. -/
def normalize (value : Decimal) : Decimal := dropZeros value.scale value.mantissa

/-- The digits of a natural number in base ten. -/
def digits (n : Nat) : List Char := Nat.toDigits 10 n

/-- Digits with zeros in front, up to a length. -/
def padded (length : Nat) (n : Nat) : List Char :=
  List.replicate (length - (digits n).length) '0' ++ digits n

/-- The sign, the whole part, and the fraction after a point if there is one. -/
def text (value : Decimal) : String :=
  let normal := value.normalize
  let shown := padded (normal.scale + 1) normal.mantissa.natAbs
  let whole := shown.take (shown.length - normal.scale)
  let fraction := shown.drop (shown.length - normal.scale)
  let sign := if normal.mantissa < 0 then ['-'] else []
  String.ofList (sign ++ whole ++ if fraction.isEmpty then [] else '.' :: fraction)

/-- How many digits a number needs: those of its mantissa, all places of its fraction, and at
least one. -/
def totalDigits (value : Decimal) : Nat :=
  let normal := value.normalize
  let significant := if normal.mantissa = 0 then 0 else (digits normal.mantissa.natAbs).length
  max (max significant normal.scale) 1

/-- How many places the fraction of a number needs. -/
def fractionDigits (value : Decimal) : Nat := value.normalize.scale

/-! ### Reading numerals -/

/-- Mantissas lie below this bound. -/
def mantissaBound : Nat := twoTo 96

/-- The greatest number of places after the point. -/
def maximalScale : Nat := 28

/-- A sign, the digits before the point, and the digits after it. -/
structure Numeral where
  negative : Bool
  whole : List Char
  fraction : List Char
  deriving DecidableEq, Repr, Inhabited

/-- The optional sign in front of a number. -/
def splitSign : List Char → Bool × List Char
  | '-' :: rest => (true, rest)
  | '+' :: rest => (false, rest)
  | chars => (false, chars)

/-- The parts of an unsigned numeral: digits with or without a point, at least one digit. -/
def splitUnsigned (chars : List Char) : Option (List Char × List Char × List Char) :=
  let whole := chars.takeWhile Text.isDecimalDigit
  match chars.dropWhile Text.isDecimalDigit with
  | '.' :: rest =>
    let fraction := rest.takeWhile Text.isDecimalDigit
    if whole.isEmpty && fraction.isEmpty then none
    else some (whole, fraction, rest.dropWhile Text.isDecimalDigit)
  | rest => if whole.isEmpty then none else some (whole, [], rest)

/-- The parts of a numeral that is a whole text. -/
def numeral? (chars : List Char) : Option Numeral :=
  let (negative, unsigned) := splitSign chars
  match splitUnsigned unsigned with
  | some (whole, fraction, []) => some ⟨negative, whole, fraction⟩
  | _ => none

/-- The mantissa of the digits before the point. -/
def readWhole (mantissa : Nat) : List Char → Option Nat
  | [] => some mantissa
  | c :: rest =>
    match Digits.valueIn? 10 c with
    | none => none
    | some digit =>
      if mantissa * 10 + digit < mantissaBound then readWhole (mantissa * 10 + digit) rest
      else none

/-- Rounds by the first digit that was left out. Where the mantissa overflows, one more place
of the fraction is given up; with no place left there is no result. -/
def roundBy (digit mantissa scale : Nat) : Option (Nat × Nat) :=
  if digit < 5 then some (mantissa, scale)
  else if mantissa + 1 < mantissaBound then some (mantissa + 1, scale)
  else if scale = 0 then none
  else some ((mantissa + 5) / 10, scale - 1)

/-- Goes on with the digits after the point as long as they fit, then rounds by the next one.
The value of the digits after that one does not matter, but digits they have to be. -/
def readFraction (mantissa scale : Nat) : List Char → Option (Nat × Nat)
  | [] => some (mantissa, scale)
  | c :: rest =>
    match Digits.valueIn? 10 c with
    | none => none
    | some digit =>
      if scale < maximalScale && mantissa * 10 + digit < mantissaBound then
        readFraction (mantissa * 10 + digit) (scale + 1) rest
      else if rest.all Text.isAsciiDigit then roundBy digit mantissa scale
      else none

/-- The number that a numeral stands for, if its whole part fits and its digits are the ten
digits `0` to `9`. -/
def ofNumeral? (numeral : Numeral) : Option Decimal := do
  let whole ← readWhole 0 numeral.whole
  let (mantissa, scale) ← readFraction whole 0 numeral.fraction
  return ⟨if numeral.negative then -(mantissa : Int) else mantissa, scale⟩

end Decimal

end SchemaAssessment

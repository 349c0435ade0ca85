/-
Powers of two and of ten, with which bounds of machine words and the places of numerals
are written; and digits of natural numbers in bases up to sixteen. The digits above nine
are letters, which are read in either case.
-/

namespace SchemaAssessment

/-! ### Powers -/

/-- Two to a power. -/
def twoTo (exponent : Nat) : Nat := Nat.pow 2 exponent

/-- Ten to a power. -/
def tenTo (exponent : Nat) : Nat := Nat.pow 10 exponent

/-- The next power of two is twice as large. -/
theorem twoTo_succ (exponent : Nat) : twoTo (exponent + 1) = 2 * twoTo exponent :=
  Nat.mul_comm _ _

/-- The next power of ten is ten times as large. -/
theorem tenTo_succ (exponent : Nat) : tenTo (exponent + 1) = 10 * tenTo exponent :=
  Nat.mul_comm _ _

/-- A power of two is positive. -/
theorem twoTo_pos (exponent : Nat) : 0 < twoTo exponent := by
  induction exponent with
  | zero => decide
  | succ exponent inductionHypothesis =>
    rw [twoTo_succ]
    exact Nat.mul_pos (by decide) inductionHypothesis

/-- A power of ten is positive. -/
theorem tenTo_pos (exponent : Nat) : 0 < tenTo exponent := by
  induction exponent with
  | zero => decide
  | succ exponent inductionHypothesis =>
    rw [tenTo_succ]
    exact Nat.mul_pos (by decide) inductionHypothesis

/-! ### Digits -/

namespace Digits

/-- The value of a figure, or of one of the first six letters. -/
def value? (c : Char) : Option Nat :=
  if '0' ≤ c && c ≤ '9' then some (c.toNat - '0'.toNat)
  else if 'a' ≤ c && c ≤ 'f' then some (c.toNat - 'a'.toNat + 10)
  else if 'A' ≤ c && c ≤ 'F' then some (c.toNat - 'A'.toNat + 10)
  else none

/-- The value of a digit of a base. -/
def valueIn? (base : Nat) (c : Char) : Option Nat := (value? c).filter (· < base)

/-- The number that digits of a base write. No digits at all write zero. -/
def number? (base : Nat) (digits : List Char) : Option Nat :=
  digits.foldlM (fun number c => (valueIn? base c).map (base * number + ·)) 0

/-- The upper-case hexadecimal digit of a number below sixteen. -/
def upperHex (n : Nat) : Char :=
  if n < 10 then Char.ofNat ('0'.toNat + n) else Char.ofNat ('A'.toNat + (n - 10))

/-- The hexadecimal digits of a number, in lower case. -/
def lowerHex (n : Nat) : List Char := Nat.toDigits 16 n

/-- The digit that is written for a number is read as that number. -/
theorem value?_upperHex : ∀ n < 16, value? (upperHex n) = some n := by decide

end Digits

end SchemaAssessment

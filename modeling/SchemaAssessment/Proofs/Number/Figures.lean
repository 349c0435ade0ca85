/-
Numbers in the ten figures `0` to `9`. Some figures are read as the number that they write,
other characters are not read at all, and a number is read back from its figures, however
many zeros are put in front of them.
-/

import SchemaAssessment.Number.Decimal
import SchemaAssessment.Time.Lexical

namespace SchemaAssessment

namespace Digits

/-- All characters are figures. -/
def AreFigures (chars : List Char) : Prop := ∀ c ∈ chars, Text.isAsciiDigit c = true

theorem areFigures_nil : AreFigures [] := nofun

theorem AreFigures.append {first second : List Char} (areFigures : AreFigures first)
    (later : AreFigures second) : AreFigures (first ++ second) := fun c member =>
  (List.mem_append.mp member).elim (areFigures c) (later c)

theorem AreFigures.areDecimal {chars : List Char} (areFigures : AreFigures chars) :
    ∀ c ∈ chars, Text.isDecimalDigit c = true := fun c member =>
  Text.isDecimalDigit_of_isAsciiDigit (areFigures c member)

theorem isAsciiDigit_iff {c : Char} :
    Text.isAsciiDigit c = true ↔ '0'.toNat ≤ c.toNat ∧ c.toNat ≤ '9'.toNat := by
  rw [Text.isAsciiDigit, Bool.and_eq_true, decide_eq_true_eq, decide_eq_true_eq]
  exact Iff.rfl

/-- Letters are digits of greater bases only. -/
theorem valueIn?_ten (c : Char) :
    valueIn? 10 c = if Text.isAsciiDigit c then some (c.toNat - '0'.toNat) else none := by
  unfold valueIn? value?
  by_cases figure : Text.isAsciiDigit c = true
  · have small : c.toNat - '0'.toNat < 10 := by
      have := isAsciiDigit_iff.mp figure
      simp only [Char.reduceToNat] at *
      omega
    have digit : ('0' ≤ c && c ≤ '9') = true := figure
    rw [if_pos digit, if_pos figure, Option.filter_some, if_pos (decide_eq_true small)]
  · have other : ¬ ('0' ≤ c && c ≤ '9') = true := figure
    rw [if_neg other, if_neg figure]
    split
    · exact Option.filter_some_neg (by simp)
    · split
      · exact Option.filter_some_neg (by simp)
      · rfl

theorem foldlM_eq_some_iff {start number : Nat} {chars : List Char} :
    chars.foldlM (fun number c => (valueIn? 10 c).map (10 * number + ·)) start = some number ↔
      AreFigures chars ∧ Nat.ofDigitChars 10 chars start = number := by
  induction chars generalizing start with
  | nil => simp [areFigures_nil, Nat.ofDigitChars_nil]
  | cons c rest ofRest =>
    rw [List.foldlM_cons, valueIn?_ten, Nat.ofDigitChars_cons, AreFigures, List.forall_mem_cons]
    by_cases figure : Text.isAsciiDigit c = true
    · rw [if_pos figure, Option.map_some, Option.bind_eq_bind, Option.bind_some, ofRest]
      exact ⟨fun read => ⟨⟨figure, read.1⟩, read.2⟩, fun read => ⟨read.1.2, read.2⟩⟩
    · rw [if_neg figure]
      exact iff_of_false nofun fun read => figure read.1.1

/-- Only figures are read in base ten, and as the number that they write. -/
theorem number?_ten_eq_some_iff {number : Nat} {chars : List Char} :
    number? 10 chars = some number ↔
      AreFigures chars ∧ Nat.ofDigitChars 10 chars 0 = number :=
  foldlM_eq_some_iff

/-- Further figures do not make a number smaller. -/
theorem le_ofDigitChars (chars : List Char) (start : Nat) :
    start ≤ Nat.ofDigitChars 10 chars start := by
  induction chars generalizing start with
  | nil => exact Nat.le_refl start
  | cons c rest ofRest =>
    rw [Nat.ofDigitChars_cons]
    have := ofRest (10 * start + (c.toNat - '0'.toNat))
    omega

end Digits

theorem Time.number?_eq_some_iff {number : Nat} {chars : List Char} :
    Time.number? chars = some number ↔
      chars ≠ [] ∧ Digits.AreFigures chars ∧ Nat.ofDigitChars 10 chars 0 = number := by
  unfold Time.number?
  cases chars with
  | nil => simp
  | cons c rest =>
    rw [List.isEmpty_cons, if_neg Bool.false_ne_true, Digits.number?_ten_eq_some_iff]
    simp

/-! ### The figures of a number -/

namespace Decimal

open Digits (AreFigures)

variable {length n : Nat}

theorem areFigures_digits (n : Nat) : AreFigures (digits n) := fun c member => by
  have digit := Nat.isDigit_of_mem_toDigits (by decide) (by decide) member
  rw [Char.isDigit, Bool.and_eq_true, decide_eq_true_eq, decide_eq_true_eq] at digit
  exact Digits.isAsciiDigit_iff.mpr ⟨digit.1, digit.2⟩

theorem areFigures_padded (length n : Nat) : AreFigures (padded length n) :=
  Digits.AreFigures.append (fun _ zero => List.eq_of_mem_replicate zero ▸ rfl)
    (areFigures_digits n)

/-- A number is read back from its figures; zeros in front do not matter. -/
theorem ofDigitChars_padded (length n : Nat) : Nat.ofDigitChars 10 (padded length n) 0 = n := by
  rw [padded, Nat.ofDigitChars_append, Nat.ofDigitChars_replicate_zero, Nat.mul_zero]
  exact Nat.ofDigitChars_ten_toDigits

theorem length_padded (length n : Nat) :
    (padded length n).length = max length (digits n).length := by
  rw [padded, List.length_append, List.length_replicate]
  omega

/-- A number below a power of ten fits so many places. -/
theorem length_padded_of_lt (some_ : 0 < length) (fits : n < tenTo length) :
    (padded length n).length = length := by
  have short : (digits n).length ≤ length := (Nat.length_toDigits_le_iff (by decide) some_).mpr fits
  rw [length_padded, Nat.max_eq_left short]

theorem padded_ne_nil (length n : Nat) : padded length n ≠ [] := fun empty => by
  have some_ : 0 < (digits n).length := Nat.length_toDigits_pos
  have := length_padded length n
  rw [empty, List.length_nil] at this
  omega

theorem number?_padded (length n : Nat) : Time.number? (padded length n) = some n :=
  Time.number?_eq_some_iff.mpr
    ⟨padded_ne_nil length n, areFigures_padded length n, ofDigitChars_padded length n⟩

end Decimal

end SchemaAssessment

/-
Decimals as rational numbers. Order and sameness of decimals are those of the numbers that
they stand for. A number can be written as a whole number over a power of ten in many ways,
if it can be so at all; the normal form of a decimal is the way with the smallest power, and
every other way is this one with zeros behind it. So how many digits a number needs is a
question about the number, and not about the decimal that stands for it.
-/

import Mathlib.Algebra.Order.Field.Rat
import Mathlib.Algebra.Order.Ring.Abs
import Mathlib.Order.Compare
import Mathlib.Tactic.FieldSimp
import Mathlib.Tactic.Positivity
import SchemaAssessment.Proofs.Number.Decimals

namespace SchemaAssessment.Decimal

variable {value left right : Decimal} {whole : ℤ} {places most : ℕ}

/-- The number that a decimal stands for. -/
def toRat (value : Decimal) : ℚ := value.mantissa / 10 ^ value.scale

theorem cast_tenTo (exponent : Nat) : (tenTo exponent : ℚ) = 10 ^ exponent := by
  show ((10 ^ exponent : Nat) : ℚ) = _
  push_cast
  rfl

/-- Decimals are ordered as the numbers that they stand for. -/
theorem compare_eq (left right : Decimal) :
    left.compare right = Ord.compare left.toRat right.toRat := by
  have positive : (0 : ℚ) < 10 ^ left.scale * 10 ^ right.scale := by positivity
  have ofLeft : ((left.mantissa * tenTo right.scale : ℤ) : ℚ) =
      left.toRat * (10 ^ left.scale * 10 ^ right.scale) := by
    push_cast [cast_tenTo]
    rw [toRat]
    field_simp
  have ofRight : ((right.mantissa * tenTo left.scale : ℤ) : ℚ) =
      right.toRat * (10 ^ left.scale * 10 ^ right.scale) := by
    push_cast [cast_tenTo]
    rw [toRat]
    field_simp
  rw [compare, ← cmp_eq_compare, ← cmp_eq_compare, ← cmp_mul_pos_right positive, ← ofLeft,
    ← ofRight]
  exact (Int.cast_strictMono.cmp_map_eq _ _).symm

theorem same_iff_toRat_eq : left.same right = true ↔ left.toRat = right.toRat := by
  rw [same, beq_iff_eq, compare_eq, compare_eq_iff_eq]

/-! ### The normal form -/

/-- The fraction has no zero at its end. -/
def IsReduced (value : Decimal) : Prop := value.scale = 0 ∨ ¬ value.mantissa % 10 = 0

theorem isReduced_dropZeros (scale : Nat) (mantissa : Int) :
    (dropZeros scale mantissa).IsReduced := by
  induction scale generalizing mantissa with
  | zero => exact .inl rfl
  | succ scale ofFewer =>
    rw [dropZeros]
    split
    · exact ofFewer _
    · rename_i filled
      exact .inr filled

theorem isReduced_normalize (value : Decimal) : value.normalize.IsReduced :=
  isReduced_dropZeros _ _

theorem toRat_normalize (value : Decimal) : value.normalize.toRat = value.toRat :=
  (same_iff_toRat_eq.mp value.same_normalize).symm

/-- Without a zero at the end of its fraction a number has the fewest places, and all other ways to
write it have zeros behind these. -/
theorem IsReduced.of_toRat_eq (reduced : value.IsReduced)
    (number : value.toRat = whole / 10 ^ places) :
    value.scale ≤ places ∧ whole = value.mantissa * 10 ^ (places - value.scale) := by
  have crossed : value.mantissa * 10 ^ places = whole * 10 ^ value.scale := by
    rw [toRat, div_eq_div_iff (by positivity) (by positivity)] at number
    exact_mod_cast number
  have few : value.scale ≤ places := by
    by_contra more
    obtain ⟨further, longer⟩ := Nat.exists_eq_add_of_lt (Nat.lt_of_not_le more)
    rw [longer, Nat.add_assoc, pow_add, mul_comm (10 ^ places : ℤ), ← mul_assoc] at crossed
    have tenfold : value.mantissa = whole * 10 ^ (further + 1) :=
      mul_right_cancel₀ (by positivity) crossed
    have ends : value.mantissa % 10 = 0 := by
      rw [tenfold, pow_succ, ← mul_assoc]
      exact Int.mul_emod_left ..
    exact reduced.elim (fun none => by omega) fun filled => filled ends
  refine ⟨few, ?_⟩
  have split : (10 : ℤ) ^ places = 10 ^ (places - value.scale) * 10 ^ value.scale := by
    rw [← pow_add, Nat.sub_add_cancel few]
  rw [split, ← mul_assoc] at crossed
  exact (mul_right_cancel₀ (by positivity) crossed).symm

/-- Decimals that are the same have one normal form. -/
theorem normalize_eq_of_same (same : left.same right = true) :
    left.normalize = right.normalize := by
  have number : left.normalize.toRat = right.normalize.toRat := by
    rw [toRat_normalize, toRat_normalize, same_iff_toRat_eq.mp same]
  obtain ⟨fewer, further⟩ := (isReduced_normalize left).of_toRat_eq number
  obtain ⟨asFew, -⟩ := (isReduced_normalize right).of_toRat_eq number.symm
  have scale : left.normalize.scale = right.normalize.scale := Nat.le_antisymm fewer asFew
  rw [scale, Nat.sub_self, pow_zero, mul_one] at further
  calc left.normalize = ⟨left.normalize.mantissa, left.normalize.scale⟩ := rfl
    _ = ⟨right.normalize.mantissa, right.normalize.scale⟩ := by rw [further, scale]
    _ = right.normalize := rfl

/-! ### The digits that a number needs -/

theorem totalDigits_of_same (same : left.same right = true) :
    left.totalDigits = right.totalDigits := by
  rw [totalDigits, totalDigits, normalize_eq_of_same same]

theorem fractionDigits_of_same (same : left.same right = true) :
    left.fractionDigits = right.fractionDigits := by
  rw [fractionDigits, fractionDigits, normalize_eq_of_same same]

/-- A number needs no more places than it can be written with. -/
theorem fractionDigits_le_iff : value.fractionDigits ≤ most ↔
    ∃ (whole : ℤ) (places : ℕ), value.toRat = whole / 10 ^ places ∧ places ≤ most := by
  constructor
  · intro few
    exact ⟨value.normalize.mantissa, value.normalize.scale, (toRat_normalize value).symm, few⟩
  · rintro ⟨whole, places, number, few⟩
    have reduced := isReduced_normalize value
    exact (reduced.of_toRat_eq ((toRat_normalize value).trans number)).1.trans few

/-- The digits of a mantissa fit so many places, of which there is at least one. -/
theorem totalDigits_le_iff_normalize (some_ : 1 ≤ most) : value.totalDigits ≤ most ↔
    |value.normalize.mantissa| < 10 ^ most ∧ value.normalize.scale ≤ most := by
  have fits : (if value.normalize.mantissa = 0 then 0
      else (digits value.normalize.mantissa.natAbs).length) ≤ most ↔
        |value.normalize.mantissa| < 10 ^ most := by
    rw [Int.abs_eq_natAbs]
    split
    · rename_i zero
      rw [zero]
      exact iff_of_true (Nat.zero_le _) (by positivity)
    · rw [digits, Nat.length_toDigits_le_iff (by decide) some_]
      norm_cast
  rw [totalDigits, Nat.max_le, Nat.max_le, fits]
  exact ⟨fun all => all.1, fun all => ⟨all, some_⟩⟩

/-- A number needs no more digits than it can be written with, before and after the point. -/
theorem totalDigits_le_iff (some_ : 1 ≤ most) : value.totalDigits ≤ most ↔
    ∃ (whole : ℤ) (places : ℕ),
      value.toRat = whole / 10 ^ places ∧ |whole| < 10 ^ most ∧ places ≤ most := by
  rw [totalDigits_le_iff_normalize some_]
  constructor
  · rintro ⟨small, few⟩
    exact ⟨value.normalize.mantissa, value.normalize.scale, (toRat_normalize value).symm, small,
      few⟩
  · rintro ⟨whole, places, number, small, few⟩
    obtain ⟨fewer, zeros⟩ :=
      (isReduced_normalize value).of_toRat_eq ((toRat_normalize value).trans number)
    refine ⟨lt_of_le_of_lt ?_ small, fewer.trans few⟩
    rw [zeros, abs_mul]
    exact le_mul_of_one_le_right (abs_nonneg _) (Int.one_le_abs (by positivity))

end SchemaAssessment.Decimal

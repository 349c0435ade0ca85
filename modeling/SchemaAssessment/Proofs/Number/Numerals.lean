/-
Numerals that write one number are read alike. A numeral may have zeros in front of its whole
part and behind its fraction, a sign that does not matter, and a point with nothing on one of
its sides; the number that it writes is the same. Reading goes digit by digit and rounds where
the digits stop fitting, so what is read hangs on the digits before that place alone. Zeros in
front of them do not matter to the mantissa, and zeros behind them are read as further places
or as the digit that rounds nothing.
-/

import Mathlib.Tactic.Linarith
import SchemaAssessment.Proofs.Number.Rationals

namespace SchemaAssessment.Decimal

open Digits (AreFigures)

/-! ### The number that is written -/

/-- A numeral in the ten figures `0` to `9`. -/
structure Numeral.IsFigured (numeral : Numeral) : Prop where
  whole : AreFigures numeral.whole
  fraction : AreFigures numeral.fraction

/-- The number that a numeral writes, without its sign. -/
def Numeral.magnitude (numeral : Numeral) : ℚ :=
  Nat.ofDigitChars 10 numeral.whole 0 +
    Nat.ofDigitChars 10 numeral.fraction 0 / 10 ^ numeral.fraction.length

/-- The sign of a number in front of it. -/
def signed (negative : Bool) (number : ℚ) : ℚ := if negative then -number else number

/-- The number that a numeral writes. -/
def Numeral.toRat (numeral : Numeral) : ℚ := signed numeral.negative numeral.magnitude

/-- The text is a numeral of a number. -/
def Writes (text : String) (number : ℚ) : Prop :=
  ∃ numeral, numeral? text.toList = some numeral ∧ numeral.IsFigured ∧ numeral.toRat = number

/-! ### Figures -/

theorem figure_lt {c : Char} (figure : Text.isAsciiDigit c = true) : c.toNat - '0'.toNat < 10 := by
  have := Digits.isAsciiDigit_iff.mp figure
  simp only [Char.reduceToNat] at *
  omega

theorem ofDigitChars_lt {chars : List Char} (areFigures : AreFigures chars) :
    Nat.ofDigitChars 10 chars 0 < 10 ^ chars.length := by
  induction chars using List.reverseRecOn with
  | nil => exact Nat.one_pos
  | append_singleton front c ofFront =>
    obtain ⟨before, last⟩ := List.forall_mem_append.mp areFigures
    have small := ofFront before
    have digit := figure_lt (last c List.mem_cons_self)
    rw [Nat.ofDigitChars_append, Nat.ofDigitChars_cons, Nat.ofDigitChars_nil, List.length_append,
      List.length_singleton, pow_succ]
    omega

/-- A character that is a figure is known by its value. -/
theorem figure_injective {first second : Char} (ofFirst : Text.isAsciiDigit first = true)
    (ofSecond : Text.isAsciiDigit second = true)
    (same : first.toNat - '0'.toNat = second.toNat - '0'.toNat) : first = second := by
  have low := (Digits.isAsciiDigit_iff.mp ofFirst).1
  have alsoLow := (Digits.isAsciiDigit_iff.mp ofSecond).1
  exact Char.toNat_inj.mp (by omega)

/-- So many figures are known by the number that they write. -/
theorem ofDigitChars_injective {first second : List Char} (ofFirst : AreFigures first)
    (ofSecond : AreFigures second) (long : first.length = second.length)
    (same : Nat.ofDigitChars 10 first 0 = Nat.ofDigitChars 10 second 0) : first = second := by
  induction first using List.reverseRecOn generalizing second with
  | nil => exact (List.eq_nil_of_length_eq_zero long.symm).symm
  | append_singleton front c ofFront =>
    obtain rfl | ⟨others, d, rfl⟩ := List.eq_nil_or_concat' second
    · simp at long
    · obtain ⟨before, last⟩ := List.forall_mem_append.mp ofFirst
      obtain ⟨alsoBefore, alsoLast⟩ := List.forall_mem_append.mp ofSecond
      have figure := last c List.mem_cons_self
      have alsoFigure := alsoLast d List.mem_cons_self
      simp only [Nat.ofDigitChars_append, Nat.ofDigitChars_cons, Nat.ofDigitChars_nil] at same
      have digit := figure_lt figure
      have alsoDigit := figure_lt alsoFigure
      have shorter : front.length = others.length := by simpa using long
      rw [ofFront before alsoBefore shorter (by omega),
        figure_injective figure alsoFigure (by omega)]

theorem areFigures_zeros (count : Nat) : AreFigures (List.replicate count '0') :=
  fun _ member => List.eq_of_mem_replicate member ▸ rfl

/-- Figures with zeros behind them are so many times the number. -/
theorem ofDigitChars_append_zeros (chars : List Char) (count : Nat) :
    Nat.ofDigitChars 10 (chars ++ List.replicate count '0') 0 =
      Nat.ofDigitChars 10 chars 0 * 10 ^ count := by
  rw [Nat.ofDigitChars_append, Nat.ofDigitChars_replicate_zero, Nat.mul_comm]

/-! ### Whole parts and fractions -/

/-- Of two numerals that write one number, the whole parts write one number, and the longer fraction
is the shorter one with zeros behind it. -/
theorem Numeral.parts_of_magnitude {shorter longer : Numeral} (ofShorter : shorter.IsFigured)
    (ofLonger : longer.IsFigured) (few : shorter.fraction.length ≤ longer.fraction.length)
    (same : shorter.magnitude = longer.magnitude) :
    Nat.ofDigitChars 10 shorter.whole 0 = Nat.ofDigitChars 10 longer.whole 0 ∧
      longer.fraction = shorter.fraction ++
        List.replicate (longer.fraction.length - shorter.fraction.length) '0' := by
  obtain ⟨further, length⟩ := Nat.exists_eq_add_of_le few
  have below := ofDigitChars_lt ofShorter.fraction
  have alsoBelow := ofDigitChars_lt ofLonger.fraction
  have zeros := ofDigitChars_append_zeros shorter.fraction further
  have long : (shorter.fraction ++ List.replicate further '0').length =
      longer.fraction.length := by
    rw [List.length_append, List.length_replicate, length]
  -- both numbers in units of the last place of the longer fraction
  have counted : Nat.ofDigitChars 10 shorter.whole 0 * 10 ^ longer.fraction.length +
      Nat.ofDigitChars 10 (shorter.fraction ++ List.replicate further '0') 0 =
        Nat.ofDigitChars 10 longer.whole 0 * 10 ^ longer.fraction.length +
          Nat.ofDigitChars 10 longer.fraction 0 := by
    unfold magnitude at same
    rw [length, pow_add] at same
    field_simp at same
    norm_cast at same
    rw [zeros, length, pow_add]
    calc Nat.ofDigitChars 10 shorter.whole 0 * (10 ^ shorter.fraction.length * 10 ^ further) +
          Nat.ofDigitChars 10 shorter.fraction 0 * 10 ^ further
        = (Nat.ofDigitChars 10 shorter.whole 0 * 10 ^ shorter.fraction.length +
            Nat.ofDigitChars 10 shorter.fraction 0) * 10 ^ further := by ring
      _ = 10 ^ shorter.fraction.length * Nat.ofDigitChars 10 longer.whole 0 * 10 ^ further +
            Nat.ofDigitChars 10 longer.fraction 0 := same
      _ = Nat.ofDigitChars 10 longer.whole 0 * (10 ^ shorter.fraction.length * 10 ^ further) +
            Nat.ofDigitChars 10 longer.fraction 0 := by ring
  have alsoZeros := ofDigitChars_lt (ofShorter.fraction.append (areFigures_zeros further))
  rw [long] at alsoZeros
  have positive : 0 < 10 ^ longer.fraction.length := by positivity
  have wholes : Nat.ofDigitChars 10 shorter.whole 0 = Nat.ofDigitChars 10 longer.whole 0 := by
    have quotients := congrArg (· / 10 ^ longer.fraction.length) counted
    rwa [Nat.mul_comm _ (10 ^ _), Nat.mul_add_div positive, Nat.div_eq_of_lt alsoZeros,
      Nat.mul_comm _ (10 ^ _), Nat.mul_add_div positive, Nat.div_eq_of_lt alsoBelow] at quotients
  refine ⟨wholes, ?_⟩
  rw [wholes] at counted
  rw [length, Nat.add_sub_cancel_left]
  exact (ofDigitChars_injective (ofShorter.fraction.append (areFigures_zeros further))
    ofLonger.fraction long (Nat.add_left_cancel counted)).symm

/-! ### Reading -/

/-- Figures before the point are read as the number that they write, or not at all. -/
theorem readWhole_of_figures {start : Nat} {chars : List Char} (areFigures : AreFigures chars)
    (small : start < mantissaBound) :
    readWhole start chars =
      if Nat.ofDigitChars 10 chars start < mantissaBound
      then some (Nat.ofDigitChars 10 chars start) else none := by
  split
  · rename_i fits
    exact readWhole_eq areFigures fits
  · rename_i great
    induction chars generalizing start with
    | nil => exact absurd small great
    | cons c rest ofRest =>
      obtain ⟨figure, others⟩ := List.forall_mem_cons.mp areFigures
      rw [Nat.ofDigitChars_cons] at great
      rw [readWhole, Digits.valueIn?_ten, if_pos figure]
      dsimp only
      rw [Nat.mul_comm start 10]
      split
      · rename_i fits
        exact ofRest others fits great
      · rfl

/-- The number of a mantissa with so many places. -/
def ratio (parts : Nat × Nat) : ℚ := parts.1 / 10 ^ parts.2

theorem ratio_succ (mantissa scale : Nat) :
    ratio (mantissa * 10, scale + 1) = ratio (mantissa, scale) := by
  rw [ratio, ratio]
  push_cast
  rw [pow_succ, mul_div_mul_right _ _ (by norm_num)]

/-- Zeros after the point do not matter, whether they are read or round. -/
theorem readFraction_zeros (mantissa scale count : Nat) :
    (readFraction mantissa scale (List.replicate count '0')).map ratio =
      some (ratio (mantissa, scale)) := by
  induction count generalizing mantissa scale with
  | zero => rfl
  | succ count ofFewer =>
    have zero : Digits.valueIn? 10 '0' = some 0 := by decide
    rw [List.replicate_succ, readFraction, zero]
    dsimp only
    split
    · rw [Nat.add_zero, ofFewer, ratio_succ]
    · rw [if_pos (List.all_eq_true.mpr (areFigures_zeros count))]
      rfl

/-- Zeros behind a fraction do not matter. -/
theorem readFraction_append_zeros (mantissa scale count : Nat) (chars : List Char) :
    (readFraction mantissa scale (chars ++ List.replicate count '0')).map ratio =
      (readFraction mantissa scale chars).map ratio := by
  induction chars generalizing mantissa scale with
  | nil => exact readFraction_zeros mantissa scale count
  | cons c rest ofRest =>
    have figures : (rest ++ List.replicate count '0').all Text.isAsciiDigit =
        rest.all Text.isAsciiDigit := by
      rw [List.all_append, List.all_eq_true.mpr (areFigures_zeros count), Bool.and_true]
    rw [List.cons_append, readFraction, readFraction]
    cases Digits.valueIn? 10 c with
    | none => rfl
    | some digit =>
      dsimp only
      split
      · exact ofRest _ _
      · rw [figures]

theorem toRat_ofNumeral? (numeral : Numeral) :
    (ofNumeral? numeral).map toRat =
      (readWhole 0 numeral.whole).bind fun whole =>
        ((readFraction whole 0 numeral.fraction).map ratio).map (signed numeral.negative) := by
  have number (parts : Nat × Nat) :
      toRat ⟨if numeral.negative then -(parts.1 : Int) else parts.1, parts.2⟩ =
        signed numeral.negative (ratio parts) := by
    rw [toRat, signed, ratio]
    split
    · push_cast
      exact neg_div _ _
    · push_cast
      rfl
  rw [ofNumeral?]
  cases readWhole 0 numeral.whole with
  | none => rfl
  | some whole =>
    simp only [Option.bind_eq_bind, Option.bind_some]
    cases readFraction whole 0 numeral.fraction with
    | none => rfl
    | some parts => exact congrArg some (number parts)

/-- Without their signs, two numerals that write one number are read as one number, or both not at
all. -/
theorem readWhole_of_magnitude {first second : Numeral} (ofFirst : first.IsFigured)
    (ofSecond : second.IsFigured) (same : first.magnitude = second.magnitude) :
    ((readWhole 0 first.whole).bind fun whole => (readFraction whole 0 first.fraction).map ratio) =
      (readWhole 0 second.whole).bind fun whole =>
        (readFraction whole 0 second.fraction).map ratio := by
  wlog few : first.fraction.length ≤ second.fraction.length generalizing first second
  · exact (this ofSecond ofFirst same.symm (Nat.le_of_not_le few)).symm
  · obtain ⟨wholes, fraction⟩ := Numeral.parts_of_magnitude ofFirst ofSecond few same
    rw [readWhole_of_figures ofFirst.whole (by decide),
      readWhole_of_figures ofSecond.whole (by decide), wholes, fraction]
    refine congrArg _ (funext fun whole => ?_)
    rw [readFraction_append_zeros]

theorem Numeral.magnitude_eq_abs (numeral : Numeral) : numeral.magnitude = |numeral.toRat| := by
  have positive : 0 ≤ numeral.magnitude := by
    unfold magnitude
    positivity
  rw [toRat, signed]
  split
  · rw [abs_neg, abs_of_nonneg positive]
  · rw [abs_of_nonneg positive]

/-- A numeral of zero is read as zero. -/
theorem readWhole_of_zero {numeral : Numeral} (figured : numeral.IsFigured)
    (zero : numeral.magnitude = 0) :
    ((readWhole 0 numeral.whole).bind fun whole =>
      (readFraction whole 0 numeral.fraction).map ratio) = some 0 := by
  have plain : Numeral.IsFigured ⟨false, [], []⟩ := ⟨Digits.areFigures_nil, Digits.areFigures_nil⟩
  have nothing : Numeral.magnitude ⟨false, [], []⟩ = 0 := by
    simp [Numeral.magnitude, Nat.ofDigitChars_nil]
  rw [readWhole_of_magnitude figured plain (zero.trans nothing.symm)]
  show some (ratio (0, 0)) = some 0
  simp [ratio]

/-- Numerals that write one number are read as one number, or both not at all. -/
theorem ofNumeral?_of_toRat_eq {first second : Numeral} (ofFirst : first.IsFigured)
    (ofSecond : second.IsFigured) (same : first.toRat = second.toRat) :
    (ofNumeral? first).map toRat = (ofNumeral? second).map toRat := by
  have magnitudes : first.magnitude = second.magnitude := by
    rw [first.magnitude_eq_abs, second.magnitude_eq_abs, same]
  have read := readWhole_of_magnitude ofFirst ofSecond magnitudes
  have outside (numeral : Numeral) : (ofNumeral? numeral).map toRat =
      ((readWhole 0 numeral.whole).bind fun whole =>
        (readFraction whole 0 numeral.fraction).map ratio).map (signed numeral.negative) := by
    rw [toRat_ofNumeral?, Option.map_bind]
    rfl
  rw [outside, outside, read]
  by_cases signs : first.negative = second.negative
  · rw [signs]
  · -- a number with two signs is zero
    have opposite : second.magnitude = -second.magnitude := by
      rw [Numeral.toRat, Numeral.toRat, magnitudes] at same
      revert same signs
      cases first.negative <;> cases second.negative <;> simp [signed, eq_comm]
    have zero : second.magnitude = 0 := by linarith
    rw [readWhole_of_zero ofSecond zero]
    simp [signed]

end SchemaAssessment.Decimal

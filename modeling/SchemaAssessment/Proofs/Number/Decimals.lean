/-
Decimals and their texts. A decimal that was read fits its bounds, and so does the same number
without zeros at the end of its fraction. The text of a decimal shows just this number: it is
read back from the text.
-/

import SchemaAssessment.Proofs.Number.Figures
import SchemaAssessment.Proofs.Time.Forms
import SchemaAssessment.Proofs.Value.Sameness

namespace SchemaAssessment.Decimal

open Digits (AreFigures)

/-! ### Bounds -/

/-- The mantissa and the number of places lie within their bounds. -/
structure Fits (value : Decimal) : Prop where
  mantissa : value.mantissa.natAbs < mantissaBound
  scale : value.scale ≤ maximalScale

theorem readWhole_lt {start number : Nat} {chars : List Char} (small : start < mantissaBound)
    (read : readWhole start chars = some number) : number < mantissaBound := by
  induction chars generalizing start with
  | nil =>
    obtain rfl := Option.some.inj read
    exact small
  | cons c rest ofRest =>
    rw [readWhole] at read
    split at read
    · cases read
    · split at read
      · rename_i fits
        exact ofRest fits read
      · cases read

theorem roundBy_fits {digit mantissa scale number places : Nat} (small : mantissa < mantissaBound)
    (few : scale ≤ maximalScale) (rounded : roundBy digit mantissa scale = some (number, places)) :
    number < mantissaBound ∧ places ≤ maximalScale := by
  unfold roundBy at rounded
  split at rounded
  · obtain ⟨rfl, rfl⟩ := Prod.mk.inj (Option.some.inj rounded)
    exact ⟨small, few⟩
  · split at rounded
    · rename_i fits
      obtain ⟨rfl, rfl⟩ := Prod.mk.inj (Option.some.inj rounded)
      exact ⟨fits, few⟩
    · split at rounded
      · cases rounded
      · obtain ⟨rfl, rfl⟩ := Prod.mk.inj (Option.some.inj rounded)
        have wide : 10 ≤ mantissaBound := by decide
        omega

theorem readFraction_fits {start scale number places : Nat} {chars : List Char}
    (small : start < mantissaBound) (few : scale ≤ maximalScale)
    (read : readFraction start scale chars = some (number, places)) :
    number < mantissaBound ∧ places ≤ maximalScale := by
  induction chars generalizing start scale with
  | nil =>
    obtain ⟨rfl, rfl⟩ := Prod.mk.inj (Option.some.inj read)
    exact ⟨small, few⟩
  | cons c rest ofRest =>
    rw [readFraction] at read
    split at read
    · cases read
    · split at read
      · rename_i fits
        rw [Bool.and_eq_true, decide_eq_true_eq, decide_eq_true_eq] at fits
        exact ofRest fits.2 fits.1 read
      · split at read
        · exact roundBy_fits small few read
        · cases read

/-- A decimal that is read fits its bounds. -/
theorem fits_of_ofNumeral? {numeral : Numeral} {value : Decimal}
    (read : ofNumeral? numeral = some value) : value.Fits := by
  simp only [ofNumeral?, Option.bind_eq_bind, Option.bind_eq_some_iff] at read
  obtain ⟨whole, ofWhole, ⟨number, places⟩, ofFraction, made⟩ := read
  obtain ⟨small, few⟩ := readFraction_fits (readWhole_lt (by decide) ofWhole) (Nat.zero_le _)
    ofFraction
  obtain rfl := Option.some.inj made
  refine ⟨?_, few⟩
  split
  · rwa [Int.natAbs_neg, Int.natAbs_natCast]
  · rwa [Int.natAbs_natCast]

/-! ### Normal form -/

/-- Dropping zeros leaves the number, and makes neither part greater. -/
theorem dropZeros_spec (scale : Nat) (mantissa : Int) :
    (dropZeros scale mantissa).mantissa * tenTo scale =
        mantissa * tenTo (dropZeros scale mantissa).scale ∧
      (dropZeros scale mantissa).scale ≤ scale ∧
      (dropZeros scale mantissa).mantissa.natAbs ≤ mantissa.natAbs := by
  induction scale generalizing mantissa with
  | zero => exact ⟨rfl, Nat.le_refl 0, Nat.le_refl _⟩
  | succ scale ofFewer =>
    rw [dropZeros]
    split
    · rename_i ends
      obtain ⟨number, fewer, smaller⟩ := ofFewer (mantissa / 10)
      refine ⟨?_, by omega, by omega⟩
      have tenth : mantissa = 10 * (mantissa / 10) := by omega
      rw [tenTo_succ, Nat.cast_mul]
      calc (dropZeros scale (mantissa / 10)).mantissa * ((10 : Nat) * (tenTo scale : Int))
          = 10 * ((dropZeros scale (mantissa / 10)).mantissa * tenTo scale) := by push_cast; ring
        _ = 10 * (mantissa / 10) * tenTo (dropZeros scale (mantissa / 10)).scale := by
          rw [number]; ring
        _ = mantissa * tenTo (dropZeros scale (mantissa / 10)).scale := by rw [← tenth]
    · exact ⟨rfl, Nat.le_refl _, Nat.le_refl _⟩

/-- A decimal is the same number without zeros at the end of its fraction. -/
theorem same_normalize (value : Decimal) : value.same value.normalize = true :=
  same_iff.mpr (dropZeros_spec value.scale value.mantissa).1.symm

theorem Fits.normalize {value : Decimal} (fits : value.Fits) : value.normalize.Fits := by
  obtain ⟨-, fewer, smaller⟩ := dropZeros_spec value.scale value.mantissa
  exact ⟨Nat.lt_of_le_of_lt smaller fits.mantissa, Nat.le_trans fewer fits.scale⟩

/-! ### Reading figures -/

/-- Figures before the point are read as the number that they write, if it fits. -/
theorem readWhole_eq {start : Nat} {chars : List Char} (areFigures : AreFigures chars)
    (fits : Nat.ofDigitChars 10 chars start < mantissaBound) :
    readWhole start chars = some (Nat.ofDigitChars 10 chars start) := by
  induction chars generalizing start with
  | nil => rfl
  | cons c rest ofRest =>
    obtain ⟨figure, others⟩ := List.forall_mem_cons.mp areFigures
    rw [Nat.ofDigitChars_cons] at fits ⊢
    have small := Nat.lt_of_le_of_lt (Digits.le_ofDigitChars rest _) fits
    rw [readWhole, Digits.valueIn?_ten, if_pos figure]
    dsimp only
    rw [Nat.mul_comm start 10, if_pos small, ofRest others fits]

/-- Figures after the point are read on, each for one more place. -/
theorem readFraction_eq {start scale : Nat} {chars : List Char} (areFigures : AreFigures chars)
    (fits : Nat.ofDigitChars 10 chars start < mantissaBound)
    (few : scale + chars.length ≤ maximalScale) :
    readFraction start scale chars =
      some (Nat.ofDigitChars 10 chars start, scale + chars.length) := by
  induction chars generalizing start scale with
  | nil => rfl
  | cons c rest ofRest =>
    obtain ⟨figure, others⟩ := List.forall_mem_cons.mp areFigures
    rw [Nat.ofDigitChars_cons] at fits ⊢
    rw [List.length_cons] at few ⊢
    have small := Nat.lt_of_le_of_lt (Digits.le_ofDigitChars rest _) fits
    have inside : (decide (scale < maximalScale) &&
        decide (10 * start + (c.toNat - '0'.toNat) < mantissaBound)) = true := by
      rw [Bool.and_eq_true, decide_eq_true_eq, decide_eq_true_eq]
      exact ⟨by omega, small⟩
    rw [readFraction, Digits.valueIn?_ten, if_pos figure]
    dsimp only
    rw [Nat.mul_comm start 10, if_pos inside, ofRest others fits (by omega), Nat.add_assoc,
      Nat.add_comm 1]

/-! ### The text of a decimal -/

/-- A fraction behind its point, if it has any places. -/
def pointed (fraction : List Char) : List Char :=
  if fraction.isEmpty then [] else '.' :: fraction

theorem breaks_pointed (fraction : List Char) : Time.Breaks (pointed fraction) := by
  unfold pointed
  split
  · exact nofun
  · exact Time.breaks_cons.mpr (by decide)

theorem splitUnsigned_of_parts {whole fraction : List Char} (filled : whole ≠ [])
    (ofWhole : AreFigures whole) (ofFraction : AreFigures fraction) :
    splitUnsigned (whole ++ pointed fraction) = some (whole, fraction, []) := by
  have some_ : whole.isEmpty = false := List.isEmpty_eq_false_iff.mpr filled
  obtain ⟨front, behind⟩ :=
    Time.span_eq_iff.mpr ⟨ofWhole.areDecimal, breaks_pointed fraction, rfl⟩
  obtain ⟨places, last⟩ :=
    Time.span_eq_iff.mpr
      ⟨ofFraction.areDecimal, (nofun : Time.Breaks []), (List.append_nil fraction).symm⟩
  rw [splitUnsigned, front, behind]
  cases fraction with
  | nil => simp [pointed, some_]
  | cons c more => simp [pointed, some_, places, last]

theorem splitSign_of_parts (isNegative : Bool) {c : Char} {rest : List Char}
    (figure : Text.isAsciiDigit c = true) :
    splitSign (Time.signChars isNegative ++ c :: rest) = (isNegative, c :: rest) := by
  cases isNegative with
  | true => rfl
  | false =>
    show splitSign (c :: rest) = _
    unfold splitSign
    split
    · rename_i same
      obtain rfl := (List.cons.inj same).1
      exact absurd figure (by decide)
    · rename_i same
      obtain rfl := (List.cons.inj same).1
      exact absurd figure (by decide)
    · rfl

/-- A sign, figures, and a fraction make a numeral. -/
theorem numeral?_of_parts {isNegative : Bool} {whole fraction : List Char} (filled : whole ≠ [])
    (ofWhole : AreFigures whole) (ofFraction : AreFigures fraction) :
    numeral? (Time.signChars isNegative ++ (whole ++ pointed fraction)) =
      some ⟨isNegative, whole, fraction⟩ := by
  have split := splitUnsigned_of_parts filled ofWhole ofFraction
  cases whole with
  | nil => exact absurd rfl filled
  | cons c rest =>
    rw [numeral?, List.cons_append, splitSign_of_parts isNegative (ofWhole c List.mem_cons_self)]
    dsimp only
    rw [← List.cons_append, split]

/-- The numeral that the text of a decimal is. -/
def shownNumeral (value : Decimal) : Numeral :=
  let normal := value.normalize
  let shown := padded (normal.scale + 1) normal.mantissa.natAbs
  ⟨normal.mantissa < 0, shown.take (shown.length - normal.scale),
    shown.drop (shown.length - normal.scale)⟩

variable {value : Decimal}

theorem length_shown (value : Decimal) :
    value.normalize.scale <
      (padded (value.normalize.scale + 1) value.normalize.mantissa.natAbs).length := by
  rw [length_padded]
  omega

theorem toList_text (value : Decimal) : value.text.toList =
    Time.signChars value.shownNumeral.negative ++
      (value.shownNumeral.whole ++ pointed value.shownNumeral.fraction) := by
  by_cases negative : value.normalize.mantissa < 0 <;>
    simp [text, shownNumeral, Time.signChars, pointed, negative]

theorem areFigures_shown (value : Decimal) :
    AreFigures value.shownNumeral.whole ∧ AreFigures value.shownNumeral.fraction := by
  have areFigures := areFigures_padded (value.normalize.scale + 1) value.normalize.mantissa.natAbs
  exact ⟨fun c member => areFigures c (List.mem_of_mem_take member),
    fun c member => areFigures c (List.mem_of_mem_drop member)⟩

theorem whole_shown_ne_nil (value : Decimal) : value.shownNumeral.whole ≠ [] := by
  have long := length_shown value
  rw [← List.length_pos_iff, shownNumeral, List.length_take]
  omega

theorem numeral?_text (value : Decimal) : numeral? value.text.toList = some value.shownNumeral := by
  rw [toList_text, numeral?_of_parts (whole_shown_ne_nil value) (areFigures_shown value).1
    (areFigures_shown value).2]

/-- A decimal that fits is read back from its text, without zeros at the end of its fraction. -/
theorem ofNumeral?_shownNumeral (fits : value.Fits) :
    ofNumeral? value.shownNumeral = some value.normalize := by
  obtain ⟨ofWhole, ofFraction⟩ := areFigures_shown value
  have long := length_shown value
  have number : Nat.ofDigitChars 10 value.shownNumeral.fraction
      (Nat.ofDigitChars 10 value.shownNumeral.whole 0) = value.normalize.mantissa.natAbs := by
    rw [← Nat.ofDigitChars_append, shownNumeral, List.take_append_drop, ofDigitChars_padded]
  have places : value.shownNumeral.fraction.length = value.normalize.scale := by
    rw [shownNumeral, List.length_drop]
    omega
  have small := fits.normalize.mantissa
  rw [← number] at small
  have whole := readWhole_eq ofWhole (Nat.lt_of_le_of_lt (Digits.le_ofDigitChars _ _) small)
  have fraction := readFraction_eq ofFraction small
    (by rw [Nat.zero_add, places]; exact fits.normalize.scale)
  rw [ofNumeral?, whole]
  simp only [Option.bind_eq_bind, Option.bind_some, fraction, number, Nat.zero_add, places]
  have signed : (if value.shownNumeral.negative then -(value.normalize.mantissa.natAbs : Int)
      else value.normalize.mantissa.natAbs) = value.normalize.mantissa := by
    simp only [shownNumeral, decide_eq_true_eq]
    split <;> omega
  exact congrArg (fun mantissa => some (⟨mantissa, value.normalize.scale⟩ : Decimal)) signed

end SchemaAssessment.Decimal

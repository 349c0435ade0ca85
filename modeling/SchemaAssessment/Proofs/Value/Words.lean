/-
Texts that are words. Numbers, moments, durations and recurring dates are written without
blanks, so collapsing leaves their texts as they are, and the items of a list are found again
between the spaces that a list is written with.
-/

import SchemaAssessment.Proofs.Time.Forms
import SchemaAssessment.Proofs.Time.Years
import SchemaAssessment.Proofs.Value.Derivation
import SchemaAssessment.Proofs.Value.WhiteSpace

namespace SchemaAssessment

/-! ### Texts without blanks -/

namespace Text

/-- The characters hold none of the blanks of markup. -/
def Unblank (chars : List Char) : Prop := ∀ c ∈ chars, isMarkupBlank c = false

instance (chars : List Char) : Decidable (Unblank chars) :=
  List.decidableBAll (fun c => isMarkupBlank c = false) chars

section

variable {c : Char} {chars first second : List Char}

theorem unblank_nil : Unblank [] := nofun

theorem unblank_cons : Unblank (c :: chars) ↔ isMarkupBlank c = false ∧ Unblank chars :=
  List.forall_mem_cons

theorem unblank_append : Unblank (first ++ second) ↔ Unblank first ∧ Unblank second :=
  List.forall_mem_append

theorem Unblank.append (ofFirst : Unblank first) (ofSecond : Unblank second) :
    Unblank (first ++ second) := unblank_append.mpr ⟨ofFirst, ofSecond⟩

/-- Blanks come first among the characters. -/
theorem isMarkupBlank_of_le {low : Char} (behind : ' ' < low) (within : low ≤ c) :
    isMarkupBlank c = false :=
  isMarkupBlank_of_apart (P := (' '.toNat < ·.toNat)) (by decide) (Nat.lt_of_lt_of_le behind within)

theorem isMarkupBlank_of_isDecimalDigit (digit : isDecimalDigit c = true) :
    isMarkupBlank c = false :=
  isMarkupBlank_of_apart (P := (isDecimalDigit · = true)) (by decide) digit

theorem unblank_of_areDigits (areDigits : Time.AreDigits chars) : Unblank chars :=
  fun c member => isMarkupBlank_of_isDecimalDigit (areDigits c member)

theorem unblank_takeWhile (chars : List Char) : Unblank (chars.takeWhile isDecimalDigit) :=
  unblank_of_areDigits fun _ member => List.mem_takeWhile_imp member

/-- Behind the digits in front, the rest of a text decides whether it holds a blank. -/
theorem unblank_of_dropWhile (ofRest : Unblank (chars.dropWhile isDecimalDigit)) :
    Unblank chars := by
  have whole : chars.takeWhile isDecimalDigit ++ chars.dropWhile isDecimalDigit = chars :=
    List.takeWhile_append_dropWhile
  rw [← whole]
  exact (unblank_takeWhile chars).append ofRest

end

end Text

open Text (Unblank unblank_nil unblank_cons unblank_append unblank_of_areDigits)

/-- Collapsing leaves a text without blanks as it is. -/
theorem WhiteSpace.collapse_of_unblank {text : String} (unblank : Unblank text.toList) :
    collapse.normalize text = text := by
  rw [normalize_collapse, markupWords, Text.runs_of_apart unblank]
  split
  · rename_i empty
    rw [String.toList_eq_nil_iff.mp empty]
    rfl
  · simp

/-! ### Moments -/

namespace Time

theorem IsPair.unblank {chars : List Char} (isPair : IsPair chars) : Unblank chars :=
  unblank_of_areDigits isPair.digits

theorem unblank_signChars (isNegative : Bool) : Unblank (signChars isNegative) := by
  cases isNegative with
  | false => exact unblank_nil
  | true => exact unblank_cons.mpr ⟨by decide, unblank_nil⟩

theorem ZoneForm.IsWritten.unblank {zone : ZoneForm} (written : zone.IsWritten) :
    Unblank zone.chars := by
  cases zone with
  | absent => exact unblank_nil
  | universal => exact unblank_cons.mpr ⟨by decide, unblank_nil⟩
  | shifted isNegative hours minutes =>
    refine unblank_cons.mpr ⟨by cases isNegative <;> decide, unblank_append.mpr
      ⟨written.1.unblank, unblank_cons.mpr ⟨by decide, written.2.unblank⟩⟩⟩

theorem DateForm.IsWritten.unblank {form : DateForm} (written : form.IsWritten) :
    Unblank form.chars := by
  simp only [DateForm.chars, unblank_append, unblank_cons, and_assoc]
  exact ⟨unblank_signChars _, unblank_of_areDigits written.year, by decide,
    written.month.unblank, by decide, written.day.unblank⟩

theorem TimeForm.IsWritten.unblank {form : TimeForm} (written : form.IsWritten) :
    Unblank form.chars := by
  have ofFraction : Unblank (fractionChars form.fraction) := by
    cases given : form.fraction with
    | none => exact unblank_nil
    | some digits =>
      exact unblank_cons.mpr ⟨by decide, unblank_of_areDigits (written.fraction digits given).2⟩
  simp only [TimeForm.chars, unblank_append, unblank_cons, and_assoc]
  exact ⟨written.hours.unblank, by decide, written.minutes.unblank, by decide,
    written.seconds.unblank, ofFraction⟩

theorem MomentForm.IsWritten.unblank {form : MomentForm} (written : form.IsWritten) :
    Unblank form.chars := by
  cases form with
  | dateTime date time zone =>
    obtain ⟨ofDate, ofTime, ofZone⟩ := written
    simp only [MomentForm.chars, unblank_append, unblank_cons, and_assoc]
    exact ⟨ofDate.unblank, by decide, ofTime.unblank, ofZone.unblank⟩
  | date date zone => exact unblank_append.mpr ⟨written.1.unblank, written.2.unblank⟩
  | time time zone => exact unblank_append.mpr ⟨written.1.unblank, written.2.unblank⟩

/-! ### Durations and recurring dates -/

theorem unblank_of_skipComponents {designators chars : List Char} (letters : Unblank designators)
    (ofRest : Unblank (skipComponents designators chars)) : Unblank chars := by
  induction designators generalizing chars with
  | nil => exact ofRest
  | cons designator later ofLater =>
    obtain ⟨letter, others⟩ := unblank_cons.mp letters
    unfold skipComponents at ofRest
    dsimp only at ofRest
    split at ofRest
    · rename_i c rest behind
      split at ofRest
      · rename_i component
        obtain rfl := beq_iff_eq.mp (Bool.and_eq_true_iff.mp component).2
        refine Text.unblank_of_dropWhile ?_
        rw [behind]
        exact unblank_cons.mpr ⟨letter, ofLater others ofRest⟩
      · exact ofLater others ofRest
    · exact ofRest

theorem unblank_of_skipSeconds {chars : List Char} (ofRest : Unblank (skipSeconds chars)) :
    Unblank chars := by
  unfold skipSeconds at ofRest
  dsimp only at ofRest
  split at ofRest
  · exact ofRest
  · split at ofRest
    · rename_i rest behind
      refine Text.unblank_of_dropWhile ?_
      rw [behind]
      exact unblank_cons.mpr ⟨by decide, ofRest⟩
    · rename_i rest behind
      split at ofRest
      · rename_i more behindFraction
        split at ofRest
        · exact ofRest
        · refine Text.unblank_of_dropWhile ?_
          rw [behind]
          refine unblank_cons.mpr ⟨by decide, Text.unblank_of_dropWhile ?_⟩
          rw [behindFraction]
          exact unblank_cons.mpr ⟨by decide, ofRest⟩
      · exact ofRest
    · exact ofRest

theorem unblank_of_isDuration {chars : List Char} (isDuration_ : isDuration chars = true) :
    Unblank chars := by
  have letters : Unblank ['Y', 'M', 'D'] ∧ Unblank ['H', 'M'] := by decide
  have sign : Text.isMarkupBlank '-' = false ∧ Text.isMarkupBlank 'P' = false := by decide
  unfold isDuration at isDuration_
  dsimp only at isDuration_
  split at isDuration_
  · rename_i rest unsigned
    have ofRest : Unblank rest := by
      obtain ⟨-, ends⟩ := Bool.and_eq_true_iff.mp isDuration_
      refine unblank_of_skipComponents letters.1 ?_
      split at ends
      · rename_i behind
        rw [behind]
        exact unblank_nil
      · rename_i clock behind
        rw [behind]
        refine unblank_cons.mpr ⟨by decide, unblank_of_skipComponents letters.2
          (unblank_of_skipSeconds ?_)⟩
        rw [List.isEmpty_iff.mp ends]
        exact unblank_nil
      · cases ends
    split at unsigned
    · rw [unsigned]
      exact unblank_cons.mpr ⟨sign.1, unblank_cons.mpr ⟨sign.2, ofRest⟩⟩
    · rw [unsigned]
      exact unblank_cons.mpr ⟨sign.2, ofRest⟩
  · cases isDuration_

theorem unblank_of_isMonth {chars : List Char} (isMonth_ : isMonth chars = true) :
    Unblank chars := by
  unfold isMonth at isMonth_
  split at isMonth_
  · simp only [Bool.and_eq_true, decide_eq_true_eq] at isMonth_
    exact unblank_cons.mpr ⟨by decide, unblank_cons.mpr
      ⟨Text.isMarkupBlank_of_le (by decide : ' ' < '1') isMonth_.1, unblank_nil⟩⟩
  · simp only [Bool.and_eq_true, decide_eq_true_eq] at isMonth_
    exact unblank_cons.mpr ⟨by decide, unblank_cons.mpr
      ⟨Text.isMarkupBlank_of_le (by decide : ' ' < '0') isMonth_.1, unblank_nil⟩⟩
  · cases isMonth_

theorem unblank_of_isDay {chars : List Char} (isDay_ : isDay chars = true) : Unblank chars := by
  unfold isDay at isDay_
  split at isDay_
  · simp only [Bool.and_eq_true, decide_eq_true_eq] at isDay_
    exact unblank_cons.mpr ⟨by decide, unblank_cons.mpr
      ⟨Text.isMarkupBlank_of_le (by decide : ' ' < '1') isDay_.1, unblank_nil⟩⟩
  · simp only [Bool.or_eq_true, beq_iff_eq] at isDay_
    rcases isDay_ with rfl | rfl <;> decide
  · simp only [Bool.and_eq_true, Bool.or_eq_true, beq_iff_eq] at isDay_
    obtain ⟨tens, ones⟩ := isDay_
    exact unblank_cons.mpr ⟨by rcases tens with rfl | rfl <;> decide, unblank_cons.mpr
      ⟨Text.isMarkupBlank_of_isDecimalDigit ones, unblank_nil⟩⟩
  · cases isDay_

theorem unblank_of_endsWithZone {chars : List Char} (ends : endsWithZone chars = true) :
    Unblank chars := by
  obtain ⟨zone, found⟩ := Option.isSome_iff_exists.mp ends
  obtain ⟨written, rfl⟩ := zone?_eq_some_iff.mp found
  exact written.unblank

theorem unblank_of_year? {chars digits rest : List Char} {isNegative : Bool}
    (found : year? chars = some ((isNegative, digits), rest)) (ofRest : Unblank rest) :
    Unblank chars := by
  obtain ⟨-, areDigits, -, rfl⟩ := year?_eq_some_iff.mp found
  exact unblank_append.mpr
    ⟨unblank_append.mpr ⟨unblank_signChars _, unblank_of_areDigits areDigits⟩, ofRest⟩

theorem unblank_of_isYearMonth {chars : List Char} (given : isYearMonth chars = true) :
    Unblank chars := by
  unfold isYearMonth at given
  split at given
  · rename_i pieces a b rest found
    obtain ⟨isMonth_, ends⟩ := Bool.and_eq_true_iff.mp given
    exact unblank_of_year? found (unblank_cons.mpr ⟨by decide,
      (unblank_of_isMonth isMonth_).append (unblank_of_endsWithZone ends)⟩)
  · cases given

theorem unblank_of_isYear {chars : List Char} (given : isYear chars = true) : Unblank chars := by
  unfold isYear at given
  split at given
  · rename_i pieces rest found
    exact unblank_of_year? found (unblank_of_endsWithZone given)
  · cases given

theorem unblank_of_isMonthDay {chars : List Char} (given : isMonthDay chars = true) :
    Unblank chars := by
  unfold isMonthDay at given
  split at given
  · rename_i a b c d rest
    simp only [Bool.and_eq_true] at given
    obtain ⟨⟨isMonth_, isDay_⟩, ends⟩ := given
    have ofDay := (unblank_of_isDay isDay_).append (unblank_of_endsWithZone ends)
    have hyphens : Unblank ['-', '-'] ∧ Unblank ['-'] := by decide
    exact hyphens.1.append ((unblank_of_isMonth isMonth_).append (hyphens.2.append ofDay))
  · cases given

theorem unblank_of_isDayOnly {chars : List Char} (given : isDayOnly chars = true) :
    Unblank chars := by
  unfold isDayOnly at given
  split at given
  · rename_i a b rest
    obtain ⟨isDay_, ends⟩ := Bool.and_eq_true_iff.mp given
    have hyphens : Unblank ['-', '-', '-'] := by decide
    exact hyphens.append ((unblank_of_isDay isDay_).append (unblank_of_endsWithZone ends))
  · cases given

theorem unblank_of_isMonthOnly {chars : List Char} (given : isMonthOnly chars = true) :
    Unblank chars := by
  unfold isMonthOnly at given
  split at given
  · rename_i a b rest
    obtain ⟨isMonth_, ends⟩ := Bool.and_eq_true_iff.mp given
    have hyphens : Unblank ['-', '-'] := by decide
    exact hyphens.append ((unblank_of_isMonth isMonth_).append (unblank_of_endsWithZone ends))
  · cases given

end Time

/-! ### Numerals -/

namespace Decimal

/-- The parts of an unsigned numeral are digits, and only a point may stand between them. -/
theorem splitUnsigned_eq_some {chars whole fraction rest : List Char}
    (split : splitUnsigned chars = some (whole, fraction, rest)) :
    Time.AreDigits whole ∧ Time.AreDigits fraction ∧
      (chars = whole ++ rest ∨ chars = whole ++ '.' :: fraction ++ rest) := by
  have areDigits : ∀ chars : List Char, Time.AreDigits (chars.takeWhile Text.isDecimalDigit) :=
    fun chars c member => List.mem_takeWhile_imp member
  have cut : chars.takeWhile Text.isDecimalDigit ++ chars.dropWhile Text.isDecimalDigit = chars :=
    List.takeWhile_append_dropWhile
  unfold splitUnsigned at split
  dsimp only at split
  split at split
  · rename_i behind shape
    split at split
    · cases split
    · obtain ⟨rfl, parts⟩ := Prod.mk.inj (Option.some.inj split)
      obtain ⟨rfl, rfl⟩ := Prod.mk.inj parts
      refine ⟨areDigits chars, areDigits behind, .inr ?_⟩
      rw [List.append_assoc, List.cons_append, List.takeWhile_append_dropWhile, ← shape, cut]
  · split at split
    · cases split
    · obtain ⟨rfl, parts⟩ := Prod.mk.inj (Option.some.inj split)
      obtain ⟨rfl, rfl⟩ := Prod.mk.inj parts
      exact ⟨areDigits chars, nofun, .inl cut.symm⟩

theorem unblank_of_numeral? {chars : List Char} {numeral : Numeral}
    (found : numeral? chars = some numeral) : Unblank chars := by
  have unsigned : ∀ {rest whole fraction}, splitUnsigned rest = some (whole, fraction, []) →
      Unblank rest := by
    intro rest whole fraction split
    obtain ⟨ofWhole, ofFraction, rfl | rfl⟩ := splitUnsigned_eq_some split
    · exact (unblank_of_areDigits ofWhole).append unblank_nil
    · exact ((unblank_of_areDigits ofWhole).append
        (unblank_cons.mpr ⟨by decide, unblank_of_areDigits ofFraction⟩)).append unblank_nil
  unfold numeral? at found
  dsimp only at found
  split at found
  · rename_i whole fraction split
    have ofRest := unsigned split
    unfold splitSign at ofRest
    split at ofRest
    · exact unblank_cons.mpr ⟨by decide, ofRest⟩
    · exact unblank_cons.mpr ⟨by decide, ofRest⟩
    · exact ofRest
  · cases found

end Decimal

end SchemaAssessment

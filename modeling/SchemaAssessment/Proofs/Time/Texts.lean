/-
The texts of moments. A moment is shown by its parts, each with zeros in front where its figures
are fewer than asked for, so the moment is read back from its text. Only a year that four digits
do not hold is shown with a plus sign, which no year is read with: such a moment is not read back.
-/

import SchemaAssessment.Proofs.Number.Figures
import SchemaAssessment.Proofs.Time.Instants

namespace SchemaAssessment

open Decimal (padded)
open Time

/-! ### Pieces -/

section

variable {length n : Nat}

theorem Decimal.areDigits_padded (length n : Nat) : AreDigits (padded length n) :=
  (areFigures_padded length n).areDecimal

theorem Decimal.isPair_padded (small : n < 100) : IsPair (padded 2 n) :=
  ⟨length_padded_of_lt (by decide) small, areDigits_padded 2 n⟩

end

/-- The pieces of a date that is shown without a plus sign. -/
def Date.form (date : Date) : DateForm :=
  ⟨date.year < 0, padded 4 date.year.natAbs, padded 2 date.month, padded 2 date.day⟩

/-- The fraction that is shown of a second. -/
def TimeOfDay.fractionForm (nanosecond : Nat) : Option (List Char) :=
  if nanosecond = 0 then none
  else if nanosecond % 1000000 = 0 then some (padded 3 (nanosecond / 1000000))
  else if nanosecond % 1000 = 0 then some (padded 6 (nanosecond / 1000))
  else some (padded 9 nanosecond)

/-- The pieces of a time of day. -/
def TimeOfDay.form (time : TimeOfDay) : TimeForm :=
  let seconds := time.nanoseconds / second
  ⟨padded 2 (seconds / 3600), padded 2 (seconds / 60 % 60), padded 2 (seconds % 60),
    fractionForm (time.nanoseconds % second)⟩

/-- The zone that is shown of the minutes by which it is ahead of universal time. -/
def Moment.zoneForm : Option Int → ZoneForm
  | none => .absent
  | some minutes =>
    if minutes = 0 then .universal
    else .shifted (minutes < 0) (padded 2 (minutes.natAbs / 60)) (padded 2 (minutes.natAbs % 60))

/-- The pieces of a moment that is shown without a plus sign. -/
def Moment.form (moment : Moment) : MomentForm :=
  match moment.kind with
  | .dateTime => .dateTime moment.date.form moment.time.form (zoneForm moment.offset)
  | .date => .date moment.date.form (zoneForm moment.offset)
  | .time => .time moment.time.form (zoneForm moment.offset)

/-- A date is shown whose year four digits do not hold. -/
def Moment.isLate (moment : Moment) : Bool := moment.kind != .time && 9999 < moment.date.year

/-! ### Dates -/

namespace Date

variable {date : Date}

theorem chars_form (early : date.year ≤ 9999) : date.form.chars = date.text := by
  have year : signChars (date.year < 0) ++ padded 4 date.year.natAbs = yearText date.year := by
    unfold yearText
    by_cases negative : date.year < 0
    · rw [if_neg (by simp [negative]), if_pos negative]
      simp [signChars, negative]
    · rw [if_pos (by simp only [Bool.and_eq_true, decide_eq_true_eq]; omega)]
      simp [signChars, negative]
  simp only [DateForm.chars, form, text, ← year]

theorem daysInMonth_le (year : Int) (month : Nat) : daysInMonth year month ≤ 31 := by
  unfold daysInMonth
  split <;> (try split) <;> omega

theorem IsDay.isWritten_form (isDay : date.IsDay) : date.form.IsWritten := by
  have month := isDay.month.2
  have day : date.day ≤ 31 := isDay.most.trans (daysInMonth_le date.year date.month)
  refine ⟨?_, Decimal.areDigits_padded 4 _, Decimal.isPair_padded (by omega),
    Decimal.isPair_padded (by omega)⟩
  show 4 ≤ (padded 4 date.year.natAbs).length
  rw [Decimal.length_padded]
  exact Nat.le_max_left 4 _

/-- A year of the calendar is kept in 32 bits. -/
theorem narrowYear_of_calendar {year : Int} (low : firstYear ≤ year) (high : year ≤ lastYear) :
    narrowYear year = year := by
  have first : firstYear = -262143 := rfl
  have last : lastYear = 262142 := rfl
  have wide : twoTo 32 = 4294967296 := rfl
  exact Int.bmod_eq_of_le (by omega) (by omega)

theorem value?_form (valid : date.isValid = true) : date.form.value? = some date := by
  obtain ⟨low, high, -⟩ := isValid_iff.mp valid
  have first : firstYear = -262143 := rfl
  have last : lastYear = 262142 := rfl
  have wide : twoTo 63 = 9223372036854775808 := rfl
  refine DateForm.value?_eq_some.mpr ⟨date.year, date.month, date.day, ?_, ?_,
    Decimal.number?_padded 2 _, Decimal.number?_padded 2 _, ?_, valid⟩
  · refine writtenYear?_eq_some_iff.mpr ⟨_, Decimal.number?_padded 4 _, ?_⟩
    simp only [form, decide_eq_true_eq]
    split <;> omega
  · rw [fitsYear, Bool.and_eq_true, decide_eq_true_eq, decide_eq_true_eq]
    omega
  · rw [narrowYear_of_calendar low high]

end Date

/-! ### Times of day -/

namespace TimeOfDay

variable {time : TimeOfDay} {nanosecond : Nat}

theorem fractionChars_fractionForm (nanosecond : Nat) :
    fractionChars (fractionForm nanosecond) = fractionText nanosecond := by
  unfold fractionForm fractionText
  repeat' split
  all_goals rfl

theorem chars_form (time : TimeOfDay) : time.form.chars = time.text := by
  simp only [TimeForm.chars, form, text, fractionChars_fractionForm]

/-- A fraction is shown with at most nine figures, of which there are some. -/
theorem exists_of_fractionForm (small : nanosecond < second) {digits : List Char}
    (shown : fractionForm nanosecond = some digits) : ∃ length n, digits = padded length n ∧
      0 < length ∧ length ≤ countedDigits ∧ n < tenTo length ∧
        n * tenTo (countedDigits - length) = nanosecond := by
  have bounded : nanosecond < 1000000000 := small
  unfold fractionForm at shown
  split at shown
  · cases shown
  · split at shown
    · obtain rfl := Option.some.inj shown
      refine ⟨3, _, rfl, by decide, by decide, (by omega : nanosecond / 1000000 < 1000), ?_⟩
      show nanosecond / 1000000 * 1000000 = nanosecond
      omega
    · split at shown
      · obtain rfl := Option.some.inj shown
        refine ⟨6, _, rfl, by decide, by decide, (by omega : nanosecond / 1000 < 1000000), ?_⟩
        show nanosecond / 1000 * 1000 = nanosecond
        omega
      · obtain rfl := Option.some.inj shown
        exact ⟨9, _, rfl, by decide, by decide, bounded, Nat.mul_one _⟩

theorem isWritten_form (within : time.nanoseconds < day) : time.form.IsWritten := by
  have bounded : time.nanoseconds < 86400000000000 := within
  refine ⟨Decimal.isPair_padded (by omega : time.nanoseconds / 1000000000 / 3600 < 100),
    Decimal.isPair_padded (by omega : time.nanoseconds / 1000000000 / 60 % 60 < 100),
    Decimal.isPair_padded (by omega : time.nanoseconds / 1000000000 % 60 < 100),
    fun digits shown => ?_⟩
  obtain ⟨length, n, rfl, -⟩ := exists_of_fractionForm (Nat.mod_lt _ (by decide)) shown
  exact ⟨Decimal.padded_ne_nil length n, Decimal.areDigits_padded length n⟩

theorem nanoseconds_fractionForm (small : nanosecond < second) :
    Time.nanoseconds (fractionForm nanosecond) = .ok nanosecond := by
  cases shown : fractionForm nanosecond with
  | none =>
    have none_ : nanosecond = 0 := by
      by_contra some_
      unfold fractionForm at shown
      rw [if_neg some_] at shown
      repeat' split at shown
      all_goals cases shown
    rw [none_]
    rfl
  | some digits =>
    obtain ⟨length, n, rfl, some_, few, fits, scaled⟩ := exists_of_fractionForm small shown
    have places := Decimal.length_padded_of_lt some_ fits
    have all : counted (padded length n) = padded length n :=
      List.take_of_length_le (places.trans_le few)
    rw [nanoseconds_eq, all, byteLength_of_areFigures (Decimal.areFigures_padded length n), places,
      if_neg (Nat.not_lt.mpr few), Decimal.number?_padded, Option.map_some, scaled]
    rfl

/-- A time of day is put together again from its hours, minutes, seconds and nanoseconds. -/
theorem of?_parts (within : time.nanoseconds < day) :
    of? (time.nanoseconds / second / 3600) (time.nanoseconds / second / 60 % 60)
      (time.nanoseconds / second % 60) (time.nanoseconds % second) = some time := by
  have bounded : time.nanoseconds < 86400000000000 := within
  have whole : ((time.nanoseconds / second / 3600 * 60 + time.nanoseconds / second / 60 % 60) * 60 +
      time.nanoseconds / second % 60) * second + time.nanoseconds % second = time.nanoseconds := by
    simp only [second]
    omega
  rw [of?, if_pos]
  · exact congrArg (fun nanoseconds => some (⟨nanoseconds⟩ : TimeOfDay)) whole
  · simp only [Bool.and_eq_true, decide_eq_true_eq]
    simp only [second]
    omega

theorem read_form (within : time.nanoseconds < day) : time.form.read = .ok (time, false) := by
  have bounded : time.nanoseconds < 86400000000000 := within
  have beforeEnd : ¬ (time.nanoseconds / second / 3600 = 24 ∧
      time.nanoseconds / second / 60 % 60 = 0 ∧ time.nanoseconds / second % 60 = 0 ∧
        time.nanoseconds % second = 0) := by
    simp only [second]
    omega
  have fraction : Time.nanoseconds time.form.fraction = .ok (time.nanoseconds % second) :=
    nanoseconds_fractionForm (Nat.mod_lt _ (by decide))
  rw [TimeForm.read_eq (Decimal.number?_padded 2 _) (Decimal.number?_padded 2 _)
    (Decimal.number?_padded 2 _), fraction]
  exact (if_neg beforeEnd).trans (by rw [of?_parts within]; rfl)

end TimeOfDay

/-! ### Moments -/

namespace Moment

variable {moment : Moment} {offset : Option Int}

theorem chars_zoneForm (offset : Option Int) : (zoneForm offset).chars = offsetText offset := by
  cases offset with
  | none => rfl
  | some minutes =>
    simp only [zoneForm, offsetText]
    split
    · rfl
    · simp [ZoneForm.chars]

theorem isWritten_zoneForm (near : ∀ minutes, offset = some minutes →
    -840 ≤ minutes ∧ minutes ≤ 840) : (zoneForm offset).IsWritten := by
  cases offset with
  | none => trivial
  | some minutes =>
    obtain ⟨least, most⟩ := near minutes rfl
    simp only [zoneForm]
    split
    · trivial
    · exact ⟨Decimal.isPair_padded (by omega), Decimal.isPair_padded (by omega)⟩

theorem offset?_zoneForm (near : ∀ minutes, offset = some minutes →
    -840 ≤ minutes ∧ minutes ≤ 840) : (zoneForm offset).offset? = some offset := by
  cases offset with
  | none => rfl
  | some minutes =>
    obtain ⟨least, most⟩ := near minutes rfl
    simp only [zoneForm]
    split
    · rename_i none_
      rw [none_]
      rfl
    · have bounded : ¬ (decide (14 < minutes.natAbs / 60) || decide (59 < minutes.natAbs % 60) ||
          (minutes.natAbs / 60 == 14 && minutes.natAbs % 60 != 0)) = true := by
        simp only [Bool.or_eq_true, Bool.and_eq_true, decide_eq_true_eq, beq_iff_eq, bne_iff_ne]
        omega
      simp only [ZoneForm.offset?, Decimal.number?_padded, Option.bind_eq_bind, Option.bind_some,
        if_neg bounded, decide_eq_true_eq]
      congr 2
      split <;> omega

/-! ### Reading back -/

theorem toList_text (early : moment.isLate = false) :
    moment.text.toList = moment.form.chars := by
  obtain ⟨kind, date, time, offset⟩ := moment
  have year : kind ≠ .time → date.year ≤ 9999 := fun dated => by
    simpa [isLate, dated] using early
  cases kind with
  | dateTime =>
    simp [text, form, MomentForm.chars, Date.chars_form (year (by decide)), TimeOfDay.chars_form,
      chars_zoneForm]
  | date =>
    simp [text, form, MomentForm.chars, Date.chars_form (year (by decide)), chars_zoneForm]
  | time => simp [text, form, MomentForm.chars, TimeOfDay.chars_form, chars_zoneForm]

/-- A moment that is read is read again from its pieces as they are shown. -/
theorem tells_form {form : MomentForm} (tells : form.Tells moment) :
    moment.form.IsWritten ∧ moment.form.Tells moment := by
  obtain ⟨valid, within, near⟩ := tells.bounded
  have isDay := (Date.isValid_iff.mp valid).2.2
  cases tells with
  | @dateTime _ _ _ _ day time _ offset ofDate ofTime ofDay ofZone =>
    exact ⟨⟨isDay.isWritten_form, TimeOfDay.isWritten_form within, isWritten_zoneForm near⟩,
      .dateTime (Date.value?_form valid) (TimeOfDay.read_form within) rfl (offset?_zoneForm near)⟩
  | date ofDate ofZone =>
    exact ⟨⟨isDay.isWritten_form, isWritten_zoneForm near⟩,
      .date (Date.value?_form valid) (offset?_zoneForm near)⟩
  | time ofTime ofZone =>
    exact ⟨⟨TimeOfDay.isWritten_form within, isWritten_zoneForm near⟩,
      .time (TimeOfDay.read_form within) (offset?_zoneForm near)⟩

theorem kind_form (moment : Moment) : moment.form.kind = moment.kind := by
  unfold form
  cases kind : moment.kind <;> rfl

/-- A moment that is not late is read back from its text. -/
theorem moment?_text {form : MomentForm} (tells : form.Tells moment)
    (early : moment.isLate = false) : moment? moment.kind moment.text.toList = some moment := by
  obtain ⟨written, alsoTells⟩ := tells_form tells
  refine moment?_eq_some.mpr (readMoment_eq_ok.mpr ⟨moment.form, ?_, alsoTells⟩)
  exact momentForm?_eq_some_iff.mpr ⟨kind_form moment, written, toList_text early⟩

/-- No moment with a date begins with a plus sign. -/
theorem moment?_plus {kind : MomentKind} (dated : kind ≠ .time) (rest : List Char) :
    moment? kind ('+' :: rest) = none := by
  have noDate : dateForm? ('+' :: rest) = none := rfl
  have noForm : momentForm? kind ('+' :: rest) = none := by
    cases kind with
    | dateTime => rw [momentForm?, noDate]; rfl
    | date => rw [momentForm?, noDate]; rfl
    | time => exact absurd rfl dated
  rw [moment?, readMoment, noForm]
  rfl

/-- A late moment is shown with a plus sign in front, and is not read back. -/
theorem moment?_text_of_isLate (late : moment.isLate = true) :
    (∃ rest, moment.text.toList = '+' :: rest) ∧
      moment? moment.kind moment.text.toList = none := by
  obtain ⟨dated, far⟩ := Bool.and_eq_true_iff.mp late
  rw [bne_iff_ne] at dated
  rw [decide_eq_true_eq] at far
  have year : ∃ rest, moment.date.text = '+' :: rest := by
    rw [Date.text, Date.yearText,
      if_neg (by simp only [Bool.and_eq_true, decide_eq_true_eq]; omega), if_neg (by omega)]
    exact ⟨_, rfl⟩
  obtain ⟨rest, year⟩ := year
  have plus : ∃ rest, moment.text.toList = '+' :: rest := by
    unfold text
    cases kind : moment.kind with
    | dateTime => exact ⟨_, by rw [String.toList_ofList]; simp only [year, List.cons_append]; rfl⟩
    | date => exact ⟨_, by rw [String.toList_ofList]; simp only [year, List.cons_append]; rfl⟩
    | time => exact absurd kind dated
  obtain ⟨rest, plus⟩ := plus
  exact ⟨⟨rest, plus⟩, plus ▸ moment?_plus dated rest⟩

end Moment

end SchemaAssessment

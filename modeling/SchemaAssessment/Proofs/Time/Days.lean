/-
The numbers of days. A day of a year lies between the first day of this year and that of
the next one, so that days are numbered in the order of their years, and the day that
follows another has the next number. From this it is told which day is followed by none:
the last one of the calendar.
-/

import Mathlib.Tactic.IntervalCases
import SchemaAssessment.Time.Moment

namespace SchemaAssessment.Date

variable {date first second : Date}

/-- The first day of the calendar. -/
def firstDay : Date := ⟨firstYear, 1, 1⟩

/-- The last day of the calendar. -/
def lastDay : Date := ⟨lastYear, 12, 31⟩

/-- The year has such a day, whether or not the year can be told. -/
structure IsDay (date : Date) : Prop where
  least : 1 ≤ date.day
  most : date.day ≤ daysInMonth date.year date.month

theorem isValid_iff :
    date.isValid = true ↔ firstYear ≤ date.year ∧ date.year ≤ lastYear ∧ date.IsDay := by
  simp only [isValid, Bool.and_eq_true, decide_eq_true_eq]
  exact ⟨fun ⟨⟨⟨low, high⟩, least⟩, most⟩ => ⟨low, high, least, most⟩,
    fun ⟨low, high, least, most⟩ => ⟨⟨⟨low, high⟩, least⟩, most⟩⟩

/-! ### Within a year -/

/-- The number of days of a year. -/
def daysInYear (year : Int) : Nat := if isLeapYear year then 366 else 365

theorem month_of_daysInMonth {year : Int} {month : Nat} (some_ : 0 < daysInMonth year month) :
    1 ≤ month ∧ month ≤ 12 := by
  unfold daysInMonth at some_
  split at some_ <;> omega

theorem IsDay.month (isDay : date.IsDay) : 1 ≤ date.month ∧ date.month ≤ 12 :=
  month_of_daysInMonth (Nat.lt_of_lt_of_le isDay.least isDay.most)

/-- The months before and the month itself do not exceed the year, and the twelfth one ends it. -/
theorem daysBeforeMonth_add_daysInMonth (year : Int) {month : Nat} (least : 1 ≤ month)
    (most : month ≤ 12) :
    daysBeforeMonth year month + daysInMonth year month ≤ daysInYear year ∧
      (daysBeforeMonth year month + daysInMonth year month = daysInYear year → month = 12) ∧
      (daysBeforeMonth year month = 0 → month = 1) := by
  unfold daysInYear
  cases leap : isLeapYear year <;> interval_cases month <;>
    simp [daysBeforeMonth, daysInMonth, leap]

theorem daysBeforeMonth_succ (year : Int) {month : Nat} (least : 1 ≤ month) :
    daysBeforeMonth year (month + 1) = daysBeforeMonth year month + daysInMonth year month := by
  cases month with
  | zero => cases least
  | succ month => rfl

theorem daysInYear_eq (year : Int) :
    daysBeforeMonth year 12 + daysInMonth year 12 = daysInYear year := by
  unfold daysInYear
  cases leap : isLeapYear year <;> simp [daysBeforeMonth, daysInMonth, leap]

/-! ### Across years -/

theorem daysBeforeYear_succ (year : Int) :
    daysBeforeYear (year + 1) = daysBeforeYear year + daysInYear year := by
  have leap : isLeapYear year = true ↔ year % 4 = 0 ∧ (year % 100 ≠ 0 ∨ year % 400 = 0) := by
    simp [isLeapYear]
  unfold daysBeforeYear daysInYear
  dsimp only
  split
  · rename_i isLeap
    have := leap.mp isLeap
    omega
  · rename_i isCommon
    have := mt leap.mpr isCommon
    omega

theorem daysBeforeYear_mono {early late : Int} (before : early ≤ late) :
    daysBeforeYear early ≤ daysBeforeYear late := by
  unfold daysBeforeYear
  dsimp only
  omega

/-- A year ends before a later one begins. -/
theorem daysBeforeYear_add_daysInYear {early late : Int} (before : early < late) :
    daysBeforeYear early + daysInYear early ≤ daysBeforeYear late := by
  rw [← daysBeforeYear_succ]
  exact daysBeforeYear_mono before

theorem IsDay.number_ge (isDay : date.IsDay) : daysBeforeYear date.year ≤ date.number := by
  have := isDay.least
  unfold number
  omega

theorem IsDay.number_lt (isDay : date.IsDay) :
    date.number < daysBeforeYear date.year + daysInYear date.year := by
  have least := isDay.least
  have most := isDay.most
  have within := (daysBeforeMonth_add_daysInMonth date.year isDay.month.1 isDay.month.2).1
  unfold number
  omega

/-- Days are numbered in the order of their years. -/
theorem number_lt_of_year_lt (ofFirst : first.IsDay) (ofSecond : second.IsDay)
    (before : first.year < second.year) : first.number < second.number :=
  lt_of_lt_of_le ofFirst.number_lt
    ((daysBeforeYear_add_daysInYear before).trans ofSecond.number_ge)

/-- Days with one number lie in one year. -/
theorem year_eq_of_number_eq (ofFirst : first.IsDay) (ofSecond : second.IsDay)
    (same : first.number = second.number) : first.year = second.year := by
  rcases lt_trichotomy first.year second.year with before | same_ | after
  · exact absurd same (number_lt_of_year_lt ofFirst ofSecond before).ne
  · exact same_
  · exact absurd same (number_lt_of_year_lt ofSecond ofFirst after).ne'

/-! ### The following day -/

theorem IsDay.next (isDay : date.IsDay) : date.next.IsDay := by
  unfold Date.next
  split
  · rename_i inside
    exact ⟨Nat.le_add_left .., inside⟩
  · split
    · rename_i before
      refine ⟨le_refl 1, ?_⟩
      have least := isDay.month.1
      have between : 2 ≤ date.month + 1 ∧ date.month + 1 ≤ 12 := by omega
      generalize date.month + 1 = month at between
      obtain ⟨low, high⟩ := between
      show 1 ≤ daysInMonth date.year month
      cases leap : isLeapYear date.year <;> interval_cases month <;> simp [daysInMonth, leap]
    · exact ⟨le_refl 1, (by decide : 1 ≤ 31)⟩

/-- The day that follows another has the next number. -/
theorem IsDay.number_next (isDay : date.IsDay) : date.next.number = date.number + 1 := by
  have most := isDay.most
  have month := isDay.month
  unfold Date.next
  split
  · simp only [number]
    omega
  · split
    · have further := daysBeforeMonth_succ date.year month.1
      simp only [number]
      omega
    · have last : date.month = 12 := by omega
      have whole := daysInYear_eq date.year
      have further := daysBeforeYear_succ date.year
      simp only [number, last, daysBeforeMonth] at *
      omega

/-- The year of the following day is the next one just behind the last day of December. -/
theorem next_year (date : Date) :
    date.next.year = date.year + if date.day < daysInMonth date.year date.month ∨ date.month < 12
      then 0 else 1 := by
  unfold Date.next
  split
  · rename_i inside
    rw [if_pos (.inl inside), add_zero]
  · rename_i outside
    split
    · rename_i before
      rw [if_pos (.inr before), add_zero]
    · rename_i last
      rw [if_neg fun either => either.elim outside last]

/-! ### The ends of the calendar -/

theorem number_lastDay : lastDay.number + 1 = daysBeforeYear (lastYear + 1) := by
  decide

theorem number_firstDay : firstDay.number = daysBeforeYear firstYear := by
  decide

/-- No day lies before the first one. -/
theorem firstDay_le (valid : date.isValid = true) : firstDay.number ≤ date.number := by
  obtain ⟨low, -, isDay⟩ := isValid_iff.mp valid
  rw [number_firstDay]
  exact (daysBeforeYear_mono low).trans isDay.number_ge

/-- No day lies behind the last one. -/
theorem le_lastDay (valid : date.isValid = true) : date.number ≤ lastDay.number := by
  obtain ⟨-, high, isDay⟩ := isValid_iff.mp valid
  have before := isDay.number_lt
  rw [← daysBeforeYear_succ] at before
  have within := daysBeforeYear_mono (Int.add_le_add_right high 1)
  have last := number_lastDay
  omega

theorem eq_firstDay (valid : date.isValid = true) (same : date.number = firstDay.number) :
    date = firstDay := by
  obtain ⟨low, high, isDay⟩ := isValid_iff.mp valid
  have year : date.year = firstYear :=
    year_eq_of_number_eq isDay (isValid_iff.mp (by decide : firstDay.isValid = true)).2.2 same
  have least := isDay.least
  have month := (daysBeforeMonth_add_daysInMonth date.year isDay.month.1 isDay.month.2).2.2
  rw [number_firstDay, number, year] at same
  obtain ⟨dateYear, dateMonth, day⟩ := date
  simp only at *
  obtain rfl := month (by rw [year]; omega)
  have only : day = 1 := by
    simp only [daysBeforeMonth] at same
    omega
  rw [firstDay, year, only]

theorem eq_lastDay (valid : date.isValid = true) (same : date.number = lastDay.number) :
    date = lastDay := by
  obtain ⟨low, high, isDay⟩ := isValid_iff.mp valid
  have year : date.year = lastYear :=
    year_eq_of_number_eq isDay (isValid_iff.mp (by decide : lastDay.isValid = true)).2.2 same
  have least := isDay.least
  have most := isDay.most
  obtain ⟨within, twelfth, -⟩ :=
    daysBeforeMonth_add_daysInMonth date.year isDay.month.1 isDay.month.2
  have last := number_lastDay
  rw [daysBeforeYear_succ] at last
  rw [number, year] at same
  obtain ⟨dateYear, dateMonth, day⟩ := date
  simp only at *
  rw [year] at within twelfth most
  obtain rfl := twelfth (by omega)
  have only : day = 31 := by
    have length : daysInMonth lastYear 12 = 31 := rfl
    omega
  rw [lastDay, year, only]

/-- The last day alone is not followed by another one. -/
theorem next?_eq_none_iff (valid : date.isValid = true) : date.next? = none ↔ date = lastDay := by
  obtain ⟨low, high, isDay⟩ := isValid_iff.mp valid
  constructor
  · intro none_
    have outside : ¬ date.next.isValid = true := by
      intro inside
      rw [next?, if_pos inside] at none_
      cases none_
    have year : lastYear < date.next.year := by
      by_contra bounded
      refine outside (isValid_iff.mpr ⟨?_, not_lt.mp bounded, isDay.next⟩)
      rw [next_year]
      split <;> omega
    have ofNext := isDay.next.number_ge
    have later : daysBeforeYear (lastYear + 1) ≤ daysBeforeYear date.next.year :=
      daysBeforeYear_mono year
    rw [isDay.number_next] at ofNext
    have least := le_lastDay valid
    have last := number_lastDay
    exact eq_lastDay valid (by omega)
  · rintro rfl
    decide

theorem isValid_of_next? (given : date.next? = some second) :
    second = date.next ∧ second.isValid = true := by
  unfold next? at given
  split at given
  · rename_i inside
    obtain rfl := Option.some.inj given
    exact ⟨rfl, inside⟩
  · cases given

end SchemaAssessment.Date

/-
The years of dates. A year may be written with any number of digits; it is read as a whole
number of 64 bits, of which the low 32 bits are kept before it is looked at whether the
calendar has the year. So a date keeps its year if the calendar has it. Other years are
read as the one of the calendar that is congruent to them, if there is one, and two dates
that differ in their years alone are the same just if their years are congruent.
-/

import Mathlib.Tactic.Linarith
import SchemaAssessment.Proofs.Time.Reading
import SchemaAssessment.Value.Lexical

namespace SchemaAssessment

/-! ### Narrow years -/

namespace Time

/-- Years are the same in 32 bits just if they are congruent. -/
theorem narrowYear_eq_iff {left right : Int} :
    narrowYear left = narrowYear right ↔ (twoTo 32 : Int) ∣ left - right := by
  rw [Int.dvd_iff_emod_eq_zero, ← Int.emod_eq_emod_iff_emod_sub_eq_zero, narrowYear, narrowYear]
  constructor
  · intro same
    rw [← Int.bmod_emod (x := left), same, Int.bmod_emod]
  · intro same
    rw [← Int.emod_bmod left, same, Int.emod_bmod]

/-- Of the years that are kept as years of the calendar, those of the calendar stay as they are. -/
theorem narrowYear_eq_self_iff {year : Int} (low : Date.firstYear ≤ narrowYear year)
    (high : narrowYear year ≤ Date.lastYear) :
    narrowYear year = year ↔ Date.firstYear ≤ year ∧ year ≤ Date.lastYear := by
  constructor
  · intro same
    rw [same] at low high
    exact ⟨low, high⟩
  · rintro ⟨first, last⟩
    have bounds : (Date.firstYear, Date.lastYear, (twoTo 32 : Int)) =
        (-262143, 262142, 4294967296) := by
      decide
    obtain ⟨least, rest⟩ := Prod.mk.inj bounds
    obtain ⟨most, wide⟩ := Prod.mk.inj rest
    rw [least] at first
    rw [most] at last
    refine Int.bmod_eq_of_le ?_ ?_ <;> rw [wide] <;> omega

/-! ### The year of a written moment -/

/-- A written date with another year. -/
def DateForm.withYear (form : DateForm) (year : Bool × List Char) : DateForm :=
  { form with isNegative := year.1, year := year.2 }

namespace MomentForm

/-- The date among the pieces. -/
def dateForm? : MomentForm → Option DateForm
  | .dateTime dateForm _ _ => some dateForm
  | .date dateForm _ => some dateForm
  | .time _ _ => none

/-- The pieces with another year. -/
def withYear (year : Bool × List Char) : MomentForm → MomentForm
  | .dateTime dateForm timeForm zone => .dateTime (dateForm.withYear year) timeForm zone
  | .date dateForm zone => .date (dateForm.withYear year) zone
  | .time timeForm zone => .time timeForm zone

/-- The number of years that end at the moment: one at the midnight that ends the last day of
December. -/
def yearsEnded : MomentForm → Int
  | .dateTime dateForm timeForm _ =>
    if timeForm.read.toOption.any Prod.snd ∧ number? dateForm.month = some 12 ∧
      number? dateForm.day = some 31 then 1 else 0
  | _ => 0

end MomentForm

/-- A date or a date with a time begins with its year, and has the same pieces behind another
year. -/
theorem momentForm?_withYear {kind : MomentKind} (dated : kind ≠ .time) {first second : List Char}
    {written other : Bool × List Char} {rest : List Char}
    (ofFirst : year? first = some (written, rest)) (ofSecond : year? second = some (other, rest)) :
    momentForm? kind second = (momentForm? kind first).map (MomentForm.withYear other) := by
  have ofDate : dateForm? second =
      (dateForm? first).map fun found => (found.1.withYear other, found.2) := by
    simp [dateForm?, ofFirst, ofSecond, Option.map_bind, DateForm.withYear]
  cases kind with
  | dateTime =>
    simp [momentForm?, ofDate, Option.bind_map, Option.map_bind, Function.comp_def,
      MomentForm.withYear]
  | date =>
    simp [momentForm?, ofDate, Option.bind_map, Option.map_bind, Function.comp_def,
      MomentForm.withYear]
  | time => exact absurd rfl dated

theorem year?_of_momentForm? {kind : MomentKind} (dated : kind ≠ .time) {chars : List Char}
    {form : MomentForm} (found : momentForm? kind chars = some form) :
    ∃ dateForm rest, form.dateForm? = some dateForm ∧
      year? chars = some ((dateForm.isNegative, dateForm.year), rest) := by
  have ofDate {dateForm : DateForm} {last : List Char}
      (given : dateForm? chars = some (dateForm, last)) :
      ∃ rest, year? chars = some ((dateForm.isNegative, dateForm.year), rest) := by
    simp only [dateForm?, Option.bind_eq_bind, Option.bind_eq_some_iff] at given
    obtain ⟨⟨⟨isNegative, year⟩, rest⟩, begins, _, _, _, _, _, _, _, _, made⟩ := given
    obtain ⟨rfl, -⟩ := Prod.mk.inj (Option.some.inj made)
    exact ⟨rest, begins⟩
  cases kind with
  | dateTime =>
    simp only [momentForm?, Option.bind_eq_bind, Option.bind_eq_some_iff] at found
    obtain ⟨⟨dateForm, last⟩, given, _, _, _, _, _, _, made⟩ := found
    obtain rfl := Option.some.inj made
    obtain ⟨rest, begins⟩ := ofDate given
    exact ⟨dateForm, rest, rfl, begins⟩
  | date =>
    simp only [momentForm?, Option.bind_eq_bind, Option.bind_eq_some_iff] at found
    obtain ⟨⟨dateForm, last⟩, given, _, _, made⟩ := found
    obtain rfl := Option.some.inj made
    obtain ⟨rest, begins⟩ := ofDate given
    exact ⟨dateForm, rest, rfl, begins⟩
  | time => exact absurd rfl dated

/-! ### The years of moments -/

/-- The year of the following day is another one just behind the last day of December. -/
theorem next_year_of_isDay {date : Date} (isDay : date.IsDay) :
    date.next.year = date.year + if date.month = 12 ∧ date.day = 31 then 1 else 0 := by
  have month := isDay.month
  have most := isDay.most
  rw [Date.next_year]
  split
  · rename_i inside
    rw [if_neg]
    rintro ⟨december, last⟩
    rw [december, last] at inside
    exact inside.elim (Nat.lt_irrefl 31) (Nat.lt_irrefl 12)
  · rename_i outside
    obtain ⟨notBefore, notEarlier⟩ := not_or.mp outside
    have december : date.month = 12 := by omega
    rw [december] at notBefore most
    have last : date.day = 31 := le_antisymm most (not_lt.mp notBefore)
    rw [if_pos ⟨december, last⟩]

theorem any_endsDay {form : TimeForm} {time : TimeOfDay} {endsDay : Bool}
    (read : form.read = .ok (time, endsDay)) : form.read.toOption.any Prod.snd = endsDay := by
  rw [read]
  rfl

/-- The year of a moment is the written one as it is kept, and one more where a year has ended. -/
theorem MomentForm.Tells.year {form : MomentForm} {dateForm : DateForm} {moment : Moment}
    (tells : form.Tells moment) (dated : form.dateForm? = some dateForm) :
    ∃ year, writtenYear? dateForm.isNegative dateForm.year = some year ∧ fitsYear year = true ∧
      Date.firstYear ≤ narrowYear year ∧ narrowYear year ≤ Date.lastYear ∧
        moment.date.year = narrowYear year + form.yearsEnded := by
  cases tells with
  | @dateTime dateForm timeForm zone written day time endsDay offset ofDate ofTime ofDay ofZone =>
    obtain rfl := Option.some.inj dated
    obtain ⟨year, month, dayOfMonth, given, fits, ofMonth, ofDayOfMonth, rfl, valid⟩ :=
      DateForm.value?_eq_some.mp ofDate
    obtain ⟨low, high, isDay⟩ := Date.isValid_iff.mp valid
    refine ⟨year, given, fits, low, high, ?_⟩
    rw [yearsEnded, any_endsDay ofTime, ofMonth, ofDayOfMonth]
    cases endsDay with
    | false =>
      obtain rfl := Option.some.inj ofDay
      simp
    | true =>
      obtain ⟨rfl, -⟩ := Date.isValid_of_next? ofDay
      simpa using next_year_of_isDay isDay
  | date ofDate ofZone =>
    obtain rfl := Option.some.inj dated
    obtain ⟨year, month, dayOfMonth, given, fits, -, -, rfl, valid⟩ :=
      DateForm.value?_eq_some.mp ofDate
    obtain ⟨low, high, -⟩ := Date.isValid_iff.mp valid
    exact ⟨year, given, fits, low, high, (add_zero _).symm⟩
  | time ofTime ofZone => cases dated

/-! ### Two years -/

/-- A written date is read alike with another year that is congruent. -/
theorem DateForm.value?_withYear {form : DateForm} {written : Bool × List Char} {year other : Int}
    (ofYear : writtenYear? form.isNegative form.year = some year) (fits : fitsYear year = true)
    (ofOther : writtenYear? written.1 written.2 = some other) (otherFits : fitsYear other = true)
    (same : narrowYear year = narrowYear other) : (form.withYear written).value? = form.value? := by
  simp [DateForm.value?, DateForm.withYear, ofYear, ofOther, Option.filter, fits, otherFits, same]

theorem MomentForm.read_withYear {form : MomentForm} {dateForm : DateForm}
    (dated : form.dateForm? = some dateForm) {written : Bool × List Char} {year other : Int}
    (ofYear : writtenYear? dateForm.isNegative dateForm.year = some year)
    (fits : fitsYear year = true) (ofOther : writtenYear? written.1 written.2 = some other)
    (otherFits : fitsYear other = true) (same : narrowYear year = narrowYear other) :
    (form.withYear written).read = form.read := by
  cases form with
  | dateTime dateForm timeForm zone =>
    obtain rfl := Option.some.inj dated
    simp only [withYear, MomentForm.read,
      DateForm.value?_withYear ofYear fits ofOther otherFits same]
  | date dateForm zone =>
    obtain rfl := Option.some.inj dated
    simp only [withYear, MomentForm.read,
      DateForm.value?_withYear ofYear fits ofOther otherFits same]
  | time timeForm zone => cases dated

/-- Days that are written alike but for their years have one number just if their years are
congruent. -/
theorem DateForm.number_withYear {form : DateForm} {written : Bool × List Char} {year other : Int}
    {first second : Date} (ofYear : writtenYear? form.isNegative form.year = some year)
    (ofOther : writtenYear? written.1 written.2 = some other) (left : form.value? = some first)
    (right : (form.withYear written).value? = some second) :
    first.number = second.number ↔ narrowYear year = narrowYear other := by
  obtain ⟨_, month, day, given, -, ofMonth, ofDay, rfl, valid⟩ := DateForm.value?_eq_some.mp left
  obtain ⟨_, otherMonth, otherDay, alsoGiven, -, alsoMonth, alsoDay, rfl, otherValid⟩ :=
    DateForm.value?_eq_some.mp right
  obtain rfl := Option.some.inj (ofYear.symm.trans given)
  obtain rfl := Option.some.inj (ofOther.symm.trans alsoGiven)
  obtain rfl : month = otherMonth := Option.some.inj (ofMonth.symm.trans alsoMonth)
  obtain rfl : day = otherDay := Option.some.inj (ofDay.symm.trans alsoDay)
  constructor
  · exact Date.year_eq_of_number_eq (Date.isValid_iff.mp valid).2.2
      (Date.isValid_iff.mp otherValid).2.2
  · intro same
    rw [same]

/-- Moments of which only the number of the day may differ. -/
structure AgreesButInDay (left right : Moment) : Prop where
  kind : left.kind = right.kind
  time : left.time = right.time
  offset : left.offset = right.offset

/-- Moments that are written alike but for their years agree but in the day, and their days have one
number just if their years are congruent. -/
theorem MomentForm.Tells.withYear {form : MomentForm} {dateForm : DateForm} {left right : Moment}
    {written : Bool × List Char} {year other : Int} (dated : form.dateForm? = some dateForm)
    (ofYear : writtenYear? dateForm.isNegative dateForm.year = some year)
    (ofOther : writtenYear? written.1 written.2 = some other) (first : form.Tells left)
    (second : (form.withYear written).Tells right) :
    AgreesButInDay left right ∧
      (left.date.number = right.date.number ↔ narrowYear year = narrowYear other) := by
  cases first with
  | @dateTime dateForm timeForm zone day next time endsDay offset ofDate ofTime ofDay ofZone =>
    obtain rfl := Option.some.inj dated
    cases second with
    | @dateTime _ _ _ otherDay otherNext _ _ _ alsoDate alsoTime alsoDay alsoZone =>
      obtain ⟨rfl, rfl⟩ := Prod.mk.inj (Except.ok.inj (ofTime.symm.trans alsoTime))
      refine ⟨⟨rfl, rfl, Option.some.inj (ofZone.symm.trans alsoZone)⟩, ?_⟩
      rw [← DateForm.number_withYear ofYear ofOther ofDate alsoDate]
      cases endsDay with
      | false =>
        obtain rfl : day = next := Option.some.inj ofDay
        obtain rfl : otherDay = otherNext := Option.some.inj alsoDay
        rfl
      | true =>
        obtain ⟨rfl, -⟩ := Date.isValid_of_next? ofDay
        obtain ⟨rfl, -⟩ := Date.isValid_of_next? alsoDay
        have isDay := (Date.isValid_iff.mp (DateForm.isValid ofDate)).2.2
        have alsoIsDay := (Date.isValid_iff.mp (DateForm.isValid alsoDate)).2.2
        show day.next.number = otherDay.next.number ↔ _
        rw [isDay.number_next, alsoIsDay.number_next, add_left_inj]
  | date ofDate ofZone =>
    obtain rfl := Option.some.inj dated
    cases second with
    | date alsoDate alsoZone =>
      exact ⟨⟨rfl, rfl, Option.some.inj (ofZone.symm.trans alsoZone)⟩,
        DateForm.number_withYear ofYear ofOther ofDate alsoDate⟩
  | time ofTime ofZone => cases dated

/-- Moments that agree but in the day are the same just if their days have one number. -/
theorem AgreesButInDay.compare_eq {left right : Moment} (agrees : AgreesButInDay left right) :
    left.compare right = some .eq ↔ left.date.number = right.date.number := by
  have day : (0 : Int) < TimeOfDay.day := by decide
  rw [Moment.compare, agrees.kind, agrees.offset, if_pos (by simp), Option.some.injEq,
    compare_eq_iff_eq, Moment.instant, Moment.instant, Moment.localNanoseconds,
    Moment.localNanoseconds, agrees.offset, agrees.time, sub_left_inj, add_left_inj]
  exact Int.mul_eq_mul_right_iff day.ne'

end Time

/-! ### Dates as values -/

namespace Datatype

/-- The datatype of a kind of moments. -/
def ofMomentKind : MomentKind → Datatype
  | .dateTime => .dateTime
  | .date => .date
  | .time => .time

theorem parse_ofMomentKind (kind : MomentKind) (scopes : NamespaceScopes) (text : String) :
    (ofMomentKind kind).parse scopes text =
      (ofMomentKind kind).accept text ((Time.moment? kind text.toList).map .moment) := by
  cases kind <;> rfl

theorem parse_ofMomentKind_eq_ok {kind : MomentKind} {scopes : NamespaceScopes} {text : String}
    {value : Value} : (ofMomentKind kind).parse scopes text = .ok value ↔
      ∃ moment form, value = .moment moment ∧ Time.momentForm? kind text.toList = some form ∧
        form.Tells moment := by
  rw [parse_ofMomentKind]
  cases read : Time.moment? kind text.toList with
  | none =>
    refine iff_of_false nofun ?_
    rintro ⟨moment, form, -, found, tells⟩
    have reads := Time.moment?_eq_some.mpr (Time.readMoment_eq_ok.mpr ⟨form, found, tells⟩)
    cases read.symm.trans reads
  | some moment =>
    obtain ⟨form, found, tells⟩ := Time.readMoment_eq_ok.mp (Time.moment?_eq_some.mp read)
    constructor
    · intro same
      exact ⟨moment, form, (Except.ok.inj same).symm, found, tells⟩
    · rintro ⟨other, otherForm, rfl, alsoFound, alsoTells⟩
      obtain rfl := Option.some.inj (found.symm.trans alsoFound)
      have alike := Time.MomentForm.read_eq_ok.mpr tells
      obtain rfl := Except.ok.inj (alike.symm.trans (Time.MomentForm.read_eq_ok.mpr alsoTells))
      rfl

open Time

/-- A date that is accepted has the low 32 bits of the written year as its year, and the following
year where the midnight that ends the last day of December was written: the written year
itself just if the calendar has it. Two accepted dates that are written alike but for their
years are the same just if the years are congruent modulo two to the power of 32; and dates
with such years are read alike, as long as the years fit 64 bits. -/
theorem years_read_modulo {kind : MomentKind} (dated : kind ≠ .time) (scopes : NamespaceScopes) :
    let parse := (ofMomentKind kind).parse scopes
    (∀ text value, parse text = .ok value → ∃ moment form isNegative digits rest year,
      value = .moment moment ∧ momentForm? kind text.toList = some form ∧
        year? text.toList = some ((isNegative, digits), rest) ∧
        writtenYear? isNegative digits = some year ∧ fitsYear year = true ∧
        Date.firstYear ≤ narrowYear year ∧ narrowYear year ≤ Date.lastYear ∧
        moment.date.year = narrowYear year + form.yearsEnded ∧
        (moment.date.year = year + form.yearsEnded ↔
          Date.firstYear ≤ year ∧ year ≤ Date.lastYear)) ∧
      ∀ (first second : String) (written other : Bool × List Char) (rest : List Char)
        (year otherYear : Int),
        year? first.toList = some (written, rest) → year? second.toList = some (other, rest) →
        writtenYear? written.1 written.2 = some year →
        writtenYear? other.1 other.2 = some otherYear →
          (∀ left right, parse first = .ok left → parse second = .ok right →
            (left.same right = true ↔ (twoTo 32 : Int) ∣ year - otherYear)) ∧
          (fitsYear year = true → fitsYear otherYear = true → (twoTo 32 : Int) ∣ year - otherYear →
            (parse first).toOption = (parse second).toOption) := by
  intro parse
  refine ⟨fun text value accepted => ?_, ?_⟩
  · obtain ⟨moment, form, rfl, found, tells⟩ := parse_ofMomentKind_eq_ok.mp accepted
    obtain ⟨dateForm, rest, ofDate, begins⟩ := year?_of_momentForm? dated found
    obtain ⟨year, given, fits, low, high, kept⟩ := tells.year ofDate
    refine ⟨moment, form, _, _, rest, year, rfl, found, begins, given, fits, low, high, kept, ?_⟩
    rw [kept, add_left_inj, narrowYear_eq_self_iff low high]
  · intro first second written other rest year otherYear begins alsoBegins ofYear ofOther
    have pieces := momentForm?_withYear dated begins alsoBegins
    refine ⟨fun left right accepted alsoAccepted => ?_, fun fits otherFits congruent => ?_⟩
    · obtain ⟨moment, form, rfl, found, tells⟩ := parse_ofMomentKind_eq_ok.mp accepted
      obtain ⟨otherMoment, otherForm, rfl, alsoFound, alsoTells⟩ :=
        parse_ofMomentKind_eq_ok.mp alsoAccepted
      obtain ⟨dateForm, alsoRest, ofDate, alsoHere⟩ := year?_of_momentForm? dated found
      obtain ⟨rfl, rfl⟩ := Prod.mk.inj (Option.some.inj (begins.symm.trans alsoHere))
      rw [pieces, found] at alsoFound
      obtain rfl := Option.some.inj alsoFound
      obtain ⟨agrees, numbers⟩ := tells.withYear ofDate ofYear ofOther alsoTells
      rw [Value.same, beq_iff_eq, agrees.compare_eq, numbers, narrowYear_eq_iff]
    · have alike : moment? kind second.toList = moment? kind first.toList := by
        rw [moment?, moment?, readMoment, readMoment, pieces]
        cases found : momentForm? kind first.toList with
        | none => rfl
        | some form =>
          obtain ⟨dateForm, alsoRest, ofDate, alsoHere⟩ := year?_of_momentForm? dated found
          obtain ⟨rfl, rfl⟩ := Prod.mk.inj (Option.some.inj (begins.symm.trans alsoHere))
          exact congrArg Except.toOption (MomentForm.read_withYear ofDate ofYear fits ofOther
            otherFits (narrowYear_eq_iff.mpr congruent))
      show ((ofMomentKind kind).parse scopes first).toOption =
        ((ofMomentKind kind).parse scopes second).toOption
      rw [parse_ofMomentKind, parse_ofMomentKind, alike]
      cases moment? kind first.toList <;> rfl

/-- The last day of a year, at its end. -/
def yearsEnd (year : String) : String := year ++ "-12-31T24:00:00"

theorem parse_of_moment? (kind : MomentKind) {scopes : NamespaceScopes} {text : String}
    {moment : Moment} (read : Time.moment? kind text.toList = some moment) :
    (ofMomentKind kind).parse scopes text = .ok (.moment moment) := by
  rw [parse_ofMomentKind, read]
  rfl

theorem years_read_modulo_yearsEnd :
    let parse := (ofMomentKind .dateTime).parse .initial
    ∃ left right, parse (yearsEnd "-4294965272") = .ok left ∧ parse (yearsEnd "2024") = .ok right ∧
      left.same right = true ∧ left.text = "2025-01-01T00:00:00" := by
  intro parse
  let newYear : Moment := ⟨.dateTime, ⟨2025, 1, 1⟩, ⟨0⟩, none⟩
  have far : parse (yearsEnd "-4294965272") = .ok (.moment newYear) :=
    parse_of_moment? .dateTime (by decide +kernel)
  have near : parse (yearsEnd "2024") = .ok (.moment newYear) :=
    parse_of_moment? .dateTime (by decide +kernel)
  have same := (((@years_read_modulo .dateTime (by decide) .initial).2
    (yearsEnd "-4294965272") (yearsEnd "2024") (true, "4294965272".toList) (false, "2024".toList)
    "-12-31T24:00:00".toList (-4294965272) 2024 (by decide +kernel) (by decide +kernel)
    (by decide +kernel) (by decide +kernel)).1 _ _ far near).mpr (by decide)
  exact ⟨_, _, far, near, same, by decide +kernel⟩

/-- A day of a year that the calendar has not is read as a day of another year. -/
theorem year_4294969320_read_as_2024 :
    let leapDay : Value := .moment ⟨.date, ⟨2024, 2, 29⟩, ⟨0⟩, none⟩
    Date.lastYear < 4294969320 ∧
      year? "4294969320-02-29".toList = some ((false, "4294969320".toList), "-02-29".toList) ∧
      writtenYear? false "4294969320".toList = some 4294969320 ∧
      Datatype.date.parse .initial "4294969320-02-29" = .ok leapDay ∧
      Datatype.date.parse .initial "2024-02-29" = .ok leapDay := by
  refine ⟨by decide, by decide +kernel, by decide +kernel, ?_, ?_⟩ <;>
    exact parse_of_moment? .date (by decide +kernel)

end Datatype

end SchemaAssessment

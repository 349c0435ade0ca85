/-
Dates with times denote instants. A written one counts the days of its date, the time that
has passed since midnight, and the minutes by which its zone is ahead of universal time; the
instant is computed from these alone. Midnight that ends a day is nothing special there, as
it is a whole day behind the midnight before. Far enough from the ends of the calendar, two
written ones are ordered as their instants are, if both have a zone or both have none.
-/

import SchemaAssessment.Proofs.Number.Figures
import SchemaAssessment.Proofs.Time.Forms
import SchemaAssessment.Proofs.Time.Ranges
import SchemaAssessment.Proofs.Time.Years
import SchemaAssessment.Proofs.Value.Sameness

namespace SchemaAssessment

/-- Days are numbered by counting them. -/
theorem Date.IsDay.number_iterate_next {date : Date} (isDay : date.IsDay) (days : Nat) :
    (Date.next^[days] date).IsDay ∧ (Date.next^[days] date).number = date.number + days := by
  induction days with
  | zero => exact ⟨isDay, (Int.add_zero _).symm⟩
  | succ days inductionHypothesis =>
    obtain ⟨before, counted⟩ := inductionHypothesis
    rw [Function.iterate_succ_apply']
    refine ⟨before.next, ?_⟩
    rw [before.number_next, counted, Nat.cast_succ, Int.add_assoc]

namespace Time

open Digits (AreFigures)

/-! ### What the pieces write -/

/-- The number that some figures write. -/
def written (figures : List Char) : Nat := Nat.ofDigitChars 10 figures 0

/-- The year with its sign. -/
def DateForm.writtenYear (form : DateForm) : Int :=
  if form.isNegative then -(written form.year : Int) else written form.year

/-- The day that is written, whether or not there is such a day. -/
def DateForm.writtenDate (form : DateForm) : Date :=
  ⟨form.writtenYear, written form.month, written form.day⟩

/-- The nanoseconds of a fraction of a second of at most nine figures. -/
def writtenFraction : Option (List Char) → Nat
  | none => 0
  | some figures => written figures * tenTo (countedDigits - figures.length)

/-- The nanoseconds since midnight. -/
def TimeForm.elapsed (form : TimeForm) : Nat :=
  ((written form.hours * 60 + written form.minutes) * 60 + written form.seconds) * TimeOfDay.second
    + writtenFraction form.fraction

/-- The minutes by which a zone is ahead of universal time. -/
def ZoneForm.ahead : ZoneForm → Option Int
  | .absent => none
  | .universal => some 0
  | .shifted isNegative hours minutes =>
    let shift : Int := written hours * 60 + written minutes
    some (if isNegative then -shift else shift)

/-- A date with a time, in pieces. -/
structure Stamp where
  date : DateForm
  time : TimeForm
  zone : ZoneForm

namespace Stamp

/-- The pieces as those of a moment. -/
def form (stamp : Stamp) : MomentForm := .dateTime stamp.date stamp.time stamp.zone

/-- The text that is made of the pieces. -/
def text (stamp : Stamp) : String := String.ofList stamp.form.chars

/-- Nanoseconds by the clocks of its zone, since the first day of the year one. -/
def localReading (stamp : Stamp) : Int :=
  stamp.date.writtenDate.number * TimeOfDay.day + stamp.time.elapsed

/-- Nanoseconds of the instant in universal time; without a zone, those of the local reading. -/
def instant (stamp : Stamp) : Int :=
  stamp.localReading - stamp.zone.ahead.getD 0 * Moment.minute

/-- The year lies far from the ends of the calendar, and a fraction of a second has at most nine
figures. -/
structure IsNear (stamp : Stamp) : Prop where
  least : -262000 ≤ stamp.date.writtenYear
  most : stamp.date.writtenYear ≤ 262000
  fraction : ∀ digits, stamp.time.fraction = some digits →
    digits.length ≤ countedDigits ∧ AreFigures digits

/-- The text of the pieces is accepted, and read as the value. -/
structure Denotes (scopes : NamespaceScopes) (stamp : Stamp) (value : Value) : Prop where
  written : stamp.form.IsWritten
  accepted : Datatype.dateTime.parse scopes stamp.text = .ok value
  near : stamp.IsNear

end Stamp

/-! ### Reading the pieces -/

theorem number?_eq_written {digits : List Char} {number : Nat}
    (read : number? digits = some number) : number = written digits :=
  (number?_eq_some_iff.mp read).2.2.symm

theorem writtenYear?_eq_some_iff {isNegative : Bool} {digits : List Char} {year : Int} :
    writtenYear? isNegative digits = some year ↔ ∃ magnitude : Nat,
      number? digits = some magnitude ∧
        (if isNegative then -(magnitude : Int) else magnitude) = year := by
  simp [writtenYear?, Option.bind_eq_some_iff]

theorem DateForm.value?_eq_writtenDate {form : DateForm} {date : Date}
    (read : form.value? = some date) (least : Date.firstYear ≤ form.writtenYear)
    (most : form.writtenYear ≤ Date.lastYear) : date = form.writtenDate := by
  obtain ⟨year, month, day, given, -, ofMonth, ofDay, rfl, valid⟩ := DateForm.value?_eq_some.mp read
  obtain ⟨low, high, -⟩ := Date.isValid_iff.mp valid
  obtain ⟨magnitude, ofYear, rfl⟩ := writtenYear?_eq_some_iff.mp given
  obtain rfl := number?_eq_written ofYear
  obtain rfl := number?_eq_written ofMonth
  obtain rfl := number?_eq_written ofDay
  exact congrArg (fun year => (⟨year, _, _⟩ : Date))
    ((narrowYear_eq_self_iff low high).mpr ⟨least, most⟩)

/-- A figure is one byte long. -/
theorem byteLength_of_areFigures {chars : List Char} (areFigures : AreFigures chars) :
    byteLength chars = chars.length := by
  induction chars with
  | nil => rfl
  | cons c rest ofRest =>
    obtain ⟨figure, others⟩ := List.forall_mem_cons.mp areFigures
    have single : c.utf8Size = 1 := by
      have bounded := (Digits.isAsciiDigit_iff.mp figure).2
      rw [Char.utf8Size_eq_one_iff]
      exact UInt32.le_iff_toNat_le.mpr (bounded.trans (by decide))
    have := ofRest others
    simp only [byteLength, List.foldr_cons, List.length_cons] at *
    omega

theorem nanoseconds_eq_writtenFraction {fraction : Option (List Char)} {number : Nat}
    (read : nanoseconds fraction = .ok number)
    (short : ∀ digits, fraction = some digits →
      digits.length ≤ countedDigits ∧ AreFigures digits) : number = writtenFraction fraction := by
  cases fraction with
  | none => exact (Except.ok.inj read).symm
  | some digits =>
    obtain ⟨few, areFigures⟩ := short digits rfl
    have all : counted digits = digits := List.take_of_length_le few
    rw [nanoseconds_eq, all, byteLength_of_areFigures areFigures, if_neg (Nat.not_lt.mpr few),
      require_eq_ok] at read
    obtain ⟨value, ofDigits, rfl⟩ := Option.map_eq_some_iff.mp read
    rw [number?_eq_written ofDigits, writtenFraction]

/-- A time of day is read as the time since midnight, if the midnight that ends the day is taken to
be a whole day behind the midnight before. -/
theorem TimeForm.read_elapsed {form : TimeForm} {time : TimeOfDay} {endsDay : Bool}
    (read : form.read = .ok (time, endsDay))
    (short : ∀ digits, form.fraction = some digits →
      digits.length ≤ countedDigits ∧ AreFigures digits) :
    (if endsDay then TimeOfDay.day else 0) + time.nanoseconds = form.elapsed := by
  have numeric : form.IsNumeric := .of_read_ne (by simp [read])
  obtain ⟨hours, ofHours⟩ := Option.isSome_iff_exists.mp numeric.hours
  obtain ⟨minutes, ofMinutes⟩ := Option.isSome_iff_exists.mp numeric.minutes
  obtain ⟨seconds, ofSeconds⟩ := Option.isSome_iff_exists.mp numeric.seconds
  rw [TimeForm.read_eq ofHours ofMinutes ofSeconds, bind_eq_ok] at read
  obtain ⟨nanoseconds, ofFraction, further⟩ := read
  rw [elapsed, ← number?_eq_written ofHours, ← number?_eq_written ofMinutes,
    ← number?_eq_written ofSeconds, ← nanoseconds_eq_writtenFraction ofFraction short]
  split at further
  · rename_i midnight
    obtain ⟨rfl, rfl, rfl, rfl⟩ := midnight
    obtain ⟨rfl, rfl⟩ := Prod.mk.inj (Except.ok.inj further)
    rfl
  · obtain ⟨same, told, given⟩ := Option.map_eq_some_iff.mp (require_eq_ok.mp further)
    obtain ⟨rfl, rfl⟩ := Prod.mk.inj given
    unfold TimeOfDay.of? at told
    split at told
    · obtain rfl := Option.some.inj told
      exact Nat.zero_add _
    · cases told

theorem ZoneForm.offset?_eq_ahead {zone : ZoneForm} {offset : Option Int}
    (read : zone.offset? = some offset) : offset = zone.ahead := by
  cases zone with
  | absent => exact (Option.some.inj read).symm
  | universal => exact (Option.some.inj read).symm
  | shifted isNegative hours minutes =>
    simp only [ZoneForm.offset?, Option.bind_eq_bind, Option.bind_eq_some_iff] at read
    obtain ⟨ofHours, hoursRead, ofMinutes, minutesRead, read⟩ := read
    obtain rfl := number?_eq_written hoursRead
    obtain rfl := number?_eq_written minutesRead
    split at read
    · cases read
    · exact (Option.some.inj read).symm

/-- The day behind a midnight that ends a day has the next number, and lies in the same year or in
the next one. -/
theorem number_of_rollOver {written day : Date} {endsDay : Bool} (valid : written.isValid = true)
    (rolled : (if endsDay then written.next? else some written) = some day) :
    day.number = written.number + (if endsDay then 1 else 0) ∧
      written.year ≤ day.year ∧ day.year ≤ written.year + 1 := by
  cases endsDay with
  | false =>
    obtain rfl : written = day := Option.some.inj rolled
    exact ⟨(Int.add_zero _).symm, le_refl _, by omega⟩
  | true =>
    obtain ⟨rfl, -⟩ := Date.isValid_of_next? rolled
    refine ⟨(Date.isValid_iff.mp valid).2.2.number_next, ?_⟩
    rw [Date.next_year]
    split <;> omega

namespace Stamp

theorem momentForm?_eq_form {stamp : Stamp} (written : stamp.form.IsWritten) :
    momentForm? .dateTime stamp.text.toList = some stamp.form :=
  momentForm?_eq_some_iff.mpr ⟨rfl, written, String.toList_ofList⟩

/-- A text that denotes an instant is read as a moment of this instant, which can be told. -/
theorem Denotes.moment {scopes : NamespaceScopes} {stamp : Stamp} {value : Value}
    (denotes : stamp.Denotes scopes value) :
    ∃ moment, value = .moment moment ∧ moment.kind = .dateTime ∧
      moment.offset = stamp.zone.ahead ∧ moment.instant = stamp.instant ∧
        moment.universal = .ok stamp.instant := by
  obtain ⟨moment, form, rfl, found, tells⟩ :=
    (@Datatype.parse_ofMomentKind_eq_ok .dateTime _ _ _).mp denotes.accepted
  obtain rfl := Option.some.inj ((momentForm?_eq_form denotes.written).symm.trans found)
  obtain ⟨valid, within, bounded⟩ := tells.bounded
  cases tells with
  | @dateTime _ _ _ written day time endsDay offset ofDate ofTime ofDay ofZone =>
    have writtenValid := DateForm.isValid ofDate
    have bounds : Date.firstYear = -262143 ∧ Date.lastYear = 262142 := ⟨rfl, rfl⟩
    have least := denotes.near.least
    have most := denotes.near.most
    obtain rfl := DateForm.value?_eq_writtenDate ofDate (by omega) (by omega)
    obtain ⟨number, notBefore, notBehind⟩ := number_of_rollOver writtenValid ofDay
    have elapsed := TimeForm.read_elapsed ofTime denotes.near.fraction
    have instant : (⟨.dateTime, day, time, offset⟩ : Moment).instant = stamp.instant := by
      rw [Moment.instant, Moment.localNanoseconds, Stamp.instant, localReading, number, ← elapsed,
        ZoneForm.offset?_eq_ahead ofZone]
      cases endsDay with
      | false => simp
      | true =>
        simp only [if_true, Nat.cast_add]
        ring
    have told :
        Moment.isRepresentable (⟨.dateTime, day, time, offset⟩ : Moment).instant = true := by
      rw [Moment.isRepresentable_iff valid within bounded]
      rintro ⟨minutes, -, ⟨same, -⟩ | ⟨same, -⟩⟩
      · have year : day.year = Date.firstYear := congrArg Date.year same
        have : stamp.date.writtenDate.year = stamp.date.writtenYear := rfl
        omega
      · have year : day.year = Date.lastYear := congrArg Date.year same
        have : stamp.date.writtenDate.year = stamp.date.writtenYear := rfl
        omega
    refine ⟨_, rfl, rfl, ZoneForm.offset?_eq_ahead ofZone, instant, ?_⟩
    rw [Moment.universal_eq told, instant]

/-- The text can be taken apart into pieces in one way only. -/
theorem eq_of_text_eq {first second : Stamp} (written : first.form.IsWritten)
    (alsoWritten : second.form.IsWritten) (same : first.text = second.text) : first = second := by
  have pieces := momentForm?_eq_form written
  rw [same, momentForm?_eq_form alsoWritten] at pieces
  obtain ⟨date, time, zone⟩ := first
  obtain ⟨otherDate, otherTime, otherZone⟩ := second
  obtain ⟨rfl, rfl, rfl⟩ := MomentForm.dateTime.inj (Option.some.inj pieces)
  rfl

theorem exists_of_accepted {scopes : NamespaceScopes} {spelled : String} {value : Value}
    (accepted : Datatype.dateTime.parse scopes spelled = .ok value) :
    ∃ stamp : Stamp, stamp.form.IsWritten ∧ stamp.text = spelled := by
  obtain ⟨moment, form, -, found, tells⟩ :=
    (@Datatype.parse_ofMomentKind_eq_ok .dateTime _ _ _).mp accepted
  obtain ⟨kind, written, chars⟩ := momentForm?_eq_some_iff.mp found
  cases form with
  | dateTime date time zone =>
    refine ⟨⟨date, time, zone⟩, written, ?_⟩
    rw [text, form, ← chars, String.ofList_toList]
  | date _ _ => cases kind
  | time _ _ => cases kind

/-- The order that two written instants have, if both have a zone or both have none. -/
def order (left right : Stamp) : Option Ordering :=
  if left.zone.ahead.isSome = right.zone.ahead.isSome then
    some (Ord.compare left.instant right.instant)
  else none

section

variable {scopes : NamespaceScopes} {left right : Stamp} {first second : Value}

theorem Denotes.compare (ofLeft : left.Denotes scopes first)
    (ofRight : right.Denotes scopes second) :
    first.breaksOff second = false ∧ first.compare second = left.order right ∧
      (first.same second = true ↔
        left.zone.ahead.isSome = right.zone.ahead.isSome ∧ left.instant = right.instant) := by
  obtain ⟨moment, rfl, kind, offset, instant, told⟩ := ofLeft.moment
  obtain ⟨other, rfl, otherKind, otherOffset, otherInstant, otherTold⟩ := ofRight.moment
  refine ⟨?_, ?_, ?_⟩
  · rw [Value.breaksOff, Moment.order, told, otherTold]
    split <;> rfl
  · rw [Value.compare, Moment.compare, order, kind, otherKind, offset, otherOffset, instant,
      otherInstant]
    simp
  · rw [Value.same, beq_iff_eq, Moment.compare_eq_iff, kind, otherKind, offset, otherOffset,
      instant, otherInstant]
    simp

/-- The left instant is not behind the right one. -/
theorem Denotes.isLE_iff (ofLeft : left.Denotes scopes first)
    (ofRight : right.Denotes scopes second)
    (alike : left.zone.ahead.isSome = right.zone.ahead.isSome) :
    (first.compare second).any Ordering.isLE = true ↔ left.instant ≤ right.instant := by
  rw [(ofLeft.compare ofRight).2.1, order, if_pos alike, Option.any_some, Std.isLE_compare]

end

end Stamp

/-! ### The order of dates with times -/

/-- An accepted date with a time is made of pieces, in one way only. Two of them that lie far
enough from the ends of the calendar, with fractions of at most nine figures, compare just if both
have a zone or both have none, and then as the instants do that are computed from the pieces, where
days are numbered by counting them. In particular they are the same just if the instants are
equal; a time by the clocks of another zone stands for the time of the first one; and among
those with a zone, as among those without, any two compare, and the order is transitive. -/
theorem dateTimes_compare_as_instants (scopes : NamespaceScopes) :
    (∀ text value, Datatype.dateTime.parse scopes text = .ok value →
      ∃! stamp : Stamp, stamp.form.IsWritten ∧ stamp.text = text) ∧
    (∀ date : Date, date.IsDay → ∀ days,
      (Date.next^[days] date).number = date.number + days) ∧
    (∀ left right first second, Stamp.Denotes scopes left first →
      Stamp.Denotes scopes right second →
        first.breaksOff second = false ∧ first.compare second = left.order right ∧
          (first.same second = true ↔
            left.zone.ahead.isSome = right.zone.ahead.isSome ∧ left.instant = right.instant)) ∧
    (∀ left moved other first second third, Stamp.Denotes scopes left first →
      Stamp.Denotes scopes moved second → Stamp.Denotes scopes other third →
        ∀ ahead minutes, left.zone.ahead = some ahead → moved.zone.ahead = some (ahead + minutes) →
          moved.localReading = left.localReading + minutes * Moment.minute →
            first.same second = true ∧ second.compare third = first.compare third ∧
              third.compare second = third.compare first) ∧
    ∀ zoned, let InClass (value : Value) := ∃ stamp : Stamp,
        stamp.Denotes scopes value ∧ stamp.zone.ahead.isSome = zoned
      let AtMost (first second : Value) : Prop := (first.compare second).any Ordering.isLE = true
      (∀ first second, InClass first → InClass second →
        AtMost first second ∨ AtMost second first) ∧
      ∀ first second third, InClass first → InClass second → InClass third →
        AtMost first second → AtMost second third → AtMost first third := by
  refine ⟨fun text value accepted => ?_, fun date isDay days => (isDay.number_iterate_next days).2,
    fun left right first second ofLeft ofRight => ofLeft.compare ofRight, ?_, ?_⟩
  · obtain ⟨stamp, written, rfl⟩ := Stamp.exists_of_accepted accepted
    exact ⟨stamp, ⟨written, rfl⟩, fun other also => Stamp.eq_of_text_eq also.1 written also.2⟩
  · intro left moved other first second third ofLeft ofMoved ofOther ahead minutes zone shifted
      reading
    have instant : moved.instant = left.instant := by
      rw [Stamp.instant, Stamp.instant, zone, shifted, reading, Option.getD_some, Option.getD_some]
      ring
    refine ⟨(ofLeft.compare ofMoved).2.2.mpr ⟨by rw [zone, shifted]; rfl, instant.symm⟩, ?_, ?_⟩
    · rw [(ofMoved.compare ofOther).2.1, (ofLeft.compare ofOther).2.1, Stamp.order, Stamp.order,
        instant, zone, shifted]
      rfl
    · rw [(ofOther.compare ofMoved).2.1, (ofOther.compare ofLeft).2.1, Stamp.order, Stamp.order,
        instant, zone, shifted]
      rfl
  · intro zoned InClass AtMost
    constructor
    · rintro first second ⟨left, ofLeft, leftZoned⟩ ⟨right, ofRight, rightZoned⟩
      have alike := leftZoned.trans rightZoned.symm
      exact (le_total left.instant right.instant).imp (ofLeft.isLE_iff ofRight alike).mpr
        (ofRight.isLE_iff ofLeft alike.symm).mpr
    · rintro first second third ⟨left, ofLeft, leftZoned⟩ ⟨middle, ofMiddle, middleZoned⟩
        ⟨right, ofRight, rightZoned⟩ before later
      have early := (ofLeft.isLE_iff ofMiddle (leftZoned.trans middleZoned.symm)).mp before
      have late := (ofMiddle.isLE_iff ofRight (middleZoned.trans rightZoned.symm)).mp later
      exact (ofLeft.isLE_iff ofRight (leftZoned.trans rightZoned.symm)).mpr (early.trans late)

/-- The end of the day before a leap day, by clocks that are an hour ahead of universal time. -/
def leapEve : Stamp :=
  ⟨⟨false, "2024".toList, "02".toList, "28".toList⟩,
    ⟨"24".toList, "00".toList, "00".toList, none⟩, .shifted false "01".toList "00".toList⟩

/-- An hour before midnight, and half a second more, in universal time. -/
def lateEvening : Stamp :=
  ⟨⟨false, "2024".toList, "02".toList, "28".toList⟩,
    ⟨"23".toList, "00".toList, "00".toList, some "5".toList⟩, .universal⟩

theorem dateTimes_compare_as_instants_leapEve :
    let parse := Datatype.dateTime.parse .initial
    ∃ first second, parse "2024-02-28T24:00:00+01:00" = .ok first ∧
      parse "2024-02-28T23:00:00.5Z" = .ok second ∧ first.compare second = some .lt ∧
        leapEve.instant + 500000000 = lateEvening.instant := by
  intro parse
  have ofEve : leapEve.Denotes .initial (.moment ⟨.dateTime, ⟨2024, 2, 29⟩, ⟨0⟩, some 60⟩) :=
    ⟨(momentForm?_eq_some_iff.mp (by decide +kernel :
        momentForm? .dateTime leapEve.form.chars = some leapEve.form)).2.written,
      Datatype.parse_of_moment? .dateTime (by decide +kernel), by decide, by decide, nofun⟩
  have ofEvening : lateEvening.Denotes .initial
      (.moment ⟨.dateTime, ⟨2024, 2, 28⟩, ⟨82800500000000⟩, some 0⟩) :=
    ⟨(momentForm?_eq_some_iff.mp (by decide +kernel :
        momentForm? .dateTime lateEvening.form.chars = some lateEvening.form)).2.written,
      Datatype.parse_of_moment? .dateTime (by decide +kernel), by decide, by decide,
      fun digits same => by
        obtain rfl := Option.some.inj same
        exact ⟨by decide, List.forall_mem_singleton.mpr rfl⟩⟩
  have compared := ((dateTimes_compare_as_instants .initial).2.2.1 _ _ _ _ ofEve ofEvening).2.1
  exact ⟨_, _, ofEve.accepted, ofEvening.accepted, compared.trans (by decide), by decide⟩

end Time

end SchemaAssessment

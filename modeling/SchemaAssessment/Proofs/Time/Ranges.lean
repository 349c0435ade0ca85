/-
Where computing with moments leaves its range. A fraction of a second is scaled by a power
of ten that is found from the length of its digits in bytes, of which digits of other
scripts have more than one; the midnight that ends the last day of the calendar would begin
another one; and close to the ends of the calendar a zone leads out of it. Everywhere else
reading a text comes to an end, with a moment or without, and so does comparing two moments.
-/

import SchemaAssessment.Proofs.Time.Reading

namespace SchemaAssessment

/-! ### Reading -/

namespace Time

theorem rollOver_overruns {endsDay : Bool} {written : Date} (valid : written.isValid = true)
    {overrun : Overrun} : rollOver endsDay written = .error (.overrun overrun) ↔
      overrun = .rollover ∧ endsDay = true ∧ written = Date.lastDay := by
  cases endsDay with
  | false => simp [rollOver]
  | true =>
    rw [rollOver, if_pos rfl, require_eq_error, Date.next?_eq_none_iff valid]
    simp [and_comm, eq_comm]

theorem TimeForm.EndsDay.read {form : TimeForm} (ends : form.EndsDay) :
    form.read = .ok (⟨0⟩, true) := by
  rw [TimeForm.read_eq ends.hours ends.minutes ends.seconds, ends.fraction]
  rfl

/-- What makes the reading of some pieces break off: digits of a fraction that are longer than nine
bytes, in a time of day that is otherwise written in the digits `0` to `9`, on a day that there
is; or the end of the last day of the calendar. -/
def MomentForm.Overruns (overrun : Overrun) : MomentForm → Prop
  | .dateTime dateForm timeForm _ => ∃ day, dateForm.value? = some day ∧
      (overrun = .fraction ∧ timeForm.IsNumeric ∧ IsWide timeForm.fraction ∨
        overrun = .rollover ∧ timeForm.EndsDay ∧ day = Date.lastDay)
  | .date _ _ => False
  | .time timeForm _ => overrun = .fraction ∧ timeForm.IsNumeric ∧ IsWide timeForm.fraction

theorem MomentForm.read_overruns {form : MomentForm} {overrun : Overrun} :
    form.read = .error (.overrun overrun) ↔ form.Overruns overrun := by
  cases form with
  | dateTime dateForm timeForm zone =>
    simp only [MomentForm.read, bind_eq_error, require_eq_error, require_eq_ok, Overruns,
      TimeForm.read_overruns]
    constructor
    · rintro (⟨-, malformed⟩ | ⟨day, ofDate, inTime | ⟨⟨time, endsDay⟩, ofTime, inDay |
        ⟨next, -, ⟨-, malformed⟩ | ⟨offset, -, done⟩⟩⟩⟩)
      · cases malformed
      · exact ⟨day, ofDate, .inl inTime⟩
      · obtain ⟨rfl, rfl, last⟩ := (rollOver_overruns (DateForm.isValid ofDate)).mp inDay
        exact ⟨day, ofDate, .inr ⟨rfl, (TimeForm.read_eq_ok ofTime).2.mp rfl, last⟩⟩
      · cases malformed
      · cases done
    · rintro ⟨day, ofDate, inTime | ⟨rfl, ends, last⟩⟩
      · exact .inr ⟨day, ofDate, .inl inTime⟩
      · exact .inr ⟨day, ofDate, .inr ⟨_, ends.read, .inl
          ((rollOver_overruns (DateForm.isValid ofDate)).mpr ⟨rfl, rfl, last⟩)⟩⟩
  | date dateForm zone =>
    refine iff_of_false (fun breaks => ?_) id
    simp only [MomentForm.read, bind_eq_error, require_eq_error] at breaks
    rcases breaks with ⟨-, malformed⟩ | ⟨day, -, ⟨-, malformed⟩ | ⟨offset, -, done⟩⟩
    · cases malformed
    · cases malformed
    · cases done
  | time timeForm zone =>
    simp only [MomentForm.read, bind_eq_error, require_eq_error, Overruns,
      TimeForm.read_overruns]
    constructor
    · rintro (inTime | ⟨read, -, ⟨-, malformed⟩ | ⟨offset, -, done⟩⟩)
      · exact inTime
      · cases malformed
      · cases done
    · exact .inl

end Time

/-! ### Comparing -/

namespace Moment

/-- The zone of the moment leads out of the calendar: ahead of universal time at the beginning of
the first day, or behind it at the end of the last one. -/
def LeavesCalendar (moment : Moment) : Prop :=
  ∃ offset, moment.offset = some offset ∧
    (moment.date = Date.firstDay ∧ moment.time.nanoseconds < offset * minute ∨
      moment.date = Date.lastDay ∧
        TimeOfDay.day ≤ moment.time.nanoseconds - offset * minute)

/-- The instant of a moment can be told unless its zone leads out of the calendar. -/
theorem isRepresentable_iff {moment : Moment} (valid : moment.date.isValid = true)
    (within : moment.time.nanoseconds < TimeOfDay.day)
    (near : ∀ offset, moment.offset = some offset → -840 ≤ offset ∧ offset ≤ 840) :
    isRepresentable moment.instant = true ↔ ¬ moment.LeavesCalendar := by
  have low := Date.firstDay_le valid
  have high := Date.le_lastDay valid
  have ofFirst := Date.eq_firstDay valid
  have ofLast := Date.eq_lastDay valid
  have bounds : isRepresentable moment.instant = true ↔
      Date.firstDay.number * TimeOfDay.day ≤ moment.instant ∧
        moment.instant < (Date.lastDay.number + 1) * TimeOfDay.day := by
    simp only [isRepresentable, Bool.and_eq_true, decide_eq_true_eq]
    rfl
  have day : (TimeOfDay.day : Int) = 86400000000000 := by decide
  have minutes : minute = 60000000000 := by decide
  rw [bounds, instant, localNanoseconds, LeavesCalendar, day, minutes]
  have inside : (moment.time.nanoseconds : Int) < 86400000000000 := by
    rw [← day]
    exact_mod_cast within
  cases zoned : moment.offset with
  | none =>
    simp only [Option.getD_none, reduceCtorEq, false_and, exists_false, not_false_eq_true, iff_true]
    omega
  | some offset =>
    obtain ⟨least, most⟩ := near offset zoned
    simp only [Option.getD_some, Option.some.injEq, exists_eq_left']
    constructor
    · rintro ⟨below, above⟩ (⟨first, early⟩ | ⟨last, late⟩)
      · rw [first] at below
        omega
      · rw [last] at above
        omega
    · intro stays
      constructor
      · by_contra early
        have first : moment.date.number = Date.firstDay.number := by omega
        exact stays (.inl ⟨ofFirst first, by omega⟩)
      · by_contra late
        have last : moment.date.number = Date.lastDay.number := by omega
        exact stays (.inr ⟨ofLast last, by omega⟩)

theorem universal_eq {moment : Moment} (told : isRepresentable moment.instant = true) :
    moment.universal = .ok moment.instant := if_pos told

theorem universal_eq_error {moment : Moment} {overrun : Overrun} :
    moment.universal = .error overrun ↔
      overrun = .universal ∧ isRepresentable moment.instant = false := by
  unfold universal
  split
  · rename_i told
    simp [told]
  · rename_i lost
    simp [lost, eq_comm]

/-- Comparing two moments breaks off just where they are brought to universal time and the instant
of one cannot be told; else it answers as the order of instants does. -/
theorem order_spec (left right : Moment) :
    (∀ overrun, left.order right = .error overrun ↔
      overrun = .universal ∧ left.meets right = true ∧
        (isRepresentable left.instant = false ∨ isRepresentable right.instant = false)) ∧
      ∀ answer, left.order right = .ok answer → answer = left.compare right := by
  have compared : left.compare right =
      if left.meets right then some (Ord.compare left.instant right.instant) else none := rfl
  rw [compared]
  unfold order
  by_cases met : left.meets right = true
  · rw [if_pos met, if_pos met]
    refine ⟨fun overrun => ?_, fun answer answered => ?_⟩
    · simp only [bind_eq_error, universal_eq_error, met, true_and]
      constructor
      · rintro (⟨rfl, lost⟩ | ⟨leftInstant, -, ⟨rfl, lost⟩ | ⟨rightInstant, -, done⟩⟩)
        · exact ⟨rfl, .inl lost⟩
        · exact ⟨rfl, .inr lost⟩
        · cases done
      · rintro ⟨rfl, lost⟩
        cases told : isRepresentable left.instant with
        | false => exact .inl ⟨rfl, rfl⟩
        | true => exact .inr ⟨_, universal_eq told, .inl
            ⟨rfl, lost.resolve_left (by simp [told])⟩⟩
    · simp only [bind_eq_ok] at answered
      obtain ⟨leftInstant, ofLeft, rightInstant, ofRight, given⟩ := answered
      obtain rfl := Except.ok.inj given
      unfold universal at ofLeft ofRight
      split at ofLeft
      · split at ofRight
        · rw [Except.ok.inj ofLeft, Except.ok.inj ofRight]
        · cases ofRight
      · cases ofLeft
  · rw [if_neg met, if_neg met]
    exact ⟨fun overrun => iff_of_false nofun fun breaks => met breaks.2.1,
      fun answer answered => (Except.ok.inj answered).symm⟩

end Moment

/-! ### All inputs -/

namespace Time

/-- Reading breaks off just where the pieces that a text is made of overrun. -/
theorem readMoment_overruns {kind : MomentKind} {chars : List Char} {overrun : Overrun} :
    readMoment kind chars = .error (.overrun overrun) ↔
      ∃ form, momentForm? kind chars = some form ∧ form.Overruns overrun := by
  simp only [readMoment, bind_eq_error, require_eq_error, require_eq_ok, MomentForm.read_overruns]
  constructor
  · rintro (⟨-, malformed⟩ | overruns)
    · cases malformed
    · exact overruns
  · exact .inr

/-- Of two texts, reading one breaks off just where the pieces that it is made of overrun, and
comparing the moments that they are read as just where both are brought to universal time and the
zone of one leads out of the calendar. Scaling a fraction never overruns. -/
theorem readMoment_overruns_iff (kind otherKind : MomentKind) (chars otherChars : List Char) :
    (∀ overrun, readMoment kind chars = .error (.overrun overrun) ↔
      ∃ form, momentForm? kind chars = some form ∧ form.Overruns overrun) ∧
      readMoment kind chars ≠ .error (.overrun .scaling) ∧
      ∀ left right, readMoment kind chars = .ok left →
        readMoment otherKind otherChars = .ok right →
          (∀ overrun, left.order right = .error overrun ↔
            overrun = .universal ∧ left.meets right = true ∧
              (left.LeavesCalendar ∨ right.LeavesCalendar)) ∧
          ∀ answer, left.order right = .ok answer → answer = left.compare right := by
  refine ⟨fun overrun => readMoment_overruns, fun breaks => ?_, ?_⟩
  · obtain ⟨form, -, overruns⟩ := readMoment_overruns.mp breaks
    cases form with
    | dateTime dateForm timeForm zone =>
      obtain ⟨day, -, ⟨other, -⟩ | ⟨other, -⟩⟩ := overruns <;> cases other
    | date dateForm zone => exact overruns
    | time timeForm zone => cases overruns.1
  · intro left right read alsoRead
    obtain ⟨form, -, tells⟩ := readMoment_eq_ok.mp read
    obtain ⟨otherForm, -, alsoTells⟩ := readMoment_eq_ok.mp alsoRead
    have lost {moment : Moment} {form : MomentForm} (tells : form.Tells moment) :
        Moment.isRepresentable moment.instant = false ↔ moment.LeavesCalendar := by
      obtain ⟨valid, within, near⟩ := tells.bounded
      rw [← not_iff_not, Bool.not_eq_false, Moment.isRepresentable_iff valid within near]
    obtain ⟨breaks, answers⟩ := left.order_spec right
    refine ⟨fun overrun => ?_, answers⟩
    rw [breaks overrun, lost tells, lost alsoTells]

/-- The first moment of the calendar by the clocks of a zone ahead of universal time. -/
def earliest : Moment := ⟨.dateTime, Date.firstDay, ⟨0⟩, some 840⟩

theorem readMoment_overruns_iff_earliest :
    let read := readMoment .dateTime
    let newYear : Moment := ⟨.dateTime, ⟨2024, 1, 1⟩, ⟨0⟩, some 0⟩
    read "-262143-01-01T00:00:00+14:00".toList = .ok earliest ∧
      read "2023-12-31T24:00:00Z".toList = .ok newYear ∧
      earliest.order newYear = .error .universal ∧ newYear.order newYear = .ok (some .eq) := by
  intro read newYear
  have first : read "-262143-01-01T00:00:00+14:00".toList = .ok earliest := by
    decide +kernel
  have second : read "2023-12-31T24:00:00Z".toList = .ok newYear := by
    decide +kernel
  have compared := ((readMoment_overruns_iff _ _ _ _).2.2 _ _ first second).1
  exact ⟨first, second, (compared _).mpr ⟨rfl, rfl, .inl ⟨840, rfl, .inl ⟨rfl, by decide⟩⟩⟩,
    by decide +kernel⟩

/-- Five digits of another script behind the point, the end of the last day, and the first moment in
a zone ahead of universal time. -/
theorem edges_overrun :
    readMoment .time "00:00:00.\u0660\u0660\u0660\u0660\u0660".toList =
        .error (.overrun .fraction) ∧
      readMoment .dateTime "262142-12-31T24:00:00".toList = .error (.overrun .rollover) ∧
      readMoment .dateTime "-262143-01-01T00:00:00+14:00".toList = .ok earliest ∧
      earliest.order earliest = .error .universal := by
  refine ⟨?_, ?_, ?_, ?_⟩ <;> decide +kernel

end Time

end SchemaAssessment

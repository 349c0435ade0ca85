/-
How moments are read. First the pieces of the text are found; then each piece is read as a
number, and the day, the time of day and the zone are put together. What the reader gives
for some pieces, and where it breaks off, is told once for each kind of moment.
-/

import Mathlib.Algebra.Order.Ring.Nat
import Mathlib.Tactic.Ring
import SchemaAssessment.Proofs.Faults
import SchemaAssessment.Proofs.Time.Days
import SchemaAssessment.Time.Lexical

namespace SchemaAssessment

/-! ### Numbers -/

namespace Digits

theorem lt_of_valueIn? {base value : Nat} {c : Char} (digit : valueIn? base c = some value) :
    value < base := by
  rw [valueIn?, Option.filter_eq_some_iff] at digit
  exact of_decide_eq_true digit.2

theorem lt_of_foldlM {base start number : Nat} {digits : List Char}
    (written : digits.foldlM (fun number c => (valueIn? base c).map (base * number + ·)) start =
      some number) : number < (start + 1) * base ^ digits.length := by
  induction digits generalizing start with
  | nil =>
    obtain rfl : start = number := by simpa using written
    simp
  | cons c rest ofRest =>
    rw [List.foldlM_cons] at written
    obtain ⟨next, first, further⟩ := Option.bind_eq_some_iff.mp written
    obtain ⟨value, digit, rfl⟩ := Option.map_eq_some_iff.mp first
    have small : base * start + value + 1 ≤ (start + 1) * base := by
      have := lt_of_valueIn? digit
      have : (start + 1) * base = base * start + base := by ring
      omega
    calc number < (base * start + value + 1) * base ^ rest.length := ofRest further
      _ ≤ (start + 1) * base * base ^ rest.length := Nat.mul_le_mul_right _ small
      _ = (start + 1) * base ^ (c :: rest).length := by rw [List.length_cons]; ring

/-- So many digits write a number below this power of the base. -/
theorem lt_of_number? {base number : Nat} {digits : List Char}
    (written : number? base digits = some number) : number < base ^ digits.length := by
  simpa using lt_of_foldlM written

end Digits

namespace Time

theorem lt_of_number? {number : Nat} {digits : List Char} (written : number? digits = some number) :
    number < tenTo digits.length := by
  unfold number? at written
  split at written
  · cases written
  · exact Digits.lt_of_number? written

variable {α : Type} {fault other : MomentFault} {value : Option α}

@[simp] theorem require_eq_ok {given : α} :
    require fault value = .ok given ↔ value = some given := by
  cases value <;> simp [require]

@[simp] theorem require_eq_error :
    require fault value = .error other ↔ value = none ∧ fault = other := by
  cases value <;> simp [require]

/-! ### Times of day -/

theorem length_le_byteLength (chars : List Char) : chars.length ≤ byteLength chars := by
  induction chars with
  | nil => exact Nat.le_refl 0
  | cons c rest ofRest =>
    have := c.utf8Size_pos
    simp only [byteLength, List.foldr_cons, List.length_cons] at *
    omega

/-- The nanoseconds of a fraction fit 32 bits. -/
theorem scaled_lt {digits : List Char} {number : Nat} (written : number? digits = some number)
    (short : byteLength digits ≤ countedDigits) :
    number * tenTo (countedDigits - byteLength digits) < twoTo 32 := by
  have length := length_le_byteLength digits
  calc number * tenTo (countedDigits - byteLength digits)
      < tenTo digits.length * tenTo (countedDigits - byteLength digits) :=
        Nat.mul_lt_mul_of_pos_right (lt_of_number? written) (tenTo_pos _)
    _ = tenTo (digits.length + (countedDigits - byteLength digits)) := (pow_add 10 _ _).symm
    _ ≤ tenTo countedDigits := Nat.pow_le_pow_right (by decide) (by omega)
    _ < twoTo 32 := by decide

/-- The power of ten that a fraction is scaled by fits 32 bits. -/
theorem scale_lt (length : Nat) : tenTo (countedDigits - length) < twoTo 32 :=
  Nat.lt_of_le_of_lt (Nat.pow_le_pow_right (by decide) (Nat.sub_le _ _) :
    tenTo (countedDigits - length) ≤ tenTo countedDigits) (by decide)

/-- Beyond nine bytes no fraction is computed; up to there nothing overflows. -/
theorem nanoseconds_eq (digits : List Char) :
    nanoseconds (some digits) =
      if countedDigits < byteLength (counted digits) then .error (.overrun .fraction)
      else require .malformed ((number? (counted digits)).map
        (· * tenTo (countedDigits - byteLength (counted digits)))) := by
  unfold nanoseconds
  dsimp only
  split
  · rfl
  · rename_i short
    rw [if_neg (Nat.not_le.mpr (scale_lt _))]
    cases written : number? (counted digits) with
    | none => rfl
    | some number => exact if_neg (Nat.not_le.mpr (scaled_lt written (Nat.not_lt.mp short)))

/-- The digits of a fraction that count are longer than nine bytes. -/
def IsWide (fraction : Option (List Char)) : Prop :=
  ∃ digits, fraction = some digits ∧ countedDigits < byteLength (counted digits)

/-- Computing the nanoseconds of a fraction breaks off just where its counted digits are longer than
nine bytes. -/
theorem nanoseconds_overruns {fraction : Option (List Char)} {overrun : Overrun} :
    nanoseconds fraction = .error (.overrun overrun) ↔ overrun = .fraction ∧ IsWide fraction := by
  cases fraction with
  | none => simp [nanoseconds, IsWide]
  | some digits =>
    rw [nanoseconds_eq, IsWide]
    split
    · rename_i wide
      simp [wide, eq_comm]
    · rename_i short
      simp [short]

/-- The pieces of a time of day before its fraction are written in the digits `0` to `9`. -/
structure TimeForm.IsNumeric (form : TimeForm) : Prop where
  hours : (number? form.hours).isSome = true
  minutes : (number? form.minutes).isSome = true
  seconds : (number? form.seconds).isSome = true

/-- The time of day is the midnight that ends the day. -/
structure TimeForm.EndsDay (form : TimeForm) : Prop where
  hours : number? form.hours = some 24
  minutes : number? form.minutes = some 0
  seconds : number? form.seconds = some 0
  fraction : nanoseconds form.fraction = .ok 0

/-- Once the hours, minutes and seconds are known, the time of day hangs on the fraction alone. -/
theorem TimeForm.read_eq {form : TimeForm} {hours minutes seconds : Nat}
    (ofHours : number? form.hours = some hours) (ofMinutes : number? form.minutes = some minutes)
    (ofSeconds : number? form.seconds = some seconds) :
    form.read = (nanoseconds form.fraction) >>= fun nanoseconds =>
      if hours = 24 ∧ minutes = 0 ∧ seconds = 0 ∧ nanoseconds = 0 then .ok (⟨0⟩, true)
      else require .malformed
        ((TimeOfDay.of? hours minutes seconds nanoseconds).map fun time => (time, false)) := by
  rw [TimeForm.read, ofHours, ofMinutes, ofSeconds]
  show (nanoseconds form.fraction >>= fun nanoseconds => _) = _
  refine congrArg _ (funext fun nanoseconds => ?_)
  simp only [Bool.and_eq_true, beq_iff_eq, and_assoc]
  split
  · rfl
  · cases TimeOfDay.of? hours minutes seconds nanoseconds <;> rfl

theorem TimeForm.IsNumeric.of_read_ne {form : TimeForm}
    (some_ : form.read ≠ .error .malformed) : form.IsNumeric := by
  unfold TimeForm.read at some_
  cases hours : number? form.hours with
  | none => exact absurd (by rw [hours]; rfl) some_
  | some _ =>
    cases minutes : number? form.minutes with
    | none => exact absurd (by rw [hours, minutes]; rfl) some_
    | some _ =>
      cases seconds : number? form.seconds with
      | none => exact absurd (by rw [hours, minutes, seconds]; rfl) some_
      | some _ => constructor <;> simp only [hours, minutes, seconds, Option.isSome_some]

theorem TimeForm.read_overruns {form : TimeForm} {overrun : Overrun} :
    form.read = .error (.overrun overrun) ↔
      overrun = .fraction ∧ form.IsNumeric ∧ IsWide form.fraction := by
  constructor
  · intro breaks
    have numeric : form.IsNumeric := .of_read_ne (by simp [breaks])
    obtain ⟨hours, ofHours⟩ := Option.isSome_iff_exists.mp numeric.hours
    obtain ⟨minutes, ofMinutes⟩ := Option.isSome_iff_exists.mp numeric.minutes
    obtain ⟨seconds, ofSeconds⟩ := Option.isSome_iff_exists.mp numeric.seconds
    rw [TimeForm.read_eq ofHours ofMinutes ofSeconds, bind_eq_error, nanoseconds_overruns] at breaks
    rcases breaks with ⟨same, wide⟩ | ⟨nanoseconds, -, further⟩
    · exact ⟨same, numeric, wide⟩
    · split at further <;> simp at further
  · rintro ⟨rfl, numeric, wide⟩
    obtain ⟨hours, ofHours⟩ := Option.isSome_iff_exists.mp numeric.hours
    obtain ⟨minutes, ofMinutes⟩ := Option.isSome_iff_exists.mp numeric.minutes
    obtain ⟨seconds, ofSeconds⟩ := Option.isSome_iff_exists.mp numeric.seconds
    rw [TimeForm.read_eq ofHours ofMinutes ofSeconds, bind_eq_error]
    exact .inl (nanoseconds_overruns.mpr ⟨rfl, wide⟩)

/-- A time of day that is read lies within the day, and ends it only as midnight. -/
theorem TimeForm.read_eq_ok {form : TimeForm} {time : TimeOfDay} {endsDay : Bool}
    (read : form.read = .ok (time, endsDay)) :
    time.nanoseconds < TimeOfDay.day ∧ (endsDay = true ↔ form.EndsDay) := by
  have numeric : form.IsNumeric := .of_read_ne (by simp [read])
  obtain ⟨hours, ofHours⟩ := Option.isSome_iff_exists.mp numeric.hours
  obtain ⟨minutes, ofMinutes⟩ := Option.isSome_iff_exists.mp numeric.minutes
  obtain ⟨seconds, ofSeconds⟩ := Option.isSome_iff_exists.mp numeric.seconds
  rw [TimeForm.read_eq ofHours ofMinutes ofSeconds, bind_eq_ok] at read
  obtain ⟨nanoseconds, ofFraction, further⟩ := read
  split at further
  · rename_i midnight
    obtain ⟨rfl, rfl, rfl, rfl⟩ := midnight
    obtain ⟨rfl, rfl⟩ := Prod.mk.inj (Except.ok.inj further)
    exact ⟨by decide, fun _ => ⟨ofHours, ofMinutes, ofSeconds, ofFraction⟩, fun _ => rfl⟩
  · rename_i other
    obtain ⟨same, told, given⟩ := Option.map_eq_some_iff.mp (require_eq_ok.mp further)
    obtain ⟨rfl, rfl⟩ := Prod.mk.inj given
    refine ⟨?_, nofun, fun ends => absurd ?_ other⟩
    · unfold TimeOfDay.of? at told
      split at told
      · rename_i bounded
        simp only [Bool.and_eq_true, decide_eq_true_eq] at bounded
        obtain rfl := Option.some.inj told
        simp only [TimeOfDay.day, TimeOfDay.second] at bounded ⊢
        omega
      · cases told
    · exact ⟨Option.some.inj (ofHours.symm.trans ends.hours),
        Option.some.inj (ofMinutes.symm.trans ends.minutes),
        Option.some.inj (ofSeconds.symm.trans ends.seconds),
        Except.ok.inj (ofFraction.symm.trans ends.fraction)⟩

/-! ### Zones and days -/

/-- No zone is further than fourteen hours from universal time. -/
theorem ZoneForm.offset_bounded {zone : ZoneForm} {offset : Int}
    (read : zone.offset? = some (some offset)) : -840 ≤ offset ∧ offset ≤ 840 := by
  cases zone with
  | absent => cases read
  | universal =>
    obtain rfl := Option.some.inj (Option.some.inj read)
    decide
  | shifted isNegative hours minutes =>
    simp only [ZoneForm.offset?, Option.bind_eq_bind, Option.bind_eq_some_iff] at read
    obtain ⟨ofHours, -, ofMinutes, -, read⟩ := read
    split at read
    · cases read
    · rename_i near
      simp only [Bool.or_eq_true, Bool.and_eq_true, decide_eq_true_eq, beq_iff_eq, bne_iff_ne,
        not_or, not_and, not_lt] at near
      obtain rfl := Option.some.inj (Option.some.inj read)
      split <;> omega

theorem DateForm.value?_eq_some {form : DateForm} {date : Date} :
    form.value? = some date ↔
      ∃ year month day, writtenYear? form.isNegative form.year = some year ∧
        fitsYear year = true ∧ number? form.month = some month ∧ number? form.day = some day ∧
          date = ⟨narrowYear year, month, day⟩ ∧ date.isValid = true := by
  simp only [DateForm.value?, Date.of?, Option.bind_eq_bind, Option.bind_eq_some_iff,
    Option.filter_eq_some_iff]
  constructor
  · rintro ⟨year, ⟨written, fits⟩, month, ofMonth, day, ofDay, made⟩
    split at made
    · rename_i valid
      obtain rfl := Option.some.inj made
      exact ⟨year, month, day, written, fits, ofMonth, ofDay, rfl, valid⟩
    · cases made
  · rintro ⟨year, month, day, written, fits, ofMonth, ofDay, rfl, valid⟩
    exact ⟨year, ⟨written, fits⟩, month, ofMonth, day, ofDay, if_pos valid⟩

theorem DateForm.isValid {form : DateForm} {date : Date} (read : form.value? = some date) :
    date.isValid = true := by
  obtain ⟨_, _, _, _, _, _, _, _, valid⟩ := DateForm.value?_eq_some.mp read
  exact valid

/-! ### Moments -/

theorem rollOver_eq_ok {endsDay : Bool} {written day : Date} :
    rollOver endsDay written = .ok day ↔
      (if endsDay then written.next? else some written) = some day := by
  cases endsDay <;> simp [rollOver]

/-- The pieces stand for a moment of the given day, time and zone. The day is the following one if
the time of day ends the written one. -/
inductive MomentForm.Tells : MomentForm → Moment → Prop where
  | dateTime {dateForm : DateForm} {timeForm : TimeForm} {zone : ZoneForm} {written day : Date}
      {time : TimeOfDay} {endsDay : Bool} {offset : Option Int}
      (ofDate : dateForm.value? = some written) (ofTime : timeForm.read = .ok (time, endsDay))
      (ofDay : (if endsDay then written.next? else some written) = some day)
      (ofZone : zone.offset? = some offset) :
      Tells (.dateTime dateForm timeForm zone) ⟨.dateTime, day, time, offset⟩
  | date {dateForm : DateForm} {zone : ZoneForm} {day : Date} {offset : Option Int}
      (ofDate : dateForm.value? = some day) (ofZone : zone.offset? = some offset) :
      Tells (.date dateForm zone) ⟨.date, day, ⟨0⟩, offset⟩
  | time {timeForm : TimeForm} {zone : ZoneForm} {time : TimeOfDay} {endsDay : Bool}
      {offset : Option Int} (ofTime : timeForm.read = .ok (time, endsDay))
      (ofZone : zone.offset? = some offset) :
      Tells (.time timeForm zone) ⟨.time, Moment.referenceDay, time, offset⟩

theorem MomentForm.read_eq_ok {form : MomentForm} {moment : Moment} :
    form.read = .ok moment ↔ form.Tells moment := by
  constructor
  · intro read
    cases form with
    | dateTime dateForm timeForm zone =>
      simp only [MomentForm.read, bind_eq_ok, require_eq_ok] at read
      obtain ⟨written, ofDate, ⟨time, endsDay⟩, ofTime, day, ofDay, offset, ofZone, given⟩ := read
      obtain rfl := Except.ok.inj given
      exact .dateTime ofDate ofTime (rollOver_eq_ok.mp ofDay) ofZone
    | date dateForm zone =>
      simp only [MomentForm.read, bind_eq_ok, require_eq_ok] at read
      obtain ⟨day, ofDate, offset, ofZone, given⟩ := read
      obtain rfl := Except.ok.inj given
      exact .date ofDate ofZone
    | time timeForm zone =>
      simp only [MomentForm.read, bind_eq_ok, require_eq_ok] at read
      obtain ⟨⟨time, endsDay⟩, ofTime, offset, ofZone, given⟩ := read
      obtain rfl := Except.ok.inj given
      exact .time ofTime ofZone
  · intro tells
    cases tells with
    | dateTime ofDate ofTime ofDay ofZone =>
      simp only [MomentForm.read, bind_eq_ok, require_eq_ok]
      exact ⟨_, ofDate, _, ofTime, _, rollOver_eq_ok.mpr ofDay, _, ofZone, rfl⟩
    | date ofDate ofZone =>
      simp only [MomentForm.read, bind_eq_ok, require_eq_ok]
      exact ⟨_, ofDate, _, ofZone, rfl⟩
    | time ofTime ofZone =>
      simp only [MomentForm.read, bind_eq_ok, require_eq_ok]
      exact ⟨_, ofTime, _, ofZone, rfl⟩

theorem readMoment_eq_ok {kind : MomentKind} {chars : List Char} {moment : Moment} :
    readMoment kind chars = .ok moment ↔
      ∃ form, momentForm? kind chars = some form ∧ form.Tells moment := by
  simp only [readMoment, bind_eq_ok, require_eq_ok, MomentForm.read_eq_ok]

theorem moment?_eq_some {kind : MomentKind} {chars : List Char} {moment : Moment} :
    moment? kind chars = some moment ↔ readMoment kind chars = .ok moment := by
  unfold moment?
  cases readMoment kind chars <;> simp [Except.toOption]

/-- A moment that is read has a day of the calendar, a time within the day, and a zone that is not
further than fourteen hours from universal time. -/
theorem MomentForm.Tells.bounded {form : MomentForm} {moment : Moment} (tells : form.Tells moment) :
    moment.date.isValid = true ∧ moment.time.nanoseconds < TimeOfDay.day ∧
      ∀ offset, moment.offset = some offset → -840 ≤ offset ∧ offset ≤ 840 := by
  cases tells with
  | @dateTime dateForm timeForm zone written day time endsDay offset ofDate ofTime ofDay ofZone =>
    refine ⟨?_, (TimeForm.read_eq_ok ofTime).1, ?_⟩
    · cases endsDay with
      | false =>
        obtain rfl : written = day := Option.some.inj ofDay
        exact DateForm.isValid ofDate
      | true => exact (Date.isValid_of_next? ofDay).2
    · rintro minutes rfl
      exact ZoneForm.offset_bounded ofZone
  | date ofDate ofZone =>
    refine ⟨DateForm.isValid ofDate, (by decide : 0 < TimeOfDay.day), ?_⟩
    rintro minutes rfl
    exact ZoneForm.offset_bounded ofZone
  | time ofTime ofZone =>
    refine ⟨(by decide : Moment.referenceDay.isValid = true), (TimeForm.read_eq_ok ofTime).1, ?_⟩
    rintro minutes rfl
    exact ZoneForm.offset_bounded ofZone

end Time

end SchemaAssessment

/-
How dates and times are spelled. The pieces of a date, a time of day or a zone have one
spelling, and a text is cut into pieces just where it is their spelling. So what is said of
the pieces is said of the text, and a text that is put together from pieces is cut into them
again.
-/

import Mathlib.Data.List.Basic
import Mathlib.Data.List.TakeWhile
import SchemaAssessment.Time.Lexical

namespace SchemaAssessment.Time

open Text (isDecimalDigit)

/-! ### Cutting -/

/-- All characters are digits, of any script. -/
def AreDigits (chars : List Char) : Prop := ∀ c ∈ chars, isDecimalDigit c = true

/-- The text does not go on with a digit. -/
def Breaks (chars : List Char) : Prop := ∀ c ∈ chars.head?, isDecimalDigit c = false

theorem breaks_cons {c : Char} {rest : List Char} :
    Breaks (c :: rest) ↔ isDecimalDigit c = false := by
  simp [Breaks]

section

variable {chars digits rest : List Char}

/-- The digits in front end where no digit follows. -/
theorem span_eq_iff : chars.takeWhile isDecimalDigit = digits ∧
    chars.dropWhile isDecimalDigit = rest ↔
      AreDigits digits ∧ Breaks rest ∧ chars = digits ++ rest := by
  constructor
  · rintro ⟨rfl, rfl⟩
    refine ⟨fun c member => List.mem_takeWhile_imp member, fun c first => ?_,
      List.takeWhile_append_dropWhile.symm⟩
    have stops := List.head?_dropWhile_not isDecimalDigit chars
    rw [Option.mem_def.mp first] at stops
    exact stops
  · rintro ⟨areDigits, breaks, rfl⟩
    have stops : rest.takeWhile isDecimalDigit = [] ∧ rest.dropWhile isDecimalDigit = rest := by
      cases rest with
      | nil => exact ⟨rfl, rfl⟩
      | cons c rest =>
        have other := Bool.eq_false_iff.mp (breaks_cons.mp breaks)
        exact ⟨List.takeWhile_cons_of_neg other, List.dropWhile_cons_of_neg other⟩
    rw [List.takeWhile_append_of_pos areDigits, List.dropWhile_append_of_pos areDigits, stops.1,
      stops.2, List.append_nil]
    exact ⟨rfl, rfl⟩

theorem mark?_eq_some_iff {mark : Char} : mark? mark chars = some rest ↔ chars = mark :: rest := by
  cases chars with
  | nil => simp [mark?]
  | cons c chars => simp [mark?]

/-- Two digits. -/
structure IsPair (chars : List Char) : Prop where
  length : chars.length = 2
  digits : AreDigits chars

theorem twoDigits?_eq_some_iff {pair : List Char} :
    twoDigits? chars = some (pair, rest) ↔ IsPair pair ∧ chars = pair ++ rest := by
  constructor
  · intro found
    unfold twoDigits? at found
    split at found
    · split at found
      · rename_i first second rest areDigits
        rw [Bool.and_eq_true] at areDigits
        obtain ⟨rfl, rfl⟩ := Prod.mk.inj (Option.some.inj found)
        exact ⟨⟨rfl, by simp [AreDigits, areDigits]⟩, rfl⟩
      · cases found
    · cases found
  · rintro ⟨⟨length, areDigits⟩, rfl⟩
    obtain ⟨first, second, rfl⟩ := List.length_eq_two.mp length
    have both : (isDecimalDigit first && isDecimalDigit second) = true := by
      simp [areDigits first, areDigits second]
    exact if_pos both

end

/-! ### Dates -/

/-- The sign of a negative number. -/
def signChars (isNegative : Bool) : List Char := if isNegative then ['-'] else []

theorem cutYear_eq_some_iff {chars digits rest : List Char} {sign isNegative : Bool} :
    (if 4 ≤ (chars.takeWhile isDecimalDigit).length then
      some ((sign, chars.takeWhile isDecimalDigit), chars.dropWhile isDecimalDigit) else none) =
        some ((isNegative, digits), rest) ↔
      sign = isNegative ∧ 4 ≤ digits.length ∧ AreDigits digits ∧ Breaks rest ∧
        chars = digits ++ rest := by
  rw [← span_eq_iff]
  constructor
  · intro found
    split at found
    · rename_i long
      obtain ⟨pieces, rfl⟩ := Prod.mk.inj (Option.some.inj found)
      obtain ⟨rfl, rfl⟩ := Prod.mk.inj pieces
      exact ⟨rfl, long, rfl, rfl⟩
    · cases found
  · rintro ⟨rfl, long, rfl, rfl⟩
    exact if_pos long

/-- A year is spelled with its sign and at least four digits. -/
theorem year?_eq_some_iff {chars digits rest : List Char} {isNegative : Bool} :
    year? chars = some ((isNegative, digits), rest) ↔ 4 ≤ digits.length ∧ AreDigits digits ∧
      Breaks rest ∧ chars = signChars isNegative ++ digits ++ rest := by
  by_cases signed : ∃ unsigned, chars = '-' :: unsigned
  · obtain ⟨unsigned, rfl⟩ := signed
    refine (@cutYear_eq_some_iff unsigned digits rest true isNegative).trans ?_
    cases isNegative with
    | true => simp [signChars]
    | false =>
      refine iff_of_false (fun read => Bool.noConfusion read.1) ?_
      rintro ⟨long, areDigits, -, same⟩
      cases digits with
      | nil => cases long
      | cons c digits =>
        obtain rfl := (List.cons.inj same).1
        exact absurd (areDigits _ List.mem_cons_self) (by decide)
  · have unsigned : year? chars = if 4 ≤ (chars.takeWhile isDecimalDigit).length then
        some ((false, chars.takeWhile isDecimalDigit), chars.dropWhile isDecimalDigit)
        else none := by
      unfold year?
      split
      rename_i sign rest same
      split at same
      · exact absurd ⟨_, rfl⟩ signed
      · obtain ⟨rfl, rfl⟩ := Prod.mk.inj same
        rfl
    rw [unsigned, cutYear_eq_some_iff]
    cases isNegative with
    | true =>
      refine iff_of_false (fun read => Bool.noConfusion read.1) ?_
      rintro ⟨-, -, -, rfl⟩
      exact signed ⟨_, rfl⟩
    | false => simp [signChars]

namespace DateForm

/-- A date as it is spelled. -/
def chars (form : DateForm) : List Char :=
  signChars form.isNegative ++ form.year ++ '-' :: form.month ++ '-' :: form.day

/-- The pieces have the digits that a date asks for. -/
structure IsWritten (form : DateForm) : Prop where
  length : 4 ≤ form.year.length
  year : AreDigits form.year
  month : IsPair form.month
  day : IsPair form.day

end DateForm

theorem dateForm?_eq_some_iff {chars rest : List Char} {form : DateForm} :
    dateForm? chars = some (form, rest) ↔ form.IsWritten ∧ chars = form.chars ++ rest := by
  simp only [dateForm?, Option.bind_eq_bind, Option.bind_eq_some_iff, mark?_eq_some_iff]
  constructor
  · rintro ⟨⟨⟨isNegative, year⟩, behindYear⟩, ofYear, _, rfl, ⟨month, behindMonth⟩, ofMonth, _,
      rfl, ⟨day, behindDay⟩, ofDay, made⟩
    obtain ⟨rfl, rfl⟩ := Prod.mk.inj (Option.some.inj made)
    obtain ⟨isDay, rfl⟩ := twoDigits?_eq_some_iff.mp ofDay
    obtain ⟨isMonth, rfl⟩ := twoDigits?_eq_some_iff.mp ofMonth
    obtain ⟨long, areDigits, -, rfl⟩ := year?_eq_some_iff.mp ofYear
    exact ⟨⟨long, areDigits, isMonth, isDay⟩, by simp [DateForm.chars]⟩
  · rintro ⟨⟨long, areDigits, isMonth, isDay⟩, rfl⟩
    refine ⟨((form.isNegative, form.year), _), year?_eq_some_iff.mpr
      ⟨long, areDigits, breaks_cons.mpr (by decide), ?_⟩, _, rfl, (form.month, _),
      twoDigits?_eq_some_iff.mpr ⟨isMonth, rfl⟩, _, rfl, (form.day, rest),
      twoDigits?_eq_some_iff.mpr ⟨isDay, rfl⟩, rfl⟩
    simp [DateForm.chars]

/-! ### Times of day -/

/-- The digits of a fraction behind a point. -/
def fractionChars : Option (List Char) → List Char
  | none => []
  | some digits => '.' :: digits

namespace TimeForm

/-- A time of day as it is spelled. -/
def chars (form : TimeForm) : List Char :=
  form.hours ++ ':' :: form.minutes ++ ':' :: form.seconds ++ fractionChars form.fraction

/-- The pieces have the digits that a time of day asks for. -/
structure IsWritten (form : TimeForm) : Prop where
  hours : IsPair form.hours
  minutes : IsPair form.minutes
  seconds : IsPair form.seconds
  fraction : ∀ digits, form.fraction = some digits → digits ≠ [] ∧ AreDigits digits

end TimeForm

/-- The text goes on neither with a digit nor with a point. -/
structure Ends (chars : List Char) : Prop where
  breaks : Breaks chars
  noPoint : chars.head? ≠ some '.'

/-- What stands behind the seconds is a point with digits, or no fraction at all. -/
theorem cutFraction_eq_some_iff {chars rest hours minutes seconds : List Char} {form : TimeForm}
    (ends : Ends rest) :
    (match chars with
      | '.' :: more =>
        let digits := more.takeWhile isDecimalDigit
        if digits.isEmpty then none
        else some ((⟨hours, minutes, seconds, some digits⟩ : TimeForm),
          more.dropWhile isDecimalDigit)
      | _ => some (⟨hours, minutes, seconds, none⟩, chars)) = some (form, rest) ↔
      ∃ fraction, form = ⟨hours, minutes, seconds, fraction⟩ ∧
        (∀ digits, fraction = some digits → digits ≠ [] ∧ AreDigits digits) ∧
        chars = fractionChars fraction ++ rest := by
  constructor
  · intro found
    split at found
    · rename_i more
      dsimp only at found
      split at found
      · cases found
      · rename_i filled
        obtain ⟨rfl, behind⟩ := Prod.mk.inj (Option.some.inj found)
        obtain ⟨areDigits, -, same⟩ := span_eq_iff.mp ⟨rfl, behind⟩
        refine ⟨_, rfl, fun digits given => ?_, congrArg ('.' :: ·) same⟩
        obtain rfl := Option.some.inj given
        exact ⟨fun empty => filled (List.isEmpty_iff.mpr empty), areDigits⟩
    · obtain ⟨rfl, rfl⟩ := Prod.mk.inj (Option.some.inj found)
      exact ⟨none, rfl, nofun, rfl⟩
  · rintro ⟨fraction, rfl, written, rfl⟩
    cases fraction with
    | none =>
      rw [fractionChars, List.nil_append]
      split
      · exact absurd List.head?_cons ends.noPoint
      · rfl
    | some digits =>
      obtain ⟨filled, areDigits⟩ := written digits rfl
      obtain ⟨front, behind⟩ := span_eq_iff.mpr ⟨areDigits, ends.breaks, rfl⟩
      simp only [fractionChars, List.cons_append, front, behind]
      exact if_neg (by simpa using filled)

theorem timeForm?_eq_some_iff {chars rest : List Char} {form : TimeForm} (ends : Ends rest) :
    timeForm? chars = some (form, rest) ↔ form.IsWritten ∧ chars = form.chars ++ rest := by
  simp only [timeForm?, Option.bind_eq_bind, Option.bind_eq_some_iff, mark?_eq_some_iff]
  constructor
  · rintro ⟨⟨hours, behindHours⟩, ofHours, _, rfl, ⟨minutes, behindMinutes⟩, ofMinutes, _, rfl,
      ⟨seconds, behindSeconds⟩, ofSeconds, made⟩
    obtain ⟨fraction, rfl, written, same⟩ := (cutFraction_eq_some_iff ends).mp made
    obtain ⟨areSeconds, rfl⟩ := twoDigits?_eq_some_iff.mp ofSeconds
    obtain ⟨areMinutes, rfl⟩ := twoDigits?_eq_some_iff.mp ofMinutes
    obtain ⟨areHours, rfl⟩ := twoDigits?_eq_some_iff.mp ofHours
    obtain rfl : behindSeconds = _ := same
    exact ⟨⟨areHours, areMinutes, areSeconds, written⟩, by simp [TimeForm.chars]⟩
  · rintro ⟨⟨areHours, areMinutes, areSeconds, written⟩, rfl⟩
    refine ⟨(form.hours, _), twoDigits?_eq_some_iff.mpr ⟨areHours, ?_⟩, _, rfl, (form.minutes, _),
      twoDigits?_eq_some_iff.mpr ⟨areMinutes, rfl⟩, _, rfl,
      (form.seconds, fractionChars form.fraction ++ rest),
      twoDigits?_eq_some_iff.mpr ⟨areSeconds, rfl⟩,
      (cutFraction_eq_some_iff ends).mpr ⟨form.fraction, rfl, written, rfl⟩⟩
    simp [TimeForm.chars]

/-! ### Zones -/

namespace ZoneForm

/-- A zone as it is spelled. -/
def chars : ZoneForm → List Char
  | .absent => []
  | .universal => ['Z']
  | .shifted isNegative hours minutes =>
    (if isNegative then '-' else '+') :: hours ++ ':' :: minutes

/-- The pieces have the digits that a zone asks for. -/
def IsWritten : ZoneForm → Prop
  | .shifted _ hours minutes => IsPair hours ∧ IsPair minutes
  | _ => True

end ZoneForm

theorem zone?_eq_some_iff {chars : List Char} {zone : ZoneForm} :
    zone? chars = some zone ↔ zone.IsWritten ∧ chars = zone.chars := by
  constructor
  · intro found
    unfold zone? at found
    split at found
    · obtain rfl := Option.some.inj found
      exact ⟨trivial, rfl⟩
    · obtain rfl := Option.some.inj found
      exact ⟨trivial, rfl⟩
    · split at found
      · rename_i sign a b c d shape
        obtain rfl := Option.some.inj found
        simp only [Bool.and_eq_true, Bool.or_eq_true, beq_iff_eq, List.all_cons, List.all_nil,
          and_true] at shape
        obtain ⟨signed, first, second, third, fourth⟩ := shape
        refine ⟨⟨⟨rfl, by simp [AreDigits, first, second]⟩,
          ⟨rfl, by simp [AreDigits, third, fourth]⟩⟩, ?_⟩
        rcases signed with rfl | rfl <;> rfl
      · cases found
    · cases found
  · rintro ⟨written, rfl⟩
    cases zone with
    | absent => rfl
    | universal => rfl
    | shifted isNegative hours minutes =>
      obtain ⟨⟨ofHours, hoursDigits⟩, ofMinutes, minutesDigits⟩ := written
      obtain ⟨a, b, rfl⟩ := List.length_eq_two.mp ofHours
      obtain ⟨c, d, rfl⟩ := List.length_eq_two.mp ofMinutes
      have areDigits : [a, b, c, d].all isDecimalDigit = true := by
        simp [hoursDigits a, hoursDigits b, minutesDigits c, minutesDigits d]
      cases isNegative
      · exact if_pos areDigits
      · exact if_pos areDigits

theorem ZoneForm.ends (zone : ZoneForm) : Ends zone.chars := by
  cases zone with
  | absent => exact ⟨nofun, nofun⟩
  | universal => exact ⟨breaks_cons.mpr (by decide), by decide⟩
  | shifted isNegative hours minutes =>
    cases isNegative
    · exact ⟨breaks_cons.mpr (by decide), by simp [chars]⟩
    · exact ⟨breaks_cons.mpr (by decide), by simp [chars]⟩

/-! ### Moments -/

namespace MomentForm

/-- The kind of moment that the pieces make. -/
def kind : MomentForm → MomentKind
  | .dateTime _ _ _ => .dateTime
  | .date _ _ => .date
  | .time _ _ => .time

/-- A moment as it is spelled. -/
def chars : MomentForm → List Char
  | .dateTime dateForm timeForm zone => dateForm.chars ++ 'T' :: timeForm.chars ++ zone.chars
  | .date dateForm zone => dateForm.chars ++ zone.chars
  | .time timeForm zone => timeForm.chars ++ zone.chars

/-- The pieces have the digits that are asked for. -/
def IsWritten : MomentForm → Prop
  | .dateTime dateForm timeForm zone => dateForm.IsWritten ∧ timeForm.IsWritten ∧ zone.IsWritten
  | .date dateForm zone => dateForm.IsWritten ∧ zone.IsWritten
  | .time timeForm zone => timeForm.IsWritten ∧ zone.IsWritten

/-- The text is the spelling of the pieces. -/
structure Spells (form : MomentForm) (text : List Char) : Prop where
  written : form.IsWritten
  text : text = form.chars

end MomentForm

/-- A text is cut into pieces just where it is their spelling. -/
theorem momentForm?_eq_some_iff {kind : MomentKind} {chars : List Char} {form : MomentForm} :
    momentForm? kind chars = some form ↔ form.kind = kind ∧ form.Spells chars := by
  constructor
  · intro found
    cases kind with
    | dateTime =>
      simp only [momentForm?, Option.bind_eq_bind, Option.bind_eq_some_iff, mark?_eq_some_iff] at found
      obtain ⟨⟨date, _⟩, ofDate, _, rfl, ⟨time, _⟩, ofTime, zone, ofZone, made⟩ := found
      obtain rfl := Option.some.inj made
      obtain ⟨writtenZone, rfl⟩ := zone?_eq_some_iff.mp ofZone
      obtain ⟨writtenTime, rfl⟩ := (timeForm?_eq_some_iff zone.ends).mp ofTime
      obtain ⟨writtenDate, rfl⟩ := dateForm?_eq_some_iff.mp ofDate
      exact ⟨rfl, ⟨writtenDate, writtenTime, writtenZone⟩, by simp [MomentForm.chars]⟩
    | date =>
      simp only [momentForm?, Option.bind_eq_bind, Option.bind_eq_some_iff] at found
      obtain ⟨⟨date, _⟩, ofDate, zone, ofZone, made⟩ := found
      obtain rfl := Option.some.inj made
      obtain ⟨writtenZone, rfl⟩ := zone?_eq_some_iff.mp ofZone
      obtain ⟨writtenDate, rfl⟩ := dateForm?_eq_some_iff.mp ofDate
      exact ⟨rfl, ⟨writtenDate, writtenZone⟩, rfl⟩
    | time =>
      simp only [momentForm?, Option.bind_eq_bind, Option.bind_eq_some_iff] at found
      obtain ⟨⟨time, _⟩, ofTime, zone, ofZone, made⟩ := found
      obtain rfl := Option.some.inj made
      obtain ⟨writtenZone, rfl⟩ := zone?_eq_some_iff.mp ofZone
      obtain ⟨writtenTime, rfl⟩ := (timeForm?_eq_some_iff zone.ends).mp ofTime
      exact ⟨rfl, ⟨writtenTime, writtenZone⟩, rfl⟩
  · rintro ⟨rfl, written, rfl⟩
    cases form with
    | dateTime date time zone =>
      obtain ⟨writtenDate, writtenTime, writtenZone⟩ := written
      simp only [momentForm?, MomentForm.kind, Option.bind_eq_bind, Option.bind_eq_some_iff,
        mark?_eq_some_iff]
      exact ⟨(date, _), dateForm?_eq_some_iff.mpr ⟨writtenDate, by simp [MomentForm.chars]⟩, _, rfl,
        (time, zone.chars), (timeForm?_eq_some_iff zone.ends).mpr ⟨writtenTime, rfl⟩, zone,
        zone?_eq_some_iff.mpr ⟨writtenZone, rfl⟩, rfl⟩
    | date date zone =>
      obtain ⟨writtenDate, writtenZone⟩ := written
      simp only [momentForm?, MomentForm.kind, Option.bind_eq_bind, Option.bind_eq_some_iff]
      exact ⟨(date, _), dateForm?_eq_some_iff.mpr ⟨writtenDate, rfl⟩, zone,
        zone?_eq_some_iff.mpr ⟨writtenZone, rfl⟩, rfl⟩
    | time time zone =>
      obtain ⟨writtenTime, writtenZone⟩ := written
      simp only [momentForm?, MomentForm.kind, Option.bind_eq_bind, Option.bind_eq_some_iff]
      exact ⟨(time, _), (timeForm?_eq_some_iff zone.ends).mpr ⟨writtenTime, rfl⟩, zone,
        zone?_eq_some_iff.mpr ⟨writtenZone, rfl⟩, rfl⟩

end SchemaAssessment.Time

/-
The lexical forms of dates and times. Wherever a form asks for a digit, a digit of
any script has that form; a value is only read from the ten digits `0` to `9`. The
forms of durations and of recurring dates are checked and nothing more, so they
take digits of any script. Reading a moment computes with machine numbers and with
the days that can be told, and breaks off where it leaves their range.
-/

import SchemaAssessment.Number.Digits
import SchemaAssessment.Time.Moment

namespace SchemaAssessment.Time

open Text (isDecimalDigit)

/-! ### Pieces of a form -/

/-- The value of the digits `0` to `9`; other digits have none. -/
def number? (chars : List Char) : Option Nat :=
  if chars.isEmpty then none else Digits.number? 10 chars

/-- Two digits in front. -/
def twoDigits? : List Char → Option (List Char × List Char)
  | first :: second :: rest =>
    if isDecimalDigit first && isDecimalDigit second then some ([first, second], rest) else none
  | _ => none

/-- A given character in front, which is dropped. -/
def mark? (expected : Char) : List Char → Option (List Char)
  | c :: rest => if c == expected then some rest else none
  | [] => none

/-- A year in front: a sign if it is negative, and at least four digits. -/
def year? (chars : List Char) : Option ((Bool × List Char) × List Char) :=
  let (negative, unsigned) := match chars with
    | '-' :: rest => (true, rest)
    | _ => (false, chars)
  let digits := unsigned.takeWhile isDecimalDigit
  if 4 ≤ digits.length then some ((negative, digits), unsigned.dropWhile isDecimalDigit) else none

/-- The written form of a zone: none, `Z`, or a sign with hours and minutes. -/
inductive ZoneForm where
  | absent
  | universal
  | shifted (negative : Bool) (hours minutes : List Char)
  deriving DecidableEq, Repr, Inhabited

/-- The zone that a form ends with. -/
def zone? : List Char → Option ZoneForm
  | [] => some .absent
  | ['Z'] => some .universal
  | [sign, a, b, ':', c, d] =>
    if (sign == '+' || sign == '-') && [a, b, c, d].all isDecimalDigit then
      some (.shifted (sign == '-') [a, b] [c, d])
    else none
  | _ => none

/-- The minutes of a zone; no zone is further than fourteen hours from universal time. -/
def ZoneForm.offset? : ZoneForm → Option (Option Int)
  | .absent => some none
  | .universal => some (some 0)
  | .shifted negative hours minutes => do
    let hours ← number? hours
    let minutes ← number? minutes
    if 14 < hours || 59 < minutes || (hours == 14 && minutes != 0) then none
    else
      let shift : Int := hours * 60 + minutes
      return some (if negative then -shift else shift)

/-! ### Dates -/

/-- A written date: year, month and day. -/
structure DateForm where
  isNegative : Bool
  year : List Char
  month : List Char
  day : List Char
  deriving DecidableEq, Repr, Inhabited

/-- A written date in front. -/
def dateForm? (chars : List Char) : Option (DateForm × List Char) := do
  let ((isNegative, year), rest) ← year? chars
  let rest ← mark? '-' rest
  let (month, rest) ← twoDigits? rest
  let rest ← mark? '-' rest
  let (day, rest) ← twoDigits? rest
  return (⟨isNegative, year, month, day⟩, rest)

/-- The whole number that a year writes. -/
def writtenYear? (isNegative : Bool) (digits : List Char) : Option Int :=
  (number? digits).map fun magnitude => if isNegative then -(magnitude : Int) else magnitude

/-- Years are read as whole numbers of 64 bits. -/
def fitsYear (year : Int) : Bool := -(twoTo 63 : Int) ≤ year && year < twoTo 63

/-- Of a year, the low 32 bits are kept, read as a signed number. -/
def narrowYear (year : Int) : Int := Int.bmod year (twoTo 32)

/-- The day of a written date. -/
def DateForm.value? (form : DateForm) : Option Date := do
  let year ← (writtenYear? form.isNegative form.year).filter fitsYear
  let month ← number? form.month
  let day ← number? form.day
  Date.of? (narrowYear year) month day

/-! ### Times of day -/

/-- The hours, minutes, seconds and fraction of a written time. -/
structure TimeForm where
  hours : List Char
  minutes : List Char
  seconds : List Char
  /-- The digits after the point, if there is one. -/
  fraction : Option (List Char)
  deriving DecidableEq, Repr, Inhabited

/-- A time of day in front. -/
def timeForm? (chars : List Char) : Option (TimeForm × List Char) := do
  let (hours, rest) ← twoDigits? chars
  let rest ← mark? ':' rest
  let (minutes, rest) ← twoDigits? rest
  let rest ← mark? ':' rest
  let (seconds, rest) ← twoDigits? rest
  match rest with
  | '.' :: more =>
    let digits := more.takeWhile isDecimalDigit
    if digits.isEmpty then none
    else some (⟨hours, minutes, seconds, some digits⟩, more.dropWhile isDecimalDigit)
  | _ => some (⟨hours, minutes, seconds, none⟩, rest)

/-- Why a text tells no moment. -/
inductive MomentFault where
  /-- The text has not the form, or there is no such day, time or zone. -/
  | malformed
  /-- A number leaves the range that it is computed in. The reading breaks off there. -/
  | overrun (overrun : Overrun)
  deriving DecidableEq, Repr, Inhabited

/-- The value, or a fault where there is none. -/
def require {α : Type} (fault : MomentFault) (value : Option α) : Except MomentFault α :=
  value.elim (.error fault) .ok

/-- How many digits of a fraction count. -/
def countedDigits : Nat := 9

/-- The digits of a fraction that count. -/
def counted (digits : List Char) : List Char := digits.take countedDigits

/-- The length of some characters in bytes. -/
def byteLength (chars : List Char) : Nat :=
  chars.foldr (fun c bytes => c.utf8Size + bytes) 0

/-- The nanoseconds of a fraction of a second, computed in 32 bits. Digits after the ninth do not
count. The power of ten is found from the length of the others in bytes. -/
def nanoseconds (fraction : Option (List Char)) : Except MomentFault Nat :=
  match fraction with
  | none => .ok 0
  | some digits =>
    let length := byteLength (counted digits)
    let scale := tenTo (countedDigits - length)
    if countedDigits < length then .error (.overrun .fraction)
    else if twoTo 32 ≤ scale then .error (.overrun .scaling)
    else do
      let value ← require .malformed (number? (counted digits))
      if twoTo 32 ≤ value * scale then .error (.overrun .scaling) else .ok (value * scale)

/-- A time of day, and whether it is the midnight that ends the day. -/
def TimeForm.read (form : TimeForm) : Except MomentFault (TimeOfDay × Bool) := do
  let hours ← require .malformed (number? form.hours)
  let minutes ← require .malformed (number? form.minutes)
  let seconds ← require .malformed (number? form.seconds)
  let nanoseconds ← nanoseconds form.fraction
  if hours == 24 && minutes == 0 && seconds == 0 && nanoseconds == 0 then return (⟨0⟩, true)
  else
    let time ← require .malformed (TimeOfDay.of? hours minutes seconds nanoseconds)
    return (time, false)

/-! ### Moments -/

/-- The pieces of a written moment. -/
inductive MomentForm where
  | dateTime (date : DateForm) (time : TimeForm) (zone : ZoneForm)
  | date (date : DateForm) (zone : ZoneForm)
  | time (time : TimeForm) (zone : ZoneForm)
  deriving DecidableEq, Repr, Inhabited

/-- The pieces of a whole text, where it has the form of the kind. -/
def momentForm? (kind : MomentKind) (chars : List Char) : Option MomentForm :=
  match kind with
  | .dateTime => do
    let (date, rest) ← dateForm? chars
    let rest ← mark? 'T' rest
    let (time, rest) ← timeForm? rest
    return .dateTime date time (← zone? rest)
  | .date => do
    let (date, rest) ← dateForm? chars
    return .date date (← zone? rest)
  | .time => do
    let (time, rest) ← timeForm? chars
    return .time time (← zone? rest)

/-- The day of a moment that is written for some day, which it may end. -/
def rollOver (endsDay : Bool) (written : Date) : Except MomentFault Date :=
  if endsDay then require (.overrun .rollover) written.next? else .ok written

/-- The moment that the pieces stand for. The midnight that ends a day is the first moment of the
following one; in a time of day it is plain midnight. -/
def MomentForm.read : MomentForm → Except MomentFault Moment
  | .dateTime dateForm timeForm zone => do
    let written ← require .malformed dateForm.value?
    let (hour, endsDay) ← timeForm.read
    let day ← rollOver endsDay written
    let offset ← require .malformed zone.offset?
    return ⟨.dateTime, day, hour, offset⟩
  | .date dateForm zone => do
    let day ← require .malformed dateForm.value?
    let offset ← require .malformed zone.offset?
    return ⟨.date, day, ⟨0⟩, offset⟩
  | .time timeForm zone => do
    let (hour, _) ← timeForm.read
    let offset ← require .malformed zone.offset?
    return ⟨.time, Moment.referenceDay, hour, offset⟩

/-- The moment that a whole text stands for, or why there is none. -/
def readMoment (kind : MomentKind) (chars : List Char) : Except MomentFault Moment := do
  let form ← require .malformed (momentForm? kind chars)
  form.read

/-- The moment that a whole text stands for, if there is one. -/
def moment? (kind : MomentKind) (chars : List Char) : Option Moment :=
  (readMoment kind chars).toOption

/-- The reading of a text breaks off. -/
def breaksOff (kind : MomentKind) (chars : List Char) : Bool :=
  match readMoment kind chars with
  | .error (.overrun _) => true
  | _ => false

/-! ### Durations -/

/-- The designators, in order, after which a number has been read; each may be left out. -/
def skipComponents (designators : List Char) (chars : List Char) : List Char :=
  match designators with
  | [] => chars
  | designator :: later =>
    let digits := chars.takeWhile isDecimalDigit
    match chars.dropWhile isDecimalDigit with
    | c :: rest =>
      if !digits.isEmpty && c == designator then skipComponents later rest
      else skipComponents later chars
    | [] => chars

/-- A number of seconds, which may have a fraction, and its designator; it may be left out. -/
def skipSeconds (chars : List Char) : List Char :=
  let digits := chars.takeWhile isDecimalDigit
  if digits.isEmpty then chars
  else match chars.dropWhile isDecimalDigit with
    | 'S' :: rest => rest
    | '.' :: rest =>
      let fraction := rest.takeWhile isDecimalDigit
      match rest.dropWhile isDecimalDigit with
      | 'S' :: more => if fraction.isEmpty then chars else more
      | _ => chars
    | _ => chars

/-- A duration: an optional sign, `P`, years, months and days, then after `T` hours, minutes
and seconds. It may not end with `P` or `T`. -/
def isDuration (chars : List Char) : Bool :=
  let unsigned := match chars with
    | '-' :: rest => rest
    | _ => chars
  match unsigned with
  | 'P' :: rest =>
    let endsWell := match chars.getLast? with
      | some c => c != 'P' && c != 'T'
      | none => false
    endsWell && match skipComponents ['Y', 'M', 'D'] rest with
      | [] => true
      | 'T' :: rest => (skipSeconds (skipComponents ['H', 'M'] rest)).isEmpty
      | _ => false
  | _ => false

/-! ### Recurring dates -/

/-- The two digits of a month. -/
def isMonth : List Char → Bool
  | ['0', c] => '1' ≤ c && c ≤ '9'
  | ['1', c] => '0' ≤ c && c ≤ '2'
  | _ => false

/-- The two digits of a day of the month. -/
def isDay : List Char → Bool
  | ['0', c] => '1' ≤ c && c ≤ '9'
  | ['3', c] => c == '0' || c == '1'
  | [a, c] => (a == '1' || a == '2') && isDecimalDigit c
  | _ => false

/-- What is left ends with a zone. -/
def endsWithZone (chars : List Char) : Bool := (zone? chars).isSome

/-- A year and a month. -/
def isYearMonth (chars : List Char) : Bool :=
  match year? chars with
  | some (_, '-' :: a :: b :: rest) => isMonth [a, b] && endsWithZone rest
  | _ => false

/-- A year. -/
def isYear (chars : List Char) : Bool :=
  match year? chars with
  | some (_, rest) => endsWithZone rest
  | none => false

/-- A month and a day. -/
def isMonthDay : List Char → Bool
  | '-' :: '-' :: a :: b :: '-' :: c :: d :: rest =>
    isMonth [a, b] && isDay [c, d] && endsWithZone rest
  | _ => false

/-- A day. -/
def isDayOnly : List Char → Bool
  | '-' :: '-' :: '-' :: a :: b :: rest => isDay [a, b] && endsWithZone rest
  | _ => false

/-- A month. -/
def isMonthOnly : List Char → Bool
  | '-' :: '-' :: a :: b :: rest => isMonth [a, b] && endsWithZone rest
  | _ => false

end SchemaAssessment.Time

/-
Days of the proleptic Gregorian calendar, with a year zero, and times of day in
nanoseconds. The days that can be told run from the start of the year -262143 to
the end of the year 262142. Days are numbered, so that the order of days and the
distance between them are those of whole numbers.
-/

import SchemaAssessment.Number.Decimal

namespace SchemaAssessment

/-- A day of the calendar. -/
structure Date where
  year : Int
  month : Nat
  day : Nat
  deriving DecidableEq, Repr, Inhabited

namespace Date

/-- Every fourth year is a leap year, except for the hundredth years that are not four
hundredth ones. -/
def isLeapYear (year : Int) : Bool :=
  year % 4 == 0 && (year % 100 != 0 || year % 400 == 0)

/-- The number of days of a month, zero if there is no such month. -/
def daysInMonth (year : Int) (month : Nat) : Nat :=
  match month with
  | 1 | 3 | 5 | 7 | 8 | 10 | 12 => 31
  | 4 | 6 | 9 | 11 => 30
  | 2 => if isLeapYear year then 29 else 28
  | _ => 0

/-- The first year that can be told. -/
def firstYear : Int := -262143

/-- The last year that can be told. -/
def lastYear : Int := 262142

/-- The year can be told and the month has the day. -/
def isValid (date : Date) : Bool :=
  firstYear ≤ date.year && date.year ≤ lastYear && 1 ≤ date.day &&
    date.day ≤ daysInMonth date.year date.month

/-- The day with the given year, month and day, if there is one. -/
def of? (year : Int) (month day : Nat) : Option Date :=
  let date := ⟨year, month, day⟩
  if date.isValid then some date else none

/-- The following day, whether or not its year can be told. -/
def next (date : Date) : Date :=
  if date.day < daysInMonth date.year date.month then { date with day := date.day + 1 }
  else if date.month < 12 then ⟨date.year, date.month + 1, 1⟩
  else ⟨date.year + 1, 1, 1⟩

/-- The following day, if it can be told. -/
def next? (date : Date) : Option Date :=
  if date.next.isValid then some date.next else none

/-- The number of days of a year before the first day of a month. -/
def daysBeforeMonth (year : Int) : Nat → Nat
  | 0 => 0
  | 1 => 0
  | month + 1 => daysBeforeMonth year month + daysInMonth year month

/-- The number of days from the first day of the year one to the first day of a year. -/
def daysBeforeYear (year : Int) : Int :=
  let past := year - 1
  365 * past + past / 4 - past / 100 + past / 400

/-- The number of a day: how many days lie between it and the first day of the year one. -/
def number (date : Date) : Int :=
  daysBeforeYear date.year + daysBeforeMonth date.year date.month + (date.day - 1 : Int)

/-- A year with at least four digits. Years that four digits do not hold carry a sign. -/
def yearText (year : Int) : List Char :=
  if 0 ≤ year && year ≤ 9999 then Decimal.padded 4 year.natAbs
  else (if year < 0 then '-' else '+') :: Decimal.padded 4 year.natAbs

/-- Year, month and day with hyphens between them. -/
def text (date : Date) : List Char :=
  yearText date.year ++ '-' :: Decimal.padded 2 date.month ++ '-' :: Decimal.padded 2 date.day

end Date

/-- A time of day, in nanoseconds since midnight. -/
structure TimeOfDay where
  nanoseconds : Nat
  deriving DecidableEq, Repr, Inhabited

namespace TimeOfDay

/-- The nanoseconds of a second. -/
def second : Nat := 1000000000

/-- The nanoseconds of a day. -/
def day : Nat := 86400 * second

/-- The time with the given hour, minute, second and nanosecond, if there is one. -/
def of? (hour minute seconds nanosecond : Nat) : Option TimeOfDay :=
  if hour < 24 && minute < 60 && seconds < 60 && nanosecond < second then
    some ⟨((hour * 60 + minute) * 60 + seconds) * second + nanosecond⟩
  else none

/-- A fraction of a second in thousandths, millionths or billionths, whichever come first to
tell it; nothing if it is zero. -/
def fractionText (nanosecond : Nat) : List Char :=
  if nanosecond = 0 then []
  else if nanosecond % 1000000 = 0 then '.' :: Decimal.padded 3 (nanosecond / 1000000)
  else if nanosecond % 1000 = 0 then '.' :: Decimal.padded 6 (nanosecond / 1000)
  else '.' :: Decimal.padded 9 nanosecond

/-- Hour, minute and second with colons between them, then the fraction of the second. -/
def text (time : TimeOfDay) : List Char :=
  let seconds := time.nanoseconds / second
  Decimal.padded 2 (seconds / 3600) ++ ':' :: Decimal.padded 2 (seconds / 60 % 60)
    ++ ':' :: Decimal.padded 2 (seconds % 60) ++ fractionText (time.nanoseconds % second)

end TimeOfDay

end SchemaAssessment

/-
Moments: days, times of day, or both, with or without a time zone. Moments of one
kind that both have a zone, or both have none, are ordered by the instant that they
denote; all others do not compare. A time of day is thought of as lying in one
fixed day.
-/

import SchemaAssessment.Time.Calendar

namespace SchemaAssessment

/-- What a moment tells. -/
inductive MomentKind where
  | dateTime
  | date
  | time
  deriving DecidableEq, Repr, Inhabited

/-- The name of a kind. -/
def MomentKind.name : MomentKind → String
  | .dateTime => "dateTime"
  | .date => "date"
  | .time => "time"

/-- How computing with moments leaves its range. -/
inductive Overrun where
  /-- The counted digits of a fraction are longer than nine bytes. -/
  | fraction
  /-- A fraction of a second in nanoseconds does not fit 32 bits. -/
  | scaling
  /-- The day behind the last one is asked for. -/
  | rollover
  /-- Universal time lies outside of the calendar. -/
  | universal
  deriving DecidableEq, Repr, Inhabited

/-- A local date and time with the minutes by which its zone is ahead of universal time. -/
structure Moment where
  kind : MomentKind
  date : Date
  time : TimeOfDay
  offset : Option Int
  deriving DecidableEq, Repr, Inhabited

namespace Moment

/-- The day in which times of day are thought of. -/
def referenceDay : Date := ⟨1972, 12, 31⟩

/-- The nanoseconds of a minute. -/
def minute : Int := 60 * TimeOfDay.second

/-- Nanoseconds of the local date and time since the first day of the year one. -/
def localNanoseconds (moment : Moment) : Int :=
  moment.date.number * TimeOfDay.day + moment.time.nanoseconds

/-- Nanoseconds of the instant that a moment denotes; without a zone, those of its local date
and time. -/
def instant (moment : Moment) : Int :=
  moment.localNanoseconds - moment.offset.getD 0 * minute

/-- The instants that can be told: from the first to the last nanosecond of the calendar. -/
def isRepresentable (instant : Int) : Bool :=
  (⟨Date.firstYear, 1, 1⟩ : Date).number * TimeOfDay.day ≤ instant &&
    instant < ((⟨Date.lastYear, 12, 31⟩ : Date).number + 1) * TimeOfDay.day

/-- The order of two moments of one kind that both have a zone or both have none. -/
def compare (left right : Moment) : Option Ordering :=
  if left.kind == right.kind && left.offset.isSome == right.offset.isSome then
    some (Ord.compare left.instant right.instant)
  else none

/-- The two moments are brought to universal time when they are compared. -/
def meets (left right : Moment) : Bool :=
  left.kind == right.kind && left.offset.isSome == right.offset.isSome

/-- The instant that a moment denotes, as long as it can be told. -/
def universal (moment : Moment) : Except Overrun Int :=
  if isRepresentable moment.instant then .ok moment.instant else .error .universal

/-- The order of two moments, as long as their instants can be told. -/
def order (left right : Moment) : Except Overrun (Option Ordering) :=
  if left.meets right then do
    let leftInstant ← left.universal
    let rightInstant ← right.universal
    return some (Ord.compare leftInstant rightInstant)
  else .ok none

/-- `Z` for universal time, or a sign with hours and minutes. -/
def offsetText : Option Int → List Char
  | none => []
  | some minutes =>
    if minutes = 0 then ['Z']
    else (if minutes < 0 then '-' else '+') ::
      Decimal.padded 2 (minutes.natAbs / 60) ++ ':' :: Decimal.padded 2 (minutes.natAbs % 60)

/-- The parts that a moment of this kind tells, then its zone. -/
def text (moment : Moment) : String :=
  let shown := match moment.kind with
    | .dateTime => moment.date.text ++ 'T' :: moment.time.text
    | .date => moment.date.text
    | .time => moment.time.text
  String.ofList (shown ++ offsetText moment.offset)

end Moment

end SchemaAssessment

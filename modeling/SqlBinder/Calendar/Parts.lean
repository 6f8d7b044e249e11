import SqlBinder.Calendar.DateTime
import SqlBinder.Error

/-!
Calendar fields as a caller gives them. Fields out of range roll forward: day 30 of February is in
March, hour 24 is midnight of the next day, day 0 is the last day of the month before.

First the month is brought into a year, which tells the first of the month; all other fields are
then added to that day as a span of time. A result beyond the supported years is an error.
-/
namespace SqlBinder.Calendar

/-- Calendar fields, not necessarily in range. What they have too much of rolls over into the next
field when they are bound, so they are no date yet. -/
structure Parts where
  year : Int
  /-- From 1; 13 is January of the next year. -/
  month : Nat
  /-- From 1. -/
  day : Nat
  hour : Nat
  minute : Nat
  second : Nat
  nanosecond : Nat
  deriving DecidableEq, Repr

namespace Parts

/-- The fields with their names, for messages. -/
def describe (p : Parts) : String :=
  "DateParts \x7b year: " ++ toString p.year ++ ", month: " ++ toString p.month ++
    ", day: " ++ toString p.day ++ ", hour: " ++ toString p.hour ++
    ", minute: " ++ toString p.minute ++ ", second: " ++ toString p.second ++
    ", nanosecond: " ++ toString p.nanosecond ++ " \x7d"

/-- Months since January of year 0. -/
def months (p : Parts) : Int := p.year * 12 + p.month - 1

/-- Midnight of the first day of the month that the fields name. -/
def firstOfMonth? (p : Parts) : Option DateTime :=
  (Date.ofFields? (p.months / 12) ((p.months % 12).toNat + 1) 1).bind fun date =>
    DateTime.ofFields? date 0 0 0 0

/-- Nanoseconds from that midnight on. -/
def offset (p : Parts) : Int :=
  (((p.day - 1 : Int) * 24 + p.hour) * 60 + p.minute) * 60 * billion +
    (p.second * billion + p.nanosecond : Nat)

/-- The date-time that the fields roll to. -/
def normalize (p : Parts) : Except Error DateTime :=
  match p.firstOfMonth? with
  | none => throw (.invalidTemporal ("year out of range: " ++ p.describe))
  | some first =>
    match DateTime.ofInstant? (first.instant + p.offset) with
    | none => throw (.invalidTemporal ("date out of range: " ++ p.describe))
    | some dt => pure dt

end Parts

end SqlBinder.Calendar

/-!
Days of the proleptic Gregorian calendar, in the years that are supported, and their numbers: day 0
is 1 January of year 1, and later days have larger numbers.

A date carries the proof that its fields name a day, so no function here has to handle a day that
does not exist. Numbers are what weekdays, differences and the order of dates are computed from.
-/
namespace SqlBinder.Calendar

/-- The first supported year. -/
def minYear : Int := -262143

/-- The last supported year. -/
def maxYear : Int := 262142

/-- A year with 29 February. -/
def isLeap (year : Int) : Bool := (year % 4 == 0 && year % 100 != 0) || year % 400 == 0

/-- Length of a month. -/
def daysInMonth (year : Int) (month : Nat) : Nat :=
  if month = 2 then if isLeap year then 29 else 28
  else if month = 4 ∨ month = 6 ∨ month = 9 ∨ month = 11 then 30
  else 31

/-- The fields name a day of a supported year. -/
def IsDay (year : Int) (month day : Nat) : Prop :=
  minYear ≤ year ∧ year ≤ maxYear ∧ 1 ≤ month ∧ month ≤ 12 ∧
    1 ≤ day ∧ day ≤ daysInMonth year month

instance (year : Int) (month day : Nat) : Decidable (IsDay year month day) := by
  unfold IsDay
  exact inferInstance

/-- A day of a supported year. Dates are always days of the calendar; fields that may not be one are
checked where they are made to a date. -/
structure Date where
  year : Int
  month : Nat
  day : Nat
  isDay : IsDay year month day
  deriving DecidableEq

/-- Days of a year in front of a month. -/
def daysBeforeMonth (year : Int) : Nat → Nat
  | 0 => 0
  | 1 => 0
  | month + 2 => daysBeforeMonth year (month + 1) + daysInMonth year (month + 1)

/-- Number of 1 January of a year. -/
def daysBeforeYear (year : Int) : Int :=
  let past := year - 1
  365 * past + past / 4 - past / 100 + past / 400

/-- The year that a day number falls in. Four hundred years have 146097 days. -/
def yearOf (number : Int) : Int :=
  let cycle := number / 146097
  let rest := number % 146097
  let past := rest / 365
  -- One too many at the end of a year behind enough leap days.
  let past := if daysBeforeYear (past + 1) ≤ rest then past else past - 1
  400 * cycle + past + 1

/-- Month and day of the day of the year, counted from 0, among the months from
`month` on, of which there are `more`. -/
def monthOf (year : Int) (month day : Nat) : Nat → Nat × Nat
  | 0 => (month, day + 1)
  | more + 1 =>
    if day < daysInMonth year month then (month, day + 1)
    else monthOf year (month + 1) (day - daysInMonth year month) more

namespace Date

/-- The date with the given fields, if they name one. -/
def ofFields? (year : Int) (month day : Nat) : Option Date :=
  if h : IsDay year month day then some ⟨year, month, day, h⟩ else none

/-- Day of the year, from 1. -/
def dayOfYear (d : Date) : Nat := daysBeforeMonth d.year d.month + d.day

/-- Days since 1 January of year 1. -/
def number (d : Date) : Int := daysBeforeYear d.year + daysBeforeMonth d.year d.month + (d.day - 1)

/-- The date with a number, if its year is supported. -/
def ofNumber? (number : Int) : Option Date :=
  let year := yearOf number
  let (month, day) := monthOf year 1 (number - daysBeforeYear year).toNat 11
  ofFields? year month day

/-- Days since Monday. Day 0 is a Monday. -/
def weekday (d : Date) : Nat := (d.number % 7).toNat

/-- The week of the year that a day is in, where weeks begin on the weekday `first`, counted from
Monday, and the days in front of the first of them are in week 0. -/
def weekFrom (first : Nat) (d : Date) : Nat := (d.dayOfYear + 6 - (d.weekday + 7 - first) % 7) / 7

/-- Year and week of a day where weeks begin on Monday and belong to the year that has their
Thursday, be it the one before or behind the year of the day. -/
def isoWeek (d : Date) : Int × Nat :=
  let thursday : Int := d.dayOfYear + 3 - d.weekday
  let daysIn (year : Int) : Int := daysBeforeYear (year + 1) - daysBeforeYear year
  let (year, day) :=
    if thursday < 1 then (d.year - 1, thursday + daysIn (d.year - 1))
    else if daysIn d.year < thursday then (d.year + 1, thursday - daysIn d.year)
    else (d.year, thursday)
  (year, ((day - 1) / 7 + 1).toNat)

end Date

end SqlBinder.Calendar

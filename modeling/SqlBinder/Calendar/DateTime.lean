import SqlBinder.Calendar.Date
import SqlBinder.Powers

/-!
Dates with a time of day to the nanosecond. A leap second is the second before it with a billion
nanoseconds or more. Fields are taken for a leap second behind second 59 only, where the calendar
has its leap seconds; a date-time whose fraction was set by other means may have one behind any
second, for instance where a time zone is not a whole number of minutes. What is said of date-times
below and wherever else they are used holds of those as well.
-/
namespace SqlBinder.Calendar

/-- Nanoseconds in a second. -/
def billion : Nat := 1000000000

/-- Nanoseconds in a day. -/
def dayNanos : Nat := 86400 * billion

/-- The fields are those of a time of day. Up to a second more of nanoseconds is a leap second. -/
def IsTime (hour minute second nano : Nat) : Prop :=
  hour < 24 ∧ minute < 60 ∧ second < 60 ∧ nano < 2 * billion

instance (hour minute second nano : Nat) : Decidable (IsTime hour minute second nano) := by
  unfold IsTime
  exact inferInstance

/-- Fields name a time of day. They name a leap second only behind the last second of a minute. -/
def NamesTime (hour minute second nano : Nat) : Prop :=
  IsTime hour minute second nano ∧ (billion ≤ nano → second = 59)

instance (hour minute second nano : Nat) : Decidable (NamesTime hour minute second nano) := by
  unfold NamesTime
  exact inferInstance

/-- A date and a time of day. Its nanosecond may be within a leap second, where it counts on beyond
a billion. -/
structure DateTime where
  date : Date
  hour : Nat
  minute : Nat
  second : Nat
  nano : Nat
  isTime : IsTime hour minute second nano
  deriving DecidableEq

namespace DateTime

/-- The date-time with the given fields, if they name one. -/
def ofFields? (date : Date) (hour minute second nano : Nat) : Option DateTime :=
  if h : NamesTime hour minute second nano then some ⟨date, hour, minute, second, nano, h.1⟩
  else none

/-- Not within a leap second. -/
def IsOrdinary (dt : DateTime) : Prop := dt.nano < billion

instance (dt : DateTime) : Decidable dt.IsOrdinary := inferInstanceAs (Decidable (_ < _))

/-- Nanoseconds since midnight of 1 January of year 1. -/
def instant (dt : DateTime) : Int :=
  dt.date.number * dayNanos +
    (((dt.hour * 60 + dt.minute) * 60 + dt.second) * billion + dt.nano : Nat)

/-- The date-time at an instant, if its year is supported. -/
def ofInstant? (instant : Int) : Option DateTime :=
  let nanos := (instant % dayNanos).toNat
  let seconds := nanos / billion
  (Date.ofNumber? (instant / dayNanos)).bind fun date =>
    ofFields? date (seconds / 3600) (seconds / 60 % 60) (seconds % 60) (nanos % billion)

/-- The nanosecond without the second that a leap second adds. -/
def subsecond (dt : DateTime) : Nat := dt.nano % billion

/-- The same second with only `scale` digits of its fraction, nine at most. -/
def truncate (dt : DateTime) (scale : Nat) : DateTime :=
  let step := tenTo (9 - min scale 9)
  { dt with
    nano := dt.subsecond - dt.subsecond % step
    isTime := by
      obtain ⟨hour, minute, second, -⟩ := dt.isTime
      have lt : dt.nano % billion < billion := Nat.mod_lt _ (by decide)
      refine ⟨hour, minute, second, ?_⟩
      unfold subsecond
      omega }

end DateTime

end SqlBinder.Calendar

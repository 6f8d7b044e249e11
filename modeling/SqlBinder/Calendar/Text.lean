import SqlBinder.Calendar.DateTime

/-!
Date-times as text, from the largest field to the smallest. Plain text stands where a caller asks
for the text of a value, inspected text in messages; both show a fraction with three, six or nine
digits, whichever are the fewest that lose nothing.
-/
namespace SqlBinder.Calendar

/-- Digits of a number, filled to a width with a character in front. -/
def fill (c : Char) (width n : Nat) : List Char :=
  let digits := (toString n).toList
  List.replicate (width - digits.length) c ++ digits

/-- Two digits. -/
def two (n : Nat) : List Char := fill '0' 2 n

/-- A year of four digits or more; beyond 0 to 9999 it carries its sign. -/
def yearChars (year : Int) : List Char :=
  if 0 ≤ year ∧ year ≤ 9999 then fill '0' 4 year.toNat
  else (if year < 0 then '-' else '+') :: fill '0' 4 year.natAbs

/-- Digits of a fraction: none for zero, else as many threes as it takes. -/
def fractionChars (nano : Nat) : List Char :=
  if nano = 0 then []
  else if nano % 1000000 = 0 then '.' :: fill '0' 3 (nano / 1000000)
  else if nano % 1000 = 0 then '.' :: fill '0' 6 (nano / 1000)
  else '.' :: fill '0' 9 nano

namespace DateTime

/-- The second on the clock, 60 within a leap second. -/
def clockSecond (dt : DateTime) : Nat := dt.second + dt.nano / billion

/-- Date and time with a separator between them. -/
def isoChars (dt : DateTime) (separator : Char) : List Char :=
  yearChars dt.date.year ++ '-' :: two dt.date.month ++ '-' :: two dt.date.day ++
    separator :: two dt.hour ++ ':' :: two dt.minute ++ ':' :: two dt.clockSecond ++
    fractionChars dt.subsecond

/-- Text with a blank between date and time. -/
def plain (dt : DateTime) : String := String.ofList (dt.isoChars ' ')

/-- Text with a `T` between date and time. -/
def inspected (dt : DateTime) : String := String.ofList (dt.isoChars 'T')

end DateTime

end SqlBinder.Calendar

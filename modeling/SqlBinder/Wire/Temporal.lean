import SqlBinder.Calendar.DateTime
import SqlBinder.Error

/-!
The wire forms of DATE and TIMESTAMP. A DATE has seven bytes: century and year of the century, each
plus 100, month, day, and hour, minute and second, each plus 1. A TIMESTAMP adds the nanoseconds in
four bytes, most significant first; they may be left out when there are none.

The order of the bytes is that of the date-times. For years before the first the century is rounded
down, so that it holds for them as well. A leap second has no place among the bytes: the nanoseconds
that are sent are always less than a second.
-/
namespace SqlBinder.Wire.Temporal

open Calendar

/-- A year the server has: -4712 to 9999, without 0. -/
def YearInRange (year : Int) : Prop := -4712 ≤ year ∧ year ≤ 9999 ∧ year ≠ 0

instance (year : Int) : Decidable (YearInRange year) := inferInstanceAs (Decidable (_ ∧ _))

/-- The seven bytes of a date-time whose year is in range. -/
def dateBytes (dt : DateTime) : List UInt8 :=
  [UInt8.ofNat (dt.date.year / 100 + 100).toNat, UInt8.ofNat (dt.date.year % 100 + 100).toNat,
    UInt8.ofNat dt.date.month, UInt8.ofNat dt.date.day, UInt8.ofNat (dt.hour + 1),
    UInt8.ofNat (dt.minute + 1), UInt8.ofNat (dt.second + 1)]

/-- Four bytes, most significant first. -/
def bigEndian (n : Nat) : List UInt8 :=
  [UInt8.ofNat (n >>> 24), UInt8.ofNat (n >>> 16), UInt8.ofNat (n >>> 8), UInt8.ofNat n]

/-- The number in bytes, most significant first. -/
def ofBigEndian (bytes : List UInt8) : Nat := bytes.foldl (fun n b => 256 * n + b.toNat) 0

/-- The wire form of a DATE, without its fraction. -/
def encodeDate (dt : DateTime) : Except Error (List UInt8) :=
  if YearInRange dt.date.year then pure (dateBytes dt)
  else
    throw (.invalidTemporal
      ("year " ++ toString dt.date.year ++ " is outside the Oracle DATE range"))

/-- The wire form of a TIMESTAMP with `scale` digits of its fraction. -/
def encodeTimestamp (dt : DateTime) (scale : Nat) : Except Error (List UInt8) := do
  let dt := dt.truncate scale
  let date ← encodeDate dt
  return date ++ bigEndian dt.nano

/-- A field stored plus 1; the byte 0 wraps to 255. -/
def lessOne (b : UInt8) : Nat := (b - 1).toNat

/-- The date-time that seven bytes and a fraction stand for. -/
def ofFields (century year month day hour minute second : UInt8) (nano : Nat) :
    Except Error DateTime :=
  let fullYear : Int := ((century.toNat : Int) - 100) * 100 + year.toNat - 100
  match Date.ofFields? fullYear month.toNat day.toNat with
  | none =>
    throw (.protocol ("invalid DATE " ++ toString fullYear ++ "-" ++ toString month.toNat ++ "-" ++
      toString day.toNat))
  | some date =>
    match
      if nano < billion then
        DateTime.ofFields? date (lessOne hour) (lessOne minute) (lessOne second) nano
      else none
    with
    | some dt => pure dt
    | none =>
      throw (.protocol ("invalid time bytes " ++ toString hour.toNat ++ ":" ++
        toString minute.toNat ++ ":" ++ toString second.toNat ++ " with " ++ toString nano ++
        " ns"))

/-- The date-time of a DATE, which has no fraction. -/
def decodeDate : List UInt8 → Except Error DateTime
  | [century, year, month, day, hour, minute, second] =>
    ofFields century year month day hour minute second 0
  | bytes =>
    throw (.protocol ("DATE value has " ++ toString bytes.length ++ " bytes, expected 7"))

/-- The date-time of a TIMESTAMP, with or without its fraction. -/
def decodeTimestamp : List UInt8 → Except Error DateTime
  | [century, year, month, day, hour, minute, second] =>
    ofFields century year month day hour minute second 0
  | [century, year, month, day, hour, minute, second, a, b, c, d] =>
    ofFields century year month day hour minute second (ofBigEndian [a, b, c, d])
  | bytes => throw (.protocol ("TIMESTAMP value has " ++ toString bytes.length ++ " bytes"))

end SqlBinder.Wire.Temporal

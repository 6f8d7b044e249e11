import SqlBinder.Binary.Text
import SqlBinder.Calendar.Parts
import SqlBinder.Calendar.Text
import SqlBinder.Column
import SqlBinder.Lob.Data

/-!
The values that callers bind and get back. They are those of the caller, not those of the wire: a
decimal number stays text, so that none of its digits is lost, and a date keeps nanoseconds that the
type of its column may not have. What a value becomes on the wire is decided by the type it is bound
as.

A value can be looked at as one of another sort, an integer as a float or the text of a decimal
number as an integer. Where it is none of that sort there is nothing to be seen, and no error.
-/
namespace SqlBinder

open Calendar

/-- A value of a caller, to be bound or given back. Which types of column it goes with is not part
of it. -/
inductive Value where
  | null
  | integer (n : Int64)
  | float (x : Double)
  /-- A decimal number as text, exact beyond what a float holds. -/
  | number (text : String)
  | string (text : String)
  | bytes (bytes : List UInt8)
  | boolean (b : Bool)
  | date (dt : DateTime)
  /-- Calendar fields that roll forward when bound. -/
  | dateParts (parts : Parts)
  | lob (locator : LobLocator)
  | cursor (locator : CursorLocator)
  | array (items : List Value)
  /-- Fields by name. Cannot be bound. -/
  | object (fields : List (String × Value))

namespace Value

/-- It is null. An empty text is not. -/
def isNull : Value → Bool
  | null => true
  | _ => false

/-- The text of strings and decimal numbers. -/
def text? : Value → Option String
  | string s | number s => some s
  | _ => none

/-- The integer a number is; a float beyond the range gives its end. -/
def int? : Value → Option Int64
  | integer n => some n
  | float x => x.toInt64?
  | number s => Decimal.readInt64? s.toList
  | _ => none

/-- The nearest float of a number. -/
def float? : Value → Option Double
  | integer n => some (Double.ofInt n.toInt)
  | float x => some x
  | number s => Double.parse? s.toList
  | _ => none

/-- The date-time of a date; fields that still have to roll forward are none. -/
def date? : Value → Option DateTime
  | date dt => some dt
  | _ => none

/-- The bytes of binary data. -/
def bytes? : Value → Option (List UInt8)
  | bytes b => some b
  | _ => none

/-- The truth value it is. Numbers are none. -/
def bool? : Value → Option Bool
  | boolean b => some b
  | _ => none

/-- The locator of a large object. -/
def lob? : Value → Option LobLocator
  | lob l => some l
  | _ => none

/-- The locator of a cursor. -/
def cursor? : Value → Option CursorLocator
  | cursor c => some c
  | _ => none

/-- The elements of an array. -/
def array? : Value → Option (List Value)
  | array items => some items
  | _ => none

/-- Length for the size of a bind buffer: characters of text or bytes. -/
def bindLength : Value → Nat
  | string s => s.length
  | bytes b => b.length
  | _ => 0

/-- A float that is no number. The type NUMBER has no form for it. -/
def isNaN : Value → Bool
  | float x => x.isNaN
  | _ => false

/-- What sort of value it is, for messages. -/
def sort : Value → String
  | null => "null"
  | integer _ => "integer"
  | float _ => "float"
  | number _ => "number"
  | string _ => "string"
  | bytes _ => "bytes"
  | boolean _ => "boolean"
  | date _ | dateParts _ => "date"
  | lob _ => "lob"
  | cursor _ => "cursor"
  | array _ => "array"
  | object _ => "object"

/-- An integer filled with zeros to a width that counts its sign. -/
def filledInt (width : Nat) (n : Int) : List Char :=
  if n < 0 then '-' :: fill '0' (width - 1) n.natAbs else fill '0' width n.natAbs

/-- The value as text for readers. Values that have no text of their own are shown by what they are
and how long. -/
def plain : Value → String
  | null => "NULL"
  | integer n => toString n.toInt
  | float x => x.plain
  | number s => s
  | string s => s
  | bytes b => "<RAW: " ++ toString b.length ++ " bytes>"
  | boolean b => if b then "true" else "false"
  | date dt => dt.plain
  | dateParts p =>
    String.ofList (filledInt 4 p.year ++ '-' :: two p.month ++ '-' :: two p.day ++
      ' ' :: two p.hour ++ ':' :: two p.minute ++ ':' :: two p.second)
  | lob l =>
    match l.kind with
    | .blob => "<BLOB: " ++ toString l.size ++ " bytes>"
    | .clob => "<CLOB: " ++ toString l.size ++ " chars>"
  | cursor c => "<CURSOR: " ++ toString c.id ++ ">"
  | array items => "<ARRAY: " ++ toString items.length ++ " elements>"
  | object fields => "<OBJECT: " ++ toString fields.length ++ " fields>"

end Value

end SqlBinder

import SqlBinder.Calendar.Pattern
import SqlBinder.Options
import SqlBinder.Wire.Numeric
import SqlBinder.Wire.Temporal
import SqlBinder.Wire.Value

/-!
Between values and their wire forms, type by type. A type accepts the shapes of
value it can bind, encodes them, and decodes what the session reports.

Null goes both ways for every type. Text and bytes without content are null to
text, raw and large object types. Arrays convert element by element.
-/
namespace SqlBinder

open Text Wire

namespace DbType

/-- The value is sent as null. -/
def sendsNull (t : DbType) : Value → Bool
  | .null => true
  | .string s => s.isEmpty && (t.isText || t.isBinary)
  | .bytes b => b.isEmpty && (t.isText || t.isBinary)
  | _ => false

/-- A value of a shape that the type does not bind. -/
def mismatch (t : DbType) (v : Value) : Error :=
  .conversion ("cannot bind " ++ v.sort ++ " value as " ++ t.name)

/-- A wire value that the type does not expect. -/
def unexpected (t : DbType) (w : WireValue) : Error :=
  .protocol ("unexpected wire value for " ++ t.name ++ ": " ++ w.inspected)

/-- A text that has a NUMBER form. -/
def isNumberText (s : String) : Bool := (Numeric.encode s).isOk

/-- A text that is an integer of 64 bits, blanks around it aside. -/
def isIntegerText (s : String) : Bool := (Decimal.readInt64? (trim s.toList)).isSome

/-- The type can bind a non-null value of this shape. NaN is no number. -/
def accepts (t : DbType) (v : Value) : Bool :=
  match t, v with
  | varchar, .string _ | char, .string _ | long, .string _ => true
  | number, .integer _ | binaryFloat, .integer _ | binaryDouble, .integer _ => true
  | number, .float x | binaryFloat, .float x | binaryDouble, .float x => !x.isNaN
  | number, .number s | binaryFloat, .number s | binaryDouble, .number s
  | number, .string s | binaryFloat, .string s | binaryDouble, .string s => isNumberText s
  | binaryInteger, .integer _ => true
  | binaryInteger, .float x => x.toInt?.isSome
  | binaryInteger, .number s | binaryInteger, .string s => isIntegerText s
  | date, .date _ | date, .dateParts _ | timestamp, .date _ | timestamp, .dateParts _ => true
  | raw, .bytes _ | longRaw, .bytes _ => true
  | clob, .string _ | nclob, .string _ => true
  | clob, .lob l | nclob, .lob l => l.kind == .clob
  | blob, .bytes _ => true
  | blob, .lob l => l.kind == .blob
  | cursor, .cursor _ => true
  | boolean, .boolean _ => true
  | _, _ => false

/-- The type can bind the value; every type can bind null. -/
def validates (t : DbType) (v : Value) : Bool := v.isNull || t.accepts v

/-- The NUMBER form of a number or of a text. -/
def encodeNumber (v : Value) : Except Error WireValue :=
  WireValue.number <$>
    match v with
    | .integer n => Numeric.encodeInt n
    | .float x => Numeric.encodeDouble x
    | .number s | .string s => Numeric.encode s
    | other => throw (mismatch number other)

/-- The float of a number or of a text. -/
def floatOf (t : DbType) (v : Value) : Except Error Double := do
  let x ←
    match v with
    | .integer n => pure (Double.ofInt n.toInt)
    | .float x => pure x
    | .number s | .string s =>
      match Double.parse? (trim s.toList) with
      | some x => pure x
      | none => throw (mismatch t v)
    | other => throw (mismatch t other)
  if x.isNaN then throw .notANumber
  return x

/-- The date-time of a date or of calendar fields. -/
def dateTimeOf (t : DbType) : Value → Except Error Calendar.DateTime
  | .date dt => pure dt
  | .dateParts p => p.normalize
  | other => throw (mismatch t other)

/-- The wire form of one value that is neither null nor an array. -/
def encodeScalar (t : DbType) (v : Value) (o : ConvertOptions) : Except Error WireValue :=
  match t with
  | varchar | char | long =>
    match v with
    | .string s => pure (.text s)
    | other => throw (mismatch varchar other)
  | number | binaryInteger => encodeNumber v
  | binaryDouble => WireValue.double <$> floatOf binaryDouble v
  | binaryFloat => (fun x => WireValue.single x.toSingle) <$> floatOf binaryFloat v
  | date => WireValue.date <$> (dateTimeOf date v >>= Temporal.encodeDate)
  | timestamp =>
    WireValue.date <$> (dateTimeOf timestamp v >>= (Temporal.encodeTimestamp · o.timestampScale))
  | raw | longRaw =>
    match v with
    | .bytes b => pure (.raw b)
    | other => throw (mismatch raw other)
  | clob | nclob | blob =>
    match v with
    | .lob l => pure (.lob l)
    | other =>
      throw (.conversion
        (other.sort ++ " value must be written to a temporary LOB before it is bound"))
  | cursor =>
    match v with
    | .cursor c => pure (.cursor c)
    | other => throw (mismatch cursor other)
  | boolean =>
    match v with
    | .boolean b => pure (.boolean b)
    | other => throw (mismatch boolean other)

/-- The wire form of one value that is not an array. -/
def encodeLeaf (t : DbType) (v : Value) (o : ConvertOptions) : Except Error WireValue :=
  if t.sendsNull v then pure .null
  else if v.isNaN && t.isNumeric then throw .notANumber
  else if !t.accepts v then throw (t.mismatch v)
  else t.encodeScalar v o

mutual

/-- The wire form of a value for a type. In an array the first element that has none tells the
error. -/
def encode (t : DbType) (o : ConvertOptions) : Value → Except Error WireValue
  | .array items => WireValue.array <$> encodeAll t o items
  | v => t.encodeLeaf v o

/-- The wire forms of values, or the error of the first that has none. -/
def encodeAll (t : DbType) (o : ConvertOptions) : List Value → Except Error (List WireValue)
  | [] => pure []
  | v :: rest => return (← encode t o v) :: (← encodeAll t o rest)

end

/-- The wire form of a value that may be missing; a missing one is null. -/
def encode? (t : DbType) (o : ConvertOptions) : Option Value → Except Error WireValue
  | some v => t.encode o v
  | none => pure .null

/-- The narrowest exact value of a decimal text: an integer if it fits, a float if
its text is the same, else the text itself. -/
def ofDecimalText (text : String) : Value :=
  if text.toList.any fun c => c == '.' || c == 'e' then
    match Double.parse? text.toList with
    | some x => if x.isFinite && x.plain == text then .float x else .number text
    | none => .number text
  else
    match Decimal.readInt64? text.toList with
    | some n => .integer n
    | none => .number text

/-- The value of a text, null if it has no content. -/
def ofText (s : String) : Value := if s.isEmpty then .null else .string s

/-- The value of bytes, null if there are none. -/
def ofBytes (b : List UInt8) : Value := if b.isEmpty then .null else .bytes b

/-- The value of a NUMBER: its text where numbers are fetched as text, else the narrowest exact
value of that text. -/
def decodeNumber (o : ConvertOptions) : WireValue → Except Fault Value
  | .number b => do
    let text ← Numeric.decode b
    return if o.asText number then .string text else ofDecimalText text
  | other => throw (.refused (unexpected number other))

/-- The value of a float of either width, as the wider one or as its text. -/
def decodeFloat (o : ConvertOptions) (w : WireValue) : Except Fault Value := do
  let x ←
    match w with
    | .double x => pure x
    | .single x => pure x.toDouble
    | other => throw (.refused (unexpected binaryDouble other))
  return if o.asText binaryDouble || o.asText binaryFloat then .string x.plain else .float x

/-- The value of a date, with its fraction if the wire value has one, or its text in the pattern of
the settings. The pattern is not looked at before that; one that cannot be followed breaks off the
decoding, and whatever it is part of. -/
def decodeTemporal (o : ConvertOptions) : WireValue → Except Fault Value
  | .date b => do
    let dt ← Fault.ofExcept (Temporal.decodeTimestamp b)
    if o.asText date || o.asText timestamp then
      match dt.render? o.datePattern with
      | some text => return .string text
      | none => throw .brokenOff
    else return .date dt
  | other => throw (.refused (unexpected timestamp other))

/-- The value of one wire value that is neither null nor an array. -/
def decodeScalar (t : DbType) (o : ConvertOptions) (w : WireValue) : Except Fault Value :=
  match t with
  | varchar | char | long =>
    match w with
    | .text s => pure (ofText s)
    | other => throw (.refused (unexpected varchar other))
  | number => decodeNumber o w
  | binaryInteger => do
    match ← decodeNumber o w with
    | .float x =>
      throw (.refused (.protocol ("BINARY_INTEGER value " ++ x.plain ++ " is not integral")))
    | v => return v
  | binaryFloat | binaryDouble => decodeFloat o w
  | date | timestamp => decodeTemporal o w
  | raw | longRaw =>
    match w with
    | .raw b => pure (ofBytes b)
    | other => throw (.refused (unexpected raw other))
  | clob | nclob | blob =>
    match w with
    | .lob l => pure (.lob l)
    -- Longer strings and raws of blocks may come back without a locator.
    | .text s => pure (ofText s)
    | .raw b => pure (ofBytes b)
    | other => throw (.refused (unexpected clob other))
  | cursor =>
    match w with
    | .cursor c => if c.id = 0 then throw (.refused .invalidCursor) else pure (.cursor c)
    | other => throw (.refused (unexpected cursor other))
  | boolean =>
    match w with
    | .boolean b => pure (.boolean b)
    | other => throw (.refused (unexpected boolean other))

mutual

/-- The value of a wire value that is reported for a type, element by element where it is an array.
It is refused, or breaks off, as the first element that does. -/
def decode (t : DbType) (o : ConvertOptions) : WireValue → Except Fault Value
  | .null => pure .null
  | .array items => Value.array <$> decodeAll t o items
  | w => t.decodeScalar o w

/-- The values of wire values, or the fault of the first that has none. -/
def decodeAll (t : DbType) (o : ConvertOptions) : List WireValue → Except Fault (List Value)
  | [] => pure []
  | w :: rest => return (← decode t o w) :: (← decodeAll t o rest)

end

end DbType

namespace Value

mutual

/-- The type that follows from a value, if one does. An array has the type of its
first element that is not null. -/
def inferType? : Value → Option DbType
  | string _ => some .varchar
  | integer _ | float _ | number _ => some .number
  | bytes _ => some .raw
  | date _ | dateParts _ => some .timestamp
  | boolean _ => some .boolean
  | lob l => some l.kind.dbType
  | cursor _ => some .cursor
  | array items => inferFirst? items
  | null | object _ => none

/-- The type of the first value that is not null. -/
def inferFirst? : List Value → Option DbType
  | [] => none
  | v :: rest => if v.isNull then inferFirst? rest else inferType? v

end

end Value

end SqlBinder

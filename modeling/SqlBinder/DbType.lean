import SqlBinder.Error

/-!
The logical types of binds and columns. Width and precision belong to a column or a bind, not to its
type.

On the wire a type is a number, and the form of the character set tells the two kinds of character
objects apart. Most of the 256 numbers stand for no type, so reading a number may fail while writing
one cannot.
-/
namespace SqlBinder

/-- A logical type. National character sets are told apart for large objects only, where the server
keeps them apart. -/
inductive DbType where
  | varchar | char | long
  | number | binaryInteger | binaryFloat | binaryDouble
  | date | timestamp
  | raw | longRaw
  | clob | nclob | blob
  | cursor
  | boolean
  deriving DecidableEq, Repr

/-- Character set form of national character data. -/
def nationalForm : UInt8 := 2

namespace DbType

/-- The type of a wire type number. The character set form tells the two character
LOB types apart. -/
def ofNumber (typeNumber form : UInt8) : Except Error DbType :=
  match typeNumber with
  | 1 => pure varchar
  | 2 => pure number
  | 3 => pure binaryInteger
  | 8 => pure long
  | 12 => pure date
  | 23 => pure raw
  | 24 => pure longRaw
  | 96 => pure char
  | 100 => pure binaryFloat
  | 101 => pure binaryDouble
  | 102 => pure cursor
  | 112 => pure (if form = nationalForm then nclob else clob)
  | 113 => pure blob
  | 180 => pure timestamp
  | 252 => pure boolean
  | _ => throw (.unsupportedType typeNumber)

/-- The number of the type on the wire. Types that differ in their character set only have the same
number. -/
def toNumber : DbType → UInt8
  | varchar => 1
  | number => 2
  | binaryInteger => 3
  | long => 8
  | date => 12
  | raw => 23
  | longRaw => 24
  | char => 96
  | binaryFloat => 100
  | binaryDouble => 101
  | cursor => 102
  | clob | nclob => 112
  | blob => 113
  | timestamp => 180
  | boolean => 252

/-- The name of the type in messages and for callers. -/
def name : DbType → String
  | varchar => "VARCHAR2"
  | char => "CHAR"
  | long => "LONG"
  | number => "NUMBER"
  | binaryInteger => "BINARY_INTEGER"
  | binaryFloat => "BINARY_FLOAT"
  | binaryDouble => "BINARY_DOUBLE"
  | date => "DATE"
  | timestamp => "TIMESTAMP"
  | raw => "RAW"
  | longRaw => "LONG RAW"
  | clob => "CLOB"
  | nclob => "NCLOB"
  | blob => "BLOB"
  | cursor => "REF CURSOR"
  | boolean => "BOOLEAN"

/-- The caller chooses the size of the buffer of an output bind. -/
def isVariableLength : DbType → Bool
  | varchar | char | long | raw | longRaw => true
  | _ => false

/-- The content is kept on the server, and what is exchanged is a locator. -/
def isLob : DbType → Bool
  | clob | nclob | blob => true
  | _ => false

/-- A number in any form. Text that has a number in it can be bound to these types as well. -/
def isNumeric : DbType → Bool
  | number | binaryInteger | binaryFloat | binaryDouble => true
  | _ => false

/-- A date, with or without a fraction of the second. -/
def isTemporal : DbType → Bool
  | date | timestamp => true
  | _ => false

/-- Characters, large objects included. -/
def isText : DbType → Bool
  | varchar | char | long | clob | nclob => true
  | _ => false

/-- Bytes, large objects included. -/
def isBinary : DbType → Bool
  | raw | longRaw | blob => true
  | _ => false

end DbType

end SqlBinder

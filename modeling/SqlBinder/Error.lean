/-!
What can go wrong, by cause. Each error belongs to one kind and has one message. Binds and
conversions fail before any round trip; errors of the server pass through unchanged.

An error is a value: its caller may handle it, and whoever holds something on the server gives it
back first. A computation that breaks off leaves no such value. That is a `Fault` beside the errors,
not one of them, for nothing that would handle an error is done behind it.
-/
namespace SqlBinder

/-- How a bind is identified in messages and results: as it was given, so that a caller finds it
again. -/
inductive Slot where
  /-- By position, from 1. -/
  | position (n : Nat)
  /-- By recorded name. -/
  | name (recorded : String)
  deriving DecidableEq, Repr

/-- The slot of a bind in messages. -/
def Slot.describe : Slot → String
  | .position n => "bind position " ++ toString n
  | .name s => "bind \"" ++ s ++ "\""

/-- A span of time, in microseconds. Longer and shorter spans are all that matters of time. -/
structure Span where
  micros : Nat
  deriving DecidableEq, Repr

/-- Whole milliseconds of a span. -/
def Span.millis (s : Span) : Nat := s.micros / 1000

/-- A span of whole milliseconds. -/
def Span.ofMillis (ms : Nat) : Span := ⟨ms * 1000⟩

/-- Where an error comes from, as far as a caller may act on it: its own binds and values, a handle
in the wrong state, the server, the transport, or a session that keeps to no protocol. -/
inductive ErrorKind where
  | bindValidation
  | conversion
  | resourceState
  | backendExecution
  | stream
  | protocol
  deriving DecidableEq, Repr

/-- One constructor for each cause, with the data that its message shows. -/
inductive Error where
  /-- A value does not have the declared type. -/
  | typeMismatch (slot : Slot)
  /-- A value of this shape can never be bound. -/
  | unbindable (position : Nat)
  | invalidDirection
  /-- A bind says nothing at all. -/
  | emptySpec
  /-- A list by position holds an entry with names. -/
  | mixedBinds
  | missingMaxSize (slot : Slot)
  | missingType (slot : Slot)
  | maxSizeTooSmall (slot : Slot) (maxSize length : Nat)
  /-- A returned value is longer than its buffer. -/
  | outBufferTooSmall
  /-- A name that the statement does not have. -/
  | unknownName (name : String)
  | wrongCount (expected actual : Nat)
  /-- A placeholder without a value. -/
  | missingValue (name : String)
  | elementMismatch (index : Nat) (slot : Slot)
  /-- A type that arrays cannot hold. -/
  | invalidElementType
  | missingMaxArraySize
  | arrayTooLong
  | notANumber
  /-- A number outside the range of the decimal type. -/
  | unrepresentable
  | invalidTemporal (message : String)
  | conversion (message : String)
  | invalidResultSet
  /-- A stream is asked for after rows were fetched. -/
  | streamAfterFetch
  | invalidLob
  | lobClosed
  | invalidCursor
  | invalidProperty (property : String)
  | connectionClosed
  /-- Raised by the server. -/
  | server (code : Nat) (message : String)
  | callTimeout (limit : Span)
  | stream (message : String)
  /-- The session's answer makes no sense. -/
  | protocol (message : String)
  /-- A column of a type that cannot be fetched. -/
  | unsupportedType (typeNumber : UInt8)
  | columnNotFound (name : String)
  deriving DecidableEq, Repr

namespace Error

/-- The kind of an error follows from its cause. -/
def kind : Error → ErrorKind
  | typeMismatch _ | unbindable _ | invalidDirection | emptySpec | mixedBinds
  | missingMaxSize _ | missingType _ | maxSizeTooSmall _ _ _ | outBufferTooSmall
  | unknownName _ | wrongCount _ _ | missingValue _ | elementMismatch _ _
  | invalidElementType | missingMaxArraySize | arrayTooLong | invalidProperty _ =>
    .bindValidation
  | notANumber | unrepresentable | invalidTemporal _ | conversion _ =>
    .conversion
  | invalidResultSet | streamAfterFetch | invalidLob | lobClosed | invalidCursor
  | connectionClosed => .resourceState
  | server _ _ | callTimeout _ => .backendExecution
  | stream _ => .stream
  | protocol _ | unsupportedType _ | columnNotFound _ => .protocol

/-- A number with zeros in front, at least this wide. -/
def padded (width n : Nat) : String :=
  let digits := toString n
  String.ofList (List.replicate (width - digits.length) '0') ++ digits

/-- The text of an error. It shows all data of its cause, so that it can be read without the error.
-/
def message : Error → String
  | typeMismatch slot => "encountered bind value and type mismatch for " ++ slot.describe
  | unbindable position =>
    "encountered invalid bind data type in parameter " ++ toString position
  | invalidDirection => "invalid bind direction"
  | emptySpec =>
    "bind object must contain one of the following attributes: " ++
      "\"dir\", \"type\", \"maxSize\", or \"val\""
  | mixedBinds => "binding by position and name cannot be mixed"
  | missingMaxSize slot =>
    "maxSize for " ++ slot.describe ++ " must be specified and be greater than zero"
  | missingType slot => "type must be specified for " ++ slot.describe
  | maxSizeTooSmall slot maxSize length =>
    "maxSize of " ++ toString maxSize ++ " is too small for value of length " ++
      toString length ++ " in " ++ slot.describe
  | outBufferTooSmall => "buffer is too small for OUT binds"
  | unknownName name =>
    "no bind placeholder named \":" ++ name ++ "\" was found in the statement text"
  | wrongCount expected actual =>
    toString expected ++ " positional bind values are required but " ++ toString actual ++
      " were provided"
  | missingValue name =>
    "a bind variable replacement value for placeholder \":" ++ name ++ "\" was not provided"
  | elementMismatch index slot =>
    "invalid data type at array index " ++ toString index ++ " for " ++ slot.describe
  | invalidElementType => "data type is unsupported for array bind"
  | missingMaxArraySize => "maxArraySize is required for IN OUT array bind"
  | arrayTooLong => "length of given array is greater than \"maxArraySize\""
  | notANumber => "value is not a number (NaN) and cannot be used in Oracle Database numbers"
  | unrepresentable => "value cannot be represented as an Oracle Database number"
  | invalidTemporal message => "invalid temporal value: " ++ message
  | conversion message => "Type conversion error: " ++ message
  | invalidResultSet => "invalid ResultSet"
  | streamAfterFetch => "cannot convert ResultSet to QueryStream after invoking methods"
  | invalidLob => "invalid Lob"
  | lobClosed => "LOB was already closed"
  | invalidCursor => "invalid cursor"
  | invalidProperty property => "invalid value for property \"" ++ property ++ "\""
  | connectionClosed => "Connection closed"
  | server code message => "ORA-" ++ padded 5 code ++ ": " ++ message
  | callTimeout limit => "call timeout of " ++ toString limit.millis ++ " ms exceeded"
  | stream message => "Stream error: " ++ message
  | protocol message => "Protocol error: " ++ message
  | unsupportedType typeNumber => "Unsupported Oracle data type: " ++ toString typeNumber.toNat
  | columnNotFound name => "Column not found: " ++ name

/-- A value did not fit its buffer, here or on the server: codes 6502 and 1406. -/
def isBufferTooSmall : Error → Bool
  | server code _ => code == 6502 || code == 1406
  | outBufferTooSmall => true
  | _ => false

end Error

/-- What a computation comes to that gives no result. -/
inductive Fault where
  /-- It fails with an error, which its caller may handle. -/
  | refused (e : Error)
  /-- It breaks off, and so does all that waits for its result: no caller handles that, and what a
  caller would have done behind it is not done. -/
  | brokenOff
  deriving DecidableEq, Repr

/-- A computation that never breaks off, as part of one that may. -/
def Fault.ofExcept (r : Except Error α) : Except Fault α := r.mapError refused

namespace Fault

@[simp] theorem ofExcept_ok (a : α) : ofExcept (.ok a) = .ok a := rfl

@[simp] theorem ofExcept_error (e : Error) :
    (ofExcept (.error e) : Except Fault α) = .error (refused e) := rfl

end Fault

end SqlBinder

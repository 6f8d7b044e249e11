import SqlBinder.Value

/-!
What a caller says about one bind, and about all binds of an execution.

A bind is given either by a bare value or by a specification whose parts may all be missing; what is
missing is inferred or taken from the settings when the bind is resolved. A descriptor is what then
stands: nothing in it is open any more.
-/
namespace SqlBinder.Binding

/-- Which way a value travels. A value in both directions is sent like an input and comes back like
an output. -/
inductive Direction where
  /-- To the server. -/
  | input
  /-- From the server. -/
  | output
  | both
  deriving DecidableEq, Repr

namespace Direction

/-- The direction of a numeric code. -/
def ofCode (code : Nat) : Except Error Direction :=
  match code with
  | 3001 => pure input
  | 3002 => pure both
  | 3003 => pure output
  | _ => throw .invalidDirection

/-- The number by which interfaces of older drivers name the direction. -/
def code : Direction → Nat
  | input => 3001
  | both => 3002
  | output => 3003

/-- The caller sends a value. -/
def isInput : Direction → Bool
  | input | both => true
  | output => false

/-- The server returns a value. -/
def isOutput : Direction → Bool
  | output | both => true
  | input => false

end Direction

/-- Attributes of a bind, each of which may be left open. What is left open is settled from the
others or has a default; where neither is possible, resolving fails. -/
structure Spec where
  direction : Option Direction := none
  dbType : Option DbType := none
  maxSize : Option Nat := none
  value : Option Value := none
  maxArraySize : Option Nat := none

/-- A bind that sends a value. -/
def Spec.ofValue (v : Value) : Spec := { direction := some .input, value := some v }

/-- Nothing is said. -/
def Spec.isEmpty (s : Spec) : Bool :=
  s.direction.isNone && s.dbType.isNone && s.maxSize.isNone && s.value.isNone &&
    s.maxArraySize.isNone

/-- One bind as a caller gives it: a value and nothing else, or attributes with or without a value.
-/
inductive Param where
  /-- A bare value to send; its type follows from it. -/
  | value (v : Value)
  | spec (s : Spec)

/-- All binds of one execution. -/
inductive Binds where
  | none
  | positional (params : List Param)
  /-- By names as the caller spells them. -/
  | named (params : List (String × Param))

/-- A bind with every attribute settled. -/
structure Descriptor where
  slot : Slot
  /-- Recorded name of the placeholder. -/
  placeholder : String
  direction : Direction
  dbType : DbType
  /-- Buffer size of a variable-length type, else 0. -/
  maxSize : Nat
  /-- The value to send. -/
  value : Option Value
  /-- The most elements of an array bind. -/
  maxArraySize : Option Nat
  /-- The placeholder stands only behind `RETURNING … INTO`. -/
  isReturn : Bool
  /-- The type before a long string or raw became a large object. -/
  promotedFrom : Option DbType

/-- The bind is an array; only arrays have a limit for their number of elements. -/
def Descriptor.isArray (d : Descriptor) : Bool := d.maxArraySize.isSome

end SqlBinder.Binding

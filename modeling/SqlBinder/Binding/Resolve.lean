import SqlBinder.Binding.Name
import SqlBinder.Binding.Spec
import SqlBinder.Conversion
import SqlBinder.Statement.Info

/-!
Binds of a caller matched with the placeholders of a statement: one descriptor for each distinct
name, in the order of first occurrence. Everything a caller can get wrong is found here, before
anything is sent.

Each bind is settled on its own, in the order of the placeholders, and the first fault is the one
that is reported. The checks of one bind go from the outside in: its shape, its type, its values one
by one, its size, and at last whether a block takes it as a large object.
-/
namespace SqlBinder.Binding

open Statement

/-- What is wrong with a value that is not an array. -/
def checkScalar (t : DbType) (v : Value) (slot : Slot) : Except Error Unit := do
  if v.isNaN && t.isNumeric then throw .notANumber
  if !t.validates v then throw (.typeMismatch slot)

/-- The elements of an array bind; null has none. -/
def arrayItems (v : Option Value) (slot : Slot) : Except Error (List Value) :=
  match v with
  | some (.array items) => pure items
  | some .null | none => pure []
  | some _ => throw (.typeMismatch slot)

/-- What is wrong with an element. -/
def checkElement (t : DbType) (maxSize : Option Nat) (slot : Slot) (index : Nat) (v : Value) :
    Except Error Unit := do
  match v with
  | .array _ | .object _ => throw .invalidElementType
  | _ => pure ()
  if v.isNaN && t.isNumeric then throw .notANumber
  if !t.validates v then throw (.elementMismatch index slot)
  match maxSize with
  | some size =>
    if t.isVariableLength && 0 < size && size < v.bindLength then
      throw (.maxSizeTooSmall slot size v.bindLength)
  | none => pure ()

/-- What is wrong with the first bad element, counted from `index`. -/
def checkElements (t : DbType) (maxSize : Option Nat) (slot : Slot) (index : Nat) :
    List Value → Except Error Unit
  | [] => pure ()
  | v :: rest => do
    checkElement t maxSize slot index v
    checkElements t maxSize slot (index + 1) rest

/-- The most elements of an array bind. An output has to declare it. -/
def arrayLimit (direction : Direction) (declared : Option Nat) (length : Nat) :
    Except Error Nat :=
  match declared with
  | some 0 => if direction.isOutput then throw .missingMaxArraySize else pure 0
  | some n => pure n
  | none => if direction.isOutput then throw .missingMaxArraySize else pure length

/-- An array bind that is right, by its limit. -/
def checkArray (direction : Direction) (t : DbType) (spec : Spec) (v : Option Value)
    (slot : Slot) : Except Error Nat := do
  if t.isLob || t == .cursor then throw .invalidElementType
  let items ← arrayItems v slot
  let limit ← arrayLimit direction spec.maxArraySize items.length
  if direction.isInput && limit < items.length then throw .arrayTooLong
  checkElements t spec.maxSize slot 0 items
  return limit

/-- The longest length among a value or its elements. -/
def longest : Option Value → Nat
  | some (.array items) => (items.map Value.bindLength).foldl max 0
  | some v => v.bindLength
  | none => 0

/-- Buffer size of a bind of variable length. -/
def bufferSize (direction : Direction) (t : DbType) (declared : Option Nat) (v : Option Value)
    (slot : Slot) (o : BindOptions) : Except Error Nat :=
  if !t.isVariableLength then pure 0
  else
    match direction, declared with
    | .input, declared => pure (max (max (declared.getD 0) (longest v)) 1)
    | _, some 0 => throw (.missingMaxSize slot)
    | _, some n => pure (max (max n (longest v)) 1)
    | _, none => pure (max (max o.defaultMaxSize (longest v)) 1)

/-- The large object type that a long value of a block is sent as. -/
def promoted? : DbType → Option DbType
  | .varchar | .char | .long => some .clob
  | .raw | .longRaw => some .blob
  | _ => none

/-- The type a bind has: declared, else inferred, else the default. -/
def typeOf (direction : Direction) (declared : Option DbType) (v : Option Value) (slot : Slot)
    (o : BindOptions) : Except Error DbType :=
  match declared, v.bind Value.inferType? with
  | some t, _ => pure t
  | none, some t => pure t
  | none, none =>
    if direction.isOutput then
      if o.requireType then throw (.missingType slot) else pure o.defaultType
    else pure .varchar

/-- The attributes that a bind gives. -/
def specOf : Param → Except Error Spec
  | .value v => pure (.ofValue v)
  | .spec s => if s.isEmpty then throw .emptySpec else pure s

/-- The value that a bind sends. Outputs send none, and null stands for none unless
an array is declared. -/
def sentValue (direction : Direction) (spec : Spec) : Option Value :=
  (if direction.isInput then spec.value else none).filter fun v =>
    !v.isNull || spec.maxArraySize.isSome

/-- The value is an object with fields. No type binds one, wherever it stands. -/
def isObject : Value → Bool
  | .object _ => true
  | _ => false

/-- The bind was given a list of values, be it empty or not. -/
def isArrayValue : Option Value → Bool
  | some (.array _) => true
  | _ => false

/-- Objects are never bound. -/
def checkBindable (spec : Spec) (position : Nat) : Except Error Unit :=
  if (spec.value.map isObject).getD false then throw (.unbindable position) else pure ()

/-- What is wrong with the value of a bind. If it is an array it comes to its limit. -/
def checkValue (direction : Direction) (t : DbType) (spec : Spec) (v : Option Value)
    (slot : Slot) : Except Error (Option Nat) :=
  if spec.maxArraySize.isSome || isArrayValue v then some <$> checkArray direction t spec v slot
  else
    match v with
    | some v => (fun _ => none) <$> checkScalar t v slot
    | none => pure none

/-- The large object type that a single value of this size becomes, in a block. -/
def promotion? (info : Info) (o : BindOptions) (t : DbType) (isArray : Bool) (size : Nat) :
    Option DbType :=
  if info.isPlsql && !isArray && o.blockStringLimit < size then promoted? t else none

/-- The descriptor of one bind, at a position from 1. -/
def resolveOne (info : Info) (placeholder : String) (position : Nat) (slot : Slot)
    (param : Param) (o : BindOptions) : Except Error Descriptor := do
  let spec ← specOf param
  checkBindable spec position
  let direction := spec.direction.getD .input
  let value := sentValue direction spec
  let t ← typeOf direction spec.dbType value slot o
  let maxArraySize ← checkValue direction t spec value slot
  let size ← bufferSize direction t spec.maxSize value slot o
  let promotion := promotion? info o t maxArraySize.isSome size
  return {
    slot := slot
    placeholder := placeholder
    direction := direction
    dbType := promotion.getD t
    maxSize := size
    value := value
    maxArraySize := maxArraySize
    isReturn := info.isReturnBind placeholder
    promotedFrom := promotion.map fun _ => t }

/-- Bare values with named fields do not go with binds by position. -/
def checkPositional : Param → Except Error Unit
  | .value (.object _) => throw .mixedBinds
  | _ => pure ()

/-- Descriptors of binds by position, for the names from a position on. -/
def resolvePositional (info : Info) (o : BindOptions) (position : Nat) :
    List (String × Param) → Except Error (List Descriptor)
  | [] => pure []
  | (placeholder, param) :: rest => do
    checkPositional param
    let d ← resolveOne info placeholder position (.position position) param o
    return d :: (← resolvePositional info o (position + 1) rest)

/-- The place of the placeholder that a caller names. The recorded form is tried
first, then the name as spelled. -/
def placeOf (info : Info) (name : String) : Except Error Nat :=
  match (info.positionOf (normalizeName name)).or (info.positionOf (withoutColons name)) with
  | some i => pure i
  | none => throw (.unknownName (withoutColons name))

/-- Binds with the places they name. -/
def placed (info : Info) : List (String × Param) → Except Error (List (Nat × Param))
  | [] => pure []
  | (name, param) :: rest => return (← placeOf info name, param) :: (← placed info rest)

/-- The last bind at a place. -/
def lastAt (place : Nat) (params : List (Nat × Param)) : Option Param :=
  (params.reverse.find? (·.1 == place)).map (·.2)

/-- Descriptors of binds by name, for the names from a place on. -/
def resolveNamed (info : Info) (o : BindOptions) (params : List (Nat × Param)) (place : Nat) :
    List String → Except Error (List Descriptor)
  | [] => pure []
  | placeholder :: rest => do
    match lastAt place params with
    | none => throw (.missingValue placeholder)
    | some param =>
      let d ← resolveOne info placeholder (place + 1) (.name placeholder) param o
      return d :: (← resolveNamed info o params (place + 1) rest)

/-- One descriptor for each distinct placeholder, in order. -/
def resolve (info : Info) (binds : Binds) (o : BindOptions) : Except Error (List Descriptor) :=
  match binds with
  | .none =>
    match info.bindNames with
    | [] => pure []
    | first :: _ => throw (.missingValue first)
  | .positional params =>
    if params.length ≠ info.bindNames.length then
      throw (.wrongCount info.bindNames.length params.length)
    else resolvePositional info o 1 (info.bindNames.zip params)
  | .named params => do
    resolveNamed info o (← placed info params) 0 info.bindNames

end SqlBinder.Binding

import SqlBinder.Connection.Handle

/-!
Output binds on their way back. A value longer than its buffer fails the call. When a call fails,
the cursors and objects that came with it are released, so that nothing stays open that the caller
never sees.

Which of them there are to release depends on where decoding stopped: binds that are decoded hold
open handles, wire values that were not reached hold the numbers of cursors, and the value at which
it stopped is in nobody's hands.
-/
namespace SqlBinder

open Binding

/-- A returned value is longer than its buffer. -/
def Binding.Descriptor.overflows (d : Descriptor) (w : WireValue) : Bool :=
  if d.promotedFrom.isSome || !d.dbType.isVariableLength then false
  else
    match w with
    | .array items => items.any fun w => d.maxSize < w.bufferLength
    | w => d.maxSize < w.bufferLength

namespace Connection

variable {σ : Type}

/-- Release a cursor that the caller will never see. -/
def releaseCursor (id : Nat) : Operation σ Connection Unit := do
  if id ≠ 0 then
    let _ ← (Operation.callFreely (.closeCursor id)).attempt

/-- Release the cursors among wire values. -/
def releaseWires : List WireValue → Operation σ Connection Unit
  | [] => pure ()
  | .cursor locator :: rest => do
    releaseCursor locator.id
    releaseWires rest
  | _ :: rest => releaseWires rest

/-- Close what output binds have opened. -/
def releaseOutBinds : List OutBind → Operation σ Connection Unit
  | [] => pure ()
  | b :: rest => do
    match b.value with
    | .lob lob =>
      let _ ← Operation.on lob Lob.close
    | .resultSet rs =>
      let _ ← Operation.on rs ResultSet.close
    | .value _ => pure ()
    releaseOutBinds rest

/-- A plain value of a bind that became a large object; it has to fit the size that
was declared. -/
def promotedValue (d : Descriptor) (v : Value) : Operation σ Connection OutValue :=
  if d.maxSize < v.bindLength then Operation.fail .outBufferTooSmall else pure (.value v)

/-- The value of one output bind. -/
def decodeOutBind (d : Descriptor) (w : WireValue) (o : ExecuteOptions) :
    Operation σ Connection OutValue := do
  if d.overflows w then Operation.fail .outBufferTooSmall
  else
    match ← Operation.ofFallible (d.dbType.decode o.convert w) with
    | .cursor locator => return .resultSet (← openCursor locator o)
    | .lob locator =>
      if d.promotedFrom.isSome then
        promotedValue d (← readWhole (← ownGuards) .connectionClosed locator)
      else return .lob (← openLob locator)
    | v => if d.promotedFrom.isSome then promotedValue d v else pure (.value v)

/-- The values of output binds behind those decoded already. -/
def decodeEach (o : ExecuteOptions) (decoded : List OutBind) :
    List (Descriptor × WireValue) → Operation σ Connection (List OutBind)
  | [] => pure decoded
  | (d, w) :: rest => do
    match ← (decodeOutBind d w o).attempt with
    | .ok v => decodeEach o (decoded ++ [⟨d.slot, d.placeholder, v⟩]) rest
    | .error e =>
      releaseOutBinds decoded
      releaseWires (rest.map (·.2))
      Operation.fail e

/-- The values of the output binds of one execution. -/
def decodeOutBinds (outputs : List Descriptor) (wires : List WireValue) (o : ExecuteOptions) :
    Operation σ Connection (List OutBind) := do
  if wires.length ≠ outputs.length then
    releaseWires wires
    Operation.fail (.protocol
      ("expected " ++ toString outputs.length ++ " OUT binds, session returned " ++
        toString wires.length))
  else decodeEach o [] (outputs.zip wires)

end Connection

end SqlBinder

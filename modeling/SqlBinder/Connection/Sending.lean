import SqlBinder.Connection.Handle
import SqlBinder.Lob.Writer

/-!
Binds on their way out. Whatever needs no round trip is encoded first; then the content of large
object binds is written to temporary objects, one by one, and their locators take its place.

So a value that cannot be encoded is found before any call is made. A temporary object that cannot
be filled is given back along with those made before it, and the statement is not sent. A batch
makes no temporary objects; content for a large object is refused there by the encoder.
-/
namespace SqlBinder

open Binding

/-- Text or bytes that a bind carries into a large object. Content of the other kind
is left to be refused by the encoder. -/
def Binding.Descriptor.lobContent? (d : Descriptor) : Option LobData :=
  match LobKind.ofDbType? d.dbType, d.value with
  | some kind, some v =>
    if !d.direction.isInput || d.dbType.sendsNull v then none
    else
      match kind, v with
      | .clob, .string s => some (.text s)
      | .blob, .bytes b => some (.bytes b)
      | _, _ => none
  | _, _ => none

/-- The wire value of a bind that is sent as it is. -/
def Binding.Descriptor.encode (d : Descriptor) (o : ConvertOptions) : Except Error WireValue :=
  if d.direction.isInput then d.dbType.encode? o d.value else pure .null

/-- A bind that is ready, or content that has to be written first. Content is never sent with a
statement; an object is made for it and the locator is sent. -/
inductive PendingBind where
  | ready (d : Descriptor) (w : WireValue)
  | content (d : Descriptor) (data : LobData)

/-- What is left to do for a bind. -/
def PendingBind.ofDescriptor (o : ConvertOptions) (d : Descriptor) : Except Error PendingBind :=
  match d.lobContent? with
  | some data => pure (.content d data)
  | none => return .ready d (← d.encode o)

/-- The output binds among descriptors. -/
def Binding.outputs (ds : List Descriptor) : List Descriptor := ds.filter (·.direction.isOutput)

/-- One bind as a batch sends it: nothing is written to large objects. -/
def Binding.Descriptor.bound (o : ConvertOptions) (d : Descriptor) : Except Error BoundValue :=
  return ⟨d, ← d.encode o⟩

/-- The binds of one execution of a batch. -/
def Binding.boundRow (info : Statement.Info) (o : ExecuteOptions) (binds : Binds) :
    Except Error (List BoundValue) := do
  (← resolve info binds o.bind).mapM (Descriptor.bound o.convert)

namespace Connection

variable {σ : Type}

/-- Write content to an object and make it visible. -/
def fill (data : LobData) : Operation σ Lob Unit := do
  let (result, writer) ← Operation.on (← LobWriter.start) do
    LobWriter.write data
    LobWriter.finish
  Operation.modify fun _ => writer.lob
  Operation.ofExcept result

/-- Give an object back unless its handle is closed. -/
def discard (lob : Lob) : Operation σ Connection Unit := do
  if !lob.isClosed (← Operation.signals) then
    let _ ← Operation.on lob Lob.close

/-- A temporary object with content. If it cannot be written it is given back. -/
def fillTemporary (data : LobData) (o : ExecuteOptions) : Operation σ Connection Lob := do
  let locator ← roundTrip o.callTimeout (.createLob data.kind)
  let lob ← Lob.create locator.temporary (← Operation.get).closed
  let (result, lob) ← Operation.on lob (fill data)
  match result with
  | .ok _ => pure lob
  | .error e =>
    discard lob
    Operation.fail e

/-- Give temporary objects back; failures do not matter any more. -/
def releaseLobs : List Lob → Operation σ Connection Unit
  | [] => pure ()
  | lob :: rest => do
    let _ ← Operation.on lob Lob.close
    releaseLobs rest

/-- All binds ready to be sent, and the temporary objects behind them. If one fails
the objects so far are given back. -/
def bindAll (o : ExecuteOptions) (lobs : List Lob) :
    List PendingBind → Operation σ Connection (List BoundValue × List Lob)
  | [] => pure ([], lobs)
  | .ready d w :: rest => do
    let (bound, lobs) ← bindAll o lobs rest
    return (⟨d, w⟩ :: bound, lobs)
  | .content d data :: rest => do
    match ← (fillTemporary data o).attempt with
    | .ok lob =>
      let (bound, lobs) ← bindAll o (lobs ++ [lob]) rest
      return (⟨d, .lob lob.locator⟩ :: bound, lobs)
    | .error e =>
      releaseLobs lobs
      Operation.fail e

end Connection

end SqlBinder

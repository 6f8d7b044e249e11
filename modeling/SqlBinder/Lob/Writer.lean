import SqlBinder.Lob.Handle

/-!
Writing a large object from its beginning. Data is collected to pieces and sent piece by piece;
nothing is visible before the writer is finished. A round trip that fails closes the object. Its
error comes from the write that met it and once more from finishing.

Whatever is written in one go or in many, the pieces are the same: each write sends all full pieces
and keeps the rest, which is shorter than a piece, and only finishing sends one that is not full.
-/
namespace SqlBinder

/-- A writer on a handle that it owns while it writes: what was sent, what is left to send, and the
failure that ended it. -/
structure LobWriter where
  lob : Lob
  /-- Next offset to write, from 1. -/
  offset : Nat
  /-- Data not sent yet, shorter than a piece between writes. -/
  buffer : LobData
  sentAny : Bool
  /-- Empty data was written. -/
  explicitEmpty : Bool
  failure : Option Error
  deriving DecidableEq, Repr

namespace LobWriter

variable {σ : Type}

/-- A writer at the beginning of the object, with nothing to send. -/
def make (lob : Lob) : LobWriter := ⟨lob, 1, LobData.empty lob.kind, false, false, none⟩

/-- Begin writing. What another writer has sent and not committed is not looked at. -/
def start : Operation σ Lob LobWriter := do
  let _ ← Lob.open?
  return make (← Operation.get)

/-- An operation on the handle of the writer, with its failure. -/
def onLob (t : Operation σ Lob α) : Operation σ LobWriter α := do
  let (result, lob) ← Operation.on (← Operation.get).lob t
  Operation.modify fun w => { w with lob := lob }
  Operation.ofExcept result

/-- Send one piece to where the writer stands. A failure closes the handle and ends the writer; the
length is not known any more if the piece was taken. -/
def send (piece : LobData) : Operation σ LobWriter Unit := do
  let w ← Operation.get
  match ← (onLob (Lob.roundTrip (.writeLob w.lob.locator w.offset piece))).attempt with
  | .ok _ =>
    Operation.modify fun w => { w with offset := w.offset + piece.size, sentAny := true }
    onLob (Lob.movePosition fun p => { p with length := none })
  | .error e =>
    onLob Lob.invalidate
    Operation.modify fun w => { w with failure := some e }
    Operation.fail e

/-- Send the first pieces of the buffer, of `size` units each. -/
def sendPieces (size : Nat) : Nat → Operation σ LobWriter Unit
  | 0 => pure ()
  | count + 1 => do
    let piece := (← Operation.get).buffer.take size
    Operation.modify fun w => { w with buffer := w.buffer.drop size }
    send piece
    sendPieces size count

/-- Content of the other kind, which no writer takes. -/
def wrongKind (data : LobData) (kind : LobKind) : Error :=
  .conversion ("cannot write " ++ data.kind.inspected ++ " data to a " ++ kind.inspected)

/-- Add data, sending every full piece. -/
def write (data : LobData) : Operation σ LobWriter Unit := do
  let w ← Operation.get
  if w.failure.isSome then Operation.fail .invalidLob
  else if data.kind ≠ w.lob.kind then Operation.fail (wrongKind data w.lob.kind)
  else
    let _ ← onLob Lob.open?
    if data.isEmpty then Operation.modify fun w => { w with explicitEmpty := true }
    else
      let buffer := w.buffer.append data
      Operation.modify fun w => { w with buffer := buffer }
      sendPieces w.lob.transferSize (buffer.size / w.lob.transferSize)

/-- Send what is left. Empty data alone is sent as an empty piece. -/
def flush : Operation σ LobWriter Unit := do
  let w ← Operation.get
  if !w.buffer.isEmpty then
    Operation.modify fun w => { w with buffer := LobData.empty w.lob.kind }
    send w.buffer
  else if w.explicitEmpty && !w.sentAny then send (LobData.empty w.lob.kind)
  else pure ()

/-- Make all that was sent visible. -/
def commit : Operation σ LobWriter Unit := do
  let w ← Operation.get
  onLob (Lob.closingOnFailure (Lob.roundTrip (.commitLob w.lob.locator)))

/-- Send what is left and make all of it visible. Empty data alone leaves the object
allocated and empty. -/
def finish : Operation σ LobWriter Unit := do
  match (← Operation.get).failure with
  | some e => Operation.fail e
  | none => do
    flush
    commit

end LobWriter

end SqlBinder

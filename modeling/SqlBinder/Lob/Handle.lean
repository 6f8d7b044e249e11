import SqlBinder.Lob.Data
import SqlBinder.Session.Operation
import SqlBinder.Text.Inspected
import SqlBinder.Inspect

/-!
Large objects as handles. Reading moves forward one piece for each round trip and stops for good at
the first empty piece. A handle is closed by a call of `close`, by a failure while content moves, by
its own signal or by its connection's; then every operation on it fails.

What a handle knows is changed only behind a successful answer and a second look at the signals. So
an answer that comes too late leaves no trace, even if it is there.
-/
namespace SqlBinder

/-- Where an open handle stands. A handle without a position is closed. -/
structure LobPosition where
  /-- Next offset to read, from 1. -/
  readOffset : Nat
  /-- The end was read. -/
  exhausted : Bool
  /-- Length, as long as it is known. -/
  length : Option Nat
  deriving DecidableEq, Repr

/-- A handle on an object: where it stands, how much it moves at once, and the signals that guard
it. -/
structure Lob where
  locator : LobLocator
  /-- Units of one round trip; 0 stands for the chunk size. -/
  pieceSize : Nat
  /-- None once closed. -/
  position : Option LobPosition
  guards : Guards
  deriving DecidableEq, Repr

/-- The largest piece size that can be set: what 32 bits count. -/
def maxPieceSize : Nat := 4294967295

namespace Lob

variable {σ η α : Type}

/-- A handle at the beginning of the object. The length is known from the locator. -/
def make (locator : LobLocator) (own connection : Signal) : Lob :=
  ⟨locator, locator.chunkSize, some ⟨1, false, some locator.size⟩, ⟨own, connection⟩⟩

/-- A handle with a signal of its own. -/
def create (locator : LobLocator) (connection : Signal) : Operation σ η Lob :=
  return make locator (← Operation.fresh) connection

/-- The kind of content, from the locator. -/
def kind (lob : Lob) : LobKind := lob.locator.kind

/-- The unit of transfer that was agreed with the server, from the locator. -/
def chunkSize (lob : Lob) : Nat := lob.locator.chunkSize

/-- Closed by itself, by its own signal or by that of its connection. -/
def isClosed (lob : Lob) (s : Signals) : Bool :=
  lob.position.isNone || s.isFired lob.guards.own || s.isFired lob.guards.connection

/-- Units of one round trip; at least one. -/
def transferSize (lob : Lob) : Nat :=
  max (if lob.pieceSize = 0 then lob.chunkSize else lob.pieceSize) 1

/-- The piece size that a value stands for: an integral number from 0 on. -/
def pieceSizeOf? : Value → Option Nat
  | .integer n => inRange n.toInt
  | .float x => x.toInt?.bind inRange
  | _ => none
where
  inRange (n : Int) : Option Nat :=
    if 0 ≤ n ∧ n ≤ maxPieceSize then some n.toNat else none

/-- Another piece size, if the value stands for one. Else the handle keeps the one it has. -/
def setPieceSize (lob : Lob) (v : Value) : Except Error Lob :=
  match pieceSizeOf? v with
  | some size => pure { lob with pieceSize := size }
  | none => throw (.invalidProperty "pieceSize")

/-- Where the handle stands, if it is open. -/
def open? : Operation σ Lob LobPosition := do
  let lob ← Operation.get
  Operation.check lob.guards .lobClosed
  match lob.position with
  | some p => pure p
  | none => Operation.fail .lobClosed

/-- Change where the handle stands; nothing to change once it is closed. -/
def movePosition (f : LobPosition → LobPosition) : Operation σ Lob Unit :=
  Operation.modify fun lob => { lob with position := lob.position.map f }

/-- Close the handle behind a failure. -/
def invalidate : Operation σ Lob Unit := do
  let lob ← Operation.get
  if lob.position.isSome then
    Operation.modify fun lob => { lob with position := none }
    Operation.fire lob.guards.own

/-- One round trip, which any of the two signals ends. -/
def roundTrip (c : Call) : Operation σ Lob c.Reply := do
  Operation.guarded (← Operation.get).guards .lobClosed c

/-- An operation whose failure closes the handle. -/
def closingOnFailure (t : Operation σ Lob α) : Operation σ Lob α := do
  match ← t.attempt with
  | .ok a => pure a
  | .error e =>
    invalidate
    Operation.fail e

/-- The length of the object. It is asked for only if it is not known, and then kept. -/
def length : Operation σ Lob Nat := do
  match (← open?).length with
  | some n => pure n
  | none =>
    let n ← roundTrip (.measureLob (← Operation.get).locator)
    let _ ← open?
    movePosition fun p => { p with length := some n }
    pure n

/-- The next piece; none once the end is reached. -/
def readChunk : Operation σ Lob (Option LobData) := do
  let lob ← Operation.get
  let position ← open?
  if position.exhausted then pure none
  else
    let data ←
      closingOnFailure (roundTrip (.readLob lob.locator position.readOffset lob.transferSize))
    let _ ← open?
    if data.isEmpty then
      movePosition fun p => { p with exhausted := true }
      pure none
    else
      movePosition fun p => { p with readOffset := p.readOffset + data.size }
      pure (some data)

/-- The remaining pieces, ending with the first failure if there is one. -/
def chunks : Operation σ Lob (List (Except Error LobData)) :=
  Operation.loop (fun pieces => do
    match ← readChunk.attempt with
    | .ok (some data) => pure (.inl (pieces ++ [.ok data]))
    | .ok none => pure (.inr pieces)
    | .error e => pure (.inr (pieces ++ [.error e]))) []

/-- The whole content, wherever reading stands. -/
def getData : Operation σ Lob LobData := do
  let _ ← open?
  let lob ← Operation.get
  Operation.loop (fun (offset, data) => do
    let piece ← closingOnFailure (roundTrip (.readLob lob.locator offset lob.transferSize))
    if piece.isEmpty then pure (.inr data)
    else pure (.inl (offset + piece.size, data.append piece))) (1, LobData.empty lob.kind)

/-- Cut the content to a number of units. -/
def trim (size : Nat) : Operation σ Lob Unit := do
  let _ ← open?
  roundTrip (.trimLob (← Operation.get).locator size)
  let _ ← open?
  movePosition fun p => { p with length := none }

/-- Give the locator back. Closing twice fails. -/
def close : Operation σ Lob Unit := do
  let _ ← open?
  let lob ← Operation.get
  Operation.modify fun lob => { lob with position := none }
  Operation.fire lob.guards.own
  Operation.callFreely (.closeLob lob.locator)

/-- The handle as text for developers. -/
def inspected (lob : Lob) (s : Signals) : String :=
  Text.record "Lob"
    [("kind", lob.kind.inspected), ("chunk_size", toString lob.chunkSize),
      ("piece_size", toString lob.pieceSize), ("closed", Text.inspectedBool (lob.isClosed s))]

end Lob

end SqlBinder

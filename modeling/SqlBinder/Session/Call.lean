import SqlBinder.Binding.Spec
import SqlBinder.Statement.Info
import SqlBinder.Wire.Value

/-!
The calls a session answers. The session owns the transport and everything on the server; it is
handed binds that are resolved and encoded, and gives wire values back. Offsets into large objects
count from 1, in their units.

The type of a reply depends on the call, so that an answer of the wrong sort cannot be given. What
an answer says is another matter: nothing promises that it has as many rows, outputs or counts as
were asked for, or that a locator in it is a new one.
-/
namespace SqlBinder

/-- One bind as sent: what was settled about it, and its value in wire form. An output has the wire
value null. -/
structure BoundValue where
  descriptor : Binding.Descriptor
  wire : WireValue

/-- One execution of a statement, with all that the session needs for it. -/
structure ExecuteRequest where
  sql : String
  statement : Statement.Info
  /-- In placeholder order. -/
  binds : List BoundValue
  fetchSize : Nat
  prefetch : Nat
  autoCommit : Bool

/-- A batch: one list of binds for each execution. -/
structure BatchRequest where
  sql : String
  statement : Statement.Info
  rows : List (List BoundValue)
  autoCommit : Bool

/-- What an execution came to. A query has columns, and rows or a cursor for them; any other
statement has a count. -/
structure ExecuteResponse where
  rowsAffected : Nat := 0
  /-- One value for each output bind, in order. -/
  outBinds : List WireValue := []
  /-- The columns, if the statement is a query. -/
  columns : Option (List ColumnMetadata) := none
  rows : List (List WireValue) := []
  /-- The cursor of a query, else 0. -/
  cursorId : Nat := 0
  moreRows : Bool := false

/-- What the executions of a batch came to, one entry for each. Nothing promises that a list is as
long as the batch. -/
structure BatchResponse where
  /-- One count for each execution. -/
  rowsAffected : List Nat := []
  /-- Output values of each execution, if the statement has outputs. -/
  outBinds : List (List WireValue) := []

/-- More rows of a cursor. There may be more behind them even if there are none here. -/
structure FetchResponse where
  rows : List (List WireValue)
  moreRows : Bool

/-- The server's own view of a statement, for those who ask for it. Executing goes by the scan of
the text. -/
structure PrepareInfo where
  /-- The kind, if the server tells one. -/
  kind : Option Statement.Kind
  bindNames : List String
  deriving DecidableEq, Repr

/-- What an operation asks of the session. -/
inductive Call where
  | execute (request : ExecuteRequest)
  | executeMany (request : BatchRequest)
  | prepare (sql : String)
  | createLob (kind : LobKind)
  | readLob (locator : LobLocator) (offset amount : Nat)
  /-- The data stays pending until it is committed. -/
  | writeLob (locator : LobLocator) (offset : Nat) (data : LobData)
  | trimLob (locator : LobLocator) (size : Nat)
  | measureLob (locator : LobLocator)
  | commitLob (locator : LobLocator)
  /-- Pending data is discarded. -/
  | closeLob (locator : LobLocator)
  | fetch (cursorId rows : Nat)
  | closeCursor (cursorId : Nat)

/-- What a call gives back when it succeeds. -/
abbrev Call.Reply : Call → Type
  | .execute _ => ExecuteResponse
  | .executeMany _ => BatchResponse
  | .prepare _ => PrepareInfo
  | .createLob _ => LobLocator
  | .readLob _ _ _ => LobData
  | .writeLob _ _ _ => Unit
  | .trimLob _ _ => Unit
  | .measureLob _ => Nat
  | .commitLob _ => Unit
  | .closeLob _ => Unit
  | .fetch _ _ => FetchResponse
  | .closeCursor _ => Unit

end SqlBinder

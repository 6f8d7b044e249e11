import SqlBinder.Conversion
import SqlBinder.Lob.Handle
import SqlBinder.Row

/-!
Result sets over cursors of the server. Rows are held undecoded and decoded as they are handed out,
so that a row that cannot be decoded fails the fetch that would return it. A failed fetch closes the
result set and releases its cursor. Closed is for good.

Rows leave the buffer one by one, and only when they are decoded. A stream is the same with the end
kept beside it: it gives rows, then at most one failure, and then nothing.
-/
namespace SqlBinder

/-- A cursor that is held: the rows it has given and whether there are more. -/
structure OpenCursor where
  id : Nat
  columns : Columns
  /-- Rows not handed out yet. -/
  buffer : List (List WireValue)
  moreRows : Bool
  /-- Rows received so far. -/
  rowsFetched : Nat

/-- A result set, which holds its cursor until it is closed in any way. -/
structure ResultSet where
  /-- None once closed. -/
  cursor : Option OpenCursor
  guards : Guards
  convert : ConvertOptions
  /-- Rows for each fetch. -/
  fetchSize : Nat
  /-- Rows were asked for; streams are refused. -/
  fetched : Bool

/-- A large object column whose content is read in place. -/
def readsInline (t : DbType) (o : ConvertOptions) : Bool :=
  match t with
  | .clob | .nclob => o.asText t
  | .blob => o.asBytes t
  | _ => false

/-- The value of content, null if there is none. -/
def LobData.toValue : LobData → Value
  | .text s => DbType.ofText s
  | .bytes b => DbType.ofBytes b

/-- One piece more of the content, behind what was read from offset 1 on. -/
def readPiece (g : Guards) (closed : Error) (locator : LobLocator) (read : Nat × LobData) :
    Operation σ η ((Nat × LobData) ⊕ LobData) := do
  let piece ← Operation.guarded g closed (.readLob locator read.1 (max locator.chunkSize 1))
  if piece.isEmpty then pure (.inr read.2)
  else pure (.inl (read.1 + piece.size, read.2.append piece))

/-- The whole content of a large object as a plain value. A temporary one is given
back. -/
def readWhole (g : Guards) (closed : Error) (locator : LobLocator) : Operation σ η Value := do
  let data ← Operation.loop (readPiece g closed locator) (1, LobData.empty locator.kind)
  if locator.isTemporary then Operation.callFreely (.closeLob locator)
  return data.toValue

/-- The value of one column. The content of a large object is read in its place where the settings
ask for it. -/
def decodeColumn (g : Guards) (closed : Error) (o : ConvertOptions) (column : Column)
    (wire : WireValue) : Operation σ η Value := do
  match ← Operation.ofFallible (column.dbType.decode o wire) with
  | .lob locator =>
    if readsInline column.dbType o then readWhole g closed locator else pure (.lob locator)
  | v => pure v

/-- The values of columns from left to right, or the failure of the first that has one. Objects
behind that column are not read. -/
def decodeColumns (g : Guards) (closed : Error) (o : ConvertOptions) :
    List (Column × WireValue) → Operation σ η (List Value)
  | [] => pure []
  | (column, wire) :: rest => do
    let v ← decodeColumn g closed o column wire
    return v :: (← decodeColumns g closed o rest)

/-- The values of one row, which has to have one for each column. -/
def decodeRow (g : Guards) (closed : Error) (columns : Columns) (o : ConvertOptions)
    (wires : List WireValue) : Operation σ η (List Value) :=
  if wires.length ≠ columns.size then
    Operation.fail (.protocol ("row has " ++ toString wires.length ++ " values for " ++
      toString columns.size ++ " columns"))
  else decodeColumns g closed o (columns.all.zip wires)

namespace ResultSet

variable {σ η : Type}

/-- A new result set over a cursor with its first rows. -/
def create (cursorId : Nat) (columns : List ColumnMetadata) (rows : List (List WireValue))
    (moreRows : Bool) (fetchSize : Nat) (o : ConvertOptions) (connection : Signal) :
    Operation σ η ResultSet := do
  if cursorId = 0 then Operation.fail .invalidCursor
  else
    let columns ← Operation.ofExcept (Columns.ofMetadata columns)
    return ⟨some ⟨cursorId, columns, rows, moreRows, rows.length⟩,
      ⟨← Operation.fresh, connection⟩, o, max fetchSize 1, false⟩

/-- The cursor of a result set that is open. -/
def cursorOf (rs : ResultSet) (s : Signals) : Except Error OpenCursor := do
  rs.guards.check s .invalidResultSet
  match rs.cursor with
  | some c => pure c
  | none => throw .invalidResultSet

/-- The columns, as long as the result set is open. -/
def columns (rs : ResultSet) (s : Signals) : Except Error (List Column) :=
  (rs.cursorOf s).map (·.columns.all)

/-- The names of the columns, as long as the result set is open. -/
def columnNames (rs : ResultSet) (s : Signals) : Except Error (List String) :=
  (rs.cursorOf s).map (·.columns.names)

/-- The number of the cursor, as long as the result set is open. -/
def cursorId (rs : ResultSet) (s : Signals) : Except Error Nat := (rs.cursorOf s).map (·.id)

/-- Rows received so far; 0 once closed. -/
def rowCount (rs : ResultSet) : Nat := (rs.cursor.map (·.rowsFetched)).getD 0

/-- Closed by itself, by its own signal or by that of its connection. -/
def isClosed (rs : ResultSet) (s : Signals) : Bool :=
  rs.cursor.isNone || s.isFired rs.guards.own || s.isFired rs.guards.connection

/-- Other rows for each fetch, at least one. Results stay the same. -/
def setFetchSize (rs : ResultSet) (size : Nat) : ResultSet := { rs with fetchSize := max size 1 }

/-- The cursor, if the result set is open; else the failure that tells why it is not. -/
def open? : Operation σ ResultSet OpenCursor := do
  Operation.ofExcept ((← Operation.get).cursorOf (← Operation.signals))

/-- Change what is known of the cursor; nothing to change once it is closed. -/
def moveCursor (f : OpenCursor → OpenCursor) : Operation σ ResultSet Unit :=
  Operation.modify fun rs => { rs with cursor := rs.cursor.map f }

/-- Close the result set and release its cursor if it is still held. Nothing is sent
when the connection is gone. -/
def release : Operation σ ResultSet Unit := do
  let rs ← Operation.get
  Operation.modify fun rs => { rs with cursor := none }
  Operation.fire rs.guards.own
  match rs.cursor with
  | none => pure ()
  | some c =>
    if (← Operation.signals).isFired rs.guards.connection then pure ()
    else Operation.callFreely (.closeCursor c.id)

/-- One round trip for more rows. -/
def fetch : Operation σ ResultSet Unit := do
  let rs ← Operation.get
  let response ← Operation.guarded rs.guards .invalidResultSet (.fetch (← open?).id rs.fetchSize)
  let _ ← open?
  moveCursor fun c =>
    { c with
      rowsFetched := c.rowsFetched + response.rows.length
      buffer := c.buffer ++ response.rows
      moreRows := response.moreRows }

/-- The next row; none when no rows are left. -/
def readRow : Operation σ ResultSet (Option Row) := do
  let cursor ← open?
  if cursor.buffer.isEmpty && cursor.moreRows then fetch
  let cursor ← open?
  match cursor.buffer with
  | [] => pure none
  | wires :: rest =>
    moveCursor fun c => { c with buffer := rest }
    let rs ← Operation.get
    let values ← decodeRow rs.guards .invalidResultSet cursor.columns rs.convert wires
    return some ⟨values, cursor.columns⟩

/-- The next row. Any failure closes the result set. -/
def nextRow : Operation σ ResultSet (Option Row) := do
  match ← readRow.attempt with
  | .ok row => pure row
  | .error e =>
    let _ ← release.attempt
    Operation.fail e

/-- Streams are refused from here on. -/
def markFetched : Operation σ ResultSet Unit :=
  Operation.modify fun rs => { rs with fetched := true }

/-- One row; none when no rows are left. -/
def getRow : Operation σ ResultSet (Option Row) := do
  markFetched
  nextRow

/-- At most `limit` rows; 0 is every row that is left. -/
def getRows (limit : Nat) : Operation σ ResultSet (List Row) := do
  markFetched
  Operation.loop (fun rows => do
    if limit ≠ 0 ∧ limit ≤ rows.length then pure (.inr rows)
    else
      match ← nextRow with
      | some row => pure (.inl (rows ++ [row]))
      | none => pure (.inr rows)) []

/-- Close the cursor. Closing twice fails. -/
def close : Operation σ ResultSet Unit := do
  let cursor ← open?
  let rs ← Operation.get
  Operation.modify fun rs => { rs with cursor := none }
  Operation.fire rs.guards.own
  Operation.callFreely (.closeCursor cursor.id)

/-- A cursor found in a column, as a result set of its own. -/
def openNested (locator : CursorLocator) : Operation σ ResultSet ResultSet := do
  let _ ← open?
  let rs ← Operation.get
  create locator.id locator.columns [] true rs.fetchSize rs.convert rs.guards.connection

/-- A large object found in a column. -/
def openLob (locator : LobLocator) : Operation σ ResultSet Lob := do
  let _ ← open?
  Lob.create locator (← Operation.get).guards.connection

/-- The result set as text for developers. -/
def inspected (rs : ResultSet) (s : Signals) : String :=
  Text.record "ResultSet"
    [("closed", Text.inspectedBool (rs.isClosed s)), ("fetch_array_size", toString rs.fetchSize),
      ("row_count", toString rs.rowCount)]

end ResultSet

/-- The rows of a result set one by one. It ends behind the last row, or behind the
first failure; either way the cursor has been released. -/
structure RowStream where
  resultSet : ResultSet
  ended : Bool

namespace RowStream

variable {σ : Type}

/-- The stream of an open result set from which no rows were asked for. -/
def ofResultSet (rs : ResultSet) (s : Signals) : Except Error RowStream := do
  let _ ← rs.cursorOf s
  if rs.fetched then throw .streamAfterFetch
  return ⟨rs, false⟩

/-- An operation on the result set of the stream. A failure is its result. -/
def onResultSet (t : Operation σ ResultSet α) : Operation σ RowStream (Except Error α) := do
  let (result, rs) ← Operation.on (← Operation.get).resultSet t
  Operation.modify fun st => { st with resultSet := rs }
  return result

/-- Mark the end. Behind it nothing is asked for any more. -/
def finish : Operation σ RowStream Unit := Operation.modify fun st => { st with ended := true }

/-- The next row or failure; none behind the end. -/
def next : Operation σ RowStream (Option (Except Error Row)) := do
  if (← Operation.get).ended then pure none
  else
    match ← onResultSet ResultSet.nextRow with
    | .ok (some row) => pure (some (.ok row))
    | .ok none =>
      finish
      match ← onResultSet ResultSet.release with
      | .ok _ => pure none
      | .error e => pure (some (.error e))
    | .error e =>
      finish
      pure (some (.error e))

/-- The next rows and failures, `limit` at most if there is one. -/
def collect (limit : Option Nat) : Operation σ RowStream (List (Except Error Row)) :=
  Operation.loop (fun rows => do
    if limit = some rows.length then pure (.inr rows)
    else
      match ← next with
      | some row => pure (.inl (rows ++ [row]))
      | none => pure (.inr rows)) []

end RowStream

end SqlBinder

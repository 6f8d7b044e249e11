import SqlBinder.Connection.Sending
import SqlBinder.Connection.Output

/-!
Executions from text to result: scan, resolve, encode, send, decode. Nothing is sent before every
bind is known to be right.

The server may hand out cursors and large objects with its response. From then on they are the
caller's if the execution succeeds, and have to be given back if it fails. So each part that may
fail behind the response is wrapped in what gives back the things that nobody else holds at that
point: `releasing` for output binds, `releasingCursor` for the cursor of the query. None of these is
reached where decoding breaks off, since that is no failure and nothing is done behind it.
-/
namespace SqlBinder.Connection

open Binding

variable {σ : Type}

/-! ## Rows -/

/-- Decode rows until there are `limit` of them, if there is a limit. -/
def decodeRows (g : Guards) (columns : Columns) (o : ExecuteOptions) (rows : List Row) :
    List (List WireValue) → Operation σ Connection (List Row)
  | [] => pure rows
  | wires :: rest =>
    if o.maxRows ≠ 0 ∧ o.maxRows ≤ rows.length then pure rows
    else do
      let values ← decodeRow g .connectionClosed columns o.convert wires
      decodeRows g columns o (rows ++ [⟨values, columns⟩]) rest

/-- Decode the rows at hand. Ask for more if there are more and the limit is not reached. -/
def fetchRound (g : Guards) (columns : Columns) (cursorId : Nat) (o : ExecuteOptions) :
    List Row × List (List WireValue) × Bool →
      Operation σ Connection ((List Row × List (List WireValue) × Bool) ⊕ List Row)
  | (rows, wires, moreRows) => do
    let rows ← decodeRows g columns o rows wires
    if !moreRows || (o.maxRows ≠ 0 ∧ o.maxRows ≤ rows.length) || cursorId = 0 then
      pure (.inr rows)
    else
      let response ← roundTrip o.callTimeout (.fetch cursorId o.fetchSize)
      pure (.inl (rows, response.rows, response.moreRows))

/-- The first rows and those fetched behind them, up to the limit. -/
def fetchRows (columns : Columns) (cursorId : Nat) (first : List (List WireValue))
    (moreRows : Bool) (o : ExecuteOptions) : Operation σ Connection (List Row) := do
  Operation.loop (fetchRound (← ownGuards) columns cursorId o) ([], first, moreRows)

/-- All rows of a query up to the limit. The cursor is closed either way. -/
def fetchAll (columns : Columns) (cursorId : Nat) (first : List (List WireValue))
    (moreRows : Bool) (o : ExecuteOptions) : Operation σ Connection (List Row) := do
  match ← (fetchRows columns cursorId first moreRows o).attempt with
  | .ok rows =>
    if cursorId ≠ 0 then Operation.callFreely (.closeCursor cursorId)
    return rows
  | .error e =>
    releaseCursor cursorId
    Operation.fail e

/-! ## Single executions -/

/-- The operation; if it fails, output binds are released. -/
def releasing (outBinds : List OutBind) (t : Operation σ Connection α) :
    Operation σ Connection α := do
  match ← t.attempt with
  | .ok a => pure a
  | .error e =>
    releaseOutBinds outBinds
    Operation.fail e

/-- The operation; if it fails, a cursor is released. -/
def releasingCursor (id : Nat) (t : Operation σ Connection α) : Operation σ Connection α := do
  match ← t.attempt with
  | .ok a => pure a
  | .error e =>
    releaseCursor id
    Operation.fail e

/-- What the response to a query comes to, behind its output binds. -/
def receiveRows (outBinds : List OutBind) (described : List ColumnMetadata)
    (response : ExecuteResponse) (o : ExecuteOptions) : Operation σ Connection ExecuteResult := do
  let cursorId := response.cursorId
  let columns ← releasingCursor cursorId (Operation.ofExcept (Columns.ofMetadata described))
  if o.asResultSet then
    let rs ← ResultSet.create cursorId described response.rows response.moreRows o.fetchSize
      o.convert (← Operation.get).closed
    return ⟨response.rowsAffected, outBinds, some columns, none, some rs⟩
  else
    let rows ← fetchAll columns cursorId response.rows response.moreRows o
    return ⟨response.rowsAffected, outBinds, some columns, some rows, none⟩

/-- What the response to an execution comes to. -/
def receive (outputs : List Descriptor) (response : ExecuteResponse) (o : ExecuteOptions) :
    Operation σ Connection ExecuteResult := do
  let outBinds ←
    releasingCursor response.cursorId (decodeOutBinds outputs response.outBinds o)
  match response.columns with
  | none => return ⟨response.rowsAffected, outBinds, none, none, none⟩
  | some described => releasing outBinds (receiveRows outBinds described response o)

/-- Send a statement with binds that are known to be right. Objects made for their content
are given back once it was executed. -/
def transmit (sql : String) (info : Statement.Info) (pending : List PendingBind)
    (o : ExecuteOptions) : Operation σ Connection ExecuteResponse := do
  let (bound, lobs) ← bindAll o [] pending
  let sent ← (roundTrip o.callTimeout
    (.execute ⟨sql, info, bound, o.fetchSize, o.prefetch, o.autoCommit⟩)).attempt
  releaseLobs lobs
  Operation.ofExcept sent

/-- Send a statement with its binds. What comes back are its output binds and the response
to it. -/
def send (sql : String) (binds : Binds) (o : ExecuteOptions) :
    Operation σ Connection (List Descriptor × ExecuteResponse) := do
  checkOpen
  let info ← scan sql
  let descriptors ← Operation.ofExcept (resolve info binds o.bind)
  let pending ← Operation.ofExcept (descriptors.mapM (PendingBind.ofDescriptor o.convert))
  return (outputs descriptors, ← transmit sql info pending o)

/-- One execution from its text to what it came to. Everything behind the response is done with the
response alone; nothing is executed twice. -/
def execute (sql : String) (binds : Binds) (o : ExecuteOptions) :
    Operation σ Connection ExecuteResult := do
  let (outputs, response) ← send sql binds o
  receive outputs response o

/-- Execute with the defaults of the connection and hand out the rows. -/
def query (sql : String) (binds : Binds) : Operation σ Connection (List Row) := do
  let o := (← Operation.get).options.defaults
  let result ← execute sql binds { o with asResultSet := false }
  return result.rows.getD []

/-! ## Batches -/

/-- Output binds of the executions of a batch behind those decoded already. -/
def decodeBatch (o : ExecuteOptions) (decoded : List (List OutBind)) :
    List (List Descriptor × List WireValue) → Operation σ Connection (List (List OutBind))
  | [] => pure decoded
  | (outputs, wires) :: rest => do
    match ← (decodeOutBinds outputs wires o).attempt with
    | .ok row => decodeBatch o (decoded ++ [row]) rest
    | .error e =>
      releaseOutBinds decoded.flatten
      Operation.fail e

/-- What the response to a batch comes to, for the output binds of its executions. -/
def receiveBatch (outs : List (List Descriptor)) (response : BatchResponse) (o : ExecuteOptions) :
    Operation σ Connection BatchResult := do
  let expected := if outs.any (!·.isEmpty) then outs.length else 0
  if response.rowsAffected.length ≠ outs.length then
    Operation.fail (.protocol
      ("expected " ++ toString outs.length ++ " row counts, session returned " ++
        toString response.rowsAffected.length))
  else if response.outBinds.length ≠ expected then
    Operation.fail (.protocol
      ("expected OUT binds for " ++ toString expected ++ " rows, session returned " ++
        toString response.outBinds.length))
  else
    return ⟨response.rowsAffected, ← decodeBatch o [] (outs.zip response.outBinds)⟩

/-- Send a batch. What comes back are the output binds of its executions and the response
to it. -/
def sendBatch (sql : String) (rows : List Binds) (o : ExecuteOptions) :
    Operation σ Connection (List (List Descriptor) × BatchResponse) := do
  checkOpen
  let info ← scan sql
  let bound ← Operation.ofExcept (rows.mapM (boundRow info o))
  let response ← roundTrip o.callTimeout (.executeMany ⟨sql, info, bound, o.autoCommit⟩)
  return (bound.map fun row => outputs (row.map (·.descriptor)), response)

/-- Execute once for each list of binds, all in one call. -/
def executeMany (sql : String) (rows : List Binds) (o : ExecuteOptions) :
    Operation σ Connection BatchResult := do
  let (outs, response) ← sendBatch sql rows o
  receiveBatch outs response o

end SqlBinder.Connection

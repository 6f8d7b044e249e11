import SqlBinder.Connection.Result

/-!
What the user of one connection may ask for, and what comes back. Handles are numbered from 1 in the
order they are handed out.

Requests name everything by value: texts, settings, numbers of handles. So a list of requests is a
whole program of a user, and two runs of it over different sessions or settings can be compared
request by request.
-/
namespace SqlBinder.Client

open Binding

/-- Which signal an interruption fires. -/
inductive Interruption where
  /-- The handle's own. -/
  | own
  /-- The connection's; the connection is closed. -/
  | connection
  deriving DecidableEq, Repr

/-- What may be asked of the connection. -/
inductive ConnectionRequest where
  /-- Execute; then look names up, take the output binds of names, and show the
  result as text. -/
  | execute (sql : String) (binds : Binds) (options : ExecuteOptions)
      (lookup take : Option (List String)) (inspect : Bool)
  | query (sql : String) (binds : Binds)
  | executeMany (sql : String) (rows : List Binds) (options : ExecuteOptions) (inspect : Bool)
  | statementInfo (sql : String)
  | resolveBinds (sql : String) (binds : Binds) (options : ExecuteOptions)
  | createLob (kind : LobKind)
  | openLob (locator : LobLocator)
  | openCursor (locator : CursorLocator) (options : ExecuteOptions)
  | info (sqls : List String)
  | close

/-- A part of what a writer is given. -/
inductive WritePart where
  | data (d : LobData)
  | interruption (who : Interruption)
  deriving DecidableEq, Repr

/-- What may be asked of a large object. Writing is one request with all its parts, as a writer has
the handle until it is finished or dropped. -/
inductive LobRequest where
  | info
  | setPieceSize (v : Value)
  | cancel
  | readChunk
  | chunks
  | getData
  | length
  | trim (size : Nat)
  | close
  | write (parts : List WritePart) (finish : Bool)

/-- What may be asked of a result set. Cursors and objects found in its rows are opened through it.
-/
inductive ResultSetRequest where
  | info
  | setFetchSize (size : Nat)
  | cancel
  | getRow (names : List String)
  | getRows (limit : Nat)
  | close
  | openNested (locator : CursorLocator)
  | openLob (locator : LobLocator)
  | stream (limit : Option Nat)

/-- One request. A handle is named by its number; an operation on it may be interrupted while it
waits. -/
inductive Request where
  | connection (r : ConnectionRequest)
  | lob (handle : Nat) (r : LobRequest) (interruption : Option Interruption)
  | resultSet (handle : Nat) (r : ResultSetRequest) (interruption : Option Interruption)

/-- A large object that was handed out, by its number, and the locator it came with. -/
structure NewLob where
  handle : Nat
  locator : LobLocator

/-- A result set that was handed out, by its number, and its cursor, if it is still open. -/
structure NewResultSet where
  handle : Nat
  cursorId : Except Error Nat

/-- An output value as it is handed over: a plain one as it is, a handle by its number. -/
inductive NewValue where
  | value (v : Value)
  | lob (l : NewLob)
  | resultSet (r : NewResultSet)

/-- An output bind as it is handed over, with its slot and the recorded name of its placeholder. -/
structure NewBind where
  slot : Slot
  placeholder : String
  value : NewValue

/-- What an execution came to. Lookups and texts are there if the request asked for them; binds that
were taken out are no longer among the output binds. -/
structure ExecuteReply where
  rowsAffected : Nat
  outBinds : List NewBind
  columns : Option Columns
  rows : Option (List Row)
  resultSet : Option NewResultSet
  lookup : Option (List (Bool × Option Value))
  taken : Option (List (Option NewValue))
  inspected : Option String

/-- What a batch came to, with one count and one list of output binds for each execution. -/
structure BatchReply where
  rowsAffected : List Nat
  outBinds : List (List NewBind)
  inspected : Option String

/-- What can be seen of a connection from outside, and which of some texts it keeps a scan of. -/
structure ConnectionInfo where
  closed : Bool
  cacheSize : Nat
  cacheLimit : Nat
  cached : List Bool
  inspected : String

/-- What can be seen of an object without a call: the handle itself, and whether it is closed or was
cancelled. -/
structure LobInfo where
  lob : Lob
  closed : Bool
  cancelled : Bool
  inspected : String

/-- What can be seen of a result set without a call. A closed one has no cursor and no columns to
show. -/
structure ResultSetInfo where
  resultSet : ResultSet
  cursorId : Except Error Nat
  columns : Except Error (List Column)
  names : Except Error (List String)
  closed : Bool
  cancelled : Bool
  inspected : String

/-- What became of a part that a writer was given. One that fails does not keep the others from
being given. -/
inductive PartReply where
  | written (r : Except Error Unit)
  | interrupted

/-- What comes back for a request that did not fail. Handles are told by number and shown as they
are. -/
inductive Reply where
  | ok
  | yes
  | number (n : Nat)
  | rows (rows : List Row)
  | executed (r : ExecuteReply)
  | batch (r : BatchReply)
  | statement (info : Statement.Info)
  | descriptors (ds : List Descriptor)
  | newLob (l : NewLob)
  | newResultSet (r : NewResultSet)
  | connectionInfo (i : ConnectionInfo)
  | lobInfo (i : LobInfo)
  | resultSetInfo (i : ResultSetInfo)
  | pieceSize (r : Except Error Unit) (size : Nat)
  | piece (d : Option LobData)
  | pieces (ds : List (Except Error LobData))
  | content (d : LobData)
  | written (parts : List PartReply) (finish : Option (Except Error Unit))
  | row (r : Option (Row × List (Except Error Value)))
  | streamed (rows : List (Except Error Row)) (cancelled : Bool)

end SqlBinder.Client

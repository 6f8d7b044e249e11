import SqlBinder.Binding.Resolve
import SqlBinder.Connection.Result
import SqlBinder.Statement.Cache

/-!
Connections. A connection keeps the scans of its statements and the signal that ends every handle it
has given out.

Each of its round trips looks whether the connection is closed and is made within the time for
calls. Round trips of handles are no business of the connection any more: those are guarded by the
signals of the handle and of the connection, and by no time.
-/
namespace SqlBinder

/-- The state of an open or closed connection. Closing is a signal, so that handles given out before
need not be found to be closed. -/
structure Connection where
  cache : Statement.Cache
  options : ConnectionOptions
  /-- Fires when the connection closes. -/
  closed : Signal
  deriving DecidableEq, Repr

namespace Connection

variable {σ η : Type}

/-- A new connection with an empty cache and a signal of its own. -/
def create (options : ConnectionOptions) : Operation σ η Connection :=
  return ⟨.empty options.statementCacheSize, options, ← Operation.fresh⟩

/-- The signal has fired. Nothing opens the connection again. -/
def isClosed (c : Connection) (s : Signals) : Bool := s.isFired c.closed

/-- Fail if the connection is closed; every operation begins with that. -/
def checkOpen : Operation σ Connection Unit := do
  if (← Operation.get).isClosed (← Operation.signals) then Operation.fail .connectionClosed

/-- One round trip within the time for calls. -/
def roundTrip (limit : Option Span) (c : Call) : Operation σ Connection c.Reply := do
  checkOpen
  Operation.call c ⟨limit, []⟩

/-- The scan of a text, kept for later. -/
def scan (sql : String) : Operation σ Connection Statement.Info := do
  let found := (← Operation.get).cache.get sql
  Operation.modify fun c => { c with cache := found.2 }
  return found.1.info

/-- Guards of a handle that is the connection's alone. -/
def ownGuards : Operation σ Connection Guards := do
  return ⟨← Operation.fresh, (← Operation.get).closed⟩

/-- An empty large object for this session only. -/
def createLob (kind : LobKind) : Operation σ Connection Lob := do
  let c ← Operation.get
  let locator ← roundTrip c.options.defaults.callTimeout (.createLob kind)
  Lob.create locator.temporary c.closed

/-- The large object of a locator. -/
def openLob (locator : LobLocator) : Operation σ Connection Lob := do
  checkOpen
  Lob.create locator (← Operation.get).closed

/-- The result set of a cursor. -/
def openCursor (locator : CursorLocator) (o : ExecuteOptions) :
    Operation σ Connection ResultSet := do
  checkOpen
  ResultSet.create locator.id locator.columns [] true o.fetchSize o.convert
    (← Operation.get).closed

/-- Close the connection, and with it every handle it has given out. -/
def close : Operation σ Connection Unit := do
  Operation.fire (← Operation.get).closed

/-- Binds as they would be sent, without sending anything. -/
def resolveBinds (sql : String) (binds : Binding.Binds) (o : ExecuteOptions) :
    Operation σ Connection (List Binding.Descriptor) := do
  let info ← scan sql
  Operation.ofExcept (Binding.resolve info binds o.bind)

/-- What a text says, checked against what the server says. -/
def statementInfo (sql : String) : Operation σ Connection Statement.Info := do
  checkOpen
  let info ← scan sql
  let c ← Operation.get
  let server ← roundTrip c.options.defaults.callTimeout (.prepare sql)
  let kindDiffers := (server.kind.map (· != info.kind)).getD false
  if server.bindNames != info.bindNames || kindDiffers then
    Operation.fail (.protocol
      ("bind names " ++ Text.inspectedList (info.bindNames.map Text.quoted) ++
        " differ from server bind names " ++
        Text.inspectedList (server.bindNames.map Text.quoted)))
  else return info

/-- The connection as text for developers. -/
def inspected (c : Connection) (s : Signals) : String :=
  Text.record "Connection"
    [("closed", Text.inspectedBool (c.isClosed s)),
      ("cached_statements", toString c.cache.size)]

end Connection

end SqlBinder

import SqlBinder.Client.Request
import SqlBinder.Connection.Execute

/-!
The user of one connection, with the handles handed out so far. Requests are made
one after another; one that fails leaves an error in place of a reply. A request
for a handle that does not exist, or for a connection that was given up, has no
answer at all.
-/
namespace SqlBinder

/-- A handle in the hands of the user, who may keep it as long as it is not given up for a stream of
its rows. -/
inductive Held where
  | lob (lob : Lob)
  | resultSet (rs : ResultSet)
  /-- Given up for a stream. -/
  | spent

/-- The user of one connection: the connection, its signal, and every handle that was handed out. -/
structure Client where
  /-- None once given up. -/
  connection : Option Connection
  /-- The signal of the connection. -/
  closed : Signal
  /-- In the order they were handed out. -/
  held : List Held

namespace Client

variable {σ : Type}

/-- A user with a new connection and no handles yet. -/
def create (options : ConnectionOptions) : Operation σ Unit Client := do
  let c ← Connection.create options
  return ⟨some c, c.closed, []⟩

/-! ## Handing out -/

/-- Hand out a handle; its number. -/
def hold (h : Held) : Operation σ Client Nat := do
  let number := (← Operation.get).held.length + 1
  Operation.modify fun c => { c with held := c.held ++ [h] }
  return number

/-- Hand out an object, shown by its locator. -/
def holdLob (lob : Lob) : Operation σ Client NewLob :=
  return ⟨← hold (.lob lob), lob.locator⟩

/-- Hand out a result set, shown by the number of its cursor as long as it is open. -/
def holdResultSet (rs : ResultSet) : Operation σ Client NewResultSet := do
  let s ← Operation.signals
  return ⟨← hold (.resultSet rs), rs.cursorId s⟩

/-- Hand out an output value; only handles among them get a number. -/
def holdValue : OutValue → Operation σ Client NewValue
  | .value v => pure (.value v)
  | .lob lob => return .lob (← holdLob lob)
  | .resultSet rs => return .resultSet (← holdResultSet rs)

/-- Hand out output binds in their order, which is the order of the placeholders. -/
def holdBinds : List OutBind → Operation σ Client (List NewBind)
  | [] => pure []
  | b :: rest => do
    let v ← holdValue b.value
    return ⟨b.slot, b.placeholder, v⟩ :: (← holdBinds rest)

/-- Hand out the output binds of a batch, execution by execution. -/
def holdRows : List (List OutBind) → Operation σ Client (List (List NewBind))
  | [] => pure []
  | row :: rest => do
    let binds ← holdBinds row
    return binds :: (← holdRows rest)

/-- Take the output binds of names, one after another. -/
def takeAll : List String → ExecuteResult →
    Operation σ Client (List (Option NewValue) × ExecuteResult)
  | [], r => pure ([], r)
  | name :: rest, r => do
    let (value, r) := r.takeOutBind name
    let taken ←
      match value with
      | some v => some <$> holdValue v
      | none => pure none
    let (others, r) ← takeAll rest r
    return (taken :: others, r)

/-- Hand out what an execution came to. -/
def handOut (r : ExecuteResult) (lookup take : Option (List String)) (inspect : Bool) :
    Operation σ Client ExecuteReply := do
  let s ← Operation.signals
  let found := lookup.map fun names =>
    names.map fun name => ((r.outBind? name).isSome, r.outValue? name)
  let (taken, rest) ←
    match take with
    | some names => do
      let (taken, rest) ← takeAll names r
      pure (some taken, rest)
    | none => pure (none, r)
  let outBinds ← holdBinds rest.outBinds
  let resultSet ←
    match rest.resultSet with
    | some rs => some <$> holdResultSet rs
    | none => pure none
  return ⟨r.rowsAffected, outBinds, r.columns, r.rows, resultSet, found, taken,
    if inspect then some (r.inspected s) else none⟩

/-! ## Requests to the connection -/

/-- An operation on the connection, if it was not given up. The connection it leaves is kept whether
it failed or not. -/
def onConnection (t : Operation σ Connection α) : Operation σ Client (Option (Except Error α)) := do
  match (← Operation.get).connection with
  | none => pure none
  | some connection =>
    let (result, connection) ← Operation.on connection t
    Operation.modify fun c => { c with connection := some connection }
    return some result

/-- An operation on the connection, and what is handed out behind it. -/
def request (t : Operation σ Connection α) (f : α → Operation σ Client Reply) :
    Operation σ Client (Option (Except Error Reply)) := do
  match ← onConnection t with
  | none => pure none
  | some (.ok a) => return some (.ok (← f a))
  | some (.error e) => pure (some (.error e))

/-- What a look at the connection shows. Looking asks nothing of the session and moves no scan in
the cache. -/
def connectionInfo (c : Connection) (s : Signals) (sqls : List String) : ConnectionInfo :=
  ⟨c.isClosed s, c.cache.size, c.options.statementCacheSize, sqls.map c.cache.contains,
    c.inspected s⟩

/-- Give the connection up: its signal fires, and no request to it has an answer from then on. -/
def giveUp : Operation σ Client Unit := do
  Operation.fire (← Operation.get).closed
  Operation.modify fun c => { c with connection := none }

/-- A request to the connection: the operation it stands for, and what is handed out behind it. -/
def performConnection (r : ConnectionRequest) : Operation σ Client (Option (Except Error Reply)) :=
  match r with
  | .execute sql binds options lookup take inspect =>
    request (Connection.execute sql binds options) fun result =>
      Reply.executed <$> handOut result lookup take inspect
  | .query sql binds => request (Connection.query sql binds) fun rows => pure (.rows rows)
  | .executeMany sql rows options inspect =>
    request (Connection.executeMany sql rows options) fun result => do
      let s ← Operation.signals
      return .batch ⟨result.rowsAffected, ← holdRows result.outBinds,
        if inspect then some (result.inspected s) else none⟩
  | .statementInfo sql =>
    request (Connection.statementInfo sql) fun info => pure (.statement info)
  | .resolveBinds sql binds options =>
    request (Connection.resolveBinds sql binds options) fun ds => pure (.descriptors ds)
  | .createLob kind => request (Connection.createLob kind) fun lob => Reply.newLob <$> holdLob lob
  | .openLob locator => request (Connection.openLob locator) fun lob => Reply.newLob <$> holdLob lob
  | .openCursor locator options =>
    request (Connection.openCursor locator options) fun rs =>
      Reply.newResultSet <$> holdResultSet rs
  | .info sqls =>
    request Operation.get fun c => do
      return .connectionInfo (connectionInfo c (← Operation.signals) sqls)
  | .close => do
    giveUp
    return some (.ok .ok)

/-! ## Interruptions -/

/-- Fire the signals of an interruption. -/
def interrupt (guards : Guards) : Interruption → Operation σ Client Unit
  | .own => Operation.fire guards.own
  | .connection => giveUp

/-- The signal that an interruption fires first. -/
def Interruption.signal (guards : Guards) : Interruption → Signal
  | .own => guards.own
  | .connection => guards.connection

/-- Signals to fire as soon as an operation has to wait. -/
def arm (signals : List Signal) : Operation σ η Unit := fun _ h w =>
  (.done (), h, { w with armed := signals })

/-- An operation with an interruption: as soon as it has to wait, else right behind
it. -/
def interrupted (guards : Guards) (who : Option Interruption) (t : Operation σ Client α) :
    Operation σ Client α := do
  match who with
  | none => t
  | some who =>
    arm [who.signal guards]
    let a ← t
    arm []
    interrupt guards who
    return a

/-! ## Requests to handles -/

/-- Keep the state that an operation leaves a handle in. -/
def put (i : Nat) (h : Held) : Operation σ Client Unit :=
  Operation.modify fun c => { c with held := c.held.set i h }

/-- An operation on an object that was handed out. Its state is kept whether the operation failed or
not. -/
def onLob (i : Nat) (lob : Lob) (t : Operation σ Lob α) : Operation σ Client (Except Error α) := do
  let (result, lob) ← Operation.on lob t
  put i (.lob lob)
  return result

/-- An operation on a result set that was handed out. Its state is kept whether the operation failed
or not. -/
def onResultSet (i : Nat) (rs : ResultSet) (t : Operation σ ResultSet α) :
    Operation σ Client (Except Error α) := do
  let (result, rs) ← Operation.on rs t
  put i (.resultSet rs)
  return result

/-- Give parts to a writer one after another. A part that fails leaves its error in its place, and
the parts behind it are given all the same. -/
def writeParts (writer : LobWriter) :
    List WritePart → Operation σ Client (List PartReply × LobWriter)
  | [] => pure ([], writer)
  | .data d :: rest => do
    let (result, writer) ← Operation.on writer (LobWriter.write d)
    let (others, writer) ← writeParts writer rest
    return (.written result :: others, writer)
  | .interruption who :: rest => do
    interrupt writer.lob.guards who
    let (others, writer) ← writeParts writer rest
    return (.interrupted :: others, writer)

/-- Write to an object with one writer. The interruption belongs to its finish. -/
def writeLob (i : Nat) (lob : Lob) (parts : List WritePart) (finish : Bool)
    (who : Option Interruption) : Operation σ Client (Except Error Reply) := do
  match ← onLob i lob LobWriter.start with
  | .error e => return .error e
  | .ok writer =>
    let (written, writer) ← writeParts writer parts
    if finish then
      let (result, writer) ←
        interrupted lob.guards who (Operation.on writer LobWriter.finish)
      put i (.lob writer.lob)
      return .ok (.written written (some result))
    else
      put i (.lob writer.lob)
      return .ok (.written written none)

/-- What a look at an object shows; looking asks nothing of the session. -/
def lobInfo (lob : Lob) (s : Signals) : LobInfo :=
  ⟨lob, lob.isClosed s, s.isFired lob.guards.own, lob.inspected s⟩

/-- A request to an object, interruptions aside. -/
def performLob (i : Nat) (lob : Lob) (r : LobRequest) :
    Operation σ Client (Except Error Reply) := do
  match r with
  | .info => return .ok (.lobInfo (lobInfo lob (← Operation.signals)))
  | .setPieceSize v =>
    match lob.setPieceSize v with
    | .ok changed =>
      put i (.lob changed)
      return .ok (.pieceSize (.ok ()) changed.pieceSize)
    | .error e => return .ok (.pieceSize (.error e) lob.pieceSize)
  | .cancel =>
    Operation.fire lob.guards.own
    return .ok .yes
  | .readChunk => return (← onLob i lob Lob.readChunk).map .piece
  | .chunks => return (← onLob i lob Lob.chunks).map .pieces
  | .getData => return (← onLob i lob Lob.getData).map .content
  | .length => return (← onLob i lob Lob.length).map .number
  | .trim size => return (← onLob i lob (Lob.trim size)).map fun _ => .ok
  | .close => return (← onLob i lob Lob.close).map fun _ => .ok
  | .write parts finish => writeLob i lob parts finish none

/-- What a look at a result set shows; looking asks nothing of the session. -/
def resultSetInfo (rs : ResultSet) (s : Signals) : ResultSetInfo :=
  ⟨rs, rs.cursorId s, rs.columns s, rs.columnNames s, rs.isClosed s, s.isFired rs.guards.own,
    rs.inspected s⟩

/-- Turn a result set into a stream and take rows from it. -/
def streamRows (i : Nat) (rs : ResultSet) (limit : Option Nat) :
    Operation σ Client (Except Error (List (Except Error Row))) := do
  put i .spent
  match RowStream.ofResultSet rs (← Operation.signals) with
  | .error e => return .error e
  | .ok stream => return (← Operation.on stream (RowStream.collect limit)).1

/-- A request to a result set, interruptions aside. -/
def performResultSet (i : Nat) (rs : ResultSet) (r : ResultSetRequest) :
    Operation σ Client (Except Error Reply) := do
  match r with
  | .info => return .ok (.resultSetInfo (resultSetInfo rs (← Operation.signals)))
  | .setFetchSize size =>
    let changed := rs.setFetchSize size
    put i (.resultSet changed)
    return .ok (.number changed.fetchSize)
  | .cancel =>
    Operation.fire rs.guards.own
    return .ok .yes
  | .getRow names =>
    return (← onResultSet i rs ResultSet.getRow).map fun row =>
      .row (row.map fun row => (row, names.map row.getByName))
  | .getRows limit => return (← onResultSet i rs (ResultSet.getRows limit)).map .rows
  | .close => return (← onResultSet i rs ResultSet.close).map fun _ => .ok
  | .openNested locator => do
    match ← onResultSet i rs (ResultSet.openNested locator) with
    | .ok nested => return .ok (.newResultSet (← holdResultSet nested))
    | .error e => return .error e
  | .openLob locator => do
    match ← onResultSet i rs (ResultSet.openLob locator) with
    | .ok lob => return .ok (.newLob (← holdLob lob))
    | .error e => return .error e
  | .stream limit => do
    match ← streamRows i rs limit with
    | .ok rows => return .ok (.streamed rows ((← Operation.signals).isFired rs.guards.own))
    | .error e => return .error e

/-- One request. It has no answer if the handle it names was never handed out or is of the other
sort. -/
def perform (r : Request) : Operation σ Client (Option (Except Error Reply)) := do
  match r with
  | .connection r => performConnection r
  | .lob handle r who =>
    let i := handle - 1
    match (← Operation.get).held[i]?, r with
    | some (.lob lob), .write parts finish => return some (← writeLob i lob parts finish who)
    | some (.lob lob), r => return some (← interrupted lob.guards who (performLob i lob r))
    | _, _ => pure none
  | .resultSet handle r who =>
    let i := handle - 1
    match (← Operation.get).held[i]? with
    | some (.resultSet rs) => return some (← interrupted rs.guards who (performResultSet i rs r))
    | _ => pure none

end Client

end SqlBinder

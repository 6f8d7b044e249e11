import SqlBinder.Session.Operation
import SqlBinder.Wire.Temporal

/-!
A session in memory. Large objects and cursors are stored; answers to executions are taken from a
script. Faults may be set for the n-th call of a method: it fails, never ends, takes time, or gives
prepared data.

It is a session by which operations can be run, and the one that examples are about. What is proved
of operations holds over any session, or over any that keeps what is assumed of it by name, such as
that a cursor gives the rows it has left.
-/
namespace SqlBinder.Memory

/-- A call without its arguments, as faults are set for it. -/
inductive Method where
  | execute | executeMany | prepare
  | createLob | readLob | writeLob | trimLob | measureLob | commitLob | closeLob
  | fetch | closeCursor
  deriving DecidableEq, Repr

/-- The method that a call is one of. -/
def Method.ofCall : Call → Method
  | .execute _ => .execute
  | .executeMany _ => .executeMany
  | .prepare _ => .prepare
  | .createLob _ => .createLob
  | .readLob _ _ _ => .readLob
  | .writeLob _ _ _ => .writeLob
  | .trimLob _ _ => .trimLob
  | .measureLob _ => .measureLob
  | .commitLob _ => .commitLob
  | .closeLob _ => .closeLob
  | .fetch _ _ => .fetch
  | .closeCursor _ => .closeCursor

/-- What becomes of a call that a fault is set for. -/
inductive Effect where
  | fails (e : Error)
  | hangs
  | delays (span : Span)
  /-- Prepared content for a read. -/
  | data (d : LobData)
  /-- Prepared rows for a fetch. -/
  | rows (response : FetchResponse)

/-- What goes wrong with the n-th call of a method, from 1. -/
structure Fault where
  method : Method
  count : Nat
  effect : Effect

/-- A large object of the server: what readers see and, beside it, what writers have sent so far. -/
structure StoredLob where
  locator : List UInt8
  committed : LobData
  /-- Written and not committed. -/
  pending : Option LobData
  closed : Bool
  deriving DecidableEq, Repr

/-- A cursor of the server with the rows it has not given yet. -/
structure StoredCursor where
  id : Nat
  rows : List (List WireValue)
  closed : Bool

/-- Everything there is in memory: objects and cursors, the answers that are scripted, the faults,
and the methods called so far, by which faults are counted. -/
structure Store where
  /-- By locator, ascending. -/
  lobs : List StoredLob
  /-- By number, ascending. -/
  cursors : List StoredCursor
  chunkSize : Nat
  created : Nat
  execute : List ExecuteResponse
  executeMany : List BatchResponse
  prepare : List PrepareInfo
  faults : List Fault
  called : List Method

namespace Store

/-- Nothing stored, nothing scripted. -/
def empty (chunkSize : Nat) : Store := ⟨[], [], chunkSize, 0, [], [], [], [], []⟩

/-! ## Large objects -/

/-- The order of locators, byte by byte; one that goes on is behind one that ends. -/
def before : List UInt8 → List UInt8 → Bool
  | _, [] => false
  | [], _ :: _ => true
  | a :: as, b :: bs => a < b || (a == b && before as bs)

/-- The objects with one of them put in its place. -/
def insertLob (lob : StoredLob) : List StoredLob → List StoredLob
  | [] => [lob]
  | l :: rest =>
    if l.locator = lob.locator then lob :: rest
    else if before lob.locator l.locator then lob :: l :: rest
    else l :: insertLob lob rest

/-- The object that a locator names, unless it is closed. -/
def lob? (s : Store) (locator : LobLocator) : Except Error StoredLob :=
  match s.lobs.find? (·.locator == locator.bytes) with
  | some l => if l.closed then throw (.server 22922 "nonexistent LOB value") else pure l
  | none => throw (.server 22922 "nonexistent LOB value")

/-- The store with an object put in its place. -/
def putLob (s : Store) (lob : StoredLob) : Store := { s with lobs := insertLob lob s.lobs }

/-- Units that fill a gap: blanks or zero bytes. -/
def padding (kind : LobKind) (n : Nat) : LobData :=
  match kind with
  | .clob => .text (String.ofList (List.replicate n ' '))
  | .blob => .bytes (List.replicate n 0)

/-- Content with data laid over it from an offset on, from 1. -/
def overwrite (base : LobData) (offset : Nat) (data : LobData) : LobData :=
  let start := offset - 1
  let head := (base.take start).append (padding base.kind (start - base.size))
  (head.append data).append (base.drop (start + data.size))

/-- Locator of the n-th created object, from 0. -/
def createdLocator (n : Nat) : List UInt8 := Wire.Temporal.bigEndian (1001 + n)

/-! ## Cursors -/

/-- The cursors with one of them put in its place. -/
def insertCursor (cursor : StoredCursor) : List StoredCursor → List StoredCursor
  | [] => [cursor]
  | c :: rest =>
    if c.id = cursor.id then cursor :: rest
    else if cursor.id < c.id then cursor :: c :: rest
    else c :: insertCursor cursor rest

/-- The cursor with a number, unless it is closed. -/
def cursor? (s : Store) (id : Nat) : Except Error StoredCursor :=
  match s.cursors.find? (·.id == id) with
  | some c => if c.closed then throw (.server 1001 "invalid cursor") else pure c
  | none => throw (.server 1001 "invalid cursor")

/-- The store with a cursor put in its place. -/
def putCursor (s : Store) (cursor : StoredCursor) : Store :=
  { s with cursors := insertCursor cursor s.cursors }

/-! ## Calls -/

/-- A store changed by a call that succeeds. -/
def reply (r : Except Error (ρ × Store)) (s : Store) : Except Error ρ × Store :=
  match r with
  | .ok (a, s) => (.ok a, s)
  | .error e => (.error e, s)

/-- The reply to a call without faults, and the store behind it. -/
def respond (s : Store) : (c : Call) → Except Error c.Reply × Store
  | .execute _ =>
    match s.execute with
    | [] => (.ok {}, s)
    | r :: rest => (.ok r, { s with execute := rest })
  | .executeMany request =>
    match s.executeMany with
    | [] => (.ok ⟨request.rows.map fun _ => 1, []⟩, s)
    | r :: rest => (.ok r, { s with executeMany := rest })
  | .prepare sql =>
    match s.prepare with
    | [] =>
      let info := Statement.scan sql
      (.ok ⟨some info.kind, info.bindNames⟩, s)
    | r :: rest => (.ok r, { s with prepare := rest })
  | .createLob kind =>
    let bytes := createdLocator s.created
    (.ok ⟨bytes, kind, 0, s.chunkSize, false⟩,
      { s with created := s.created + 1 }.putLob ⟨bytes, .empty kind, none, false⟩)
  | .readLob locator offset amount =>
    reply (do return ((((← s.lob? locator).committed.drop (offset - 1)).take amount), s)) s
  | .writeLob locator offset data =>
    reply (do
      let lob ← s.lob? locator
      if lob.committed.kind ≠ data.kind then throw (.server 22275 "invalid LOB locator specified")
      let base := lob.pending.getD lob.committed
      return ((), s.putLob { lob with pending := some (overwrite base offset data) })) s
  | .trimLob locator size =>
    reply (do
      let lob ← s.lob? locator
      return ((), s.putLob { lob with committed := lob.committed.take size, pending := none })) s
  | .measureLob locator => reply (do return ((← s.lob? locator).committed.size, s)) s
  | .commitLob locator =>
    reply (do
      let lob ← s.lob? locator
      return ((), s.putLob
        { lob with committed := lob.pending.getD lob.committed, pending := none })) s
  | .closeLob locator =>
    reply (do
      let lob ← s.lob? locator
      return ((), s.putLob { lob with pending := none, closed := true })) s
  | .fetch id rows =>
    reply (do
      let cursor ← s.cursor? id
      let rest := cursor.rows.drop rows
      return (⟨cursor.rows.take rows, !rest.isEmpty⟩, s.putCursor { cursor with rows := rest })) s
  | .closeCursor id =>
    reply (do
      let cursor ← s.cursor? id
      return ((), s.putCursor { cursor with closed := true })) s

/-- What goes wrong with the call that was counted last. -/
def fault? (s : Store) (m : Method) : Option Effect :=
  (s.faults.find? fun f => f.method == m && f.count == s.called.count m).map (·.effect)

/-- A call that is answered at once. -/
def atOnce (begun finished : Store) (reply : Except Error ρ) : Answer Store ρ :=
  { begun := begun, wait := some ⟨0⟩, finished := finished, reply := reply }

/-- The answer to a call, faults included. Prepared data leaves the store alone. -/
def answer (c : Call) (s : Store) : Answer Store c.Reply :=
  let s := { s with called := Method.ofCall c :: s.called }
  let (normal, after) := s.respond c
  match s.fault? (Method.ofCall c) with
  | none => atOnce s after normal
  | some (.fails e) => atOnce s s (.error e)
  | some .hangs => { begun := s, wait := none, finished := s, reply := normal }
  | some (.delays span) => { begun := s, wait := some span, finished := after, reply := normal }
  | some (.data d) =>
    match c with
    | .readLob _ _ _ => atOnce s s (.ok d)
    | _ => atOnce s after normal
  | some (.rows r) =>
    match c with
    | .fetch _ _ => atOnce s s (.ok r)
    | _ => atOnce s after normal

/-- The store as a session. -/
def host (patience : Nat) : Host Store := ⟨answer, patience⟩

end Store

end SqlBinder.Memory

import SqlBinder.Proofs.Connection.Handles
import SqlBinder.Proofs.Lob.Tending
import SqlBinder.Proofs.ResultSet.Calls

/-!
A connection with all handles that came from it, directly or out of the rows of others, and what can
be done with them in turn. Whatever it is, each handle holds the signal of the connection and one
that nobody else holds.

A step is an operation on one of the things that are held, and what it gives out is put behind the
others. There is one case for each kind of step, which says that the guards stay sound; a run of
steps is then an induction over their list.
-/
namespace SqlBinder

open Operation Binding

variable {σ η α : Type} {conn : Signal} {w w' : World σ}

/-! ## Everything a connection gave out -/

/-- A handle that a connection gave out. An object is held with the writer that may be working on
it, and a result set with the stream that it may be read as. -/
inductive Handle where
  | lob (wtr : LobWriter)
  | rows (st : RowStream)

namespace Handle

/-- The signals that each round trip of the handle heeds. -/
def guards : Handle → Guards
  | lob wtr => wtr.lob.guards
  | rows st => st.resultSet.guards

/-- Closed by itself or with the connection. -/
def isClosed (s : Signals) : Handle → Bool
  | lob wtr => wtr.lob.isClosed s
  | rows st => st.resultSet.isClosed s

/-- The handle as one of an object. -/
def lob? : Handle → Option LobWriter
  | lob wtr => some wtr
  | rows _ => none

/-- The handle as one of a result set. -/
def rows? : Handle → Option RowStream
  | lob _ => none
  | rows st => some st

/-- A new handle of an object. -/
def ofLob (l : Lob) : Handle := lob (.make l)

/-- A new handle of a result set. -/
def ofRows (rs : ResultSet) : Handle := rows ⟨rs, false⟩

end Handle

/-- The handle in an output value, if it is one. -/
def OutValue.handles : OutValue → List Handle
  | .value _ => []
  | .lob l => [.ofLob l]
  | .resultSet rs => [.ofRows rs]

/-- The handles among output binds. -/
def handlesOut (outBinds : List OutBind) : List Handle := outBinds.flatMap fun b => b.value.handles

/-- The handles that an execution gives out, those of its output binds first. -/
def ExecuteResult.handles (r : ExecuteResult) : List Handle :=
  handlesOut r.outBinds ++ (r.resultSet.map Handle.ofRows).toList

/-- The handles that a batch gives out, row by row. -/
def BatchResult.handles (r : BatchResult) : List Handle := r.outBinds.flatMap handlesOut

/-- A connection and the handles that came from it, in the order they were given out. -/
structure Holdings where
  connection : Connection
  handles : List Handle

/-- Where something stands among them. -/
structure Place (η : Type) where
  get? : Holdings → Option η
  put : η → Holdings → Holdings

namespace Place

/-- The connection itself. -/
def connection : Place Connection where
  get? s := some s.connection
  put c s := { s with connection := c }

/-- What handle `i` is, if it is of one kind. -/
def handle (i : Nat) (the? : Handle → Option η) (make : η → Handle) : Place η where
  get? s := s.handles[i]?.bind the?
  put h s := { s with handles := s.handles.set i (make h) }

/-- Handle `i`, if it is one of an object. -/
def lob (i : Nat) : Place LobWriter := handle i Handle.lob? Handle.lob

/-- Handle `i`, if it is one of a result set. -/
def rows (i : Nat) : Place RowStream := handle i Handle.rows? Handle.rows

/-- An operation on what stands there, and the handles that it gives out. Where nothing stands
nothing is done. -/
def run (p : Place η) (t : Operation σ η (List Handle)) : Operation σ Holdings Unit :=
  fun host s w =>
    match p.get? s with
    | none => (.done (), s, w)
    | some h =>
      match t host h w with
      | (.done new, h, w) =>
        (.done (), { p.put h s with handles := (p.put h s).handles ++ new }, w)
      | (.failed e, h, w) => (.failed e, p.put h s, w)
      | (.stuck why, h, w) => (.stuck why, p.put h s, w)

end Place

/-- What can be done with a connection and the handles that came from it. -/
inductive Step where
  | createLob (kind : LobKind)
  | openLob (l : LobLocator)
  | openCursor (l : CursorLocator) (o : ExecuteOptions)
  | execute (sql : String) (binds : Binds) (o : ExecuteOptions)
  | executeMany (sql : String) (batch : List Binds) (o : ExecuteOptions)
  | lob (i : Nat) (u : LobUse)
  | rows (i : Nat) (u : Use)
  /-- A cursor found in a row of handle `i`. -/
  | cursorOf (i : Nat) (l : CursorLocator)
  /-- A large object found in a row of handle `i`. -/
  | lobOf (i : Nat) (l : LobLocator)
  /-- The connection is closed or dropped. -/
  | close

/-- The step, with the handles that it gives out put behind those that were held. -/
def Step.run : Step → Operation σ Holdings Unit
  | .createLob kind => Place.connection.run do return [.ofLob (← Connection.createLob kind)]
  | .openLob l => Place.connection.run do return [.ofLob (← Connection.openLob l)]
  | .openCursor l o => Place.connection.run do return [.ofRows (← Connection.openCursor l o)]
  | .execute sql binds o => Place.connection.run do
    return (← Connection.execute sql binds o).handles
  | .executeMany sql batch o => Place.connection.run do
    return (← Connection.executeMany sql batch o).handles
  | .lob i u => (Place.lob i).run do
    u.run
    return []
  | .rows i u => (Place.rows i).run do
    let _ ← u.run
    return []
  | .cursorOf i l => (Place.rows i).run do
    return [.ofRows (← Use.lift (ResultSet.openNested l))]
  | .lobOf i l => (Place.rows i).run do return [.ofLob (← Use.lift (ResultSet.openLob l))]
  | .close => Place.connection.run do
    Connection.close
    return []

/-! ## Guards of the handles -/

theorem OutValue.map_guards_handles (v : OutValue) : v.handles.map Handle.guards = v.guards := by
  cases v <;> rfl

theorem map_guards_handlesOut (outBinds : List OutBind) :
    (handlesOut outBinds).map Handle.guards = handedOut outBinds := by
  simp [handlesOut, handedOut, List.map_flatMap, OutValue.map_guards_handles]

theorem ExecuteResult.map_guards_handles (r : ExecuteResult) :
    r.handles.map Handle.guards = r.guards := by
  cases there : r.resultSet <;>
    simp [handles, guards, map_guards_handlesOut, there, Handle.ofRows, Handle.guards]

theorem BatchResult.map_guards_handles (r : BatchResult) :
    r.handles.map Handle.guards = r.guards := by
  simp [handles, guards, List.map_flatMap, map_guards_handlesOut]

namespace Holdings

/-- The guards of all that is held. -/
def guards (s : Holdings) : List Guards := s.handles.map Handle.guards

/-- Every handle holds the signal of the connection and one that nobody else holds. -/
structure Sound (conn : Signal) (s : Holdings) (w : World σ) : Prop where
  connection : s.connection.closed = conn
  made : conn.number < w.signals.made
  issued : Issued conn (conn.number + 1) w.signals.made s.guards

end Holdings

/-! ## What every step preserves -/

/-- Whatever is held, the operation gives out handles behind it, and keeps `I`. -/
def Yields (I : η → Prop) (conn : Signal) (t : Operation σ η (List Handle)) : Prop :=
  ∀ lo held, Gives I conn lo held (fun new => held ++ new.map Handle.guards) t

namespace Yields

variable {I : η → Prop}

/-- One new handle. -/
theorem single {t : Operation σ η α} {f : α → Handle}
    (ht : ∀ lo held, Gives I conn lo held (fun a => held ++ [(f a).guards]) t) :
    Yields I conn (do return [f (← t)]) :=
  fun lo held => .bind (ht lo held) fun _ => .pure _ (.refl _)

/-- No new handle. -/
theorem none {t : Operation σ η α}
    (ht : ∀ host h w, I h → I (t host h w).2.1 ∧ w.signals.Grown (t host h w).2.2.signals) :
    Yields I conn (do let _ ← t; return []) :=
  fun _ _ => .bind (.of_grown ht) fun _ => .pure _ (by simp)

end Yields

namespace Place

variable {p : Place η} {t : Operation σ η (List Handle)} {s : Holdings} {h : η} {host : Host σ}
  {I : η → Prop}

/-- A handle that keeps its guards is put in its place again. -/
theorem guards_set {i : Nat} {old new : Handle} (there : s.handles[i]? = some old)
    (same : new.guards = old.guards) :
    { s with handles := s.handles.set i new }.guards = s.guards := by
  have unchanged : (s.handles.map Handle.guards)[i]? = some new.guards := by
    rw [List.getElem?_map, there, same]
    rfl
  obtain ⟨inside, found⟩ := List.getElem?_eq_some_iff.1 unchanged
  rw [Holdings.guards, Holdings.guards, List.map_set, ← found, List.set_getElem_self]

theorem run_none (nothing : p.get? s = none) : p.run t host s w = (.done (), s, w) := by
  rw [run, nothing]

section There

variable {new : List Handle} {h' : η} {e : Error} (there : p.get? s = some h)

include there

theorem run_of_done (ended : t host h w = (.done new, h', w')) :
    p.run t host s w =
      (.done (), { p.put h' s with handles := (p.put h' s).handles ++ new }, w') := by
  simp [run, there, ended]

theorem run_of_failed (ended : t host h w = (.failed e, h', w')) :
    p.run t host s w = (.failed e, p.put h' s, w') := by
  simp [run, there, ended]

theorem run_of_stuck {why : Halt} (ended : t host h w = (.stuck why, h', w')) :
    p.run t host s w = (.stuck why, p.put h' s, w') := by
  simp [run, there, ended]

end There

/-- What gives out nothing leaves the handles but for the one it was done on. -/
theorem run_quiet (there : p.get? s = some h)
    (nothing : ∀ new, (t host h w).1 = .done new → new = []) :
    (p.run t host s w).2 = (p.put (t host h w).2.1 s, (t host h w).2.2) := by
  rcases ended : t host h w with ⟨new | e | _, h', w'⟩
  · obtain rfl := nothing new (by rw [ended])
    rw [run_of_done there ended, List.append_nil]
  · rw [run_of_failed there ended]
  · rw [run_of_stuck there ended]

/-- What an operation gives out is held by nobody else. -/
theorem run_sound (there : p.get? s = some h) (hi : I h)
    (put : ∀ h, I h → (p.put h s).guards = s.guards ∧ (p.put h s).connection.closed = conn)
    (yields : Yields I conn t) (sound : s.Sound conn w) :
    (p.run t host s w).2.1.Sound conn (p.run t host s w).2.2 ∧
      w.signals.Grown (p.run t host s w).2.2.signals := by
  obtain ⟨hi', grown, issued⟩ := yields _ _ host h w hi sound.made sound.issued
  obtain ⟨guards, closed⟩ := put _ hi'
  have made := Nat.lt_of_lt_of_le sound.made grown.made
  have still := sound.issued.later grown.made
  rcases ended : t host h w with ⟨new | e | _, h', w'⟩ <;>
    rw [ended] at grown issued guards closed made still
  · have all := issued new rfl
    rw [← guards] at all
    rw [run_of_done there ended]
    refine ⟨⟨closed, made, ?_⟩, grown⟩
    rwa [Holdings.guards, List.map_append]
  · rw [run_of_failed there ended]
    refine ⟨⟨closed, made, ?_⟩, grown⟩
    rwa [guards]
  · rw [run_of_stuck there ended]
    refine ⟨⟨closed, made, ?_⟩, grown⟩
    rwa [guards]

theorem connection_sound {t : Operation σ Connection (List Handle)}
    (yields : Yields (Connection.Of conn) conn t) (sound : s.Sound conn w) :
    (connection.run t host s w).2.1.Sound conn (connection.run t host s w).2.2 ∧
      w.signals.Grown (connection.run t host s w).2.2.signals :=
  run_sound rfl sound.connection (fun _ hc => ⟨rfl, hc⟩) yields sound

theorem handle_sound {i : Nat} {the? : Handle → Option η} {make : η → Handle}
    (told : ∀ x h, the? x = some h → x = make h)
    (yields : ∀ g, g.connection = conn → Yields (fun h => (make h).guards = g) conn t)
    (sound : s.Sound conn w) :
    ((handle i the? make).run t host s w).2.1.Sound conn
        ((handle i the? make).run t host s w).2.2 ∧
      w.signals.Grown ((handle i the? make).run t host s w).2.2.signals := by
  cases there : (handle i the? make).get? s with
  | none =>
    rw [run_none there]
    exact ⟨sound, .refl _⟩
  | some h =>
    obtain ⟨x, found, is⟩ := Option.bind_eq_some_iff.1 there
    obtain rfl := told x h is
    have mem : (make h).guards ∈ s.guards := List.mem_map.2 ⟨_, List.mem_of_getElem? found, rfl⟩
    exact run_sound (I := fun h' => (make h').guards = (make h).guards) there rfl
      (fun _ same => ⟨guards_set found same, sound.connection⟩)
      (yields _ (sound.issued.each _ mem).1) sound

end Place

theorem Handle.of_lob? (x : Handle) (wtr : LobWriter) (h : x.lob? = some wtr) : x = .lob wtr := by
  cases x <;> simp_all [lob?]

theorem Handle.of_rows? (x : Handle) (st : RowStream) (h : x.rows? = some st) : x = .rows st := by
  cases x <;> simp_all [rows?]

/-- What is opened out of a row holds the signal of the connection too. -/
theorem Use.lift_gives {lo : Nat} {held : List Guards} {given : α → List Guards} {g : Guards}
    {t : Operation σ ResultSet α} (ht : Gives (ResultSet.Of g) conn lo held given t) :
    Gives (RowStream.Of g) conn lo held given (Use.lift t) := by
  intro host st w hi le issued
  obtain ⟨hi', grown, issued'⟩ := ht host st.resultSet w hi le issued
  rcases run : t host st.resultSet w with ⟨a | e | _, rs', w'⟩ <;> rw [run] at hi' grown issued'
  · rw [Use.lift, bind_of_done (RowStream.onResultSet_of_done st run)]
    exact ⟨hi', grown, issued'⟩
  · rw [Lease.lift_failed run]
    exact ⟨hi', grown, fun _ done => by cases done⟩
  · rw [Use.lift, bind_of_stuck (RowStream.onResultSet_of_stuck st run)]
    exact ⟨hi, grown, fun _ done => by cases done⟩

/-- Whatever is done, each handle holds the signal of the connection and one of its own. -/
theorem Step.sound (host : Host σ) {s : Holdings} (sound : s.Sound conn w) (step : Step) :
    (step.run host s w).2.1.Sound conn (step.run host s w).2.2 ∧
      w.signals.Grown (step.run host s w).2.2.signals := by
  cases step with
  | createLob kind =>
    exact Place.connection_sound (.single fun _ _ => Connection.createLob_gives kind) sound
  | openLob l => exact Place.connection_sound (.single fun _ _ => Connection.openLob_gives l) sound
  | openCursor l o =>
    exact Place.connection_sound (.single fun _ _ => Connection.openCursor_gives l o) sound
  | execute sql binds o =>
    refine Place.connection_sound (fun _ _ => ?_) sound
    refine .bind (Connection.execute_gives sql binds o) fun r => .pure _ ?_
    rw [ExecuteResult.map_guards_handles]
  | executeMany sql batch o =>
    refine Place.connection_sound (fun _ _ => ?_) sound
    refine .bind (Connection.executeMany_gives sql batch o) fun r => .pure _ ?_
    rw [BatchResult.map_guards_handles]
  | lob i u =>
    refine Place.handle_sound Handle.of_lob? (fun g _ => .none fun host wtr w hg => ?_) sound
    exact (u.run_grown host wtr w).imp (·.trans hg) id
  | rows i u =>
    refine Place.handle_sound Handle.of_rows? (fun g _ => .none fun host st w hg => ?_) sound
    obtain ⟨kept, grown, -⟩ := u.run_calls (ResultSet.of_stays g) host st w hg
    exact ⟨kept, grown⟩
  | cursorOf i l =>
    refine Place.handle_sound Handle.of_rows? (fun g hg => .single fun _ _ => ?_) sound
    refine Use.lift_gives (.behind (P := fun _ => True) ResultSet.open?_calls fun _ =>
      .get_bind fun rs hrs => ?_)
    obtain rfl : rs.guards.connection = conn := by rw [hrs, hg]
    exact ResultSet.create_gives _ _ _ _ _ _
  | lobOf i l =>
    refine Place.handle_sound Handle.of_rows? (fun g hg => .single fun _ _ => ?_) sound
    refine Use.lift_gives (.behind (P := fun _ => True) ResultSet.open?_calls fun _ =>
      .get_bind fun rs hrs => ?_)
    obtain rfl : rs.guards.connection = conn := by rw [hrs, hg]
    exact Lob.create_gives _
  | close =>
    refine Place.connection_sound (.none fun host c w hc => ⟨hc, ?_⟩) sound
    exact .fire w.signals c.closed

end SqlBinder

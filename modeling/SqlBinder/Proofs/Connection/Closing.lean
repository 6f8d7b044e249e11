import SqlBinder.Proofs.Connection.Holdings
import SqlBinder.Proofs.Lob.Closing
import SqlBinder.Proofs.ResultSet.Refusing

/-!
What closing a connection does to the handles that it gave out. Each of them heeds the signal
of the connection before its own; so all of them are closed at once, whatever had become of
them, and none makes a call any more. Closing a handle fires a signal that no other handle
holds.
-/
namespace SqlBinder

open Operation Binding

variable {σ η α : Type} {conn : Signal} {w w' : World σ}

/-! ## Behind the end of the connection -/

/-- The signal of the connection is heeded first. -/
theorem Guards.stops_of_gone {g : Guards} (closed : Error)
    (gone : w.signals.isFired g.connection = true) :
    firstFired w.signals (g.stops closed) = some .connectionClosed := by
  simp [stops, firstFired, gone]

theorem gives_nothing {t : Operation σ η α} {host : Host σ} {h : η} {new : List Handle}
    (done : ((t >>= fun _ => pure []) host h w).1 = .done new) : new = [] := by
  rcases run : t host h w with ⟨a | e | _, h', w'⟩
  · rw [bind_of_done run] at done
    cases done
    rfl
  · simp [bind_of_failed run] at done
  · simp [bind_of_stuck run] at done

namespace Connection

variable (host : Host σ) {c : Connection} (closed : c.isClosed w.signals = true)

include closed

theorem checkOpen_refused : checkOpen host c w = (.failed .connectionClosed, c, w) := by
  rw [checkOpen_apply, if_pos closed]

theorem createLob_refused (kind : LobKind) :
    createLob kind host c w = (.failed .connectionClosed, c, w) := by
  rw [createLob, bind_of_done (get_apply host c w)]
  exact bind_of_failed (by rw [roundTrip_apply, if_pos closed]) _

theorem execute_refused (sql : String) (binds : Binds) (o : ExecuteOptions) :
    execute sql binds o host c w = (.failed .connectionClosed, c, w) :=
  bind_of_failed (bind_of_failed (checkOpen_refused host closed) _) _

theorem executeMany_refused (sql : String) (rows : List Binds) (o : ExecuteOptions) :
    executeMany sql rows o host c w = (.failed .connectionClosed, c, w) :=
  bind_of_failed (bind_of_failed (checkOpen_refused host closed) _) _

end Connection

/-- What comes of the uses of a handle whose connection is closed: each that needs it fails with
the error of the connection, and none makes a call. -/
def Handle.Refuses (host : Host σ) (w : World σ) : Handle → Prop
  | .lob wtr => ∀ u : LobUse, (u.run host wtr w).2.2.exchanges = w.exchanges ∧
      u.Refused .connectionClosed (u.run host wtr w).1 ∧
      (u = .chunks → (u.run host wtr w).1 = .failed .connectionClosed)
  | .rows st => ∀ u : Use, (u.run host st w).2.2.exchanges = w.exchanges ∧
      u.Denied st (u.run host st w).1

namespace Handle

variable {h : Handle} {host : Host σ}

theorem isClosed_of_gone (gone : w.signals.isFired h.guards.connection = true) :
    h.isClosed w.signals = true := by
  cases h with
  | lob wtr =>
    have fired : w.signals.isFired wtr.lob.guards.connection = true := gone
    simp [isClosed, Lob.isClosed, fired]
  | rows st =>
    have fired : w.signals.isFired st.resultSet.guards.connection = true := gone
    simp [isClosed, ResultSet.isClosed, fired]

theorem refuses_of_gone (patient : 0 < host.patience)
    (gone : w.signals.isFired h.guards.connection = true) : h.Refuses host w := by
  cases h with
  | lob wtr =>
    have stopped := Guards.stops_of_gone (g := wtr.lob.guards) .lobClosed gone
    intro u
    obtain ⟨refused, quiet⟩ := LobUse.run_stopped host stopped u
    refine ⟨quiet, refused, ?_⟩
    rintro rfl
    rw [LobUse.chunks_stopped host stopped, if_neg (Nat.pos_iff_ne_zero.1 patient)]
  | rows st => exact fun u => ⟨(Use.run_gone host gone u).2, (Use.run_gone host gone u).1 patient⟩

end Handle

/-- The connection is closed, and since then no call was made and no handle given out. -/
structure Holdings.Over (conn : Signal) (s₁ : Holdings) (w₁ : World σ) (s : Holdings)
    (w : World σ) : Prop where
  sound : s.Sound conn w
  gone : w.signals.isFired conn = true
  quiet : w.exchanges = w₁.exchanges
  same : s.guards = s₁.guards

namespace Holdings.Over

variable {s s₁ : Holdings} {w₁ : World σ} {host : Host σ}

theorem handle {h : Handle} (ended : Over conn s₁ w₁ s w) (mem : h ∈ s.handles) :
    w.signals.isFired h.guards.connection = true := by
  rw [(ended.sound.issued.each _ (List.mem_map.2 ⟨h, mem, rfl⟩)).1]
  exact ended.gone

/-- An operation on a handle that makes no call and gives out nothing. -/
theorem onHandle {i : Nat} {the? : Handle → Option η} {make : η → Handle}
    {t : Operation σ η (List Handle)} (ended : Over conn s₁ w₁ s w)
    (told : ∀ x h, the? x = some h → x = make h)
    (ends : ∀ h, w.signals.isFired (make h).guards.connection = true →
      (make (t host h w).2.1).guards = (make h).guards ∧
        (t host h w).2.2.exchanges = w.exchanges ∧
        ∀ new, (t host h w).1 = .done new → new = []) :
    ((Place.handle i the? make).run t host s w).2.1.guards = s.guards ∧
      ((Place.handle i the? make).run t host s w).2.2.exchanges = w.exchanges := by
  cases there : (Place.handle i the? make).get? s with
  | none =>
    rw [Place.run_none there]
    exact ⟨rfl, rfl⟩
  | some h =>
    obtain ⟨x, found, is⟩ := Option.bind_eq_some_iff.1 there
    obtain rfl := told x h is
    obtain ⟨same, quiet, nothing⟩ := ends h (ended.handle (List.mem_of_getElem? found))
    rw [Place.run_quiet there nothing]
    exact ⟨Place.guards_set found same, quiet⟩

/-- The connection itself refuses everything. -/
theorem onConnection {t : Operation σ Connection (List Handle)} {e : Error}
    (refused : t host s.connection w = (.failed e, s.connection, w)) :
    (Place.connection.run t host s w).2.1.guards = s.guards ∧
      (Place.connection.run t host s w).2.2.exchanges = w.exchanges := by
  rw [Place.run_of_failed rfl refused]
  exact ⟨rfl, rfl⟩

theorem step (ended : Over conn s₁ w₁ s w) (step : Step) :
    Over conn s₁ w₁ (step.run host s w).2.1 (step.run host s w).2.2 := by
  obtain ⟨sound, grown⟩ := step.sound host ended.sound
  have closed : s.connection.isClosed w.signals = true := by
    rw [Connection.isClosed, ended.sound.connection]
    exact ended.gone
  have calm : (step.run host s w).2.1.guards = s.guards ∧
      (step.run host s w).2.2.exchanges = w.exchanges := by
    cases step with
    | createLob kind =>
      exact onConnection (bind_of_failed (Connection.createLob_refused host closed kind) _)
    | openLob l =>
      exact onConnection (bind_of_failed (bind_of_failed
        (Connection.checkOpen_refused host closed) _) _)
    | openCursor l o =>
      exact onConnection (bind_of_failed (bind_of_failed
        (Connection.checkOpen_refused host closed) _) _)
    | execute sql binds o =>
      exact onConnection (bind_of_failed (Connection.execute_refused host closed sql binds o) _)
    | executeMany sql batch o =>
      exact onConnection (bind_of_failed (Connection.executeMany_refused host closed sql batch o) _)
    | lob i u =>
      refine ended.onHandle Handle.of_lob? fun wtr gone => ⟨?_, ?_, fun _ => gives_nothing⟩
      · rw [bind_pure_snd]
        exact (u.run_grown host wtr w).1
      · rw [bind_pure_snd]
        exact (LobUse.run_stopped host (Guards.stops_of_gone .lobClosed gone) u).2
    | rows i u =>
      refine ended.onHandle Handle.of_rows? fun st gone => ⟨?_, ?_, fun _ => gives_nothing⟩
      · rw [bind_pure_snd]
        exact (u.run_calls (ResultSet.of_stays st.resultSet.guards) host st w rfl).1
      · rw [bind_pure_snd]
        exact (Use.run_gone host gone u).2
    | cursorOf i l =>
      refine ended.onHandle Handle.of_rows? fun st gone => ?_
      have refused : Use.lift (ResultSet.openNested l) host st w = _ :=
        Use.lift_open?_gone host gone _
      rw [bind_of_failed refused]
      exact ⟨rfl, rfl, nofun⟩
    | lobOf i l =>
      refine ended.onHandle Handle.of_rows? fun st gone => ?_
      have refused : Use.lift (ResultSet.openLob l) host st w = _ :=
        Use.lift_open?_gone host gone _
      rw [bind_of_failed refused]
      exact ⟨rfl, rfl, nofun⟩
    | close =>
      rw [Step.run, Place.run_quiet rfl fun _ => gives_nothing]
      exact ⟨rfl, rfl⟩
  exact ⟨sound, grown.fired _ ended.gone, calm.2.trans ended.quiet, calm.1.trans ended.same⟩

end Holdings.Over

/-! ## One handle among the others -/

/-- The step closes handle `i` or cancels it. -/
def Step.Ends (i : Nat) (step : Step) : Prop :=
  step = .lob i .close ∨ step = .lob i .cancel ∨ step = .rows i .close ∨ step = .rows i .cancel

/-- A round trip in flight when the connection closes is lost. -/
theorem guarded_interrupted {host : Host σ} {g : Guards} {closed : Error} {c : Call} {k : η}
    (begun : firstFired w.signals (g.stops closed) = none)
    (gone : (w.asking (host.answer c w.session)).signals.isFired g.connection = true) :
    (guarded g closed c host k w).1 = .failed .connectionClosed := by
  have stopped := Guards.stops_of_gone closed gone
  rw [guarded_apply, begun]
  dsimp only
  rw [call_apply]
  simp only [await, stopped]

section Apart

variable {host : Host σ} {g : Guards}

theorem Undisturbed.fire {x : Signal} (calm : Undisturbed host g w)
    (other : x ≠ g.own ∧ x ≠ g.connection) : Undisturbed host g (w.fire x) :=
  have fired : Undisturbed host g (w.fireAll [x]) := calm.fireAll fun y mem => by
    rwa [List.mem_singleton.1 mem]
  fired

theorem Lob.close_apart {lob : Lob} (calm : Undisturbed host g w)
    (other : lob.guards.own ≠ g.own ∧ lob.guards.own ≠ g.connection) :
    Undisturbed host g (Lob.close host lob w).2.2 := by
  rw [Lob.close_apply]
  cases firstFired w.signals (lob.guards.stops .lobClosed) with
  | some e => exact calm
  | none =>
    cases lob.position with
    | none => exact calm
    | some p =>
      obtain ⟨w', made, -, calm'⟩ :=
        (calm.fire other).callFreely (.closeLob lob.locator) { lob with position := none }
      dsimp only
      rw [made]
      exact calm'

theorem Use.lift_world {t : Operation σ ResultSet α} {st : RowStream} :
    (Use.lift t host st w).2.2 = (t host st.resultSet w).2.2 := by
  rcases run : t host st.resultSet w with ⟨a | e | _, rs', w'⟩
  · rw [Use.lift, bind_of_done (RowStream.onResultSet_of_done st run)]
    rfl
  · rw [Lease.lift_failed run]
  · rw [Use.lift, bind_of_stuck (RowStream.onResultSet_of_stuck st run)]

theorem ResultSet.close_apart {rs : ResultSet} (calm : Undisturbed host g w)
    (other : rs.guards.own ≠ g.own ∧ rs.guards.own ≠ g.connection) :
    Undisturbed host g (ResultSet.close host rs w).2.2 := by
  rw [ResultSet.close, bind_apply, ResultSet.open?_apply]
  cases rs.cursorOf w.signals with
  | error e => exact calm
  | ok cursor =>
    obtain ⟨w', made, -, calm'⟩ :=
      (calm.fire other).callFreely (.closeCursor cursor.id) { rs with cursor := none }
    dsimp only
    simp only [bind_apply, get_apply, modify_apply, fire_apply]
    rw [made]
    exact calm'

/-- A handle has a signal that neither another handle nor the connection has. -/
theorem Holdings.Sound.apart {s : Holdings} {i j : Nat} {x y : Handle} (sound : s.Sound conn w)
    (ne : i ≠ j) (at_i : s.handles[i]? = some y) (at_j : s.handles[j]? = some x) :
    y.guards.own ≠ x.guards.own ∧ y.guards.own ≠ x.guards.connection := by
  have signal : ∀ {k : Nat} {z : Handle}, s.handles[k]? = some z →
      (s.guards.map (·.own))[k]? = some z.guards.own := by
    intro k z found
    rw [guards, List.map_map, List.getElem?_map, found]
    rfl
  constructor
  · intro same
    have inside := (List.getElem?_eq_some_iff.1 (signal at_i)).1
    refine ne ((List.getElem?_inj inside sound.issued.apart).1 ?_)
    rw [signal at_i, signal at_j, same]
  · intro same
    have mem : ∀ {k : Nat} {z : Handle}, s.handles[k]? = some z → z.guards ∈ s.guards :=
      fun found => List.mem_map.2 ⟨_, List.mem_of_getElem? found, rfl⟩
    have later := (sound.issued.each _ (mem at_i)).2.1
    rw [same, (sound.issued.each _ (mem at_j)).1] at later
    exact Nat.lt_irrefl _ later

/-- What is done with handle `i` alone leaves handle `j` as it is. -/
theorem Place.run_apart {s : Holdings} {i j : Nat} {the? : Handle → Option η} {make : η → Handle}
    {t : Operation σ η (List Handle)} {x : Handle} (sound : s.Sound conn w)
    (told : ∀ x h, the? x = some h → x = make h) (ne : i ≠ j) (there : s.handles[j]? = some x)
    (nothing : ∀ h new, (t host h w).1 = .done new → new = [])
    (apart : ∀ h, Undisturbed host x.guards w →
      (make h).guards.own ≠ x.guards.own ∧ (make h).guards.own ≠ x.guards.connection →
      Undisturbed host x.guards (t host h w).2.2) :
    ((handle i the? make).run t host s w).2.1.handles[j]? = some x ∧
      (Undisturbed host x.guards w →
        Undisturbed host x.guards ((handle i the? make).run t host s w).2.2) := by
  cases found : (handle i the? make).get? s with
  | none =>
    rw [run_none found]
    exact ⟨there, id⟩
  | some h =>
    obtain ⟨y, at_i, is⟩ := Option.bind_eq_some_iff.1 found
    obtain rfl := told y h is
    rw [run_quiet found (nothing h)]
    refine ⟨?_, fun calm => apart h calm (sound.apart ne at_i there)⟩
    exact (List.getElem?_set_ne ne).trans there

theorem Step.Ends.apart {s : Holdings} {i j : Nat} {x : Handle} {step : Step}
    (ends : step.Ends i) (sound : s.Sound conn w) (ne : i ≠ j) (there : s.handles[j]? = some x) :
    (step.run host s w).2.1.handles[j]? = some x ∧
      (Undisturbed host x.guards w → Undisturbed host x.guards (step.run host s w).2.2) := by
  rcases ends with rfl | rfl | rfl | rfl
  · refine Place.run_apart sound Handle.of_lob? ne there (fun _ _ => gives_nothing) ?_
    intro wtr calm other
    rw [bind_pure_snd]
    exact Lob.close_apart calm other
  · exact Place.run_apart sound Handle.of_lob? ne there (fun _ _ => gives_nothing)
      fun wtr calm other => calm.fire other
  · refine Place.run_apart sound Handle.of_rows? ne there (fun _ _ => gives_nothing) ?_
    intro st calm other
    rw [bind_pure_snd, Use.run, bind_pure_snd, Use.lift_world]
    exact ResultSet.close_apart calm other
  · exact Place.run_apart sound Handle.of_rows? ne there (fun _ _ => gives_nothing)
      fun st calm other => calm.fire other

end Apart

/-- Whatever is done with a connection and the handles that came from it, directly or out of the
rows of others: once the connection is closed every handle is closed, whatever had become of it,
no step makes a call any more, and every use that needs the handle fails with the error of the
connection. A round trip of a handle that is in flight when the connection closes fails with it
too. Closing or cancelling one handle leaves every other as it is. -/
theorem closed_connection_closes_handles {host : Host σ} (patient : 0 < host.patience)
    (options : ConnectionOptions) (w₀ : World σ) (before later : List Step) :
    ∃ c w outs s w₁,
      (Connection.create options : Operation σ Unit Connection) host () w₀ = (.done c, (), w) ∧
      inTurn Step.run before host ⟨c, []⟩ w = (.done outs, s, w₁) ∧
      (c.isClosed w₁.signals = true → ∃ outs' s' w₂,
        inTurn Step.run later host s w₁ = (.done outs', s', w₂) ∧
        w₂.exchanges = w₁.exchanges ∧ s'.guards = s.guards ∧
        ∀ h ∈ s'.handles, h.isClosed w₂.signals = true ∧ h.Refuses host w₂) ∧
      (∀ h ∈ s.handles, ∀ (η : Type) (k : η) (v : World σ) (call : Call) (closed : Error),
        firstFired v.signals (h.guards.stops closed) = none →
        c.isClosed (v.asking (host.answer call v.session)).signals = true →
        (guarded h.guards closed call host k v).1 = .failed .connectionClosed) ∧
      ∀ i j x (step : Step), step.Ends i → i ≠ j → s.handles[j]? = some x →
        (step.run host s w₁).2.1.handles[j]? = some x ∧
        (Undisturbed host x.guards w₁ → Undisturbed host x.guards (step.run host s w₁).2.2) := by
  let c : Connection := ⟨.empty options.statementCacheSize, options, w₀.signals.fresh.1⟩
  let w : World σ := { w₀ with signals := w₀.signals.fresh.2 }
  have begun : Holdings.Sound c.closed ⟨c, []⟩ w := ⟨rfl, Nat.lt_succ_self _, .nil⟩
  obtain ⟨outs, s, w₁, run, sound, -⟩ :=
    inTurn_ends host (R := fun _ _ => True) (J := Holdings.Sound c.closed)
      (fun step _ _ _ sound => (step.sound _ sound).1) (fun _ _ _ _ => trivial) before begun
  refine ⟨c, w, outs, s, w₁, rfl, run, fun gone => ?_, ?_, ?_⟩
  · have ended : Holdings.Over c.closed s w₁ s w₁ := ⟨sound, gone, rfl, rfl⟩
    obtain ⟨outs', s', w₂, run', ended', -⟩ :=
      inTurn_ends host (R := fun _ _ => True) (J := Holdings.Over c.closed s w₁)
        (fun step _ _ _ ended => ended.step step) (fun _ _ _ _ => trivial) later ended
    exact ⟨outs', s', w₂, run', ended'.quiet, ended'.same, fun h mem =>
      ⟨Handle.isClosed_of_gone (ended'.handle mem),
        Handle.refuses_of_gone patient (ended'.handle mem)⟩⟩
  · intro h mem η k v call closed open_ gone
    have connection := (sound.issued.each _ (List.mem_map.2 ⟨h, mem, rfl⟩)).1
    exact guarded_interrupted open_ (by rw [connection]; exact gone)
  · exact fun i j x step ends ne there => ends.apart sound ne there

/-- A session that makes large objects and does nothing else. -/
def lendingHost : Host Unit where
  answer c _ := ⟨(), some ⟨0⟩, [], [], (), match c with
    | .createLob kind => .ok ⟨[1], kind, 0, 8, false⟩
    | _ => .error .invalidLob⟩
  patience := 1

/-- An object and a result set that were cancelled fail with the connection once it is closed. -/
theorem cancelled_handles_fail_with_connection :
    ∃ c w outs s w₁ outs' s' w₂,
      (Connection.create {} : Operation Unit Unit Connection) lendingHost () (World.start ()) =
        (.done c, (), w) ∧
      inTurn Step.run [.createLob .clob, .openCursor ⟨7, []⟩ {}, .lob 0 .cancel, .rows 1 .cancel,
        .close] lendingHost ⟨c, []⟩ w = (.done outs, s, w₁) ∧
      inTurn Step.run [.lob 0 .close, .rows 1 .getRow] lendingHost s w₁ = (.done outs', s', w₂) ∧
      w₂.exchanges = w₁.exchanges ∧ s'.guards = [⟨⟨1⟩, ⟨0⟩⟩, ⟨⟨2⟩, ⟨0⟩⟩] ∧
      ∀ h ∈ s'.handles, h.isClosed w₂.signals = true ∧ h.Refuses lendingHost w₂ := by
  obtain ⟨c, w, outs, s, w₁, created, run, gone, -, -⟩ :=
    closed_connection_closes_handles (show 0 < lendingHost.patience by decide) {} (World.start ())
      [.createLob .clob, .openCursor ⟨7, []⟩ {}, .lob 0 .cancel, .rows 1 .cancel, .close]
      [.lob 0 .close, .rows 1 .getRow]
  cases created
  cases run
  obtain ⟨outs', s', w₂, later, quiet, same, refused⟩ := gone rfl
  exact ⟨_, _, _, _, _, outs', s', w₂, rfl, rfl, later, quiet, same, refused⟩

end SqlBinder

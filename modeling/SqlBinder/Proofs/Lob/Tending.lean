import SqlBinder.Proofs.Lob.Writing
import SqlBinder.Proofs.Session.Turns

/-!
Uses of a handle of a large object, alone or while it is written, and what they leave as it is. A
use moves the position of the handle, makes round trips, and takes the position away when it fires
the signal; what minds none of these is preserved by every use.

`Tending` lists what a property has to mind: that the handle moves, that a call is made, that a
failure closes it. Every operation is built of these, so a property is shown for all uses, and for
uses in any order, by showing it for the items of the list.
-/
namespace SqlBinder

open Operation

variable {σ α : Type} {J : Lob → World σ → Prop} {lob : Lob} {wtr : LobWriter} {w w' : World σ}

/-! ## Uses -/

/-- What can be done with a handle, alone or while it is written. -/
inductive LobUse where
  | length
  | readChunk
  | chunks
  | getData
  | trim (size : Nat)
  /-- A new writer. -/
  | writer
  | write (data : LobData)
  | finish
  | close
  | setPieceSize (v : Value)
  | cancel
  | closeConnection

namespace LobUse

/-- An operation on the object of a writer, which has the handle as that leaves it. -/
def lift (t : Operation σ Lob α) : Operation σ LobWriter α := fun host wtr w =>
  ((t host wtr.lob w).1, { wtr with lob := (t host wtr.lob w).2.1 }, (t host wtr.lob w).2.2)

/-- The use, without what it gives back. Pieces fail if the last of them is a failure. -/
def run : LobUse → Operation σ LobWriter Unit
  | .length => do
    let _ ← lift Lob.length
  | .readChunk => do
    let _ ← lift Lob.readChunk
  | .chunks => do
    match (← lift Lob.chunks).getLast? with
    | some (.error e) => Operation.fail e
    | _ => pure ()
  | .getData => do
    let _ ← lift Lob.getData
  | .trim size => lift (Lob.trim size)
  | .writer => do
    let wtr ← lift LobWriter.start
    Operation.modify fun _ => wtr
  | .write data => LobWriter.write data
  | .finish => LobWriter.finish
  | .close => lift Lob.close
  | .setPieceSize v => do
    let lob ← Operation.ofExcept ((← Operation.get).lob.setPieceSize v)
    Operation.modify fun wtr => { wtr with lob := lob }
  | .cancel => do Operation.fire (← Operation.get).lob.guards.own
  | .closeConnection => do Operation.fire (← Operation.get).lob.guards.connection

end LobUse

/-! ## What every use preserves -/

theorem Guards.own_of_stops_none {g : Guards} {s : Signals} {closed : Error}
    (none : firstFired s (g.stops closed) = none) : s.isFired g.own = false := by
  by_contra fired
  cases connection : s.isFired g.connection <;> simp_all [stops, firstFired]

/-- Closing fires the signal before it gives the object back. -/
theorem Lob.close_apply (host : Host σ) (lob : Lob) (w : World σ) :
    close host lob w =
      match firstFired w.signals (lob.guards.stops .lobClosed), lob.position with
      | some e, _ => (.failed e, lob, w)
      | none, some _ =>
        callFreely (.closeLob lob.locator) host { lob with position := none }
          (w.fire lob.guards.own)
      | none, none => (.failed .lobClosed, lob, w) := by
  rw [close, bind_apply, open?_apply]
  cases firstFired w.signals (lob.guards.stops .lobClosed) with
  | some e => rfl
  | none => cases lob.position <;> rfl

/-- What minds none of the steps that working on a handle is made of. -/
structure Lob.Tending (J : Lob → World σ → Prop) : Prop where
  moved : ∀ {lob w} f, J lob w → J { lob with position := lob.position.map f } w
  sized : ∀ {lob w} size, J lob w → J { lob with pieceSize := size } w
  fired : ∀ {lob w} x, J lob w → J lob (w.fire x)
  called : ∀ {lob w w' c out}, J lob w → (∀ l, c ≠ .closeLob l) →
    w.signals.Grown w'.signals → w'.exchanges = w.exchanges ++ [⟨c, out⟩] → J lob w'
  /-- The handle loses its position when its signal fires. -/
  shut : ∀ {lob w}, J lob w → J { lob with position := none } (w.fire lob.guards.own)
  /-- The object is given back behind that, and only if the signal had not fired before. -/
  givenBack : ∀ {lob w w' l out}, J lob w → w.signals.isFired lob.guards.own = false →
    (w.fire lob.guards.own).signals.Grown w'.signals →
    w'.exchanges = w.exchanges ++ [⟨.closeLob l, out⟩] → J { lob with position := none } w'

namespace Lob.Tending

variable (tends : Tending J)

include tends

/-- A failure closes the handle. -/
theorem invalidated (h : J lob w) :
    J { lob with position := none } (if lob.position.isSome then w.fire lob.guards.own else w) := by
  cases there : lob.position with
  | some p => exact tends.shut h
  | none =>
    have same : { lob with position := none } = lob := by rw [← there]
    simpa [same] using h

/-! ### Uses of the object -/

omit tends in
theorem open? : Preserves J (Lob.open? : Operation σ Lob LobPosition) := by
  refine .get_bind fun lob => .bind (.check _ _) fun _ => ?_
  cases lob.position with
  | some p => exact .pure p
  | none => exact .fail _

theorem movePosition (f : LobPosition → LobPosition) :
    Preserves J (Lob.movePosition f : Operation σ Lob Unit) :=
  .modify fun _ _ h => tends.moved f h

theorem roundTrip {c : Call} (unclosing : ∀ l, c ≠ .closeLob l) :
    Preserves J (Lob.roundTrip c : Operation σ Lob c.Reply) :=
  .get_bind fun _ => .guarded _ _ fun _ _ _ _ h => tends.called h unclosing

theorem closingOnFailure {t : Operation σ Lob α} (ht : Preserves J t) :
    Preserves J (Lob.closingOnFailure t) := by
  refine .bind ht.attempt fun r => ?_
  cases r with
  | ok a => exact .pure a
  | error e =>
    refine .bind (fun host lob w h => ?_) fun _ => .fail e
    rw [invalidate_apply]
    exact tends.invalidated h

theorem length : Preserves J (Lob.length : Operation σ Lob Nat) := by
  refine .bind open? fun p => ?_
  cases p.length with
  | some n => exact .pure n
  | none =>
    refine .get_bind fun _ => .bind (tends.roundTrip nofun) fun n => ?_
    exact .bind open? fun _ => .bind (tends.movePosition _) fun _ => .pure n

theorem readChunk : Preserves J (Lob.readChunk : Operation σ Lob (Option LobData)) := by
  refine .get_bind fun _ => .bind open? fun _ => .ite (.pure _) ?_
  refine .bind (tends.closingOnFailure (tends.roundTrip nofun)) fun _ => .bind open? fun _ =>
    .ite ?_ ?_
  · exact .bind (tends.movePosition _) fun _ => .pure _
  · exact .bind (tends.movePosition _) fun _ => .pure _

theorem chunks : Preserves J (Lob.chunks : Operation σ Lob _) := by
  refine .loop (fun _ => .bind tends.readChunk.attempt fun r => ?_) _
  rcases r with e | _ | data <;> exact .pure _

theorem getData : Preserves J (Lob.getData : Operation σ Lob LobData) := by
  refine .bind open? fun _ => .get_bind fun _ => .loop (fun _ => ?_) _
  exact .bind (tends.closingOnFailure (tends.roundTrip nofun)) fun _ => .ite (.pure _) (.pure _)

theorem trim (size : Nat) : Preserves J (Lob.trim size : Operation σ Lob Unit) :=
  .bind open? fun _ => .get_bind fun _ => .bind (tends.roundTrip nofun) fun _ =>
    .bind open? fun _ => tends.movePosition _

theorem close : Preserves J (Lob.close : Operation σ Lob Unit) := by
  intro host lob w h
  rw [close_apply]
  cases stopped : firstFired w.signals (lob.guards.stops .lobClosed) with
  | some e => exact h
  | none =>
    cases lob.position with
    | none => exact h
    | some p =>
      obtain ⟨out, w', made, grown, added⟩ := call_grows (.closeLob lob.locator) ⟨none, []⟩
        host { lob with position := none } (w.fire lob.guards.own)
      dsimp only
      rw [callFreely, made]
      exact tends.givenBack h (Guards.own_of_stops_none stopped) grown added

/-! ### Uses of a writer -/

omit tends in
theorem onLob_open? : Preserves (fun wtr w => J wtr.lob w)
    (LobWriter.onLob Lob.open? : Operation σ LobWriter LobPosition) := by
  intro host wtr w h
  have opened : ∃ out, Lob.open? host wtr.lob w = (out, wtr.lob, w) := by
    rw [open?_apply]
    cases firstFired w.signals (wtr.lob.guards.stops .lobClosed) with
    | some e => exact ⟨_, rfl⟩
    | none => cases wtr.lob.position <;> exact ⟨_, rfl⟩
  obtain ⟨_ | _ | _, run⟩ := opened <;> rw [LobWriter.onLob_apply, run] <;> exact h

/-- A round trip leaves the handle as it is until its outcome is known. -/
theorem asked {c : Call} (unclosing : ∀ l, c ≠ .closeLob l) (host : Host σ) (h : J lob w) :
    ∃ out w', guarded lob.guards .lobClosed c host lob w = (out, lob, w') ∧ J lob w' := by
  have kept := tends.roundTrip unclosing host lob w h
  have same := guarded_handle lob.guards .lobClosed c host lob w
  rw [Lob.roundTrip, bind_of_done (get_apply host lob w)] at kept
  rcases run : guarded lob.guards .lobClosed c host lob w with ⟨out, lob', w'⟩
  rw [run] at kept same
  obtain rfl : lob' = lob := same
  exact ⟨out, w', rfl, kept⟩

theorem send (piece : LobData) :
    Preserves (fun wtr w => J wtr.lob w) (LobWriter.send piece : Operation σ LobWriter Unit) := by
  intro host wtr w h
  obtain ⟨out, w', run, kept⟩ :=
    tends.asked (c := .writeLob wtr.lob.locator wtr.offset piece) nofun host h
  rw [LobWriter.send_apply, run]
  cases out with
  | done r => exact tends.moved _ kept
  | failed e => exact tends.invalidated kept
  | stuck => exact kept

theorem sendPieces (size count : Nat) :
    Preserves (fun wtr w => J wtr.lob w)
      (LobWriter.sendPieces size count : Operation σ LobWriter Unit) := by
  induction count with
  | zero => exact .pure ()
  | succ count ih =>
    exact .get_bind fun _ => .bind (.modify fun _ _ h => h) fun _ => .bind (tends.send _)
      fun _ => ih

theorem write (data : LobData) :
    Preserves (fun wtr w => J wtr.lob w) (LobWriter.write data : Operation σ LobWriter Unit) := by
  refine .get_bind fun _ => .ite (.fail _) (.ite (.fail _) (.bind onLob_open? fun _ => ?_))
  refine .ite (.modify fun _ _ h => h) (.bind (.modify fun _ _ h => h) fun _ => ?_)
  exact tends.sendPieces _ _

theorem flush :
    Preserves (fun wtr w => J wtr.lob w) (LobWriter.flush : Operation σ LobWriter Unit) :=
  .get_bind fun _ => .ite (.bind (.modify fun _ _ h => h) fun _ => tends.send _)
    (.ite (tends.send _) (.pure _))

theorem commit :
    Preserves (fun wtr w => J wtr.lob w) (LobWriter.commit : Operation σ LobWriter Unit) := by
  intro host wtr w h
  obtain ⟨out, w', run, kept⟩ := tends.asked (c := .commitLob wtr.lob.locator) nofun host h
  rw [LobWriter.commit_apply, run]
  cases out with
  | done r => exact kept
  | failed e => exact tends.invalidated kept
  | stuck => exact kept

theorem finish :
    Preserves (fun wtr w => J wtr.lob w) (LobWriter.finish : Operation σ LobWriter Unit) := by
  refine .get_bind fun wtr => ?_
  cases wtr.failure with
  | some e => exact .fail e
  | none => exact .bind tends.flush fun _ => tends.commit

end Lob.Tending

namespace LobUse

omit w w' in
theorem lift_preserves {t : Operation σ Lob α} (ht : Preserves J t) :
    Preserves (fun wtr w => J wtr.lob w) (lift t) :=
  fun host wtr w h => ht host wtr.lob w h

theorem writer_apply (host : Host σ) (wtr : LobWriter) (w : World σ) :
    LobUse.writer.run host wtr w =
      match firstFired w.signals (wtr.lob.guards.stops .lobClosed), wtr.lob.position with
      | some e, _ => (.failed e, wtr, w)
      | none, some _ => (.done (), .make wtr.lob, w)
      | none, none => (.failed .lobClosed, wtr, w) := by
  simp only [run, bind_apply, lift, LobWriter.start, Lob.open?_apply]
  cases firstFired w.signals (wtr.lob.guards.stops .lobClosed) with
  | some e => rfl
  | none => cases wtr.lob.position <;> rfl

/-- Every use of a handle preserves what minds none of its steps. -/
theorem run_preserves (tends : Lob.Tending J) (u : LobUse) :
    Preserves (fun wtr w => J wtr.lob w) (u.run (σ := σ)) := by
  cases u with
  | length => exact .bind (lift_preserves tends.length) fun _ => .pure _
  | readChunk => exact .bind (lift_preserves tends.readChunk) fun _ => .pure _
  | chunks =>
    refine .bind (lift_preserves tends.chunks) fun pieces => ?_
    rcases pieces.getLast? with _ | e | piece
    · exact .pure ()
    · exact .fail e
    · exact .pure ()
  | getData => exact .bind (lift_preserves tends.getData) fun _ => .pure _
  | trim size => exact lift_preserves (tends.trim size)
  | writer =>
    intro host wtr w h
    rw [writer_apply]
    cases firstFired w.signals (wtr.lob.guards.stops .lobClosed) with
    | some e => exact h
    | none => cases wtr.lob.position <;> exact h
  | write data => exact tends.write data
  | finish => exact tends.finish
  | close => exact lift_preserves tends.close
  | setPieceSize v =>
    intro host wtr w h
    rw [run, bind_of_done (get_apply host wtr w), Lob.setPieceSize]
    cases Lob.pieceSizeOf? v with
    | none => exact h
    | some size => exact tends.sized size h
  | cancel => exact .get_bind fun _ => .fire fun _ _ h => tends.fired _ h
  | closeConnection => exact .get_bind fun _ => .fire fun _ _ h => tends.fired _ h

/-- No use changes the guards, and what has fired stays fired. -/
theorem run_grown (host : Host σ) (wtr : LobWriter) (w : World σ) (u : LobUse) :
    (u.run host wtr w).2.1.lob.guards = wtr.lob.guards ∧
      w.signals.Grown (u.run host wtr w).2.2.signals :=
  have tending : Lob.Tending (σ := σ) fun lob w' =>
      lob.guards = wtr.lob.guards ∧ w.signals.Grown w'.signals :=
    { moved := fun _ h => h
      sized := fun _ h => h
      fired := fun x h => ⟨h.1, h.2.trans (.fire _ x)⟩
      called := fun h _ grown _ => ⟨h.1, h.2.trans grown⟩
      shut := fun h => ⟨h.1, h.2.trans (.fire _ _)⟩
      givenBack := fun h _ grown _ => ⟨h.1, (h.2.trans (.fire _ _)).trans grown⟩ }
  run_preserves tending u host wtr w ⟨rfl, .refl _⟩

end LobUse

end SqlBinder

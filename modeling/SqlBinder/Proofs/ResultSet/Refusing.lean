import SqlBinder.Proofs.ResultSet.Closing

/-!
A result set whose connection is closed. Every use that needs the cursor or the columns fails with
the error of the connection, whether the result set is open, closed or cancelled, and the cursor is
not given back any more.

The signal of the connection is looked at before anything else, so the state of the result set makes
no difference. Uses are taken one by one, as each has its own way to ask for the cursor.
-/
namespace SqlBinder

open Operation

variable {σ α : Type} {rs : ResultSet} {st : RowStream} {w : World σ}

namespace ResultSet

section Gone

variable (host : Host σ) (gone : w.signals.isFired rs.guards.connection = true)

include gone

omit host in
theorem cursorOf_gone : rs.cursorOf w.signals = .error .connectionClosed := by
  simp only [cursorOf, Guards.check, Guards.stops, firstFired, gone, if_true]
  rfl

theorem open?_gone : open? host rs w = (.failed .connectionClosed, rs, w) := by
  rw [open?_apply, cursorOf_gone gone]

/-- Nothing is sent when the connection is gone. -/
theorem release_gone :
    release host rs w = (.done (), { rs with cursor := none }, w.fire rs.guards.own) := by
  have still : (w.fire rs.guards.own).signals.isFired rs.guards.connection = true := by
    simp [World.fire, gone]
  simp only [release, bind_apply, get_apply, modify_apply, fire_apply]
  cases rs.cursor with
  | none => rfl
  | some c => simp [bind_apply, still]

theorem nextRow_gone :
    nextRow host rs w =
      (.failed .connectionClosed, { rs with cursor := none }, w.fire rs.guards.own) := by
  have failed : readRow host rs w = (.failed .connectionClosed, rs, w) :=
    bind_of_failed (open?_gone host gone) _
  rw [nextRow, bind_of_done (attempt_of_failed failed)]
  exact bind_of_done (attempt_of_done (release_gone host gone)) _

theorem getRow_gone :
    getRow host rs w =
      (.failed .connectionClosed, { rs with cursor := none, fetched := true },
        w.fire rs.guards.own) := by
  rw [getRow, markFetched, bind_of_done (modify_apply host rs w _)]
  exact nextRow_gone host gone

theorem getRows_gone (limit : Nat) :
    getRows limit host rs w =
      if host.patience = 0 then (.stuck .waiting, { rs with fetched := true }, w)
      else (.failed .connectionClosed, { rs with cursor := none, fetched := true },
        w.fire rs.guards.own) := by
  have asked : ¬(limit ≠ 0 ∧ limit ≤ ([] : List Row).length) := by
    rw [List.length_nil]
    omega
  rw [getRows_eq, markFetched, bind_of_done (modify_apply host rs w _), loop]
  cases host.patience with
  | zero => rfl
  | succ rounds => exact iterate_failed asked (nextRow_gone host gone)

end Gone

end ResultSet

namespace Use

/-- What comes of a use once the connection is closed. A stream that has ended has no rows to ask
for. -/
def Denied (st : RowStream) : Use → Outcome (List Row) → Prop
  | .setFetchSize _, _ | .cancel, _ => True
  | .next, out => out = if st.ended then .done [] else .failed .connectionClosed
  | _, out => out = .failed .connectionClosed

variable (host : Host σ) (gone : w.signals.isFired st.resultSet.guards.connection = true)

include gone

theorem lift_open?_gone (f : OpenCursor → Operation σ ResultSet α) :
    lift (ResultSet.open? >>= f) host st w = (.failed .connectionClosed, st, w) :=
  Lease.lift_failed (bind_of_failed (ResultSet.open?_gone host gone) f)

theorem next_gone :
    ∃ st' w', Use.next.run host st w =
        (if st.ended then .done [] else .failed .connectionClosed, st', w') ∧
      w'.exchanges = w.exchanges := by
  have run : RowStream.next host st w =
      if st.ended then (.done none, st, w)
      else (.done (some (.error .connectionClosed)),
        ⟨{ st.resultSet with cursor := none }, true⟩, w.fire st.resultSet.guards.own) := by
    rw [RowStream.next, bind_of_done (get_apply host st w)]
    cases st.ended with
    | true => rfl
    | false =>
      simp only [Bool.false_eq_true, if_false]
      rw [bind_of_done (RowStream.onResultSet_of_failed st (ResultSet.nextRow_gone host gone))]
      rfl
  cases ended : st.ended with
  | true =>
    rw [ended, if_pos rfl] at run
    exact ⟨st, w, bind_of_done run _, rfl⟩
  | false =>
    simp only [ended, Bool.false_eq_true, if_false] at run ⊢
    exact ⟨_, _, bind_of_done run _, rfl⟩

/-- Every use is refused without a call, if it is waited for at all. -/
theorem run_gone (u : Use) :
    (0 < host.patience → u.Denied st (u.run host st w).1) ∧
      (u.run host st w).2.2.exchanges = w.exchanges := by
  have denied : ∀ {out st' w'}, u.run host st w = (out, st', w') →
      (0 < host.patience → u.Denied st out) → w'.exchanges = w.exchanges →
      (0 < host.patience → u.Denied st (u.run host st w).1) ∧
        (u.run host st w).2.2.exchanges = w.exchanges := by
    intro out st' w' run denied quiet
    rw [run]
    exact ⟨denied, quiet⟩
  have looked : ∀ {α : Type} {f : ResultSet → Signals → Except Error α},
      f st.resultSet w.signals = .error .connectionClosed →
      look f host st w = (.failed .connectionClosed, st, w) := Lease.look_failed
  have unseen := ResultSet.cursorOf_gone gone
  cases u with
  | getRow =>
    have run := Lease.lift_failed (ResultSet.getRow_gone host gone)
    exact denied (bind_of_failed run _) (fun _ => rfl) rfl
  | getRows limit =>
    have run := ResultSet.getRows_gone host gone limit
    by_cases impatient : host.patience = 0
    · rw [if_pos impatient] at run
      have stuck : lift (ResultSet.getRows limit) host st w = (.stuck .waiting, st, w) := by
        rw [lift, bind_of_stuck (RowStream.onResultSet_of_stuck st run)]
      exact denied stuck (fun patient => absurd impatient (Nat.pos_iff_ne_zero.1 patient)) rfl
    · rw [if_neg impatient] at run
      exact denied (Lease.lift_failed run) (fun _ => rfl) rfl
  | next =>
    obtain ⟨st', w', run, quiet⟩ := next_gone host gone
    exact denied run (fun _ => rfl) quiet
  | close => exact denied (bind_of_failed (lift_open?_gone host gone _) _) (fun _ => rfl) rfl
  | columns => exact denied (looked (by rw [ResultSet.columns, unseen]; rfl)) (fun _ => rfl) rfl
  | columnNames =>
    exact denied (looked (by rw [ResultSet.columnNames, unseen]; rfl)) (fun _ => rfl) rfl
  | cursorId => exact denied (looked (by rw [ResultSet.cursorId, unseen]; rfl)) (fun _ => rfl) rfl
  | intoStream =>
    exact denied (looked (by rw [RowStream.ofResultSet, unseen]; rfl)) (fun _ => rfl) rfl
  | openNested l => exact denied (bind_of_failed (lift_open?_gone host gone _) _) (fun _ => rfl) rfl
  | openLob l => exact denied (bind_of_failed (lift_open?_gone host gone _) _) (fun _ => rfl) rfl
  | setFetchSize size => exact ⟨fun _ => trivial, rfl⟩
  | cancel => exact ⟨fun _ => trivial, rfl⟩

end Use

end SqlBinder

import SqlBinder.Proofs.Connection.Calls
import SqlBinder.Proofs.ResultSet.Closing

/-!
Which calls the operations on result sets make: whatever is done with a result set, alone
or as a stream, starts no statement and leaves it with the guards it was made with. What is known
of a result set stays known if it is about neither its cursor nor the size of its fetches, and
asking for rows does not undo it.
-/
namespace SqlBinder

open Operation

variable {σ η α : Type} {P : Call → Prop} {I : ResultSet → Prop}

namespace ResultSet

/-- Result sets with these guards. -/
def Of (g : Guards) (rs : ResultSet) : Prop := rs.guards = g

/-- It is kept whatever becomes of the cursor, when rows are asked for and with other rows for
each fetch. -/
structure Stays (I : ResultSet → Prop) : Prop where
  cursor : ∀ rs cursor, I rs → I { rs with cursor := cursor }
  asked : ∀ rs, I rs → I { rs with fetched := true }
  sized : ∀ rs size, I rs → I (rs.setFetchSize size)

theorem of_stays (g : Guards) : Stays (Of g) :=
  ⟨fun _ _ h => h, fun _ h => h, fun _ _ h => h⟩

/-- That rows were asked for stays. -/
theorem fetched_stays : Stays fun rs => rs.fetched = true :=
  ⟨fun _ _ h => h, fun _ _ => rfl, fun _ _ h => h⟩

theorem open?_calls : Calls I P (open? : Operation σ ResultSet OpenCursor) :=
  .get_bind fun _ _ => .bind .signals fun _ => .ofExcept _

section Stays

variable (stays : Stays I)

include stays

theorem moveCursor_calls (f : OpenCursor → OpenCursor) :
    Calls I P (moveCursor f : Operation σ ResultSet Unit) :=
  .modify fun rs h => stays.cursor rs _ h

theorem release_calls : Calls I Call.Closes (release : Operation σ ResultSet Unit) := by
  refine .get_bind fun rs _ => .bind (.modify fun rs h => stays.cursor rs _ h) fun _ =>
    .bind (.fire _) fun _ => ?_
  cases rs.cursor with
  | none => exact .pure ()
  | some c => exact .bind .signals fun _ => .ite (.pure ()) (.callFreely trivial)

theorem fetch_calls : Calls I Call.MovesData (fetch : Operation σ ResultSet Unit) :=
  .get_bind fun _ _ => .bind open?_calls fun _ => .bind (.guarded _ _ trivial) fun _ =>
    .bind open?_calls fun _ => moveCursor_calls stays _

theorem takeRow_calls (reads : ∀ l c, Call.Reads l c → P c) :
    Calls I P (takeRow : Operation σ ResultSet (Option Row)) := by
  refine .bind open?_calls fun cursor => ?_
  cases cursor.buffer with
  | nil => exact .pure none
  | cons wires rest =>
    exact .bind (moveCursor_calls stays _) fun _ => .get_bind fun _ _ =>
      .bind (decodeRow_calls reads _ _ _ _ _) fun _ => .pure _

theorem readRow_calls :
    Calls I Call.MovesData (readRow : Operation σ ResultSet (Option Row)) := by
  have take_calls : Calls I Call.MovesData (takeRow : Operation σ ResultSet (Option Row)) :=
    takeRow_calls stays fun _ _ => Call.Reads.movesData
  rw [readRow_eq]
  exact .bind open?_calls fun _ => .ite (.bind (fetch_calls stays) fun _ => take_calls) take_calls

theorem nextRow_calls :
    Calls I Call.StartsNothing (nextRow : Operation σ ResultSet (Option Row)) := by
  refine .bind (readRow_calls stays).startsNothing.attempt fun r => ?_
  cases r with
  | ok row => exact .pure row
  | error e => exact .bind (release_calls stays).closing.attempt fun _ => .fail e

theorem getRow_calls :
    Calls I Call.StartsNothing (getRow : Operation σ ResultSet (Option Row)) :=
  .bind (.modify stays.asked) fun _ => nextRow_calls stays

theorem getRows_calls (limit : Nat) :
    Calls I Call.StartsNothing (getRows limit : Operation σ ResultSet (List Row)) := by
  refine .bind (.modify stays.asked) fun _ => .loop (fun rows => .ite (.pure _) ?_) _
  refine .bind (nextRow_calls stays) fun row => ?_
  cases row with
  | none => exact .pure _
  | some row => exact .pure _

end Stays

theorem openNested_calls (l : CursorLocator) :
    Calls I P (openNested l : Operation σ ResultSet ResultSet) :=
  .bind open?_calls fun _ => .get_bind fun _ _ => create_calls _ _ _ _ _ _ _

theorem openLob_calls (l : LobLocator) :
    Calls I P (openLob l : Operation σ ResultSet Lob) :=
  .bind open?_calls fun _ => .get_bind fun _ _ => Lob.create_calls _ _

end ResultSet

namespace RowStream

/-- Streams over a result set with these guards. -/
def Of (g : Guards) (st : RowStream) : Prop := st.resultSet.guards = g

theorem onResultSet_calls {t : Operation σ ResultSet α} (ht : Calls I P t) :
    Calls (fun st => I st.resultSet) P (onResultSet t) :=
  .get_bind fun _ h => .on_bind ht h fun _ _ hrs => .bind (.modify fun _ _ => hrs) fun _ =>
    .pure _

theorem next_calls (stays : ResultSet.Stays I) :
    Calls (fun st => I st.resultSet) Call.StartsNothing
      (next : Operation σ RowStream (Option (Except Error Row))) := by
  have finish_calls : ∀ {P}, Calls (fun st => I st.resultSet) P
      (finish : Operation σ RowStream Unit) :=
    .modify fun _ h => h
  refine .get_bind fun _ _ => .ite (.pure _) ?_
  refine .bind (onResultSet_calls (ResultSet.nextRow_calls stays)) fun r => ?_
  rcases r with e | _ | row
  · exact .bind finish_calls fun _ => .pure _
  · refine .bind finish_calls fun _ =>
      .bind (onResultSet_calls (ResultSet.release_calls stays).closing) fun r => ?_
    cases r with
    | ok _ => exact .pure _
    | error e => exact .pure _
  · exact .pure _

end RowStream

namespace Use

theorem lift_calls {t : Operation σ ResultSet α} (ht : Calls I P t) :
    Calls (fun st => I st.resultSet) P (lift t) :=
  .bind (RowStream.onResultSet_calls ht) fun _ => .ofExcept _

theorem look_calls (f : ResultSet → Signals → Except Error α) :
    Calls (fun st => I st.resultSet) P (look f : Operation σ RowStream (List Row)) :=
  .get_bind fun _ _ => .bind .signals fun _ => .bind (.ofExcept _) fun _ => .pure _

/-- No use starts a statement, and each keeps what stays. -/
theorem run_calls (stays : ResultSet.Stays I) (u : Use) :
    Calls (fun st => I st.resultSet) Call.StartsNothing
      (u.run : Operation σ RowStream (List Row)) := by
  cases u with
  | getRow => exact .bind (lift_calls (ResultSet.getRow_calls stays)) fun _ => .pure _
  | getRows limit => exact lift_calls (ResultSet.getRows_calls stays limit)
  | next =>
    refine .bind (RowStream.next_calls stays) fun r => ?_
    rcases r with _ | e | row
    · exact .pure _
    · exact .fail e
    · exact .pure _
  | close =>
    exact .bind (lift_calls (ResultSet.close_calls stays.cursor).closing) fun _ => .pure _
  | columns => exact look_calls _
  | columnNames => exact look_calls _
  | cursorId => exact look_calls _
  | intoStream => exact look_calls _
  | openNested l => exact .bind (lift_calls (ResultSet.openNested_calls l)) fun _ => .pure _
  | openLob l => exact .bind (lift_calls (ResultSet.openLob_calls l)) fun _ => .pure _
  | setFetchSize size =>
    exact .bind (.modify fun st h => stays.sized st.resultSet size h) fun _ => .pure _
  | cancel => exact .get_bind fun _ _ => .bind (.fire _) fun _ => .pure _

end Use

end SqlBinder

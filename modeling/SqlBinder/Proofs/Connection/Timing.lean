import SqlBinder.Proofs.Connection.Release
import SqlBinder.Proofs.Connection.Returned
import SqlBinder.Proofs.Session.Timing

/-!
Executions under a limit. The statement, the objects made for its content and the rows fetched
behind it are asked for within the limit. Main statement: an execution is given up at the first
of these answers that takes longer. What is written to and read from objects is not bounded: a
late answer is waited for.
-/
namespace SqlBinder

open Operation Binding

variable {σ η α β : Type} {limit : Span} {e : Error} {fails : Prop}

/-! ## Objects -/

namespace Lob

theorem open?_heeds :
    Heeds limit (open? : Operation (σ × List Asked) Lob LobPosition) := by
  refine .get_bind fun lob => .bind (.check _ _) fun _ => ?_
  cases lob.position with
  | some p => exact .pure p
  | none => exact .fail _

theorem movePosition_heeds (f : LobPosition → LobPosition) :
    Heeds limit (movePosition f : Operation (σ × List Asked) Lob Unit) :=
  .modify _

theorem roundTrip_heeds {c : Call} (unbounded : ¬c.Bounded) :
    Heeds limit (roundTrip c : Operation (σ × List Asked) Lob c.Reply) :=
  .get_bind fun _ => .guarded _ _ unbounded

theorem invalidate_tidies :
    Tidies fails (invalidate : Operation (σ × List Asked) Lob Unit) :=
  Asks.get_bind fun _ => Asks.ite (Tidies.bind (.modify _) fun _ => .fire _) (Tidies.pure _)

theorem closingOnFailure_heeds {t : Operation (σ × List Asked) Lob α} (ht : Heeds limit t) :
    Heeds limit (closingOnFailure t) :=
  .attempt_bind ht .pure fun e => .bind invalidate_tidies fun _ => .fail e

theorem close_tidies : Tidies True (close : Operation (σ × List Asked) Lob Unit) := by
  have isOpen : Tidies True (open? : Operation (σ × List Asked) Lob LobPosition) := by
    refine Asks.get_bind fun lob => Tidies.bind (.check _ _ trivial) fun _ => ?_
    cases lob.position with
    | some p => exact .pure p
    | none => exact .fail _ trivial
  exact .bind isOpen fun _ => Asks.get_bind fun lob => Tidies.bind (.modify _) fun _ =>
    .bind (.fire _) fun _ => .callFreely trivial trivial

theorem create_heeds (l : LobLocator) (connection : Signal) :
    Heeds limit (create l connection : Operation (σ × List Asked) η Lob) :=
  .bind .fresh fun _ => .pure _

end Lob

namespace LobWriter

theorem onLob_heeds {t : Operation (σ × List Asked) Lob α} (ht : Heeds limit t) :
    Heeds limit (onLob t) :=
  .get_bind fun _ => .on_bind ht (fun a _ => .bind (.modify _) fun _ => .ofExcept (.ok a))
    fun e _ => .bind (.modify _) fun _ => .fail e

theorem onLob_tidies {t : Operation (σ × List Asked) Lob α} (ht : Tidies False t) :
    Tidies False (onLob t) :=
  Asks.get_bind fun _ => Tidies.on_bind ht fun a _ => .bind (.modify _) fun _ => .pure a

theorem send_heeds (piece : LobData) :
    Heeds limit (send piece : Operation (σ × List Asked) LobWriter Unit) :=
  .get_bind fun _ => .attempt_bind (onLob_heeds (Lob.roundTrip_heeds id))
    (fun _ => .bind (.modify _) fun _ => onLob_heeds (Lob.movePosition_heeds _))
    fun e => .bind (onLob_tidies Lob.invalidate_tidies) fun _ => .bind (.modify _) fun _ => .fail e

theorem sendPieces_heeds (size count : Nat) :
    Heeds limit (sendPieces size count : Operation (σ × List Asked) LobWriter Unit) := by
  induction count with
  | zero => exact .pure ()
  | succ count ih =>
    exact .get_bind fun w => .bind (.modify _) fun _ => .bind (send_heeds _) fun _ => ih

theorem write_heeds (data : LobData) :
    Heeds limit (write data : Operation (σ × List Asked) LobWriter Unit) := by
  refine .get_bind fun w => .ite (.fail _) (.ite (.fail _) (.bind (onLob_heeds Lob.open?_heeds)
    fun _ => .ite (.modify _) (.bind (.modify _) fun _ => ?_)))
  exact sendPieces_heeds _ _

theorem flush_heeds : Heeds limit (flush : Operation (σ × List Asked) LobWriter Unit) :=
  .get_bind fun _ => .ite (.bind (.modify _) fun _ => send_heeds _) (.ite (send_heeds _) (.pure _))

theorem commit_heeds : Heeds limit (commit : Operation (σ × List Asked) LobWriter Unit) :=
  .get_bind fun _ => onLob_heeds (Lob.closingOnFailure_heeds (Lob.roundTrip_heeds id))

theorem finish_heeds : Heeds limit (finish : Operation (σ × List Asked) LobWriter Unit) := by
  refine .get_bind fun w => ?_
  cases w.failure with
  | some e => exact .fail e
  | none => exact .bind flush_heeds fun _ => commit_heeds

end LobWriter

theorem ResultSet.create_heeds (cursorId : Nat) (columns : List ColumnMetadata)
    (rows : List (List WireValue)) (moreRows : Bool) (fetchSize : Nat) (o : ConvertOptions)
    (connection : Signal) :
    Heeds limit (create cursorId columns rows moreRows fetchSize o connection :
      Operation (σ × List Asked) η ResultSet) :=
  .ite (.fail _) (.bind (.ofExcept _) fun _ => .bind .fresh fun _ => .pure _)

theorem ResultSet.close_tidies :
    Tidies True (close : Operation (σ × List Asked) ResultSet Unit) :=
  Tidies.bind (Asks.get_bind fun _ => Tidies.bind .signals fun _ => .ofExcept _ trivial) fun _ =>
    Asks.get_bind fun _ => Tidies.bind (.modify _) fun _ => .bind (.fire _) fun _ =>
      .callFreely trivial trivial

theorem readWhole_heeds (g : Guards) (closed : Error) (l : LobLocator) :
    Heeds limit (readWhole g closed l : Operation (σ × List Asked) η Value) := by
  refine .bind (.loop (fun _ => .bind (.guarded _ _ id) fun piece => ?_) _) fun data => ?_
  · exact .ite (.pure _) (.pure _)
  · exact .ite (.bind (.callFreely id) fun _ => .pure _) (.pure _)

theorem decodeColumn_heeds (g : Guards) (closed : Error) (o : ConvertOptions) (column : Column)
    (wire : WireValue) :
    Heeds limit (decodeColumn g closed o column wire : Operation (σ × List Asked) η Value) := by
  refine .bind (.ofFallible _) fun v => ?_
  cases v with
  | lob l => exact .ite (readWhole_heeds g closed l) (.pure _)
  | _ => exact .pure _

theorem decodeColumns_heeds (g : Guards) (closed : Error) (o : ConvertOptions)
    (cells : List (Column × WireValue)) :
    Heeds limit (decodeColumns g closed o cells : Operation (σ × List Asked) η (List Value)) := by
  induction cells with
  | nil => exact .pure _
  | cons cell rest ih =>
    exact .bind (decodeColumn_heeds g closed o cell.1 cell.2) fun _ => .bind ih fun _ => .pure _

theorem decodeRow_heeds (g : Guards) (closed : Error) (columns : Columns) (o : ConvertOptions)
    (wires : List WireValue) :
    Heeds limit (decodeRow g closed columns o wires : Operation (σ × List Asked) η (List Value)) :=
  .ite (.fail _) (decodeColumns_heeds g closed o _)

namespace Connection

theorem checkOpen_heeds :
    Heeds limit (checkOpen : Operation (σ × List Asked) Connection Unit) :=
  .get_bind fun _ => .bind .signals fun _ => .ite (.fail _) (.pure _)

/-- The limit is the one of the round trip. -/
theorem roundTrip_heeds (c : Call) :
    Heeds limit (roundTrip (some limit) c : Operation (σ × List Asked) Connection c.Reply) :=
  .bind checkOpen_heeds fun _ => .call_within c

/-! ## On the way out -/

theorem fill_heeds (data : LobData) :
    Heeds limit (fill data : Operation (σ × List Asked) Lob Unit) := by
  rw [fill_eq]
  refine .bind Lob.open?_heeds fun _ => .get_bind fun lob => .on_bind ?_ ?_ ?_
  · exact .bind (LobWriter.write_heeds data) fun _ => LobWriter.finish_heeds
  · exact fun a _ => .bind (.modify _) fun _ => .ofExcept (.ok a)
  · exact fun e _ => .bind (.modify _) fun _ => .fail e

theorem discard_tidies (lob : Lob) :
    Tidies fails (discard lob : Operation (σ × List Asked) Connection Unit) :=
  Tidies.bind .signals fun _ =>
    Asks.ite (Tidies.bind (.on Lob.close_tidies) fun _ => .pure _) (Tidies.pure _)

theorem releaseLobs_tidies (lobs : List Lob) :
    Tidies fails (releaseLobs lobs : Operation (σ × List Asked) Connection Unit) := by
  induction lobs with
  | nil => exact .pure ()
  | cons lob rest ih => exact .bind (.on Lob.close_tidies) fun _ => ih

section Bounded

variable {o : ExecuteOptions} (bounded : o.callTimeout = some limit)

include bounded

theorem fillTemporary_heeds (data : LobData) :
    Heeds limit (fillTemporary data o : Operation (σ × List Asked) Connection Lob) := by
  rw [fillTemporary, bounded]
  refine .bind (roundTrip_heeds _) fun _ => .get_bind fun _ => .bind (Lob.create_heeds _ _)
    fun lob => .on_bind (fill_heeds data) (fun _ lob => .pure lob) fun e lob => ?_
  exact .bind (discard_tidies lob) fun _ => .fail e

theorem bindAll_heeds (lobs : List Lob) (pending : List PendingBind) :
    Heeds limit (bindAll o lobs pending :
      Operation (σ × List Asked) Connection (List BoundValue × List Lob)) := by
  induction pending generalizing lobs with
  | nil => exact .pure _
  | cons p rest ih =>
    cases p with
    | ready d wire => exact .bind (ih lobs) fun _ => .pure _
    | content d data =>
      exact .attempt_bind (fillTemporary_heeds bounded data)
        (fun _ => .bind (ih _) fun _ => .pure _)
        fun e => .bind (releaseLobs_tidies lobs) fun _ => .fail e

theorem transmit_heeds (sql : String) (info : Statement.Info) (pending : List PendingBind) :
    Heeds limit (transmit sql info pending o :
      Operation (σ × List Asked) Connection ExecuteResponse) := by
  rw [transmit, bounded]
  exact .bind (bindAll_heeds bounded [] pending) fun out =>
    .attempt_bind (roundTrip_heeds _)
      (fun r => .bind (.of_tidies (releaseLobs_tidies out.2)) fun _ => .pure r)
      fun e => .bind (releaseLobs_tidies out.2) fun _ => .fail e

theorem send_heeds (sql : String) (binds : Binds) :
    Heeds limit (send sql binds o :
      Operation (σ × List Asked) Connection (List Descriptor × ExecuteResponse)) :=
  .bind checkOpen_heeds fun _ => .bind (.get_bind fun _ => .bind (.modify _) fun _ => .pure _)
    fun info => .bind (.ofExcept _) fun _ => .bind (.ofExcept _) fun pending =>
      .bind (transmit_heeds bounded sql info pending) fun _ => .pure _

end Bounded

/-! ## On the way back -/

theorem releaseCursor_tidies (id : Nat) :
    Tidies fails (releaseCursor id : Operation (σ × List Asked) Connection Unit) :=
  Asks.ite (Tidies.bind (.attempt (.callFreely trivial trivial)) fun _ => .pure _) (Tidies.pure _)

theorem releaseWires_tidies (wires : List WireValue) :
    Tidies fails (releaseWires wires : Operation (σ × List Asked) Connection Unit) := by
  induction wires with
  | nil => exact .pure ()
  | cons wire rest ih =>
    cases wire with
    | cursor l => exact .bind (releaseCursor_tidies l.id) fun _ => ih
    | _ => exact ih

theorem releaseOutBinds_tidies (outBinds : List OutBind) :
    Tidies fails (releaseOutBinds outBinds : Operation (σ × List Asked) Connection Unit) := by
  induction outBinds with
  | nil => exact .pure ()
  | cons b rest ih =>
    rw [releaseOutBinds]
    cases b.value with
    | lob lob => exact .bind (.on Lob.close_tidies) fun _ => ih
    | resultSet rs => exact .bind (.on ResultSet.close_tidies) fun _ => ih
    | value v => exact ih

theorem releasing_heeds (outBinds : List OutBind) {t : Operation (σ × List Asked) Connection α}
    (ht : Heeds limit t) : Heeds limit (releasing outBinds t) :=
  .attempt_bind ht .pure fun e => .bind (releaseOutBinds_tidies outBinds) fun _ => .fail e

theorem releasingCursor_heeds (id : Nat) {t : Operation (σ × List Asked) Connection α}
    (ht : Heeds limit t) : Heeds limit (releasingCursor id t) :=
  .attempt_bind ht .pure fun e => .bind (releaseCursor_tidies id) fun _ => .fail e

theorem ownGuards_heeds :
    Heeds limit (ownGuards : Operation (σ × List Asked) Connection Guards) :=
  .bind .fresh fun _ => .get_bind fun _ => .pure _

theorem promotedValue_heeds (d : Descriptor) (v : Value) :
    Heeds limit (promotedValue d v : Operation (σ × List Asked) Connection OutValue) :=
  .ite (.fail _) (.pure _)

theorem decodeOutBind_heeds (d : Descriptor) (wire : WireValue) (o : ExecuteOptions) :
    Heeds limit (decodeOutBind d wire o : Operation (σ × List Asked) Connection OutValue) := by
  refine .ite (.fail _) (.bind (.ofFallible _) fun v => ?_)
  cases v with
  | cursor l =>
    exact .bind (.bind checkOpen_heeds fun _ => .get_bind fun _ =>
      ResultSet.create_heeds _ _ _ _ _ _ _) fun _ => .pure _
  | lob l =>
    refine .ite (.bind ownGuards_heeds fun g => .bind (readWhole_heeds g _ l) fun _ =>
      promotedValue_heeds d _) (.bind ?_ fun _ => .pure _)
    exact .bind checkOpen_heeds fun _ => .get_bind fun _ => Lob.create_heeds _ _
  | _ => exact .ite (promotedValue_heeds d _) (.pure _)

theorem decodeEach_heeds (o : ExecuteOptions) (decoded : List OutBind)
    (pairs : List (Descriptor × WireValue)) :
    Heeds limit (decodeEach o decoded pairs :
      Operation (σ × List Asked) Connection (List OutBind)) := by
  induction pairs generalizing decoded with
  | nil => exact .pure _
  | cons pair rest ih =>
    exact .attempt_bind (decodeOutBind_heeds pair.1 pair.2 o) (fun _ => ih _) fun e =>
      .bind (releaseOutBinds_tidies decoded) fun _ => .bind (releaseWires_tidies _) fun _ =>
        .fail e

theorem decodeOutBinds_heeds (outs : List Descriptor) (wires : List WireValue)
    (o : ExecuteOptions) :
    Heeds limit (decodeOutBinds outs wires o :
      Operation (σ × List Asked) Connection (List OutBind)) :=
  .ite (.bind (.of_tidies (releaseWires_tidies wires)) fun _ => .fail _)
    (decodeEach_heeds o _ _)

theorem decodeRows_heeds (g : Guards) (columns : Columns) (o : ExecuteOptions) (rows : List Row)
    (wires : List (List WireValue)) :
    Heeds limit (decodeRows g columns o rows wires :
      Operation (σ × List Asked) Connection (List Row)) := by
  induction wires generalizing rows with
  | nil => exact .pure _
  | cons wire rest ih =>
    exact .ite (.pure _) (.bind (decodeRow_heeds g _ columns o.convert wire) fun _ => ih _)

section Bounded

variable {o : ExecuteOptions} (bounded : o.callTimeout = some limit)

include bounded

theorem fetchRound_heeds (g : Guards) (columns : Columns) (cursorId : Nat)
    (at_ : List Row × List (List WireValue) × Bool) :
    Heeds limit (fetchRound g columns cursorId o at_ :
      Operation (σ × List Asked) Connection _) := by
  obtain ⟨rows, wires, moreRows⟩ := at_
  rw [fetchRound, bounded]
  exact .bind (decodeRows_heeds g columns o rows wires) fun _ =>
    .ite (.pure _) (.bind (roundTrip_heeds _) fun _ => .pure _)

theorem fetchAll_heeds (columns : Columns) (cursorId : Nat) (first : List (List WireValue))
    (moreRows : Bool) :
    Heeds limit (fetchAll columns cursorId first moreRows o :
      Operation (σ × List Asked) Connection (List Row)) :=
  .attempt_bind
    (.bind ownGuards_heeds fun g => .loop (fetchRound_heeds bounded g columns cursorId) _)
    (fun _ => .ite (.bind (.callFreely id) fun _ => .pure _) (.pure _))
    fun e => .bind (releaseCursor_tidies cursorId) fun _ => .fail e

theorem receiveRows_heeds (outBinds : List OutBind) (described : List ColumnMetadata)
    (response : ExecuteResponse) :
    Heeds limit (receiveRows outBinds described response o :
      Operation (σ × List Asked) Connection ExecuteResult) := by
  refine .bind (releasingCursor_heeds _ (.ofExcept _)) fun columns => .ite ?_ ?_
  · exact .get_bind fun c => .bind (ResultSet.create_heeds _ _ _ _ _ _ _) fun _ => .pure _
  · exact .bind (fetchAll_heeds bounded columns _ _ _) fun _ => .pure _

theorem receive_heeds (outs : List Descriptor) (response : ExecuteResponse) :
    Heeds limit (receive outs response o :
      Operation (σ × List Asked) Connection ExecuteResult) := by
  refine .bind (releasingCursor_heeds _ (decodeOutBinds_heeds outs _ o)) fun outBinds => ?_
  cases response.columns with
  | none => exact .pure _
  | some described =>
    exact releasing_heeds _ (receiveRows_heeds bounded outBinds described response)

theorem execute_heeds (sql : String) (binds : Binds) :
    Heeds limit (execute sql binds o :
      Operation (σ × List Asked) Connection ExecuteResult) :=
  .bind (send_heeds bounded sql binds) fun sent => receive_heeds bounded sent.1 sent.2

end Bounded

/-! ## Late answers -/

/-- An execution with a limit is given up at the first bounded round trip whose answer takes
longer, wherever it is made: for an object, for the statement, or for more rows. -/
theorem execute_given_up {host : Host σ} {sql : String} {binds : Binds} {o : ExecuteOptions}
    {c c' : Connection} {w w' : World (σ × List Asked)} {out : Outcome ExecuteResult}
    (bounded : o.callTimeout = some limit)
    (run : execute sql binds o host.timed c w = (out, c', w')) :
    ∃ asked, w'.session.2 = w.session.2 ++ asked ∧
      ((∃ p ∈ asked, p.1.Bounded ∧ Late limit p.2) → GivenUp limit out asked) := by
  obtain ⟨asked, noted, heeded⟩ := execute_heeds bounded sql binds host c w
  rw [run] at noted heeded
  refine ⟨asked, noted, ?_⟩
  rintro ⟨p, hp, within, late⟩
  exact heeded.resolve_left fun punctual => punctual p hp within late

/-- Twenty milliseconds for each round trip, with character objects read in place. -/
def hasty : ExecuteOptions :=
  { callTimeout := some ⟨20000⟩, convert := { fetchAsText := [.clob] } }

/-- A store that answers the first call of a method after sixty milliseconds. The next execution
hands out a row with a character object. -/
def delaying (method : Memory.Method) : Memory.Store :=
  { Memory.Store.empty 4 with
    lobs := [⟨[1], .text "x", none, false⟩]
    execute := [{ columns := some [⟨"C", 112, 0, 0, 0, 0, true⟩]
                  rows := [[.lob ⟨[1], .clob, 1, 4, false⟩]] }]
    faults := [⟨method, 1, .delays ⟨60000⟩⟩] }

/-- A query with content for an object, of which the first call of a method takes too long. -/
def delayed (method : Memory.Method) :
    Outcome ExecuteResult × Connection × World (Memory.Store × List Asked) :=
  execute "select c from t where c like :c" clobContent hasty (Memory.Store.host 9).timed first
    (opened (delaying method, []))

/-- The time that was noted for the first call of a method, with what came behind it. -/
def notedFor? (method : Memory.Method) (asked : List Asked) :
    Option (Option Span × List Memory.Method) :=
  match asked.dropWhile fun p => Memory.Method.ofCall p.1 != method with
  | [] => none
  | p :: rest => some (p.2, rest.map fun q => Memory.Method.ofCall q.1)

theorem notedFor?_mem {method : Memory.Method} {asked : List Asked} {span : Option Span}
    {rest : List Memory.Method} (noted : notedFor? method asked = some (span, rest)) :
    ∃ p ∈ asked, Memory.Method.ofCall p.1 = method ∧ p.2 = span := by
  unfold notedFor? at noted
  split at noted
  case h_1 => cases noted
  case h_2 p rest found =>
    have mem : p ∈ asked :=
      (List.dropWhile_suffix _).subset (found ▸ List.mem_cons_self)
    have first := List.head?_dropWhile_not
      (fun p : Asked => Memory.Method.ofCall p.1 != method) asked
    rw [found] at first
    cases noted
    exact ⟨p, mem, by simpa using first, rfl⟩

theorem bounded_of_execute {c : Call} (method : Memory.Method.ofCall c = .execute) :
    c.Bounded := by
  cases c <;> trivial

/-- The object made for the content of a statement that takes too long is given back, and the
execution fails with the limit. -/
theorem late_statement_given_up :
    ∃ out c' w', delayed .execute = (out, c', w') ∧
      (∃ p ∈ w'.session.2, p.1.Bounded ∧ Late ⟨20000⟩ p.2) ∧
        GivenUp ⟨20000⟩ out w'.session.2 := by
  have noted : notedFor? .execute (delayed .execute).2.2.session.2 =
      some (some ⟨60000⟩, [.closeLob]) := by
    decide +kernel
  rcases run : delayed .execute with ⟨out, c', w'⟩
  rw [run] at noted
  obtain ⟨p, mem, method, span⟩ := notedFor?_mem noted
  have late : ∃ p ∈ w'.session.2, p.1.Bounded ∧ Late ⟨20000⟩ p.2 := by
    refine ⟨p, mem, bounded_of_execute method, ?_⟩
    rw [span]
    exact (by decide : 20000 < 60000)
  have limited : hasty.callTimeout = some ⟨20000⟩ := rfl
  obtain ⟨asked, same, given⟩ := execute_given_up limited run
  obtain rfl : w'.session.2 = asked := same
  exact ⟨out, c', w', rfl, late, given late⟩

/-- The call that takes too long is waited for: the execution is done. -/
def WaitedFor (method : Memory.Method) : Prop :=
  ∃ r c' w', delayed method = (.done r, c', w') ∧
    ∃ p ∈ w'.session.2, Memory.Method.ofCall p.1 = method ∧ Late ⟨20000⟩ p.2

theorem waitedFor_of {method : Memory.Method}
    (found : (donePassing (fun _ => true) (delayed method) &&
      ((notedFor? method (delayed method).2.2.session.2).map (·.1) == some (some ⟨60000⟩))) =
        true) : WaitedFor method := by
  rw [Bool.and_eq_true, beq_iff_eq, Option.map_eq_some_iff] at found
  obtain ⟨passed, ⟨span, rest⟩, noted, same⟩ := found
  obtain ⟨r, c', w', run, -⟩ := donePassing_iff.1 passed
  rw [run] at noted
  obtain ⟨p, mem, ofMethod, waited⟩ := notedFor?_mem noted
  refine ⟨r, c', w', run, p, mem, ofMethod, ?_⟩
  rw [waited, show span = some ⟨60000⟩ from same]
  exact (by decide : 20000 < 60000)

/-- Content that is written, committed or read in place too late is waited for. -/
theorem late_content_waited_for :
    WaitedFor .writeLob ∧ WaitedFor .commitLob ∧ WaitedFor .readLob :=
  ⟨waitedFor_of (by decide +kernel), waitedFor_of (by decide +kernel),
    waitedFor_of (by decide +kernel)⟩

end Connection

end SqlBinder

import SqlBinder.Connection.Execute
import SqlBinder.Proofs.Lob.Calls

/-!
Which calls the parts of an execution make. What prepares binds and what decodes moves data only;
releasing closes cursors too; nothing but the round trip of the statement itself starts one. No part
but the scan changes the connection.

There is one lemma for each operation, from the rules of `Calls`. They tell what may be asked at
most, whatever the session answers; what is asked in fact, and in which order, is followed for each
run where it is needed.
-/
namespace SqlBinder

open Operation Binding

variable {σ η α : Type} {I : Connection → Prop} {P : Call → Prop}

/-- A call that moves rows or the content of objects, or gives an object back. -/
def Call.MovesData : Call → Prop
  | .execute _ | .executeMany _ | .prepare _ | .closeCursor _ => False
  | _ => True

/-- A call that starts no statement. -/
def Call.StartsNothing : Call → Prop
  | .execute _ | .executeMany _ | .prepare _ => False
  | _ => True

/-- A call that gives something back: a cursor or an object. -/
def Call.Closes : Call → Prop
  | .closeCursor _ | .closeLob _ => True
  | _ => False

theorem Call.Writes.movesData {l : LobLocator} {c : Call} (h : Call.Writes l c) : c.MovesData := by
  cases h <;> trivial

theorem Call.Reads.movesData {l : LobLocator} {c : Call} (h : Call.Reads l c) : c.MovesData := by
  cases h <;> trivial

theorem Call.MovesData.startsNothing {c : Call} (h : c.MovesData) : c.StartsNothing := by
  cases c <;> first | exact h.elim | trivial

theorem Call.Closes.startsNothing {c : Call} (h : c.Closes) : c.StartsNothing := by
  cases c <;> first | exact h.elim | trivial

theorem Operation.Calls.startsNothing {I : η → Prop} {t : Operation σ η α}
    (h : Calls I Call.MovesData t) : Calls I Call.StartsNothing t :=
  h.mono fun _ => Call.MovesData.startsNothing

theorem Operation.Calls.closing {I : η → Prop} {t : Operation σ η α} (h : Calls I Call.Closes t) :
    Calls I Call.StartsNothing t :=
  h.mono fun _ => Call.Closes.startsNothing

/-! ## Rows -/

section Rows

variable {I : η → Prop}

section Reading

variable (reads : ∀ l c, Call.Reads l c → P c)

include reads

theorem decodeColumn_calls (g : Guards) (closed : Error) (o : ConvertOptions) (column : Column)
    (wire : WireValue) :
    Calls I P (decodeColumn g closed o column wire : Operation σ η Value) := by
  refine .bind (.ofFallible _) fun v => ?_
  cases v with
  | lob l => exact .ite ((readWhole_calls g closed l).mono (reads l)) (.pure _)
  | _ => exact .pure _

theorem decodeColumns_calls (g : Guards) (closed : Error) (o : ConvertOptions)
    (cells : List (Column × WireValue)) :
    Calls I P (decodeColumns g closed o cells : Operation σ η (List Value)) := by
  induction cells with
  | nil => exact .pure _
  | cons cell rest ih =>
    exact .bind (decodeColumn_calls reads g closed o cell.1 cell.2) fun _ => .bind ih fun _ =>
      .pure _

/-- A row asks for nothing but the content of its objects. -/
theorem decodeRow_calls (g : Guards) (closed : Error) (columns : Columns) (o : ConvertOptions)
    (wires : List WireValue) :
    Calls I P (decodeRow g closed columns o wires : Operation σ η (List Value)) :=
  .ite (.fail _) (decodeColumns_calls reads g closed o _)

end Reading

theorem ResultSet.create_calls (cursorId : Nat) (columns : List ColumnMetadata)
    (rows : List (List WireValue)) (moreRows : Bool) (fetchSize : Nat) (o : ConvertOptions)
    (connection : Signal) :
    Calls I P (create cursorId columns rows moreRows fetchSize o connection :
      Operation σ η ResultSet) :=
  .ite (.fail _) (.bind (.ofExcept _) fun _ => .bind .fresh fun _ => .pure _)

theorem Lob.create_apply (l : LobLocator) (connection : Signal) (host : Host σ) (h : η)
    (w : World σ) :
    create l connection host h w =
      (.done (make l w.signals.fresh.1 connection), h, { w with signals := w.signals.fresh.2 }) :=
  rfl

theorem Lob.create_calls (l : LobLocator) (connection : Signal) :
    Calls I P (create l connection : Operation σ η Lob) :=
  .bind .fresh fun _ => .pure _

end Rows

/-- Closing a result set does nothing else. -/
theorem ResultSet.close_calls {I : ResultSet → Prop}
    (hI : ∀ rs c, I rs → I { rs with cursor := c }) :
    Calls I Call.Closes (close : Operation σ ResultSet Unit) := by
  refine .bind (.get_bind fun rs _ => .bind .signals fun _ => .ofExcept _) fun cursor =>
    .get_bind fun rs _ => .bind (.modify fun rs h => hI rs _ h) fun _ => .bind (.fire _) fun _ => ?_
  exact .callFreely trivial

namespace Connection

theorem checkOpen_apply (host : Host σ) (c : Connection) (w : World σ) :
    checkOpen host c w =
      if c.isClosed w.signals then (.failed .connectionClosed, c, w) else (.done (), c, w) := by
  rw [checkOpen, bind_of_done (get_apply host c w), bind_of_done (signals_apply host c w)]
  split <;> rfl

/-- A round trip is made unless the connection is closed. -/
theorem roundTrip_apply (limit : Option Span) (call : Call) (host : Host σ) (c : Connection)
    (w : World σ) :
    roundTrip limit call host c w =
      if c.isClosed w.signals then (.failed .connectionClosed, c, w)
      else Operation.call call ⟨limit, []⟩ host c w := by
  rw [roundTrip, bind_apply, checkOpen_apply]
  cases c.isClosed w.signals <;> rfl

theorem checkOpen_calls : Calls I P (checkOpen : Operation σ Connection Unit) :=
  .get_bind fun _ _ => .bind .signals fun _ => .ite (.fail _) (.pure _)

theorem roundTrip_calls {c : Call} (limit : Option Span) (hc : P c) :
    Calls I P (roundTrip limit c : Operation σ Connection c.Reply) :=
  .bind checkOpen_calls fun _ => .call hc _

theorem ownGuards_calls : Calls I P (ownGuards : Operation σ Connection Guards) :=
  .bind .fresh fun _ => .get_bind fun _ _ => .pure _

theorem openLob_calls (l : LobLocator) : Calls I P (openLob l : Operation σ Connection Lob) :=
  .bind checkOpen_calls fun _ => .get_bind fun _ _ => Lob.create_calls _ _

theorem openCursor_calls (l : CursorLocator) (o : ExecuteOptions) :
    Calls I P (openCursor l o : Operation σ Connection ResultSet) :=
  .bind checkOpen_calls fun _ => .get_bind fun _ _ => ResultSet.create_calls _ _ _ _ _ _ _

/-! ## On the way out -/

theorem close_lob_calls (lob : Lob) :
    Calls I (· = .closeLob lob.locator) (Operation.on lob Lob.close : Operation σ Connection _) :=
  .on (J := Lob.Of lob.locator) Lob.close_calls rfl

theorem discard_calls (lob : Lob) :
    Calls I Call.MovesData (discard lob : Operation σ Connection Unit) := by
  refine .bind .signals fun _ =>
    .ite (.bind ((close_lob_calls lob).mono ?_) fun _ => .pure _) (.pure _)
  rintro _ rfl
  trivial

theorem fillTemporary_calls (data : LobData) (o : ExecuteOptions) :
    Calls I Call.MovesData (fillTemporary data o : Operation σ Connection Lob) := by
  refine .bind (roundTrip_calls _ trivial) fun raw => .get_bind fun c _ =>
    .bind (Lob.create_calls _ _) fun lob => ?_
  refine .on_bind (J := Lob.Of lob.locator)
    ((fill_calls data).mono fun _ => Call.Writes.movesData) rfl fun r lob _ => ?_
  cases r with
  | ok _ => exact .pure lob
  | error e => exact .bind (discard_calls lob) fun _ => .fail e

theorem releaseLobs_calls (lobs : List Lob) :
    Calls I Call.MovesData (releaseLobs lobs : Operation σ Connection Unit) := by
  induction lobs with
  | nil => exact .pure ()
  | cons lob rest ih =>
    refine .bind ((close_lob_calls lob).mono ?_) fun _ => ih
    rintro _ rfl
    trivial

theorem bindAll_calls (o : ExecuteOptions) (lobs : List Lob) (pending : List PendingBind) :
    Calls I Call.MovesData
      (bindAll o lobs pending : Operation σ Connection (List BoundValue × List Lob)) := by
  induction pending generalizing lobs with
  | nil => exact .pure _
  | cons p rest ih =>
    cases p with
    | ready d wire => exact .bind (ih lobs) fun _ => .pure _
    | content d data =>
      refine .bind (fillTemporary_calls data o).attempt fun r => ?_
      cases r with
      | ok lob => exact .bind (ih _) fun _ => .pure _
      | error e => exact .bind (releaseLobs_calls lobs) fun _ => .fail e

/-! ## On the way back -/

theorem releaseCursor_calls (id : Nat) :
    Calls I Call.Closes (releaseCursor id : Operation σ Connection Unit) :=
  .ite (.bind (Calls.attempt (.callFreely trivial)) fun _ => .pure _) (.pure _)

theorem releaseWires_calls (wires : List WireValue) :
    Calls I Call.Closes (releaseWires wires : Operation σ Connection Unit) := by
  induction wires with
  | nil => exact .pure ()
  | cons wire rest ih =>
    cases wire with
    | cursor l => exact .bind (releaseCursor_calls l.id) fun _ => ih
    | _ => exact ih

theorem releaseOutBinds_calls (outBinds : List OutBind) :
    Calls I Call.Closes (releaseOutBinds outBinds : Operation σ Connection Unit) := by
  induction outBinds with
  | nil => exact .pure ()
  | cons b rest ih =>
    rw [releaseOutBinds]
    cases b.value with
    | lob lob =>
      refine .bind ((close_lob_calls lob).mono ?_) fun _ => ih
      rintro _ rfl
      trivial
    | resultSet rs =>
      exact .bind (.on (J := fun _ => True) (ResultSet.close_calls fun _ _ h => h) trivial)
        fun _ => ih
    | value v => exact ih

theorem promotedValue_calls (d : Descriptor) (v : Value) :
    Calls I P (promotedValue d v : Operation σ Connection OutValue) :=
  .ite (.fail _) (.pure _)

theorem decodeOutBind_calls (d : Descriptor) (wire : WireValue) (o : ExecuteOptions) :
    Calls I Call.MovesData (decodeOutBind d wire o : Operation σ Connection OutValue) := by
  refine .ite (.fail _) (.bind (.ofFallible _) fun v => ?_)
  cases v with
  | cursor l => exact .bind (openCursor_calls l o) fun _ => .pure _
  | lob l =>
    refine .ite (.bind ownGuards_calls fun g => .bind ?_ fun _ => promotedValue_calls d _)
      (.bind (openLob_calls l) fun _ => .pure _)
    exact (readWhole_calls g _ l).mono fun _ => Call.Reads.movesData
  | _ => exact .ite (promotedValue_calls d _) (.pure _)

theorem decodeEach_calls (o : ExecuteOptions) (decoded : List OutBind)
    (pairs : List (Descriptor × WireValue)) :
    Calls I Call.StartsNothing
      (decodeEach o decoded pairs : Operation σ Connection (List OutBind)) := by
  induction pairs generalizing decoded with
  | nil => exact .pure _
  | cons pair rest ih =>
    refine .bind (decodeOutBind_calls pair.1 pair.2 o).startsNothing.attempt fun r => ?_
    cases r with
    | ok v => exact ih _
    | error e =>
      exact .bind (releaseOutBinds_calls _).closing fun _ =>
        .bind (releaseWires_calls _).closing fun _ => .fail e

theorem decodeOutBinds_calls (outs : List Descriptor) (wires : List WireValue)
    (o : ExecuteOptions) :
    Calls I Call.StartsNothing
      (decodeOutBinds outs wires o : Operation σ Connection (List OutBind)) :=
  .ite (.bind (releaseWires_calls _).closing fun _ => .fail _) (decodeEach_calls o _ _)

theorem decodeRows_calls (g : Guards) (columns : Columns) (o : ExecuteOptions) (rows : List Row)
    (wires : List (List WireValue)) :
    Calls I Call.MovesData (decodeRows g columns o rows wires : Operation σ Connection _) := by
  induction wires generalizing rows with
  | nil => exact .pure _
  | cons wire rest ih =>
    exact .ite (.pure _)
      (.bind (decodeRow_calls (fun _ _ => Call.Reads.movesData) _ _ _ _ _) fun _ => ih _)

theorem fetchRound_calls (g : Guards) (columns : Columns) (cursorId : Nat) (o : ExecuteOptions)
    (at_ : List Row × List (List WireValue) × Bool) :
    Calls I Call.MovesData (fetchRound g columns cursorId o at_ : Operation σ Connection _) := by
  refine .bind (decodeRows_calls _ _ _ _ _) fun _ => ?_
  exact .ite (.pure _) (.bind (roundTrip_calls _ trivial) fun _ => .pure _)

theorem fetchRows_calls (columns : Columns) (cursorId : Nat) (first : List (List WireValue))
    (moreRows : Bool) (o : ExecuteOptions) :
    Calls I Call.MovesData
      (fetchRows columns cursorId first moreRows o : Operation σ Connection _) :=
  .bind ownGuards_calls fun g => .loop (fetchRound_calls g columns cursorId o) _

theorem fetchAll_calls (columns : Columns) (cursorId : Nat) (first : List (List WireValue))
    (moreRows : Bool) (o : ExecuteOptions) :
    Calls I Call.StartsNothing
      (fetchAll columns cursorId first moreRows o : Operation σ Connection _) := by
  refine .bind (fetchRows_calls _ _ _ _ _).startsNothing.attempt fun r => ?_
  cases r with
  | ok rows => exact .ite (.bind (.callFreely trivial) fun _ => .pure _) (.pure _)
  | error e => exact .bind (releaseCursor_calls _).closing fun _ => .fail e

theorem releasing_calls (outBinds : List OutBind) {t : Operation σ Connection α}
    (ht : Calls I Call.StartsNothing t) : Calls I Call.StartsNothing (releasing outBinds t) := by
  refine .bind ht.attempt fun r => ?_
  cases r with
  | ok a => exact .pure a
  | error e => exact .bind (releaseOutBinds_calls _).closing fun _ => .fail e

theorem releasingCursor_calls (id : Nat) {t : Operation σ Connection α}
    (ht : Calls I Call.StartsNothing t) : Calls I Call.StartsNothing (releasingCursor id t) := by
  refine .bind ht.attempt fun r => ?_
  cases r with
  | ok a => exact .pure a
  | error e => exact .bind (releaseCursor_calls _).closing fun _ => .fail e

theorem receiveRows_calls (outBinds : List OutBind) (described : List ColumnMetadata)
    (response : ExecuteResponse) (o : ExecuteOptions) :
    Calls I Call.StartsNothing
      (receiveRows outBinds described response o : Operation σ Connection _) := by
  refine .bind (releasingCursor_calls _ (.ofExcept _)) fun columns => ?_
  refine .ite
    (.get_bind fun c _ => .bind (ResultSet.create_calls _ _ _ _ _ _ _) fun _ => .pure _) ?_
  exact .bind (fetchAll_calls _ _ _ _ _) fun _ => .pure _

/-- What is done with a response starts nothing. -/
theorem receive_calls (outs : List Descriptor) (response : ExecuteResponse) (o : ExecuteOptions) :
    Calls I Call.StartsNothing (receive outs response o : Operation σ Connection _) := by
  refine .bind (releasingCursor_calls _ (decodeOutBinds_calls _ _ _)) fun outBinds => ?_
  cases response.columns with
  | none => exact .pure _
  | some described => exact releasing_calls _ (receiveRows_calls _ _ _ _)

theorem decodeBatch_calls (o : ExecuteOptions) (decoded : List (List OutBind))
    (rows : List (List Descriptor × List WireValue)) :
    Calls I Call.StartsNothing (decodeBatch o decoded rows : Operation σ Connection _) := by
  induction rows generalizing decoded with
  | nil => exact .pure _
  | cons row rest ih =>
    refine .bind (decodeOutBinds_calls row.1 row.2 o).attempt fun r => ?_
    cases r with
    | ok outBinds => exact ih _
    | error e => exact .bind (releaseOutBinds_calls _).closing fun _ => .fail e

/-- What is done with the response to a batch starts nothing. -/
theorem receiveBatch_calls (outs : List (List Descriptor)) (response : BatchResponse)
    (o : ExecuteOptions) :
    Calls I Call.StartsNothing (receiveBatch outs response o : Operation σ Connection _) :=
  .ite (.fail _) (.ite (.fail _) (.bind (decodeBatch_calls o _ _) fun _ => .pure _))

end Connection

end SqlBinder

import SqlBinder.Connection.Execute
import SqlBinder.Proofs.Session.Blind

/-!
What a connection keeps of its statements is never seen. A kept scan is what the text says, so only
the look into the cache itself touches it, and that comes to the same with any cache. Every
operation of a connection is therefore blind to it.

There is one lemma for each operation, in the order in which operations are built from one another,
and each of them applies the rules of `Blind` step by step. So when one operation changes, its own
lemma is all that has to be looked at again.
-/
namespace SqlBinder

open Operation Binding

variable {σ η α : Type}

/-! ## Rows and objects -/

section Rows

variable {R : η → η → Prop}

theorem readWhole_blind (g : Guards) (closed : Error) (l : LobLocator) :
    Blind R (readWhole g closed l : Operation σ η Value) := by
  refine .bind (.loop (fun read => .bind (.guarded g closed _) fun piece => ?_) _) fun data => ?_
  · exact .ite (.pure _) (.pure _)
  · exact .ite (.bind (.callFreely _) fun _ => .pure _) (.pure _)

theorem decodeColumn_blind (g : Guards) (closed : Error) (o : ConvertOptions) (column : Column)
    (wire : WireValue) : Blind R (decodeColumn g closed o column wire : Operation σ η Value) := by
  refine .bind (.ofFallible _) fun v => ?_
  cases v with
  | lob l => exact .ite (readWhole_blind g closed l) (.pure _)
  | _ => exact .pure _

theorem decodeColumns_blind (g : Guards) (closed : Error) (o : ConvertOptions)
    (cells : List (Column × WireValue)) :
    Blind R (decodeColumns g closed o cells : Operation σ η (List Value)) := by
  induction cells with
  | nil => exact .pure _
  | cons cell rest ih =>
    exact .bind (decodeColumn_blind g closed o cell.1 cell.2) fun _ => .bind ih fun _ => .pure _

theorem decodeRow_blind (g : Guards) (closed : Error) (columns : Columns) (o : ConvertOptions)
    (wires : List WireValue) :
    Blind R (decodeRow g closed columns o wires : Operation σ η (List Value)) :=
  .ite (.fail _) (decodeColumns_blind g closed o _)

theorem ResultSet.create_blind (cursorId : Nat) (columns : List ColumnMetadata)
    (rows : List (List WireValue)) (moreRows : Bool) (fetchSize : Nat) (o : ConvertOptions)
    (connection : Signal) :
    Blind R (create cursorId columns rows moreRows fetchSize o connection :
      Operation σ η ResultSet) :=
  .ite (.fail _) (.bind (.ofExcept _) fun _ => .bind .fresh fun _ => .pure _)

theorem Lob.create_blind (l : LobLocator) (connection : Signal) :
    Blind R (create l connection : Operation σ η Lob) :=
  .bind .fresh fun _ => .pure _

end Rows

namespace Connection

/-- Connections that differ at most in the statements that they keep, and in how many they
would. -/
structure SameButCache (c c' : Connection) : Prop where
  closed : c.closed = c'.closed
  defaults : c.options.defaults = c'.options.defaults

theorem SameButCache.isClosed {c c' : Connection} (same : SameButCache c c') :
    c.isClosed = c'.isClosed := by
  funext s
  simp only [Connection.isClosed, same.closed]

/-- Whatever is kept, the scan of a text is what the text says. -/
theorem scan_blind (sql : String) :
    Blind SameButCache (scan sql : Operation σ Connection Statement.Info) := by
  intro host c c' w same
  -- The caches differ before and after; what they give is fixed by their type.
  refine ⟨.done (Statement.scan sql), { c with cache := (c.cache.get sql).2 },
    { c' with cache := (c'.cache.get sql).2 }, w, ?_, ?_, same.closed, same.defaults⟩
  all_goals
    rw [← Statement.Cache.info_get]
    rfl

theorem checkOpen_blind : Blind SameButCache (checkOpen : Operation σ Connection Unit) :=
  .get_bind (fun c c' same => by simp only [same.isClosed]) fun _ =>
    .bind .signals fun _ => .ite (.fail _) (.pure _)

theorem roundTrip_blind (limit : Option Span) (c : Call) :
    Blind SameButCache (roundTrip limit c : Operation σ Connection c.Reply) :=
  .bind checkOpen_blind fun _ => .call c _

theorem ownGuards_blind : Blind SameButCache (ownGuards : Operation σ Connection Guards) :=
  .bind .fresh fun _ => .get_bind (fun c c' same => by rw [same.closed]) fun _ => .pure _

theorem openLob_blind (l : LobLocator) :
    Blind SameButCache (openLob l : Operation σ Connection Lob) :=
  .bind checkOpen_blind fun _ => .get_bind (fun c c' same => by rw [same.closed]) fun _ =>
    Lob.create_blind l _

theorem openCursor_blind (l : CursorLocator) (o : ExecuteOptions) :
    Blind SameButCache (openCursor l o : Operation σ Connection ResultSet) :=
  .bind checkOpen_blind fun _ => .get_bind (fun c c' same => by rw [same.closed]) fun _ =>
    ResultSet.create_blind _ _ _ _ _ _ _

theorem createLob_blind (kind : LobKind) :
    Blind SameButCache (createLob kind : Operation σ Connection Lob) :=
  .get_bind (fun c c' same => by rw [same.defaults, same.closed]) fun c =>
    .bind (roundTrip_blind _ _) fun _ => Lob.create_blind _ _

theorem resolveBinds_blind (sql : String) (binds : Binds) (o : ExecuteOptions) :
    Blind SameButCache (resolveBinds sql binds o : Operation σ Connection (List Descriptor)) :=
  .bind (scan_blind sql) fun _ => .ofExcept _

theorem statementInfo_blind (sql : String) :
    Blind SameButCache (statementInfo sql : Operation σ Connection Statement.Info) := by
  refine .bind checkOpen_blind fun _ => .bind (scan_blind sql) fun info =>
    .get_bind (fun c c' same => by rw [same.defaults]) fun c =>
      .bind (roundTrip_blind _ _) fun server => ?_
  exact .ite (.fail _) (.pure _)

/-! ## On the way out -/

theorem discard_blind (lob : Lob) :
    Blind SameButCache (discard lob : Operation σ Connection Unit) :=
  .bind .signals fun _ => .ite (.bind (.on lob _) fun _ => .pure _) (.pure _)

theorem fillTemporary_blind (data : LobData) (o : ExecuteOptions) :
    Blind SameButCache (fillTemporary data o : Operation σ Connection Lob) := by
  refine .bind (roundTrip_blind _ _) fun raw =>
    .get_bind (fun c c' same => by rw [same.closed]) fun c =>
      .bind (Lob.create_blind _ _) fun lob => .bind (.on lob _) fun filled => ?_
  obtain ⟨_ | e, lob⟩ := filled
  · exact .bind (discard_blind lob) fun _ => .fail _
  · exact .pure lob

theorem releaseLobs_blind (lobs : List Lob) :
    Blind SameButCache (releaseLobs lobs : Operation σ Connection Unit) := by
  induction lobs with
  | nil => exact .pure ()
  | cons lob rest ih => exact .bind (.on lob _) fun _ => ih

theorem bindAll_blind (o : ExecuteOptions) (lobs : List Lob) (pending : List PendingBind) :
    Blind SameButCache
      (bindAll o lobs pending : Operation σ Connection (List BoundValue × List Lob)) := by
  induction pending generalizing lobs with
  | nil => exact .pure _
  | cons p rest ih =>
    cases p with
    | ready d wire => exact .bind (ih lobs) fun _ => .pure _
    | content d data =>
      refine .bind (fillTemporary_blind data o).attempt fun r => ?_
      cases r with
      | ok lob => exact .bind (ih _) fun _ => .pure _
      | error e => exact .bind (releaseLobs_blind lobs) fun _ => .fail e

theorem transmit_blind (sql : String) (info : Statement.Info) (pending : List PendingBind)
    (o : ExecuteOptions) : Blind SameButCache
      (transmit sql info pending o : Operation σ Connection ExecuteResponse) :=
  .bind (bindAll_blind o [] pending) fun _ => .bind (roundTrip_blind _ _).attempt fun _ =>
    .bind (releaseLobs_blind _) fun _ => .ofExcept _

theorem send_blind (sql : String) (binds : Binds) (o : ExecuteOptions) :
    Blind SameButCache
      (send sql binds o : Operation σ Connection (List Descriptor × ExecuteResponse)) :=
  .bind checkOpen_blind fun _ => .bind (scan_blind sql) fun _ => .bind (.ofExcept _) fun _ =>
    .bind (.ofExcept _) fun _ => .bind (transmit_blind _ _ _ _) fun _ => .pure _

/-! ## On the way back -/

theorem releaseCursor_blind (id : Nat) :
    Blind SameButCache (releaseCursor id : Operation σ Connection Unit) :=
  .ite (.bind (Blind.attempt (.callFreely _)) fun _ => .pure _) (.pure _)

theorem releaseWires_blind (wires : List WireValue) :
    Blind SameButCache (releaseWires wires : Operation σ Connection Unit) := by
  induction wires with
  | nil => exact .pure ()
  | cons wire rest ih =>
    cases wire with
    | cursor l => exact .bind (releaseCursor_blind l.id) fun _ => ih
    | _ => exact ih

theorem releaseOutBinds_blind (outBinds : List OutBind) :
    Blind SameButCache (releaseOutBinds outBinds : Operation σ Connection Unit) := by
  induction outBinds with
  | nil => exact .pure ()
  | cons b rest ih =>
    rw [releaseOutBinds]
    cases b.value with
    | lob lob => exact .bind (.on lob _) fun _ => ih
    | resultSet rs => exact .bind (.on rs _) fun _ => ih
    | value v => exact ih

theorem promotedValue_blind (d : Descriptor) (v : Value) :
    Blind SameButCache (promotedValue d v : Operation σ Connection OutValue) :=
  .ite (.fail _) (.pure _)

theorem decodeOutBind_blind (d : Descriptor) (wire : WireValue) (o : ExecuteOptions) :
    Blind SameButCache (decodeOutBind d wire o : Operation σ Connection OutValue) := by
  refine .ite (.fail _) (.bind (.ofFallible _) fun v => ?_)
  cases v with
  | cursor l => exact .bind (openCursor_blind l o) fun _ => .pure _
  | lob l =>
    refine .ite (.bind ownGuards_blind fun g => .bind (readWhole_blind g _ l) fun _ => ?_) ?_
    · exact promotedValue_blind d _
    · exact .bind (openLob_blind l) fun _ => .pure _
  | _ => exact .ite (promotedValue_blind d _) (.pure _)

theorem decodeEach_blind (o : ExecuteOptions) (decoded : List OutBind)
    (pairs : List (Descriptor × WireValue)) :
    Blind SameButCache (decodeEach o decoded pairs : Operation σ Connection (List OutBind)) := by
  induction pairs generalizing decoded with
  | nil => exact .pure _
  | cons pair rest ih =>
    refine .bind (decodeOutBind_blind pair.1 pair.2 o).attempt fun r => ?_
    cases r with
    | ok v => exact ih _
    | error e =>
      exact .bind (releaseOutBinds_blind _) fun _ => .bind (releaseWires_blind _) fun _ => .fail e

theorem decodeOutBinds_blind (outs : List Descriptor) (wires : List WireValue)
    (o : ExecuteOptions) :
    Blind SameButCache (decodeOutBinds outs wires o : Operation σ Connection (List OutBind)) :=
  .ite (.bind (releaseWires_blind _) fun _ => .fail _) (decodeEach_blind o _ _)

theorem decodeRows_blind (g : Guards) (columns : Columns) (o : ExecuteOptions) (rows : List Row)
    (wires : List (List WireValue)) :
    Blind SameButCache (decodeRows g columns o rows wires : Operation σ Connection (List Row)) := by
  induction wires generalizing rows with
  | nil => exact .pure _
  | cons wire rest ih =>
    exact .ite (.pure _) (.bind (decodeRow_blind _ _ _ _ _) fun _ => ih _)

theorem fetchRows_blind (columns : Columns) (cursorId : Nat) (first : List (List WireValue))
    (moreRows : Bool) (o : ExecuteOptions) : Blind SameButCache
      (fetchRows columns cursorId first moreRows o : Operation σ Connection (List Row)) := by
  refine .bind ownGuards_blind fun g => .loop (fun at_ => ?_) _
  refine .bind (decodeRows_blind g columns o _ _) fun rows => ?_
  exact .ite (.pure _) (.bind (roundTrip_blind _ _) fun _ => .pure _)

theorem fetchAll_blind (columns : Columns) (cursorId : Nat) (first : List (List WireValue))
    (moreRows : Bool) (o : ExecuteOptions) : Blind SameButCache
      (fetchAll columns cursorId first moreRows o : Operation σ Connection (List Row)) := by
  refine .bind (fetchRows_blind _ _ _ _ _).attempt fun r => ?_
  cases r with
  | ok rows => exact .ite (.bind (.callFreely _) fun _ => .pure _) (.pure _)
  | error e => exact .bind (releaseCursor_blind _) fun _ => .fail e

theorem releasing_blind (outBinds : List OutBind) {t : Operation σ Connection α}
    (ht : Blind SameButCache t) : Blind SameButCache (releasing outBinds t) := by
  refine .bind ht.attempt fun r => ?_
  cases r with
  | ok a => exact .pure a
  | error e => exact .bind (releaseOutBinds_blind _) fun _ => .fail e

theorem releasingCursor_blind (id : Nat) {t : Operation σ Connection α}
    (ht : Blind SameButCache t) : Blind SameButCache (releasingCursor id t) := by
  refine .bind ht.attempt fun r => ?_
  cases r with
  | ok a => exact .pure a
  | error e => exact .bind (releaseCursor_blind _) fun _ => .fail e

theorem receiveRows_blind (outBinds : List OutBind) (described : List ColumnMetadata)
    (response : ExecuteResponse) (o : ExecuteOptions) : Blind SameButCache
      (receiveRows outBinds described response o : Operation σ Connection ExecuteResult) := by
  refine .bind (releasingCursor_blind _ (.ofExcept _)) fun columns => .ite ?_ ?_
  · exact .get_bind (fun c c' same => by rw [same.closed]) fun c =>
      .bind (ResultSet.create_blind _ _ _ _ _ _ _) fun _ => .pure _
  · exact .bind (fetchAll_blind _ _ _ _ _) fun _ => .pure _

theorem receive_blind (outs : List Descriptor) (response : ExecuteResponse) (o : ExecuteOptions) :
    Blind SameButCache (receive outs response o : Operation σ Connection ExecuteResult) := by
  refine .bind (releasingCursor_blind _ (decodeOutBinds_blind _ _ _)) fun outBinds => ?_
  cases response.columns with
  | none => exact .pure _
  | some described => exact releasing_blind _ (receiveRows_blind _ _ _ _)

theorem decodeBatch_blind (o : ExecuteOptions) (decoded : List (List OutBind))
    (rows : List (List Descriptor × List WireValue)) :
    Blind SameButCache
      (decodeBatch o decoded rows : Operation σ Connection (List (List OutBind))) := by
  induction rows generalizing decoded with
  | nil => exact .pure _
  | cons row rest ih =>
    refine .bind (decodeOutBinds_blind row.1 row.2 o).attempt fun r => ?_
    cases r with
    | ok outBinds => exact ih _
    | error e => exact .bind (releaseOutBinds_blind _) fun _ => .fail e

theorem receiveBatch_blind (outs : List (List Descriptor)) (response : BatchResponse)
    (o : ExecuteOptions) :
    Blind SameButCache (receiveBatch outs response o : Operation σ Connection BatchResult) :=
  .ite (.fail _) (.ite (.fail _) (.bind (decodeBatch_blind o _ _) fun _ => .pure _))

/-! ## Executions -/

theorem execute_blind (sql : String) (binds : Binds) (o : ExecuteOptions) :
    Blind SameButCache (execute sql binds o : Operation σ Connection ExecuteResult) :=
  .bind (send_blind sql binds o) fun _ => receive_blind _ _ o

theorem query_blind (sql : String) (binds : Binds) :
    Blind SameButCache (query sql binds : Operation σ Connection (List Row)) :=
  .get_bind (fun c c' same => by rw [same.defaults]) fun _ =>
    .bind (execute_blind sql binds _) fun _ => .pure _

theorem executeMany_blind (sql : String) (rows : List Binds) (o : ExecuteOptions) :
    Blind SameButCache (executeMany sql rows o : Operation σ Connection BatchResult) := by
  refine .bind (.bind checkOpen_blind fun _ => .bind (scan_blind sql) fun _ =>
    .bind (.ofExcept _) fun _ => .bind (roundTrip_blind _ _) fun _ => .pure _) fun _ => ?_
  exact receiveBatch_blind _ _ o

end Connection

end SqlBinder

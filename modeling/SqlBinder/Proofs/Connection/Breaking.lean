import SqlBinder.Connection.Execute
import SqlBinder.Proofs.Conversion.Breaking
import SqlBinder.Proofs.Lob.Calls
import SqlBinder.Proofs.Session.Breaking

/-!
Executions that do not break off. What prepares an execution, what moves content and what gives
things back decodes nothing, and nothing there breaks off. What decodes the response does not either
as long as every value in it is sound. Main statement: behind an execution that breaks off stands a
value that the session reported for a bind or in a row, a date whose text was asked for in a pattern
that cannot be followed or a number that is too long.
-/
namespace SqlBinder

open Operation Binding

variable {σ η α : Type} {ok : WireValue → Prop} {P : Prop}

/-! ## Objects -/

namespace Lob

theorem open?_holds : Holds ok P (open? : Operation σ Lob LobPosition) := by
  refine .get_bind fun lob => .bind (.check _ _) fun _ => ?_
  cases lob.position with
  | some p => exact .pure fun _ => trivial
  | none => exact .fail _

theorem roundTrip_holds (c : Call) : Holds ok P (roundTrip c : Operation σ Lob c.Reply) :=
  .get_bind fun _ => .guarded _ _ c

theorem invalidate_holds : Holds ok P (invalidate : Operation σ Lob Unit) :=
  .get_bind fun _ => .ite (.bind (.modify _) fun _ => .fire _) (.pure fun _ => trivial)

theorem closingOnFailure_holds {t : Operation σ Lob α} (ht : ∀ {P}, Holds ok P t) :
    Holds ok P (closingOnFailure t) :=
  .attempt_bind ht (fun _ => .pure fun _ => trivial) fun e =>
    .bind invalidate_holds fun _ => .fail e

theorem close_holds : Holds ok P (close : Operation σ Lob Unit) :=
  .bind open?_holds fun _ => .get_bind fun _ => .bind (.modify _) fun _ => .bind (.fire _) fun _ =>
    .callFreely _

theorem create_holds (l : LobLocator) (connection : Signal) :
    Holds ok P (create l connection : Operation σ η Lob) :=
  .bind .fresh fun _ => .pure fun _ => trivial

end Lob

namespace LobWriter

theorem onLob_holds {t : Operation σ Lob α} (ht : Holds ok P t) : Holds ok P (onLob t) :=
  .get_bind fun _ => .on_bind ht
    (fun _ _ => .bind (.modify _) fun _ => .ofExcept fun _ _ _ => trivial)
    fun _ _ => .bind (.modify _) fun _ => .ofExcept fun _ _ _ => trivial

theorem send_holds (piece : LobData) :
    Holds ok P (send piece : Operation σ LobWriter Unit) :=
  .get_bind fun _ => .attempt_bind (onLob_holds (Lob.roundTrip_holds _))
    (fun _ => .bind (.modify _) fun _ => onLob_holds (.modify _))
    fun e => .bind (onLob_holds Lob.invalidate_holds) fun _ => .bind (.modify _) fun _ => .fail e

theorem sendPieces_holds (size count : Nat) :
    Holds ok P (sendPieces size count : Operation σ LobWriter Unit) := by
  induction count generalizing P with
  | zero => exact .pure fun _ => trivial
  | succ count ih =>
    exact .get_bind fun _ => .bind (.modify _) fun _ => .bind (send_holds _) fun _ => ih

theorem write_holds (data : LobData) :
    Holds ok P (write data : Operation σ LobWriter Unit) := by
  refine .get_bind fun w => .ite (.fail _) (.ite (.fail _) (.bind (onLob_holds Lob.open?_holds)
    fun _ => .ite (.modify _) (.bind (.modify _) fun _ => ?_)))
  exact sendPieces_holds _ _

theorem flush_holds : Holds ok P (flush : Operation σ LobWriter Unit) :=
  .get_bind fun _ => .ite (.bind (.modify _) fun _ => send_holds _)
    (.ite (send_holds _) (.pure fun _ => trivial))

theorem commit_holds : Holds ok P (commit : Operation σ LobWriter Unit) :=
  .get_bind fun _ => onLob_holds (Lob.closingOnFailure_holds (Lob.roundTrip_holds _))

theorem finish_holds : Holds ok P (finish : Operation σ LobWriter Unit) := by
  refine .get_bind fun w => ?_
  cases w.failure with
  | some e => exact .fail e
  | none => exact .bind flush_holds fun _ => commit_holds

end LobWriter

theorem readWhole_holds (g : Guards) (closed : Error) (l : LobLocator) :
    Holds ok P (readWhole g closed l : Operation σ η Value) := by
  have read : Holds ok P (loop (readPiece g closed l) (1, LobData.empty l.kind) :
      Operation σ η LobData) := by
    refine .loop (I := fun _ => True) (fun b => ?_) fun _ => trivial
    exact .bind (.guarded _ _ _) fun _ => .ite (.pure fun _ => trivial) (.pure fun _ => trivial)
  exact .bind read fun _ =>
    .ite (.bind (.callFreely _) fun _ => .pure fun _ => trivial) (.pure fun _ => trivial)

theorem ResultSet.create_holds (cursorId : Nat) (columns : List ColumnMetadata)
    (rows : List (List WireValue)) (moreRows : Bool) (fetchSize : Nat) (o : ConvertOptions)
    (connection : Signal) :
    Holds ok P (create cursorId columns rows moreRows fetchSize o connection :
      Operation σ η ResultSet) :=
  .ite (.fail _) (.bind (.ofExcept fun _ _ _ => trivial) fun _ => .bind .fresh fun _ =>
    .pure fun _ => trivial)

theorem ResultSet.close_holds : Holds ok P (close : Operation σ ResultSet Unit) :=
  .bind (.get_bind fun _ => .bind .signals fun _ => .ofExcept fun _ _ _ => trivial) fun _ =>
    .get_bind fun _ => .bind (.modify _) fun _ => .bind (.fire _) fun _ => .callFreely _

/-! ## Rows -/

section Rows

variable {o : ConvertOptions}

theorem decodeColumn_holds (g : Guards) (closed : Error) (column : Column) {wire : WireValue}
    (sound : P → wire.Sound o) :
    Holds (WireValue.Sound o) P
      (decodeColumn g closed o column wire : Operation σ η Value) := by
  refine .bind (.ofFallible fun p => DbType.decode_ne_brokenOff (sound p)) fun v => ?_
  cases v with
  | lob l => exact .ite (readWhole_holds g closed l) (.pure fun _ => trivial)
  | _ => exact .pure fun _ => trivial

theorem decodeColumns_holds (g : Guards) (closed : Error) (cells : List (Column × WireValue))
    (sound : P → ∀ cell ∈ cells, cell.2.Sound o) :
    Holds (WireValue.Sound o) P
      (decodeColumns g closed o cells : Operation σ η (List Value)) := by
  induction cells generalizing P with
  | nil => exact .pure fun _ => trivial
  | cons cell rest ih =>
    refine .bind (decodeColumn_holds g closed cell.1 fun p => sound p cell List.mem_cons_self)
      fun _ => .bind (ih fun p cell mem => ?_) fun _ => .pure fun _ => trivial
    exact sound p.1 cell (List.mem_cons_of_mem _ mem)

theorem decodeRow_holds (g : Guards) (closed : Error) (columns : Columns) (wires : List WireValue)
    (sound : P → ∀ wire ∈ wires, wire.Sound o) :
    Holds (WireValue.Sound o) P
      (decodeRow g closed columns o wires : Operation σ η (List Value)) :=
  .ite (.fail _) (decodeColumns_holds g closed _ fun p _ mem => sound p _ (List.of_mem_zip mem).2)

end Rows

namespace Connection

theorem checkOpen_holds : Holds ok P (checkOpen : Operation σ Connection Unit) :=
  .get_bind fun _ => .bind .signals fun _ => .ite (.fail _) (.pure fun _ => trivial)

theorem roundTrip_gives (limit : Option Span) (c : Call) :
    Gives ok P (fun r => ∀ v ∈ Exchange.reported ⟨c, .done r⟩, ok v)
      (roundTrip limit c : Operation σ Connection c.Reply) :=
  .bind checkOpen_holds fun _ => .call c _

theorem ownGuards_holds : Holds ok P (ownGuards : Operation σ Connection Guards) :=
  .bind .fresh fun _ => .get_bind fun _ => .pure fun _ => trivial

theorem openLob_holds (l : LobLocator) : Holds ok P (openLob l : Operation σ Connection Lob) :=
  .bind checkOpen_holds fun _ => .get_bind fun _ => Lob.create_holds _ _

theorem openCursor_holds (l : CursorLocator) (o : ExecuteOptions) :
    Holds ok P (openCursor l o : Operation σ Connection ResultSet) :=
  .bind checkOpen_holds fun _ => .get_bind fun _ => ResultSet.create_holds _ _ _ _ _ _ _

/-! ## On the way out -/

theorem fill_holds (data : LobData) : Holds ok P (fill data : Operation σ Lob Unit) := by
  rw [fill_eq]
  refine .bind Lob.open?_holds fun _ => .get_bind fun _ =>
    .on_bind (.bind (LobWriter.write_holds data) fun _ => LobWriter.finish_holds) ?_ ?_
  · exact fun _ _ => .bind (.modify _) fun _ => .ofExcept fun _ _ _ => trivial
  · exact fun _ _ => .bind (.modify _) fun _ => .ofExcept fun _ _ _ => trivial

theorem discard_holds (lob : Lob) : Holds ok P (discard lob : Operation σ Connection Unit) :=
  .bind .signals fun _ => .ite (.on_bind Lob.close_holds (fun _ _ => .pure fun _ => trivial)
    fun _ _ => .pure fun _ => trivial) (.pure fun _ => trivial)

theorem fillTemporary_holds (data : LobData) (o : ExecuteOptions) :
    Holds ok P (fillTemporary data o : Operation σ Connection Lob) :=
  .bind (roundTrip_gives _ _) fun _ => .get_bind fun _ => .bind (Lob.create_holds _ _) fun _ =>
    .on_bind (fill_holds data) (fun _ _ => .pure fun _ => trivial)
      fun e lob => .bind (discard_holds lob) fun _ => .fail e

theorem releaseLobs_holds (lobs : List Lob) :
    Holds ok P (releaseLobs lobs : Operation σ Connection Unit) := by
  induction lobs generalizing P with
  | nil => exact .pure fun _ => trivial
  | cons lob rest ih => exact .on_bind Lob.close_holds (fun _ _ => ih) fun _ _ => ih

theorem bindAll_holds (o : ExecuteOptions) (lobs : List Lob) (pending : List PendingBind) :
    Holds ok P (bindAll o lobs pending :
      Operation σ Connection (List BoundValue × List Lob)) := by
  induction pending generalizing lobs P with
  | nil => exact .pure fun _ => trivial
  | cons p rest ih =>
    cases p with
    | ready d wire => exact .bind (ih lobs) fun _ => .pure fun _ => trivial
    | content d data =>
      exact .attempt_bind (fillTemporary_holds data o)
        (fun _ => .bind (ih _) fun _ => .pure fun _ => trivial)
        fun e => .bind (releaseLobs_holds lobs) fun _ => .fail e

/-- What comes back from an execution was reported for it. -/
theorem transmit_gives (sql : String) (info : Statement.Info) (pending : List PendingBind)
    (o : ExecuteOptions) :
    Gives ok P (fun response : ExecuteResponse =>
        ∀ v ∈ response.outBinds ++ response.rows.flatten, ok v)
      (transmit sql info pending o : Operation σ Connection ExecuteResponse) := by
  refine .bind (bindAll_holds o [] pending) fun _ => .attempt_bind (roundTrip_gives _ _) ?_ ?_
  · exact fun response => .bind (releaseLobs_holds _) fun _ => .pure fun p => p.1.2
  · exact fun e => .bind (releaseLobs_holds _) fun _ => .fail e

theorem send_gives (sql : String) (binds : Binds) (o : ExecuteOptions) :
    Gives ok P (fun sent : List Descriptor × ExecuteResponse =>
        ∀ v ∈ sent.2.outBinds ++ sent.2.rows.flatten, ok v)
      (send sql binds o : Operation σ Connection _) := by
  have scanned : ∀ {P}, Holds ok P (scan sql : Operation σ Connection Statement.Info) :=
    .get_bind fun _ => .bind (.modify _) fun _ => .pure fun _ => trivial
  exact .bind checkOpen_holds fun _ => .bind scanned fun _ =>
    .bind (.ofExcept fun _ _ _ => trivial) fun _ => .bind (.ofExcept fun _ _ _ => trivial) fun _ =>
      .bind (transmit_gives sql _ _ o) fun _ => .pure fun p => p.2

/-! ## On the way back -/

theorem releaseCursor_holds (id : Nat) :
    Holds ok P (releaseCursor id : Operation σ Connection Unit) :=
  .ite (.attempt_bind (.callFreely _) (fun _ => .pure fun _ => trivial)
    fun _ => .pure fun _ => trivial) (.pure fun _ => trivial)

theorem releaseWires_holds (wires : List WireValue) :
    Holds ok P (releaseWires wires : Operation σ Connection Unit) := by
  induction wires generalizing P with
  | nil => exact .pure fun _ => trivial
  | cons wire rest ih =>
    cases wire with
    | cursor l => exact .bind (releaseCursor_holds l.id) fun _ => ih
    | _ => exact ih

theorem releaseOutBinds_holds (outBinds : List OutBind) :
    Holds ok P (releaseOutBinds outBinds : Operation σ Connection Unit) := by
  induction outBinds generalizing P with
  | nil => exact .pure fun _ => trivial
  | cons b rest ih =>
    rw [releaseOutBinds]
    cases b.value with
    | lob lob => exact .on_bind Lob.close_holds (fun _ _ => ih) fun _ _ => ih
    | resultSet rs => exact .on_bind ResultSet.close_holds (fun _ _ => ih) fun _ _ => ih
    | value v => exact ih

theorem releasing_holds (outBinds : List OutBind) {t : Operation σ Connection α}
    (ht : Holds ok P t) : Holds ok P (releasing outBinds t) :=
  .attempt_bind ht (fun _ => .pure fun _ => trivial) fun e =>
    .bind (releaseOutBinds_holds _) fun _ => .fail e

theorem releasingCursor_holds (id : Nat) {t : Operation σ Connection α} (ht : Holds ok P t) :
    Holds ok P (releasingCursor id t) :=
  .attempt_bind ht (fun _ => .pure fun _ => trivial) fun e =>
    .bind (releaseCursor_holds _) fun _ => .fail e

section Sound

variable {o : ExecuteOptions}

theorem decodeOutBind_holds (d : Descriptor) {wire : WireValue}
    (sound : P → wire.Sound o.convert) :
    Holds (WireValue.Sound o.convert) P
      (decodeOutBind d wire o : Operation σ Connection OutValue) := by
  have promoted : ∀ {P} v, Holds (WireValue.Sound o.convert) P
      (promotedValue d v : Operation σ Connection OutValue) :=
    fun _ => .ite (.fail _) (.pure fun _ => trivial)
  refine .ite (.fail _)
    (.bind (.ofFallible fun p => DbType.decode_ne_brokenOff (sound p)) fun v => ?_)
  cases v with
  | cursor l => exact .bind (openCursor_holds l o) fun _ => .pure fun _ => trivial
  | lob l =>
    exact .ite (.bind ownGuards_holds fun _ => .bind (readWhole_holds _ _ _) fun _ => promoted _)
      (.bind (openLob_holds l) fun _ => .pure fun _ => trivial)
  | _ => exact .ite (promoted _) (.pure fun _ => trivial)

theorem decodeEach_holds (decoded : List OutBind) (pairs : List (Descriptor × WireValue))
    (sound : P → ∀ pair ∈ pairs, pair.2.Sound o.convert) :
    Holds (WireValue.Sound o.convert) P
      (decodeEach o decoded pairs : Operation σ Connection (List OutBind)) := by
  induction pairs generalizing decoded P with
  | nil => exact .pure fun _ => trivial
  | cons pair rest ih =>
    refine .attempt_bind (decodeOutBind_holds pair.1 fun p => sound p pair List.mem_cons_self)
      (fun v => ih _ fun p other mem => ?_) fun e => ?_
    · exact sound p.1 other (List.mem_cons_of_mem _ mem)
    · exact .bind (releaseOutBinds_holds _) fun _ => .bind (releaseWires_holds _) fun _ => .fail e

theorem decodeOutBinds_holds (outs : List Descriptor) (wires : List WireValue)
    (sound : P → ∀ wire ∈ wires, wire.Sound o.convert) :
    Holds (WireValue.Sound o.convert) P
      (decodeOutBinds outs wires o : Operation σ Connection (List OutBind)) :=
  .ite (.bind (releaseWires_holds _) fun _ => .fail _)
    (decodeEach_holds _ _ fun p _ mem => sound p _ (List.of_mem_zip mem).2)

theorem decodeRows_holds (g : Guards) (columns : Columns) (rows : List Row)
    (wires : List (List WireValue)) (sound : P → ∀ wire ∈ wires.flatten, wire.Sound o.convert) :
    Holds (WireValue.Sound o.convert) P
      (decodeRows g columns o rows wires : Operation σ Connection (List Row)) := by
  induction wires generalizing rows P with
  | nil => exact .pure fun _ => trivial
  | cons row rest ih =>
    refine .ite (.pure fun _ => trivial) (.bind (decodeRow_holds _ _ _ _ fun p wire mem => ?_)
      fun _ => ih _ fun p wire mem => ?_)
    · exact sound p wire (List.mem_flatten.2 ⟨row, List.mem_cons_self, mem⟩)
    · obtain ⟨other, among, mem⟩ := List.mem_flatten.1 mem
      exact sound p.1 wire (List.mem_flatten.2 ⟨other, List.mem_cons_of_mem row among, mem⟩)

/-- The rows at hand were reported, and so are those that are asked for. -/
theorem fetchRows_holds (columns : Columns) (cursorId : Nat) (first : List (List WireValue))
    (moreRows : Bool) (sound : P → ∀ wire ∈ first.flatten, wire.Sound o.convert) :
    Holds (WireValue.Sound o.convert) P
      (fetchRows columns cursorId first moreRows o : Operation σ Connection (List Row)) := by
  refine .bind ownGuards_holds fun g => .loop
    (I := fun at_ => ∀ wire ∈ at_.2.1.flatten, wire.Sound o.convert) ?_ fun p => sound p.1
  rintro ⟨rows, wires, more⟩
  refine .bind (decodeRows_holds g columns rows wires And.right) fun rows =>
    .ite (.pure fun _ => trivial) ?_
  exact .bind (roundTrip_gives _ _) fun response => .pure fun p => p.2

theorem fetchAll_holds (columns : Columns) (cursorId : Nat) (first : List (List WireValue))
    (moreRows : Bool) (sound : P → ∀ wire ∈ first.flatten, wire.Sound o.convert) :
    Holds (WireValue.Sound o.convert) P
      (fetchAll columns cursorId first moreRows o : Operation σ Connection (List Row)) := by
  refine .attempt_bind (fetchRows_holds columns cursorId first moreRows sound) (fun _ => ?_)
    fun e => .bind (releaseCursor_holds _) fun _ => .fail e
  exact .ite (.bind (.callFreely _) fun _ => .pure fun _ => trivial) (.pure fun _ => trivial)

theorem receive_holds (outs : List Descriptor) (response : ExecuteResponse)
    (sound : P → ∀ wire ∈ response.outBinds ++ response.rows.flatten, wire.Sound o.convert) :
    Holds (WireValue.Sound o.convert) P
      (receive outs response o : Operation σ Connection ExecuteResult) := by
  refine .bind (releasingCursor_holds _ (decodeOutBinds_holds _ _ fun p wire mem =>
    sound p wire (List.mem_append_left _ mem))) fun outBinds => ?_
  cases response.columns with
  | none => exact .pure fun _ => trivial
  | some described =>
    refine releasing_holds _ (.bind (releasingCursor_holds _ (.ofExcept fun _ _ _ => trivial))
      fun columns => .ite ?_ (.bind (fetchAll_holds _ _ _ _ fun p wire mem => ?_) fun _ =>
        .pure fun _ => trivial))
    · exact .get_bind fun _ => .bind (ResultSet.create_holds _ _ _ _ _ _ _) fun _ =>
        .pure fun _ => trivial
    · exact sound p.1.1 wire (List.mem_append_right _ mem)

/-- An execution does not break off on sound values. -/
theorem execute_holds (sql : String) (binds : Binds) :
    Holds (WireValue.Sound o.convert) P
      (execute sql binds o : Operation σ Connection ExecuteResult) :=
  .bind (send_gives sql binds o) fun _ => receive_holds _ _ And.right

end Sound

/-- Behind an execution that breaks off stands a value that was reported for it. -/
theorem execute_brokenOff {host : Host σ} {c c' : Connection} {w w' : World σ} {sql : String}
    {binds : Binds} {o : ExecuteOptions}
    (run : execute sql binds o host c w = (.stuck .brokenOff, c', w')) :
    ∃ new, w'.exchanges = w.exchanges ++ new ∧
      ∃ x ∈ new, ∃ wire ∈ x.reported, wire.Breaks o.convert := by
  obtain ⟨new, added, unbroken⟩ := execute_holds (P := True) sql binds host c w
  rw [run] at added unbroken
  refine ⟨new, added, ?_⟩
  by_contra none
  have sound : ∀ x ∈ new, ∀ wire ∈ x.reported, wire.Sound o.convert :=
    fun x hx wire mem breaks => none ⟨x, hx, wire, mem, breaks⟩
  cases unbroken trivial sound

end Connection

end SqlBinder

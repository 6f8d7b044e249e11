import SqlBinder.Proofs.Connection.Calls
import SqlBinder.Proofs.Session.Turns

/-!
The handles a connection gives out. Each has the signal of the connection and a signal of its own,
which no other has: signals are counted, and what is handed out was made after all that was held
before.

A signal is told from all others by the number it was made as, so it is enough to know from which
number on those of the handles were made. `Gives` carries that through operations, by one rule for
each way of building them; operations that make no handle have it from what they call.
-/
namespace SqlBinder

open Operation Binding

variable {σ η α β : Type} {conn : Signal} {lo mid hi : Nat} {gs gs' : List Guards}

/-! ## Guards that were issued -/

/-- Guards of one connection, each with a signal of its own out of those from `lo` on. -/
structure Issued (conn : Signal) (lo hi : Nat) (gs : List Guards) : Prop where
  each : ∀ g ∈ gs, g.connection = conn ∧ lo ≤ g.own.number ∧ g.own.number < hi
  apart : (gs.map (·.own)).Nodup

namespace Issued

theorem nil : Issued conn lo hi [] := ⟨nofun, .nil⟩

theorem later (h : Issued conn lo mid gs) (le : mid ≤ hi) : Issued conn lo hi gs :=
  ⟨fun g mem => ⟨(h.each g mem).1, (h.each g mem).2.1, Nat.lt_of_lt_of_le (h.each g mem).2.2 le⟩,
    h.apart⟩

theorem sublist (h : Issued conn lo hi gs) (sub : gs'.Sublist gs) : Issued conn lo hi gs' :=
  ⟨fun g mem => h.each g (sub.subset mem), h.apart.sublist (sub.map _)⟩

/-- A signal that was made last is nobody else's. -/
theorem fresh (h : Issued conn lo hi gs) (le : lo ≤ hi) :
    Issued conn lo (hi + 1) (gs ++ [⟨⟨hi⟩, conn⟩]) := by
  constructor
  · intro g mem
    rcases List.mem_append.1 mem with old | new
    · exact ⟨(h.each g old).1, (h.each g old).2.1, Nat.lt_succ_of_lt (h.each g old).2.2⟩
    · obtain rfl := List.mem_singleton.1 new
      exact ⟨rfl, le, Nat.lt_succ_self hi⟩
  · have unlike : (⟨hi⟩ : Signal) ∉ gs.map (·.own) := by
      intro mem
      obtain ⟨g, old, same⟩ := List.mem_map.1 mem
      have below := (h.each g old).2.2
      rw [same] at below
      exact Nat.lt_irrefl hi below
    rw [List.map_append]
    refine List.nodup_append.2 ⟨h.apart, by simp, fun x old y new => ?_⟩
    rintro rfl
    obtain rfl : x = ⟨hi⟩ := by simpa using new
    exact unlike old

end Issued

/-! ## Operations that give out handles -/

/-- Begun with guards that were issued, the operation ends with such guards: those in its result
with those that it was begun with and did not give up. -/
def Gives (I : η → Prop) (conn : Signal) (lo : Nat) (held : List Guards)
    (given : α → List Guards) (t : Operation σ η α) : Prop :=
  ∀ host h w, I h → lo ≤ w.signals.made → Issued conn lo w.signals.made held →
    I (t host h w).2.1 ∧ w.signals.Grown (t host h w).2.2.signals ∧
      ∀ a, (t host h w).1 = .done a → Issued conn lo (t host h w).2.2.signals.made (given a)

namespace Gives

variable {I : η → Prop} {held : List Guards} {given given' : α → List Guards}

/-- What makes signals and fires them gives out nothing. -/
theorem of_grown {t : Operation σ η α}
    (ht : ∀ host h w, I h → I (t host h w).2.1 ∧ w.signals.Grown (t host h w).2.2.signals) :
    Gives I conn lo held (fun _ => held) t := by
  intro host h w hi _ issued
  obtain ⟨hi', grown⟩ := ht host h w hi
  exact ⟨hi', grown, fun _ _ => issued.later grown.made⟩

theorem of_calls {P : Call → Prop} {t : Operation σ η α} (ht : Calls I P t) :
    Gives I conn lo held (fun _ => held) t :=
  of_grown fun host h w hi => ⟨(ht host h w hi).1, (ht host h w hi).2.1⟩

theorem pure (a : α) (sub : (given a).Sublist held) :
    Gives I conn lo held given (pure a : Operation σ η α) := by
  intro host h w hi _ issued
  refine ⟨hi, .refl _, fun b done => ?_⟩
  cases done
  exact issued.sublist sub

theorem fail (e : Error) : Gives I conn lo held given (fail e : Operation σ η α) :=
  fun _ _ _ hi _ _ => ⟨hi, .refl _, nofun⟩

theorem fresh :
    Gives I conn lo held (fun x => held ++ [⟨x, conn⟩]) (fresh : Operation σ η Signal) := by
  intro host h w hi le issued
  refine ⟨hi, .fresh _, fun x done => ?_⟩
  cases done
  exact issued.fresh le

theorem bind {t : Operation σ η β} {f : β → Operation σ η α} {between : β → List Guards}
    (ht : Gives I conn lo held between t) (hf : ∀ b, Gives I conn lo (between b) given (f b)) :
    Gives I conn lo held given (t >>= f) := by
  intro host h w hi le issued
  obtain ⟨hi₁, grown₁, issued₁⟩ := ht host h w hi le issued
  rcases run : t host h w with ⟨b | e | _, h₁, w₁⟩ <;> rw [run] at hi₁ grown₁ issued₁
  · obtain ⟨hi₂, grown₂, issued₂⟩ :=
      hf b host h₁ w₁ hi₁ (Nat.le_trans le grown₁.made) (issued₁ b rfl)
    rw [bind_of_done run]
    exact ⟨hi₂, grown₁.trans grown₂, issued₂⟩
  · rw [bind_of_failed run]
    exact ⟨hi₁, grown₁, nofun⟩
  · rw [bind_of_stuck run]
    exact ⟨hi₁, grown₁, nofun⟩

/-- Behind what gives out nothing. -/
theorem behind {P : Call → Prop} {t : Operation σ η β} {f : β → Operation σ η α}
    (ht : Calls I P t) (hf : ∀ b, Gives I conn lo held given (f b)) :
    Gives I conn lo held given (t >>= f) :=
  bind (of_calls ht) hf

theorem get_bind {f : η → Operation σ η α} (hf : ∀ h, I h → Gives I conn lo held given (f h)) :
    Gives I conn lo held given (Operation.get >>= f) :=
  fun host h w hi => hf h hi host h w hi

theorem attempt {t : Operation σ η α} (ht : Gives I conn lo held given t) :
    Gives I conn lo held (fun r => match r with | .ok a => given a | .error _ => [])
      t.attempt := by
  intro host h w hi le issued
  obtain ⟨hi', grown, issued'⟩ := ht host h w hi le issued
  rcases run : t host h w with ⟨a | e | _, h₁, w₁⟩ <;> rw [run] at hi' grown issued'
  · rw [attempt_of_done run]
    refine ⟨hi', grown, fun r done => ?_⟩
    cases done
    exact issued' a rfl
  · rw [attempt_of_failed run]
    refine ⟨hi', grown, fun r done => ?_⟩
    cases done
    exact .nil
  · rw [attempt_of_stuck run]
    exact ⟨hi', grown, nofun⟩

theorem ite {c : Prop} [Decidable c] {s t : Operation σ η α} (hs : Gives I conn lo held given s)
    (ht : Gives I conn lo held given t) : Gives I conn lo held given (if c then s else t) := by
  split
  · exact hs
  · exact ht

end Gives

/-! ## What is handed out -/

/-- The guards of the handle in an output value, if it is one. -/
def OutValue.guards : OutValue → List Guards
  | .value _ => []
  | .lob l => [l.guards]
  | .resultSet rs => [rs.guards]

/-- The guards of the handles among output binds. -/
def handedOut (outBinds : List OutBind) : List Guards := outBinds.flatMap fun b => b.value.guards

/-- The guards of the handles that an execution gives out, those of its output binds first. -/
def ExecuteResult.guards (r : ExecuteResult) : List Guards :=
  handedOut r.outBinds ++ (r.resultSet.map (·.guards)).toList

/-- The guards of the handles that a batch gives out, row by row. -/
def BatchResult.guards (r : BatchResult) : List Guards := r.outBinds.flatMap handedOut

section Creating

variable {I : η → Prop} {held : List Guards}

theorem Lob.create_gives (l : LobLocator) :
    Gives I conn lo held (fun lob => held ++ [lob.guards]) (create l conn : Operation σ η Lob) :=
  .bind .fresh fun _ => .pure _ (.refl _)

theorem ResultSet.create_gives (cursorId : Nat) (columns : List ColumnMetadata)
    (rows : List (List WireValue)) (moreRows : Bool) (fetchSize : Nat) (o : ConvertOptions) :
    Gives I conn lo held (fun rs => held ++ [rs.guards])
      (create cursorId columns rows moreRows fetchSize o conn : Operation σ η ResultSet) := by
  refine .ite (.fail _) (.behind (P := fun _ => True) (.ofExcept _) fun _ => ?_)
  exact .bind .fresh fun _ => .pure _ (.refl _)

end Creating

namespace Connection

/-- Connections that close with this signal. -/
def Of (conn : Signal) (c : Connection) : Prop := c.closed = conn

variable {held : List Guards}

theorem createLob_gives (kind : LobKind) :
    Gives (Of conn) conn lo held (fun lob => held ++ [lob.guards])
      (createLob kind : Operation σ Connection Lob) := by
  refine .get_bind fun c hc => .behind (roundTrip_calls (P := fun _ => True) _ trivial) fun _ => ?_
  cases hc
  exact Lob.create_gives _

theorem openLob_gives (l : LobLocator) :
    Gives (Of conn) conn lo held (fun lob => held ++ [lob.guards])
      (openLob l : Operation σ Connection Lob) := by
  refine .behind (checkOpen_calls (P := fun _ => True)) fun _ => .get_bind fun c hc => ?_
  cases hc
  exact Lob.create_gives _

theorem openCursor_gives (l : CursorLocator) (o : ExecuteOptions) :
    Gives (Of conn) conn lo held (fun rs => held ++ [rs.guards])
      (openCursor l o : Operation σ Connection ResultSet) := by
  refine .behind (checkOpen_calls (P := fun _ => True)) fun _ => .get_bind fun c hc => ?_
  cases hc
  exact ResultSet.create_gives _ _ _ _ _ _

/-! ### Output binds -/

theorem promotedValue_gives (d : Descriptor) (v : Value) :
    Gives (Of conn) conn lo held (fun v => held ++ v.guards)
      (promotedValue d v : Operation σ Connection OutValue) :=
  .ite (.fail _) (.pure _ (by simp [OutValue.guards]))

theorem decodeOutBind_gives (d : Descriptor) (wire : WireValue) (o : ExecuteOptions) :
    Gives (Of conn) conn lo held (fun v => held ++ v.guards)
      (decodeOutBind d wire o : Operation σ Connection OutValue) := by
  refine .ite (.fail _) (.behind (P := fun _ => True) (.ofFallible _) fun v => ?_)
  cases v with
  | cursor l => exact .bind (openCursor_gives l o) fun _ => .pure _ (.refl _)
  | lob l =>
    refine .ite (.behind (P := fun _ => True) ownGuards_calls fun g => ?_)
      (.bind (openLob_gives l) fun _ => .pure _ (.refl _))
    exact .behind (readWhole_calls g _ l) fun _ => promotedValue_gives d _
  | _ => exact .ite (promotedValue_gives d _) (.pure _ (by simp [OutValue.guards]))

theorem decodeEach_gives (o : ExecuteOptions) (decoded : List OutBind)
    (pairs : List (Descriptor × WireValue)) :
    Gives (Of conn) conn lo (held ++ handedOut decoded) (fun bs => held ++ handedOut bs)
      (decodeEach o decoded pairs : Operation σ Connection (List OutBind)) := by
  induction pairs generalizing decoded with
  | nil => exact .pure _ (.refl _)
  | cons pair rest ih =>
    refine .bind (decodeOutBind_gives pair.1 pair.2 o).attempt fun r => ?_
    cases r with
    | ok v =>
      have next := ih (decoded ++ [⟨pair.1.slot, pair.1.placeholder, v⟩])
      rw [handedOut, List.flatMap_append, ← handedOut, List.flatMap_singleton,
        ← List.append_assoc] at next
      exact next
    | error e =>
      exact .behind (releaseOutBinds_calls _) fun _ => .behind (releaseWires_calls _) fun _ =>
        .fail e

theorem decodeOutBinds_gives (outs : List Descriptor) (wires : List WireValue)
    (o : ExecuteOptions) :
    Gives (Of conn) conn lo held (fun bs => held ++ handedOut bs)
      (decodeOutBinds outs wires o : Operation σ Connection (List OutBind)) := by
  refine .ite (.behind (releaseWires_calls _) fun _ => .fail _) ?_
  have each : Gives (Of conn) conn lo (held ++ handedOut []) (fun bs => held ++ handedOut bs)
      (decodeEach o [] (outs.zip wires) : Operation σ Connection _) := decodeEach_gives o [] _
  rwa [handedOut, List.flatMap_nil, List.append_nil] at each

/-! ### Executions -/

section Releasing

variable {t : Operation σ Connection α} {given : α → List Guards}

theorem releasingCursor_gives (id : Nat) (ht : Gives (Of conn) conn lo held given t) :
    Gives (Of conn) conn lo held given (releasingCursor id t) := by
  refine .bind ht.attempt fun r => ?_
  cases r with
  | ok a => exact .pure a (.refl _)
  | error e => exact .behind (releaseCursor_calls _) fun _ => .fail e

theorem releasing_gives (outBinds : List OutBind) (ht : Gives (Of conn) conn lo held given t) :
    Gives (Of conn) conn lo held given (releasing outBinds t) := by
  refine .bind ht.attempt fun r => ?_
  cases r with
  | ok a => exact .pure a (.refl _)
  | error e => exact .behind (releaseOutBinds_calls _) fun _ => .fail e

end Releasing

theorem receiveRows_gives (outBinds : List OutBind) (described : List ColumnMetadata)
    (response : ExecuteResponse) (o : ExecuteOptions) :
    Gives (Of conn) conn lo (held ++ handedOut outBinds) (fun r => held ++ r.guards)
      (receiveRows outBinds described response o : Operation σ Connection ExecuteResult) := by
  refine .behind (releasingCursor_calls _ (.ofExcept _)) fun columns => .ite ?_ ?_
  · refine .get_bind fun c hc => ?_
    cases hc
    exact .bind (ResultSet.create_gives _ _ _ _ _ _) fun _ =>
      .pure _ (by simp [ExecuteResult.guards])
  · exact .behind (fetchAll_calls _ _ _ _ _) fun _ => .pure _ (by simp [ExecuteResult.guards])

theorem receive_gives (outs : List Descriptor) (response : ExecuteResponse) (o : ExecuteOptions) :
    Gives (Of conn) conn lo held (fun r => held ++ r.guards)
      (receive outs response o : Operation σ Connection ExecuteResult) := by
  refine .bind (releasingCursor_gives _ (decodeOutBinds_gives _ _ _)) fun outBinds => ?_
  cases response.columns with
  | none => exact .pure _ (by simp [ExecuteResult.guards])
  | some described => exact releasing_gives _ (receiveRows_gives _ _ _ _)

theorem scan_calls (sql : String) {P : Call → Prop} :
    Calls (Of conn) P (scan sql : Operation σ Connection Statement.Info) :=
  .get_bind fun _ _ => .bind (.modify fun _ h => h) fun _ => .pure _

/-- What is sent for an execution gives out nothing. -/
theorem send_calls (sql : String) (binds : Binds) (o : ExecuteOptions) :
    Calls (Of conn) (fun _ => True) (send sql binds o : Operation σ Connection _) := by
  refine .bind checkOpen_calls fun _ => .bind (scan_calls sql) fun _ => .bind (.ofExcept _) fun _ =>
    .bind (.ofExcept _) fun pending => .bind ?_ fun _ => .pure _
  refine .bind ((bindAll_calls o [] pending).mono fun _ _ => trivial) fun _ => ?_
  refine .bind (Calls.attempt (roundTrip_calls _ trivial)) fun _ => ?_
  exact .bind ((releaseLobs_calls _).mono fun _ _ => trivial) fun _ => .ofExcept _

theorem execute_gives (sql : String) (binds : Binds) (o : ExecuteOptions) :
    Gives (Of conn) conn lo held (fun r => held ++ r.guards)
      (execute sql binds o : Operation σ Connection ExecuteResult) :=
  .behind (send_calls sql binds o) fun _ => receive_gives _ _ o

/-! ### Batches -/

theorem decodeBatch_gives (o : ExecuteOptions) (decoded : List (List OutBind))
    (rows : List (List Descriptor × List WireValue)) :
    Gives (Of conn) conn lo (held ++ decoded.flatMap handedOut)
      (fun bs => held ++ bs.flatMap handedOut)
      (decodeBatch o decoded rows : Operation σ Connection (List (List OutBind))) := by
  induction rows generalizing decoded with
  | nil => exact .pure _ (.refl _)
  | cons row rest ih =>
    refine .bind (decodeOutBinds_gives row.1 row.2 o).attempt fun r => ?_
    cases r with
    | ok bs =>
      have next := ih (decoded ++ [bs])
      rw [List.flatMap_append, List.flatMap_singleton, ← List.append_assoc] at next
      exact next
    | error e => exact .behind (releaseOutBinds_calls _) fun _ => .fail e

theorem sendBatch_calls (sql : String) (rows : List Binds) (o : ExecuteOptions) :
    Calls (Of conn) (fun _ => True) (sendBatch sql rows o : Operation σ Connection _) :=
  .bind checkOpen_calls fun _ => .bind (scan_calls sql) fun _ => .bind (.ofExcept _) fun _ =>
    .bind (roundTrip_calls _ trivial) fun _ => .pure _

theorem executeMany_gives (sql : String) (rows : List Binds) (o : ExecuteOptions) :
    Gives (Of conn) conn lo held (fun r => held ++ r.guards)
      (executeMany sql rows o : Operation σ Connection BatchResult) := by
  refine .behind (sendBatch_calls sql rows o) fun sent => .ite (.fail _) (.ite (.fail _) ?_)
  have batch : Gives (Of conn) conn lo (held ++ [].flatMap handedOut)
      (fun bs => held ++ bs.flatMap handedOut)
      (decodeBatch o [] (sent.1.zip sent.2.outBinds) : Operation σ Connection _) :=
    decodeBatch_gives o [] _
  rw [List.flatMap_nil, List.append_nil] at batch
  exact .bind batch fun _ => .pure _ (.refl _)

end Connection

end SqlBinder

import SqlBinder.Proofs.ResultSet.Calls
import SqlBinder.Proofs.ResultSet.Dealing
import SqlBinder.Proofs.Session.Tracking

/-!
Streams of rows. A stream over a cursor whose rows are stored in order yields them one behind the
other. It ends behind the last row or with the first failure: of a row, of a round trip for more or
of the round trip that closes the cursor. Either way the cursor was closed once, and nothing
follows. A result set that was asked for rows gives no stream.
-/
namespace SqlBinder

open Operation

variable {σ : Type} {host : Host σ} {id : Nat} {rows : σ → List (List WireValue)}

/-- The rows of a cursor are stored in order: a round trip that does not fail brings the first of
those that are left and tells whether some are left behind it. Calls on objects leave them alone,
as soon as they begin. -/
structure Stores (host : Host σ) (id : Nat) (rows : σ → List (List WireValue)) : Prop where
  fetch : ∀ n s response, (host.answer (.fetch id n) s).result.1 = .done response →
    response.rows = (rows s).take n ∧ response.moreRows = decide (n < (rows s).length) ∧
      rows (host.answer (.fetch id n) s).result.2 = (rows s).drop n
  objects : ∀ l c s, Call.Reads l c →
    rows (host.answer c s).begun = rows s ∧ rows (host.answer c s).result.2 = rows s

theorem Stores.call {l : LobLocator} {c : Call} (stores : Stores host id rows) (watch : Watch)
    (w : World σ) (reads : Call.Reads l c) :
    rows (Operation.call c watch host () w).2.2.session = rows w.session := by
  obtain ⟨begun, finished⟩ := stores.objects l c w.session reads
  show rows (await (host.answer c w.session) watch w).2.session = rows w.session
  rcases await_ends (host.answer c w.session) watch w with ⟨-, -, lost⟩ | ⟨-, there⟩
  · rw [lost, begun]
  · rw [there, finished]

namespace ResultSet

/-! ## Rows in order -/

/-- The rows that were not handed out: those in the buffer, and those behind them at the server. -/
def left (rows : σ → List (List WireValue)) (rs : ResultSet) (w : World σ) :
    List (List WireValue) :=
  (rs.cursor.map (·.buffer)).getD [] ++ rows w.session

section Course

variable (host : Host σ) (g : Guards) (columns : Columns) (o : ConvertOptions)
  (rows : σ → List (List WireValue))

/-- Rows are read one behind the other. Each is the first that is left, decoded. -/
inductive Deals : ResultSet → World σ → List (List WireValue) → List Row → ResultSet → World σ →
    Prop where
  | here (rs : ResultSet) (w : World σ) : Deals rs w [] [] rs w
  | row {rs rs₁ rs₂ : ResultSet} {w w₀ w₁ w₂ : World σ} {wires : List WireValue}
      {values : List Value} {front : List (List WireValue)} {dealt : List Row}
      (read : readRow host rs w = (.done (some ⟨values, columns⟩), rs₁, w₁))
      (first : left rows rs w = wires :: left rows rs₁ w₁)
      (decoded : decodeRow g .invalidResultSet columns o wires host rs₁ w₀ =
        (.done values, rs₁, w₁))
      (onward : Deals rs₁ w₁ front dealt rs₂ w₂) :
      Deals rs w (wires :: front) (⟨values, columns⟩ :: dealt) rs₂ w₂

/-- Why the next row is not read: it does not decode, the round trip for it fails, or the result
set was cancelled. -/
inductive Spoils (rs : ResultSet) (w : World σ) : Error → ResultSet → World σ → Prop where
  | undecoded {wires : List WireValue} {rest : List (List WireValue)} {e : Error} {rs₁ : ResultSet}
      {w₀ w₁ : World σ} (first : left rows rs w = wires :: rest)
      (decoded : decodeRow g .invalidResultSet columns o wires host rs₁ w₀ = (.failed e, rs₁, w₁)) :
      Spoils rs w e rs₁ w₁
  | unfetched {e : Error} {rs₁ : ResultSet} {w₁ : World σ}
      (empty : ∀ cursor, rs.cursor = some cursor → cursor.buffer = [])
      (fetched : fetch host rs w = (.failed e, rs₁, w₁)) : Spoils rs w e rs₁ w₁
  | cancelled (fired : w.signals.isFired g.own = true) : Spoils rs w .invalidResultSet rs w

/-- How a stream ends there: what it yields last, the world in which it closes the cursor, and
what comes of that. -/
inductive StreamEnds (rs : ResultSet) (w : World σ) :
    List (Except Error Row) → World σ → Outcome Unit → Prop where
  | closed {rs₁ : ResultSet} {w₁ : World σ} (read : readRow host rs w = (.done none, rs₁, w₁))
      (drained : left rows rs w = []) : StreamEnds rs w [] w₁ (.done ())
  | unclosed {rs₁ : ResultSet} {w₁ : World σ} (e : Error)
      (read : readRow host rs w = (.done none, rs₁, w₁)) (drained : left rows rs w = []) :
      StreamEnds rs w [.error e] w₁ (.failed e)
  | spoilt {rs₁ : ResultSet} {w₁ : World σ} {e : Error} (out : Outcome Unit)
      (read : readRow host rs w = (.failed e, rs₁, w₁))
      (spoils : Spoils host g columns o rows rs w e rs₁ w₁) : StreamEnds rs w [.error e] w₁ out

/-- Why a stream does not come to its end there: the decoding of the next row breaks off, or it
waits forever for a call, of those that decode the row, the round trip for it or the one that closes
the cursor. -/
inductive Hangs (id : Nat) (rs : ResultSet) (w : World σ) : Halt → Prop where
  | undecoded {wires : List WireValue} {rest : List (List WireValue)} {rs₁ : ResultSet}
      {w₀ w₁ : World σ} {why : Halt} (first : left rows rs w = wires :: rest)
      (decoded : decodeRow g .invalidResultSet columns o wires host rs₁ w₀ =
        (.stuck why, rs₁, w₁)) : Hangs id rs w why
  | unfetched (unanswered : (host.answer (.fetch id rs.fetchSize) w.session).wait = none) :
      Hangs id rs w .waiting
  | unclosed {out : Outcome (Option Row)} {rs₁ : ResultSet} {w₁ : World σ}
      (read : readRow host rs w = (out, rs₁, w₁))
      (unanswered : (host.answer (.closeCursor id) w₁.session).wait = none) :
      Hangs id rs w .waiting

end Course

/-- The rows dealt are the first of those that were left, as many. -/
theorem Deals.front {g : Guards} {columns : Columns} {o : ConvertOptions} {rs rs₁ : ResultSet}
    {w w₁ : World σ} {front : List (List WireValue)} {dealt : List Row}
    (h : Deals host g columns o rows rs w front dealt rs₁ w₁) :
    left rows rs w = front ++ left rows rs₁ w₁ ∧ front.length = dealt.length := by
  induction h with
  | here rs w => exact ⟨rfl, rfl⟩
  | row read first decoded onward ih =>
    rw [first, ih.1, List.length_cons, List.length_cons, ih.2]
    exact ⟨rfl, rfl⟩

/-! ## Asking for rows -/

/-- Rows were asked for, whatever came of it. -/
inductive AskedForRows (host : Host σ) (rs : ResultSet) (w : World σ) :
    ResultSet → World σ → Prop where
  | row : AskedForRows host rs w (getRow host rs w).2.1 (getRow host rs w).2.2
  | rows (limit : Nat) :
    AskedForRows host rs w (getRows limit host rs w).2.1 (getRows limit host rs w).2.2

theorem AskedForRows.fetched {rs rs' : ResultSet} {w w' : World σ}
    (h : AskedForRows host rs w rs' w') : rs'.fetched = true := by
  cases h with
  | row =>
    exact (nextRow_calls fetched_stays host { rs with fetched := true } w rfl).1
  | rows limit =>
    have calls : Calls (fun rs => rs.fetched = true) Call.StartsNothing
        (loop (collectRow limit) [] : Operation σ ResultSet (List Row)) := by
      refine .loop (fun rows => .ite (.pure _) ?_) _
      refine .bind (nextRow_calls fetched_stays) fun row => ?_
      cases row with
      | none => exact .pure _
      | some row => exact .pure _
    exact (calls host { rs with fetched := true } w rfl).1

end ResultSet

namespace Lease

open ResultSet

variable {L : Lease σ} {rs rs' : ResultSet} {w w' : World σ} {cursor : OpenCursor}
  {columns : Columns} {o : ConvertOptions}

/-- The result set holds a cursor whose rows are stored, and knows when none are left at the
server. -/
structure Fed (L : Lease σ) (columns : Columns) (o : ConvertOptions)
    (rows : σ → List (List WireValue)) (rs : ResultSet) (w : World σ) (cursor : OpenCursor) :
    Prop where
  held : L.Held rs w
  there : rs.cursor = some cursor
  described : cursor.columns = columns
  convert : rs.convert = o
  size : 0 < rs.fetchSize
  told : cursor.moreRows = false → rows w.session = []

namespace Fed

theorem left_eq (h : L.Fed columns o rows rs w cursor) :
    left rows rs w = cursor.buffer ++ rows w.session := by
  rw [left, h.there]
  rfl

theorem guards (h : L.Fed columns o rows rs w cursor) : rs.guards = L.guards := h.held.1.guards

theorem named (h : L.Fed columns o rows rs w cursor) : cursor.id = L.id := by
  obtain ⟨cursor', there, named⟩ := h.held.1.cursor
  obtain rfl : cursor = cursor' := Option.some.inj (h.there.symm.trans there)
  exact named

/-- The result set is open unless it was cancelled. -/
theorem opens (h : L.Fed columns o rows rs w cursor) :
    ResultSet.open? L.host rs w = (.done cursor, rs, w) ∨
      w.signals.isFired L.guards.own = true ∧
        ResultSet.open? L.host rs w = (.failed .invalidResultSet, rs, w) := by
  obtain ⟨new, since⟩ := h.held.since
  rw [open?_apply, cursorOf, Guards.check, h.guards, h.there]
  simp only [Guards.stops, firstFired, since.connection, Bool.false_eq_true, if_false]
  cases fired : w.signals.isFired L.guards.own with
  | true => exact .inr ⟨rfl, rfl⟩
  | false => exact .inl rfl

/-- What reading the next row comes to. -/
inductive Next (L : Lease σ) (columns : Columns) (o : ConvertOptions)
    (rows : σ → List (List WireValue)) (rs : ResultSet) (w : World σ) :
    Outcome (Option Row) × ResultSet × World σ → Prop where
  | row {wires : List WireValue} {values : List Value} {rs₁ : ResultSet} {w₀ w₁ : World σ}
      {cursor : OpenCursor} (first : left rows rs w = wires :: left rows rs₁ w₁)
      (decoded : decodeRow L.guards .invalidResultSet columns o wires L.host rs₁ w₀ =
        (.done values, rs₁, w₁)) (fed : L.Fed columns o rows rs₁ w₁ cursor) :
      Next L columns o rows rs w (.done (some ⟨values, columns⟩), rs₁, w₁)
  | last {rs₁ : ResultSet} {w₁ : World σ} (drained : left rows rs w = []) :
      Next L columns o rows rs w (.done none, rs₁, w₁)
  | spoilt {e : Error} {rs₁ : ResultSet} {w₁ : World σ}
      (spoils : Spoils L.host L.guards columns o rows rs w e rs₁ w₁) :
      Next L columns o rows rs w (.failed e, rs₁, w₁)
  | hangs {why : Halt} {rs₁ : ResultSet} {w₁ : World σ}
      (hangs : Hangs L.host L.guards columns o rows L.id rs w why) :
      Next L columns o rows rs w (.stuck why, rs₁, w₁)

/-- A round trip for more rows does not come to an end only if it is not answered. -/
theorem fetch_stuck {why : Halt} (h : L.Fed columns o rows rs w cursor)
    (opened : ResultSet.open? L.host rs w = (.done cursor, rs, w))
    (run : ResultSet.fetch L.host rs w = (.stuck why, rs', w')) :
    why = .waiting ∧ (L.host.answer (.fetch L.id rs.fetchSize) w.session).wait = none := by
  rw [ResultSet.fetch, bind_of_done (get_apply L.host rs w), bind_of_done opened, h.named] at run
  rcases made : guarded rs.guards .invalidResultSet (.fetch L.id rs.fetchSize) L.host rs w with
    ⟨response | e | _, rs₁, w₁⟩
  · have behind : Prompt L.host (ResultSet.open? >>= fun _ => moveCursor fun c =>
        { c with
          rowsFetched := c.rowsFetched + response.rows.length
          buffer := c.buffer ++ response.rows
          moreRows := response.moreRows } : Operation σ ResultSet Unit) :=
      .bind (.bind .get fun _ => .bind .signals fun _ => .ofExcept _) fun _ => .modify _
    rw [bind_of_done made] at run
    exact absurd (congrArg Prod.fst run) (behind rs₁ w₁ why)
  · rw [bind_of_failed made] at run
    cases run
  · rw [bind_of_stuck made] at run
    cases run
    refine ⟨guarded_stuck made, ?_⟩
    by_contra answered
    exact guarded_ne_stuck answered rs.guards .invalidResultSet rs _ (congrArg Prod.fst made)

section Steps

variable (stores : Stores L.host L.id rows)

include stores

/-- A round trip for more rows changes nothing about what is left. If it brings none, none are
left. -/
theorem fetch {u : Unit} (h : L.Fed columns o rows rs w cursor) (empty : cursor.buffer = [])
    (opened : ResultSet.open? L.host rs w = (.done cursor, rs, w))
    (run : ResultSet.fetch L.host rs w = (.done u, rs', w')) :
    ∃ cursor', L.Fed columns o rows rs' w' cursor' ∧
      ResultSet.open? L.host rs' w' = (.done cursor', rs', w') ∧
      left rows rs' w' = left rows rs w ∧ (cursor'.buffer = [] → rows w'.session = []) := by
  have held := (h.held.fetch run).2 u rfl
  obtain ⟨response, made, rfl, uncancelled⟩ := fetch_of_done opened h.there run
  obtain ⟨reply, session⟩ := guarded_result made
  rw [h.named] at reply session
  obtain ⟨brought, more, behind⟩ := stores.fetch _ _ _ reply
  rw [← session] at behind
  have batch : (cursor.receive response).buffer = (rows w.session).take rs.fetchSize := by
    rw [OpenCursor.receive, empty, brought]
    rfl
  have size := h.size
  have fed : L.Fed columns o rows { rs with cursor := some (cursor.receive response) } w'
      (cursor.receive response) := by
    refine ⟨held, rfl, h.described, h.convert, h.size, fun last => ?_⟩
    have all : ¬rs.fetchSize < (rows w.session).length := by
      simpa [OpenCursor.receive, more] using last
    rw [behind, List.drop_eq_nil_of_le (Nat.le_of_not_lt all)]
  refine ⟨cursor.receive response, fed, ?_, ?_, fun none => ?_⟩
  · rcases fed.opens with opens | ⟨fired, -⟩
    · exact opens
    · rw [← h.guards, uncancelled] at fired
      cases fired
  · rw [fed.left_eq, h.left_eq, batch, behind, List.take_append_drop, empty, List.nil_append]
  · rw [batch, List.take_eq_nil_iff] at none
    rcases none with none | none
    · omega
    · rw [behind, none, List.drop_nil]

/-- The first row in the buffer is decoded. -/
theorem takeRow {rs₀ : ResultSet} {w₀ : World σ} (h : L.Fed columns o rows rs w cursor)
    (same : left rows rs₀ w₀ = left rows rs w)
    (opened : ResultSet.open? L.host rs w = (.done cursor, rs, w))
    (last : cursor.buffer = [] → rows w.session = []) :
    Next L columns o rows rs₀ w₀ (ResultSet.takeRow L.host rs w) := by
  cases first : cursor.buffer with
  | nil =>
    rw [takeRow_of_nil opened first]
    exact .last (by rw [same, h.left_eq, first, last first, List.append_nil])
  | cons wires rest =>
    let moved : ResultSet := { rs with cursor := some { cursor with buffer := rest } }
    have kept : ∀ {l c} (watch : Watch) (v : World σ), Call.Reads l c →
        L.Quiet v ∧ rows v.session = rows w.session →
          L.Quiet (Operation.call c watch L.host () v).2.2 ∧
            rows (Operation.call c watch L.host () v).2.2.session = rows w.session :=
      fun watch v reads known => ⟨known.1.call reads (call_apply _ watch L.host () v),
        (stores.call watch v reads).trans known.2⟩
    obtain ⟨out, w₁, decoded, quiet, served⟩ := decodeRow_keeps kept L.guards .invalidResultSet
      columns o wires moved ⟨h.held.2, rfl⟩
    have front : left rows rs₀ w₀ = wires :: (rest ++ rows w.session) := by
      rw [same, h.left_eq, first, List.cons_append]
    have run := decoded
    rw [← h.guards, ← h.convert, ← h.described] at run
    rw [takeRow_of_cons opened h.there first]
    cases out with
    | done values =>
      rw [bind_of_done run, h.described]
      have fed : L.Fed columns o rows moved w₁ { cursor with buffer := rest } :=
        ⟨⟨h.held.1.move h.there rfl, quiet⟩, rfl, h.described, h.convert, h.size,
          fun last => served.trans (h.told last)⟩
      refine .row ?_ decoded fed
      rw [front, fed.left_eq, served]
    | failed e =>
      rw [bind_of_failed run]
      exact .spoilt (.undecoded front decoded)
    | stuck why =>
      rw [bind_of_stuck run]
      exact .hangs (.undecoded front decoded)

/-- The next row is read from the buffer, or behind a round trip for more. -/
theorem readRow (h : L.Fed columns o rows rs w cursor) :
    Next L columns o rows rs w (ResultSet.readRow L.host rs w) := by
  rcases h.opens with opened | ⟨fired, refused⟩
  · by_cases there : cursor.buffer ≠ [] ∨ cursor.moreRows = false
    · rw [readRow_of_there opened there]
      exact h.takeRow stores rfl opened (fun empty => h.told (there.resolve_left (· empty)))
    · obtain ⟨empty, more⟩ := not_or.1 there
      have empty : cursor.buffer = [] := not_not.1 empty
      have more : cursor.moreRows = true := eq_true_of_ne_false more
      rw [readRow_of_empty opened empty more]
      rcases fetched : ResultSet.fetch L.host rs w with ⟨u | e | _, rs₁, w₁⟩
      · obtain ⟨cursor₁, fed, opened₁, same, last⟩ := h.fetch stores empty opened fetched
        rw [bind_of_done fetched]
        exact fed.takeRow stores same.symm opened₁ last
      · rw [bind_of_failed fetched]
        refine .spoilt (.unfetched (fun cursor₁ there => ?_) fetched)
        obtain rfl : cursor = cursor₁ := Option.some.inj (h.there.symm.trans there)
        exact empty
      · obtain ⟨rfl, unanswered⟩ := h.fetch_stuck opened fetched
        rw [bind_of_stuck fetched]
        exact .hangs (.unfetched unanswered)
  · have failed : ResultSet.readRow L.host rs w = (.failed .invalidResultSet, rs, w) := by
      rw [readRow_eq, bind_of_failed refused]
    rw [failed]
    exact .spoilt (.cancelled fired)

end Steps

end Fed

/-- Closing the cursor is the one call that is left to make. -/
theorem Failing.release_call (h : L.Failing rs w) :
    ∃ out rs' w', ResultSet.release L.host rs w = (out, rs', w') ∧
      w'.exchanges = w.exchanges ++ [⟨.closeCursor L.id, out⟩] ∧
      ∀ why, out = .stuck why →
        why = .waiting ∧ (L.host.answer (.closeCursor L.id) w.session).wait = none := by
  obtain ⟨out, w', made, added⟩ := call_record (.closeCursor L.id) ⟨none, []⟩ L.host
    { rs with cursor := none } (w.fire L.guards.own)
  refine ⟨out, _, w', h.release_eq.trans made, added, fun why stuck => ?_⟩
  subst stuck
  refine ⟨call_stuck made, ?_⟩
  by_contra answered
  have prompt := call_ne_stuck (w := w.fire L.guards.own) answered ⟨none, []⟩
    { rs with cursor := none } why
  rw [made] at prompt
  exact prompt rfl

end Lease

/-! ## Steps of a stream -/

namespace RowStream

variable {rs rs₁ rs₂ : ResultSet} {w w₁ w₂ : World σ}

theorem next_ended (host : Host σ) {st : RowStream} (ended : st.ended = true) (w : World σ) :
    next host st w = (.done none, st, w) := by
  rw [next, bind_of_done (get_apply host st w), ended]
  rfl

theorem next_row {row : Row} (read : ResultSet.readRow host rs w = (.done (some row), rs₁, w₁)) :
    next host ⟨rs, false⟩ w = (.done (some (.ok row)), ⟨rs₁, false⟩, w₁) := by
  have took := onResultSet_of_done ⟨rs, false⟩ (ResultSet.nextRow_done read)
  exact (bind_of_done took _)

theorem next_last (read : ResultSet.readRow host rs w = (.done none, rs₁, w₁))
    (released : ResultSet.release host rs₁ w₁ = (.done (), rs₂, w₂)) :
    next host ⟨rs, false⟩ w = (.done none, ⟨rs₂, true⟩, w₂) := by
  have took := onResultSet_of_done ⟨rs, false⟩ (ResultSet.nextRow_done read)
  have closed := onResultSet_of_done ⟨rs₁, true⟩ released
  exact (bind_of_done took _).trans (bind_of_done closed _)

theorem next_unclosed {e : Error} (read : ResultSet.readRow host rs w = (.done none, rs₁, w₁))
    (released : ResultSet.release host rs₁ w₁ = (.failed e, rs₂, w₂)) :
    next host ⟨rs, false⟩ w = (.done (some (.error e)), ⟨rs₂, true⟩, w₂) := by
  have took := onResultSet_of_done ⟨rs, false⟩ (ResultSet.nextRow_done read)
  have unclosed := onResultSet_of_failed ⟨rs₁, true⟩ released
  exact (bind_of_done took _).trans (bind_of_done unclosed _)

/-- However closing the cursor ends, the failure is that of the row. -/
theorem next_failed {e : Error} {out : Outcome Unit}
    (read : ResultSet.readRow host rs w = (.failed e, rs₁, w₁))
    (released : ResultSet.release host rs₁ w₁ = (out, rs₂, w₂)) (ended : ∀ why, out ≠ .stuck why) :
    next host ⟨rs, false⟩ w = (.done (some (.error e)), ⟨rs₂, true⟩, w₂) := by
  have failed : ResultSet.nextRow host rs w = (.failed e, rs₂, w₂) := by
    rw [ResultSet.nextRow_failed read]
    cases out with
    | done u => exact bind_of_done (attempt_of_done released) _
    | failed e' => exact bind_of_done (attempt_of_failed released) _
    | stuck why => exact absurd rfl (ended why)
  exact bind_of_done (onResultSet_of_failed ⟨rs, false⟩ failed) _

theorem next_stuck {why : Halt} (run : ResultSet.nextRow host rs w = (.stuck why, rs₁, w₁)) :
    next host ⟨rs, false⟩ w = (.stuck why, ⟨rs, false⟩, w₁) :=
  bind_of_stuck (onResultSet_of_stuck ⟨rs, false⟩ run) _

/-- Closing the cursor is waited for whether or not a row has failed. -/
theorem next_unreleased {out : Outcome (Option Row)} {why : Halt}
    (rowless : ∀ row, out ≠ .done (some row)) (ended : ∀ why, out ≠ .stuck why)
    (read : ResultSet.readRow host rs w = (out, rs₁, w₁))
    (released : ResultSet.release host rs₁ w₁ = (.stuck why, rs₂, w₂)) :
    ∃ st w', next host ⟨rs, false⟩ w = (.stuck why, st, w') := by
  rcases out with (_ | row) | e | why'
  · have took := onResultSet_of_done ⟨rs, false⟩ (ResultSet.nextRow_done read)
    have hung := onResultSet_of_stuck ⟨rs₁, true⟩ released
    exact ⟨_, _, (bind_of_done took _).trans (bind_of_stuck hung _)⟩
  · exact absurd rfl (rowless row)
  · have hung : ResultSet.nextRow host rs w = (.stuck why, rs₂, w₂) := by
      rw [ResultSet.nextRow_failed read]
      exact bind_of_stuck (attempt_of_stuck released) _
    exact ⟨_, _, next_stuck hung⟩
  · exact absurd rfl (ended why')

/-! ## To the end -/

/-- One item more unless there are enough. -/
def collectItem (limit : Option Nat) (items : List (Except Error Row)) :
    Operation σ RowStream (List (Except Error Row) ⊕ List (Except Error Row)) := do
  if limit = some items.length then pure (.inr items)
  else
    match ← next with
    | some item => pure (.inl (items ++ [item]))
    | none => pure (.inr items)

theorem collect_eq (limit : Option Nat) :
    (collect limit : Operation σ RowStream (List (Except Error Row))) =
      loop (collectItem limit) [] :=
  rfl

section Collect

variable {st st' : RowStream} {rounds : Nat} {items : List (Except Error Row)}

theorem iterate_item {item : Except Error Row}
    (run : next host st w = (.done (some item), st', w₁)) :
    iterate (collectItem none) (rounds + 1) items host st w =
      iterate (collectItem none) rounds (items ++ [item]) host st' w₁ := by
  rw [iterate, collectItem, if_neg (Option.some_ne_none _).symm, bind_assoc, bind_of_done run]
  rfl

theorem iterate_over (run : next host st w = (.done none, st', w₁)) :
    iterate (collectItem none) (rounds + 1) items host st w = (.done items, st', w₁) := by
  rw [iterate, collectItem, if_neg (Option.some_ne_none _).symm, bind_assoc, bind_of_done run]
  rfl

theorem iterate_stuck {why : Halt} (run : next host st w = (.stuck why, st', w₁)) :
    iterate (collectItem none) (rounds + 1) items host st w = (.stuck why, st', w₁) := by
  rw [iterate, collectItem, if_neg (Option.some_ne_none _).symm, bind_assoc, bind_of_stuck run]

end Collect

/-- What a stream yields to its end: the rows up to where it ends, and what it yields there. The
call that closes the cursor is its last. -/
inductive Yields (host : Host σ) (id : Nat) (g : Guards) (columns : Columns) (o : ConvertOptions)
    (rows : σ → List (List WireValue)) (rs : ResultSet) (w : World σ) :
    List (Except Error Row) → World σ → Prop where
  | intro {front : List (List WireValue)} {dealt : List Row} {rs₁ : ResultSet} {w₁ w₂ w' : World σ}
      {last : List (Except Error Row)} {out : Outcome Unit}
      (deals : ResultSet.Deals host g columns o rows rs w front dealt rs₁ w₁)
      (ends : ResultSet.StreamEnds host g columns o rows rs₁ w₁ last w₂ out)
      (closed : w'.exchanges = w₂.exchanges ++ [⟨.closeCursor id, out⟩]) :
      Yields host id g columns o rows rs w (dealt.map .ok ++ last) w'

/-- A row in front of the others is yielded in front of them. -/
theorem Yields.row {g : Guards} {columns : Columns} {o : ConvertOptions} {w₀ w' : World σ}
    {wires : List WireValue} {values : List Value} {items : List (Except Error Row)}
    (yields : Yields host id g columns o rows rs₁ w₁ items w')
    (read : ResultSet.readRow host rs w = (.done (some ⟨values, columns⟩), rs₁, w₁))
    (first : ResultSet.left rows rs w = wires :: ResultSet.left rows rs₁ w₁)
    (decoded : decodeRow g .invalidResultSet columns o wires host rs₁ w₀ =
      (.done values, rs₁, w₁)) :
    Yields host id g columns o rows rs w (.ok ⟨values, columns⟩ :: items) w' := by
  obtain ⟨deals, ends, closed⟩ := yields
  exact .intro (.row read first decoded deals) ends closed

end RowStream

namespace Lease.Fed

open ResultSet RowStream

variable {L : Lease σ} {rs : ResultSet} {w : World σ} {cursor : OpenCursor} {columns : Columns}
  {o : ConvertOptions} {rounds : Nat} {items : List (Except Error Row)}

/-- What driving a stream from there comes to: it yields to its end, behind the items so far, and
its cursor is closed; or it gets stuck. -/
inductive Driven (L : Lease σ) (columns : Columns) (o : ConvertOptions)
    (rows : σ → List (List WireValue)) (rs : ResultSet) (w : World σ)
    (items : List (Except Error Row)) :
    Outcome (List (Except Error Row)) × RowStream × World σ → Prop where
  | ended {yielded : List (Except Error Row)} {st : RowStream} {w' : World σ}
      (yields : RowStream.Yields L.host L.id L.guards columns o rows rs w yielded w')
      (gone : L.Gone st.resultSet w') (ended : st.ended = true) :
      Driven L columns o rows rs w items (.done (items ++ yielded), st, w')
  | hung {front : List (List WireValue)} {dealt : List Row} {rs₁ : ResultSet} {w₁ w' : World σ}
      {st : RowStream} {why : Halt}
      (deals : Deals L.host L.guards columns o rows rs w front dealt rs₁ w₁)
      (hangs : Hangs L.host L.guards columns o rows L.id rs₁ w₁ why) :
      Driven L columns o rows rs w items (.stuck why, st, w')

/-- A row in front is dealt first. -/
theorem Driven.row {rs₁ : ResultSet} {w₀ w₁ : World σ} {wires : List WireValue}
    {values : List Value} {run : Outcome (List (Except Error Row)) × RowStream × World σ}
    (driven : Driven L columns o rows rs₁ w₁ (items ++ [.ok ⟨values, columns⟩]) run)
    (read : ResultSet.readRow L.host rs w = (.done (some ⟨values, columns⟩), rs₁, w₁))
    (first : left rows rs w = wires :: left rows rs₁ w₁)
    (decoded : decodeRow L.guards .invalidResultSet columns o wires L.host rs₁ w₀ =
      (.done values, rs₁, w₁)) : Driven L columns o rows rs w items run := by
  cases driven with
  | ended yields gone ended =>
    rw [List.append_assoc]
    exact .ended (yields.row read first decoded) gone ended
  | hung deals hangs => exact .hung (.row read first decoded deals) hangs

/-- Where there is no next row, the stream closes the cursor and has ended. -/
theorem stops (h : L.Fed columns o rows rs w cursor) {out : Outcome (Option Row)} {rs₁ : ResultSet}
    {w₁ : World σ} (read : ResultSet.readRow L.host rs w = (out, rs₁, w₁))
    (next : Next L columns o rows rs w (out, rs₁, w₁)) (rowless : ∀ row, out ≠ .done (some row)) :
    Driven L columns o rows rs w items
      (iterate (collectItem none) (rounds + 2) items L.host ⟨rs, false⟩ w) := by
  have failing := (h.held.readRow read).1
  obtain ⟨closing, rs₂, w₂, released, added, unanswered⟩ := failing.release_call
  have gone := failing.release released
  have hung : ∀ why, closing = .stuck why → (∀ why, out ≠ .stuck why) →
      Driven L columns o rows rs w items
        (iterate (collectItem none) (rounds + 2) items L.host ⟨rs, false⟩ w) := by
    intro why stuck ended
    obtain ⟨rfl, unclosed⟩ := unanswered why stuck
    subst stuck
    obtain ⟨st, w', hung⟩ := next_unreleased rowless ended read released
    rw [iterate_stuck hung]
    exact .hung (.here rs w) (.unclosed read unclosed)
  cases next with
  | row first decoded fed => exact absurd rfl (rowless _)
  | last drained =>
    cases closing with
    | done u =>
      have ended : Driven L columns o rows rs w items (.done (items ++ []), ⟨rs₂, true⟩, w₂) :=
        .ended (.intro (.here rs w) (.closed read drained) added) gone rfl
      rw [List.append_nil] at ended
      rwa [iterate_over (next_last read released)]
    | failed e =>
      rw [iterate_item (next_unclosed read released), iterate_over (next_ended L.host rfl w₂)]
      exact .ended (.intro (.here rs w) (.unclosed e read drained) added) gone rfl
    | stuck why => exact hung why rfl nofun
  | spoilt spoils =>
    by_cases stuck : ∃ why, closing = .stuck why
    · obtain ⟨why, stuck⟩ := stuck
      exact hung why stuck nofun
    · rw [iterate_item (next_failed read released fun why same => stuck ⟨why, same⟩),
        iterate_over (next_ended L.host rfl w₂)]
      exact .ended (.intro (.here rs w) (.spoilt closing read spoils) added) gone rfl
  | hangs hangs =>
    rw [iterate_stuck (next_stuck (nextRow_stuck read))]
    exact .hung (.here rs w) hangs

/-- A stream deals the rows that are left, up to where it ends. -/
theorem collect (h : L.Fed columns o rows rs w cursor) (stores : Stores L.host L.id rows)
    (patient : (left rows rs w).length + 1 < rounds) :
    Driven L columns o rows rs w items
      (iterate (collectItem none) rounds items L.host ⟨rs, false⟩ w) := by
  obtain ⟨rounds, rfl⟩ : ∃ n, rounds = n + 2 := ⟨rounds - 2, by omega⟩
  induction rounds generalizing rs w cursor items with
  | zero =>
    have drained : left rows rs w = [] := List.length_eq_zero_iff.1 (by omega)
    have next := h.readRow stores
    rcases read : ResultSet.readRow L.host rs w with ⟨out, rs₁, w₁⟩
    rw [read] at next
    refine h.stops read next fun row same => ?_
    subst same
    cases next with
    | row first decoded fed =>
      rw [drained] at first
      cases first
  | succ rounds ih =>
    have next := h.readRow stores
    rcases read : ResultSet.readRow L.host rs w with ⟨out, rs₁, w₁⟩
    rw [read] at next
    cases next with
    | row first decoded fed =>
      rw [first, List.length_cons] at patient
      rw [iterate_item (next_row read)]
      exact (ih fed (by omega)).row read first decoded
    | last drained => exact h.stops read (.last drained) nofun
    | spoilt spoils => exact h.stops read (.spoilt spoils) nofun
    | hangs hangs => exact h.stops read (.hangs hangs) nofun

end Lease.Fed

namespace RowStream

/-- What was asked for rows stays so, whatever is done with it. -/
theorem runAll_fetched (us : List Use) :
    Calls (fun st => st.resultSet.fetched = true) Call.StartsNothing
      (Use.runAll us : Operation σ RowStream _) := by
  induction us with
  | nil => exact .pure _
  | cons u rest ih =>
    exact .bind (u.run_calls ResultSet.fetched_stays).attempt fun _ => .bind ih fun _ => .pure _

/-- A result set that was asked for rows gives no stream. -/
theorem ofResultSet_fetched {rs : ResultSet} (fetched : rs.fetched = true) (s : Signals) :
    ∃ e, ofResultSet rs s = .error e ∧
      ∀ cursor, rs.cursorOf s = .ok cursor → e = .streamAfterFetch := by
  rw [ofResultSet]
  cases found : rs.cursorOf s with
  | error e => exact ⟨e, rfl, fun _ same => by cases same⟩
  | ok cursor => exact ⟨.streamAfterFetch, by simp [fetched]; rfl, fun _ _ => rfl⟩

/-! ## Fresh result sets -/

/-- A result set from which no rows were asked for, over a cursor whose rows are stored. It knows
when none are left at the server. Its connection is open and stays open. -/
structure Fresh (host : Host σ) (rows : σ → List (List WireValue)) (rs : ResultSet) (w : World σ)
    (cursor : OpenCursor) : Prop where
  held : rs.cursor = some cursor
  unfetched : rs.fetched = false
  size : 0 < rs.fetchSize
  stores : Stores host cursor.id rows
  told : cursor.moreRows = false → rows w.session = []
  apart : rs.guards.own ≠ rs.guards.connection
  own : w.signals.isFired rs.guards.own = false
  connection : w.signals.isFired rs.guards.connection = false
  armed : rs.guards.connection ∉ w.armed
  answers : ∀ c s, rs.guards.connection ∉ (host.answer c s).during ++ (host.answer c s).after

theorem Fresh.ofResultSet {rs : ResultSet} {w : World σ} {cursor : OpenCursor}
    (h : Fresh host rows rs w cursor) :
    RowStream.ofResultSet rs w.signals = .ok ⟨rs, false⟩ := by
  have unfired : firstFired w.signals (rs.guards.stops .invalidResultSet) = none := by
    simp [Guards.stops, firstFired, h.own, h.connection]
  rw [RowStream.ofResultSet, ResultSet.cursorOf, Guards.check, unfired, h.held, h.unfetched]
  rfl

/-- A stream that yields no failure yields every row. -/
theorem Yields.all {g : Guards} {columns : Columns} {o : ConvertOptions} {rs : ResultSet}
    {w w' : World σ} {items : List (Except Error Row)}
    (h : Yields host id g columns o rows rs w items w') (unfailed : ∀ e, .error e ∉ items) :
    items.length = (ResultSet.left rows rs w).length := by
  obtain ⟨deals, ends, -⟩ := h
  obtain ⟨front, length⟩ := deals.front
  cases ends with
  | closed read drained => simp [front, drained, length]
  | unclosed e read drained =>
    exact absurd (List.mem_append_right _ List.mem_cons_self) (unfailed e)
  | @spoilt _ _ e out read spoils =>
    exact absurd (List.mem_append_right _ List.mem_cons_self) (unfailed e)

/-- A stream over a fresh result set, if there is patience for its rows, comes to its end unless it
waits forever for a call or the decoding of a row breaks off. It yields the rows in order up to the
first that is not decoded or fetched and then that failure, or behind the last row the failure to
close the cursor if there is one, and nothing behind a failure. The cursor is closed by one call. A
result set that was asked for rows gives no stream, whatever is done with it. -/
theorem stream_to_its_end (host : Host σ) (rows : σ → List (List WireValue)) :
    (∀ rs w cursor, Fresh host rows rs w cursor →
      (ResultSet.left rows rs w).length + 1 < host.patience →
      RowStream.ofResultSet rs w.signals = .ok ⟨rs, false⟩ ∧
      ((∃ items st w', collect none host ⟨rs, false⟩ w = (.done items, st, w') ∧
        Yields host cursor.id rs.guards cursor.columns rs.convert rows rs w items w' ∧
        ((∀ e, .error e ∉ items) → items.length = (ResultSet.left rows rs w).length) ∧
        (∃ new, w'.exchanges = w.exchanges ++ new ∧ (closedCursors new).count cursor.id = 1) ∧
        ∀ w₁, next host st w₁ = (.done none, st, w₁)) ∨
      ∃ why front dealt rs₁ w₁, (collect none host ⟨rs, false⟩ w).1 = .stuck why ∧
        ResultSet.Deals host rs.guards cursor.columns rs.convert rows rs w front dealt rs₁ w₁ ∧
        ResultSet.Hangs host rs.guards cursor.columns rs.convert rows cursor.id rs₁ w₁ why)) ∧
    ∀ rs w rs' w', ResultSet.AskedForRows host rs w rs' w' → ∀ later ended s,
      ∃ e, RowStream.ofResultSet (Use.runAll later host ⟨rs', ended⟩ w').2.1.resultSet s =
          .error e ∧
        ∀ cursor, (Use.runAll later host ⟨rs', ended⟩ w').2.1.resultSet.cursorOf s = .ok cursor →
          e = .streamAfterFetch := by
  constructor
  · intro rs w cursor fresh patient
    refine ⟨fresh.ofResultSet, ?_⟩
    let L : Lease σ := ⟨host, cursor.id, rs.guards, w, fresh.apart, fresh.answers⟩
    have holds : L.Holds rs := ⟨rfl, cursor, fresh.held, rfl⟩
    have fed : L.Fed cursor.columns rs.convert rows rs w cursor :=
      ⟨holds.held fresh.connection fresh.armed, fresh.held, rfl, rfl, fresh.size, fresh.told⟩
    rcases run : collect none host ⟨rs, false⟩ w with ⟨out, st, w'⟩
    have driven : Lease.Fed.Driven L cursor.columns rs.convert rows rs w [] (out, st, w') := by
      rw [← run, collect_eq]
      exact fed.collect fresh.stores patient
    cases driven with
    | ended yields gone ended =>
      obtain ⟨new, since, once, -⟩ := gone.2.2.2
      exact .inl ⟨_, st, w', rfl, yields, yields.all, ⟨new, since.added, once⟩,
        next_ended host ended⟩
    | hung deals hangs => exact .inr ⟨_, _, _, _, _, rfl, deals, hangs⟩
  · intro rs w rs' w' asked later ended s
    exact ofResultSet_fetched (runAll_fetched later host ⟨rs', ended⟩ w' asked.fetched).1 s

open ResultSet (tableHost texts)

theorem tableHost_stores (id patience : Nat) : Stores (tableHost patience) id fun left => left where
  fetch := by
    rintro n s _ ⟨⟩
    exact ⟨rfl, rfl, rfl⟩
  objects l c s reads := by cases reads <;> exact ⟨rfl, rfl⟩

theorem texts_fresh (left : List (List WireValue)) :
    Fresh (tableHost 9) (fun left => left) texts (World.start left)
      ⟨7, ⟨[⟨"N", .varchar, true, 0, 0, 9⟩]⟩, [[.text "a"]], true, 1⟩ where
  held := rfl
  unfetched := rfl
  size := by decide
  stores := tableHost_stores 7 9
  told := nofun
  apart := by decide
  own := rfl
  connection := rfl
  armed := nofun
  answers c s := by cases c <;> nofun

/-- Behind the last row the table refuses to close the cursor. -/
theorem texts_streamed :
    ∃ items st w, collect none (tableHost 9) ⟨texts, false⟩
        (World.start [[.text "b"], [.text "c"]]) = (.done items, st, w) ∧
      items = ["a", "b", "c"].map (fun text =>
        .ok ⟨[.string text], ⟨[⟨"N", .varchar, true, 0, 0, 9⟩]⟩⟩) ++ [.error .connectionClosed] ∧
      (closedCursors w.exchanges).count 7 = 1 ∧
      ∀ w', next (tableHost 9) st w' = (.done none, st, w') := by
  have streams := ((stream_to_its_end (tableHost 9) fun left => left).1 texts
    (World.start [[.text "b"], [.text "c"]]) _ (texts_fresh _) (by decide)).2
  rcases streams with ⟨items, st, w, run, -, -, ⟨new, added, once⟩, ended⟩ |
    ⟨_, _, _, _, _, stuck, -⟩
  · refine ⟨items, st, w, run, ?_, by rw [added]; exact once, ended⟩
    cases run
    rfl
  · cases stuck

end RowStream

end SqlBinder

import SqlBinder.Proofs.Lob.Calls
import SqlBinder.Proofs.Session.Alike

/-!
One row of a result set at a time. Decoding a row reads objects and closes them, so two handles that
read objects alike decode alike. Of an open result set the next row is the first in the buffer;
behind the last of them there is one round trip for more.

Loops over rows are taken apart here, at their first row, once for all that is proved about them
with one invariant or another: how they end, what they call, and what they deal out.
-/
namespace SqlBinder

open Operation

variable {σ η θ : Type} {host : Host σ}

/-! ## Decoding -/

section Decoding

variable {S : World σ → World σ → Prop} {g g' : Guards} {closed closed' : Error}
  (reads : ∀ l offset amount, Alike host S
    (guarded g closed (.readLob l offset amount) : Operation σ η LobData)
    (guarded g' closed' (.readLob l offset amount) : Operation σ θ LobData))
  (closes : ∀ l, Alike host S (callFreely (.closeLob l) : Operation σ η Unit)
    (callFreely (.closeLob l) : Operation σ θ Unit))

include reads closes

theorem readWhole_alike (l : LobLocator) :
    Alike host S (readWhole g closed l : Operation σ η Value)
      (readWhole g' closed' l : Operation σ θ Value) := by
  refine .bind (.loop (fun read => .bind (reads l _ _) fun piece => ?_) _) fun data => ?_
  · exact .ite (.pure _) (.pure _)
  · exact .ite (.bind (closes l) fun _ => .pure _) (.pure _)

theorem decodeColumn_alike (o : ConvertOptions) (column : Column) (wire : WireValue) :
    Alike host S (decodeColumn g closed o column wire : Operation σ η Value)
      (decodeColumn g' closed' o column wire : Operation σ θ Value) := by
  refine .bind (.ofFallible _) fun v => ?_
  cases v with
  | lob l => exact .ite (readWhole_alike reads closes l) (.pure _)
  | _ => exact .pure _

theorem decodeColumns_alike (o : ConvertOptions) (cells : List (Column × WireValue)) :
    Alike host S (decodeColumns g closed o cells : Operation σ η (List Value))
      (decodeColumns g' closed' o cells : Operation σ θ (List Value)) := by
  induction cells with
  | nil => exact .pure _
  | cons cell rest ih =>
    exact .bind (decodeColumn_alike reads closes o cell.1 cell.2) fun _ => .bind ih fun _ => .pure _

theorem decodeRow_alike (columns : Columns) (o : ConvertOptions) (wires : List WireValue) :
    Alike host S (decodeRow g closed columns o wires : Operation σ η (List Value))
      (decodeRow g' closed' columns o wires : Operation σ θ (List Value)) :=
  .ite (.fail _) (decodeColumns_alike reads closes o _)

end Decoding

/-- Handles that nobody disturbs decode alike over the same state of the session. What calls on
objects keep of that state is kept. -/
theorem decodeRow_undisturbed {I : σ → Prop} {g g' : Guards} (closed closed' : Error)
    (kept : ∀ l c s, Call.Reads l c → I s → I (host.answer c s).result.2) (columns : Columns)
    (o : ConvertOptions) (wires : List WireValue) :
    Alike host (fun w w' => w'.session = w.session ∧ I w.session ∧ Undisturbed host g w ∧
        Undisturbed host g' w')
      (decodeRow g closed columns o wires : Operation σ η (List Value))
      (decodeRow g' closed' columns o wires : Operation σ θ (List Value)) := by
  apply decodeRow_alike
  · intro l offset amount h k w w' related
    obtain ⟨same, held, calm, calm'⟩ := related
    obtain ⟨w₁, run, session, calm₁⟩ := calm.guarded closed (.readLob l offset amount) h
    obtain ⟨w₁', run', session', calm₁'⟩ := calm'.guarded closed' (.readLob l offset amount) k
    rw [same] at run' session'
    refine ⟨_, w₁, w₁', run, run', session'.trans session.symm, ?_, calm₁, calm₁'⟩
    rw [session]
    exact kept l _ _ (.read offset amount) held
  · intro l h k w w' related
    obtain ⟨same, held, calm, calm'⟩ := related
    obtain ⟨w₁, run, session, calm₁⟩ := calm.callFreely (.closeLob l) h
    obtain ⟨w₁', run', session', calm₁'⟩ := calm'.callFreely (.closeLob l) k
    rw [same] at run' session'
    refine ⟨_, w₁, w₁', run, run', session'.trans session.symm, ?_, calm₁, calm₁'⟩
    rw [session]
    exact kept l _ _ .close held

/-- Decoding leaves its handle alone. What calls on objects keep of the world is kept. -/
theorem decodeRow_keeps {Q : World σ → Prop} {w : World σ}
    (kept : ∀ {l c} (watch : Watch) (w : World σ), Call.Reads l c → Q w →
      Q (Operation.call c watch host () w).2.2)
    (g : Guards) (closed : Error) (columns : Columns) (o : ConvertOptions)
    (wires : List WireValue) (h : η) (held : Q w) :
    ∃ out w', decodeRow g closed columns o wires host h w = (out, h, w') ∧ Q w' := by
  have called : ∀ {l c} (watch : Watch), Call.Reads l c →
      Alike host (fun w w' => w' = w ∧ Q w) (Operation.call c watch : Operation σ η c.Reply)
        (Operation.call c watch : Operation σ η c.Reply) := by
    intro l c watch reads h k w w' related
    obtain ⟨rfl, held⟩ := related
    exact ⟨_, _, _, rfl, rfl, rfl, kept watch w' reads held⟩
  have checked : Alike host (fun w w' => w' = w ∧ Q w)
      (check g closed : Operation σ η Unit) (check g closed : Operation σ η Unit) := by
    intro h k w w' related
    obtain ⟨rfl, held⟩ := related
    simp only [check, bind_apply, signals_apply]
    cases g.check w'.signals closed with
    | ok _ => exact ⟨_, _, _, rfl, rfl, rfl, held⟩
    | error e => exact ⟨_, _, _, rfl, rfl, rfl, held⟩
  have alike : Alike host (fun w w' => w' = w ∧ Q w)
      (decodeRow g closed columns o wires : Operation σ η (List Value))
      (decodeRow g closed columns o wires : Operation σ η (List Value)) :=
    decodeRow_alike
      (fun l offset amount => .bind checked fun _ => called _ (.read offset amount))
      (fun l => called _ .close) columns o wires
  obtain ⟨out, w', -, run, -, -, held'⟩ := alike h h w w ⟨rfl, held⟩
  exact ⟨out, w', run, held'⟩

/-- The cursor behind a round trip for more rows. -/
def OpenCursor.receive (cursor : OpenCursor) (response : FetchResponse) : OpenCursor :=
  { cursor with
    rowsFetched := cursor.rowsFetched + response.rows.length
    buffer := cursor.buffer ++ response.rows
    moreRows := response.moreRows }

namespace ResultSet

variable {rs : ResultSet} {w w₁ : World σ} {cursor : OpenCursor}

/-! ## Steps of a row -/

theorem open?_apply (host : Host σ) (rs : ResultSet) (w : World σ) :
    open? host rs w =
      match rs.cursorOf w.signals with
      | .ok cursor => (.done cursor, rs, w)
      | .error e => (.failed e, rs, w) := by
  rw [open?, bind_of_done (get_apply host rs w), bind_of_done (signals_apply host rs w)]
  cases rs.cursorOf w.signals <;> rfl

theorem open?_done {rs' : ResultSet} {w' : World σ}
    (run : open? host rs w = (.done cursor, rs', w')) :
    rs = rs' ∧ w = w' ∧ w.signals.isFired rs.guards.own = false := by
  rw [open?_apply] at run
  cases found : rs.cursorOf w.signals with
  | error e => simp [found] at run
  | ok cursor =>
    rw [found] at run
    cases run
    refine ⟨rfl, rfl, Bool.eq_false_iff.2 fun fired => ?_⟩
    obtain ⟨e, stopped⟩ : ∃ e,
        firstFired w.signals (rs.guards.stops .invalidResultSet) = some e := by
      simp only [Guards.stops, firstFired, fired, if_true]
      split <;> exact ⟨_, rfl⟩
    rw [cursorOf, Guards.check, stopped] at found
    cases found

/-- The first row in the buffer; none when there is none. -/
def takeRow : Operation σ ResultSet (Option Row) := do
  let cursor ← open?
  match cursor.buffer with
  | [] => pure none
  | wires :: rest =>
    moveCursor fun c => { c with buffer := rest }
    let rs ← Operation.get
    let values ← decodeRow rs.guards .invalidResultSet cursor.columns rs.convert wires
    return some ⟨values, cursor.columns⟩

/-- A row is taken from the buffer, behind a round trip if there is none in it. -/
theorem readRow_eq :
    (readRow : Operation σ ResultSet (Option Row)) = (do
      let cursor ← open?
      if cursor.buffer.isEmpty && cursor.moreRows then
        fetch
        takeRow
      else takeRow) :=
  rfl

/-! ## An open result set -/

section Opened

variable (opened : open? host rs w = (.done cursor, rs, w)) (held : rs.cursor = some cursor)

include opened

theorem takeRow_of_nil (empty : cursor.buffer = []) :
    takeRow host rs w = (.done none, rs, w) := by
  rw [takeRow, bind_of_done opened, empty]
  rfl

include held in
theorem takeRow_of_cons {wires : List WireValue} {rest : List (List WireValue)}
    (first : cursor.buffer = wires :: rest) :
    takeRow host rs w =
      (decodeRow rs.guards .invalidResultSet cursor.columns rs.convert wires >>= fun values =>
        pure (some ⟨values, cursor.columns⟩)) host
          { rs with cursor := some { cursor with buffer := rest } } w := by
  rw [takeRow, bind_of_done opened, first]
  simp only [moveCursor]
  rw [bind_of_done (modify_apply host rs w _), bind_of_done (get_apply host _ w), held]
  rfl

theorem readRow_of_there (there : cursor.buffer ≠ [] ∨ cursor.moreRows = false) :
    readRow host rs w = takeRow host rs w := by
  have enough : (cursor.buffer.isEmpty && cursor.moreRows) = false := by
    rcases there with there | there
    · simp [there]
    · simp [there]
  rw [readRow_eq, bind_of_done opened, enough]
  rfl

theorem readRow_of_empty (empty : cursor.buffer = []) (more : cursor.moreRows = true) :
    readRow host rs w = (fetch >>= fun _ => takeRow) host rs w := by
  rw [readRow_eq, bind_of_done opened, empty, more]
  rfl

include held in
/-- What a round trip for more rows did that is done. -/
theorem fetch_of_done {u : Unit} {rs' : ResultSet} {w' : World σ}
    (run : fetch host rs w = (.done u, rs', w')) :
    ∃ response, guarded rs.guards .invalidResultSet (.fetch cursor.id rs.fetchSize) host rs w =
        (.done response, rs, w') ∧
      rs' = { rs with cursor := some (cursor.receive response) } ∧
      w'.signals.isFired rs.guards.own = false := by
  rw [fetch, bind_of_done (get_apply host rs w), bind_of_done opened] at run
  obtain ⟨response, rs₁, w₁, made, onward⟩ := bind_done run
  obtain rfl : rs = rs₁ := (guarded_done made).1.symm
  obtain ⟨cursor₁, rs₂, w₂, opened₁, moved⟩ := bind_done onward
  obtain ⟨rfl, rfl, uncancelled⟩ := open?_done opened₁
  rw [moveCursor, modify_apply, held] at moved
  cases moved
  exact ⟨response, made, rfl, uncancelled⟩

end Opened

section Open

variable (calm : Undisturbed host rs.guards w) (held : rs.cursor = some cursor)

include calm held

theorem open?_held : open? host rs w = (.done cursor, rs, w) := by
  have found : rs.cursorOf w.signals = .ok cursor := by
    rw [cursorOf, Guards.check, calm.stops_none, held]
    rfl
  rw [open?_apply, found]

theorem takeRow_nil (empty : cursor.buffer = []) : takeRow host rs w = (.done none, rs, w) :=
  takeRow_of_nil (open?_held calm held) empty

theorem takeRow_cons {wires : List WireValue} {rest : List (List WireValue)}
    (first : cursor.buffer = wires :: rest) :
    takeRow host rs w =
      (decodeRow rs.guards .invalidResultSet cursor.columns rs.convert wires >>= fun values =>
        pure (some ⟨values, cursor.columns⟩)) host
          { rs with cursor := some { cursor with buffer := rest } } w :=
  takeRow_of_cons (open?_held calm held) held first

theorem fetch_done {response : FetchResponse}
    (answer : (host.answer (.fetch cursor.id rs.fetchSize) w.session).result.1 = .done response) :
    ∃ w', fetch host rs w = (.done (), { rs with cursor := some (cursor.receive response) }, w') ∧
      w'.session = (host.answer (.fetch cursor.id rs.fetchSize) w.session).result.2 ∧
      Undisturbed host rs.guards w' := by
  obtain ⟨w', made, session, calm'⟩ :=
    calm.guarded .invalidResultSet (.fetch cursor.id rs.fetchSize) rs
  rw [answer] at made
  refine ⟨w', ?_, session, calm'⟩
  rw [fetch, bind_of_done (get_apply host rs w), bind_of_done (open?_held calm held)]
  rw [bind_of_done made, bind_of_done (open?_held calm' held), moveCursor, modify_apply, held]
  rfl

theorem readRow_held (there : cursor.buffer ≠ [] ∨ cursor.moreRows = false) :
    readRow host rs w = takeRow host rs w :=
  readRow_of_there (open?_held calm held) there

theorem readRow_fetching (empty : cursor.buffer = []) (more : cursor.moreRows = true)
    {rs' : ResultSet} {w' : World σ} (made : fetch host rs w = (.done (), rs', w')) :
    readRow host rs w = takeRow host rs' w' := by
  rw [readRow_of_empty (open?_held calm held) empty more, bind_of_done made]

end Open

theorem nextRow_done {row : Option Row} {rs' : ResultSet} {w' : World σ}
    (run : readRow host rs w = (.done row, rs', w')) :
    nextRow host rs w = (.done row, rs', w') := by
  rw [nextRow, bind_of_done (attempt_of_done run)]
  rfl

/-- The failure of a row is that of the step, unless closing the cursor never ends. -/
theorem nextRow_failed {e : Error} {rs' : ResultSet} {w' : World σ}
    (run : readRow host rs w = (.failed e, rs', w')) :
    nextRow host rs w =
      (release.attempt >>= fun _ => (fail e : Operation σ ResultSet (Option Row))) host rs' w' := by
  rw [nextRow, bind_of_done (attempt_of_failed run)]

theorem nextRow_stuck {why : Halt} {rs' : ResultSet} {w' : World σ}
    (run : readRow host rs w = (.stuck why, rs', w')) :
    nextRow host rs w = (.stuck why, rs', w') := by
  rw [nextRow, bind_of_stuck (attempt_of_stuck run)]

/-! ## Several rows -/

/-- One row more unless there are enough. -/
def collectRow (limit : Nat) (rows : List Row) :
    Operation σ ResultSet (List Row ⊕ List Row) := do
  if limit ≠ 0 ∧ limit ≤ rows.length then pure (.inr rows)
  else
    match ← nextRow with
    | some row => pure (.inl (rows ++ [row]))
    | none => pure (.inr rows)

theorem getRows_eq (limit : Nat) :
    (getRows limit : Operation σ ResultSet (List Row)) = (do
      markFetched
      loop (collectRow limit) []) :=
  rfl

theorem iterate_enough {limit rounds : Nat} {rows : List Row}
    (enough : limit ≠ 0 ∧ limit ≤ rows.length) :
    iterate (collectRow limit) (rounds + 1) rows host rs w = (.done rows, rs, w) := by
  rw [iterate, collectRow, if_pos enough]
  rfl

theorem iterate_row {limit rounds : Nat} {rows : List Row} {row : Row} {rs' : ResultSet}
    {w' : World σ} (more : ¬(limit ≠ 0 ∧ limit ≤ rows.length))
    (run : nextRow host rs w = (.done (some row), rs', w')) :
    iterate (collectRow limit) (rounds + 1) rows host rs w =
      iterate (collectRow limit) rounds (rows ++ [row]) host rs' w' := by
  rw [iterate, collectRow, if_neg more, bind_assoc, bind_of_done run]
  rfl

theorem iterate_none {limit rounds : Nat} {rows : List Row} {rs' : ResultSet} {w' : World σ}
    (more : ¬(limit ≠ 0 ∧ limit ≤ rows.length))
    (run : nextRow host rs w = (.done none, rs', w')) :
    iterate (collectRow limit) (rounds + 1) rows host rs w = (.done rows, rs', w') := by
  rw [iterate, collectRow, if_neg more, bind_assoc, bind_of_done run]
  rfl

theorem iterate_failed {limit rounds : Nat} {rows : List Row} {e : Error} {rs' : ResultSet}
    {w' : World σ} (more : ¬(limit ≠ 0 ∧ limit ≤ rows.length))
    (run : nextRow host rs w = (.failed e, rs', w')) :
    iterate (collectRow limit) (rounds + 1) rows host rs w = (.failed e, rs', w') := by
  rw [iterate, collectRow, if_neg more, bind_assoc, bind_of_failed run]

theorem iterate_stuck {limit rounds : Nat} {rows : List Row} {why : Halt} {rs' : ResultSet}
    {w' : World σ} (more : ¬(limit ≠ 0 ∧ limit ≤ rows.length))
    (run : nextRow host rs w = (.stuck why, rs', w')) :
    iterate (collectRow limit) (rounds + 1) rows host rs w = (.stuck why, rs', w') := by
  rw [iterate, collectRow, if_neg more, bind_assoc, bind_of_stuck run]

/-- Rows are collected alike from where the next one is read alike. -/
theorem iterate_congr {limit rounds : Nat} {rows : List Row} {rs' : ResultSet} {w' : World σ}
    (more : ¬(limit ≠ 0 ∧ limit ≤ rows.length))
    (read : readRow host rs w = readRow host rs' w') :
    iterate (collectRow limit) (rounds + 1) rows host rs w =
      iterate (collectRow limit) (rounds + 1) rows host rs' w' := by
  have next : nextRow host rs w = nextRow host rs' w' := by
    rw [nextRow, bind_apply, bind_apply, attempt, attempt, read]
  rw [iterate, collectRow, if_neg more, bind_assoc, bind_apply, bind_apply, next]

/-- A new result set is made without a call. -/
theorem create_silent {η : Type} (cursorId : Nat) (columns : List ColumnMetadata)
    (rows : List (List WireValue)) (moreRows : Bool) (fetchSize : Nat) (o : ConvertOptions)
    (connection : Signal) (h : η) (w : World σ) :
    ∃ out, create cursorId columns rows moreRows fetchSize o connection host h w = (out, h, w) ∨
      create cursorId columns rows moreRows fetchSize o connection host h w =
        (out, h, { w with signals := w.signals.fresh.2 }) := by
  unfold create
  split
  · exact ⟨_, .inl rfl⟩
  · cases Columns.ofMetadata columns with
    | ok columns => exact ⟨_, .inr rfl⟩
    | error e => exact ⟨_, .inl rfl⟩

end ResultSet

/-! ## Streams -/

namespace RowStream

variable {α : Type} {t : Operation σ ResultSet α} {rs : ResultSet} {w w' : World σ} (st : RowStream)

theorem onResultSet_of_done {a : α} (run : t host st.resultSet w = (.done a, rs, w')) :
    onResultSet t host st w = (.done (.ok a), { st with resultSet := rs }, w') := by
  rw [onResultSet, bind_of_done (get_apply host st w), bind_of_done (on_of_done run)]
  rfl

theorem onResultSet_of_failed {e : Error} (run : t host st.resultSet w = (.failed e, rs, w')) :
    onResultSet t host st w = (.done (.error e), { st with resultSet := rs }, w') := by
  rw [onResultSet, bind_of_done (get_apply host st w), bind_of_done (on_of_failed run)]
  rfl

theorem onResultSet_of_stuck {why : Halt} (run : t host st.resultSet w = (.stuck why, rs, w')) :
    onResultSet t host st w = (.stuck why, st, w') := by
  rw [onResultSet, bind_of_done (get_apply host st w), bind_of_stuck (on_of_stuck run)]

end RowStream

end SqlBinder

import SqlBinder.Proofs.Connection.Release
import SqlBinder.Proofs.ResultSet.Rows

/-!
Rows of a query at once and row by row. Both ways decode the same rows with the same calls, as long
as no batch is empty that promises more rows: asked at once, such a batch is passed over, but a
result set takes it for the end.

The two loops have rounds of different size, a batch for the one and a row for the other. They are
compared at the ends of batches, by induction on the script of the session and, within a batch, on
its rows. Both decode by one function, so a row fails in the one exactly if it does in the other.
-/
namespace SqlBinder

open Operation

variable {σ : Type} {host : Host σ}

/-! ## Scripts -/

/-- Round trips for rows of the cursor are answered out of a script, however many rows they ask
for. Calls on objects leave the script alone, and whatever is closed, the call comes back; the
cursor itself can be closed. -/
structure Scripted (host : Host σ) (id : Nat) (script : σ → List FetchResponse) : Prop where
  fetch : ∀ s response rest, script s = response :: rest → ∃ s', script s' = rest ∧
    ∀ n, (host.answer (.fetch id n) s).result = (.done response, s')
  objects : ∀ l c s, Call.Reads l c → script (host.answer c s).result.2 = script s
  answered : ∀ c s, c.Closes → (host.answer c s).wait ≠ none
  closes : ∀ s, (host.answer (.closeCursor id) s).reply = .ok ()

/-- The script goes on until a response promises no more rows. -/
def Finite : Bool → List FetchResponse → Prop
  | false, _ => True
  | true, [] => False
  | true, response :: rest => Finite response.moreRows rest

/-- No response of the script is empty and promises more rows. -/
def Filled (script : List FetchResponse) : Prop :=
  ∀ response ∈ script, response.moreRows = true → response.rows ≠ []

/-! ## Closing comes back -/

section Closing

variable (answered : ∀ c s, c.Closes → (host.answer c s).wait ≠ none)

include answered

theorem Lob.close_prompt : Prompt host (Lob.close : Operation σ Lob Unit) := by
  refine .bind (.bind .get fun lob => .bind (.check _ _) fun _ => ?_) fun _ => .bind .get fun lob =>
    .bind (.modify _) fun _ => .bind (.fire _) fun _ => .callFreely fun s => answered _ s trivial
  cases lob.position with
  | some p => exact .pure p
  | none => exact .fail _

theorem ResultSet.close_prompt : Prompt host (ResultSet.close : Operation σ ResultSet Unit) :=
  .bind (.bind .get fun _ => .bind .signals fun _ => .ofExcept _) fun _ => .bind .get fun _ =>
    .bind (.modify _) fun _ => .bind (.fire _) fun _ => .callFreely fun s => answered _ s trivial

theorem ResultSet.release_prompt :
    Prompt host (ResultSet.release : Operation σ ResultSet Unit) := by
  refine .bind .get fun rs => .bind (.modify _) fun _ => .bind (.fire _) fun _ => ?_
  cases rs.cursor with
  | none => exact .pure ()
  | some cursor =>
    exact .bind .signals fun _ => .ite (.pure ()) (.callFreely fun s => answered _ s trivial)

end Closing

/-! ## Operations that do not depend on how rows are handed out -/

namespace Connection

open Binding

/-- The options but for how rows are handed out. -/
def handing (o : ExecuteOptions) (asResultSet : Bool) (maxRows : Nat) : ExecuteOptions :=
  { o with asResultSet := asResultSet, maxRows := maxRows }

section Handing

variable (o : ExecuteOptions) (asResultSet : Bool) (maxRows : Nat)

theorem bindAll_handing (lobs : List Lob) (pending : List PendingBind) :
    (bindAll (handing o asResultSet maxRows) lobs pending : Operation σ Connection _) =
      bindAll o lobs pending := by
  induction pending generalizing lobs with
  | nil => rfl
  | cons p rest ih =>
    cases p with
    | ready d w => simp only [bindAll, ih]
    | content d data =>
      have same : (fillTemporary data (handing o asResultSet maxRows) : Operation σ Connection _) =
          fillTemporary data o := rfl
      simp only [bindAll, ih, same]

theorem send_handing (sql : String) (binds : Binds) :
    (send sql binds (handing o asResultSet maxRows) : Operation σ Connection _) =
      send sql binds o := by
  have same : ∀ info pending, (transmit sql info pending (handing o asResultSet maxRows) :
      Operation σ Connection _) = transmit sql info pending o := by
    intro info pending
    simp only [transmit, bindAll_handing]
    rfl
  simp only [send, same]
  rfl

theorem decodeEach_handing (decoded : List OutBind) (binds : List (Descriptor × WireValue)) :
    (decodeEach (handing o asResultSet maxRows) decoded binds : Operation σ Connection _) =
      decodeEach o decoded binds := by
  induction binds generalizing decoded with
  | nil => rfl
  | cons b rest ih =>
    have same : (decodeOutBind b.1 b.2 (handing o asResultSet maxRows) :
        Operation σ Connection _) = decodeOutBind b.1 b.2 o := rfl
    simp only [decodeEach, ih, same]

theorem decodeOutBinds_handing (outputs : List Descriptor) (wires : List WireValue) :
    (decodeOutBinds outputs wires (handing o asResultSet maxRows) : Operation σ Connection _) =
      decodeOutBinds outputs wires o := by
  simp only [decodeOutBinds, decodeEach_handing]

end Handing

/-! ## Releasing does not change how an operation fails -/

section Releasing

variable (answered : ∀ c s, c.Closes → (host.answer c s).wait ≠ none)

include answered

theorem releaseCursor_done (id : Nat) (c : Connection) (w : World σ) :
    ∃ c' w', releaseCursor id host c w = (.done (), c', w') := by
  unfold releaseCursor
  split
  · have prompt : Prompt host (callFreely (.closeCursor id) : Operation σ Connection Unit) :=
      .callFreely fun s => answered _ s trivial
    obtain ⟨r, c', w', run⟩ := prompt.attempt c w
    exact ⟨c', w', by rw [bind_of_done run]; rfl⟩
  · exact ⟨c, w, rfl⟩

theorem releaseOutBinds_done (bs : List OutBind) (c : Connection) (w : World σ) :
    ∃ c' w', releaseOutBinds bs host c w = (.done (), c', w') := by
  induction bs generalizing c w with
  | nil => exact ⟨c, w, rfl⟩
  | cons b rest ih =>
    have behind : ∀ {θ α : Type} (k : θ) {t : Operation σ θ α}, Prompt host t → ∃ c' w',
        (Operation.on k t >>= fun _ => releaseOutBinds rest) host c w = (.done (), c', w') := by
      intro θ α k t prompt
      obtain ⟨r, w₁, run⟩ := prompt.on k c w
      rw [bind_of_done run]
      exact ih c w₁
    unfold releaseOutBinds
    cases b.value with
    | value v => exact ih c w
    | lob lob => exact behind lob (Lob.close_prompt answered)
    | resultSet rs => exact behind rs (ResultSet.close_prompt answered)

theorem releasing_fst {α : Type} (bs : List OutBind) (t : Operation σ Connection α)
    (c : Connection) (w : World σ) : (releasing bs t host c w).1 = (t host c w).1 := by
  rcases run : t host c w with ⟨a | e | _, c₁, w₁⟩
  · rw [releasing, bind_of_done (attempt_of_done run)]
    rfl
  · obtain ⟨c', w', released⟩ := releaseOutBinds_done answered bs c₁ w₁
    rw [releasing, bind_of_done (attempt_of_failed run)]
    simp only
    rw [bind_of_done released]
    rfl
  · rw [releasing, bind_of_stuck (attempt_of_stuck run)]

end Releasing

/-! ## Rounds -/

section Rounds

variable {g : Guards} {columns : Columns} {id : Nat} {o : ExecuteOptions} {rows : List Row}

/-- As long as there are not enough rows each row of a batch is decoded. -/
theorem iterate_cons (short : ¬(o.maxRows ≠ 0 ∧ o.maxRows ≤ rows.length)) (rounds : Nat)
    (wires : List WireValue) (rest : List (List WireValue)) (more : Bool) :
    (iterate (fetchRound g columns id o) (rounds + 1) (rows, wires :: rest, more) :
      Operation σ Connection (List Row)) =
      decodeRow g .connectionClosed columns o.convert wires >>= fun values =>
        iterate (fetchRound g columns id o) (rounds + 1)
          (rows ++ [⟨values, columns⟩], rest, more) := by
  simp only [iterate, fetchRound, decodeRows, if_neg short, bind_assoc]

theorem iterate_end (rounds : Nat) :
    (iterate (fetchRound g columns id o) (rounds + 1) (rows, [], false) :
      Operation σ Connection (List Row)) = pure rows := by
  simp [iterate, fetchRound, decodeRows]

theorem iterate_more (short : ¬(o.maxRows ≠ 0 ∧ o.maxRows ≤ rows.length)) (real : id ≠ 0)
    (rounds : Nat) :
    (iterate (fetchRound g columns id o) (rounds + 1) (rows, [], true) :
      Operation σ Connection (List Row)) =
      roundTrip o.callTimeout (.fetch id o.fetchSize) >>= fun response =>
        iterate (fetchRound g columns id o) rounds (rows, response.rows, response.moreRows) := by
  simp [iterate, fetchRound, decodeRows, short, real]

end Rounds

/-- A connection that reads a batch at once, and a result set with that batch in its buffer, over
the same state of the session. -/
structure Abreast (host : Host σ) (g : Guards) (columns : Columns) (o : ExecuteOptions) (id : Nat)
    (c : Connection) (w : World σ) (rs : ResultSet) (w' : World σ) (cursor : OpenCursor) :
    Prop where
  session : w'.session = w.session
  connection : g.connection = c.closed
  calm : Undisturbed host g w
  calm' : Undisturbed host rs.guards w'
  held : rs.cursor = some cursor
  named : cursor.id = id
  described : cursor.columns = columns
  convert : rs.convert = o.convert

namespace Abreast

variable {g : Guards} {columns : Columns} {o : ExecuteOptions} {id : Nat} {c : Connection}
  {w w' : World σ} {rs : ResultSet} {cursor : OpenCursor} {script : σ → List FetchResponse}

/-- Both ask for more rows and are given the same. -/
theorem fetch (h : Abreast host g columns o id c w rs w' cursor)
    (scripted : Scripted host id script) (unlimited : o.callTimeout = none)
    {response : FetchResponse} {rest : List FetchResponse}
    (next : script w.session = response :: rest) :
    ∃ w₁ w₁', roundTrip o.callTimeout (.fetch id o.fetchSize) host c w = (.done response, c, w₁) ∧
      ResultSet.fetch host rs w' =
        (.done (), { rs with cursor := some (cursor.receive response) }, w₁') ∧
      script w₁.session = rest ∧
      Abreast host g columns o id c w₁ { rs with cursor := some (cursor.receive response) } w₁'
        (cursor.receive response) := by
  obtain ⟨s', left, result⟩ := scripted.fetch _ _ _ next
  have isOpen : c.isClosed w.signals = false := by
    rw [isClosed, ← h.connection]
    exact h.calm.connection
  obtain ⟨w₁, made, session, calm⟩ := h.calm.callFreely (.fetch id o.fetchSize) c
  rw [result] at made session
  have trip : roundTrip o.callTimeout (.fetch id o.fetchSize) host c w =
      (.done response, c, w₁) := by
    rw [roundTrip_apply, isOpen, unlimited]
    exact made
  have result' : (host.answer (.fetch cursor.id rs.fetchSize) w'.session).result =
      (.done response, s') := by
    rw [h.named, h.session]
    exact result rs.fetchSize
  obtain ⟨w₁', made', session', calm'⟩ := ResultSet.fetch_done h.calm' h.held
    (congrArg Prod.fst result')
  rw [result'] at session'
  exact ⟨w₁, w₁', trip, made', by rw [session, left], session'.trans session.symm, h.connection,
    calm, calm', rfl, h.named, h.described, h.convert⟩

/-- Both decode a row alike. -/
theorem decode (h : Abreast host g columns o id c w rs w' cursor)
    (scripted : Scripted host id script) (wires : List WireValue)
    (rest : List (List WireValue)) :
    ∃ out w₁ w₁',
      decodeRow g .connectionClosed columns o.convert wires host c w = (out, c, w₁) ∧
      decodeRow rs.guards .invalidResultSet cursor.columns rs.convert wires host
        { rs with cursor := some { cursor with buffer := rest } } w' =
        (out, { rs with cursor := some { cursor with buffer := rest } }, w₁') ∧
      script w₁.session = script w.session ∧
      Abreast host g columns o id c w₁ { rs with cursor := some { cursor with buffer := rest } } w₁'
        { cursor with buffer := rest } := by
  have kept : ∀ l c s, Call.Reads l c → script s = script w.session →
      script (host.answer c s).result.2 = script w.session :=
    fun l c s reads same => (scripted.objects l c s reads).trans same
  obtain ⟨out, w₁, w₁', run, run', session, left, calm, calm'⟩ :=
    decodeRow_undisturbed .connectionClosed .invalidResultSet kept columns o.convert wires c
      { rs with cursor := some { cursor with buffer := rest } } w w'
      ⟨h.session, rfl, h.calm, h.calm'⟩
  rw [← h.described, ← h.convert] at run'
  exact ⟨out, w₁, w₁', run, run', left, session, h.connection, calm, calm', rfl, h.named,
    h.described, h.convert⟩

end Abreast

/-- From a batch on the two loops come to the same. A round of the one is a batch, and a round of
the other a row, so each has rounds of its own to spare. -/
def Agree (host : Host σ) (g : Guards) (columns : Columns) (o : ExecuteOptions) (id : Nat)
    (script : σ → List FetchResponse) (rounds : Nat) (left : List FetchResponse) (more : Bool)
    (buffer : List (List WireValue)) : Prop :=
  ∀ rows c w rs w' cursor rounds', Abreast host g columns o id c w rs w' cursor →
    script w.session = left → cursor.buffer = buffer → cursor.moreRows = more →
    buffer.length + (left.flatMap (·.rows)).length ≤ rounds' →
      (iterate (fetchRound g columns id o) (rounds + 1) (rows, buffer, more) host c w).1 =
        (iterate (ResultSet.collectRow 0) (rounds' + 1) rows host rs w').1

section Agree

variable {g : Guards} {columns : Columns} {o : ExecuteOptions} {id : Nat}
  {script : σ → List FetchResponse} {rounds : Nat} {left : List FetchResponse} {more : Bool}

/-- There is no limit to the rows that are collected. -/
theorem unlimited (rows : List Row) : ¬(0 ≠ 0 ∧ 0 ≤ rows.length) := fun limited => limited.1 rfl

/-- Loops that agree behind a batch agree from each of its rows on. -/
theorem Agree.batch (scripted : Scripted host id script) (all : o.maxRows = 0)
    (behind : Agree host g columns o id script rounds left more [])
    (buffer : List (List WireValue)) :
    Agree host g columns o id script rounds left more buffer := by
  induction buffer with
  | nil => exact behind
  | cons wires rest ih =>
    intro rows c w rs w' cursor rounds' h next sameBuffer sameMore enough
    obtain ⟨out, w₁, w₁', run, run', kept, h'⟩ := h.decode scripted wires rest
    have filled : cursor.buffer ≠ [] := by
      rw [sameBuffer]
      exact List.cons_ne_nil wires rest
    have read : ResultSet.readRow host rs w' = _ :=
      (ResultSet.readRow_held h.calm' h.held (.inl filled)).trans
        (ResultSet.takeRow_cons h.calm' h.held sameBuffer)
    rw [iterate_cons fun limited => limited.1 all]
    cases out with
    | done values =>
      rw [bind_of_done run'] at read
      rw [bind_of_done run, ResultSet.iterate_row (unlimited rows) (ResultSet.nextRow_done read)]
      rw [List.length_cons] at enough
      obtain ⟨rounds', rfl⟩ : ∃ n, rounds' = n + 1 := ⟨rounds' - 1, by omega⟩
      have behind := ih (rows ++ [⟨values, columns⟩]) c w₁ _ w₁' _ rounds' h' (kept.trans next) rfl
        sameMore (by omega)
      rw [behind, ← h.described]
    | failed e =>
      rw [bind_of_failed run'] at read
      obtain ⟨r, rs₂, w₂, released⟩ := (ResultSet.release_prompt scripted.answered).attempt
        { rs with cursor := some { cursor with buffer := rest } } w₁'
      have failed : ResultSet.nextRow host rs w' = (.failed e, rs₂, w₂) := by
        rw [ResultSet.nextRow_failed read, bind_of_done released]
        rfl
      rw [bind_of_failed run, ResultSet.iterate_failed (unlimited rows) failed]
    | stuck =>
      rw [bind_of_stuck run'] at read
      rw [bind_of_stuck run,
        ResultSet.iterate_stuck (unlimited rows) (ResultSet.nextRow_stuck read)]

/-- Behind the last batch both stop. -/
theorem agree_end : Agree host g columns o id script rounds left false [] := by
  intro rows c w rs w' cursor rounds' h next sameBuffer sameMore _
  have none : ResultSet.nextRow host rs w' = (.done none, rs, w') :=
    ResultSet.nextRow_done ((ResultSet.readRow_held h.calm' h.held (.inr sameMore)).trans
      (ResultSet.takeRow_nil h.calm' h.held sameBuffer))
  rw [iterate_end, ResultSet.iterate_none (unlimited rows) none]
  rfl

/-- Behind a batch both stop, or both go on with the next. -/
theorem agree (scripted : Scripted host id script) (all : o.maxRows = 0)
    (untimed : o.callTimeout = none) (real : id ≠ 0) (finite : Finite more left)
    (filled : Filled left) (enough : left.length ≤ rounds) :
    Agree host g columns o id script rounds left more [] := by
  induction left generalizing more rounds with
  | nil =>
    cases more with
    | true => exact finite.elim
    | false => exact agree_end
  | cons response rest ih =>
    cases more with
    | false => exact agree_end
    | true =>
      rw [List.length_cons] at enough
      obtain ⟨rounds, rfl⟩ : ∃ n, rounds = n + 1 := ⟨rounds - 1, by omega⟩
      intro rows c w rs w' cursor rounds' h next sameBuffer sameMore enough'
      obtain ⟨w₁, w₁', run, run', next', h'⟩ := h.fetch scripted untimed next
      have buffer' : (cursor.receive response).buffer = response.rows := by
        rw [OpenCursor.receive, sameBuffer, List.nil_append]
      have filled' : Filled rest := fun other mem => filled other (List.mem_cons_of_mem _ mem)
      have behind : Agree host g columns o id script rounds rest response.moreRows response.rows :=
        (ih finite filled' (by omega)).batch scripted all response.rows
      -- The row that made the round trip is the one that the received batch begins with.
      have read : ResultSet.readRow host rs w' =
          ResultSet.readRow host { rs with cursor := some (cursor.receive response) } w₁' := by
        rw [ResultSet.readRow_fetching h.calm' h.held sameBuffer sameMore run']
        refine (ResultSet.readRow_held h'.calm' h'.held ?_).symm
        rw [buffer']
        by_cases last : response.moreRows = true
        · exact .inl (filled response List.mem_cons_self last)
        · exact .inr (Bool.eq_false_iff.2 last)
      rw [iterate_more (fun limited => limited.1 all) real, bind_of_done run,
        ResultSet.iterate_congr (unlimited rows) read]
      exact behind rows c w₁ _ w₁' _ rounds' h' next' buffer' rfl (by simpa using enough')

end Agree

/-! ## Executions up to their rows -/

/-- An execution up to its rows: the response and the output binds that came with it. -/
def beforeRows (sql : String) (binds : Binds) (o : ExecuteOptions) :
    Operation σ Connection (ExecuteResponse × List OutBind) := do
  let (outputs, response) ← send sql binds o
  let outBinds ←
    releasingCursor response.cursorId (decodeOutBinds outputs response.outBinds o)
  return (response, outBinds)

/-- However its rows are handed out, an execution goes the same way up to them. -/
theorem execute_handing (sql : String) (binds : Binds) (o : ExecuteOptions) (asResultSet : Bool)
    (maxRows : Nat) :
    (execute sql binds (handing o asResultSet maxRows) : Operation σ Connection ExecuteResult) =
      beforeRows sql binds o >>= fun reached =>
        match reached.1.columns with
        | none => pure ⟨reached.1.rowsAffected, reached.2, none, none, none⟩
        | some described => releasing reached.2
            (receiveRows reached.2 described reached.1 (handing o asResultSet maxRows)) := by
  have received : ∀ (outputs : List Descriptor) (response : ExecuteResponse) (o : ExecuteOptions),
      (receive outputs response o : Operation σ Connection ExecuteResult) =
        releasingCursor response.cursorId (decodeOutBinds outputs response.outBinds o) >>=
          fun outBinds =>
            match response.columns with
            | none => pure ⟨response.rowsAffected, outBinds, none, none, none⟩
            | some described =>
              releasing outBinds (receiveRows outBinds described response o) :=
    fun _ _ _ => rfl
  simp only [execute, beforeRows, send_handing, received, decodeOutBinds_handing, bind_assoc,
    pure_bind]

/-- Up to the rows the connection stays what it was, with the handles of the output binds in
custody. -/
theorem beforeRows_ends (sql : String) (binds : Binds) (o : ExecuteOptions) {s : Scene σ}
    {own : List Signal} {c : Connection} {w : World σ} (connection : c.closed = s.closed) :
    Ends s own (beforeRows sql binds o) c w fun _ c' _ _ => c'.closed = c.closed := by
  apply (send_ends sql binds o connection).bind
  · intro sent c₁ own₁ w₁ new _ ended
    obtain ⟨outputs, response⟩ := sent
    obtain ⟨same, -⟩ := ended
    have unpacking : Ends s own₁
        (releasingCursor response.cursorId (decodeOutBinds outputs response.outBinds o)) c₁ w₁
        fun _ c' _ _ => c' = c₁ := by
      apply releasingCursor_ends response.cursorId
        (decodeOutBinds_ends outputs response.outBinds o (same.trans connection))
      · intro bs c' own' new ended
        exact ended.1
      · intro e c' own' new more ended _ _
        exact ended.1
    apply unpacking.bind
    · intro bs c₂ own₂ w₂ new _ ended
      obtain rfl := ended
      exact Ends.pure same
    · intro e c₂ own₂ w₂ new _ ended
      obtain rfl := ended
      exact same
  · intro e c₁ own₁ w₁ new _ ended
    exact ended.1

/-! ## Rows at once and row by row -/

/-- The rows of a query, fetched at once. -/
def rowsAtOnce (sql : String) (binds : Binds) (o : ExecuteOptions) :
    Operation σ Connection (Option (List Row)) := do
  let result ← execute sql binds (handing o false 0)
  return result.rows

/-- All rows of a result set that was handed out. -/
def allRows (result : ExecuteResult) : Operation σ Connection (Option (List Row)) :=
  match result.resultSet with
  | none => pure none
  | some rs => do
    let (rows, _) ← Operation.on rs (ResultSet.getRows 0)
    return some (← Operation.ofExcept rows)

/-- The rows of a query, fetched from its result set. -/
def rowsOfResultSet (sql : String) (binds : Binds) (o : ExecuteOptions) :
    Operation σ Connection (Option (List Row)) := do
  allRows (← execute sql binds (handing o true o.maxRows))

/-- The result set over a response, before its rows were asked for. -/
def resultSetOver (response : ExecuteResponse) (columns : Columns) (o : ExecuteOptions)
    (g : Guards) : ResultSet :=
  ⟨some ⟨response.cursorId, columns, response.rows, response.moreRows, response.rows.length⟩, g,
    o.convert, max o.fetchSize 1, false⟩

section Comparison

variable {script : σ → List FetchResponse} {id : Nat} {c : Connection} {w : World σ}

theorem closeCursor_done (scripted : Scripted host id script) :
    ∃ w', callFreely (.closeCursor id) host c w = (.done (), c, w') := by
  obtain ⟨w', made⟩ :=
    callFreely_answered (scripted.answered (.closeCursor id) w.session trivial) c
  rw [scripted.closes] at made
  exact ⟨w', made⟩

/-- Fetching at once comes to what the rows come to, as the cursor can be closed. -/
theorem fetchAll_fst (scripted : Scripted host id script) (columns : Columns)
    (first : List (List WireValue)) (more : Bool) (o : ExecuteOptions) :
    (fetchAll columns id first more o host c w).1 =
      (fetchRows columns id first more o host c w).1 := by
  rcases run : fetchRows columns id first more o host c w with ⟨rows | e | _, c₁, w₁⟩
  · rw [fetchAll, bind_of_done (attempt_of_done run)]
    by_cases real : id = 0
    · simp [real]
    · obtain ⟨w', closed⟩ := closeCursor_done scripted (c := c₁) (w := w₁)
      simp only [real, ne_eq, not_false_iff, if_true]
      rw [bind_of_done closed]
      rfl
  · obtain ⟨c', w', released⟩ := releaseCursor_done scripted.answered id c₁ w₁
    rw [fetchAll, bind_of_done (attempt_of_failed run)]
    simp only
    rw [bind_of_done released]
    rfl
  · rw [fetchAll, bind_of_stuck (attempt_of_stuck run)]

/-- The result set over a response has the same rows to come as a loop over it. -/
theorem fetchRows_fst (o : ExecuteOptions) {response : ExecuteResponse} (all : o.maxRows = 0)
    (untimed : o.callTimeout = none) (real : response.cursorId ≠ 0)
    (scripted : Scripted host response.cursorId script)
    (finite : Finite response.moreRows (script w.session)) (filled : Filled (script w.session))
    (patient : (script w.session).length < host.patience)
    (patient' : response.rows.length + ((script w.session).flatMap (·.rows)).length <
      host.patience)
    (calm : Undisturbed host ⟨w.signals.fresh.1, c.closed⟩
      { w with signals := w.signals.fresh.2 }) (columns : Columns) :
    (fetchRows columns response.cursorId response.rows response.moreRows o host c w).1 =
      (ResultSet.getRows 0 host
        (resultSetOver response columns o ⟨w.signals.fresh.1, c.closed⟩)
        { w with signals := w.signals.fresh.2 }).1 := by
  obtain ⟨rounds, rounds_eq⟩ : ∃ n, host.patience = n + 1 := ⟨host.patience - 1, by omega⟩
  rw [rounds_eq] at patient patient'
  have behind : Agree host ⟨w.signals.fresh.1, c.closed⟩ columns o response.cursorId script rounds
      (script w.session) response.moreRows [] :=
    agree scripted all untimed real finite filled (by omega)
  have fetched : fetchRows columns response.cursorId response.rows response.moreRows o host c w =
      Operation.iterate (fetchRound ⟨w.signals.fresh.1, c.closed⟩ columns response.cursorId o)
        (rounds + 1) ([], response.rows, response.moreRows) host c
          { w with signals := w.signals.fresh.2 } := by
    rw [← rounds_eq]
    rfl
  have collected : ∀ rs w', ResultSet.getRows 0 host rs w' =
      Operation.iterate (ResultSet.collectRow 0) (rounds + 1) [] host { rs with fetched := true }
        w' := by
    intro rs w'
    rw [← rounds_eq]
    rfl
  rw [fetched, collected]
  exact behind.batch scripted all response.rows [] c _ _ _
    ⟨response.cursorId, columns, response.rows, response.moreRows, response.rows.length⟩ rounds
    ⟨rfl, rfl, calm, calm, rfl, rfl, rfl, rfl⟩ rfl rfl rfl (by omega)

end Comparison

/-- A new signal of an operation that has the connection to itself disturbs nobody. -/
theorem undisturbed_fresh {s : Scene σ} {own : List Signal} {c : Connection} {w : World σ}
    (calm : Calm s own w) (connection : c.closed = s.closed) :
    Undisturbed s.host ⟨w.signals.fresh.1, c.closed⟩ { w with signals := w.signals.fresh.2 } := by
  have there := calm.fresh
  have foreign : ∀ x, s.Foreign x → x ≠ w.signals.fresh.1 ∧ x ≠ c.closed := by
    intro x old
    refine ⟨fun same => ?_, by rw [connection]; exact old.2⟩
    have new := (there.own_range w.signals.fresh.1 List.mem_cons_self).1
    rw [← same] at new
    exact Nat.not_lt.2 new old.1
  exact {
    answers := fun call session x mem => foreign x (s.answers call session x mem)
    armed := fun x mem => foreign x (calm.armed x mem)
    own := there.own_open _ List.mem_cons_self
    connection := by
      rw [connection]
      exact there.isOpen }

/-- The rows of a result set that was handed out are those that it can be asked for. -/
theorem allRows_fst {result : ExecuteResult} {rs : ResultSet} (handed : result.resultSet = some rs)
    (c : Connection) (w : World σ) :
    (allRows result host c w).1 =
      ((ResultSet.getRows 0 >>= fun rows => pure (some rows)) host rs w).1 := by
  rw [allRows, handed]
  rcases run : ResultSet.getRows 0 host rs w with ⟨rows | e | _, rs₁, w₁⟩
  · simp only
    rw [bind_of_done (on_of_done run), bind_of_done run]
    rfl
  · simp only
    rw [bind_of_done (on_of_failed run), bind_of_failed run]
    rfl
  · simp only
    rw [bind_of_stuck (on_of_stuck run), bind_of_stuck run]

section Receiving

variable {script : σ → List FetchResponse} {s : Scene σ} {own : List Signal} {c : Connection}
  {w : World σ} {response : ExecuteResponse} {o : ExecuteOptions} (outBinds : List OutBind)
  {described : List ColumnMetadata} {columns : Columns}

/-- Without columns to read them by, rows are not come to. -/
theorem receiveRows_undescribed {e : Error}
    (answered : ∀ c s, c.Closes → (host.answer c s).wait ≠ none)
    (unresolved : Columns.ofMetadata described = .error e) :
    (releasing outBinds (receiveRows outBinds described response o) host c w).1 = .failed e := by
  obtain ⟨c', w', released⟩ := releaseCursor_done answered response.cursorId c w
  have failed : releasingCursor response.cursorId
      (Operation.ofExcept (Columns.ofMetadata described)) host c w = (.failed e, c', w') := by
    rw [unresolved, releasingCursor, bind_of_done (attempt_of_failed rfl)]
    simp only
    rw [bind_of_done released]
    rfl
  rw [releasing_fst answered, receiveRows, bind_of_failed failed]

/-- The result set of an execution is handed out without a call. -/
theorem receiveRows_resultSet (resolved : Columns.ofMetadata described = .ok columns)
    (real : response.cursorId ≠ 0) (asked : o.asResultSet = true) :
    releasing outBinds (receiveRows outBinds described response o) host c w =
      (.done ⟨response.rowsAffected, outBinds, some columns, none,
          some (resultSetOver response columns o ⟨w.signals.fresh.1, c.closed⟩)⟩, c,
        { w with signals := w.signals.fresh.2 }) := by
  have made : receiveRows outBinds described response o host c w =
      (.done ⟨response.rowsAffected, outBinds, some columns, none,
          some (resultSetOver response columns o ⟨w.signals.fresh.1, c.closed⟩)⟩, c,
        { w with signals := w.signals.fresh.2 }) := by
    rw [receiveRows, resolved]
    simp only [asked, if_true, ResultSet.create, if_neg real, resolved]
    rfl
  rw [releasing, bind_of_done (attempt_of_done made)]
  rfl

/-- The rows of an execution that fetches them at once. -/
theorem receiveRows_atOnce (resolved : Columns.ofMetadata described = .ok columns)
    (answered : ∀ c s, c.Closes → (host.answer c s).wait ≠ none) (asked : o.asResultSet = false) :
    ((releasing outBinds (receiveRows outBinds described response o) >>=
        fun result => pure result.rows) host c w).1 =
      ((fetchAll columns response.cursorId response.rows response.moreRows o >>=
        fun rows => pure (some rows)) host c w).1 := by
  have passed : releasingCursor response.cursorId
      (Operation.ofExcept (Columns.ofMetadata described)) host c w = (.done columns, c, w) := by
    rw [resolved]
    rfl
  rw [bind_pure_fst (releasing_fst answered outBinds _ c w), receiveRows, bind_assoc,
    bind_of_done passed]
  simp only [asked, Bool.false_eq_true, if_false, bind_assoc, pure_bind]

end Receiving

/-- A query whose response is in hand comes to the same rows or to the same error, whether its
rows are fetched at once or from its result set, unless a batch is empty that promises more. -/
theorem rowsAtOnce_eq_rowsOfResultSet {script : σ → List FetchResponse} {c c₁ : Connection}
    {w w₁ : World σ} {sql : String} {binds : Binds} {o : ExecuteOptions}
    {response : ExecuteResponse} {outBinds : List OutBind} (exclusive : Exclusive c host w)
    (untimed : o.callTimeout = none)
    (reached : beforeRows sql binds o host c w = (.done (response, outBinds), c₁, w₁))
    (query : response.columns.isSome) (real : response.cursorId ≠ 0)
    (scripted : Scripted host response.cursorId script)
    (finite : Finite response.moreRows (script w₁.session)) (filled : Filled (script w₁.session))
    (patient : (script w₁.session).length < host.patience)
    (patient' : response.rows.length + ((script w₁.session).flatMap (·.rows)).length <
      host.patience) :
    (rowsAtOnce sql binds o host c w).1 = (rowsOfResultSet sql binds o host c w).1 := by
  obtain ⟨described, columns⟩ := Option.isSome_iff_exists.1 query
  have ends : Ends exclusive.scene [] (beforeRows sql binds o) c w _ :=
    beforeRows_ends sql binds o rfl
  obtain ⟨own, new, -, calm, same⟩ := ends.done exclusive.calm reached
  have left : (rowsAtOnce sql binds o host c w).1 =
      ((releasing outBinds (receiveRows outBinds described response (handing o false 0)) >>=
        fun result => pure result.rows) host c₁ w₁).1 := by
    rw [rowsAtOnce, execute_handing, bind_assoc, bind_of_done reached]
    simp only [columns]
  have right : (rowsOfResultSet sql binds o host c w).1 =
      ((releasing outBinds (receiveRows outBinds described response (handing o true o.maxRows)) >>=
        allRows) host c₁ w₁).1 := by
    rw [rowsOfResultSet, execute_handing, bind_assoc, bind_of_done reached]
    simp only [columns]
  rw [left, right]
  cases resolved : Columns.ofMetadata described with
  | error e =>
    rw [bind_failed_fst (receiveRows_undescribed outBinds scripted.answered resolved),
      bind_failed_fst (receiveRows_undescribed outBinds scripted.answered resolved)]
  | ok columns =>
    rw [receiveRows_atOnce outBinds resolved scripted.answered rfl,
      bind_of_done (receiveRows_resultSet outBinds resolved real rfl), allRows_fst rfl]
    apply bind_pure_fst
    rw [fetchAll_fst scripted]
    exact fetchRows_fst (handing o false 0) rfl untimed real scripted finite filled patient patient'
      (undisturbed_fresh calm same) columns

/-- A session with a query over a cursor, whose rows behind the first come out of a script. -/
def scriptHost (rows : List (List WireValue)) (patience : Nat) : Host (List FetchResponse) where
  answer
    | .execute _, script =>
      ⟨script, some ⟨0⟩, [], [], script, .ok
        ⟨0, [], some [⟨"N", 1, 0, 0, 0, 0, true⟩], rows, 7, true⟩⟩
    | .fetch _ _, response :: rest =>
      ⟨response :: rest, some ⟨0⟩, [], [], rest, .ok response⟩
    | .closeCursor _, script => ⟨script, some ⟨0⟩, [], [], script, .ok ()⟩
    | _, script => ⟨script, some ⟨0⟩, [], [], script, .error .connectionClosed⟩
  patience := patience

theorem scriptHost_silent (rows : List (List WireValue)) (patience : Nat) (call : Call)
    (script : List FetchResponse) :
    ((scriptHost rows patience).answer call script).during = [] ∧
      ((scriptHost rows patience).answer call script).after = [] := by
  cases call <;> cases script <;> exact ⟨rfl, rfl⟩

theorem exclusive_scriptHost (rows : List (List WireValue)) (patience : Nat)
    (script : List FetchResponse) :
    Exclusive first (scriptHost rows patience) (opened script) where
  isOpen := rfl
  made := Nat.zero_lt_one
  fired_lt := fun x hx => by cases hx
  armed := fun x hx => by cases hx
  answers := fun call session x hx => by
    obtain ⟨during, after⟩ := scriptHost_silent rows patience call session
    simp [during, after] at hx

theorem scripted_scriptHost (rows : List (List WireValue)) (patience id : Nat) :
    Scripted (scriptHost rows patience) id fun script => script where
  fetch := by
    rintro s response rest rfl
    exact ⟨rest, rfl, fun _ => rfl⟩
  objects := by
    intro l c s reads
    cases reads <;> rfl
  answered := by
    intro c s _
    cases c <;> cases s <;> nofun
  closes := fun _ => rfl

/-- The response and two batches behind it, of which the last is empty. -/
theorem rows_of_script_alike :
    (rowsAtOnce "select n from t" (.positional []) {} (scriptHost [[.text "a"]] 9) first
        (opened [⟨[[.text "b"]], true⟩, ⟨[], false⟩])).1 =
      (rowsOfResultSet "select n from t" (.positional []) {} (scriptHost [[.text "a"]] 9) first
        (opened [⟨[[.text "b"]], true⟩, ⟨[], false⟩])).1 := by
  have filled : Filled [⟨[[.text "b"]], true⟩, ⟨[], false⟩] := by
    intro response mem more
    simp only [List.mem_cons, List.not_mem_nil, or_false] at mem
    rcases mem with rfl | rfl
    · exact List.cons_ne_nil _ _
    · cases more
  exact rowsAtOnce_eq_rowsOfResultSet (exclusive_scriptHost _ 9 _) rfl rfl rfl (by decide)
    (scripted_scriptHost _ 9 7) trivial filled (by decide) (by decide)

/-- An empty batch that promises more rows ends the result set before they came. -/
theorem empty_batch_ends_result_set :
    Exclusive first (scriptHost [] 9) (opened [⟨[], true⟩, ⟨[[.text "a"]], false⟩]) ∧
      Scripted (scriptHost [] 9) 7 (fun script => script) ∧
      Finite true [⟨[], true⟩, ⟨[[.text "a"]], false⟩] ∧
      (∃ c₁ w₁, beforeRows "select n from t" (.positional []) {} (scriptHost [] 9) first
          (opened [⟨[], true⟩, ⟨[[.text "a"]], false⟩]) =
        (.done (⟨0, [], some [⟨"N", 1, 0, 0, 0, 0, true⟩], [], 7, true⟩, []), c₁, w₁) ∧
          w₁.session = [⟨[], true⟩, ⟨[[.text "a"]], false⟩]) ∧
      (rowsAtOnce "select n from t" (.positional []) {} (scriptHost [] 9) first
          (opened [⟨[], true⟩, ⟨[[.text "a"]], false⟩])).1 =
        .done (some [⟨[.string "a"], ⟨[⟨"N", .varchar, true, 0, 0, 0⟩]⟩⟩]) ∧
      (rowsOfResultSet "select n from t" (.positional []) {} (scriptHost [] 9) first
          (opened [⟨[], true⟩, ⟨[[.text "a"]], false⟩])).1 = .done (some []) :=
  ⟨exclusive_scriptHost _ 9 _, scripted_scriptHost _ 9 7, trivial, ⟨_, _, rfl, rfl⟩, rfl, rfl⟩

end Connection

end SqlBinder

import SqlBinder.Proofs.Connection.Breaking
import SqlBinder.Proofs.Connection.Release

/-!
The cursor of a query whose rows are fetched at once. It is closed by one call, whichever step
fails and whatever the session answers, and no rows are fetched from it behind that.

That is so for every execution that returns to its caller. One that breaks off does not, and what
would have closed the cursor is not done any more. It breaks off only at a value that the session
reported, most often a date that is to become text in a pattern that cannot be followed.
-/
namespace SqlBinder

open Operation Binding

variable {σ : Type} {s : Scene σ} {own : List Signal} {host : Host σ} {c c' : Connection}
  {w w' : World σ} {id : Nat}

theorem Call.Closes.not_fetches {x : Exchange} (h : x.call.Closes) (id : Nat) : ¬ x.Fetches id := by
  rintro ⟨n, same⟩
  rw [same] at h
  exact h

/-- A cursor that was closed among calls that only close. -/
theorem ClosedOnce.of_accounts {keys : List LobKey} {new : List Exchange} (real : id ≠ 0)
    (account : Accounts (realCursor id) keys new) (closing : ∀ x ∈ new, x.call.Closes) :
    ClosedOnce id new := by
  apply ClosedOnce.of_count _ fun x hx => (closing x hx).not_fetches id
  rw [account.cursors.count_eq, realCursor, if_neg real, List.count_singleton_self]

namespace Connection

theorem fetchAll_closes (columns : Columns) (first : List (List WireValue)) (more : Bool)
    (o : ExecuteOptions) (connection : c.closed = s.closed) (real : id ≠ 0) :
    Ends s own (fetchAll columns id first more o) c w fun _ c' own' new =>
      c' = c ∧ own' = own ∧ ClosedOnce id new := by
  apply Ends.attempt_bind (fetchRows_ends columns id first more o connection)
  intro r c' own' w₁ new _ ended
  obtain ⟨rfl, rfl, account⟩ := ended
  -- Fetching closes nothing, and behind it only one call is made.
  have unclosed : id ∉ closedCursors new := by
    rw [account.cursors.eq_nil]
    exact List.not_mem_nil
  cases r with
  | ok rows =>
    simp only [real, ne_eq, not_false_iff, if_true]
    have closing : ∀ out, ClosedOnce id (new ++ [⟨.closeCursor id, out⟩]) := fun out =>
      ClosedOnce.behind ⟨[], out, [], rfl, by simp, by simp, by simp⟩ unclosed
    exact Ends.call_bind (fun r w' => Ends.pure ⟨rfl, rfl, closing _⟩)
      fun e => ⟨rfl, rfl, closing _⟩
  | error e =>
    apply (releaseCursor_closes id).bind_of_ok
    intro c₂ own₂ w₂ more closed
    obtain ⟨rfl, rfl, account', closing⟩ := closed
    refine Ends.fail ⟨rfl, rfl, ?_⟩
    rw [List.append_nil]
    exact (ClosedOnce.of_accounts real account' closing).behind unclosed

theorem receiveRows_closes (outBinds : List OutBind) (described : List ColumnMetadata)
    (response : ExecuteResponse) (o : ExecuteOptions) (connection : c.closed = s.closed)
    (atOnce : o.asResultSet = false) (real : response.cursorId ≠ 0) :
    Ends s own (receiveRows outBinds described response o) c w fun r _ own' new =>
      ClosedOnce response.cursorId new ∧ ∀ e, r = .error e → own' = own := by
  have resolving : Ends s own
      (releasingCursor response.cursorId (Operation.ofExcept (Columns.ofMetadata described))) c w
      fun r c' own' new => c' = c ∧ own' = own ∧
        match r with
        | .ok _ => new = []
        | .error _ => ClosedOnce response.cursorId new := by
    apply releasingCursor_ends response.cursorId
      (P := fun _ c' own' new => c' = c ∧ own' = own ∧ new = []) (Ends.ofExcept ⟨rfl, rfl, rfl⟩)
    · intro columns c' own' new ended
      exact ended
    · intro e c' own' new more ended account closing
      obtain ⟨rfl, rfl, rfl⟩ := ended
      exact ⟨rfl, rfl, ClosedOnce.of_accounts real account closing⟩
  apply resolving.bind
  · intro columns c' own' w₁ new _ ended
    obtain ⟨rfl, rfl, rfl⟩ := ended
    simp only [atOnce, Bool.false_eq_true, if_false]
    apply (fetchAll_closes columns response.rows response.moreRows o connection real).bind
    · intro rows c' own' w₂ new _ fetched
      obtain ⟨rfl, rfl, closed⟩ := fetched
      refine Ends.pure ⟨?_, fun e he => by cases he⟩
      simpa using closed
    · intro e c' own' w₂ new _ fetched
      obtain ⟨rfl, rfl, closed⟩ := fetched
      exact ⟨closed, fun _ _ => rfl⟩
  · intro e c' own' w₁ new _ ended
    obtain ⟨rfl, rfl, closed⟩ := ended
    exact ⟨closed, fun _ _ => rfl⟩

theorem receive_closes (outputs : List Descriptor) (response : ExecuteResponse)
    (o : ExecuteOptions) (connection : c.closed = s.closed) (atOnce : o.asResultSet = false)
    (query : response.columns.isSome) (real : response.cursorId ≠ 0)
    (apart : response.cursorId ∉ cursorIds response.outBinds) :
    Ends s own (receive outputs response o) c w fun _ _ _ new =>
      ClosedOnce response.cursorId new := by
  obtain ⟨described, columns⟩ := Option.isSome_iff_exists.1 query
  -- Output binds may be closed on the way, but the cursor of the query is none of them.
  have decoding : Ends s own
      (releasingCursor response.cursorId (decodeOutBinds outputs response.outBinds o)) c w
      fun r c' own' new => c' = c ∧
        (∀ bs, r = .ok bs → (∀ b ∈ bs, b.value.Opened s) ∧ own' = OutBind.owns bs ++ own ∧
          OutBind.cursors bs = cursorIds response.outBinds ∧ closedCursors new = []) ∧
        ∀ e, r = .error e → ClosedOnce response.cursorId new := by
    apply releasingCursor_ends response.cursorId
      (decodeOutBinds_ends outputs response.outBinds o connection)
    · intro bs c' own' new ended
      obtain ⟨same, -, opened, rfl, cursors, used, -, account⟩ := ended
      refine ⟨same, fun bs' given => ?_, fun e failed => by cases failed⟩
      obtain rfl := Except.ok.inj given
      exact ⟨opened, rfl, cursors, account.cursors.eq_nil⟩
    · intro e c' own' new more ended account closing
      obtain ⟨rfl, -, cursors, -⟩ := ended
      refine ⟨rfl, fun bs given => (by cases given), fun _ _ => ?_⟩
      refine (ClosedOnce.of_accounts real account closing).behind fun closed => apart ?_
      exact cursors.subset (List.mem_append_left _ closed)
  apply decoding.bind
  · intro bs c' own' w₁ before _ ended
    obtain ⟨rfl, decoded, -⟩ := ended
    obtain ⟨opened, rfl, cursors, none⟩ := decoded bs rfl
    have unclosed : response.cursorId ∉ closedCursors before := by
      rw [none]
      exact List.not_mem_nil
    rw [columns]
    apply releasing_ends opened
      (receiveRows_closes bs described response o connection atOnce real)
    · intro result c₂ own₂ new ended
      exact ended.1.behind unclosed
    · intro e c₂ own₂ new ended
      obtain ⟨closed, same⟩ := ended
      refine ⟨same e rfl, fun more account closing => (closed.append ?_ ?_).behind unclosed⟩
      · intro again
        rw [account.cursors.mem_iff, cursors] at again
        exact apart again
      · exact fun x hx => (closing x hx).not_fetches _
  · intro e c' own' w₁ before _ ended
    exact ended.2.2 e rfl

/-- However an execution ends that fetches its rows at once, the cursor of its query was closed. -/
theorem execute_closes {sql : String} {binds : Binds} {o : ExecuteOptions}
    (exclusive : Exclusive c host w) (atOnce : o.asResultSet = false) :
    Ends exclusive.scene [] (execute sql binds o) c w fun _ _ _ new =>
      ∀ request response, ⟨.execute request, .done response⟩ ∈ new → response.columns.isSome →
        response.cursorId ≠ 0 → response.cursorId ∉ cursorIds response.outBinds →
          ClosedOnce response.cursorId new := by
  apply (send_ends sql binds o (s := exclusive.scene) rfl).bind
  · intro sent c₁ own₁ w₁ new _ ended
    obtain ⟨outputs, response⟩ := sent
    obtain ⟨same, rfl, uncursed, sent⟩ := ended
    -- Behind the response nothing is executed any more, so it is the one that was received.
    have only : ∀ {more : List Exchange}, (∀ x ∈ more, x.call.StartsNothing) →
        ∀ request' response', ⟨.execute request', .done response'⟩ ∈ new ++ more →
          response' = response :=
      fun quiet request' response' mem => sent.response_eq quiet mem
    by_cases held : response.columns.isSome ∧ response.cursorId ≠ 0 ∧
        response.cursorId ∉ cursorIds response.outBinds
    · obtain ⟨query, real, apart⟩ := held
      have behind : Ends exclusive.scene [] (receive outputs response o) c₁ w₁ _ :=
        (receive_closes outputs response o same atOnce query real apart).withCalls
          (I := fun _ => True) (receive_calls outputs response o) trivial
      apply behind.mono
      intro r c₂ own₂ more ended request' response' mem _ _ _
      obtain ⟨closed, -, quiet⟩ := ended
      obtain rfl := only quiet request' response' mem
      exact closed.behind (by simp [uncursed])
    · have behind : Ends exclusive.scene [] (receive outputs response o) c₁ w₁ _ :=
        (receive_ends outputs response o same).withCalls
          (I := fun _ => True) (receive_calls outputs response o) trivial
      apply behind.mono
      intro r c₂ own₂ more ended request' response' mem query real apart
      obtain ⟨-, -, quiet⟩ := ended
      obtain rfl := only quiet request' response' mem
      exact absurd ⟨query, real, apart⟩ held
  · intro e c₁ own₁ w₁ new _ ended request response mem
    exact (ended.2.2.2.1 request response mem).elim

/-- An execution that ends, one way or the other, has closed the cursor of its query once if it
was to fetch the rows at once, and has fetched nothing behind that. One that breaks off was told a
value that may break off. -/
theorem execute_closes_query_cursor {sql : String} {binds : Binds} {o : ExecuteOptions}
    (exclusive : Exclusive c host w) (atOnce : o.asResultSet = false) :
    (∀ r c' w', (execute sql binds o).attempt host c w = (.done r, c', w') →
      ∃ new, w'.exchanges = w.exchanges ++ new ∧
        ∀ request response, ⟨.execute request, .done response⟩ ∈ new → response.columns.isSome →
          response.cursorId ≠ 0 → response.cursorId ∉ cursorIds response.outBinds →
            ClosedOnce response.cursorId new) ∧
      ∀ c' w', execute sql binds o host c w = (.stuck .brokenOff, c', w') →
        ∃ new, w'.exchanges = w.exchanges ++ new ∧
          ∃ x ∈ new, ∃ wire ∈ x.reported, wire.Breaks o.convert := by
  refine ⟨fun r c' w' run => ?_, fun c' w' run => execute_brokenOff run⟩
  obtain ⟨_, new, added, -, closes⟩ := execute_closes exclusive atOnce r c' w' exclusive.calm run
  exact ⟨new, added, closes⟩

/-- A store with a query over a cursor. The first fetch from it fails. -/
def failingFetch (id : Nat) : Memory.Store :=
  { failing .fetch .connectionClosed with
    cursors := [⟨id, [[.text "a"]], false⟩]
    execute :=
      [{ columns := some [⟨"N", 1, 0, 0, 0, 0, true⟩], cursorId := id, moreRows := true }] }

/-- A store with a query over a cursor whose only row is a date. -/
def datedRow (id : Nat) : Memory.Store :=
  { Memory.Store.empty 4 with
    cursors := [⟨id, [], false⟩]
    execute :=
      [{ columns := some [⟨"D", 12, 0, 0, 0, 0, true⟩], cursorId := id
         rows := [[.date [120, 124, 1, 15, 1, 1, 1]]] }] }

/-- Dates are fetched as text in a pattern with a letter that stands for nothing. -/
def unfollowed : ExecuteOptions :=
  { convert := { fetchAsText := [.date], datePattern := "%Q" } }

/-- The run broke off and left such exchanges behind. -/
def brokenOffLeaving {α : Type} (p : List Exchange → Bool) :
    Outcome α × Connection × World σ → Bool
  | (.stuck .brokenOff, _, w) => p w.exchanges
  | _ => false

theorem brokenOffLeaving_iff {α : Type} {p : List Exchange → Bool}
    {run : Outcome α × Connection × World σ} :
    brokenOffLeaving p run = true ↔
      ∃ c' w', run = (.stuck .brokenOff, c', w') ∧ p w'.exchanges = true := by
  obtain ⟨_ | _ | _ | _, c', w'⟩ := run <;> simp [brokenOffLeaving]

/-- The rows behind the first fetch are lost, and the cursor is closed once. Where the date cannot
become text, it is the date at which the execution breaks off. -/
theorem query_cursor_of_failed_fetch_closed :
    (∃ e c' w', execute "select n from t" (.positional []) {} (Memory.Store.host 9) first
        (opened (failingFetch 7)) = (.failed e, c', w') ∧
      ClosedOnce 7 w'.exchanges) ∧
    ∃ c' w', execute "select d from t" (.positional []) unfollowed (Memory.Store.host 9) first
        (opened (datedRow 7)) = (.stuck .brokenOff, c', w') ∧
      ∃ x ∈ w'.exchanges, ∃ wire ∈ x.reported, wire.Breaks unfollowed.convert := by
  constructor
  · have evaluated : failedLeaving (fun xs => xs.any (Exchange.executed fun response =>
          response.columns.isSome && response.cursorId == 7 &&
            cursorIds response.outBinds == []))
        (execute "select n from t" (.positional []) {} (Memory.Store.host 9) first
          (opened (failingFetch 7))) = true := by
      decide +kernel
    obtain ⟨e, c', w', run, returned⟩ := failedLeaving_iff.1 evaluated
    refine ⟨e, c', w', run, ?_⟩
    obtain ⟨request, response, mem, found⟩ := Exchange.executed_any returned
    simp only [Bool.and_eq_true, beq_iff_eq] at found
    obtain ⟨⟨query, id⟩, none⟩ := found
    obtain ⟨new, added, closes⟩ :=
      (execute_closes_query_cursor (exclusive_opened _ 9) rfl).1 _ c' w' (attempt_of_failed run)
    obtain rfl : w'.exchanges = new := added
    have once := closes request response mem query (by rw [id]; decide) (by rw [none]; simp)
    rwa [id] at once
  · have evaluated : brokenOffLeaving (fun _ => true)
        (execute "select d from t" (.positional []) unfollowed (Memory.Store.host 9) first
          (opened (datedRow 7))) = true := by
      decide +kernel
    obtain ⟨c', w', run, -⟩ := brokenOffLeaving_iff.1 evaluated
    obtain ⟨new, added, told⟩ :=
      (execute_closes_query_cursor (exclusive_opened _ 9) rfl).2 c' w' run
    obtain rfl : w'.exchanges = new := added
    exact ⟨c', w', run, told⟩

/-- The cursor of a query stays open when the execution breaks off. -/
theorem query_cursor_stays_open_behind_break :
    ∃ c' w', execute "select d from t" (.positional []) unfollowed (Memory.Store.host 9) first
        (opened (datedRow 7)) = (.stuck .brokenOff, c', w') ∧
      (∃ request response, ⟨.execute request, .done response⟩ ∈ w'.exchanges ∧
        response.columns.isSome ∧ response.cursorId = 7 ∧ cursorIds response.outBinds = []) ∧
      closedCursors w'.exchanges = [] := by
  have evaluated : brokenOffLeaving (fun xs => xs.any (Exchange.executed fun response =>
        response.columns.isSome && response.cursorId == 7 && cursorIds response.outBinds == []) &&
          closedCursors xs == [])
      (execute "select d from t" (.positional []) unfollowed (Memory.Store.host 9) first
        (opened (datedRow 7))) = true := by
    decide +kernel
  obtain ⟨c', w', run, found⟩ := brokenOffLeaving_iff.1 evaluated
  rw [Bool.and_eq_true] at found
  obtain ⟨returned, unclosed⟩ := found
  obtain ⟨request, response, mem, query⟩ := Exchange.executed_any returned
  simp only [Bool.and_eq_true, beq_iff_eq] at query
  obtain ⟨⟨described, id⟩, none⟩ := query
  exact ⟨c', w', run, ⟨request, response, mem, described, id, none⟩, by simpa using unclosed⟩

end Connection

end SqlBinder

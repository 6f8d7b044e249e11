import SqlBinder.Proofs.Connection.Reading
import SqlBinder.Proofs.Connection.Returned

/-!
Queries of which only the first rows are wanted. Rows are read step by step: the next one at hand is
decoded or, when none is at hand, more are fetched. A limit does not change the steps. They are
those of the same query without a limit, up to the one that brings enough rows, and none behind it.

The loop and its steps are compared in both directions. Whatever the loop comes to, there are steps
that lead there; and where steps lead, the loop goes, as long as there are not enough rows. The
first is used for the run without a limit and the second to follow the same steps with one.
-/
namespace SqlBinder

open Operation Binding

/-- An operation without a result ends the one it is part of in the same way. -/
inductive Outcome.Breaks {α β : Type} : Outcome α → Outcome β → Prop where
  | failed (e : Error) : Breaks (.failed e) (.failed e)
  | stuck (why : Halt) : Breaks (.stuck why) (.stuck why)

/-- A round trip for more rows. -/
def Call.isFetch : Call → Bool
  | .fetch _ _ => true
  | _ => false

/-- Round trips for more rows so far. -/
def World.fetches {σ : Type} (w : World σ) : Nat := w.calls.countP Call.isFetch

namespace Connection

variable {σ : Type}

/-! ## Steps -/

/-- Where the reading of rows stands. -/
structure Reading (σ : Type) where
  /-- Rows decoded so far. -/
  rows : List Row
  /-- Rows at hand that are not decoded yet. -/
  wires : List (List WireValue)
  moreRows : Bool
  connection : Connection
  world : World σ

/-- There are as many rows as the limit allows; 0 is no limit. -/
def Reading.Enough (limit : Nat) (s : Reading σ) : Prop := limit ≠ 0 ∧ limit ≤ s.rows.length

section Steps

variable (host : Host σ) (g : Guards) (columns : Columns) (id : Nat) (o : ExecuteOptions)

/-- Decode the first of these rows. -/
def Reading.decode (s : Reading σ) (wires : List WireValue) :
    Outcome (List Value) × Connection × World σ :=
  decodeRow g .connectionClosed columns o.convert wires host s.connection s.world

/-- Ask for more rows. -/
def Reading.fetch (s : Reading σ) : Outcome FetchResponse × Connection × World σ :=
  roundTrip o.callTimeout (.fetch id o.fetchSize) host s.connection s.world

/-- Steps lead from one reading to the other, so many of them round trips for more rows. -/
inductive Reads : Nat → Reading σ → Reading σ → Prop where
  | here (s : Reading σ) : Reads 0 s s
  | row {n : Nat} {s t : Reading σ} {wires : List WireValue} {rest : List (List WireValue)}
      {values : List Value} {c : Connection} {w : World σ} (first : s.wires = wires :: rest)
      (decoded : s.decode host g columns o wires = (.done values, c, w))
      (onward : Reads n ⟨s.rows ++ [⟨values, columns⟩], rest, s.moreRows, c, w⟩ t) : Reads n s t
  | fetch {n : Nat} {s t : Reading σ} {response : FetchResponse} {c : Connection} {w : World σ}
      (empty : s.wires = []) (more : s.moreRows = true) (real : id ≠ 0)
      (fetched : s.fetch host id o = (.done response, c, w))
      (onward : Reads n ⟨s.rows, response.rows, response.moreRows, c, w⟩ t) : Reads (n + 1) s t

/-- How the reading of rows ends there: with enough rows, with all there are, with a row that does
not decode, or with a round trip that brings none. -/
inductive Reading.Ends (limit : Nat) (s : Reading σ) :
    Outcome (List Row) × Connection × World σ → Prop where
  | enough (enough : s.Enough limit) : Ends limit s (.done s.rows, s.connection, s.world)
  | all (empty : s.wires = []) (last : s.moreRows = false ∨ id = 0) :
      Ends limit s (.done s.rows, s.connection, s.world)
  | row {wires : List WireValue} {rest : List (List WireValue)} {out : Outcome (List Value)}
      {out' : Outcome (List Row)} {c : Connection} {w : World σ} (short : ¬s.Enough limit)
      (first : s.wires = wires :: rest) (decoded : s.decode host g columns o wires = (out, c, w))
      (breaks : out.Breaks out') : Ends limit s (out', c, w)
  | fetch {out : Outcome FetchResponse} {out' : Outcome (List Row)} {c : Connection} {w : World σ}
      (short : ¬s.Enough limit) (empty : s.wires = []) (more : s.moreRows = true) (real : id ≠ 0)
      (fetched : s.fetch host id o = (out, c, w)) (breaks : out.Breaks out') :
      Ends limit s (out', c, w)

/-- The loop over the batches of rows, from there on. -/
def Reading.run (limit rounds : Nat) (s : Reading σ) : Outcome (List Row) × Connection × World σ :=
  iterate (fetchRound g columns id (handing o false limit)) rounds
    (s.rows, s.wires, s.moreRows) host s.connection s.world

end Steps

section Loop

variable {host : Host σ} {g : Guards} {columns : Columns} {id : Nat} {o : ExecuteOptions}
  {limit rounds : Nat} {s t : Reading σ} {c : Connection} {w : World σ}

/-! ## The loop, step by step -/

theorem run_enough (enough : s.Enough limit) :
    s.run host g columns id o limit (rounds + 1) = (.done s.rows, s.connection, s.world) := by
  have reached : (handing o false limit).maxRows ≠ 0 ∧
      (handing o false limit).maxRows ≤ s.rows.length := enough
  have undecoded : ∀ wires, (decodeRows g columns (handing o false limit) s.rows wires :
      Operation σ Connection (List Row)) = pure s.rows := by
    intro wires
    cases wires with
    | nil => rfl
    | cons first rest => rw [decodeRows, if_pos reached]
  rw [Reading.run, iterate, fetchRound, undecoded]
  simp [reached]

theorem run_row {wires : List WireValue} {rest : List (List WireValue)} {values : List Value}
    (short : ¬s.Enough limit) (first : s.wires = wires :: rest)
    (decoded : s.decode host g columns o wires = (.done values, c, w)) :
    s.run host g columns id o limit (rounds + 1) =
      Reading.run host g columns id o limit (rounds + 1)
        ⟨s.rows ++ [⟨values, columns⟩], rest, s.moreRows, c, w⟩ := by
  rw [Reading.run, first, iterate_cons (o := handing o false limit) short]
  exact bind_of_done decoded _

theorem run_row_breaks {wires : List WireValue} {rest : List (List WireValue)}
    {out : Outcome (List Value)} {out' : Outcome (List Row)} (short : ¬s.Enough limit)
    (first : s.wires = wires :: rest) (decoded : s.decode host g columns o wires = (out, c, w))
    (breaks : out.Breaks out') :
    s.run host g columns id o limit (rounds + 1) = (out', c, w) := by
  rw [Reading.run, first, iterate_cons (o := handing o false limit) short]
  cases breaks with
  | failed e => exact bind_of_failed decoded _
  | stuck why => exact bind_of_stuck decoded _

theorem run_all (empty : s.wires = []) (last : s.moreRows = false ∨ id = 0) :
    s.run host g columns id o limit (rounds + 1) = (.done s.rows, s.connection, s.world) := by
  rw [Reading.run, iterate, fetchRound, empty, decodeRows]
  rcases last with last | last
  · simp [last]
  · simp [last]

theorem run_fetch {response : FetchResponse} (short : ¬s.Enough limit) (empty : s.wires = [])
    (more : s.moreRows = true) (real : id ≠ 0)
    (fetched : s.fetch host id o = (.done response, c, w)) :
    s.run host g columns id o limit (rounds + 1) =
      Reading.run host g columns id o limit rounds
        ⟨s.rows, response.rows, response.moreRows, c, w⟩ := by
  rw [Reading.run, empty, more, iterate_more (o := handing o false limit) short real]
  exact bind_of_done fetched _

theorem run_fetch_breaks {out : Outcome FetchResponse} {out' : Outcome (List Row)}
    (short : ¬s.Enough limit) (empty : s.wires = []) (more : s.moreRows = true) (real : id ≠ 0)
    (fetched : s.fetch host id o = (out, c, w)) (breaks : out.Breaks out') :
    s.run host g columns id o limit (rounds + 1) = (out', c, w) := by
  rw [Reading.run, empty, more, iterate_more (o := handing o false limit) short real]
  cases breaks with
  | failed e => exact bind_of_failed fetched _
  | stuck why => exact bind_of_stuck fetched _

/-- What the loop comes to where the reading ends. -/
theorem Reading.Ends.run {result : Outcome (List Row) × Connection × World σ}
    (h : s.Ends host g columns id o limit result) :
    s.run host g columns id o limit (rounds + 1) = result := by
  cases h with
  | enough enough => exact run_enough enough
  | all empty last => exact run_all empty last
  | row short first decoded breaks => exact run_row_breaks short first decoded breaks
  | fetch short empty more real fetched breaks =>
    exact run_fetch_breaks short empty more real fetched breaks

/-! ## Following the steps -/

theorem decode_grown {wires : List WireValue} {out : Outcome (List Value)}
    (decoded : s.decode host g columns o wires = (out, c, w)) :
    s.world.exchanges <+: w.exchanges := by
  obtain ⟨-, -, new, added, -⟩ :=
    decodeRow_calls (I := fun _ => True) (P := fun _ => True) (fun _ _ _ => trivial) g
      .connectionClosed columns o.convert wires host s.connection s.world trivial
  rw [← Reading.decode, decoded] at added
  exact ⟨new, added.symm⟩

theorem fetch_grown {out : Outcome FetchResponse}
    (fetched : s.fetch host id o = (out, c, w)) : s.world.exchanges <+: w.exchanges := by
  obtain ⟨-, -, new, added, -⟩ :=
    roundTrip_calls (I := fun _ => True) (P := fun _ => True) (c := .fetch id o.fetchSize)
      o.callTimeout trivial host s.connection s.world trivial
  rw [← Reading.fetch, fetched] at added
  exact ⟨new, added.symm⟩

namespace Reads

variable {n : Nat}

/-- Steps only add rows and calls. -/
theorem grown (h : Reads host g columns id o n s t) :
    s.rows <+: t.rows ∧ s.world.exchanges <+: t.world.exchanges := by
  induction h with
  | here s => exact ⟨List.prefix_rfl, List.prefix_rfl⟩
  | row first decoded onward ih =>
    exact ⟨(List.prefix_append _ _).trans ih.1, (decode_grown decoded).trans ih.2⟩
  | fetch empty more real fetched onward ih => exact ⟨ih.1, (fetch_grown fetched).trans ih.2⟩

theorem short (h : Reads host g columns id o n s t) (short : ¬t.Enough limit) :
    ¬s.Enough limit :=
  fun enough => short ⟨enough.1, Nat.le_trans enough.2 h.grown.1.length_le⟩

/-- As long as there are not enough rows the loop makes the steps. -/
theorem run (h : Reads host g columns id o n s t) (few : n < rounds) (short : ¬t.Enough limit) :
    s.run host g columns id o limit rounds = t.run host g columns id o limit (rounds - n) := by
  induction h generalizing rounds with
  | here s => rfl
  | row first decoded onward ih =>
    obtain ⟨rounds, rfl⟩ := Nat.exists_eq_succ_of_ne_zero (Nat.ne_of_gt (Nat.zero_lt_of_lt few))
    rw [run_row ((Reads.row first decoded onward).short short) first decoded, ih few short]
  | fetch empty more real fetched onward ih =>
    obtain ⟨rounds, rfl⟩ := Nat.exists_eq_succ_of_ne_zero (Nat.ne_of_gt (Nat.zero_lt_of_lt few))
    rw [run_fetch ((Reads.fetch empty more real fetched onward).short short) empty more real
      fetched, ih (Nat.lt_of_succ_lt_succ few) short, Nat.succ_sub_succ]

/-- Without a limit the loop gives up if the steps make too many round trips. -/
theorem run_tired (h : Reads host g columns id o n s t) (many : rounds ≤ n) :
    (s.run host g columns id o 0 rounds).1 = .stuck .waiting := by
  induction h generalizing rounds with
  | here s =>
    obtain rfl : rounds = 0 := Nat.le_zero.1 many
    rfl
  | row first decoded onward ih =>
    cases rounds with
    | zero => rfl
    | succ rounds =>
      rw [run_row (fun enough => enough.1 rfl) first decoded]
      exact ih many
  | fetch empty more real fetched onward ih =>
    cases rounds with
    | zero => rfl
    | succ rounds =>
      rw [run_fetch (fun enough => enough.1 rfl) empty more real fetched]
      exact ih (Nat.le_of_succ_le_succ many)

/-- With as many rows as the limit allows the loop stops, whatever steps are to come. -/
theorem cut_here (h : Reads host g columns id o n s t) (limited : limit ≠ 0)
    (full : s.rows.length = limit) :
    ∃ c w, s.run host g columns id o limit (rounds + 1) = (.done (t.rows.take limit), c, w) ∧
      w.exchanges <+: t.world.exchanges := by
  have front : t.rows.take limit = s.rows := by
    rw [← full]
    exact (List.prefix_iff_eq_take.1 h.grown.1).symm
  rw [run_enough ⟨limited, Nat.le_of_eq full.symm⟩, front]
  exact ⟨_, _, rfl, h.grown.2⟩

/-- With a limit the loop stops at the step that brings enough rows. -/
theorem run_cut (h : Reads host g columns id o n s t) (few : n < rounds) (limited : limit ≠ 0)
    (within : s.rows.length ≤ limit) (reached : limit ≤ t.rows.length) :
    ∃ c w, s.run host g columns id o limit rounds = (.done (t.rows.take limit), c, w) ∧
      w.exchanges <+: t.world.exchanges := by
  induction h generalizing rounds with
  | here s =>
    obtain ⟨rounds, rfl⟩ := Nat.exists_eq_succ_of_ne_zero (Nat.ne_of_gt few)
    rw [run_enough ⟨limited, reached⟩, List.take_of_length_le within]
    exact ⟨_, _, rfl, List.prefix_rfl⟩
  | @row n s t wires rest values c w first decoded onward ih =>
    obtain ⟨rounds, rfl⟩ := Nat.exists_eq_succ_of_ne_zero (Nat.ne_of_gt (Nat.zero_lt_of_lt few))
    rcases Nat.eq_or_lt_of_le within with full | short
    · exact cut_here (.row first decoded onward) limited full
    · rw [run_row (fun enough => Nat.not_le_of_lt short enough.2) first decoded]
      exact ih few (by rwa [List.length_append]) reached
  | @fetch n s t response c w empty more real fetched onward ih =>
    obtain ⟨rounds, rfl⟩ := Nat.exists_eq_succ_of_ne_zero (Nat.ne_of_gt (Nat.zero_lt_of_lt few))
    rcases Nat.eq_or_lt_of_le within with full | short
    · exact cut_here (.fetch empty more real fetched onward) limited full
    · rw [run_fetch (fun enough => Nat.not_le_of_lt short enough.2) empty more real fetched]
      exact ih (Nat.lt_of_succ_lt_succ few) within reached

end Reads

/-! ## What the loop does -/

/-- Where a loop with that many rounds comes to. -/
structure Comes (host : Host σ) (g : Guards) (columns : Columns) (id : Nat) (o : ExecuteOptions)
    (limit rounds : Nat) (s : Reading σ) (n : Nat) (t : Reading σ)
    (result : Outcome (List Row) × Connection × World σ) : Prop where
  reads : Reads host g columns id o n s t
  within : limit ≠ 0 → s.rows.length ≤ limit → t.rows.length ≤ limit
  ends : n < rounds ∧ t.Ends host g columns id o limit result ∨
    n = rounds ∧ result = (.stuck .waiting, t.connection, t.world)

theorem comes_of_ends {result : Outcome (List Row) × Connection × World σ}
    (ends : s.Ends host g columns id o limit result) :
    Comes host g columns id o limit (rounds + 1) s 0 s
      (s.run host g columns id o limit (rounds + 1)) :=
  ⟨.here s, fun _ within => within, .inl ⟨Nat.zero_lt_succ rounds, by rwa [ends.run]⟩⟩

namespace Comes

variable {n : Nat} {result : Outcome (List Row) × Connection × World σ}

/-- The loop comes there too from a row before. -/
theorem row {wires : List WireValue} {rest : List (List WireValue)} {values : List Value}
    (short : ¬s.Enough limit) (first : s.wires = wires :: rest)
    (decoded : s.decode host g columns o wires = (.done values, c, w))
    (h : Comes host g columns id o limit rounds
      ⟨s.rows ++ [⟨values, columns⟩], rest, s.moreRows, c, w⟩ n t result) :
    Comes host g columns id o limit rounds s n t result where
  reads := .row first decoded h.reads
  within := fun limited _ => h.within limited <| by
    rw [List.length_append]
    exact Nat.lt_of_not_le fun reached => short ⟨limited, reached⟩
  ends := h.ends

/-- The loop comes there too from a round trip before. -/
theorem fetch {response : FetchResponse} (empty : s.wires = []) (more : s.moreRows = true)
    (real : id ≠ 0) (fetched : s.fetch host id o = (.done response, c, w))
    (h : Comes host g columns id o limit rounds
      ⟨s.rows, response.rows, response.moreRows, c, w⟩ n t result) :
    Comes host g columns id o limit (rounds + 1) s (n + 1) t result where
  reads := .fetch empty more real fetched h.reads
  within := h.within
  ends := h.ends.imp (fun ends => ⟨Nat.succ_lt_succ ends.1, ends.2⟩)
    fun tired => ⟨congrArg Nat.succ tired.1, tired.2⟩

end Comes

/-- The loop makes steps, none behind enough rows, until the reading ends or its rounds are
over. -/
theorem run_comes (s : Reading σ) : ∃ n t,
    Comes host g columns id o limit rounds s n t (s.run host g columns id o limit rounds) := by
  induction rounds generalizing s with
  | zero => exact ⟨0, s, .here s, fun _ within => within, .inr ⟨rfl, rfl⟩⟩
  | succ rounds ih =>
    obtain ⟨rows, wires, more, c, w⟩ := s
    induction wires generalizing rows c w with
    | nil =>
      by_cases enough : Reading.Enough limit ⟨rows, [], more, c, w⟩
      · exact ⟨0, _, comes_of_ends (.enough enough)⟩
      by_cases last : more = false ∨ id = 0
      · exact ⟨0, _, comes_of_ends (.all rfl last)⟩
      obtain ⟨unfinished, real⟩ := not_or.1 last
      have more' : more = true := eq_true_of_ne_false unfinished
      rcases fetched : Reading.fetch host id o ⟨rows, [], more, c, w⟩ with
        ⟨response | e | _, c₁, w₁⟩
      · obtain ⟨n, t, comes⟩ := ih ⟨rows, response.rows, response.moreRows, c₁, w₁⟩
        rw [run_fetch enough rfl more' real fetched]
        exact ⟨n + 1, t, comes.fetch rfl more' real fetched⟩
      · exact ⟨0, _, comes_of_ends (.fetch enough rfl more' real fetched (.failed e))⟩
      · exact ⟨0, _, comes_of_ends (.fetch enough rfl more' real fetched (.stuck _))⟩
    | cons wires rest behind =>
      by_cases enough : Reading.Enough limit ⟨rows, wires :: rest, more, c, w⟩
      · exact ⟨0, _, comes_of_ends (.enough enough)⟩
      rcases decoded : Reading.decode host g columns o ⟨rows, wires :: rest, more, c, w⟩ wires with
        ⟨values | e | _, c₁, w₁⟩
      · obtain ⟨n, t, comes⟩ := behind (rows ++ [⟨values, columns⟩]) c₁ w₁
        rw [run_row enough rfl decoded]
        exact ⟨n, t, comes.row enough rfl decoded⟩
      · exact ⟨0, _, comes_of_ends (.row enough rfl decoded (.failed e))⟩
      · exact ⟨0, _, comes_of_ends (.row enough rfl decoded (.stuck _))⟩

end Loop

/-! ## Executions -/

/-- The cursor is closed behind what gives its rows. -/
def endingCursor (id : Nat) (t : Operation σ Connection (List Row)) :
    Operation σ Connection (List Row) := do
  match ← t.attempt with
  | .ok rows =>
    if id ≠ 0 then Operation.callFreely (.closeCursor id)
    return rows
  | .error e =>
    releaseCursor id
    Operation.fail e

/-- An execution that has come to its rows. -/
structure Arrival (σ : Type) where
  response : ExecuteResponse
  outBinds : List OutBind
  columns : Columns
  connection : Connection
  world : World σ

namespace Arrival

variable (a : Arrival σ)

/-- The guards of the loop over the rows: a new signal, and that of the connection. -/
def guards : Guards := ⟨a.world.signals.fresh.1, a.connection.closed⟩

/-- The rows that came with the response are at hand. -/
def start : Reading σ :=
  ⟨[], a.response.rows, a.response.moreRows, a.connection,
    { a.world with signals := a.world.signals.fresh.2 }⟩

/-- What the loop over the rows comes to. -/
def read (host : Host σ) (o : ExecuteOptions) (limit : Nat) :
    Outcome (List Row) × Connection × World σ :=
  a.start.run host a.guards a.columns a.response.cursorId o limit host.patience

theorem read_comes (host : Host σ) (o : ExecuteOptions) (limit : Nat) : ∃ n t,
    Comes host a.guards a.columns a.response.cursorId o limit host.patience a.start n t
      (a.read host o limit) :=
  run_comes a.start

/-- What the execution gives when these are its rows. -/
def result (rows : List Row) : ExecuteResult :=
  ⟨a.response.rowsAffected, a.outBinds, some a.columns, some rows, none⟩

/-- The end of the execution, behind what the loop came to: the cursor is closed, and nothing is
left held if anything failed. -/
def finish (host : Host σ) (read : Outcome (List Row) × Connection × World σ) :
    Outcome ExecuteResult × Connection × World σ :=
  releasing a.outBinds (do
    let rows ← endingCursor a.response.cursorId fun _ _ _ => read
    return a.result rows) host a.connection a.world

end Arrival

/-- The execution comes to its rows there. -/
structure Arrives (host : Host σ) (sql : String) (binds : Binds) (o : ExecuteOptions)
    (c : Connection) (w : World σ) (a : Arrival σ) : Prop where
  reached : beforeRows sql binds o host c w =
    (.done (a.response, a.outBinds), a.connection, a.world)
  resolved : ∃ described, a.response.columns = some described ∧
    Columns.ofMetadata described = .ok a.columns

section Executions

variable {host : Host σ} {sql : String} {binds : Binds} {o : ExecuteOptions} {c c' : Connection}
  {w w' : World σ} {a : Arrival σ} {limit : Nat}

theorem releasing_congr {α : Type} {t t' : Operation σ Connection α} (bs : List OutBind)
    (same : t host c w = t' host c w) : releasing bs t host c w = releasing bs t' host c w := by
  simp only [releasing, bind_apply, attempt, same]

/-- Whatever the limit, the rest of an execution is the loop and the end behind it. -/
theorem Arrives.executed (h : Arrives host sql binds o c w a) (limit : Nat) :
    execute sql binds (handing o false limit) host c w = a.finish host (a.read host o limit) := by
  obtain ⟨described, columns, resolved⟩ := h.resolved
  have passed : releasingCursor a.response.cursorId
      (Operation.ofExcept (Columns.ofMetadata described)) host a.connection a.world =
      (.done a.columns, a.connection, a.world) := by
    rw [resolved]
    rfl
  rw [execute_handing, bind_of_done h.reached]
  simp only [columns]
  apply releasing_congr
  rw [receiveRows, bind_of_done passed]
  rfl

/-- An execution that gives rows has come to them. -/
theorem arrives_of_done {r : ExecuteResult} {rows : List Row}
    (done : execute sql binds (handing o false limit) host c w =
      (.done r, c', w')) (given : r.rows = some rows) :
    ∃ a, Arrives host sql binds o c w a := by
  rw [execute_handing] at done
  obtain ⟨⟨response, outBinds⟩, c₁, w₁, reached, onward⟩ := bind_done done
  cases columns : response.columns with
  | none =>
    simp only [columns] at onward
    cases onward
    cases given
  | some described =>
    simp only [columns] at onward
    obtain ⟨resolved, c₂, w₂, passed, -⟩ := bind_done (releasing_done onward)
    cases named : Columns.ofMetadata described with
    | ok columns => exact ⟨⟨response, outBinds, columns, c₁, w₁⟩, reached, described, ‹_›, named⟩
    | error e =>
      rw [named] at passed
      cases releasingCursor_done passed

/-- Behind rows that were read the cursor is closed, without a round trip for more. -/
theorem endingCursor_done (closes : ∀ id s, (host.answer (.closeCursor id) s).wait ≠ none ∧
      (host.answer (.closeCursor id) s).reply = .ok ()) (id : Nat)
    {t : Operation σ Connection (List Row)} {rows : List Row} {c₁ : Connection} {w₁ : World σ}
    (read : t host c w = (.done rows, c₁, w₁)) :
    ∃ w', endingCursor id t host c w = (.done rows, c₁, w') ∧ w'.fetches = w₁.fetches := by
  have onward := bind_of_done (attempt_of_done read) fun r => match r with
    | .ok rows => do
      if id ≠ 0 then Operation.callFreely (.closeCursor id)
      return rows
    | .error e => do
      releaseCursor id
      Operation.fail e
  by_cases real : id = 0
  · exact ⟨w₁, onward.trans (by simp [real]), rfl⟩
  · obtain ⟨answered, well⟩ := closes id w₁.session
    obtain ⟨out, w', made, added⟩ := call_record (.closeCursor id) ⟨none, []⟩ host c₁ w₁
    obtain ⟨w₂, made₂⟩ := callFreely_answered answered c₁
    rw [well, callFreely, made] at made₂
    obtain rfl : out = .done () := congrArg Prod.fst made₂
    refine ⟨w', onward.trans ?_, ?_⟩
    · simp only [real, ne_eq, not_false_iff, if_true]
      exact bind_of_done made _
    · simp [World.fetches, World.calls, added, Call.isFetch]

/-- Rows that were read are the result. -/
theorem finish_done (closes : ∀ id s, (host.answer (.closeCursor id) s).wait ≠ none ∧
      (host.answer (.closeCursor id) s).reply = .ok ()) (a : Arrival σ) (rows : List Row)
    (c : Connection) (w : World σ) :
    ∃ w', a.finish host (.done rows, c, w) = (.done (a.result rows), c, w') ∧
      w'.fetches = w.fetches := by
  let t : Operation σ Connection (List Row) := fun _ _ _ => (.done rows, c, w)
  have read : t host a.connection a.world = (.done rows, c, w) := rfl
  obtain ⟨w', ended, same⟩ := endingCursor_done closes a.response.cursorId read
  refine ⟨w', ?_, same⟩
  rw [Arrival.finish, releasing, bind_of_done (attempt_of_done (bind_of_done ended _))]
  rfl

/-- An execution is done when its rows are. -/
theorem finish_of_done {read : Outcome (List Row) × Connection × World σ} {r : ExecuteResult}
    (done : a.finish host read = (.done r, c', w')) :
    ∃ rows c₁ w₁, read = (.done rows, c₁, w₁) := by
  obtain ⟨rows, c₁, w₁, ended, -⟩ := bind_done (releasing_done done)
  obtain ⟨out, c₂, w₂, attempted, onward⟩ := bind_done ended
  rcases attempt_done attempted with ⟨rows, rfl, read⟩ | ⟨e, rfl, -⟩
  · exact ⟨rows, c₂, w₂, read⟩
  · exact absurd (congrArg Prod.fst onward) (bind_fail_ne_done _ e rows)

/-- An execution does not end when its rows do not. -/
theorem finish_stuck {read : Outcome (List Row) × Connection × World σ} {why : Halt}
    (stuck : read.1 = .stuck why) : (a.finish host read).1 = .stuck why := by
  obtain ⟨out, c₁, w₁⟩ := read
  obtain rfl : out = .stuck why := stuck
  rfl

/-! ## Limits -/

/-- The rows of the execution decode up to one, which fails. -/
structure Arrival.Spoilt (host : Host σ) (o : ExecuteOptions) (a : Arrival σ) (n : Nat)
    (t : Reading σ) (e : Error) : Prop where
  reads : Reads host a.guards a.columns a.response.cursorId o n a.start t
  fails : ∃ wires rest c w, t.wires = wires :: rest ∧
    t.decode host a.guards a.columns o wires = (.failed e, c, w)

/-- A limit that the rows up to there stay below makes no difference if the reading ends there
anyway. -/
theorem read_below {m : Nat} {t : Reading σ} {result : Outcome (List Row) × Connection × World σ}
    (reads : Reads host a.guards a.columns a.response.cursorId o m a.start t)
    (few : m < host.patience) (below : ¬t.Enough limit)
    (ends : t.Ends host a.guards a.columns a.response.cursorId o limit result) :
    a.read host o limit = result := by
  rw [Arrival.read, reads.run few below, ← Nat.sub_add_cancel (Nat.sub_pos_of_lt few), ends.run]

theorem fetches_le {w w' : World σ} (grown : w.exchanges <+: w'.exchanges) :
    w.fetches ≤ w'.fetches :=
  (grown.map _).sublist.countP_le

section Limited

variable (closes : ∀ id s, (host.answer (.closeCursor id) s).wait ≠ none ∧
  (host.answer (.closeCursor id) s).reply = .ok ())

include closes

/-- Enough rows that decode are the result of the execution with the limit. -/
theorem Arrives.cut {m : Nat} {t : Reading σ} (h : Arrives host sql binds o c w a)
    (reads : Reads host a.guards a.columns a.response.cursorId o m a.start t)
    (few : m < host.patience) (limited : limit ≠ 0) (reached : limit ≤ t.rows.length) :
    ∃ c₁ w₁, execute sql binds (handing o false limit) host c w =
        (.done (a.result (t.rows.take limit)), c₁, w₁) ∧ w₁.fetches ≤ t.world.fetches := by
  obtain ⟨c₁, w₁, cut, grown⟩ := reads.run_cut few limited (Nat.zero_le limit) reached
  obtain ⟨w₂, finished, same⟩ := finish_done closes a (t.rows.take limit) c₁ w₁
  refine ⟨c₁, w₂, ?_, same ▸ fetches_le grown⟩
  rw [h.executed, Arrival.read, cut, finished]

/-- With a limit an execution that is done gives the first of its rows. -/
theorem rows_limited {r : ExecuteResult} {rows : List Row} (limited : limit ≠ 0)
    (given : r.rows = some rows)
    (done : execute sql binds (handing o false 0) host c w =
      (.done r, c', w')) :
    ∃ c₂ w₂, execute sql binds (handing o false limit) host c w =
        (.done { r with rows := some (rows.take limit) }, c₂, w₂) ∧ w₂.fetches ≤ w'.fetches := by
  obtain ⟨a, arrives⟩ := arrives_of_done done given
  have finished := (arrives.executed 0).symm.trans done
  obtain ⟨n, t, comes⟩ := a.read_comes host o 0
  obtain ⟨all, c₁, w₁, read⟩ := finish_of_done finished
  rw [read] at finished comes
  rcases comes.ends with ⟨few, ends⟩ | ⟨-, stuck⟩
  · cases ends with
    | enough enough => exact absurd rfl enough.1
    | row short first decoded breaks => cases breaks
    | fetch short empty more real fetched breaks => cases breaks
    | all empty last =>
      obtain ⟨w₂, finished', same⟩ := finish_done closes a t.rows t.connection t.world
      rw [finished'] at finished
      cases finished
      cases given
      by_cases reached : limit ≤ t.rows.length
      · obtain ⟨c₃, w₃, cut, le⟩ := arrives.cut closes comes.reads few limited reached
        exact ⟨c₃, w₃, cut, same ▸ le⟩
      · have below : ¬t.Enough limit := fun enough => reached enough.2
        rw [arrives.executed, read_below comes.reads few below (.all empty last), finished',
          List.take_of_length_le (Nat.le_of_not_le reached)]
        exact ⟨_, _, rfl, Nat.le_refl _⟩
  · cases stuck

/-- A row that does not decode fails the execution with a limit just as it does without one, if it
is among the rows that are wanted. Otherwise those are the result. -/
theorem failure_limited {n : Nat} {t : Reading σ} {e : Error} (limited : limit ≠ 0)
    (h : Arrives host sql binds o c w a) (spoilt : a.Spoilt host o n t e)
    (failed : execute sql binds (handing o false 0) host c w =
      (.failed e, c', w')) :
    (limit ≤ t.rows.length → ∃ c₂ w₂,
      execute sql binds (handing o false limit) host c w =
        (.done (a.result (t.rows.take limit)), c₂, w₂)) ∧
    (t.rows.length < limit →
      execute sql binds (handing o false limit) host c w =
        (.failed e, c', w')) := by
  obtain ⟨wires, rest, c₁, w₁, first, decoded⟩ := spoilt.fails
  have few : n < host.patience := by
    by_contra many
    have stuck : (a.finish host (a.read host o 0)).1 = .stuck .waiting :=
      finish_stuck (spoilt.reads.run_tired (Nat.le_of_not_lt many))
    rw [← h.executed, failed] at stuck
    cases stuck
  refine ⟨fun reached => ?_, fun below => ?_⟩
  · obtain ⟨c₂, w₂, cut, -⟩ := h.cut closes spoilt.reads few limited reached
    exact ⟨c₂, w₂, cut⟩
  · have ends : ∀ {l}, ¬t.Enough l →
        t.Ends host a.guards a.columns a.response.cursorId o l (.failed e, c₁, w₁) :=
      fun short => .row short first decoded (.failed e)
    have short : ¬t.Enough limit := fun enough => Nat.not_le_of_lt below enough.2
    have short' : ¬t.Enough 0 := fun enough => enough.1 rfl
    rw [← failed, h.executed, h.executed, read_below spoilt.reads few short (ends short),
      read_below spoilt.reads few short' (ends short')]

end Limited

/-- A query with a limit gives the first rows that it gives without one, and a row that does not
decode fails it only if it is one of them. The steps of the loop are decodings and round trips;
none of them follows enough rows. -/
theorem limit_cuts_rows (closes : ∀ id s, (host.answer (.closeCursor id) s).wait ≠ none ∧
      (host.answer (.closeCursor id) s).reply = .ok ()) (limited : limit ≠ 0) (sql : String)
    (binds : Binds) (o : ExecuteOptions) (c : Connection) (w : World σ) :
    (∀ r rows c₁ w₁, r.rows = some rows →
      execute sql binds (handing o false 0) host c w = (.done r, c₁, w₁) →
        ∃ c₂ w₂, execute sql binds (handing o false limit) host c w =
            (.done { r with rows := some (rows.take limit) }, c₂, w₂) ∧
          w₂.fetches ≤ w₁.fetches) ∧
    ∀ a, Arrives host sql binds o c w a →
      (∀ n t e c₁ w₁, a.Spoilt host o n t e →
        execute sql binds (handing o false 0) host c w =
          (.failed e, c₁, w₁) →
          (limit ≤ t.rows.length → ∃ c₂ w₂,
            execute sql binds (handing o false limit) host c w =
              (.done (a.result (t.rows.take limit)), c₂, w₂)) ∧
          (t.rows.length < limit →
            execute sql binds (handing o false limit) host c w =
              (.failed e, c₁, w₁))) ∧
      ∃ n t result, Comes host a.guards a.columns a.response.cursorId o limit host.patience a.start
          n t result ∧ t.rows.length ≤ limit ∧
        execute sql binds (handing o false limit) host c w =
          a.finish host result := by
  refine ⟨?_, fun a arrives => ⟨?_, ?_⟩⟩
  · intro r rows c₁ w₁ given done
    exact rows_limited closes limited given done
  · intro n t e c₁ w₁ spoilt failed
    exact failure_limited closes limited arrives spoilt failed
  · obtain ⟨n, t, comes⟩ := a.read_comes host o limit
    exact ⟨n, t, _, comes, comes.within limited (Nat.zero_le limit), arrives.executed limit⟩

end Executions

theorem closes_scriptHost (rows : List (List WireValue)) (patience id : Nat)
    (script : List FetchResponse) :
    ((scriptHost rows patience).answer (.closeCursor id) script).wait ≠ none ∧
      ((scriptHost rows patience).answer (.closeCursor id) script).reply = .ok () := by
  cases script <;> exact ⟨nofun, rfl⟩

/-- Two rows come with the response, and behind them are one more and one without a value. -/
def spoiltHost : Host (List FetchResponse) := scriptHost [[.text "a"], [.text "b"]] 9

/-- The rows behind the response, of which the last has no value for its column. -/
def spoiltScript : List FetchResponse := [⟨[[.text "c"], []], false⟩]

/-- Its rows up to the one without a value. -/
def rowsBeforeSpoilt : List Row :=
  ["a", "b", "c"].map fun text => ⟨[.string text], ⟨[⟨"N", .varchar, true, 0, 0, 0⟩]⟩⟩

/-- Three rows are given if no more are wanted. A fourth fails the query. -/
theorem limit_at_spoilt_row :
    (∃ r c w, execute "select n from t" (.positional []) (handing {} false 3) spoiltHost first
        (opened spoiltScript) = (.done r, c, w) ∧ r.rows = some rowsBeforeSpoilt) ∧
      ∃ c w, execute "select n from t" (.positional []) (handing {} false 4) spoiltHost first
        (opened spoiltScript) =
          (.failed (.protocol "row has 0 values for 1 columns"), c, w) := by
  obtain ⟨a, t, arrives, spoilt, rows⟩ :
      ∃ a t, Arrives spoiltHost "select n from t" (.positional []) {} first
          (opened spoiltScript) a ∧
        a.Spoilt spoiltHost {} 1 t (.protocol "row has 0 values for 1 columns") ∧
          t.rows = rowsBeforeSpoilt :=
    ⟨⟨_, _, _, _, _⟩, _, ⟨rfl, _, rfl, rfl⟩, ⟨.row rfl rfl (.row rfl rfl
      (.fetch rfl rfl (by decide) rfl (.row rfl rfl (.here _)))), ⟨_, _, _, _, rfl, rfl⟩⟩, rfl⟩
  obtain ⟨c₁, w₁, failed⟩ :
      ∃ c w, execute "select n from t" (.positional []) (handing {} false 0) spoiltHost first
        (opened spoiltScript) =
          (.failed (.protocol "row has 0 values for 1 columns"), c, w) := ⟨_, _, rfl⟩
  have cuts : ∀ limit, limit ≠ 0 → _ := fun limit limited =>
    ((limit_cuts_rows (closes_scriptHost [[.text "a"], [.text "b"]] 9) limited _ _ _ _ _).2 a
      arrives).1 1 t _ c₁ w₁ spoilt failed
  have length : t.rows.length = 3 := congrArg List.length rows
  obtain ⟨c₂, w₂, cut⟩ := (cuts 3 (by decide)).1 (Nat.le_of_eq length.symm)
  refine ⟨⟨_, c₂, w₂, cut, ?_⟩, c₁, w₁, (cuts 4 (by decide)).2 (by rw [length]; decide)⟩
  rw [rows]
  rfl

end Connection

end SqlBinder

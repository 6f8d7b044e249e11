import SqlBinder.Proofs.ResultSet.Rows
import SqlBinder.Proofs.Session.Account

/-!
What is known of a result set while its connection stays open. It holds its cursor and no fetch has
failed, or it is closed and so is the cursor, by one call. Between the two it may hold the cursor
for a moment behind a failure; each step for rows ends on one side or the other.

`Held`, `Failing` and `Gone` are these three stages, and `Sound` is what they share. A step is taken
from one stage to the next by the rules for its parts, and whoever makes steps one after another
needs no more than the stage it finds.
-/
namespace SqlBinder

open Operation

variable {σ η α : Type}

/-! ## The course of a run -/

/-- Between the two worlds signals were made or fired, and calls were made, each in a world in
which it was allowed. -/
inductive Course (host : Host σ) (K : World σ → Call → Prop) (w : World σ) : World σ → Prop where
  | start : Course host K w w
  | signals {w₁ : World σ} {s : Signals} (before : Course host K w w₁)
      (grown : ∀ x, w₁.signals.isFired x = true → s.isFired x = true) :
      Course host K w { w₁ with signals := s }
  | call {w₁ : World σ} {c : Call} (watch : Watch) (before : Course host K w w₁)
      (allowed : K w₁ c) : Course host K w (Operation.call c watch host () w₁).2.2

/-- What has fired stays fired while an answer is waited for. -/
theorem isFired_await {ρ : Type} (a : Answer σ ρ) (watch : Watch) {w : World σ} {x : Signal}
    (fired : w.signals.isFired x = true) : (await a watch w).2.signals.isFired x = true := by
  rcases await_cases a watch w with ended | ended
  · simp [ended, World.asking, World.fireAll, fired]
  · simp [ended, World.answered, World.asking, World.fireAll, fired]

theorem Course.isFired {host : Host σ} {K : World σ → Call → Prop} {w w' : World σ} {x : Signal}
    (course : Course host K w w') (fired : w.signals.isFired x = true) :
    w'.signals.isFired x = true := by
  induction course with
  | start => exact fired
  | signals before grown ih => exact grown x ih
  | call watch before allowed ih => exact isFired_await _ watch ih

/-! ## The calls of one cursor in order -/

/-- Rows are not fetched behind it: it closes the cursor, or it is a fetch that failed. -/
def Exchange.Finishes (id : Nat) (x : Exchange) : Prop :=
  (∃ out, x = ⟨.closeCursor id, out⟩) ∨ ∃ n e, x = ⟨.fetch id n, .failed e⟩

/-- No rows are fetched from the cursor once it was closed or a fetch failed. -/
def Orderly (id : Nat) (xs : List Exchange) : Prop :=
  xs.Pairwise fun x y => x.Finishes id → ¬ y.Fetches id

section Order

variable {id : Nat} {xs : List Exchange} {y : Exchange}

theorem not_closed_of_unfinished (h : ∀ x ∈ xs, ¬ x.Finishes id) : id ∉ closedCursors xs := by
  intro closed
  obtain ⟨x, mem, hx⟩ := List.mem_filterMap.1 closed
  exact h x mem (.inl (Exchange.closedCursor?_eq_some hx))

theorem Orderly.of_unfinished (h : ∀ x ∈ xs, ¬ x.Finishes id) : Orderly id xs :=
  List.pairwise_of_forall_mem_list fun x hx _ _ finished => absurd finished (h x hx)

theorem Orderly.snoc (h : Orderly id xs) (last : (∀ x ∈ xs, ¬ x.Finishes id) ∨ ¬ y.Fetches id) :
    Orderly id (xs ++ [y]) := by
  refine List.pairwise_append.2 ⟨h, List.pairwise_singleton _ _, fun x hx y' hy finished => ?_⟩
  obtain rfl := List.mem_singleton.1 hy
  rcases last with unfinished | unfetched
  · exact absurd finished (unfinished x hx)
  · exact unfetched

theorem Call.Reads.unfinished {l : LobLocator} {c : Call} (h : Call.Reads l c)
    (out : Outcome c.Reply) (id : Nat) : ¬ Exchange.Finishes id ⟨c, out⟩ := by
  rintro (⟨out, same⟩ | ⟨n, e, same⟩)
  · cases h <;> cases same
  · cases h <;> cases same

end Order

/-! ## What is known of a result set -/

/-- A cursor and the signals of its result set, from some world on. Nobody closes the
connection. -/
structure Lease (σ : Type) where
  host : Host σ
  id : Nat
  guards : Guards
  start : World σ
  apart : guards.own ≠ guards.connection
  answers : ∀ c s, guards.connection ∉ (host.answer c s).during ++ (host.answer c s).after

namespace Lease

variable {L : Lease σ} {rs rs' : ResultSet} {w w' : World σ} {new : List Exchange}

/-- Rows are fetched only while the result set is not cancelled. -/
def Allows (L : Lease σ) (w : World σ) (c : Call) : Prop :=
  ∀ n, c = .fetch L.id n → w.signals.isFired L.guards.own = false

/-- The calls since the start. The connection has stayed open. -/
structure Since (L : Lease σ) (w : World σ) (new : List Exchange) : Prop where
  connection : w.signals.isFired L.guards.connection = false
  armed : L.guards.connection ∉ w.armed
  added : w.exchanges = L.start.exchanges ++ new
  course : Course L.host L.Allows L.start w

/-- The result set holds the cursor. -/
structure Holds (L : Lease σ) (rs : ResultSet) : Prop where
  guards : rs.guards = L.guards
  cursor : ∃ cursor, rs.cursor = some cursor ∧ cursor.id = L.id

/-- No call so far keeps rows from being fetched. -/
def Quiet (L : Lease σ) (w : World σ) : Prop :=
  ∃ new, L.Since w new ∧ ∀ x ∈ new, ¬ x.Finishes L.id

/-- The cursor is held, and no fetch has failed. -/
def Held (L : Lease σ) (rs : ResultSet) (w : World σ) : Prop := L.Holds rs ∧ L.Quiet w

/-- The cursor is held, but a fetch may have failed. -/
def Failing (L : Lease σ) (rs : ResultSet) (w : World σ) : Prop :=
  L.Holds rs ∧ ∃ new, L.Since w new ∧ L.id ∉ closedCursors new ∧ Orderly L.id new

/-- The result set is closed, and so is the cursor. -/
def Gone (L : Lease σ) (rs : ResultSet) (w : World σ) : Prop :=
  rs.guards = L.guards ∧ rs.cursor = none ∧ w.signals.isFired L.guards.own = true ∧
    ∃ new, L.Since w new ∧ (closedCursors new).count L.id = 1 ∧ Orderly L.id new

/-- What holds at any time: the cursor was closed once at most. -/
def Sound (L : Lease σ) (rs : ResultSet) (w : World σ) : Prop :=
  rs.guards = L.guards ∧
    ∃ new, L.Since w new ∧ (closedCursors new).count L.id ≤ 1 ∧ Orderly L.id new

/-- A lease begins with the cursor held. -/
theorem Holds.held (h : L.Holds rs) (isOpen : L.start.signals.isFired L.guards.connection = false)
    (armed : L.guards.connection ∉ L.start.armed) : L.Held rs L.start :=
  ⟨h, [], ⟨isOpen, armed, (List.append_nil _).symm, .start⟩,
    fun _ mem => (List.not_mem_nil mem).elim⟩

theorem Quiet.since (h : L.Quiet w) : ∃ new, L.Since w new := by
  obtain ⟨new, since, -⟩ := h
  exact ⟨new, since⟩

theorem Held.since (h : L.Held rs w) : ∃ new, L.Since w new := h.2.since

theorem Held.failing (h : L.Held rs w) : L.Failing rs w := by
  obtain ⟨holds, new, since, unfinished⟩ := h
  exact ⟨holds, new, since, not_closed_of_unfinished unfinished, .of_unfinished unfinished⟩

theorem Failing.sound (h : L.Failing rs w) : L.Sound rs w := by
  obtain ⟨holds, new, since, unclosed, orderly⟩ := h
  exact ⟨holds.guards, new, since, by rw [List.count_eq_zero.2 unclosed]; omega, orderly⟩

theorem Gone.sound (h : L.Gone rs w) : L.Sound rs w := by
  obtain ⟨guards, -, -, new, since, once, orderly⟩ := h
  exact ⟨guards, new, since, by omega, orderly⟩

/-! ## Calls and signals -/

theorem Since.signals {s : Signals} (h : L.Since w new)
    (grown : ∀ x, w.signals.isFired x = true → s.isFired x = true)
    (connection : s.isFired L.guards.connection = false) :
    L.Since { w with signals := s } new :=
  ⟨connection, h.armed, h.added, .signals h.course grown⟩

theorem Since.cancel (h : L.Since w new) : L.Since (w.fire L.guards.own) new := by
  apply h.signals
  · intro x fired
    simp [fired]
  · simp [h.connection, L.apart.symm]

/-- Nobody closes the connection while an answer is waited for. -/
theorem Since.await (h : L.Since w new) (c : Call) (watch : Watch) :
    (await (L.host.answer c w.session) watch w).2.signals.isFired L.guards.connection = false ∧
      (await (L.host.answer c w.session) watch w).2.armed = w.armed := by
  have others := L.answers c w.session
  simp only [List.mem_append, not_or] at others
  have begun :
      (w.asking (L.host.answer c w.session)).signals.isFired L.guards.connection = false := by
    simp only [World.asking, World.fireAll, Signals.isFired_fireAll, h.connection, Bool.or_false]
    simp only [List.contains_eq_mem, List.mem_append, decide_eq_false_iff_not, not_or]
    refine ⟨others.1, fun mem => ?_⟩
    split at mem
    · exact h.armed mem
    · cases mem
  rcases await_cases (L.host.answer c w.session) watch w with ended | ended
  · rw [ended]
    exact ⟨begun, rfl⟩
  · rw [ended]
    refine ⟨?_, rfl⟩
    simpa [World.answered, World.fireAll, begun] using others.2

theorem Since.call {c : Call} {watch : Watch} {out : Outcome c.Reply} {h h' : η}
    (since : L.Since w new) (allowed : L.Allows w c)
    (run : Operation.call c watch L.host h w = (out, h', w')) :
    h' = h ∧ L.Since w' (new ++ [⟨c, out⟩]) := by
  obtain ⟨connection, armed⟩ := since.await c watch
  rw [call_apply, Prod.mk.injEq, Prod.mk.injEq] at run
  obtain ⟨rfl, rfl, rfl⟩ := run
  refine ⟨rfl, ⟨connection, ?_, ?_, .call watch since.course allowed⟩⟩
  · show L.guards.connection ∉ World.armed _
    rw [World.record, armed]
    exact since.armed
  · rw [World.record, exchanges_await, since.added, List.append_assoc]

/-! ## Steps of a row -/

theorem open?_cases (guards : rs.guards = L.guards) (since : L.Since w new) :
    (∃ cursor, ResultSet.open? L.host rs w = (.done cursor, rs, w) ∧ rs.cursor = some cursor ∧
      w.signals.isFired L.guards.own = false) ∨
    ResultSet.open? L.host rs w = (.failed .invalidResultSet, rs, w) := by
  rw [ResultSet.open?_apply, ResultSet.cursorOf, Guards.check, guards]
  simp only [Guards.stops, firstFired, since.connection, Bool.false_eq_true, if_false]
  cases fired : w.signals.isFired L.guards.own with
  | true => exact .inr rfl
  | false =>
    cases rs.cursor with
    | none => exact .inr rfl
    | some cursor => exact .inl ⟨cursor, rfl, rfl, rfl⟩

theorem Quiet.call {l : LobLocator} {c : Call} {watch : Watch} {out : Outcome c.Reply} {h h' : η}
    (quiet : L.Quiet w) (reads : Call.Reads l c)
    (run : Operation.call c watch L.host h w = (out, h', w')) : L.Quiet w' := by
  obtain ⟨new, since, unfinished⟩ := quiet
  have allowed : L.Allows w c := fun n same => by cases reads <;> cases same
  obtain ⟨-, since'⟩ := since.call allowed run
  refine ⟨_, since', fun x mem => ?_⟩
  rcases List.mem_append.1 mem with mem | mem
  · exact unfinished x mem
  · obtain rfl := List.mem_singleton.1 mem
    exact reads.unfinished out L.id

/-- Decoding a row calls for objects only. -/
theorem Quiet.decodeRow (quiet : L.Quiet w) (g : Guards) (closed : Error) (columns : Columns)
    (o : ConvertOptions) (wires : List WireValue) (h : η) :
    ∃ out w', SqlBinder.decodeRow g closed columns o wires L.host h w = (out, h, w') ∧
      L.Quiet w' :=
  decodeRow_keeps (fun watch w reads quiet => quiet.call reads (call_apply _ watch L.host () w))
    g closed columns o wires h quiet

theorem Holds.move {cursor : OpenCursor} (h : L.Holds rs) (there : rs.cursor = some cursor)
    {moved : OpenCursor} (same : moved.id = cursor.id) :
    L.Holds { rs with cursor := some moved } := by
  obtain ⟨guards, cursor', held, named⟩ := h
  obtain rfl : cursor = cursor' := Option.some.inj (there.symm.trans held)
  exact ⟨guards, moved, rfl, same.trans named⟩

theorem Held.takeRow {out : Outcome (Option Row)} (h : L.Held rs w)
    (run : ResultSet.takeRow L.host rs w = (out, rs', w')) : L.Held rs' w' := by
  obtain ⟨holds, quiet⟩ := h
  obtain ⟨new, since⟩ := quiet.since
  rw [ResultSet.takeRow] at run
  rcases open?_cases holds.guards since with ⟨cursor, opened, there, -⟩ | refused
  · rw [bind_of_done opened] at run
    cases first : cursor.buffer with
    | nil =>
      rw [first] at run
      cases run
      exact ⟨holds, quiet⟩
    | cons wires rest =>
      let moved : ResultSet := { rs with cursor := some { cursor with buffer := rest } }
      simp only [first, ResultSet.moveCursor] at run
      rw [bind_of_done (modify_apply L.host rs w _), bind_of_done (get_apply L.host _ w),
        there] at run
      obtain ⟨out, w₁, decoded, quiet'⟩ := quiet.decodeRow rs.guards .invalidResultSet
        cursor.columns rs.convert wires moved
      have left := congrArg Prod.snd run
      rw [bind_pure_snd] at left
      obtain ⟨rfl, rfl⟩ := Prod.mk.inj ((congrArg Prod.snd decoded).symm.trans left)
      exact ⟨holds.move there rfl, quiet'⟩
  · rw [bind_of_failed refused] at run
    cases run
    exact ⟨holds, quiet⟩

/-- A round trip for more rows is made while the result set is not cancelled. -/
theorem Held.guarded {cursor : OpenCursor} {n : Nat} {out : Outcome FetchResponse}
    (h : L.Held rs w) (there : rs.cursor = some cursor)
    (uncancelled : w.signals.isFired L.guards.own = false)
    (run : Operation.guarded rs.guards .invalidResultSet (.fetch cursor.id n) L.host rs w =
      (out, rs', w')) :
    rs' = rs ∧ L.Failing rs w' ∧ ((∀ e, out ≠ .failed e) → L.Held rs w') := by
  obtain ⟨holds, new, since, unfinished⟩ := h
  have guards := holds.guards
  obtain ⟨cursor', held, named⟩ := holds.cursor
  obtain rfl : cursor = cursor' := Option.some.inj (there.symm.trans held)
  have unstopped : firstFired w.signals (rs.guards.stops .invalidResultSet) = none := by
    simp [Guards.stops, firstFired, guards, since.connection, uncancelled]
  rw [guarded_apply, unstopped, named] at run
  obtain ⟨rfl, since'⟩ := since.call (fun _ _ => uncancelled) run
  refine ⟨rfl, ⟨holds, _, since', ?_, ?_⟩, fun unfailed => ⟨holds, _, since', fun x mem => ?_⟩⟩
  · have unclosed : closedCursors [⟨.fetch L.id n, out⟩] = [] := rfl
    rw [closedCursors_append, unclosed, List.append_nil]
    exact not_closed_of_unfinished unfinished
  · exact (Orderly.of_unfinished unfinished).snoc (.inl unfinished)
  · rcases List.mem_append.1 mem with mem | mem
    · exact unfinished x mem
    · obtain rfl := List.mem_singleton.1 mem
      rintro (⟨_, same⟩ | ⟨n, e, same⟩)
      · cases same
      · cases same
        exact unfailed e rfl

/-- A fetch that is done leaves the cursor held; one that fails may have failed at the server. -/
theorem Held.fetch {out : Outcome Unit} (h : L.Held rs w)
    (run : ResultSet.fetch L.host rs w = (out, rs', w')) :
    L.Failing rs' w' ∧ ∀ u, out = .done u → L.Held rs' w' := by
  have holds := h.1
  obtain ⟨new, since⟩ := h.since
  rw [ResultSet.fetch, bind_of_done (get_apply L.host rs w)] at run
  rcases open?_cases holds.guards since with ⟨cursor, opened, there, uncancelled⟩ | refused
  · rw [bind_of_done opened] at run
    rcases made : Operation.guarded rs.guards .invalidResultSet (.fetch cursor.id rs.fetchSize)
      L.host rs w with ⟨response | e | _, rs₁, w₁⟩
    · obtain ⟨rfl, -, held⟩ := h.guarded there uncancelled made
      have held' := held fun _ failed => (by cases failed)
      obtain ⟨new', since'⟩ := held'.since
      rw [bind_of_done made] at run
      -- The answer may have come together with a cancellation.
      rcases open?_cases holds.guards since' with ⟨cursor', opened', -, -⟩ | refused
      · have holds' : L.Holds { rs₁ with cursor := some (cursor.receive response) } :=
          holds.move there rfl
        have moved : L.Held _ w₁ := ⟨holds', held'.2⟩
        rw [bind_of_done opened', ResultSet.moveCursor, modify_apply, there] at run
        cases run
        exact ⟨moved.failing, fun _ _ => moved⟩
      · rw [bind_of_failed refused] at run
        cases run
        exact ⟨held'.failing, fun _ done => (by cases done)⟩
    · obtain ⟨rfl, failing, -⟩ := h.guarded there uncancelled made
      rw [bind_of_failed made] at run
      cases run
      exact ⟨failing, fun _ done => (by cases done)⟩
    · obtain ⟨rfl, failing, -⟩ := h.guarded there uncancelled made
      rw [bind_of_stuck made] at run
      cases run
      exact ⟨failing, fun _ done => (by cases done)⟩
  · rw [bind_of_failed refused] at run
    cases run
    exact ⟨h.failing, fun _ done => (by cases done)⟩

theorem Held.readRow {out : Outcome (Option Row)} (h : L.Held rs w)
    (run : ResultSet.readRow L.host rs w = (out, rs', w')) :
    L.Failing rs' w' ∧ ∀ row, out = .done row → L.Held rs' w' := by
  have taken : ∀ {rs₁ w₁}, L.Held rs₁ w₁ →
      ResultSet.takeRow L.host rs₁ w₁ = (out, rs', w') →
        L.Failing rs' w' ∧ ∀ row, out = .done row → L.Held rs' w' :=
    fun held run => ⟨(held.takeRow run).failing, fun _ _ => held.takeRow run⟩
  have holds := h.1
  obtain ⟨new, since⟩ := h.since
  rw [ResultSet.readRow_eq] at run
  rcases open?_cases holds.guards since with ⟨cursor, opened, there, -⟩ | refused
  · rw [bind_of_done opened] at run
    split at run
    · rcases made : ResultSet.fetch L.host rs w with ⟨u | e | _, rs₁, w₁⟩
      · rw [bind_of_done made] at run
        exact taken ((h.fetch made).2 u rfl) run
      · rw [bind_of_failed made] at run
        cases run
        exact ⟨(h.fetch made).1, nofun⟩
      · rw [bind_of_stuck made] at run
        cases run
        exact ⟨(h.fetch made).1, nofun⟩
    · exact taken h run
  · rw [bind_of_failed refused] at run
    cases run
    exact ⟨h.failing, nofun⟩

/-! ## Closing -/

/-- The one call that closes the cursor, however it ends. -/
theorem Failing.closeCursor {closed : ResultSet} {out : Outcome Unit} (h : L.Failing rs w)
    (guards : closed.guards = L.guards) (none : closed.cursor = none)
    (run : callFreely (.closeCursor L.id) L.host closed (w.fire L.guards.own) = (out, rs', w')) :
    L.Gone rs' w' := by
  obtain ⟨-, new, since, unclosed, orderly⟩ := h
  obtain ⟨rfl, since'⟩ := since.cancel.call (fun n same => by cases same) run
  have fired : w'.signals.isFired L.guards.own = true := by
    rw [callFreely, call_apply] at run
    simp only [Prod.mk.injEq, true_and] at run
    rw [← run.2]
    apply isFired_await
    simp [World.fire]
  refine ⟨guards, none, fired, _, since', ?_, orderly.snoc (.inr ?_)⟩
  · have closed : closedCursors [⟨.closeCursor L.id, out⟩] = [L.id] := rfl
    rw [closedCursors_append, closed, List.count_append, List.count_eq_zero.2 unclosed,
      List.count_singleton_self]
  · rintro ⟨n, same⟩
    cases same

/-- To release a result set that holds its cursor is to cancel it and to close the cursor. -/
theorem Failing.release_eq (h : L.Failing rs w) :
    ResultSet.release L.host rs w =
      callFreely (.closeCursor L.id) L.host { rs with cursor := none } (w.fire L.guards.own) := by
  obtain ⟨cursor, there, named⟩ := h.1.cursor
  obtain ⟨new, since, -⟩ := h.2
  rw [ResultSet.release, bind_of_done (get_apply L.host rs w),
    bind_of_done (modify_apply L.host rs w _), bind_of_done (fire_apply L.host _ w _), there,
    h.1.guards]
  dsimp only
  rw [bind_of_done (signals_apply L.host _ _), since.cancel.connection, named]
  rfl

theorem Failing.release {out : Outcome Unit} (h : L.Failing rs w)
    (run : ResultSet.release L.host rs w = (out, rs', w')) : L.Gone rs' w' := by
  let closed : ResultSet := { rs with cursor := none }
  have guards : closed.guards = L.guards := h.1.guards
  rw [h.release_eq] at run
  exact h.closeCursor guards rfl run

/-- To cancel a result set that is closed changes nothing. -/
theorem Gone.cancel (h : L.Gone rs w) : w.fire rs.guards.own = w := by
  obtain ⟨guards, -, fired, -⟩ := h
  rw [World.fire, Signals.fire, guards, fired]
  rfl

/-- A result set that is closed is not closed again. -/
theorem Gone.release (h : L.Gone rs w) :
    ResultSet.release L.host rs w = (.done (), rs, w) := by
  have none := h.2.1
  have same : { rs with cursor := Option.none } = rs := by rw [← none]
  rw [ResultSet.release, bind_of_done (get_apply L.host rs w),
    bind_of_done (modify_apply L.host rs w _), bind_of_done (fire_apply L.host _ w _), none, same,
    h.cancel]
  rfl

theorem Gone.open? (h : L.Gone rs w) :
    ResultSet.open? L.host rs w = (.failed .invalidResultSet, rs, w) := by
  obtain ⟨guards, none, -, new, since, -⟩ := h
  rcases open?_cases guards since with ⟨cursor, -, there, -⟩ | refused
  · rw [none] at there
    cases there
  · exact refused

theorem Gone.nextRow (h : L.Gone rs w) :
    ResultSet.nextRow L.host rs w = (.failed .invalidResultSet, rs, w) := by
  have refused : ResultSet.readRow L.host rs w = (.failed .invalidResultSet, rs, w) := by
    rw [ResultSet.readRow_eq, bind_of_failed h.open?]
  rw [ResultSet.nextRow_failed refused, bind_of_done (attempt_of_done h.release)]
  rfl

/-- How a step for rows leaves a result set that held its cursor. -/
structure Leaves (L : Lease σ) (out : Outcome α) (rs : ResultSet) (w : World σ) : Prop where
  sound : L.Sound rs w
  done : ∀ a, out = .done a → L.Held rs w
  failed : ∀ e, out = .failed e → L.Gone rs w

theorem Held.nextRow {out : Outcome (Option Row)} (h : L.Held rs w)
    (run : ResultSet.nextRow L.host rs w = (out, rs', w')) : L.Leaves out rs' w' := by
  rcases read : ResultSet.readRow L.host rs w with ⟨row | e | _, rs₁, w₁⟩
  · rw [ResultSet.nextRow_done read] at run
    cases run
    have held := (h.readRow read).2 row rfl
    exact ⟨held.failing.sound, fun _ _ => held, nofun⟩
  · rw [ResultSet.nextRow_failed read] at run
    have failing := (h.readRow read).1
    -- However closing the cursor ends, the failure is that of the row.
    rcases released : ResultSet.release L.host rs₁ w₁ with ⟨u | e' | _, rs₂, w₂⟩
    · have gone := failing.release released
      rw [bind_of_done (attempt_of_done released)] at run
      cases run
      exact ⟨gone.sound, nofun, fun _ _ => gone⟩
    · have gone := failing.release released
      rw [bind_of_done (attempt_of_failed released)] at run
      cases run
      exact ⟨gone.sound, nofun, fun _ _ => gone⟩
    · have gone := failing.release released
      rw [bind_of_stuck (attempt_of_stuck released)] at run
      cases run
      exact ⟨gone.sound, nofun, nofun⟩
  · rw [ResultSet.nextRow_stuck read] at run
    cases run
    exact ⟨(h.readRow read).1.sound, nofun, nofun⟩

theorem Held.collect {limit rounds : Nat} {acc : List Row} {out : Outcome (List Row)}
    (h : L.Held rs w)
    (run : iterate (ResultSet.collectRow limit) rounds acc L.host rs w = (out, rs', w')) :
    L.Leaves out rs' w' := by
  induction rounds generalizing rs w acc with
  | zero =>
    cases run
    exact ⟨h.failing.sound, nofun, nofun⟩
  | succ rounds ih =>
    by_cases enough : limit ≠ 0 ∧ limit ≤ acc.length
    · rw [ResultSet.iterate_enough enough] at run
      cases run
      exact ⟨h.failing.sound, fun _ _ => h, nofun⟩
    · rcases next : ResultSet.nextRow L.host rs w with ⟨(_ | row) | e | _, rs₁, w₁⟩
      · rw [ResultSet.iterate_none enough next] at run
        cases run
        have held := (h.nextRow next).done _ rfl
        exact ⟨held.failing.sound, fun _ _ => held, nofun⟩
      · rw [ResultSet.iterate_row enough next] at run
        exact ih ((h.nextRow next).done _ rfl) run
      · rw [ResultSet.iterate_failed enough next] at run
        cases run
        have gone := (h.nextRow next).failed e rfl
        exact ⟨gone.sound, nofun, fun _ _ => gone⟩
      · rw [ResultSet.iterate_stuck enough next] at run
        cases run
        exact ⟨(h.nextRow next).sound, nofun, nofun⟩

theorem Held.close {out : Outcome Unit} (h : L.Held rs w)
    (run : ResultSet.close L.host rs w = (out, rs', w')) :
    L.Gone rs' w' ∨ L.Held rs' w' := by
  have guards := h.1.guards
  obtain ⟨cursor, there, named⟩ := h.1.cursor
  obtain ⟨new, since⟩ := h.since
  rw [ResultSet.close] at run
  rcases open?_cases guards since with ⟨cursor', opened, there', -⟩ | refused
  · obtain rfl : cursor = cursor' := Option.some.inj (there.symm.trans there')
    rw [bind_of_done opened, bind_of_done (get_apply L.host rs w),
      bind_of_done (modify_apply L.host rs w _), bind_of_done (fire_apply L.host _ w _)] at run
    simp only [guards] at run
    rw [named] at run
    exact .inl (h.failing.closeCursor rfl rfl run)
  · rw [bind_of_failed refused] at run
    cases run
    exact .inr h

end Lease

end SqlBinder

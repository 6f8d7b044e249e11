import Mathlib.Data.List.Forall2
import SqlBinder.Proofs.ResultSet.Lease

/-!
How a result set comes to its end. Whatever is done with it, whatever the session answers and
whenever the result set is cancelled, its cursor is closed once at most, and no rows are fetched
behind that, behind a fetch that failed or behind the cancellation. A step for rows that fails
has closed the cursor, and from then on every other fails without a call.
-/
namespace SqlBinder

open Operation

variable {σ α β : Type}

/-! ## Uses -/

/-- What can be done with a result set, alone or as a stream. -/
inductive Use where
  | getRow
  | getRows (limit : Nat)
  /-- One step of the stream. -/
  | next
  | close
  | columns
  | columnNames
  | cursorId
  | intoStream
  | openNested (l : CursorLocator)
  | openLob (l : LobLocator)
  | setFetchSize (size : Nat)
  | cancel

namespace Use

/-- An operation on the result set of a stream. -/
def lift (t : Operation σ ResultSet α) : Operation σ RowStream α := do
  Operation.ofExcept (← RowStream.onResultSet t)

/-- A look at the result set of a stream. -/
def look (f : ResultSet → Signals → Except Error α) : Operation σ RowStream (List Row) := do
  let st ← Operation.get
  let _ ← Operation.ofExcept (f st.resultSet (← Operation.signals))
  return []

/-- The use, with the rows that it hands out. -/
def run : Use → Operation σ RowStream (List Row)
  | .getRow => do return (← lift ResultSet.getRow).toList
  | .getRows limit => lift (ResultSet.getRows limit)
  | .next => do
    match ← RowStream.next with
    | none => return []
    | some (.ok row) => return [row]
    | some (.error e) => Operation.fail e
  | .close => do
    lift ResultSet.close
    return []
  | .columns => look ResultSet.columns
  | .columnNames => look ResultSet.columnNames
  | .cursorId => look ResultSet.cursorId
  | .intoStream => look RowStream.ofResultSet
  | .openNested l => do
    let _ ← lift (ResultSet.openNested l)
    return []
  | .openLob l => do
    let _ ← lift (ResultSet.openLob l)
    return []
  | .setFetchSize size => do
    Operation.modify fun st => { st with resultSet := st.resultSet.setFetchSize size }
    return []
  | .cancel => do
    Operation.fire (← Operation.get).resultSet.guards.own
    return []

/-- The use asks for rows. -/
def Fetches : Use → Prop
  | .getRow | .getRows _ | .next => True
  | _ => False

/-- What comes of the use once the result set has failed. -/
def Refused : Use → Except Error (List Row) → Prop
  | .setFetchSize _, _ | .cancel, _ => True
  | .next, r => r = .ok [] ∨ r = .error .invalidResultSet
  | _, r => r = .error .invalidResultSet

/-- Uses one behind the other, and what came of each. -/
def runAll : List Use → Operation σ RowStream (List (Except Error (List Row)))
  | [] => pure []
  | u :: rest => do
    let r ← u.run.attempt
    return r :: (← runAll rest)

end Use

namespace Lease

variable {L : Lease σ} {rs rs' : ResultSet} {w w' : World σ} {st st' : RowStream}

/-- A result set as it stands between two uses. -/
def Standing (L : Lease σ) (rs : ResultSet) (w : World σ) : Prop := L.Held rs w ∨ L.Gone rs w

theorem Standing.sound (h : L.Standing rs w) : L.Sound rs w :=
  h.elim (·.failing.sound) Gone.sound

/-! ### Once it is closed -/

theorem lift_failed {t : Operation σ ResultSet α} {e : Error} {host : Host σ}
    (run : t host st.resultSet w = (.failed e, rs', w')) :
    Use.lift t host st w = (.failed e, { st with resultSet := rs' }, w') := by
  rw [Use.lift, bind_of_done (RowStream.onResultSet_of_failed st run)]
  rfl

theorem look_failed {f : ResultSet → Signals → Except Error α} {e : Error} {host : Host σ}
    (refused : f st.resultSet w.signals = .error e) :
    Use.look f host st w = (.failed e, st, w) := by
  rw [Use.look, bind_of_done (get_apply host st w), bind_of_done (signals_apply host st w), refused]
  rfl

theorem Gone.cursorOf (h : L.Gone rs w) : rs.cursorOf w.signals = .error .invalidResultSet := by
  have refused := h.open?
  rw [ResultSet.open?_apply] at refused
  cases found : rs.cursorOf w.signals with
  | ok cursor => simp [found] at refused
  | error e =>
    simp only [found, Prod.mk.injEq, Outcome.failed.injEq, and_true] at refused
    rw [refused]

theorem Gone.getRows (h : L.Gone rs w) (patient : 0 < L.host.patience) (limit : Nat) :
    ResultSet.getRows limit L.host rs w =
      (.failed .invalidResultSet, { rs with fetched := true }, w) := by
  have marked : L.Gone { rs with fetched := true } w := h
  have asked : ¬(limit ≠ 0 ∧ limit ≤ ([] : List Row).length) := by
    rw [List.length_nil]
    omega
  obtain ⟨rounds, same⟩ : ∃ n, L.host.patience = n + 1 := ⟨L.host.patience - 1, by omega⟩
  rw [ResultSet.getRows_eq, ResultSet.markFetched, bind_of_done (modify_apply L.host rs w _), loop,
    same]
  exact ResultSet.iterate_failed asked marked.nextRow

/-- A stream whose result set is closed has ended, or it fails once more and has ended then. -/
theorem Gone.next (h : L.Gone st.resultSet w) :
    RowStream.next L.host st w =
      if st.ended then (.done none, st, w)
      else (.done (some (.error .invalidResultSet)), { st with ended := true }, w) := by
  rw [RowStream.next, bind_of_done (get_apply L.host st w)]
  cases ended : st.ended with
  | true => rfl
  | false =>
    simp only [Bool.false_eq_true, if_false]
    rw [bind_of_done (RowStream.onResultSet_of_failed st h.nextRow)]
    rfl

/-- A result set that is closed refuses every use without a call. -/
theorem Gone.use (h : L.Gone st.resultSet w) (patient : 0 < L.host.patience) (u : Use) :
    ∃ r st', u.run.attempt L.host st w = (.done r, st', w) ∧ u.Refused r ∧
      L.Gone st'.resultSet w := by
  have marked : L.Gone { st.resultSet with fetched := true } w := h
  have refuse : ∀ {rs : ResultSet}, L.Gone rs w →
      u.run L.host st w = (.failed .invalidResultSet, { st with resultSet := rs }, w) →
      u.Refused (.error .invalidResultSet) →
      ∃ r st', u.run.attempt L.host st w = (.done r, st', w) ∧ u.Refused r ∧
        L.Gone st'.resultSet w :=
    fun gone run refused => ⟨_, _, attempt_of_failed run, refused, gone⟩
  cases u with
  | getRow => exact refuse marked (bind_of_failed (lift_failed marked.nextRow) _) rfl
  | getRows limit => exact refuse marked (lift_failed (h.getRows patient limit)) rfl
  | next =>
    have run := h.next
    cases ended : st.ended with
    | true =>
      rw [ended, if_pos rfl] at run
      exact ⟨.ok [], st, attempt_of_done (bind_of_done run _), .inl rfl, h⟩
    | false =>
      simp only [ended, Bool.false_eq_true, if_false] at run
      exact ⟨.error .invalidResultSet, _, attempt_of_failed (bind_of_done run _), .inr rfl, h⟩
  | close => exact refuse h (bind_of_failed (lift_failed (bind_of_failed h.open? _)) _) rfl
  | columns => exact refuse h (look_failed (by rw [ResultSet.columns, h.cursorOf]; rfl)) rfl
  | columnNames => exact refuse h (look_failed (by rw [ResultSet.columnNames, h.cursorOf]; rfl)) rfl
  | cursorId => exact refuse h (look_failed (by rw [ResultSet.cursorId, h.cursorOf]; rfl)) rfl
  | intoStream => exact refuse h (look_failed (by rw [RowStream.ofResultSet, h.cursorOf]; rfl)) rfl
  | openNested l => exact refuse h (bind_of_failed (lift_failed (bind_of_failed h.open? _)) _) rfl
  | openLob l => exact refuse h (bind_of_failed (lift_failed (bind_of_failed h.open? _)) _) rfl
  | setFetchSize size => exact ⟨.ok [], _, rfl, trivial, h⟩
  | cancel =>
    have run : Use.cancel.run L.host st w = (.done [], st, w.fire st.resultSet.guards.own) := rfl
    rw [h.cancel] at run
    exact ⟨.ok [], st, attempt_of_done run, trivial, h⟩

theorem Gone.runAll (h : L.Gone st.resultSet w) (patient : 0 < L.host.patience) (us : List Use) :
    ∃ results st', Use.runAll us L.host st w = (.done results, st', w) ∧
      List.Forall₂ Use.Refused us results ∧ L.Gone st'.resultSet w := by
  induction us generalizing st with
  | nil => exact ⟨[], st, rfl, .nil, h⟩
  | cons u rest ih =>
    obtain ⟨r, st₁, run, refused, gone⟩ := h.use patient u
    obtain ⟨results, st', rest', refusals, gone'⟩ := ih gone
    refine ⟨r :: results, st', ?_, .cons refused refusals, gone'⟩
    rw [Use.runAll, bind_of_done run, bind_of_done rest']
    rfl

/-! ### While it is open -/

/-- How a use leaves a result set that held its cursor. If it asked for rows and failed, the
cursor is closed. -/
structure Settles (L : Lease σ) (asks : Prop) (out : Outcome α) (rs : ResultSet) (w : World σ) :
    Prop where
  sound : L.Sound rs w
  done : ∀ a, out = .done a → L.Standing rs w
  failed : ∀ e, out = .failed e → L.Standing rs w ∧ (asks → L.Gone rs w)

/-- Begun there, the operation settles the result set. -/
def Keeps (L : Lease σ) (asks : Prop) (t : Operation σ RowStream α) (st : RowStream)
    (w : World σ) : Prop :=
  ∀ out st' w', t L.host st w = (out, st', w') → L.Settles asks out st'.resultSet w'

variable {asks : Prop}

theorem Held.settles {out : Outcome α} (h : L.Held rs w) (unfailed : asks → ∀ e, out ≠ .failed e) :
    L.Settles asks out rs w :=
  ⟨h.failing.sound, fun _ _ => .inl h, fun e failed =>
    ⟨.inl h, fun asked => absurd failed (unfailed asked e)⟩⟩

theorem Gone.settles {out : Outcome α} (h : L.Gone rs w) : L.Settles asks out rs w :=
  ⟨h.sound, fun _ _ => .inr h, fun _ _ => ⟨.inr h, fun _ => h⟩⟩

theorem Leaves.settles {out : Outcome α} (h : L.Leaves out rs w) : L.Settles asks out rs w :=
  ⟨h.sound, fun a done => .inl (h.done a done), fun e failed =>
    ⟨.inr (h.failed e failed), fun _ => h.failed e failed⟩⟩

/-- What is only handed on settles the result set alike. -/
theorem Keeps.map {t : Operation σ RowStream α} (h : L.Keeps asks t st w) (f : α → β) :
    L.Keeps asks (t >>= fun a => pure (f a)) st w := by
  intro out st' w' run
  rcases made : t L.host st w with ⟨a | e | _, st₁, w₁⟩
  · rw [bind_of_done made] at run
    cases run
    have settled := h _ _ _ made
    exact ⟨settled.sound, fun _ _ => settled.done a rfl, nofun⟩
  · rw [bind_of_failed made] at run
    cases run
    have settled := h _ _ _ made
    exact ⟨settled.sound, nofun, fun _ _ => settled.failed e rfl⟩
  · rw [bind_of_stuck made] at run
    cases run
    exact ⟨(h _ _ _ made).sound, nofun, nofun⟩

theorem Sound.handle (h : L.Sound rs w) (guards : rs'.guards = L.guards) : L.Sound rs' w :=
  ⟨guards, h.2⟩

/-- What settles the result set on its own settles it in a stream. -/
theorem Keeps.lift {t : Operation σ ResultSet α} (guards : st.resultSet.guards = L.guards)
    (h : ∀ out rs' w', t L.host st.resultSet w = (out, rs', w') → L.Settles asks out rs' w') :
    L.Keeps asks (Use.lift t) st w := by
  intro out st' w' run
  rcases made : t L.host st.resultSet w with ⟨a | e | _, rs₁, w₁⟩
  · rw [Use.lift, bind_of_done (RowStream.onResultSet_of_done st made)] at run
    cases run
    exact h _ _ _ made
  · rw [lift_failed made] at run
    cases run
    exact h _ _ _ made
  · rw [Use.lift, bind_of_stuck (RowStream.onResultSet_of_stuck st made)] at run
    cases run
    exact ⟨(h _ _ _ made).sound.handle guards, nofun, nofun⟩

theorem Held.look {f : ResultSet → Signals → Except Error α} (h : L.Held st.resultSet w)
    (unasked : ¬asks) : L.Keeps asks (Use.look f) st w := by
  intro out st' w' run
  rw [Use.look, bind_of_done (get_apply L.host st w),
    bind_of_done (signals_apply L.host st w)] at run
  cases found : f st.resultSet w.signals with
  | ok a =>
    rw [found] at run
    cases run
    exact h.settles fun asked => absurd asked unasked
  | error e =>
    rw [found] at run
    cases run
    exact h.settles fun asked => absurd asked unasked

/-- A signal of somebody else's does not matter. -/
theorem Held.fresh (h : L.Held rs w) : L.Held rs { w with signals := w.signals.fresh.2 } := by
  obtain ⟨holds, new, since, unfinished⟩ := h
  exact ⟨holds, new, since.signals (fun _ fired => fired) since.connection, unfinished⟩

theorem Held.cancel (h : L.Held rs w) : L.Held rs (w.fire L.guards.own) := by
  obtain ⟨holds, new, since, unfinished⟩ := h
  exact ⟨holds, new, since.cancel, unfinished⟩

/-- What is opened out of a row is a handle of its own. -/
theorem Held.opening {t : OpenCursor → Operation σ ResultSet α}
    (silent : ∀ cursor rs w, ∃ out, t cursor L.host rs w = (out, rs, w) ∨
      t cursor L.host rs w = (out, rs, { w with signals := w.signals.fresh.2 }))
    (h : L.Held st.resultSet w) (unasked : ¬asks) :
    L.Keeps asks (Use.lift (ResultSet.open? >>= t)) st w := by
  have holds := h.1
  obtain ⟨new, since⟩ := h.since
  apply Keeps.lift holds.guards
  intro out rs' w' run
  rcases open?_cases holds.guards since with ⟨cursor, opened, -, -⟩ | refused
  · rw [bind_of_done opened] at run
    obtain ⟨out', quiet | fresh⟩ := silent cursor st.resultSet w
    · rw [quiet] at run
      cases run
      exact h.settles fun asked => absurd asked unasked
    · rw [fresh] at run
      cases run
      exact h.fresh.settles fun asked => absurd asked unasked
  · rw [bind_of_failed refused] at run
    cases run
    exact h.settles fun asked => absurd asked unasked

/-- Behind the last row the stream closes the cursor, as it does behind a failure. -/
theorem Held.step {out : Outcome (Option (Except Error Row))} (h : L.Held st.resultSet w)
    (run : RowStream.next L.host st w = (out, st', w')) :
    L.Sound st'.resultSet w' ∧ (∀ e, out ≠ .failed e) ∧
      (∀ r, out = .done r → L.Standing st'.resultSet w') ∧
      ∀ e, out = .done (some (.error e)) → L.Gone st'.resultSet w' := by
  rw [RowStream.next, bind_of_done (get_apply L.host st w)] at run
  split at run
  · cases run
    exact ⟨h.failing.sound, nofun, fun _ _ => .inl h, nofun⟩
  rcases next : ResultSet.nextRow L.host st.resultSet w with ⟨(_ | row) | e | _, rs₁, w₁⟩
  · rw [bind_of_done (RowStream.onResultSet_of_done st next)] at run
    have held := (h.nextRow next).done _ rfl
    simp only [RowStream.finish] at run
    rw [bind_of_done (modify_apply L.host _ w₁ _)] at run
    rcases released : ResultSet.release L.host rs₁ w₁ with ⟨u | e | _, rs₂, w₂⟩
    · have gone := held.failing.release released
      rw [bind_of_done (RowStream.onResultSet_of_done ⟨rs₁, true⟩ released)] at run
      cases run
      exact ⟨gone.sound, nofun, fun _ _ => .inr gone, fun _ _ => gone⟩
    · have gone := held.failing.release released
      rw [bind_of_done (RowStream.onResultSet_of_failed ⟨rs₁, true⟩ released)] at run
      cases run
      exact ⟨gone.sound, nofun, fun _ _ => .inr gone, fun _ _ => gone⟩
    · have gone := held.failing.release released
      rw [bind_of_stuck (RowStream.onResultSet_of_stuck ⟨rs₁, true⟩ released)] at run
      cases run
      exact ⟨gone.sound.handle held.1.guards, nofun, nofun, nofun⟩
  · rw [bind_of_done (RowStream.onResultSet_of_done st next)] at run
    cases run
    have held := (h.nextRow next).done _ rfl
    exact ⟨held.failing.sound, nofun, fun _ _ => .inl held, nofun⟩
  · rw [bind_of_done (RowStream.onResultSet_of_failed st next)] at run
    cases run
    have gone := (h.nextRow next).failed e rfl
    exact ⟨gone.sound, nofun, fun _ _ => .inr gone, fun _ _ => gone⟩
  · rw [bind_of_stuck (RowStream.onResultSet_of_stuck st next)] at run
    cases run
    exact ⟨(h.nextRow next).sound.handle h.1.guards, nofun, nofun, nofun⟩

theorem Held.next (h : L.Held st.resultSet w) : L.Keeps asks Use.next.run st w := by
  intro out st' w' run
  rw [Use.run] at run
  rcases made : RowStream.next L.host st w with ⟨(_ | row | e) | e | _, st₁, w₁⟩
  · obtain ⟨sound, -, standing, -⟩ := h.step made
    rw [bind_of_done made] at run
    cases run
    exact ⟨sound, fun _ _ => standing _ rfl, nofun⟩
  · obtain ⟨sound, -, -, gone⟩ := h.step made
    rw [bind_of_done made] at run
    cases run
    exact (gone _ rfl).settles
  · obtain ⟨sound, -, standing, -⟩ := h.step made
    rw [bind_of_done made] at run
    cases run
    exact ⟨sound, fun _ _ => standing _ rfl, nofun⟩
  · exact absurd rfl ((h.step made).2.1 e)
  · obtain ⟨sound, -⟩ := h.step made
    rw [bind_of_stuck made] at run
    cases run
    exact ⟨sound, nofun, nofun⟩

theorem Held.use (h : L.Held st.resultSet w) (u : Use) : L.Keeps u.Fetches u.run st w := by
  have holds := h.1
  have marked : L.Held { st.resultSet with fetched := true } w :=
    ⟨⟨holds.guards, holds.cursor⟩, h.2⟩
  cases u with
  | getRow =>
    exact (Keeps.lift holds.guards fun out rs' w' run => (marked.nextRow run).settles).map
      Option.toList
  | getRows limit =>
    exact Keeps.lift holds.guards fun out rs' w' run => (marked.collect run).settles
  | next => exact h.next
  | close =>
    apply (Keeps.lift holds.guards fun out rs' w' run => ?_).map fun _ => []
    rcases h.close run with gone | held
    · exact gone.settles
    · exact held.settles fun asked => asked.elim
  | columns => exact h.look not_false
  | columnNames => exact h.look not_false
  | cursorId => exact h.look not_false
  | intoStream => exact h.look not_false
  | openNested l =>
    apply Keeps.map (h.opening (fun _ rs w => ?_) not_false) fun _ => []
    exact ResultSet.create_silent _ _ _ _ _ _ _ rs w
  | openLob l =>
    exact Keeps.map (h.opening (fun _ rs w => ⟨_, .inr rfl⟩) not_false) fun _ => []
  | setFetchSize size =>
    intro out st' w' run
    cases run
    have sized : L.Held (st.resultSet.setFetchSize size) w := ⟨⟨holds.guards, holds.cursor⟩, h.2⟩
    exact sized.settles fun asked => asked.elim
  | cancel =>
    intro out st' w' run
    cases run
    have cancelled := h.cancel
    rw [← holds.guards] at cancelled
    exact cancelled.settles fun asked => asked.elim

/-! ### Uses one behind the other -/

/-- A use leaves the result set with its cursor or closed. -/
theorem Standing.use {u : Use} {out : Outcome (Except Error (List Row))}
    (h : L.Standing st.resultSet w) (patient : 0 < L.host.patience)
    (run : u.run.attempt L.host st w = (out, st', w')) :
    L.Sound st'.resultSet w' ∧ ∀ r, out = .done r → L.Standing st'.resultSet w' := by
  rcases h with held | gone
  · rcases made : u.run L.host st w with ⟨rows | e | _, st₁, w₁⟩
    · rw [attempt_of_done made] at run
      cases run
      have settled := held.use u _ _ _ made
      exact ⟨settled.sound, fun _ _ => settled.done rows rfl⟩
    · rw [attempt_of_failed made] at run
      cases run
      have settled := held.use u _ _ _ made
      exact ⟨settled.sound, fun _ _ => (settled.failed e rfl).1⟩
    · rw [attempt_of_stuck made] at run
      cases run
      exact ⟨(held.use u _ _ _ made).sound, nofun⟩
  · obtain ⟨r, st₁, made, -, gone'⟩ := gone.use patient u
    rw [made] at run
    cases run
    exact ⟨gone'.sound, fun _ _ => .inr gone'⟩

theorem Standing.runAll {us : List Use} {out : Outcome (List (Except Error (List Row)))}
    (h : L.Standing st.resultSet w) (patient : 0 < L.host.patience)
    (run : Use.runAll us L.host st w = (out, st', w')) :
    L.Sound st'.resultSet w' ∧ ∀ results, out = .done results → L.Standing st'.resultSet w' := by
  induction us generalizing st w out with
  | nil =>
    cases run
    exact ⟨h.sound, fun _ _ => h⟩
  | cons u rest ih =>
    rw [Use.runAll] at run
    rcases first : u.run.attempt L.host st w with ⟨r | e | _, st₁, w₁⟩
    · have standing := (h.use patient first).2 r rfl
      rw [bind_of_done first] at run
      rcases behind : Use.runAll rest L.host st₁ w₁ with ⟨results | e | _, st₂, w₂⟩
      · rw [bind_of_done behind] at run
        cases run
        obtain ⟨sound, standing'⟩ := ih standing behind
        exact ⟨sound, fun _ _ => standing' results rfl⟩
      · rw [bind_of_failed behind] at run
        cases run
        exact ⟨(ih standing behind).1, nofun⟩
      · rw [bind_of_stuck behind] at run
        cases run
        exact ⟨(ih standing behind).1, nofun⟩
    · exact (attempt_failed first).elim
    · rw [bind_of_stuck first] at run
      cases run
      exact ⟨(h.use patient first).1, nofun⟩

/-- A use for rows that fails has closed the cursor. -/
theorem Standing.failed {u : Use} {e : Error} (h : L.Standing st.resultSet w)
    (patient : 0 < L.host.patience) (asks : u.Fetches)
    (run : u.run L.host st w = (.failed e, st', w')) : L.Gone st'.resultSet w' := by
  rcases h with held | gone
  · exact ((held.use u _ _ _ run).failed e rfl).2 asks
  · obtain ⟨r, st₁, made, -, gone'⟩ := gone.use patient u
    rw [attempt_of_failed run] at made
    cases made
    exact gone'

/-- A result set that is closed stays closed. -/
theorem Standing.isClosed {us : List Use} {out : Outcome (List (Except Error (List Row)))}
    (h : L.Standing st.resultSet w) (patient : 0 < L.host.patience)
    (run : Use.runAll us L.host st w = (out, st', w'))
    (closed : st.resultSet.isClosed w.signals = true) :
    st'.resultSet.isClosed w'.signals = true := by
  rcases h with held | gone
  · -- The cursor is still held, so the signal has fired; and what has fired stays fired.
    have guards := held.1.guards
    obtain ⟨cursor, there, named⟩ := held.1.cursor
    obtain ⟨new, since⟩ := held.since
    have fired : w.signals.isFired L.guards.own = true := by
      simpa [ResultSet.isClosed, there, guards, since.connection] using closed
    let L' : Lease σ := { L with start := w }
    have holds : L'.Holds st.resultSet := ⟨guards, cursor, there, named⟩
    have anew : L'.Held st.resultSet w := holds.held since.connection since.armed
    obtain ⟨⟨guards', new', since', -⟩, -⟩ := Standing.runAll (L := L') (.inl anew) patient run
    have fired' := since'.course.isFired fired
    simp [ResultSet.isClosed, guards', L', fired']
  · obtain ⟨results, st₁, made, -, gone'⟩ := gone.runAll patient us
    rw [made] at run
    cases run
    simp [ResultSet.isClosed, gone'.2.1]

end Lease

/-- A result set with a cursor and no rows. -/
def unfetched : ResultSet := ⟨some ⟨7, ⟨[]⟩, [], true, 0⟩, ⟨⟨1⟩, ⟨0⟩⟩, {}, 1, false⟩

end SqlBinder

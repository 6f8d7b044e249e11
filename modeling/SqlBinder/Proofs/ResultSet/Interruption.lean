import SqlBinder.Proofs.Lob.Interruption
import SqlBinder.Proofs.ResultSet.Calls

/-!
Result sets that are cancelled while rows are asked for. The signals are looked at when a row
begins, when a round trip begins, and right behind the answer to a fetch; content that is read in
place is read without another look.

Reading content in place is no guarded round trip, so a row that was begun is decoded to its end.
The look at the next row is apart from the round trips, and it is the one by which rows in the
buffer are kept back as well.
-/
namespace SqlBinder

open Operation Interruption

variable {σ η α : Type} {i : Interruption σ} {g : Guards}

/-! ## Content read in place -/

section Decoding

variable {I : η → Prop} {h : η} (kept : I h)

include kept

theorem readWhole_deaf (l : LobLocator) : i.Deaf I (readWhole i.guards i.closed l) h := by
  refine .bind_deaf (.loop (fun read h kept => .bind_deaf (.guarded id kept)
    fun piece h kept => .ite (.pure _ kept) (.pure _ kept)) _ kept) fun data h kept => ?_
  exact .ite (.bind_deaf (.callFreely trivial kept) fun _ h kept => .pure _ kept) (.pure _ kept)

theorem decodeColumn_deaf (o : ConvertOptions) (column : Column) (wire : WireValue) :
    i.Deaf I (decodeColumn i.guards i.closed o column wire) h := by
  refine .bind_deaf (.ofFallible _ kept) fun v h kept => ?_
  cases v with
  | lob l => exact .ite (readWhole_deaf kept l) (.pure _ kept)
  | _ => exact .pure _ kept

theorem decodeColumns_deaf (o : ConvertOptions) (cells : List (Column × WireValue)) :
    i.Deaf I (decodeColumns i.guards i.closed o cells) h := by
  induction cells generalizing h with
  | nil => exact .pure _ kept
  | cons cell rest ih =>
    exact .bind_deaf (decodeColumn_deaf kept o cell.1 cell.2) fun _ h kept =>
      .bind_deaf (ih kept) fun _ h kept => .pure _ kept

theorem decodeRow_deaf (columns : Columns) (o : ConvertOptions) (wires : List WireValue) :
    i.Deaf I (decodeRow i.guards i.closed columns o wires) h :=
  .ite (.fail _ kept) (decodeColumns_deaf kept o _)

end Decoding

/-! ## Rows -/

/-- A call for more rows. -/
def Call.FetchesRows : Call → Prop
  | .fetch _ _ => True
  | _ => False

theorem Call.Reads.not_fetchesRows {l : LobLocator} {c : Call} (h : Call.Reads l c) :
    ¬ c.FetchesRows := by
  cases h <;> exact fun fetches => fetches

namespace ResultSet

variable {rs : ResultSet} {id : Option Nat} {w : World (σ × Nat)}

/-- Result sets with these guards and this cursor, if any. -/
def Holds (g : Guards) (id : Option Nat) (rs : ResultSet) : Prop :=
  rs.guards = g ∧ rs.cursor.map (·.id) = id

section Row

variable (closed : i.closed = .invalidResultSet) (held : rs.Holds i.guards id)

include closed held

theorem open?_look : i.OnlyLooks open? rs
    (match rs.cursor with
      | some c => .done c
      | none => .failed .invalidResultSet) := by
  intro host w
  rw [open?_apply, cursorOf, held.1, closed, Guards.check]
  cases firstFired w.signals (i.guards.stops .invalidResultSet) with
  | some e => rfl
  | none => cases rs.cursor <;> rfl

omit closed in
/-- The cursor stays the same one while its rows change. -/
theorem Holds.move {f : OpenCursor → OpenCursor} (same : ∀ c, (f c).id = c.id) :
    Holds i.guards id { rs with cursor := rs.cursor.map f } := by
  refine ⟨held.1, ?_⟩
  rw [← held.2]
  cases rs.cursor with
  | none => rfl
  | some c => exact congrArg some (same c)

theorem ownRow_deaf (columns : Columns) (wires : List WireValue) :
    i.Deaf (Holds i.guards id)
      (decodeRow rs.guards .invalidResultSet columns rs.convert wires) rs := by
  rw [held.1, ← closed]
  exact decodeRow_deaf held columns rs.convert wires

theorem takeRow_interruptible :
    i.Interruptible (Holds i.guards id) (fun _ c => c = []) takeRow rs := by
  refine .look_deaf (open?_look closed held) held fun cursor _ => ?_
  cases cursor.buffer with
  | nil => exact .pure _ held
  | cons wires rest =>
    have moved := held.move (f := fun c => { c with buffer := rest }) fun _ => rfl
    exact .modify_bind (.get_bind (.bind_deaf (ownRow_deaf closed moved _ _)
      fun _ rs held => .pure _ held))

omit closed held in
theorem takeRow_unfetching :
    Calls (Of g) (fun c => ¬ c.FetchesRows) (takeRow : Operation σ ResultSet (Option Row)) :=
  takeRow_calls (of_stays g) fun _ _ => Call.Reads.not_fetchesRows

/-- A row behind a round trip for more. -/
theorem fetch_takeRow_interruptible :
    i.Interruptible (Holds i.guards id)
      (fun w c => c = [] ∨ OnAnswer Call.FetchesRows w c) (fetch >>= fun _ => takeRow) rs := by
  simp only [fetch, bind_assoc]
  refine .get_bind (.look_bind (open?_look closed held) held fun cursor _ => ?_)
  rw [held.1, ← closed]
  refine .answered (.guarded (fun closes => closes) held) (.guarded trivial)
    (fun response rs held => ?_) fun response rs => ?_
  · refine (Interruptible.look_bind (open?_look closed held) held fun _ _ => .modify_bind
      (takeRow_interruptible closed (by exact held.move fun _ => rfl))).of_looks fun _ _ _ _ => ?_
    simp
  · exact ⟨Of rs.guards, rfl, .bind open?_calls fun _ =>
      .bind (moveCursor_calls (of_stays rs.guards) _) fun _ => takeRow_unfetching⟩

/-- The next row looks at the signals first, and right behind a round trip. -/
theorem readRow_interruptible :
    i.Interruptible (Holds i.guards id)
      (fun w c => c = [] ∨ OnAnswer Call.FetchesRows w c) readRow rs := by
  rw [readRow_eq]
  refine (Interruptible.look_bind (open?_look closed held) held fun cursor _ =>
    .ite (fetch_takeRow_interruptible closed held)
      ((takeRow_interruptible closed held).of_looks fun w c _ first => ?_)).of_looks
    fun _ _ _ _ => by simp
  obtain ⟨more, made⟩ := first
  obtain ⟨-, -, new, added, unfetching⟩ := takeRow_unfetching i.calm rs w (Eq.refl rs.guards)
  obtain rfl : c ++ more = new := List.append_cancel_left (made.symm.trans added)
  refine ⟨fun here => here.elim (fun none => none) fun ⟨x, last, fetches, _⟩ => ?_, .inl⟩
  exact absurd fetches (unfetching x (List.mem_append_left _ (List.mem_of_getLast? last)))

end Row

/-! ## Several rows -/

section Gathering

variable {limit rounds : Nat} {rows : List Row}

/-- One row more unless there are enough, without what is done behind a failure. -/
def gatherRow (limit : Nat) (rows : List Row) :
    Operation σ ResultSet (List Row ⊕ List Row) := do
  if limit ≠ 0 ∧ limit ≤ rows.length then pure (.inr rows)
  else
    match ← readRow with
    | some row => pure (.inl (rows ++ [row]))
    | none => pure (.inr rows)

theorem gather_enough (enough : limit ≠ 0 ∧ limit ≤ rows.length) :
    (iterate (gatherRow limit) (rounds + 1) rows : Operation σ ResultSet (List Row)) =
      pure rows := by
  rw [iterate, gatherRow, if_pos enough]
  rfl

theorem gather_more (rounds : Nat) (more : ¬(limit ≠ 0 ∧ limit ≤ rows.length)) :
    (iterate (gatherRow limit) (rounds + 1) rows : Operation σ ResultSet (List Row)) = (do
      match ← readRow with
      | some row => iterate (gatherRow limit) rounds (rows ++ [row])
      | none => pure rows) := by
  rw [iterate, gatherRow, if_neg more, bind_assoc]
  congr 1
  funext row
  cases row <;> rfl

theorem gather_calls (limit rounds : Nat) (rows : List Row) : Calls (Of g) Call.MovesData
    (iterate (gatherRow limit) rounds rows : Operation σ ResultSet (List Row)) := by
  refine .iterate (fun rows => .ite (.pure _) ?_) rounds rows
  refine .bind (readRow_calls (of_stays g)) fun row => ?_
  cases row <;> exact .pure _

/-- Some of the rows asked for are there, for which the calls `made` were made, and another one
begins. -/
def OnRow (i : Interruption σ) (limit rounds : Nat) (rows : List Row) (rs : ResultSet)
    (w : World (σ × Nat)) (made : List Exchange) : Prop :=
  ∃ r, rows.length < r ∧ (limit = 0 ∨ r < limit) ∧ ∃ got rs₁ w₁,
    iterate (gatherRow r) rounds rows i.calm rs w = (.done got, rs₁, w₁) ∧ got.length = r ∧
      w₁.exchanges = w.exchanges ++ made

/-- Where rows are gathered the signals are looked at. -/
def GatherLooks (i : Interruption σ) (limit rounds : Nat) (rows : List Row) (rs : ResultSet)
    (w : World (σ × Nat)) (made : List Exchange) : Prop :=
  (0 < rounds ∧ ¬(limit ≠ 0 ∧ limit ≤ rows.length) ∧ made = []) ∨
    OnAnswer Call.FetchesRows w made ∨ OnRow i limit rounds rows rs w made

/-- Behind a row that was read the next one is in turn. -/
theorem onRow_succ {row : Row} {rs₁ : ResultSet} {w₁ : World (σ × Nat)} {made c : List Exchange}
    (run : readRow i.calm rs w = (.done (some row), rs₁, w₁))
    (added : w₁.exchanges = w.exchanges ++ made) :
    OnRow i limit (rounds + 1) rows rs w c ↔ ∃ c', c = made ++ c' ∧
      ((0 < rounds ∧ ¬(limit ≠ 0 ∧ limit ≤ (rows ++ [row]).length) ∧ c' = []) ∨
        OnRow i limit rounds (rows ++ [row]) rs₁ w₁ c') := by
  have step : ∀ {r}, rows.length < r →
      iterate (gatherRow r) (rounds + 1) rows i.calm rs w =
        iterate (gatherRow r) rounds (rows ++ [row]) i.calm rs₁ w₁ := fun {r} lt => by
    rw [gather_more rounds (by omega), bind_of_done run]
  constructor
  · rintro ⟨r, lt, below, got, rs₂, w₂, gathered, size, made₂⟩
    rw [step lt] at gathered
    obtain ⟨-, -, new, added₂, -⟩ :=
      gather_calls r rounds (rows ++ [row]) i.calm rs₁ w₁ (Eq.refl rs₁.guards)
    rw [gathered] at added₂
    have split : c = made ++ new := by
      rw [added, List.append_assoc] at added₂
      exact List.append_cancel_left (made₂.symm.trans added₂)
    refine ⟨new, split, ?_⟩
    by_cases last : r = (rows ++ [row]).length
    · cases rounds with
      | zero => cases gathered
      | succ rounds =>
        rw [gather_enough ⟨by omega, by omega⟩] at gathered
        cases gathered
        have none : new = [] := by simpa using added₂
        exact .inl ⟨Nat.succ_pos _, by omega, none⟩
    · rw [List.length_append, List.length_singleton] at last
      exact .inr ⟨r, by simp only [List.length_append, List.length_singleton]; omega, below, got,
        rs₂, w₂, gathered, size, added₂⟩
  · rintro ⟨c', rfl, ⟨more, under, rfl⟩ | ⟨r, lt, below, got, rs₂, w₂, gathered, size, made₂⟩⟩
    · cases rounds with
      | zero => omega
      | succ rounds =>
        refine ⟨rows.length + 1, by omega, ?_, rows ++ [row], rs₁, w₁, ?_, by simp, by simpa⟩
        · rw [List.length_append, List.length_singleton] at under
          omega
        · rw [step (by omega), gather_enough ⟨by omega, by simp⟩]
          rfl
    · rw [List.length_append, List.length_singleton] at lt
      exact ⟨r, by omega, below, got, rs₂, w₂, by rw [step (by omega), gathered], size,
        by rw [made₂, added, List.append_assoc]⟩

theorem not_onRow_failed (limit rounds : Nat) (rows : List Row) (made : List Exchange)
    (failed : ∀ row, (readRow i.calm rs w).1 ≠ .done row) :
    ¬ OnRow i limit (rounds + 1) rows rs w made := by
  rintro ⟨r, lt, -, got, rs₁, w₁, gathered, -⟩
  rw [gather_more rounds (by omega)] at gathered
  obtain ⟨row, rs₂, w₂, run, -⟩ := bind_done gathered
  exact failed row (by rw [run])

theorem not_onRow_none (limit rounds : Nat) (rows : List Row) (made : List Exchange)
    {rs₁ : ResultSet} {w₁ : World (σ × Nat)}
    (run : readRow i.calm rs w = (.done none, rs₁, w₁)) :
    ¬ OnRow i limit (rounds + 1) rows rs w made := by
  rintro ⟨r, lt, -, got, rs₂, w₂, gathered, size, -⟩
  rw [gather_more rounds (by omega), bind_of_done run] at gathered
  cases gathered
  omega

/-- The looks at a row and behind it. -/
theorem gatherLooks_some {row : Row} {rs₁ : ResultSet} {w₁ : World (σ × Nat)}
    {made made' c : List Exchange} (more : ¬(limit ≠ 0 ∧ limit ≤ rows.length))
    (run : readRow i.calm rs w = (.done (some row), rs₁, w₁))
    (added : w₁.exchanges = w.exchanges ++ made) (first : c <+: made ++ made') :
    GatherLooks i limit (rounds + 1) rows rs w c ↔
      (c <+: made ∧ (c = [] ∨ OnAnswer Call.FetchesRows w c)) ∨
        ∃ c', c = made ++ c' ∧ GatherLooks i limit rounds (rows ++ [row]) rs₁ w₁ c' := by
  constructor
  · rintro (⟨-, -, rfl⟩ | answered | onRow)
    · exact .inl ⟨List.nil_prefix, .inl rfl⟩
    · rcases List.prefix_or_prefix_of_prefix first (List.prefix_append made made')
        with inside | ⟨c', rfl⟩
      · exact .inl ⟨inside, .inr answered⟩
      · by_cases none : c' = []
        · exact .inl ⟨by simp [none], .inr answered⟩
        · exact .inr ⟨c', rfl, .inr (.inl ((onAnswer_append none).1 answered))⟩
    · obtain ⟨c', rfl, begins | later⟩ := (onRow_succ run added).1 onRow
      · exact .inr ⟨c', rfl, .inl begins⟩
      · exact .inr ⟨c', rfl, .inr (.inr later)⟩
  · rintro (⟨-, rfl | answered⟩ | ⟨c', rfl, begins | answered | later⟩)
    · exact .inl ⟨Nat.succ_pos _, more, rfl⟩
    · exact .inr (.inl answered)
    · exact .inr (.inr ((onRow_succ run added).2 ⟨c', rfl, .inl begins⟩))
    · have some : c' ≠ [] := fun none => not_onAnswer_nil (none ▸ answered)
      exact .inr (.inl ((onAnswer_append some).2 answered))
    · exact .inr (.inr ((onRow_succ run added).2 ⟨c', rfl, .inr later⟩))

theorem gather_interruptible (closed : i.closed = .invalidResultSet)
    (held : rs.Holds i.guards id) :
    i.Interruptible (Holds i.guards id) (GatherLooks i limit rounds rows rs)
      (iterate (gatherRow limit) rounds rows) rs := by
  induction rounds generalizing rows rs with
  | zero =>
    refine .of_silent (fun _ _ => rfl) held fun w here => ?_
    rcases here with ⟨lt, -⟩ | here | ⟨r, -, -, got, rs₁, w₁, gathered, -⟩
    · omega
    · exact not_onAnswer_nil here
    · cases gathered
  | succ rounds ih =>
    by_cases enough : limit ≠ 0 ∧ limit ≤ rows.length
    · rw [gather_enough enough]
      refine .of_silent (fun _ _ => rfl) held fun w here => ?_
      rcases here with ⟨-, more, -⟩ | here | ⟨r, lt, below, -⟩
      · exact more enough
      · exact not_onAnswer_nil here
      · omega
    · rw [gather_more rounds enough]
      refine .bind (fun row rs₁ => match row with
        | some row => GatherLooks i limit rounds (rows ++ [row]) rs₁
        | none => fun _ _ => False) (readRow_interruptible closed held)
        (fun {w row rs₁ w₁} _ _ held => ?_)
        ⟨fun {w row rs₁ w₁ made made'} _ run added added' c first => ?_,
          fun {w made} _ ended _ c _ => ?_⟩
      · cases row with
        | some row => exact ih held
        | none => exact .pure rows held
      · cases row with
        | some row => exact gatherLooks_some enough run added first
        | none =>
          have none : made' = [] := by simpa using added'
          rw [none, List.append_nil] at first
          have unreached := not_onRow_none limit rounds rows c run
          simp [GatherLooks, unreached, enough, first]
      · have unreached := not_onRow_failed limit rounds rows c ended
        simp [GatherLooks, unreached, enough]

end Gathering

end ResultSet

end SqlBinder

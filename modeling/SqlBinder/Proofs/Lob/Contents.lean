import SqlBinder.Proofs.Lob.Storing
import SqlBinder.ResultSet

/-!
Reading content that does not change. A loop that collects pieces one behind the other until it
meets an empty one comes to the whole content, whatever its piece size is; so do the pieces that are
read through a handle, which stands behind what was read.

The loop is followed once, for any step that collects pieces, by induction on what is left. A handle
does the same with its position: `Reading` tells where it stands when so much was read, and a piece
more moves it by the size of the piece.
-/
namespace SqlBinder

open Operation

variable {σ η : Type} {host : Host σ} {l : LobLocator} {d : LobData} {holds : σ → Prop}
  {g : Guards} {w w' : World σ} {lob lob' : Lob}

/-- In states with `holds` a read answers the units of the content that were asked for, and leads
to such a state again. A temporary object can be given back. -/
structure HoldsLob (host : Host σ) (l : LobLocator) (d : LobData) (holds : σ → Prop) : Prop where
  kind : d.kind = l.kind
  read : ∀ offset amount s, holds s → (host.answer (.readLob l (offset + 1) amount) s).result.1 =
    .done ((d.drop offset).take amount)
  kept : ∀ offset amount s, holds s → holds (host.answer (.readLob l offset amount) s).result.2
  closes : l.isTemporary = true → ∀ s, holds s → (host.answer (.closeLob l) s).result.1 = .done ()

/-- A world in which the object holds its content and nobody disturbs the guards. -/
structure Peaceful (host : Host σ) (g : Guards) (holds : σ → Prop) (w : World σ) : Prop where
  undisturbed : Undisturbed host g w
  held : holds w.session

/-- A piece is read with one round trip. -/
theorem Peaceful.read (calm : Peaceful host g holds w) (keeps : HoldsLob host l d holds)
    (closed : Error) (offset amount : Nat) (h : η) :
    ∃ w', guarded g closed (.readLob l (offset + 1) amount) host h w =
        (.done ((d.drop offset).take amount), h, w') ∧ Peaceful host g holds w' := by
  obtain ⟨w', made, session, calm'⟩ :=
    calm.undisturbed.guarded closed (.readLob l (offset + 1) amount) h
  rw [keeps.read offset amount w.session calm.held] at made
  refine ⟨w', made, calm', ?_⟩
  rw [session]
  exact keeps.kept _ _ _ calm.held

/-! ## Content between its parts -/

namespace LobData

variable {read left : LobData} {n : Nat}

/-- What is left begins behind what was read. -/
theorem drop_read (whole : read.append left = d) (alike : read.kind = left.kind) :
    d.drop read.size = left := by
  have behind := drop_append_right alike 0
  rwa [whole, Nat.add_zero, drop_zero] at behind

/-- Of content that is left a piece is cut, of none only an empty one. -/
theorem isEmpty_take (positive : 0 < n) (d : LobData) : (d.take n).isEmpty = d.isEmpty := by
  rw [Bool.eq_iff_iff, isEmpty_iff, isEmpty_iff, size_take]
  omega

/-- A piece is read, and the rest is left. -/
theorem append_take (whole : read.append left = d) (alike : read.kind = left.kind) (n : Nat) :
    (read.append (left.take n)).append (left.drop n) = d := by
  rw [append_assoc (by rw [kind_take, alike]) (by rw [kind_take, kind_drop]), take_append_drop,
    whole]

theorem joined_singleton {kind : LobKind} {p : LobData} (alike : p.kind = kind) :
    joined kind [p] = p := by
  rw [joined, joined, ← alike, append_empty]

theorem joined_append {kind : LobKind} {ps qs : List LobData} (kinds : ∀ p ∈ ps, p.kind = kind)
    (kinds' : ∀ q ∈ qs, q.kind = kind) :
    joined kind (ps ++ qs) = (joined kind ps).append (joined kind qs) := by
  induction ps with
  | nil =>
    have same := empty_append (joined kind qs)
    rw [kind_joined kinds'] at same
    exact same.symm
  | cons p rest ih =>
    have rest_kinds : ∀ q ∈ rest, q.kind = kind := fun q mem => kinds q (List.mem_cons_of_mem _ mem)
    have rest_kind := kind_joined rest_kinds
    rw [List.cons_append, joined, ih rest_kinds, joined,
      append_assoc ((kinds p (by simp)).trans rest_kind.symm)
        (rest_kind.trans (kind_joined kinds').symm)]

end LobData

/-! ## Loops over pieces -/

/-- A step of a loop that collects pieces behind one another, until there is an empty one. -/
def CollectsPieces (host : Host σ) (g : Guards) (holds : σ → Prop) (d : LobData) (amount : Nat)
    (h : η) (step : Nat × LobData → Operation σ η ((Nat × LobData) ⊕ LobData)) : Prop :=
  ∀ offset data w, Peaceful host g holds w → ∃ w', Peaceful host g holds w' ∧
    step (offset + 1, data) host h w = (.done (
      if ((d.drop offset).take amount).isEmpty then .inr data
      else .inl (offset + 1 + ((d.drop offset).take amount).size,
        data.append ((d.drop offset).take amount))), h, w')

/-- The loop comes to the whole content in as many rounds as there are units, and one. -/
theorem CollectsPieces.iterate {amount : Nat} {h : η}
    {step : Nat × LobData → Operation σ η ((Nat × LobData) ⊕ LobData)}
    (collects : CollectsPieces host g holds d amount h step) (positive : 0 < amount)
    {rounds : Nat} {data left : LobData} (whole : data.append left = d)
    (alike : data.kind = left.kind) (patient : left.size < rounds)
    (calm : Peaceful host g holds w) :
    ∃ w', Operation.iterate step rounds (data.size + 1, data) host h w = (.done d, h, w') ∧
      Peaceful host g holds w' := by
  induction rounds generalizing data left w with
  | zero => omega
  | succ rounds ih =>
    obtain ⟨w₁, calm₁, one⟩ := collects data.size data w calm
    rw [LobData.drop_read whole alike, LobData.isEmpty_take positive] at one
    by_cases spent : left.isEmpty
    · rw [if_pos spent] at one
      have all : data = d := by
        rw [← whole, LobData.eq_empty_of_isEmpty spent, ← alike, LobData.append_empty]
      rw [Operation.iterate, bind_of_done one, all]
      exact ⟨w₁, rfl, calm₁⟩
    · rw [if_neg spent] at one
      have units : left.size ≠ 0 := fun none => spent ((LobData.isEmpty_iff left).2 none)
      have grown : data.size + 1 + (left.take amount).size =
          (data.append (left.take amount)).size + 1 := by
        rw [LobData.size_append (by rw [LobData.kind_take, alike])]
        omega
      rw [grown] at one
      rw [Operation.iterate, bind_of_done one]
      refine ih (LobData.append_take whole alike amount) ?_ ?_ calm₁
      · rw [LobData.kind_append, LobData.kind_drop, alike]
      · rw [LobData.size_drop]
        omega

theorem CollectsPieces.loop {amount : Nat} {h : η}
    {step : Nat × LobData → Operation σ η ((Nat × LobData) ⊕ LobData)}
    (collects : CollectsPieces host g holds d amount h step) (positive : 0 < amount)
    (kind : d.kind = l.kind) (patient : d.size < host.patience) (calm : Peaceful host g holds w) :
    ∃ w', Operation.loop step (1, LobData.empty l.kind) host h w = (.done d, h, w') ∧
      Peaceful host g holds w' := by
  have whole : (LobData.empty l.kind).append d = d := by rw [← kind, LobData.empty_append]
  have alike : (LobData.empty l.kind).kind = d.kind := by rw [LobData.kind_empty, kind]
  have start := collects.iterate positive whole alike patient calm
  rwa [LobData.size_empty] at start

/-- Reading in place. -/
theorem readPiece_collects (keeps : HoldsLob host l d holds) (closed : Error) (h : η) :
    CollectsPieces host g holds d (max l.chunkSize 1) h (readPiece g closed l) := by
  intro offset data w calm
  obtain ⟨w', made, calm'⟩ := calm.read keeps closed offset (max l.chunkSize 1) h
  refine ⟨w', calm', ?_⟩
  rw [readPiece, bind_of_done made]
  split <;> rfl

namespace Lob

/-- One round of reading the whole content. -/
def collectPiece (lob : Lob) (next : Nat × LobData) :
    Operation σ Lob ((Nat × LobData) ⊕ LobData) := do
  let piece ← closingOnFailure (roundTrip (.readLob lob.locator next.1 lob.transferSize))
  if piece.isEmpty then pure (.inr next.2)
  else pure (.inl (next.1 + piece.size, next.2.append piece))

theorem getData_eq : (getData : Operation σ Lob LobData) =
    open? >>= fun _ => Operation.get >>= fun lob =>
      Operation.loop (collectPiece lob) (1, LobData.empty lob.kind) :=
  rfl

/-- A piece is read through the handle with one round trip. -/
theorem readPiece_done (keeps : HoldsLob host l d holds) (located : lob.locator = l)
    (calm : Peaceful host lob.guards holds w) (offset amount : Nat) :
    ∃ w', closingOnFailure (roundTrip (.readLob lob.locator (offset + 1) amount)) host lob w =
        (.done ((d.drop offset).take amount), lob, w') ∧ Peaceful host lob.guards holds w' := by
  subst located
  obtain ⟨w', made, calm'⟩ := calm.read keeps .lobClosed offset amount lob
  have piece : roundTrip (.readLob lob.locator (offset + 1) amount) host lob w =
      (.done ((d.drop offset).take amount), lob, w') := by
    rw [roundTrip, bind_of_done (get_apply host lob w), made]
  refine ⟨w', ?_, calm'⟩
  rw [closingOnFailure, bind_of_done (attempt_of_done piece)]
  rfl

theorem collectPiece_collects (keeps : HoldsLob host l d holds) (located : lob.locator = l) :
    CollectsPieces host lob.guards holds d lob.transferSize lob (collectPiece lob) := by
  intro offset data w calm
  obtain ⟨w', made, calm'⟩ := readPiece_done keeps located calm offset lob.transferSize
  refine ⟨w', calm', ?_⟩
  rw [collectPiece, bind_of_done made]
  split <;> rfl

/-- The handle at another position. -/
def moved (lob : Lob) (f : LobPosition → LobPosition) : Lob :=
  { lob with position := lob.position.map f }

/-- Where an open handle stands that has read content in order: behind what was read, and at the
end only if nothing is left. -/
structure Reading (l : LobLocator) (g : Guards) (d : LobData) (lob : Lob) (read left : LobData)
    (ended : Bool) : Prop where
  locator : lob.locator = l
  guards : lob.guards = g
  position : ∃ length, lob.position = some ⟨read.size + 1, ended, length⟩
  whole : read.append left = d
  read_kind : read.kind = l.kind
  left_kind : left.kind = l.kind
  spent : ended = true → left.isEmpty

namespace Reading

theorem alike {read left : LobData} {ended : Bool} (reading : Reading l g d lob read left ended) :
    read.kind = left.kind :=
  reading.read_kind.trans reading.left_kind.symm

/-- A handle that was just opened. -/
theorem make (own connection : Signal) (kind : d.kind = l.kind) :
    Reading l ⟨own, connection⟩ d (.make l own connection) (LobData.empty l.kind) d false where
  locator := rfl
  guards := rfl
  position := ⟨some l.size, by simp [Lob.make]⟩
  whole := by rw [← kind, LobData.empty_append]
  read_kind := LobData.kind_empty _
  left_kind := kind
  spent := nofun

variable {read left : LobData} {ended : Bool} (reading : Reading l g d lob read left ended)
  (keeps : HoldsLob host l d holds) (calm : Peaceful host g holds w)

include reading calm

theorem opened : ∃ length, lob.position = some ⟨read.size + 1, ended, length⟩ ∧
    open? host lob w = (.done ⟨read.size + 1, ended, length⟩, lob, w) := by
  obtain ⟨length, there⟩ := reading.position
  have quiet := calm.undisturbed.stops_none .lobClosed
  rw [← reading.guards] at quiet
  exact ⟨length, there, by rw [open?_apply, quiet, there]⟩

include keeps

/-- The whole content is read wherever the handle stands, and it stands there still. -/
theorem getData (patient : d.size < host.patience) :
    ∃ w', Lob.getData host lob w = (.done d, lob, w') ∧ Peaceful host g holds w' := by
  obtain ⟨length, -, opened⟩ := reading.opened calm
  have located := reading.locator
  have collects := collectPiece_collects keeps located
  rw [reading.guards] at collects
  have all := collects.loop lob.transferSize_pos keeps.kind patient calm
  rw [getData_eq, bind_of_done opened, bind_of_done (get_apply host lob w), Lob.kind, located]
  exact all

omit keeps in
/-- Behind the end there is no piece, and no round trip for one. -/
theorem readChunk_ended (spent : ended = true) :
    Lob.readChunk host lob w = (.done none, lob, w) := by
  obtain ⟨length, -, opened⟩ := reading.opened calm
  rw [Lob.readChunk, bind_of_done (get_apply host lob w), bind_of_done opened, spent]
  rfl

/-- Before that a piece is asked for. -/
theorem readChunk_open (unended : ended = false) :
    ∃ w', Lob.readChunk host lob w =
        (if left.isEmpty then (.done none, lob.moved fun p => { p with exhausted := true }, w')
        else
          (.done (some (left.take lob.transferSize)),
            lob.moved fun p =>
              { p with readOffset := p.readOffset + (left.take lob.transferSize).size }, w')) ∧
      Peaceful host g holds w' := by
  subst unended
  obtain ⟨length, there, opened⟩ := reading.opened calm
  have calm_own : Peaceful host lob.guards holds w := by rwa [reading.guards]
  obtain ⟨w₁, made, calm₁⟩ :=
    readPiece_done keeps reading.locator calm_own read.size lob.transferSize
  rw [LobData.drop_read reading.whole reading.alike] at made
  rw [reading.guards] at calm₁
  obtain ⟨length₁, -, opened₁⟩ := reading.opened calm₁
  refine ⟨w₁, ?_, calm₁⟩
  rw [Lob.readChunk, bind_of_done (get_apply host lob w), bind_of_done opened]
  simp only [Bool.false_eq_true, if_false]
  rw [bind_of_done made, bind_of_done opened₁, LobData.isEmpty_take lob.transferSize_pos]
  split <;> rfl

/-- The end is met where nothing is left. -/
theorem readChunk_end (unended : ended = false) (nothing : left.isEmpty) :
    ∃ lob' w', Lob.readChunk host lob w = (.done none, lob', w') ∧
      lob'.pieceSize = lob.pieceSize ∧ Reading l g d lob' read left true ∧
      Peaceful host g holds w' := by
  obtain ⟨w', made, calm'⟩ := reading.readChunk_open keeps calm unended
  obtain ⟨length, there⟩ := reading.position
  rw [if_pos nothing] at made
  refine ⟨_, w', made, rfl, ⟨reading.locator, reading.guards, ⟨length, ?_⟩, reading.whole,
    reading.read_kind, reading.left_kind, fun _ => nothing⟩, calm'⟩
  simp [moved, there]

/-- Otherwise the next piece is as much of what is left as one round trip brings. -/
theorem readChunk_piece (units : ¬ left.isEmpty) :
    ∃ lob' w', Lob.readChunk host lob w = (.done (some (left.take lob.transferSize)), lob', w') ∧
      lob'.pieceSize = lob.pieceSize ∧
      Reading l g d lob' (read.append (left.take lob.transferSize)) (left.drop lob.transferSize)
        false ∧ Peaceful host g holds w' := by
  have unended : ended = false := by
    cases spent : ended with
    | false => rfl
    | true => exact absurd (reading.spent spent) units
  obtain ⟨w', made, calm'⟩ := reading.readChunk_open keeps calm unended
  obtain ⟨length, there⟩ := reading.position
  rw [if_neg units] at made
  refine ⟨_, w', made, rfl, ⟨reading.locator, reading.guards, ⟨length, ?_⟩,
    LobData.append_take reading.whole reading.alike _, ?_, ?_, nofun⟩, calm'⟩
  · have behind : read.size + 1 + (left.take lob.transferSize).size =
        (read.append (left.take lob.transferSize)).size + 1 := by
      rw [LobData.size_append (by rw [LobData.kind_take, reading.alike])]
      omega
    show lob.position.map _ = _
    rw [there, unended, ← behind]
    rfl
  · rw [LobData.kind_append, reading.read_kind]
  · rw [LobData.kind_drop, reading.left_kind]

end Reading

/-- One round of a stream of pieces. -/
def collectChunk (pieces : List (Except Error LobData)) :
    Operation σ Lob (List (Except Error LobData) ⊕ List (Except Error LobData)) := do
  match ← readChunk.attempt with
  | .ok (some data) => pure (.inl (pieces ++ [.ok data]))
  | .ok none => pure (.inr pieces)
  | .error e => pure (.inr (pieces ++ [.error e]))

/-- Pieces of a size that are no longer than that and not empty. -/
def Pieces (kind : LobKind) (size : Nat) (ps : List LobData) : Prop :=
  ∀ p ∈ ps, p.kind = kind ∧ 0 < p.size ∧ p.size ≤ size

theorem collectChunk_some {pieces : List (Except Error LobData)} {piece : LobData}
    (run : readChunk host lob w = (.done (some piece), lob', w')) :
    collectChunk pieces host lob w = (.done (.inl (pieces ++ [.ok piece])), lob', w') := by
  rw [collectChunk, bind_of_done (attempt_of_done run)]
  rfl

theorem collectChunk_none {pieces : List (Except Error LobData)}
    (run : readChunk host lob w = (.done none, lob', w')) :
    collectChunk pieces host lob w = (.done (.inr pieces), lob', w') := by
  rw [collectChunk, bind_of_done (attempt_of_done run)]
  rfl

/-- A stream behind the end has no pieces. -/
theorem iterate_collectChunk_none (rounds : Nat) (pieces : List (Except Error LobData))
    (run : readChunk host lob w = (.done none, lob', w')) :
    Operation.iterate collectChunk (rounds + 1) pieces host lob w =
      (.done (pieces ++ ([] : List LobData).map .ok), lob', w') := by
  rw [Operation.iterate, bind_of_done (collectChunk_none run), List.map_nil, List.append_nil]
  rfl

namespace Reading

variable {read left : LobData} {ended : Bool}

/-- Where nothing is left, all was read. -/
theorem all_read (reading : Reading l g d lob read left ended) (nothing : left.isEmpty) :
    Reading l g d lob d (LobData.empty l.kind) ended := by
  have all : read = d := by
    rw [← reading.whole, LobData.eq_empty_of_isEmpty nothing, ← reading.alike,
      LobData.append_empty]
  obtain ⟨locator, guards, position, -, kind, -, -⟩ := reading
  rw [all] at position kind
  refine ⟨locator, guards, position, ?_, kind, LobData.kind_empty _, fun _ => ?_⟩
  · rw [← kind, LobData.append_empty]
  · exact (LobData.isEmpty_iff _).2 (LobData.size_empty _)

/-- The stream of what is left ends in as many rounds as there are units, and one. -/
theorem collectChunks (keeps : HoldsLob host l d holds) {rounds : Nat}
    (pieces : List (Except Error LobData)) (reading : Reading l g d lob read left ended)
    (calm : Peaceful host g holds w) (patient : left.size < rounds) :
    ∃ ps lob' w', Operation.iterate collectChunk rounds pieces host lob w =
        (.done (pieces ++ ps.map .ok), lob', w') ∧
      LobData.joined l.kind ps = left ∧ Pieces l.kind lob.transferSize ps ∧
      lob'.pieceSize = lob.pieceSize ∧
      Reading l g d lob' d (LobData.empty l.kind) true ∧ Peaceful host g holds w' := by
  induction rounds generalizing pieces lob read left ended w with
  | zero => omega
  | succ rounds ih =>
    by_cases nothing : left.isEmpty
    · have none_left : LobData.joined l.kind [] = left := by
        rw [LobData.joined, ← reading.left_kind]
        exact (LobData.eq_empty_of_isEmpty nothing).symm
      cases ended with
      | true =>
        have run := iterate_collectChunk_none rounds pieces (reading.readChunk_ended calm rfl)
        exact ⟨[], lob, w, run, none_left, by simp [Pieces], rfl, reading.all_read nothing, calm⟩
      | false =>
        obtain ⟨lob', w', last, size, reading', calm'⟩ :=
          reading.readChunk_end keeps calm rfl nothing
        have run := iterate_collectChunk_none rounds pieces last
        have all := reading'.all_read nothing
        exact ⟨[], lob', w', run, none_left, by simp [Pieces], size, all, calm'⟩
    · obtain ⟨lob₁, w₁, next, size, reading₁, calm₁⟩ := reading.readChunk_piece keeps calm nothing
      have units : left.size ≠ 0 := fun none => nothing ((LobData.isEmpty_iff left).2 none)
      have positive := lob.transferSize_pos
      have fewer : (left.drop lob.transferSize).size < rounds := by
        rw [LobData.size_drop]
        omega
      obtain ⟨ps, lob', w', run, joined, fits, size', reading', calm'⟩ :=
        ih (pieces ++ [.ok (left.take lob.transferSize)]) reading₁ calm₁ fewer
      have same_size : lob₁.transferSize = lob.transferSize := by
        rw [transferSize, transferSize, size, chunkSize, chunkSize, reading₁.locator,
          reading.locator]
      rw [same_size] at fits
      refine ⟨left.take lob.transferSize :: ps, lob', w', ?_, ?_, ?_, size'.trans size, reading',
        calm'⟩
      · rw [Operation.iterate, bind_of_done (collectChunk_some next)]
        simpa using run
      · rw [LobData.joined, joined, LobData.take_append_drop]
      · rintro p (_ | ⟨_, mem⟩)
        · rw [LobData.kind_take, LobData.size_take]
          exact ⟨reading.left_kind, by omega, by omega⟩
        · exact fits p mem

end Reading

end Lob

end SqlBinder

import SqlBinder.Connection.Output
import SqlBinder.Proofs.Fallible
import SqlBinder.Proofs.Lob.Contents

/-!
All ways to read content that does not change: demands on a handle, in any order and with other
piece sizes in between, and reading in place of the object. They agree on the content, and each of
them ends.

`Dealt` tells what demands come to from where reading stands. Two stretches of demands are put
together to one, so a list of them is an induction. The piece size does not show in the content:
whatever it is, a piece is the front of what is left.
-/
namespace SqlBinder

open Operation

variable {σ η : Type} {host : Host σ} {l : LobLocator} {d : LobData} {holds : σ → Prop}
  {g : Guards} {w w' : World σ} {lob lob' : Lob}

namespace Lob

/-! ## Demands in turn -/

/-- A demand on a handle that only reads: for a piece, for the pieces that are left, for the
whole content, or for other pieces from here on. -/
inductive Demand where
  | piece
  | rest
  | whole
  | pieceSize (v : Value)

/-- The piece size behind demands: the last that was accepted. -/
def sizeBehind (size : Nat) : List Demand → Nat
  | [] => size
  | .pieceSize v :: rest => sizeBehind ((pieceSizeOf? v).getD size) rest
  | _ :: rest => sizeBehind size rest

/-- Units of one round trip behind demands on a new handle; for 0 those of the object. -/
def sizeInForce (l : LobLocator) (xs : List Demand) : Nat :=
  max (if sizeBehind l.chunkSize xs = 0 then l.chunkSize else sizeBehind l.chunkSize xs) 1

/-- What the reads of single pieces have answered meanwhile. The pieces that are left end with an
answer that there is none. -/
def Demand.run : Demand → Operation σ Lob (List (Option LobData))
  | .piece => do return [← Lob.readChunk]
  | .rest => do
    let pieces ← Operation.ofExcept ((← Lob.chunks).mapM id)
    return pieces.map some ++ [none]
  | .whole => do
    let _ ← Lob.getData
    return []
  | .pieceSize v => do
    match (← Operation.get).setPieceSize v with
    | .ok lob => Operation.modify fun _ => lob
    | .error _ => pure ()
    return []

/-- The answers to demands one behind the other. -/
def runDemands : List Demand → Operation σ Lob (List (Option LobData))
  | [] => pure []
  | x :: rest => do
    let answers ← x.run
    return answers ++ (← runDemands rest)

theorem mapM_ok (ps : List LobData) :
    (ps.map Except.ok).mapM id = (.ok ps : Except Error (List LobData)) :=
  Except.mapM_ok.2 (List.forall₂_map_left_iff.2 (List.forall₂_same.2 fun _ _ => rfl))

/-- What demands come to at a handle: the pieces that were read, which go on where reading stood,
then answers that there is none. -/
structure Dealt (l : LobLocator) (g : Guards) (d : LobData) (read left : LobData) (ended : Bool)
    (answers : List (Option LobData)) (lob' : Lob) (ps : List LobData) (nones : Nat)
    (left' : LobData) : Prop where
  answers : answers = ps.map some ++ List.replicate nones none
  unended : ended = true → ps = []
  pieces : ∀ p ∈ ps, p.kind = l.kind ∧ 0 < p.size
  whole : (LobData.joined l.kind ps).append left' = left
  reading : Reading l g d lob' (read.append (LobData.joined l.kind ps)) left'
    (ended || decide (nones ≠ 0))

namespace Dealt

variable {read left left₁ left₂ : LobData} {ended : Bool} {as bs : List (Option LobData)}
  {ps qs : List LobData} {m n : Nat} {lob₁ lob₂ : Lob}

/-- Nothing was read. -/
theorem none (reading : Reading l g d lob read left ended) :
    Dealt l g d read left ended [] lob [] 0 left where
  answers := rfl
  unended _ := rfl
  pieces := nofun
  whole := by rw [LobData.joined, ← reading.left_kind, LobData.empty_append]
  reading := by
    have same : read.append (LobData.empty l.kind) = read := by
      rw [← reading.read_kind, LobData.append_empty]
    simpa [LobData.joined, same] using reading

theorem append (first : Dealt l g d read left ended as lob₁ ps m left₁)
    (second : Dealt l g d (read.append (LobData.joined l.kind ps)) left₁
      (ended || decide (m ≠ 0)) bs lob₂ qs n left₂) :
    Dealt l g d read left ended (as ++ bs) lob₂ (ps ++ qs) (m + n) left₂ where
  answers := by
    rw [first.answers, second.answers]
    by_cases unended : m = 0
    · simp [unended]
    · -- Behind the first answer that there is none, there are no others.
      have ended : (ended || decide (m ≠ 0)) = true := by simp [unended]
      simp [second.unended ended]
  unended spent := by
    rw [first.unended spent, second.unended (by simp [spent]), List.append_nil]
  pieces p mem := (List.mem_append.1 mem).elim (first.pieces p) (second.pieces p)
  whole := by
    have kinds := fun p mem => (first.pieces p mem).1
    have kinds' := fun q mem => (second.pieces q mem).1
    have joined := LobData.kind_joined kinds
    have joined' := LobData.kind_joined kinds'
    rw [LobData.joined_append kinds kinds', LobData.append_assoc (joined.trans joined'.symm)
      (joined'.trans second.reading.left_kind.symm), second.whole, first.whole]
  reading := by
    have kinds := fun p mem => (first.pieces p mem).1
    have kinds' := fun q mem => (second.pieces q mem).1
    have joined := LobData.kind_joined kinds
    have read_kind : read.kind = l.kind := by
      rw [← first.reading.read_kind, LobData.kind_append]
    have behind := second.reading
    have spent : (ended || decide (m ≠ 0) || decide (n ≠ 0)) = (ended || decide (m + n ≠ 0)) := by
      by_cases m = 0 <;> by_cases n = 0 <;> simp [*]
    rwa [LobData.append_assoc (read_kind.trans joined.symm)
      (joined.trans (LobData.kind_joined kinds').symm), ← LobData.joined_append kinds kinds',
      spent] at behind

end Dealt

namespace Reading

variable {read left : LobData} {ended : Bool} (keeps : HoldsLob host l d holds)
  (reading : Reading l g d lob read left ended) (calm : Peaceful host g holds w)

include keeps reading calm

/-- A demand for a piece is answered by the next, or by none. -/
theorem run_piece :
    ∃ answers lob' w' ps n left', Demand.piece.run host lob w = (.done answers, lob', w') ∧
      Dealt l g d read left ended answers lob' ps n left' ∧ lob'.pieceSize = lob.pieceSize ∧
      Peaceful host g holds w' := by
  have answered {p : Option LobData} {lob' : Lob} {w' : World σ}
      (next : Lob.readChunk host lob w = (.done p, lob', w')) :
      Demand.piece.run host lob w = (.done [p], lob', w') := by
    rw [Demand.run, bind_of_done next]
    rfl
  have nothing {lob' : Lob} (reading' : Reading l g d lob' read left true) :
      Dealt l g d read left ended [none] lob' [] 1 left := by
    have unchanged := Dealt.none reading'
    refine ⟨rfl, fun _ => rfl, nofun, unchanged.whole, ?_⟩
    simpa using unchanged.reading
  by_cases empty : left.isEmpty
  · cases ended with
    | true =>
      exact ⟨_, lob, w, [], 1, left, answered (reading.readChunk_ended calm rfl),
        nothing reading, rfl, calm⟩
    | false =>
      obtain ⟨lob', w', next, size, reading', calm'⟩ :=
        reading.readChunk_end keeps calm rfl empty
      exact ⟨_, lob', w', [], 1, left, answered next, nothing reading', size, calm'⟩
  · obtain ⟨lob', w', next, size, reading', calm'⟩ := reading.readChunk_piece keeps calm empty
    have unended : ended = false := by
      cases spent : ended with
      | false => rfl
      | true => exact absurd (reading.spent spent) empty
    have kind : (left.take lob.transferSize).kind = l.kind := by
      rw [LobData.kind_take, reading.left_kind]
    refine ⟨_, lob', w', [left.take lob.transferSize], 0, left.drop lob.transferSize,
      answered next, ⟨rfl, ?_, ?_, ?_, ?_⟩, size, calm'⟩
    · rw [unended]
      nofun
    · intro p mem
      rw [List.mem_singleton.1 mem, LobData.size_take]
      have units : left.size ≠ 0 := fun none => empty ((LobData.isEmpty_iff left).2 none)
      have positive := lob.transferSize_pos
      exact ⟨kind, by omega⟩
    · rw [LobData.joined_singleton kind, LobData.take_append_drop]
    · rw [LobData.joined_singleton kind, unended]
      exact reading'

/-- A stream of pieces ends with all that is left. -/
theorem chunks (patient : d.size < host.patience) :
    ∃ ps lob' w', Lob.chunks host lob w = (.done (ps.map .ok), lob', w') ∧
      LobData.joined l.kind ps = left ∧ Pieces l.kind lob.transferSize ps ∧
      lob'.pieceSize = lob.pieceSize ∧
      Reading l g d lob' d (LobData.empty l.kind) true ∧ Peaceful host g holds w' := by
  have less : left.size ≤ d.size := by
    rw [← reading.whole, LobData.size_append reading.alike]
    omega
  exact reading.collectChunks keeps [] calm (Nat.lt_of_le_of_lt less patient)

theorem run_rest (patient : d.size < host.patience) :
    ∃ answers lob' w' ps n left', Demand.rest.run host lob w = (.done answers, lob', w') ∧
      Dealt l g d read left ended answers lob' ps n left' ∧ lob'.pieceSize = lob.pieceSize ∧
      Peaceful host g holds w' := by
  obtain ⟨ps, lob', w', all, joined, fits, size, reading', calm'⟩ :=
    reading.chunks keeps calm patient
  have run : Demand.rest.run host lob w = (.done (ps.map some ++ [none]), lob', w') := by
    rw [Demand.run, bind_of_done all, mapM_ok]
    rfl
  have all_read : read.append (LobData.joined l.kind ps) = d := by rw [joined, reading.whole]
  refine ⟨_, lob', w', ps, 1, LobData.empty l.kind, run, ⟨rfl, ?_, ?_, ?_, ?_⟩, size, calm'⟩
  · intro spent
    cases ps with
    | nil => rfl
    | cons p rest =>
      have none_left := (LobData.isEmpty_iff left).1 (reading.spent spent)
      have units := (fits p (by simp)).2.1
      have rest_kind := LobData.kind_joined fun q mem => (fits q (List.mem_cons_of_mem _ mem)).1
      rw [← joined, LobData.joined,
        LobData.size_append ((fits p (by simp)).1.trans rest_kind.symm)] at none_left
      omega
  · exact fun p mem => ⟨(fits p mem).1, (fits p mem).2.1⟩
  · rw [joined, ← reading.left_kind, LobData.append_empty]
  · rw [all_read]
    simpa using reading'

theorem run (patient : d.size < host.patience) (x : Demand) :
    ∃ answers lob' w' ps n left', x.run host lob w = (.done answers, lob', w') ∧
      Dealt l g d read left ended answers lob' ps n left' ∧
      lob'.pieceSize = sizeBehind lob.pieceSize [x] ∧ Peaceful host g holds w' := by
  cases x with
  | piece => exact reading.run_piece keeps calm
  | rest => exact reading.run_rest keeps calm patient
  | whole =>
    obtain ⟨w', all, calm'⟩ := reading.getData keeps calm patient
    refine ⟨[], lob, w', [], 0, left, ?_, .none reading, rfl, calm'⟩
    rw [Demand.run, bind_of_done all]
    rfl
  | pieceSize v =>
    rw [Demand.run, bind_of_done (get_apply host lob w), setPieceSize, sizeBehind, sizeBehind]
    cases pieceSizeOf? v with
    | none => exact ⟨[], lob, w, [], 0, left, rfl, .none reading, rfl, calm⟩
    | some size =>
      have changed : Reading l g d { lob with pieceSize := size } read left ended :=
        ⟨reading.locator, reading.guards, reading.position, reading.whole, reading.read_kind,
          reading.left_kind, reading.spent⟩
      exact ⟨[], _, w, [], 0, left, rfl, .none changed, rfl, calm⟩

theorem runDemands (patient : d.size < host.patience) (xs : List Demand) :
    ∃ answers lob' w' ps n left', Lob.runDemands xs host lob w = (.done answers, lob', w') ∧
      Dealt l g d read left ended answers lob' ps n left' ∧
      lob'.pieceSize = sizeBehind lob.pieceSize xs ∧ Peaceful host g holds w' := by
  induction xs generalizing lob w read left ended with
  | nil => exact ⟨[], lob, w, [], 0, left, rfl, .none reading, rfl, calm⟩
  | cons x rest ih =>
    obtain ⟨as, lob₁, w₁, ps, m, left₁, first, dealt, size, calm₁⟩ :=
      reading.run keeps calm patient x
    obtain ⟨bs, lob', w', qs, n, left', others, dealt', size', calm'⟩ := ih dealt.reading calm₁
    refine ⟨as ++ bs, lob', w', ps ++ qs, m + n, left', ?_, dealt.append dealt', ?_, calm'⟩
    · rw [Lob.runDemands, bind_of_done first, bind_of_done others]
      rfl
    · rw [size', size]
      cases x <;> rfl

end Reading

end Lob

/-! ## Reading in place -/

theorem LobData.bindLength_toValue (d : LobData) : d.toValue.bindLength = d.size := by
  cases d with
  | text s =>
    by_cases none : s = "" <;> simp [toValue, DbType.ofText, none, Value.bindLength, size]
  | bytes b =>
    by_cases none : b = [] <;> simp [toValue, DbType.ofBytes, none, Value.bindLength, size]

section InPlace

variable (keeps : HoldsLob host l d holds) (patient : d.size < host.patience)

include keeps patient

/-- Reading in place comes to the content as a plain value. -/
theorem readWhole_done (calm : Peaceful host g holds w) (closed : Error) (h : η) :
    ∃ w', readWhole g closed l host h w = (.done d.toValue, h, w') := by
  have positive : 0 < max l.chunkSize 1 := by omega
  obtain ⟨w₁, all, calm₁⟩ :=
    (readPiece_collects keeps closed h).loop positive keeps.kind patient calm
  rw [readWhole, bind_of_done all]
  cases temporary : l.isTemporary with
  | false => exact ⟨w₁, rfl⟩
  | true =>
    obtain ⟨w', given, -⟩ := calm₁.undisturbed.callFreely (.closeLob l) h
    rw [keeps.closes temporary w₁.session calm₁.held] at given
    refine ⟨w', ?_⟩
    rw [if_pos rfl, bind_of_done given]
    rfl

/-- A column that is read in place. -/
theorem decodeColumn_inline (calm : Peaceful host g holds w) (closed : Error) (o : ConvertOptions)
    (column : Column) (inline : readsInline column.dbType o = true) (h : η) :
    ∃ w', decodeColumn g closed o column (.lob l) host h w = (.done d.toValue, h, w') := by
  obtain ⟨w', all⟩ := readWhole_done keeps patient calm closed h
  have decoded : column.dbType.decode o (.lob l) = .ok (.lob l) := by
    cases t : column.dbType <;> rw [t] at inline <;> first | rfl | cases inline
  refine ⟨w', ?_⟩
  rw [decodeColumn, decoded, ofFallible_ok, pure_bind]
  show (if readsInline column.dbType o = true then readWhole g closed l else pure (.lob l))
    host h w = _
  rw [if_pos inline, all]

/-- An output bind that became a large object. -/
theorem decodeOutBind_promoted {c : Connection}
    (calm : Peaceful host ⟨w.signals.fresh.1, c.closed⟩ holds w) (o : ExecuteOptions)
    (b : Binding.Descriptor) (promoted : b.promotedFrom.isSome)
    (object : (LobKind.ofDbType? b.dbType).isSome) (fits : d.size ≤ b.maxSize) :
    ∃ w', Connection.decodeOutBind b (.lob l) o host c w = (.done (.value d.toValue), c, w') := by
  let w₁ : World σ := { w with signals := w.signals.fresh.2 }
  have calm₁ : Peaceful host ⟨w.signals.fresh.1, c.closed⟩ holds w₁ :=
    ⟨⟨calm.undisturbed.answers, calm.undisturbed.armed, calm.undisturbed.own,
      calm.undisturbed.connection⟩, calm.held⟩
  obtain ⟨w', all⟩ := readWhole_done keeps patient calm₁ .connectionClosed c
  have decoded : b.dbType.decode o.convert (.lob l) = .ok (.lob l) := by
    cases t : b.dbType <;> rw [t] at object <;> first | rfl | cases object
  have small : ¬ b.maxSize < d.toValue.bindLength := by
    rw [LobData.bindLength_toValue]
    omega
  have unlimited : b.overflows (.lob l) = false := by
    simp [Binding.Descriptor.overflows, promoted]
  have own : Connection.ownGuards host c w = (.done ⟨w.signals.fresh.1, c.closed⟩, c, w₁) := rfl
  refine ⟨w', ?_⟩
  rw [Connection.decodeOutBind, unlimited, decoded]
  simp only [Bool.false_eq_true, if_false, ofFallible_ok, pure_bind, promoted, if_true]
  rw [bind_of_done own, bind_of_done all, Connection.promotedValue, if_neg small]
  rfl

end InPlace

/-! ## All ways to read -/

namespace Lob

/-- What there is to read at a handle where some of the content is left: a piece of it, or none,
and then without a call if that was answered before; all of it in pieces; and the whole content,
which leaves the handle as it is. -/
structure Readable (host : Host σ) (d left : LobData) (ended : Prop) (lob : Lob) (w : World σ) :
    Prop where
  piece : ∃ lob' w', readChunk host lob w =
      (.done (if left.isEmpty then none else some (left.take lob.transferSize)), lob', w') ∧
    (ended → lob' = lob ∧ w' = w)
  rest : ∃ ps lob' w', chunks host lob w = (.done (ps.map .ok), lob', w') ∧
    LobData.joined d.kind ps = left ∧ Pieces d.kind lob.transferSize ps
  whole : ∃ w', getData host lob w = (.done d, lob, w')

theorem Reading.readable {read left : LobData} {ended : Bool} (keeps : HoldsLob host l d holds)
    (reading : Reading l g d lob read left ended) (calm : Peaceful host g holds w)
    (patient : d.size < host.patience) : Readable host d left (ended = true) lob w where
  piece := by
    by_cases nothing : left.isEmpty
    · rw [if_pos nothing]
      cases ended with
      | true => exact ⟨lob, w, reading.readChunk_ended calm rfl, fun _ => ⟨rfl, rfl⟩⟩
      | false =>
        obtain ⟨lob', w', last, -⟩ := reading.readChunk_end keeps calm rfl nothing
        exact ⟨lob', w', last, nofun⟩
    · rw [if_neg nothing]
      obtain ⟨lob', w', next, -⟩ := reading.readChunk_piece keeps calm nothing
      exact ⟨lob', w', next, fun spent => absurd (reading.spent spent) nothing⟩
  rest := by
    obtain ⟨ps, lob', w', all, joined, fits, -⟩ := reading.chunks keeps calm patient
    rw [← keeps.kind] at joined fits
    exact ⟨ps, lob', w', all, joined, fits⟩
  whole := by
    obtain ⟨w', all, -⟩ := reading.getData keeps calm patient
    exact ⟨w', all⟩

/-- However content that does not change is read, in pieces of whatever sizes or at once, through
the handle or in place, it comes out whole, and every read comes to its end. -/
theorem reads_whole_content (keeps : HoldsLob host l d holds) (patient : d.size < host.patience) :
    (∀ own connection w, Peaceful host ⟨own, connection⟩ holds w → ∀ xs : List Demand,
      ∃ ps nones left lob w',
        runDemands xs host (make l own connection) w =
          (.done (ps.map some ++ List.replicate nones none), lob, w') ∧
        lob.transferSize = sizeInForce l xs ∧ (∀ p ∈ ps, p.kind = d.kind ∧ 0 < p.size) ∧
        (LobData.joined d.kind ps).append left = d ∧ (nones ≠ 0 → LobData.joined d.kind ps = d) ∧
        Readable host d left (nones ≠ 0) lob w') ∧
    (∀ g w, Peaceful host g holds w → ∀ closed,
      (∀ η (h : η), ∃ w', readWhole g closed l host h w = (.done d.toValue, h, w')) ∧
      ∀ η (h : η) o column, readsInline column.dbType o = true →
        ∃ w', decodeColumn g closed o column (.lob l) host h w = (.done d.toValue, h, w')) ∧
    (∀ (c : Connection) w, Peaceful host ⟨w.signals.fresh.1, c.closed⟩ holds w → ∀ o b,
      b.promotedFrom.isSome → (LobKind.ofDbType? b.dbType).isSome → d.size ≤ b.maxSize →
        ∃ w', Connection.decodeOutBind b (.lob l) o host c w = (.done (.value d.toValue), c, w')) ∧
    d.toValue = match d with
      | .text s => if s = "" then .null else .string s
      | .bytes b => if b = [] then .null else .bytes b := by
  refine ⟨fun own connection w calm xs => ?_, fun g w calm closed => ⟨fun η h => ?_, ?_⟩, ?_, ?_⟩
  · have opened := Reading.make own connection keeps.kind
    obtain ⟨answers, lob, w', ps, nones, left, run, dealt, size, calm'⟩ :=
      opened.runDemands keeps calm patient xs
    have ended : (false || decide (nones ≠ 0)) = true ↔ nones ≠ 0 := by simp
    have readable := dealt.reading.readable keeps calm' patient
    rw [dealt.answers] at run
    rw [ended] at readable
    refine ⟨ps, nones, left, lob, w', run, ?_, ?_, ?_, fun spent => ?_, readable⟩
    · rw [transferSize, chunkSize, dealt.reading.locator, size]
      rfl
    · rw [keeps.kind]
      exact dealt.pieces
    · rw [keeps.kind]
      exact dealt.whole
    · have nothing : left = LobData.empty l.kind := by
        rw [LobData.eq_empty_of_isEmpty (dealt.reading.spent (ended.2 spent)),
          dealt.reading.left_kind]
      have joined := LobData.kind_joined fun p mem => (dealt.pieces p mem).1
      have all := LobData.append_empty (LobData.joined l.kind ps)
      rw [joined, ← nothing, dealt.whole] at all
      rw [keeps.kind, ← all]
  · exact readWhole_done keeps patient calm closed h
  · exact fun η h o column inline =>
      decodeColumn_inline keeps patient calm closed o column inline h
  · exact fun c w calm o b promoted object fits =>
      decodeOutBind_promoted keeps patient calm o b promoted object fits
  · cases d <;> simp [LobData.toValue, DbType.ofText, DbType.ofBytes]

end Lob

/-! ## The session in memory -/

namespace Memory.Store

/-- The store answers without signals. -/
theorem undisturbed (patience : Nat) (g : Guards) (s : Store) :
    Undisturbed (Memory.Store.host patience) g (World.start s) where
  answers c s := by
    have quiet : (answer c s).during = [] ∧ (answer c s).after = [] := by
      simp only [answer]
      split
      · exact ⟨rfl, rfl⟩
      · exact ⟨rfl, rfl⟩
      · exact ⟨rfl, rfl⟩
      · exact ⟨rfl, rfl⟩
      · cases c <;> exact ⟨rfl, rfl⟩
      · cases c <;> exact ⟨rfl, rfl⟩
    intro x mem
    have mem : x ∈ (answer c s).during ++ (answer c s).after := mem
    rw [quiet.1, quiet.2] at mem
    cases mem
  armed := nofun
  own := rfl
  connection := rfl

/-- Without faults a call comes to its reply. -/
theorem result_faultless {s : Store} (faultless : s.faults = []) (c : Call) :
    (answer c s).result =
      (outcome (respond { s with called := Method.ofCall c :: s.called } c).1,
        (respond { s with called := Method.ofCall c :: s.called } c).2) := by
  have none : fault? { s with called := Method.ofCall c :: s.called } (Method.ofCall c) = none := by
    simp [fault?, faultless]
  rw [answer]
  simp only [none]
  exact result_answered _ _ _ _

/-- The object is stored with this content, and nothing goes wrong with calls. -/
def Holds (l : LobLocator) (d : LobData) (s : Store) : Prop :=
  s.faults = [] ∧ ∃ o, s.lob? l = .ok o ∧ o.committed = d

theorem holdsLob (patience : Nat) (kind : d.kind = l.kind) :
    HoldsLob (Memory.Store.host patience) l d (Holds l d) where
  kind := kind
  read offset amount s held := by
    obtain ⟨faultless, o, found, rfl⟩ := held
    have counted : lob? { s with called := .readLob :: s.called } l = .ok o := found
    show (answer _ s).result.1 = _
    rw [result_faultless faultless]
    simp [respond, reply, Method.ofCall, counted, outcome, bind, Except.bind, pure, Except.pure]
  kept offset amount s held := by
    obtain ⟨faultless, o, found, whole⟩ := held
    have counted : lob? { s with called := .readLob :: s.called } l = .ok o := found
    show Holds l d (answer _ s).result.2
    rw [result_faultless faultless]
    simp only [respond, reply, Method.ofCall, counted, bind, Except.bind, pure, Except.pure]
    exact ⟨faultless, o, found, whole⟩
  closes _ s held := by
    obtain ⟨faultless, o, found, -⟩ := held
    have counted : lob? { s with called := .closeLob :: s.called } l = .ok o := found
    show (answer _ s).result.1 = _
    rw [result_faultless faultless]
    simp [respond, reply, Method.ofCall, counted, outcome, bind, Except.bind, pure, Except.pure]

end Memory.Store

/-- A temporary text of five characters, with pieces of two. -/
def LobLocator.five : LobLocator := ⟨[1], .clob, 5, 2, true⟩

/-- It is read in pieces of two and then of three, and in place. -/
theorem Lob.five_characters_read :
    ∃ lob w' w'', Lob.runDemands [.piece, .whole, .pieceSize (.integer 3), .piece, .rest, .piece]
        (Memory.Store.host 9) (.make .five ⟨0⟩ ⟨1⟩)
        (World.start (Memory.Store.single .five (.text "abcdé"))) =
          (.done [some (.text "ab"), some (.text "cdé"), none, none], lob, w') ∧
      readWhole ⟨⟨0⟩, ⟨1⟩⟩ .lobClosed .five (Memory.Store.host 9) ()
        (World.start (Memory.Store.single .five (.text "abcdé"))) =
          (.done (.string "abcdé"), (), w'') := by
  have kind : (LobData.text "abcdé").kind = LobLocator.five.kind := rfl
  have calm : Peaceful (Memory.Store.host 9) ⟨⟨0⟩, ⟨1⟩⟩ (Memory.Store.Holds .five (.text "abcdé"))
      (World.start (Memory.Store.single .five (.text "abcdé"))) :=
    ⟨Memory.Store.undisturbed 9 _ _, rfl, _, rfl, rfl⟩
  obtain ⟨handle, inPlace, -, -⟩ :=
    Lob.reads_whole_content (Memory.Store.holdsLob 9 kind) (by decide)
  obtain ⟨ps, nones, left, lob, w', run, -⟩ := handle ⟨0⟩ ⟨1⟩ _ calm
    [.piece, .whole, .pieceSize (.integer 3), .piece, .rest, .piece]
  obtain ⟨w'', whole⟩ := (inPlace _ _ calm .lobClosed).1 Unit ()
  have answers : Outcome.done (ps.map some ++ List.replicate nones none) =
      .done [some (.text "ab"), some (.text "cdé"), none, none] :=
    (congrArg Prod.fst run).symm.trans rfl
  rw [answers] at run
  exact ⟨lob, w', w'', run, whole⟩

end SqlBinder

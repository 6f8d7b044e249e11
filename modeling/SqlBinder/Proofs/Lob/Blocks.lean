import SqlBinder.Proofs.Lob.Writing
import SqlBinder.Proofs.Session.Alike

/-!
Data written in blocks. A writer sends every full piece of what it has been given and keeps the
rest, so between two writes it stands where one write of all the data so far would have left it.
However data is cut into blocks, the session gets the same pieces at the same offsets.

The invariant is `Given`: the full pieces of all data so far were sent, and the rest is in the
buffer. A block keeps it, because cutting data that has grown gives the pieces there were and then
those of the rest with the new block; blocks in turn are an induction over their list.
-/
namespace SqlBinder

open Operation

/-! ## Cuts of content that grows -/

namespace LobData

variable {d e : LobData} {n size count : Nat}

theorem take_append (alike : d.kind = e.kind) (short : n ≤ d.size) :
    (d.append e).take n = d.take n := by
  cases d with
  | text s =>
    cases e with
    | text t =>
      have short : n ≤ s.toList.length := by rwa [String.length_toList]
      simp only [append, take, String.toList_append, List.take_append_of_le_length short]
    | bytes c => cases alike
  | bytes b =>
    cases e with
    | text t => cases alike
    | bytes c =>
      have short : n ≤ b.length := short
      simp only [append, take, List.take_append_of_le_length short]

theorem drop_append (alike : d.kind = e.kind) (short : n ≤ d.size) :
    (d.append e).drop n = (d.drop n).append e := by
  cases d with
  | text s =>
    cases e with
    | text t =>
      have short : n ≤ s.toList.length := by rwa [String.length_toList]
      simp only [append, drop, String.toList_append, List.drop_append_of_le_length short,
        String.ofList_append, String.ofList_toList]
    | bytes c => cases alike
  | bytes b =>
    cases e with
    | text t => cases alike
    | bytes c =>
      have short : n ≤ b.length := short
      simp only [append, drop, List.drop_append_of_le_length short]

theorem size_uncut (size count : Nat) (d : LobData) :
    (uncut size count d).size = d.size - count * size := by
  induction count generalizing d with
  | zero => simp [uncut]
  | succ count ih => rw [uncut, ih, size_drop, Nat.succ_mul, Nat.add_comm, Nat.sub_add_eq]

/-- Each cut has the full size. -/
theorem map_size_cuts (enough : count * size ≤ d.size) :
    (cuts size count d).map LobData.size = List.replicate count size := by
  induction count generalizing d with
  | zero => rfl
  | succ count ih =>
    rw [Nat.succ_mul] at enough
    have first : min size d.size = size := by omega
    have rest : count * size ≤ (d.drop size).size := by
      rw [size_drop]
      omega
    rw [cuts, List.map_cons, size_take, first, ih rest, List.replicate_succ]

theorem cuts_add (size m n : Nat) (d : LobData) :
    cuts size (m + n) d = cuts size m d ++ cuts size n (uncut size m d) := by
  induction m generalizing d with
  | zero => simp [cuts, uncut]
  | succ m ih => rw [Nat.succ_add, cuts, ih, cuts, uncut, List.cons_append]

theorem uncut_add (size m n : Nat) (d : LobData) :
    uncut size (m + n) d = uncut size n (uncut size m d) := by
  induction m generalizing d with
  | zero => rw [Nat.zero_add, uncut]
  | succ m ih => rw [Nat.succ_add, uncut, ih, uncut]

/-- Cuts stay what they are when more content follows. -/
theorem cuts_append (alike : d.kind = e.kind) (enough : count * size ≤ d.size) :
    cuts size count (d.append e) = cuts size count d := by
  induction count generalizing d with
  | zero => rfl
  | succ count ih =>
    rw [Nat.succ_mul] at enough
    have first : size ≤ d.size := by omega
    have rest : count * size ≤ (d.drop size).size := by
      rw [size_drop]
      omega
    rw [cuts, cuts, take_append alike first, drop_append alike first,
      ih (by rwa [kind_drop]) rest]

/-- More content follows what is left. -/
theorem uncut_append (alike : d.kind = e.kind) (enough : count * size ≤ d.size) :
    uncut size count (d.append e) = (uncut size count d).append e := by
  induction count generalizing d with
  | zero => rfl
  | succ count ih =>
    rw [Nat.succ_mul] at enough
    have first : size ≤ d.size := by omega
    have rest : count * size ≤ (d.drop size).size := by
      rw [size_drop]
      omega
    rw [uncut, uncut, drop_append alike first, ih (by rwa [kind_drop]) rest]

/-- The full pieces of content. -/
def fullPieces (size : Nat) (d : LobData) : List LobData := cuts size (d.size / size) d

/-- What is left behind the full pieces. -/
def remainder (size : Nat) (d : LobData) : LobData := uncut size (d.size / size) d

theorem pieces_eq (size : Nat) (d : LobData) :
    d.pieces size = d.fullPieces size ++ lastPieces d (d.remainder size) :=
  rfl

theorem size_remainder (size : Nat) (d : LobData) : (d.remainder size).size = d.size % size := by
  rw [remainder, size_uncut, Nat.mod_eq_sub_div_mul]

theorem kind_joined {kind : LobKind} {ps : List LobData} (kinds : ∀ p ∈ ps, p.kind = kind) :
    (joined kind ps).kind = kind := by
  cases ps with
  | nil => exact kind_empty kind
  | cons p rest => rw [joined, kind_append, kinds p (by simp)]

theorem div_append (alike : d.kind = e.kind) (positive : 0 < size) :
    (d.append e).size / size =
      d.size / size + ((d.remainder size).append e).size / size := by
  have kinds : (d.remainder size).kind = e.kind := by rw [remainder, kind_uncut, alike]
  have split : d.size + e.size = d.size % size + e.size + size * (d.size / size) := by
    have parts := Nat.mod_add_div d.size size
    omega
  rw [size_append alike, size_append kinds, size_remainder, split,
    Nat.add_mul_div_left _ _ positive, Nat.add_comm]

/-- The full pieces of content that has grown: those there were, and those of what was left with
what came. -/
theorem fullPieces_append (alike : d.kind = e.kind) (positive : 0 < size) :
    (d.append e).fullPieces size =
      d.fullPieces size ++ ((d.remainder size).append e).fullPieces size := by
  have enough := Nat.div_mul_le_self d.size size
  rw [fullPieces, div_append alike positive, cuts_add, cuts_append alike enough,
    uncut_append alike enough]
  rfl

theorem remainder_append (alike : d.kind = e.kind) (positive : 0 < size) :
    (d.append e).remainder size = ((d.remainder size).append e).remainder size := by
  have enough := Nat.div_mul_le_self d.size size
  rw [remainder, div_append alike positive, uncut_add, uncut_append alike enough]
  rfl

end LobData

/-! ## Writers between blocks -/

variable {σ : Type} {host : Host σ} {w w' : World σ} {lob : Lob}

/-- Data written with the object is taken, and so is the commit. -/
structure Accepts (host : Host σ) (l : LobLocator) : Prop where
  writes : ∀ offset data s, (host.answer (.writeLob l offset data) s).result.1 = .done ()
  commits : ∀ s, (host.answer (.commitLob l) s).result.1 = .done ()

namespace Lob

/-- The same handle, open, wherever it stands. -/
structure Alive (lob lob' : Lob) : Prop where
  locator : lob'.locator = lob.locator
  pieceSize : lob'.pieceSize = lob.pieceSize
  guards : lob'.guards = lob.guards
  position : lob'.position.isSome

variable {lob' : Lob}

theorem Alive.transferSize (h : lob.Alive lob') : lob'.transferSize = lob.transferSize := by
  rw [Lob.transferSize, Lob.transferSize, chunkSize, chunkSize, h.locator, h.pieceSize]

theorem Alive.kind (h : lob.Alive lob') : lob'.kind = lob.kind := by
  rw [Lob.kind, Lob.kind, h.locator]

theorem Alive.forgetLength (h : lob.Alive lob') : lob.Alive lob'.forgetLength :=
  ⟨h.locator, h.pieceSize, h.guards, by simpa [Lob.forgetLength] using h.position⟩

theorem transferSize_pos (lob : Lob) : 0 < lob.transferSize := by
  rw [transferSize]
  omega

end Lob

namespace LobWriter

variable {data block : LobData} {started : Bool} {wtr wtr' : LobWriter}

/-- Blocks one behind the other, until one fails. -/
def writeBlocks : List LobData → Operation σ LobWriter Unit
  | [] => pure ()
  | block :: rest => do
    write block
    writeBlocks rest

/-- Where a writer stands that has been given data, if any block was given: the full pieces were
sent, and the rest is in the buffer. -/
structure Given (lob : Lob) (data : LobData) (started : Bool) (wtr : LobWriter) : Prop where
  alive : lob.Alive wtr.lob
  kind : data.kind = lob.kind
  offset : wtr.offset = offsetBehind 1 (data.fullPieces lob.transferSize)
  buffer : wtr.buffer = data.remainder lob.transferSize
  sentAny : wtr.sentAny = decide (data.size / lob.transferSize ≠ 0)
  explicitEmpty : data.size = 0 → wtr.explicitEmpty = started
  failure : wtr.failure = none

theorem Given.make (opened : lob.position.isSome) :
    Given lob (LobData.empty lob.kind) false (make lob) where
  alive := ⟨rfl, rfl, rfl, opened⟩
  kind := LobData.kind_empty _
  offset := by simp [LobWriter.make, LobData.fullPieces, LobData.cuts, offsetBehind]
  buffer := by simp [LobWriter.make, LobData.remainder, LobData.uncut]
  sentAny := by simp [LobWriter.make]
  explicitEmpty := fun _ => rfl
  failure := rfl

theorem offsetBehind_append (offset : Nat) (ps qs : List LobData) :
    offsetBehind offset (ps ++ qs) = offsetBehind (offsetBehind offset ps) qs := by
  induction ps generalizing offset with
  | nil => rfl
  | cons p rest ih => exact ih _

/-- A block that was written leaves the writer where the longer data leaves it. -/
theorem Given.write_done (given : Given lob data started wtr)
    (run : write block host wtr w = (.done (), wtr', w')) :
    Given lob (data.append block) true wtr' ∧
      w'.exchanges = w.exchanges ++ writes lob.locator wtr.offset
        ((wtr.buffer.append block).fullPieces lob.transferSize) := by
  have positive := lob.transferSize_pos
  obtain ⟨kind, -, rest⟩ := LobWriter.write_done run
  have alike : data.kind = block.kind := by rw [kind, given.alive.kind, given.kind]
  have buffered : wtr.buffer.kind = block.kind := by
    rw [given.buffer, LobData.remainder, LobData.kind_uncut, alike]
  by_cases empty : block.isEmpty
  · -- Nothing is cut anew; the buffer is shorter than a piece.
    have block_eq : block = LobData.empty data.kind := by
      rw [alike]
      exact LobData.eq_empty_of_isEmpty empty
    have short : wtr.buffer.size / lob.transferSize = 0 := by
      rw [given.buffer, LobData.size_remainder]
      exact Nat.div_eq_of_lt (Nat.mod_lt _ positive)
    have same : data.append block = data := by rw [block_eq, LobData.append_empty]
    have whole : wtr.buffer.append block = wtr.buffer := by
      rw [block_eq, alike, ← buffered, LobData.append_empty]
    simp only [empty, if_true] at rest
    obtain ⟨rfl, rfl⟩ := rest
    rw [same, whole]
    refine ⟨{ given with explicitEmpty := fun _ => rfl }, ?_⟩
    simp [LobData.fullPieces, short, LobData.cuts, writes]
  · have units : block.size ≠ 0 := fun none => empty ((LobData.isEmpty_iff block).2 none)
    simp only [empty, Bool.false_eq_true, if_false, given.alive.transferSize] at rest
    obtain ⟨added, rfl⟩ := sendPieces_done rest
    have added : w'.exchanges = w.exchanges ++ writes lob.locator wtr.offset
        ((wtr.buffer.append block).fullPieces lob.transferSize) := by
      rw [added]
      exact congrArg (w.exchanges ++ writes · wtr.offset _) given.alive.locator
    refine ⟨⟨?_, ?_, ?_, ?_, ?_, ?_, given.failure⟩, added⟩
    · dsimp only
      split
      · exact given.alive
      · exact given.alive.forgetLength
    · rw [LobData.kind_append, given.kind]
    · rw [LobData.fullPieces_append alike positive, offsetBehind_append, ← given.offset,
        ← given.buffer]
      rfl
    · rw [LobData.remainder_append alike positive, ← given.buffer]
      rfl
    · rw [LobData.div_append alike positive, ← given.buffer, given.sentAny]
      by_cases first : data.size / lob.transferSize = 0 <;> simp [first]
    · intro none
      rw [LobData.size_append alike] at none
      omega

/-- What is left to send at the end. -/
theorem Given.unsent (given : Given lob data started wtr) :
    wtr.unsent =
      if started = true ∨ data.size ≠ 0 then
        LobData.lastPieces data (data.remainder lob.transferSize)
      else [] := by
  have positive := lob.transferSize_pos
  rw [LobWriter.unsent, LobData.lastPieces, given.buffer, given.sentAny]
  by_cases none : data.size = 0
  · have whole : data.isEmpty = true := (LobData.isEmpty_iff data).2 none
    have rest : (data.remainder lob.transferSize).isEmpty = true :=
      (LobData.isEmpty_iff _).2 (by rw [LobData.size_remainder, none, Nat.zero_mod])
    have data_eq : LobData.empty wtr.lob.kind = data := by
      rw [given.alive.kind, ← given.kind]
      exact (LobData.eq_empty_of_isEmpty whole).symm
    simp [none, whole, rest, given.explicitEmpty none, data_eq]
  · have whole : data.isEmpty = false :=
      Bool.eq_false_iff.2 fun empty => none ((LobData.isEmpty_iff data).1 empty)
    by_cases left : (data.remainder lob.transferSize).isEmpty
    · -- All was sent in full pieces, so there was one.
      have none_left : data.size % lob.transferSize = 0 := by
        rw [← LobData.size_remainder]
        exact (LobData.isEmpty_iff _).1 left
      have sent : data.size / lob.transferSize ≠ 0 := by
        intro zero
        have parts := Nat.mod_add_div data.size lob.transferSize
        rw [none_left, zero] at parts
        omega
      simp [left, whole, sent]
    · simp [left, none]

end LobWriter

/-! ## Calls that succeed -/

/-- A round trip of an open handle whose answer is a success is done. -/
theorem Undisturbed.guarded_done {η : Type} {g : Guards} {c : Call} {r : c.Reply}
    (calm : Undisturbed host g w) (closed : Error)
    (answer : (host.answer c w.session).result.1 = .done r) (h : η) :
    ∃ w', Operation.guarded g closed c host h w = (.done r, h, w') ∧ Undisturbed host g w' := by
  obtain ⟨w', made, -, calm'⟩ := calm.guarded closed c h
  rw [answer] at made
  exact ⟨w', made, calm'⟩

namespace LobWriter

variable {wtr : LobWriter} {data block : LobData} {started : Bool}

section Accepted

variable (accepts : Accepts host lob.locator)

include accepts

theorem send_accepted (piece : LobData) (alive : lob.Alive wtr.lob)
    (calm : Undisturbed host lob.guards w) :
    ∃ w', send piece host wtr w = (.done (), wtr.sent piece, w') ∧
      Undisturbed host lob.guards w' := by
  rw [← alive.guards] at calm
  obtain ⟨w', made, calm'⟩ :=
    calm.guarded_done .lobClosed (accepts.writes wtr.offset piece w.session) wtr.lob
  rw [← alive.locator] at made
  refine ⟨w', ?_, by rwa [← alive.guards]⟩
  rw [send_apply, made]

theorem sendPieces_accepted (size count : Nat) (alive : lob.Alive wtr.lob)
    (calm : Undisturbed host lob.guards w) :
    ∃ wtr' w', sendPieces size count host wtr w = (.done (), wtr', w') ∧
      Undisturbed host lob.guards w' := by
  induction count generalizing wtr w with
  | zero => exact ⟨wtr, w, rfl, calm⟩
  | succ count ih =>
    have cut : lob.Alive { wtr with buffer := wtr.buffer.drop size }.lob := alive
    obtain ⟨w₁, one, calm₁⟩ := send_accepted accepts (wtr.buffer.take size) cut calm
    rw [sendPieces_succ, bind_of_done one]
    exact ih alive.forgetLength calm₁

/-- A block of the right kind is written. -/
theorem Given.write_accepted (given : Given lob data started wtr) (kind : block.kind = lob.kind)
    (calm : Undisturbed host lob.guards w) :
    ∃ wtr' w', write block host wtr w = (.done (), wtr', w') ∧
      Undisturbed host lob.guards w' := by
  have fits : ¬ block.kind ≠ wtr.lob.kind := by rw [kind, given.alive.kind]; simp
  obtain ⟨p, there⟩ := Option.isSome_iff_exists.1 given.alive.position
  have opened : onLob Lob.open? host wtr w = (.done p, wtr, w) := by
    rw [← given.alive.guards] at calm
    rw [onLob_apply, Lob.open?_apply, calm.stops_none, there]
  rw [write, bind_of_done (get_apply host wtr w), given.failure]
  simp only [Option.isSome_none, Bool.false_eq_true, fits, if_false]
  rw [bind_of_done opened]
  split
  · exact ⟨_, w, rfl, calm⟩
  · rw [bind_of_done (modify_apply host wtr w _)]
    exact sendPieces_accepted accepts _ _ given.alive calm

/-- All blocks are written, and the writer stands behind the data that they make up. -/
theorem Given.writeBlocks_accepted {blocks : List LobData} (given : Given lob data started wtr)
    (kinds : ∀ b ∈ blocks, b.kind = lob.kind) (calm : Undisturbed host lob.guards w)
    {before : List Exchange}
    (behind : w.exchanges = before ++ writes lob.locator 1 (data.fullPieces lob.transferSize)) :
    ∃ wtr' w', writeBlocks blocks host wtr w = (.done (), wtr', w') ∧
      Undisturbed host lob.guards w' ∧
      Given lob (data.append (LobData.joined lob.kind blocks)) (started || !blocks.isEmpty) wtr' ∧
      w'.exchanges = before ++ writes lob.locator 1
        ((data.append (LobData.joined lob.kind blocks)).fullPieces lob.transferSize) := by
  induction blocks generalizing data started wtr w with
  | nil =>
    have same : data.append (LobData.empty lob.kind) = data := by
      rw [← given.kind, LobData.append_empty]
    rw [LobData.joined, same]
    exact ⟨wtr, w, rfl, calm, by simpa using given, behind⟩
  | cons block rest ih =>
    have kind : block.kind = lob.kind := kinds block (by simp)
    have alike : data.kind = block.kind := given.kind.trans kind.symm
    obtain ⟨wtr₁, w₁, wrote, calm₁⟩ := given.write_accepted accepts kind calm
    obtain ⟨given₁, added⟩ := given.write_done wrote
    have behind₁ : w₁.exchanges = before ++
        writes lob.locator 1 ((data.append block).fullPieces lob.transferSize) := by
      rw [added, behind, given.offset, given.buffer, List.append_assoc, ← writes_append,
        LobData.fullPieces_append alike lob.transferSize_pos]
    obtain ⟨wtr', w', others, calm', given', behind'⟩ :=
      ih given₁ (fun b mem => kinds b (List.mem_cons_of_mem _ mem)) calm₁ behind₁
    have joined : (data.append block).append (LobData.joined lob.kind rest) =
        data.append (LobData.joined lob.kind (block :: rest)) := by
      rw [LobData.joined]
      exact LobData.append_assoc alike (kind.trans (LobData.kind_joined fun b mem =>
        kinds b (List.mem_cons_of_mem _ mem)).symm)
    rw [joined] at given' behind'
    refine ⟨wtr', w', ?_, calm', by simpa using given', behind'⟩
    rw [writeBlocks, bind_of_done wrote]
    exact others

theorem flush_accepted (alive : lob.Alive wtr.lob) (calm : Undisturbed host lob.guards w) :
    ∃ wtr' w', flush host wtr w = (.done (), wtr', w') ∧ lob.Alive wtr'.lob ∧
      Undisturbed host lob.guards w' := by
  rw [flush, bind_of_done (get_apply host wtr w)]
  split
  · rw [bind_of_done (modify_apply host wtr w _)]
    have emptied : lob.Alive { wtr with buffer := LobData.empty wtr.lob.kind }.lob := alive
    obtain ⟨w', sent, calm'⟩ := send_accepted accepts wtr.buffer emptied calm
    exact ⟨_, w', sent, alive.forgetLength, calm'⟩
  · split
    · obtain ⟨w', sent, calm'⟩ := send_accepted accepts (LobData.empty wtr.lob.kind) alive calm
      exact ⟨_, w', sent, alive.forgetLength, calm'⟩
    · exact ⟨wtr, w, rfl, alive, calm⟩

theorem finish_accepted (alive : lob.Alive wtr.lob) (unfailed : wtr.failure = none)
    (calm : Undisturbed host lob.guards w) :
    ∃ wtr' w', finish host wtr w = (.done (), wtr', w') := by
  obtain ⟨wtr₁, w₁, flushed, alive₁, calm₁⟩ := flush_accepted accepts alive calm
  have own := calm₁
  rw [← alive₁.guards] at own
  obtain ⟨w', made, -⟩ := own.guarded_done .lobClosed (accepts.commits w₁.session) wtr₁.lob
  rw [← alive₁.locator] at made
  refine ⟨wtr₁, w', ?_⟩
  rw [finish, bind_of_done (get_apply host wtr w), unfailed]
  simp only
  rw [bind_of_done flushed, commit_apply, made]

end Accepted

end LobWriter

/-- The sizes of the pieces of content: full ones, a shorter one for the rest, and an empty one
for no content at all. -/
theorem LobData.map_size_pieces (size : Nat) (d : LobData) :
    (d.pieces size).map LobData.size =
      List.replicate (d.size / size) size ++
        if d.size % size ≠ 0 then [d.size % size] else if d.size = 0 then [0] else [] := by
  have full : (d.fullPieces size).map LobData.size = List.replicate (d.size / size) size :=
    map_size_cuts (Nat.div_mul_le_self d.size size)
  rw [pieces_eq, List.map_append, full, lastPieces, ← size_remainder]
  congr 1
  by_cases left : (d.remainder size).isEmpty
  · have none_left := (isEmpty_iff _).1 left
    by_cases whole : d.isEmpty
    · simp [left, whole, none_left, (isEmpty_iff d).1 whole]
    · have units : d.size ≠ 0 := fun none => whole ((isEmpty_iff d).2 none)
      simp [left, whole, none_left, units]
  · have some_left : (d.remainder size).size ≠ 0 := fun none => left ((isEmpty_iff _).2 none)
    simp [left, some_left]

namespace LobWriter

/-- Data of the object's kind that is written in blocks and then finished, while every call
succeeds, is sent in pieces of the transfer size, the last of which may be shorter, at offsets
that follow one another from 1, and committed once behind them. The pieces put together are the
data, and nothing but the data decides on them; of no units at all an empty piece is sent if there
was a block. -/
theorem blocks_sent_in_pieces {blocks : List LobData} (opened : lob.position.isSome)
    (kinds : ∀ b ∈ blocks, b.kind = lob.kind) (calm : Undisturbed host lob.guards w)
    (accepts : Accepts host lob.locator) :
    let size := lob.transferSize
    let data := LobData.joined lob.kind blocks
    let pieces := if blocks = [] then [] else data.pieces size
    (∃ wtr w₁ wtr' w₂, start host lob w = (.done (make lob), lob, w) ∧
      writeBlocks blocks host (make lob) w = (.done (), wtr, w₁) ∧
      finish host wtr w₁ = (.done (), wtr', w₂) ∧
      w₂.exchanges = w.exchanges ++ writes lob.locator 1 pieces ++
        [⟨.commitLob lob.locator, .done ()⟩]) ∧
    pieces.map LobData.size = List.replicate (data.size / size) size ++
      (if data.size % size ≠ 0 then [data.size % size]
        else if data.size = 0 ∧ blocks ≠ [] then [0] else []) ∧
    LobData.joined lob.kind pieces = data ∧
    (data.size ≠ 0 → pieces = data.pieces size) := by
  intro size data pieces
  have kind : data.kind = lob.kind := LobData.kind_joined kinds
  have started : start host lob w = (.done (make lob), lob, w) := by
    obtain ⟨p, there⟩ := Option.isSome_iff_exists.1 opened
    have found : Lob.open? host lob w = (.done p, lob, w) := by
      rw [Lob.open?_apply, calm.stops_none, there]
    rw [start, bind_of_done found]
    rfl
  have unsent : w.exchanges = w.exchanges ++
      writes lob.locator 1 ((LobData.empty lob.kind).fullPieces lob.transferSize) := by
    simp [LobData.fullPieces, LobData.cuts, writes]
  obtain ⟨wtr, w₁, wrote, calm₁, given, behind⟩ :=
    (Given.make opened).writeBlocks_accepted accepts kinds calm unsent
  have whole : (LobData.empty lob.kind).append data = data := by
    rw [← kind, LobData.empty_append]
  rw [whole] at given behind
  obtain ⟨wtr', w₂, finished⟩ := finish_accepted accepts given.alive given.failure calm₁
  have sent : data.fullPieces size ++ wtr.unsent = pieces := by
    rw [given.unsent]
    cases blocks with
    | nil =>
      have none : data.size = 0 := LobData.size_empty _
      simp [pieces, none, LobData.fullPieces, LobData.cuts]
    | cons b rest => simp [pieces, LobData.pieces_eq, size]
  refine ⟨⟨wtr, w₁, wtr', w₂, started, wrote, finished, ?_⟩, ?_, ?_, ?_⟩
  · rw [(LobWriter.finish_done finished).2, behind, given.alive.locator, given.offset,
      List.append_assoc w.exchanges, ← writes_append, sent]
  · cases blocks with
    | nil =>
      have none : data.size = 0 := LobData.size_empty _
      simp [pieces, none]
    | cons b rest => simpa [pieces] using LobData.map_size_pieces size data
  · cases blocks with
    | nil => rfl
    | cons b rest =>
      have joined := LobData.joined_pieces size data
      rw [kind] at joined
      simpa [pieces] using joined
  · intro units
    refine if_neg fun none => units ?_
    simp [data, none, LobData.joined]

/-- A session that takes whatever is written. -/
def takingHost : Host Unit where
  answer c _ := ⟨(), some ⟨0⟩, [], [], (), match c with
    | .writeLob _ _ _ | .commitLob _ => .ok ()
    | _ => .error .invalidLob⟩
  patience := 1

/-- An empty object with a transfer size of two. -/
def twoByTwo : Lob := ⟨⟨[1], .clob, 0, 8, false⟩, 2, some ⟨1, false, some 0⟩, ⟨⟨1⟩, ⟨0⟩⟩⟩

/-- Four blocks, one of them empty, make three pieces. -/
theorem four_blocks_in_three_pieces :
    ∃ wtr w₁ wtr' w₂,
      writeBlocks [.text "a", .text "", .text "bcd", .text "é"] takingHost (make twoByTwo)
        (World.start ()) = (.done (), wtr, w₁) ∧
      finish takingHost wtr w₁ = (.done (), wtr', w₂) ∧
      w₂.calls = [.writeLob twoByTwo.locator 1 (.text "ab"),
        .writeLob twoByTwo.locator 3 (.text "cd"), .writeLob twoByTwo.locator 5 (.text "é"),
        .commitLob twoByTwo.locator] := by
  have opened : twoByTwo.position.isSome := rfl
  have kinds : ∀ b ∈ [LobData.text "a", .text "", .text "bcd", .text "é"],
      b.kind = twoByTwo.kind := by decide
  have calm : Undisturbed takingHost twoByTwo.guards (World.start ()) :=
    ⟨fun _ _ _ mem => (List.not_mem_nil mem).elim, fun _ mem => (List.not_mem_nil mem).elim, rfl,
      rfl⟩
  obtain ⟨⟨wtr, w₁, wtr', w₂, -, wrote, finished, made⟩, -⟩ :=
    blocks_sent_in_pieces opened kinds calm ⟨fun _ _ _ => rfl, fun _ => rfl⟩
  refine ⟨wtr, w₁, wtr', w₂, wrote, finished, ?_⟩
  rw [World.calls, made]
  rfl

end LobWriter

end SqlBinder

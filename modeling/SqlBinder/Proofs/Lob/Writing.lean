import SqlBinder.Proofs.Lob.Calls

/-!
What a writer that is done has sent: the pieces of its data, each of the transfer size but for a
shorter last one, at offsets that follow one another from 1, and a commit behind them. The pieces
put together are the data.

A run that is done is followed from the writer that it began with: each step of it succeeded, and so
its exchanges are known. Cutting is a matter of the content alone; that the pieces put together are
the content is an induction on their number.
-/
namespace SqlBinder

open Operation

/-! ## Content cut into pieces -/

namespace LobData

/-- Pieces put together. -/
def joined (kind : LobKind) : List LobData → LobData
  | [] => empty kind
  | p :: rest => p.append (joined kind rest)

/-- The first `count` pieces of `size` units. -/
def cuts (size : Nat) : Nat → LobData → List LobData
  | 0, _ => []
  | count + 1, d => d.take size :: cuts size count (d.drop size)

/-- What is left behind `count` pieces of `size` units. -/
def uncut (size : Nat) : Nat → LobData → LobData
  | 0, d => d
  | count + 1, d => uncut size count (d.drop size)

/-- What is sent at the end: the rest if there is one, and an empty piece for no content
at all. -/
def lastPieces (whole rest : LobData) : List LobData :=
  if rest.isEmpty then if whole.isEmpty then [whole] else [] else [rest]

/-- The pieces in which content is written. -/
def pieces (size : Nat) (d : LobData) : List LobData :=
  cuts size (d.size / size) d ++ lastPieces d (uncut size (d.size / size) d)

theorem isEmpty_iff (d : LobData) : d.isEmpty ↔ d.size = 0 := by
  cases d with
  | text s => simp [isEmpty, size, ← String.length_eq_zero_iff]
  | bytes b => simp [isEmpty, size]

theorem eq_empty_of_isEmpty {d : LobData} (h : d.isEmpty) : d = empty d.kind := by
  cases d with
  | text s => simp_all [isEmpty, empty, kind]
  | bytes b => simp_all [isEmpty, empty, kind]

@[simp] theorem empty_append (d : LobData) : (empty d.kind).append d = d := by
  cases d <;> simp [empty, kind, append]

@[simp] theorem append_empty (d : LobData) : d.append (empty d.kind) = d := by
  cases d <;> simp [empty, kind, append]

theorem append_assoc {d e f : LobData} (h : d.kind = e.kind) (h' : e.kind = f.kind) :
    (d.append e).append f = d.append (e.append f) := by
  cases d <;> cases e <;> cases f <;> simp_all [append, kind, String.append_assoc]

@[simp] theorem kind_uncut (size count : Nat) (d : LobData) :
    (uncut size count d).kind = d.kind := by
  induction count generalizing d with
  | zero => rfl
  | succ count ih => rw [uncut, ih, kind_drop]

/-- Pieces and what is left make up the whole. -/
theorem joined_cuts (size count : Nat) (d : LobData) {ps : List LobData}
    (h : joined d.kind ps = uncut size count d) :
    joined d.kind (cuts size count d ++ ps) = d := by
  induction count generalizing d with
  | zero => exact h
  | succ count ih =>
    have rest := ih (d.drop size) (by simpa [uncut] using h)
    rw [kind_drop] at rest
    rw [cuts, List.cons_append, joined, rest, take_append_drop]

theorem joined_lastPieces (whole : LobData) {rest : LobData} (h : rest.kind = whole.kind) :
    joined whole.kind (lastPieces whole rest) = rest := by
  unfold lastPieces
  -- An empty rest is sent only if there is no content at all.
  by_cases hr : rest.isEmpty
  · by_cases he : whole.isEmpty
    · have same : rest = whole := by
        rw [eq_empty_of_isEmpty hr, eq_empty_of_isEmpty he, h]
      simp [he, joined, same]
    · simp [hr, he, joined, ← h, ← eq_empty_of_isEmpty hr]
  · simp [hr, joined, ← h]

/-- The pieces of content put together are the content. -/
theorem joined_pieces (size : Nat) (d : LobData) : joined d.kind (d.pieces size) = d :=
  joined_cuts size _ d (joined_lastPieces d (kind_uncut size _ d))

end LobData

/-! ## Writers that are done -/

variable {σ α : Type} {host : Host σ} {w w' : World σ}

/-- Pieces that were written one behind the other from an offset on. -/
def writes (l : LobLocator) : Nat → List LobData → List Exchange
  | _, [] => []
  | offset, p :: rest => ⟨.writeLob l offset p, .done ()⟩ :: writes l (offset + p.size) rest

/-- The offset behind pieces. -/
def offsetBehind (offset : Nat) : List LobData → Nat
  | [] => offset
  | p :: rest => offsetBehind (offset + p.size) rest

theorem writes_append (l : LobLocator) (offset : Nat) (ps qs : List LobData) :
    writes l offset (ps ++ qs) = writes l offset ps ++ writes l (offsetBehind offset ps) qs := by
  induction ps generalizing offset with
  | nil => simp [writes, offsetBehind]
  | cons p rest ih => simp [writes, offsetBehind, ih]

namespace Lob

/-- The handle once its length is not known any more. -/
def forgetLength (lob : Lob) : Lob :=
  { lob with position := lob.position.map fun p => { p with length := none } }

@[simp] theorem forgetLength_forgetLength (lob : Lob) :
    lob.forgetLength.forgetLength = lob.forgetLength := by
  cases h : lob.position <;> simp [forgetLength, h]

theorem open?_apply (host : Host σ) (lob : Lob) (w : World σ) :
    open? host lob w =
      match firstFired w.signals (lob.guards.stops .lobClosed), lob.position with
      | some e, _ => (.failed e, lob, w)
      | none, some p => (.done p, lob, w)
      | none, none => (.failed .lobClosed, lob, w) := by
  simp only [open?, check, bind_apply, get_apply, signals_apply, Guards.check]
  cases firstFired w.signals (lob.guards.stops .lobClosed) with
  | some e => rfl
  | none => cases lob.position <;> rfl

theorem open?_done {lob lob' : Lob} {p : LobPosition}
    (run : open? host lob w = (.done p, lob', w')) :
    lob' = lob ∧ w' = w ∧ lob.position = some p := by
  rw [open?_apply] at run
  cases hf : firstFired w.signals (lob.guards.stops .lobClosed) with
  | some e => simp [hf] at run
  | none =>
    cases hp : lob.position with
    | none => simp [hf, hp] at run
    | some q =>
      simp only [hf, hp, Prod.mk.injEq, Outcome.done.injEq] at run
      exact ⟨run.2.1.symm, run.2.2.symm, by rw [run.1]⟩

/-- Behind a failure the handle is closed and its signal has fired. -/
theorem invalidate_apply (host : Host σ) (lob : Lob) (w : World σ) :
    invalidate host lob w =
      (.done (), { lob with position := none },
        if lob.position.isSome then w.fire lob.guards.own else w) := by
  obtain ⟨l, size, position, g⟩ := lob
  cases position <;> rfl

end Lob

namespace LobWriter

/-- An operation on the object, as one of the writer. -/
theorem onLob_apply (t : Operation σ Lob α) (host : Host σ) (wtr : LobWriter) (w : World σ) :
    onLob t host wtr w =
      match t host wtr.lob w with
      | (.done a, lob, w) => (.done a, { wtr with lob := lob }, w)
      | (.failed e, lob, w) => (.failed e, { wtr with lob := lob }, w)
      | (.stuck why, _, w) => (.stuck why, wtr, w) := by
  simp only [onLob, bind_apply, get_apply, Operation.on]
  rcases t host wtr.lob w with ⟨_ | _ | _, _, _⟩ <;> rfl

/-- The writer behind a piece that was taken. -/
def sent (wtr : LobWriter) (piece : LobData) : LobWriter :=
  { wtr with
    lob := wtr.lob.forgetLength
    offset := wtr.offset + piece.size
    sentAny := true }

/-- A piece is one guarded round trip; if it fails the object is closed. -/
theorem send_apply (piece : LobData) (host : Host σ) (wtr : LobWriter) (w : World σ) :
    send piece host wtr w =
      match guarded wtr.lob.guards .lobClosed (.writeLob wtr.lob.locator wtr.offset piece)
        host wtr.lob w with
      | (.done _, lob, w) => (.done (), { wtr with lob := lob }.sent piece, w)
      | (.failed e, lob, w) =>
        (.failed e, { wtr with lob := { lob with position := none }, failure := some e },
          if lob.position.isSome then w.fire lob.guards.own else w)
      | (.stuck why, _, w) => (.stuck why, wtr, w) := by
  simp only [send, bind_apply, get_apply, attempt, onLob_apply, Lob.roundTrip]
  rcases guarded wtr.lob.guards .lobClosed (.writeLob wtr.lob.locator wtr.offset piece)
    host wtr.lob w with ⟨_ | e | _, lob, w₁⟩
  · rfl
  · simp [bind_apply, onLob_apply, Lob.invalidate_apply]
  · rfl

/-- A commit is one guarded round trip; if it fails the object is closed. -/
theorem commit_apply (host : Host σ) (wtr : LobWriter) (w : World σ) :
    commit host wtr w =
      match guarded wtr.lob.guards .lobClosed (.commitLob wtr.lob.locator) host wtr.lob w with
      | (.done _, lob, w) => (.done (), { wtr with lob := lob }, w)
      | (.failed e, lob, w) =>
        (.failed e, { wtr with lob := { lob with position := none } },
          if lob.position.isSome then w.fire lob.guards.own else w)
      | (.stuck why, _, w) => (.stuck why, wtr, w) := by
  simp only [commit, bind_apply, get_apply, attempt, onLob_apply, Lob.roundTrip,
    Lob.closingOnFailure]
  rcases guarded wtr.lob.guards .lobClosed (.commitLob wtr.lob.locator) host wtr.lob w
    with ⟨_ | e | _, lob, w₁⟩
  · rfl
  · simp [bind_apply, Lob.invalidate_apply]
  · rfl

theorem send_done {piece : LobData} {wtr wtr' : LobWriter}
    (run : send piece host wtr w = (.done (), wtr', w')) :
    wtr' = wtr.sent piece ∧
      w'.exchanges = w.exchanges ++ writes wtr.lob.locator wtr.offset [piece] := by
  rw [send_apply] at run
  rcases made : guarded wtr.lob.guards .lobClosed (.writeLob wtr.lob.locator wtr.offset piece)
    host wtr.lob w with ⟨r | e | _, lob, w₁⟩ <;> rw [made] at run
  · obtain ⟨rfl, added⟩ := guarded_done made
    simp only [Prod.mk.injEq, true_and] at run
    obtain ⟨rfl, rfl⟩ := run
    exact ⟨rfl, added⟩
  · simp at run
  · simp at run

theorem sendPieces_succ (size count : Nat) (host : Host σ) (wtr : LobWriter) (w : World σ) :
    sendPieces size (count + 1) host wtr w =
      (send (wtr.buffer.take size) >>= fun _ => sendPieces size count) host
        { wtr with buffer := wtr.buffer.drop size } w :=
  rfl

theorem sendPieces_done {size count : Nat} {wtr wtr' : LobWriter}
    (run : sendPieces size count host wtr w = (.done (), wtr', w')) :
    w'.exchanges = w.exchanges ++
        writes wtr.lob.locator wtr.offset (wtr.buffer.cuts size count) ∧
      wtr' = { wtr with
        lob := if count = 0 then wtr.lob else wtr.lob.forgetLength
        buffer := wtr.buffer.uncut size count
        offset := offsetBehind wtr.offset (wtr.buffer.cuts size count)
        sentAny := wtr.sentAny || count ≠ 0 } := by
  -- One piece is cut off the buffer and sent; the writer behind it sends the others.
  induction count generalizing wtr w with
  | zero =>
    obtain ⟨rfl, rfl⟩ : wtr = wtr' ∧ w = w' := by simpa [sendPieces] using run
    simp [LobData.cuts, LobData.uncut, writes, offsetBehind]
  | succ count ih =>
    rw [sendPieces_succ] at run
    obtain ⟨u, wtr₁, w₁, one, rest⟩ := bind_done run
    obtain ⟨rfl, added₁⟩ := send_done one
    obtain ⟨added, rfl⟩ := ih rest
    constructor
    · rw [added, added₁, List.append_assoc]
      rfl
    · by_cases hc : count = 0 <;>
        simp [sent, LobData.cuts, LobData.uncut, offsetBehind, hc]

/-- Why a write is refused. -/
def Refuses (wtr : LobWriter) (data : LobData) (w : World σ) : Prop :=
  wtr.failure.isSome ∨ data.kind ≠ wtr.lob.kind ∨ wtr.lob.position = none ∨
    ∃ e, firstFired w.signals (wtr.lob.guards.stops .lobClosed) = some e

/-- A write is refused and leaves no trace; or it was of the right kind, on an open object, and it
leaves a mark if there is no data and else sends the full pieces. -/
theorem write_cases {data : LobData} {out : Outcome Unit} {wtr wtr' : LobWriter}
    (run : write data host wtr w = (out, wtr', w')) :
    (Refuses wtr data w ∧ (∃ e, out = .failed e) ∧ wtr' = wtr ∧ w' = w) ∨
      data.kind = wtr.lob.kind ∧ wtr.lob.position.isSome ∧
        if data.isEmpty then
          out = .done () ∧ wtr' = { wtr with explicitEmpty := true } ∧ w' = w
        else
          sendPieces wtr.lob.transferSize
            ((wtr.buffer.append data).size / wtr.lob.transferSize) host
            { wtr with buffer := wtr.buffer.append data } w = (out, wtr', w') := by
  unfold write at run
  rw [bind_of_done (get_apply host wtr w)] at run
  by_cases failed : wtr.failure.isSome
  · rw [if_pos failed] at run
    cases run
    exact .inl ⟨.inl failed, ⟨_, rfl⟩, rfl, rfl⟩
  by_cases other : data.kind ≠ wtr.lob.kind
  · rw [if_neg failed, if_pos other] at run
    cases run
    exact .inl ⟨.inr (.inl other), ⟨_, rfl⟩, rfl, rfl⟩
  rw [if_neg failed, if_neg other, bind_apply, onLob_apply, Lob.open?_apply] at run
  cases stopped : firstFired w.signals (wtr.lob.guards.stops .lobClosed) with
  | some e =>
    rw [stopped] at run
    cases run
    exact .inl ⟨.inr (.inr (.inr ⟨e, stopped⟩)), ⟨_, rfl⟩, rfl, rfl⟩
  | none =>
    cases there : wtr.lob.position with
    | none =>
      rw [stopped, there] at run
      cases run
      exact .inl ⟨.inr (.inr (.inl there)), ⟨_, rfl⟩, rfl, rfl⟩
    | some p =>
      rw [stopped, there] at run
      refine .inr ⟨Decidable.not_not.1 other, rfl, ?_⟩
      dsimp only at run
      split at run
      · next empty =>
        cases run
        rw [if_pos empty]
        exact ⟨rfl, rfl, rfl⟩
      · next units =>
        rw [if_neg units]
        exact run

/-- A write that is done was of the right kind, on an open object; it has sent every full
piece. -/
theorem write_done {data : LobData} {wtr wtr' : LobWriter}
    (run : write data host wtr w = (.done (), wtr', w')) :
    data.kind = wtr.lob.kind ∧ wtr.lob.position.isSome ∧
      if data.isEmpty then wtr' = { wtr with explicitEmpty := true } ∧ w' = w
      else
        sendPieces wtr.lob.transferSize
          ((wtr.buffer.append data).size / wtr.lob.transferSize) host
          { wtr with buffer := wtr.buffer.append data } w = (.done (), wtr', w') := by
  rcases write_cases run with ⟨-, ⟨e, same⟩, -⟩ | ⟨kind, opened, rest⟩
  · cases same
  · refine ⟨kind, opened, ?_⟩
    split at rest
    · next empty =>
      rw [if_pos empty]
      exact rest.2
    · next units =>
      rw [if_neg units]
      exact rest

theorem commit_done {wtr wtr' : LobWriter} (run : commit host wtr w = (.done (), wtr', w')) :
    wtr' = wtr ∧ w'.exchanges = w.exchanges ++ [⟨.commitLob wtr.lob.locator, .done ()⟩] := by
  rw [commit_apply] at run
  rcases made : guarded wtr.lob.guards .lobClosed (.commitLob wtr.lob.locator) host wtr.lob w
    with ⟨r | e | _, lob, w₁⟩ <;> rw [made] at run
  · obtain ⟨rfl, added⟩ := guarded_done made
    simp only [Prod.mk.injEq, true_and] at run
    obtain ⟨rfl, rfl⟩ := run
    exact ⟨rfl, added⟩
  · simp at run
  · simp at run

/-- What a flush sends. -/
def unsent (wtr : LobWriter) : List LobData :=
  if wtr.buffer.isEmpty then
    if wtr.explicitEmpty && !wtr.sentAny then [LobData.empty wtr.lob.kind] else []
  else [wtr.buffer]

theorem flush_done {wtr wtr' : LobWriter} (run : flush host wtr w = (.done (), wtr', w')) :
    wtr'.lob = (if wtr.unsent = [] then wtr.lob else wtr.lob.forgetLength) ∧
      w'.exchanges = w.exchanges ++ writes wtr.lob.locator wtr.offset wtr.unsent := by
  unfold flush at run
  rw [bind_of_done (get_apply host wtr w)] at run
  by_cases hb : wtr.buffer.isEmpty
  · by_cases he : wtr.explicitEmpty && !wtr.sentAny
    · simp only [hb, he, Bool.not_true, Bool.false_eq_true, if_true, if_false] at run
      obtain ⟨rfl, added⟩ := send_done run
      simp [unsent, hb, he, added, sent]
    · simp only [hb, he, Bool.not_true, Bool.false_eq_true, if_false, pure_apply, Prod.mk.injEq,
        true_and] at run
      obtain ⟨rfl, rfl⟩ := run
      simp [unsent, hb, he, writes]
  · simp only [hb, Bool.not_false, if_true] at run
    rw [bind_of_done (modify_apply host wtr w _)] at run
    obtain ⟨rfl, added⟩ := send_done run
    simp [unsent, hb, added, sent]

/-- A finish that is done has sent what was left and committed it. -/
theorem finish_done {wtr wtr' : LobWriter} (run : finish host wtr w = (.done (), wtr', w')) :
    wtr'.lob = (if wtr.unsent = [] then wtr.lob else wtr.lob.forgetLength) ∧
      w'.exchanges = w.exchanges ++ writes wtr.lob.locator wtr.offset wtr.unsent ++
        [⟨.commitLob wtr.lob.locator, .done ()⟩] := by
  unfold finish at run
  rw [bind_of_done (get_apply host wtr w)] at run
  cases hf : wtr.failure with
  | some e => simp [hf] at run
  | none =>
    simp only [hf] at run
    obtain ⟨u, wtr₁, w₁, flushed, run⟩ := bind_done run
    obtain ⟨hl, added₁⟩ := flush_done flushed
    obtain ⟨rfl, added⟩ := commit_done run
    have same : wtr'.lob.locator = wtr.lob.locator := by
      rw [hl]
      split <;> rfl
    exact ⟨hl, by rw [added, added₁, same]⟩

/-- A first write sends the full pieces of its data and leaves the others to the end. -/
theorem write_make_done {data : LobData} {lob : Lob} {wtr : LobWriter}
    (run : write data host (make lob) w = (.done (), wtr, w')) :
    data.kind = lob.kind ∧
      wtr.lob = (if data.size / lob.transferSize = 0 then lob else lob.forgetLength) ∧
      wtr.offset = offsetBehind 1 (data.cuts lob.transferSize (data.size / lob.transferSize)) ∧
      wtr.unsent =
        LobData.lastPieces data (data.uncut lob.transferSize (data.size / lob.transferSize)) ∧
      w'.exchanges = w.exchanges ++
        writes lob.locator 1 (data.cuts lob.transferSize (data.size / lob.transferSize)) := by
  obtain ⟨hk, -, rest⟩ := write_done run
  have hk : data.kind = lob.kind := hk
  by_cases he : data.isEmpty
  · have none : data.size = 0 := (LobData.isEmpty_iff data).1 he
    simp only [he, if_true] at rest
    obtain ⟨rfl, rfl⟩ := rest
    have whole : LobData.empty lob.kind = data := by
      rw [← hk]
      exact (LobData.eq_empty_of_isEmpty he).symm
    simp [hk, none, make, LobData.cuts, LobData.uncut, writes, offsetBehind, unsent,
      LobData.lastPieces, he, whole]
  · have same : (LobData.empty lob.kind).append data = data := by
      rw [← hk, LobData.empty_append]
    simp only [he, if_false, Bool.false_eq_true, make, same] at rest
    obtain ⟨added, rfl⟩ := sendPieces_done rest
    exact ⟨hk, rfl, rfl, by simp [unsent, LobData.lastPieces, he], added⟩

end LobWriter

/-- Some piece is sent of any content. -/
theorem LobData.lastPieces_ne_nil {size : Nat} {d : LobData} (h : d.size / size = 0) :
    lastPieces d (d.uncut size (d.size / size)) ≠ [] := by
  rw [h, uncut, lastPieces]
  by_cases he : d.isEmpty <;> simp [he]

/-- An object that was filled got the pieces of the content from offset 1 on, and a commit.
Its handle is open still. -/
theorem Connection.fill_done {data : LobData} {lob lob' : Lob}
    (run : fill data host lob w = (.done (), lob', w')) :
    lob' = lob.forgetLength ∧ lob.position.isSome ∧ data.kind = lob.kind ∧
      w'.exchanges = w.exchanges ++ writes lob.locator 1 (data.pieces lob.transferSize) ++
        [⟨.commitLob lob.locator, .done ()⟩] := by
  rw [fill_eq] at run
  obtain ⟨p, lob₁, w₁, opened, rest⟩ := bind_done run
  obtain ⟨rfl, rfl, hp⟩ := Lob.open?_done opened
  rw [bind_of_done (get_apply host lob₁ w₁)] at rest
  obtain ⟨⟨r, writer⟩, lob₂, w₂, written, ending⟩ := bind_done rest
  dsimp only at ending
  rw [bind_of_done (modify_apply host lob₂ w₂ _)] at ending
  obtain ⟨rfl, rfl, rfl⟩ := ofExcept_done ending
  obtain ⟨-, ⟨u, -, both⟩ | ⟨e, he, -⟩⟩ := on_done written
  · obtain ⟨u, wtr, w₃, wrote, finished⟩ := bind_done both
    obtain ⟨hk, first, offset, left, added₁⟩ := LobWriter.write_make_done wrote
    obtain ⟨last, added⟩ := LobWriter.finish_done finished
    have same : wtr.lob.locator = lob₁.locator := by
      rw [first]
      split <;> rfl
    refine ⟨?_, by simp [hp], hk, ?_⟩
    · rw [last, left, first]
      -- Whether the length was forgotten early or late makes no difference.
      by_cases hc : data.size / lob₁.transferSize = 0
      · rw [if_neg (LobData.lastPieces_ne_nil hc), if_pos hc]
      · rw [if_neg hc, Lob.forgetLength_forgetLength, ite_self]
    · rw [added, added₁, left, offset, same, LobData.pieces, writes_append]
      simp only [List.append_assoc]
  · simp at he

end SqlBinder

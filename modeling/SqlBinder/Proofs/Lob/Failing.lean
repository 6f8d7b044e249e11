import SqlBinder.Proofs.Lob.Finishing

/-!
Writers that meet a failure. A piece that fails closes the writer and its object: the write that
met it gives its error, every later write is refused, finishing gives the error once more, and no
further call is made, so nothing is committed. What was sent until then are the first pieces of the
data that was accepted. A write of the other kind is refused and leaves no trace.
-/
namespace SqlBinder

open Operation
open Client (WritePart)

variable {σ : Type} {host : Host σ} {lob lob' : Lob} {wtr wtr' wtr₁ : LobWriter}
  {w w' w₀ w₁ : World σ} {e e' : Error} {offset : Nat} {piece data d : LobData}
  {pieces sent : List LobData} {started : Bool} {parts : List WritePart}

theorem LobData.joined_concat {kind : LobKind} (kinds : ∀ p ∈ pieces, p.kind = kind)
    (last : piece.kind = kind) :
    joined kind (pieces ++ [piece]) = (joined kind pieces).append piece := by
  induction pieces with
  | nil =>
    subst last
    show piece.append (empty piece.kind) = (empty piece.kind).append piece
    rw [append_empty, empty_append]
  | cons p rest ih =>
    have rest_kinds : ∀ q ∈ rest, q.kind = kind := fun q mem => kinds q (List.mem_cons_of_mem _ mem)
    have alike : p.kind = (joined kind rest).kind := by
      rw [kinds p List.mem_cons_self, kind_joined rest_kinds]
    rw [List.cons_append, joined, ih rest_kinds, joined,
      append_assoc alike ((kind_joined rest_kinds).trans last.symm)]

/-- The error of a signal that had fired. -/
theorem Guards.error_of_stops {g : Guards} {s : Signals} {closed : Error}
    (stopped : firstFired s (g.stops closed) = some e) : e = .connectionClosed ∨ e = closed := by
  unfold stops firstFired firstFired firstFired at stopped
  split at stopped
  · exact .inl (Option.some.inj stopped).symm
  · split at stopped
    · exact .inr (Option.some.inj stopped).symm
    · cases stopped

/-! ## Writers that are given parts, with what comes of each -/

namespace LobWriter

/-- Give a writer a part, with the result of a write. -/
def givePart : WritePart → Operation σ LobWriter (Except Error Unit)
  | .data d => (write d).attempt
  | .interruption who => do
    Operation.fire (who.signal (← Operation.get).lob.guards)
    pure (.ok ())

/-- Give a writer its parts. A write that fails does not keep the others from being tried. -/
def giveParts : List WritePart → Operation σ LobWriter (List (Except Error Unit))
  | [] => pure []
  | part :: rest => do
    let result ← givePart part
    let others ← giveParts rest
    pure (result :: others)

/-- Give a writer its parts and finish it. -/
def giveAndFinish (parts : List WritePart) :
    Operation σ LobWriter (List (Except Error Unit) × Except Error Unit) := do
  let results ← giveParts parts
  let last ← finish.attempt
  pure (results, last)

/-- The data whose write is done. -/
def accepted : List WritePart → List (Except Error Unit) → List LobData
  | .data d :: parts, .ok () :: results => d :: accepted parts results
  | _ :: parts, _ :: results => accepted parts results
  | _, _ => []

/-- What comes of a part behind a failure. -/
def refused : WritePart → Except Error Unit
  | .data _ => .error .invalidLob
  | .interruption _ => .ok ()

theorem giveParts_append (before after : List WritePart) :
    (giveParts (before ++ after) : Operation σ LobWriter _) = (do
      let results ← giveParts before
      let others ← giveParts after
      pure (results ++ others)) := by
  induction before with
  | nil => simp [giveParts]
  | cons part rest ih => simp [giveParts, ih]

theorem length_of_giveParts {results : List (Except Error Unit)}
    (run : giveParts parts host wtr w = (.done results, wtr', w')) :
    results.length = parts.length := by
  induction parts generalizing wtr w results with
  | nil => cases run; rfl
  | cons part rest ih =>
    obtain ⟨result, wtr₁, w₁, -, run⟩ := bind_done run
    obtain ⟨others, wtr₂, w₂, given, run⟩ := bind_done run
    cases run
    rw [List.length_cons, List.length_cons, ih given]

theorem giveParts_calls (l : LobLocator) (parts : List WritePart) :
    Calls (Of l) (Call.Writes l) (giveParts parts : Operation σ LobWriter _) := by
  induction parts with
  | nil => exact .pure _
  | cons part rest ih =>
    refine .bind ?_ fun _ => .bind ih fun _ => .pure _
    cases part with
    | data d => exact (write_calls d).attempt
    | interruption who => exact .get_bind fun _ _ => .bind (.fire _) fun _ => .pure _

end LobWriter

/-! ## Failures of pieces -/

/-- The error of a write of a piece that failed. -/
def Exchange.failedWrite? : Exchange → Option Error
  | ⟨.writeLob _ _ _, .failed e⟩ => some e
  | _ => none

theorem failedWrites_writes (l : LobLocator) (offset : Nat) (pieces : List LobData) :
    (writes l offset pieces).filterMap Exchange.failedWrite? = [] := by
  induction pieces generalizing offset with
  | nil => rfl
  | cons p rest ih => exact ih _

namespace LobWriter

/-- A piece failed: a call shows the error, or the writer keeps it, which it also does where a
signal had fired and no call was made any more. -/
def PieceFailed (e : Error) (w : World σ) (wtr' : LobWriter) (w' : World σ) : Prop :=
  wtr'.failure = some e ∨
    ∃ new, w'.exchanges = w.exchanges ++ new ∧ e ∈ new.filterMap Exchange.failedWrite?

/-- No piece failed. -/
def Intact (w : World σ) (wtr' : LobWriter) (w' : World σ) : Prop :=
  wtr'.failure = none ∧
    ∃ new, w'.exchanges = w.exchanges ++ new ∧ new.filterMap Exchange.failedWrite? = []

/-- One of the pieces failed. Those before it were sent, one behind the other, and so was it unless
a signal had fired, whose error it then is. The writer and its object are closed. -/
structure Broken (lob : Lob) (offset : Nat) (pieces : List LobData) (e : Error) (w : World σ)
    (wtr' : LobWriter) (w' : World σ) : Prop where
  failure : wtr'.failure = some e
  position : wtr'.lob.position = none
  fired : w'.signals.isFired lob.guards.own = true
  exchanges : ∃ sent piece unsent last, pieces = sent ++ piece :: unsent ∧
    w'.exchanges = w.exchanges ++ writes lob.locator offset sent ++ last ∧
    (last = [⟨.writeLob lob.locator (offsetBehind offset sent) piece, .failed e⟩] ∨
      last = [] ∧ (e = .connectionClosed ∨ e = .lobClosed))

namespace Intact

theorem refl (unfailed : wtr.failure = none) : Intact w wtr w :=
  ⟨unfailed, [], (List.append_nil _).symm, rfl⟩

theorem trans (first : Intact w wtr w₁) (second : Intact w₁ wtr' w') : Intact w wtr' w' := by
  obtain ⟨-, new, added, none⟩ := first
  obtain ⟨unfailed, new', added', none'⟩ := second
  exact ⟨unfailed, new ++ new', by rw [added', added, List.append_assoc],
    by rw [List.filterMap_append, none, none', List.append_nil]⟩

theorem of_writes {l : LobLocator} (unfailed : wtr.failure = none)
    (added : w'.exchanges = w.exchanges ++ writes l offset pieces) : Intact w wtr w' :=
  ⟨unfailed, _, added, failedWrites_writes _ _ _⟩

theorem not_pieceFailed (intact : Intact w wtr' w') : ¬ PieceFailed e w wtr' w' := by
  obtain ⟨unfailed, new, added, none⟩ := intact
  rintro (kept | ⟨new', added', shown⟩)
  · rw [unfailed] at kept
    cases kept
  · rw [← List.append_cancel_left (added.symm.trans added'), none] at shown
    cases shown

end Intact

namespace Broken

/-- Pieces that were sent before. -/
theorem behind (broken : Broken lob (offsetBehind offset sent) pieces e w wtr' w')
    (added : w.exchanges = w₀.exchanges ++ writes lob.locator offset sent) :
    Broken lob offset (sent ++ pieces) e w₀ wtr' w' := by
  obtain ⟨before, piece, unsent, last, parted, new, ended⟩ := broken.exchanges
  refine ⟨broken.failure, broken.position, broken.fired,
    sent ++ before, piece, unsent, last, ?_, ?_, ?_⟩
  · rw [parted, List.append_assoc]
  · rw [new, added, writes_append, ← List.append_assoc]
  · rwa [offsetBehind_append]

/-- Pieces that would have followed. -/
theorem before (broken : Broken lob offset pieces e w wtr' w') (more : List LobData) :
    Broken lob offset (pieces ++ more) e w wtr' w' := by
  obtain ⟨sent, piece, unsent, last, parted, new, ended⟩ := broken.exchanges
  refine ⟨broken.failure, broken.position, broken.fired, sent, piece, unsent ++ more, last, ?_, new,
    ended⟩
  rw [parted, List.append_assoc, List.cons_append]

/-- Afterwards signals may fire. -/
theorem later (broken : Broken lob offset pieces e w wtr' w₁)
    (quiet : w'.exchanges = w₁.exchanges) (grown : w₁.signals.Grown w'.signals) :
    Broken lob offset pieces e w wtr' w' := by
  obtain ⟨sent, piece, unsent, last, parted, new, ended⟩ := broken.exchanges
  exact ⟨broken.failure, broken.position, grown.fired _ broken.fired, sent, piece, unsent, last,
    parted, quiet.trans new, ended⟩

theorem error_eq (broken : Broken lob offset pieces e w wtr' w')
    (failed : PieceFailed e' w wtr' w') : e' = e := by
  rcases failed with kept | ⟨new', added', shown⟩
  · exact Option.some.inj (kept.symm.trans broken.failure)
  · obtain ⟨sent, piece, unsent, last, -, added, ended⟩ := broken.exchanges
    rw [List.append_assoc] at added
    rw [← List.append_cancel_left (added.symm.trans added'), List.filterMap_append,
      failedWrites_writes, List.nil_append] at shown
    rcases ended with rfl | ⟨rfl, -⟩
    · exact List.mem_singleton.1 shown
    · cases shown

end Broken

/-- A piece is sent, waited for or failed. -/
theorem send_intact_or_broken (alive : lob.Alive wtr.lob) (unfailed : wtr.failure = none)
    {out : Outcome Unit} (run : send piece host wtr w = (out, wtr', w')) :
    Intact w wtr' w' ∨ ∃ e, out = .failed e ∧ Broken lob wtr.offset [piece] e w wtr' w' := by
  rw [send_apply, guarded_apply] at run
  cases stopped : firstFired w.signals (wtr.lob.guards.stops .lobClosed) with
  | some e =>
    simp only [stopped, alive.position, if_true] at run
    cases run
    refine .inr ⟨e, rfl, rfl, rfl, ?_, [], piece, [], [], rfl, ?_,
      .inr ⟨rfl, Guards.error_of_stops stopped⟩⟩
    · simp [World.fire, alive.guards]
    · simp [World.fire, writes]
  | none =>
    obtain ⟨reply, w₁, made, added⟩ := call_record (.writeLob wtr.lob.locator wtr.offset piece)
      ⟨none, wtr.lob.guards.stops .lobClosed⟩ host wtr.lob w
    simp only [stopped, made] at run
    cases reply with
    | done u =>
      cases run
      exact .inl ⟨unfailed, _, added, rfl⟩
    | stuck =>
      cases run
      exact .inl ⟨unfailed, _, added, rfl⟩
    | failed e =>
      simp only [alive.position, if_true] at run
      cases run
      refine .inr ⟨e, rfl, rfl, rfl, ?_, [], piece, [], _, rfl, ?_, .inl rfl⟩
      · simp [World.fire, alive.guards]
      · simp [World.fire, writes, offsetBehind, added, alive.locator]

theorem sendPieces_intact_or_broken {size count : Nat} (alive : lob.Alive wtr.lob)
    (unfailed : wtr.failure = none) {out : Outcome Unit}
    (run : sendPieces size count host wtr w = (out, wtr', w')) :
    Intact w wtr' w' ∨
      ∃ e, out = .failed e ∧ Broken lob wtr.offset (wtr.buffer.cuts size count) e w wtr' w' := by
  induction count generalizing wtr w with
  | zero =>
    cases run
    exact .inl (.refl unfailed)
  | succ count ih =>
    have cut : lob.Alive { wtr with buffer := wtr.buffer.drop size }.lob := alive
    rw [sendPieces_succ] at run
    rcases one : send (wtr.buffer.take size) host { wtr with buffer := wtr.buffer.drop size } w with
      ⟨_ | e | _, wtr₁, w₁⟩
    · rw [bind_of_done one] at run
      obtain ⟨rfl, added⟩ := send_done one
      have added : w₁.exchanges =
          w.exchanges ++ writes lob.locator wtr.offset [wtr.buffer.take size] := by
        rw [added]
        exact congrArg (w.exchanges ++ writes · wtr.offset _) alive.locator
      have alive₁ : lob.Alive
          (LobWriter.sent { wtr with buffer := wtr.buffer.drop size } (wtr.buffer.take size)).lob :=
        alive.forgetLength
      rcases ih alive₁ unfailed run with intact | ⟨e, rfl, broken⟩
      · exact .inl (.trans (.of_writes unfailed added) intact)
      · exact .inr ⟨e, rfl, broken.behind added⟩
    · rw [bind_of_failed one] at run
      cases run
      rcases send_intact_or_broken cut unfailed one with intact | ⟨e, same, broken⟩
      · exact .inl intact
      · exact .inr ⟨e, same, broken.before _⟩
    · rw [bind_of_stuck one] at run
      cases run
      rcases send_intact_or_broken cut unfailed one with intact | ⟨e, same, -⟩
      · exact .inl intact
      · cases same

/-- Behind a write from where a writer stands between blocks: it was refused and left no trace, or
no piece failed and it did not fail, or it failed with one of the pieces. -/
theorem Given.write_ended (given : Given lob data started wtr) {out : Outcome Unit}
    (run : write d host wtr w = (out, wtr', w')) :
    ((∃ e, out = .failed e) ∧ wtr' = wtr ∧ w' = w) ∨
      ((∀ e, out ≠ .failed e) ∧ Intact w wtr' w') ∨
      ∃ e, out = .failed e ∧ d.kind = lob.kind ∧
        Broken lob wtr.offset ((wtr.buffer.append d).fullPieces lob.transferSize) e w wtr' w' := by
  rcases write_cases run with ⟨-, refused⟩ | ⟨kind, -, rest⟩
  · exact .inl refused
  split at rest
  · obtain ⟨rfl, rfl, rfl⟩ := rest
    exact .inr (.inl ⟨nofun, .refl given.failure⟩)
  · have buffered : lob.Alive { wtr with buffer := wtr.buffer.append d }.lob := given.alive
    rcases sendPieces_intact_or_broken buffered given.failure rest with
      intact | ⟨e, rfl, broken⟩
    · refine .inr (.inl ⟨?_, intact⟩)
      rintro e rfl
      have kept := sendPieces_failed rest
      rw [intact.1] at kept
      cases kept
    · rw [given.alive.transferSize] at broken
      exact .inr (.inr ⟨e, rfl, kind.trans given.alive.kind, broken⟩)

theorem flush_intact_or_broken (alive : lob.Alive wtr.lob) (unfailed : wtr.failure = none)
    {out : Outcome Unit} (run : flush host wtr w = (out, wtr', w')) :
    Intact w wtr' w' ∨ ∃ e, out = .failed e ∧ Broken lob wtr.offset wtr.unsent e w wtr' w' := by
  rw [flush, bind_of_done (get_apply host wtr w)] at run
  rw [unsent]
  by_cases buffered : wtr.buffer.isEmpty
  · rw [buffered] at run ⊢
    by_cases mark : wtr.explicitEmpty && !wtr.sentAny
    · rw [mark] at run ⊢
      exact send_intact_or_broken alive unfailed run
    · rw [Bool.eq_false_iff.2 mark] at run
      cases run
      exact .inl (.refl unfailed)
  · rw [Bool.eq_false_iff.2 buffered] at run ⊢
    have emptied : lob.Alive { wtr with buffer := LobData.empty wtr.lob.kind }.lob := alive
    exact send_intact_or_broken emptied unfailed run

/-- A commit may fail, but no piece does. -/
theorem commit_intact (unfailed : wtr.failure = none) {out : Outcome Unit}
    (run : commit host wtr w = (out, wtr', w')) : Intact w wtr' w' := by
  rw [commit_apply, guarded_apply] at run
  cases stopped : firstFired w.signals (wtr.lob.guards.stops .lobClosed) with
  | some e =>
    rw [stopped] at run
    cases run
    refine ⟨unfailed, [], ?_, rfl⟩
    rw [List.append_nil]
    split <;> rfl
  | none =>
    obtain ⟨reply, w₁, made, added⟩ := call_record (.commitLob wtr.lob.locator)
      ⟨none, wtr.lob.guards.stops .lobClosed⟩ host wtr.lob w
    simp only [stopped, made] at run
    have none : [Exchange.mk (.commitLob wtr.lob.locator) reply].filterMap
        Exchange.failedWrite? = [] := rfl
    cases reply with
    | done u =>
      cases run
      exact ⟨unfailed, _, added, none⟩
    | stuck =>
      cases run
      exact ⟨unfailed, _, added, none⟩
    | failed e =>
      cases run
      refine ⟨unfailed, _, ?_, none⟩
      rw [← added]
      split <;> rfl

theorem finish_intact_or_broken (alive : lob.Alive wtr.lob) (unfailed : wtr.failure = none)
    {out : Outcome Unit} (run : finish host wtr w = (out, wtr', w')) :
    Intact w wtr' w' ∨ ∃ e, out = .failed e ∧ Broken lob wtr.offset wtr.unsent e w wtr' w' := by
  rw [finish, bind_of_done (get_apply host wtr w), unfailed] at run
  dsimp only at run
  rcases flushed : flush host wtr w with ⟨_ | e | _, wtr₁, w₁⟩
  · rw [bind_of_done flushed] at run
    rcases flush_intact_or_broken alive unfailed flushed with intact | ⟨e, same, -⟩
    · exact .inl (intact.trans (commit_intact intact.1 run))
    · cases same
  · rw [bind_of_failed flushed] at run
    cases run
    exact flush_intact_or_broken alive unfailed flushed
  · rw [bind_of_stuck flushed] at run
    cases run
    exact flush_intact_or_broken alive unfailed flushed

/-! ## Behind a failure -/

theorem finish_failed (failed : wtr.failure = some e) (host : Host σ) (w : World σ) :
    finish host wtr w = (.failed e, wtr, w) := by
  rw [finish, bind_of_done (get_apply host wtr w), failed]
  rfl

/-- Every write is refused, and no call is made. -/
theorem giveParts_failed (failed : wtr.failure = some e) (host : Host σ) (parts : List WritePart)
    (w : World σ) :
    ∃ w', giveParts parts host wtr w = (.done (parts.map refused), wtr, w') ∧
      w'.exchanges = w.exchanges ∧ w.signals.Grown w'.signals := by
  induction parts generalizing w with
  | nil => exact ⟨w, rfl, rfl, .refl _⟩
  | cons part rest ih =>
    obtain ⟨w₁, one, quiet₁, grown₁⟩ : ∃ w₁,
        givePart part host wtr w = (.done (refused part), wtr, w₁) ∧
          w₁.exchanges = w.exchanges ∧ w.signals.Grown w₁.signals := by
      cases part with
      | data d =>
        have shut : write d host wtr w = (.failed .invalidLob, wtr, w) := by
          rw [write, bind_of_done (get_apply host wtr w), failed]
          rfl
        exact ⟨w, attempt_of_failed shut, rfl, .refl _⟩
      | interruption who => exact ⟨_, rfl, rfl, .fire _ _⟩
    obtain ⟨w', others, quiet, grown⟩ := ih w₁
    refine ⟨w', ?_, quiet.trans quiet₁, grown₁.trans grown⟩
    rw [giveParts, bind_of_done one, bind_of_done others]
    rfl

/-! ## The whole run -/

/-- Where a writer stands that has taken blocks and met no failure. -/
structure Fed (lob : Lob) (w₀ : World σ) (blocks : List LobData) (wtr : LobWriter) (w : World σ) :
    Prop where
  kinds : ∀ b ∈ blocks, b.kind = lob.kind
  given : Given lob (LobData.joined lob.kind blocks) (!blocks.isEmpty) wtr
  exchanges : w.exchanges = w₀.exchanges ++
    writes lob.locator 1 ((LobData.joined lob.kind blocks).fullPieces lob.transferSize)

namespace Fed

variable {blocks : List LobData}

theorem make (opened : lob.position.isSome) (w : World σ) : Fed lob w [] (make lob) w where
  kinds := nofun
  given := .make opened
  exchanges := by simp [LobData.joined, LobData.fullPieces, LobData.cuts, writes]

theorem intact (fed : Fed lob w₀ blocks wtr w) : Intact w₀ wtr w :=
  .of_writes fed.given.failure fed.exchanges

theorem kinds_concat (fed : Fed lob w₀ blocks wtr w) (kind : d.kind = lob.kind) :
    ∀ b ∈ blocks ++ [d], b.kind = lob.kind := by
  intro b mem
  rcases List.mem_append.1 mem with mem | mem
  · exact fed.kinds b mem
  · rw [List.mem_singleton.1 mem, kind]

theorem write_done (fed : Fed lob w₀ blocks wtr w)
    (run : write d host wtr w = (.done (), wtr', w')) : Fed lob w₀ (blocks ++ [d]) wtr' w' := by
  obtain ⟨kind, -, -⟩ := LobWriter.write_done run
  obtain ⟨given, added⟩ := fed.given.write_done run
  have kind : d.kind = lob.kind := kind.trans fed.given.alive.kind
  have alike : (LobData.joined lob.kind blocks).kind = d.kind := fed.given.kind.trans kind.symm
  have some : (!(blocks ++ [d]).isEmpty) = true := by cases blocks <;> rfl
  rw [← LobData.joined_concat fed.kinds kind, ← some] at given
  refine ⟨fed.kinds_concat kind, given, ?_⟩
  rw [added, fed.exchanges, fed.given.offset, fed.given.buffer, List.append_assoc, ← writes_append,
    LobData.joined_concat fed.kinds kind, LobData.fullPieces_append alike lob.transferSize_pos]

theorem write_broken (fed : Fed lob w₀ blocks wtr w) (kind : d.kind = lob.kind)
    (broken : Broken lob wtr.offset ((wtr.buffer.append d).fullPieces lob.transferSize) e w wtr'
      w') :
    Broken lob 1 ((LobData.joined lob.kind (blocks ++ [d])).pieces lob.transferSize) e w₀ wtr'
      w' := by
  have alike : (LobData.joined lob.kind blocks).kind = d.kind := fed.given.kind.trans kind.symm
  rw [fed.given.offset, fed.given.buffer] at broken
  rw [LobData.joined_concat fed.kinds kind, LobData.pieces_eq,
    LobData.fullPieces_append alike lob.transferSize_pos]
  exact (broken.behind fed.exchanges).before _

theorem finish_broken (fed : Fed lob w₀ blocks wtr w)
    (broken : Broken lob wtr.offset wtr.unsent e w wtr' w') :
    Broken lob 1 ((LobData.joined lob.kind blocks).pieces lob.transferSize) e w₀ wtr' w' := by
  rw [fed.given.offset, fed.given.unsent] at broken
  split at broken
  · rw [LobData.pieces_eq]
    exact broken.behind fed.exchanges
  · obtain ⟨sent, piece, unsent, -, none, -⟩ := broken.exchanges
    simp at none

end Fed

theorem accepted_cons (part : WritePart) (parts : List WritePart) (result : Except Error Unit)
    (results : List (Except Error Unit)) :
    accepted (part :: parts) (result :: results) =
      accepted [part] [result] ++ accepted parts results := by
  rcases part with d | who
  · rcases result with e | _ <;> rfl
  · rfl

/-- A write failed with a piece, behind the parts before it. No call is made for the parts behind
it, among which every write is refused. -/
inductive FailedWrite (host : Host σ) (wtr : LobWriter) (w : World σ) (e : Error)
    (wtr' : LobWriter) (w' : World σ) :
    List WritePart → List (Except Error Unit) → List LobData → Prop where
  | intro {earlier later : List WritePart} {d : LobData} {results : List (Except Error Unit)}
      {wtr₁ : LobWriter} {w₁ w₂ : World σ}
      (given : giveParts earlier host wtr w = (.done results, wtr₁, w₁))
      (wrote : write d host wtr₁ w₁ = (.failed e, wtr', w₂))
      (quiet : w'.exchanges = w₂.exchanges) :
      FailedWrite host wtr w e wtr' w' (earlier ++ .data d :: later)
        (results ++ .error e :: later.map refused) (accepted earlier results ++ [d])

theorem FailedWrite.cons {part : WritePart} {result : Except Error Unit}
    {results : List (Except Error Unit)} {blocks : List LobData}
    (failed : FailedWrite host wtr₁ w₁ e wtr' w' parts results blocks)
    (one : givePart part host wtr w = (.done result, wtr₁, w₁)) :
    FailedWrite host wtr w e wtr' w' (part :: parts) (result :: results)
      (accepted [part] [result] ++ blocks) := by
  cases failed with
  | @intro earlier later d before wtr₂ w₂ _ given wrote quiet =>
    have given' :
        giveParts (part :: earlier) host wtr w = (.done (result :: before), wtr₂, w₂) := by
      rw [giveParts, bind_of_done one, bind_of_done given]
      rfl
    rw [← List.append_assoc, ← accepted_cons]
    exact .intro given' wrote quiet

namespace Fed

variable {blocks : List LobData}

/-- A part is waited for in vain, or the writer goes on with what it has taken, or the write of the
part failed with a piece. -/
theorem givePart (fed : Fed lob w₀ blocks wtr w) {part : WritePart}
    {out : Outcome (Except Error Unit)}
    (run : LobWriter.givePart part host wtr w = (out, wtr', w')) :
    ((∃ why, out = .stuck why) ∧ Intact w₀ wtr' w') ∨
      (∃ result, out = .done result ∧ Fed lob w₀ (blocks ++ accepted [part] [result]) wtr' w') ∨
      ∃ e d, part = .data d ∧ out = .done (.error e) ∧
        write d host wtr w = (.failed e, wtr', w') ∧ (∀ b ∈ blocks ++ [d], b.kind = lob.kind) ∧
        Broken lob 1 ((LobData.joined lob.kind (blocks ++ [d])).pieces lob.transferSize) e w₀ wtr'
          w' := by
  cases part with
  | interruption who =>
    cases run
    refine .inr (.inl ⟨_, rfl, ?_⟩)
    rw [show accepted [.interruption who] [.ok ()] = [] from rfl, List.append_nil]
    exact ⟨fed.kinds, fed.given, fed.exchanges⟩
  | data d =>
    rw [LobWriter.givePart] at run
    rcases one : write d host wtr w with ⟨_ | e | _, wtr₁, w₁⟩
    · rw [attempt_of_done one] at run
      cases run
      exact .inr (.inl ⟨_, rfl, fed.write_done one⟩)
    · rw [attempt_of_failed one] at run
      cases run
      rcases fed.given.write_ended one with ⟨-, rfl, rfl⟩ | ⟨undone, -⟩ | ⟨e, same, kind, broken⟩
      · refine .inr (.inl ⟨_, rfl, ?_⟩)
        rw [show accepted [.data d] [.error e] = [] from rfl, List.append_nil]
        exact fed
      · exact absurd rfl (undone e)
      · cases same
        exact .inr (.inr ⟨e, d, rfl, rfl, one, fed.kinds_concat kind, fed.write_broken kind broken⟩)
    · rw [attempt_of_stuck one] at run
      cases run
      rcases fed.given.write_ended one with ⟨⟨e, same⟩, -⟩ | ⟨-, intact⟩ | ⟨e, same, -⟩
      · cases same
      · exact .inl ⟨⟨_, rfl⟩, fed.intact.trans intact⟩
      · cases same

/-- So do the parts of a run: the first write that fails with a piece ends it. -/
theorem giveParts (fed : Fed lob w₀ blocks wtr w) {out : Outcome (List (Except Error Unit))}
    (run : LobWriter.giveParts parts host wtr w = (out, wtr', w')) :
    ((∃ why, out = .stuck why) ∧ Intact w₀ wtr' w') ∨
      (∃ results, out = .done results ∧ Fed lob w₀ (blocks ++ accepted parts results) wtr' w') ∨
      ∃ e results more, out = .done results ∧
        FailedWrite host wtr w e wtr' w' parts results more ∧
        (∀ b ∈ blocks ++ more, b.kind = lob.kind) ∧
        Broken lob 1 ((LobData.joined lob.kind (blocks ++ more)).pieces lob.transferSize) e w₀ wtr'
          w' := by
  induction parts generalizing blocks wtr w wtr' w' out with
  | nil =>
    cases run
    refine .inr (.inl ⟨[], rfl, ?_⟩)
    rwa [show accepted [] [] = [] from rfl, List.append_nil]
  | cons part rest ih =>
    rw [LobWriter.giveParts] at run
    rcases one : LobWriter.givePart part host wtr w with ⟨out₁, wtr₁, w₁⟩
    rcases fed.givePart one with ⟨⟨why, rfl⟩, intact⟩ | ⟨result, rfl, fed₁⟩ |
      ⟨e, d, rfl, rfl, wrote, kinds, broken⟩
    · rw [bind_of_stuck one] at run
      cases run
      exact .inl ⟨⟨why, rfl⟩, intact⟩
    · rw [bind_of_done one] at run
      rcases others : LobWriter.giveParts rest host wtr₁ w₁ with ⟨out₂, wtr₂, w₂⟩
      rcases ih fed₁ others with ⟨⟨why, rfl⟩, intact⟩ | ⟨results, rfl, fed₂⟩ |
        ⟨e, results, more, rfl, failed, kinds, broken⟩
      · rw [bind_of_stuck others] at run
        cases run
        exact .inl ⟨⟨why, rfl⟩, intact⟩
      · rw [bind_of_done others] at run
        cases run
        refine .inr (.inl ⟨_, rfl, ?_⟩)
        rwa [accepted_cons, ← List.append_assoc]
      · rw [bind_of_done others] at run
        cases run
        rw [List.append_assoc] at kinds broken
        exact .inr (.inr ⟨e, _, _, rfl, failed.cons one, kinds, broken⟩)
    · -- The parts behind the failure change nothing but signals.
      obtain ⟨w₂, others, quiet, grown⟩ := giveParts_failed broken.failure host rest w₁
      rw [bind_of_done one, bind_of_done others] at run
      cases run
      have nothing : LobWriter.giveParts [] host wtr w = (.done [], wtr, w) := rfl
      exact .inr (.inr ⟨e, _, _, rfl, .intro nothing wrote quiet, kinds,
        broken.later quiet grown⟩)

end Fed

/-- Data of the other kind is refused, behind a failure like any data, and leaves no trace. -/
theorem write_other_kind (other : d.kind ≠ wtr.lob.kind) (host : Host σ) (w : World σ) :
    ∃ r, (r = wrongKind d wtr.lob.kind ∨ r = .invalidLob) ∧
      write d host wtr w = (.failed r, wtr, w) := by
  rw [write, bind_of_done (get_apply host wtr w)]
  by_cases failed : wtr.failure.isSome
  · exact ⟨_, .inr rfl, if_pos failed ▸ rfl⟩
  · exact ⟨_, .inl rfl, by rw [if_neg failed, if_pos other]; rfl⟩

/-- The rest of a run is what it would be without data of the other kind. -/
theorem giveAndFinish_other_kind (other : d.kind ≠ wtr.lob.kind) (before after : List WritePart)
    (host : Host σ) (w : World σ) :
    ∃ r, (r = wrongKind d wtr.lob.kind ∨ r = .invalidLob) ∧
      giveAndFinish (before ++ .data d :: after) host wtr w =
        (do
          let (results, last) ← giveAndFinish (before ++ after)
          pure (results.insertIdx before.length (.error r), last) : Operation σ LobWriter _)
          host wtr w := by
  have whole : (giveAndFinish (before ++ .data d :: after) : Operation σ LobWriter _) = (do
      let results ← giveParts before
      let result ← (write d).attempt
      let others ← giveParts after
      let last ← finish.attempt
      pure (results ++ result :: others, last)) := by
    simp [giveAndFinish, giveParts_append, giveParts, givePart]
  have without (r : Error) : (do
      let (results, last) ← giveAndFinish (before ++ after)
      pure (results.insertIdx before.length (.error r), last) : Operation σ LobWriter _) = (do
      let results ← giveParts before
      let others ← giveParts after
      let last ← finish.attempt
      pure ((results ++ others).insertIdx before.length (.error r), last)) := by
    simp [giveAndFinish, giveParts_append]
  rcases given : giveParts before host wtr w with ⟨results | e | _, wtr₁, w₁⟩
  · have located : wtr₁.lob.locator = wtr.lob.locator := by
      have kept := (giveParts_calls wtr.lob.locator before host wtr w rfl).1
      rwa [given] at kept
    have kind : wtr₁.lob.kind = wtr.lob.kind := by rw [Lob.kind, located, Lob.kind]
    rw [← kind] at other
    obtain ⟨r, reason, refused⟩ := write_other_kind other host w₁
    rw [kind] at reason
    refine ⟨r, reason, ?_⟩
    rw [whole, without, bind_of_done given, bind_of_done given,
      bind_of_done (attempt_of_failed refused), ← length_of_giveParts given]
    have insert (others : List (Except Error Unit)) :
        (results ++ others).insertIdx results.length (.error r) =
          results ++ .error r :: others := by
      simpa [List.insertIdx] using List.modifyTailIdx_add (List.cons (.error r)) 0 results others
    simp only [insert]
  · refine ⟨_, .inr rfl, ?_⟩
    rw [whole, without, bind_of_failed given, bind_of_failed given]
  · refine ⟨_, .inr rfl, ?_⟩
    rw [whole, without, bind_of_stuck given, bind_of_stuck given]

/-- The writer failed with a piece when it was finished. -/
def FailedFinish (host : Host σ) (wtr : LobWriter) (w : World σ) (e : Error) (wtr' : LobWriter)
    (w' : World σ) (parts : List WritePart) (results : List (Except Error Unit))
    (blocks : List LobData) : Prop :=
  ∃ wtr₁ w₁, giveParts parts host wtr w = (.done results, wtr₁, w₁) ∧
    finish host wtr₁ w₁ = (.failed e, wtr', w') ∧ blocks = accepted parts results

/-- How a run ends in which a piece failed: the error comes from the write that met it, if a write
did, and from finishing. The pieces until then are the first ones of the data that was accepted,
that of the failed write included. -/
structure FailedRun (host : Host σ) (lob : Lob) (wtr : LobWriter) (w : World σ) (e : Error)
    (wtr' : LobWriter) (w' : World σ) (parts : List WritePart)
    (out : Outcome (List (Except Error Unit) × Except Error Unit))
    (results : List (Except Error Unit)) (blocks : List LobData) : Prop where
  ended : out = .done (results, .error e)
  met : FailedWrite host wtr w e wtr' w' parts results blocks ∨
    FailedFinish host wtr w e wtr' w' parts results blocks
  whole : LobData.joined lob.kind ((LobData.joined lob.kind blocks).pieces lob.transferSize) =
    LobData.joined lob.kind blocks
  broken : Broken lob 1 ((LobData.joined lob.kind blocks).pieces lob.transferSize) e w wtr' w'

theorem joined_pieces_joined {blocks : List LobData} (kinds : ∀ b ∈ blocks, b.kind = lob.kind) :
    LobData.joined lob.kind ((LobData.joined lob.kind blocks).pieces lob.transferSize) =
      LobData.joined lob.kind blocks := by
  have joined := LobData.joined_pieces lob.transferSize (LobData.joined lob.kind blocks)
  rwa [LobData.kind_joined kinds] at joined

/-- A run ends where finishing leaves the writer, with the results of the parts. -/
theorem giveAndFinish_ended {results : List (Except Error Unit)}
    {out : Outcome (List (Except Error Unit) × Except Error Unit)}
    (given : giveParts parts host wtr w = (.done results, wtr₁, w₁))
    (run : giveAndFinish parts host wtr w = (out, wtr', w')) :
    ∃ last, finish host wtr₁ w₁ = (last, wtr', w') ∧
      ∀ e, last = .failed e → out = .done (results, .error e) := by
  rw [giveAndFinish, bind_of_done given] at run
  rcases finished : finish host wtr₁ w₁ with ⟨_ | e | _, wtr₂, w₂⟩
  · rw [bind_of_done (attempt_of_done finished)] at run
    cases run
    exact ⟨_, rfl, nofun⟩
  · rw [bind_of_done (attempt_of_failed finished)] at run
    cases run
    exact ⟨_, rfl, fun e same => by cases same; rfl⟩
  · rw [bind_of_stuck (attempt_of_stuck finished)] at run
    cases run
    exact ⟨_, rfl, nofun⟩

theorem Fed.giveAndFinish (fed : Fed lob w [] wtr w)
    {out : Outcome (List (Except Error Unit) × Except Error Unit)}
    (run : LobWriter.giveAndFinish parts host wtr w = (out, wtr', w'))
    (failed : PieceFailed e w wtr' w') :
    ∃ results blocks, FailedRun host lob wtr w e wtr' w' parts out results blocks := by
  rcases given : LobWriter.giveParts parts host wtr w with ⟨out₁, wtr₁, w₁⟩
  rcases fed.giveParts given with ⟨⟨why, rfl⟩, intact⟩ | ⟨results, rfl, fed₁⟩ |
    ⟨e₁, results, blocks, rfl, failedWrite, kinds, broken⟩
  · rw [LobWriter.giveAndFinish, bind_of_stuck given] at run
    cases run
    exact absurd failed intact.not_pieceFailed
  · obtain ⟨last, finished, result⟩ := giveAndFinish_ended given run
    rcases finish_intact_or_broken fed₁.given.alive fed₁.given.failure finished with
      intact | ⟨e₁, same, broken⟩
    · exact absurd failed (fed₁.intact.trans intact).not_pieceFailed
    · have broken := fed₁.finish_broken broken
      obtain rfl := broken.error_eq failed
      rw [same] at finished
      exact ⟨results, _, result _ same, .inr ⟨wtr₁, w₁, given, finished, rfl⟩,
        joined_pieces_joined fed₁.kinds, broken⟩
  · obtain ⟨last, finished, result⟩ := giveAndFinish_ended given run
    rw [finish_failed broken.failure host w₁] at finished
    cases finished
    obtain rfl := broken.error_eq failed
    exact ⟨results, blocks, result _ rfl, .inl failedWrite, joined_pieces_joined kinds, broken⟩

theorem start_done (begun : start host lob w = (.done wtr, lob', w')) :
    lob.position.isSome ∧ wtr = make lob ∧ w' = w := by
  obtain ⟨p, lob₁, w₁, opened, made⟩ := bind_done begun
  obtain ⟨rfl, rfl, there⟩ := Lob.open?_done opened
  cases made
  exact ⟨by rw [there]; rfl, rfl, rfl⟩

/-- Once a piece fails, in a write or when the writer is finished, the object is closed and no call
is made any more, so that nothing is committed; the write gives the error, every later write is
refused, and finishing gives the error. What was sent are the first pieces of the data that was
accepted, one behind the other from offset 1. Data of the other kind is refused and leaves the run
what it would be without it. -/
theorem failed_piece_ends_writer (begun : start host lob w = (.done wtr, lob', w₀)) :
    (∀ parts out wtr' w' e, giveAndFinish parts host wtr w₀ = (out, wtr', w') →
      PieceFailed e w₀ wtr' w' →
      ∃ results blocks, FailedRun host lob wtr w₀ e wtr' w' parts out results blocks) ∧
    (∀ before d after, d.kind ≠ lob.kind →
      ∃ r, (r = wrongKind d lob.kind ∨ r = .invalidLob) ∧
        giveAndFinish (before ++ .data d :: after) host wtr w₀ =
          (do
            let (results, last) ← giveAndFinish (before ++ after)
            pure (results.insertIdx before.length (.error r), last) : Operation σ LobWriter _)
            host wtr w₀) := by
  obtain ⟨opened, rfl, rfl⟩ := start_done begun
  refine ⟨fun parts out wtr' w' e run failed => ?_, fun before d after other => ?_⟩
  · exact (Fed.make opened w₀).giveAndFinish run failed
  · have other : d.kind ≠ (make lob).lob.kind := other
    exact giveAndFinish_other_kind other before after host w₀

/-- A session that loses the second piece. -/
def losingHost : Host Nat where
  answer c n := ⟨n, some ⟨0⟩, [], [], n + 1, match c with
    | .writeLob _ _ _ => if n = 1 then .error (.stream "lost") else .ok ()
    | _ => .error .invalidLob⟩
  patience := 1

/-- An empty object of bytes with a transfer size of two. -/
def twoBytes : Lob := ⟨⟨[1], .blob, 0, 8, false⟩, 2, some ⟨1, false, some 0⟩, ⟨⟨1⟩, ⟨0⟩⟩⟩

/-- Four writes. The second is of the other kind, and the third sends the second piece. -/
def fourWrites : List WritePart :=
  [.data (.bytes [1, 2, 3]), .data (.text "x"), .data (.bytes [4, 5]), .data (.bytes [6])]

/-- The third write fails and so does finishing; nothing is committed. -/
theorem second_piece_lost :
    ∃ wtr' w', giveAndFinish fourWrites losingHost (make twoBytes) (World.start 0) =
      (.done ([.ok (), .error (wrongKind (.text "x") .blob), .error (.stream "lost"),
        .error .invalidLob], .error (.stream "lost")), wtr', w') ∧
      wtr'.lob.position = none ∧
      w'.calls = [.writeLob twoBytes.locator 1 (.bytes [1, 2]),
        .writeLob twoBytes.locator 3 (.bytes [3, 4])] := by
  have begun : start losingHost twoBytes (World.start 0) =
    (.done (make twoBytes), twoBytes, World.start 0) := rfl
  obtain ⟨results, blocks, run⟩ :=
    (failed_piece_ends_writer begun).1 fourWrites _ _ _ (.stream "lost") rfl (.inl rfl)
  exact ⟨_, _, rfl, run.broken.position, rfl⟩

end LobWriter

end SqlBinder

import SqlBinder.Proofs.Lob.Tasks

/-!
Writers that are given parts and then finished. A writer that met a failure, or whose signals have
fired, can not be finished any more; so one that is done in the end has sent all its data, in pieces
one behind the other, and a commit behind them.

That a writer can not be finished any more is kept by whatever is done with it. So a writer that is
done in the end has met no failure but of data of the other kind, which left no trace, and its parts
can be followed as if there had been none.
-/
namespace SqlBinder

open Operation
open Client (WritePart)

variable {σ : Type} {host : Host σ} {wtr wtr' : LobWriter} {w w' : World σ}

namespace LobData

theorem kind_of_mem_cuts {size count : Nat} {d p : LobData} (mem : p ∈ cuts size count d) :
    p.kind = d.kind := by
  induction count generalizing d with
  | zero => cases mem
  | succ count ih =>
    rcases List.mem_cons.1 mem with rfl | mem
    · exact kind_take size d
    · rw [ih mem, kind_drop]

/-- Pieces behind which there is what is left, and more, make up the whole and more. -/
theorem joined_cuts_append (size count : Nat) (d : LobData) {e : LobData} (alike : d.kind = e.kind)
    {ps : List LobData} (h : joined d.kind ps = (uncut size count d).append e) :
    joined d.kind (cuts size count d ++ ps) = d.append e := by
  induction count generalizing d with
  | zero => exact h
  | succ count ih =>
    have rest := ih (d.drop size) (by rwa [kind_drop]) (by rwa [kind_drop])
    rw [kind_drop] at rest
    rw [cuts, List.cons_append, joined, rest,
      ← append_assoc (by rw [kind_take, kind_drop]) (by rwa [kind_drop]), take_append_drop]

end LobData

namespace LobWriter

/-- The data among the parts that a writer of the kind takes. -/
def blocks (kind : LobKind) (parts : List WritePart) : List LobData :=
  parts.filterMap fun
    | .data d => if d.kind = kind then some d else none
    | .interruption _ => none

theorem kind_of_mem_blocks {kind : LobKind} {parts : List WritePart} {b : LobData}
    (mem : b ∈ blocks kind parts) : b.kind = kind := by
  obtain ⟨part, -, taken⟩ := List.mem_filterMap.1 mem
  cases part with
  | data d =>
    by_cases right : d.kind = kind
    · rw [← Option.some.inj ((if_pos right).symm.trans taken), right]
    · cases (if_neg right).symm.trans taken
  | interruption who => cases taken

/-- The writer can not be finished any more. -/
def Doomed (wtr : LobWriter) (w : World σ) : Prop :=
  wtr.failure.isSome ∨ ∃ e, firstFired w.signals (wtr.lob.guards.stops .lobClosed) = some e

namespace Doomed

theorem fire (wtr : LobWriter) (w : World σ) (who : Client.Interruption) :
    Doomed wtr (w.fire (who.signal wtr.lob.guards)) := by
  refine .inr (Guards.stops_some .lobClosed ?_)
  cases who <;> simp [World.fire, Client.Interruption.signal]

theorem write (host : Host σ) (doomed : Doomed wtr w) (d : LobData) :
    ∃ e, LobWriter.write d host wtr w = (.failed e, wtr, w) := by
  rcases doomed with failed | ⟨e, stopped⟩
  · rw [LobWriter.write, bind_of_done (get_apply host wtr w), failed]
    exact ⟨_, rfl⟩
  · exact write_stopped host stopped d

theorem writeParts (doomed : Doomed wtr w) (parts : List WritePart) :
    ∃ w', LobWriter.writeParts parts host wtr w = (.done (), wtr, w') ∧ Doomed wtr w' := by
  induction parts generalizing w with
  | nil => exact ⟨w, rfl, doomed⟩
  | cons part rest ih =>
    cases part with
    | data d =>
      obtain ⟨e, refused⟩ := doomed.write host d
      rw [LobWriter.writeParts, bind_of_done (attempt_of_failed refused)]
      exact ih doomed
    | interruption who => exact ih (.fire wtr w who)

theorem finish (doomed : Doomed wtr w) : LobWriter.finish host wtr w ≠ (.done (), wtr', w') := by
  intro run
  rcases doomed with failed | ⟨e, stopped⟩
  · obtain ⟨e, there⟩ := Option.isSome_iff_exists.1 failed
    rw [LobWriter.finish, bind_of_done (get_apply host wtr w), there] at run
    cases run
  · obtain ⟨e, wtr₁, w₁, refused, -⟩ := finish_stopped host stopped
    rw [refused] at run
    cases run

end Doomed

theorem send_failed {piece : LobData} {e : Error}
    (run : send piece host wtr w = (.failed e, wtr', w')) : wtr'.failure.isSome := by
  rw [send_apply] at run
  rcases made : guarded wtr.lob.guards .lobClosed (.writeLob wtr.lob.locator wtr.offset piece)
    host wtr.lob w with ⟨_ | _ | _, lob, w₁⟩ <;> rw [made] at run
  · cases run
  · simp only [Prod.mk.injEq] at run
    rw [← run.2.1]
    rfl
  · cases run

theorem sendPieces_failed {size count : Nat} {e : Error}
    (run : sendPieces size count host wtr w = (.failed e, wtr', w')) : wtr'.failure.isSome := by
  induction count generalizing wtr w with
  | zero => cases run
  | succ count ih =>
    rw [sendPieces_succ] at run
    rcases one : send (wtr.buffer.take size) host { wtr with buffer := wtr.buffer.drop size } w with
      ⟨_ | _ | _, wtr₁, w₁⟩
    · rw [bind_of_done one] at run
      exact ih run
    · rw [bind_of_failed one] at run
      simp only [Prod.mk.injEq] at run
      rw [← run.2.1]
      exact send_failed one
    · rw [bind_of_stuck one] at run
      cases run

/-- A write that fails was of the other kind and changed nothing, or the writer can not be finished
any more. -/
theorem write_failed {d : LobData} {e : Error} (opened : wtr.lob.position.isSome)
    (run : write d host wtr w = (.failed e, wtr', w')) :
    (d.kind ≠ wtr.lob.kind ∧ wtr' = wtr ∧ w' = w) ∨ Doomed wtr' w' := by
  rcases write_cases run with ⟨refuses, -, rfl, rfl⟩ | ⟨-, -, rest⟩
  · rcases refuses with failed | other | closed | stopped
    · exact .inr (.inl failed)
    · exact .inl ⟨other, rfl, rfl⟩
    · rw [closed] at opened
      cases opened
    · exact .inr (.inr stopped)
  · split at rest
    · cases rest.1
    · exact .inr (.inl (sendPieces_failed rest))

/-- What a writer has sent that took the parts and is finished: pieces that make up what it had
and the data of its kind, and a commit. Only one that was given nothing sent no piece. -/
structure Sent (wtr wtr' : LobWriter) (w w' : World σ) (parts : List WritePart)
    (ps : List LobData) : Prop where
  exchanges : w'.exchanges = w.exchanges ++ writes wtr.lob.locator wtr.offset ps ++
    [⟨.commitLob wtr.lob.locator, .done ()⟩]
  kinds : ∀ p ∈ ps, p.kind = wtr.lob.kind
  joined : LobData.joined wtr.lob.kind ps =
    wtr.buffer.append (LobData.joined wtr.lob.kind (blocks wtr.lob.kind parts))
  lob : wtr'.lob = if ps = [] then wtr.lob else wtr.lob.forgetLength
  none_sent : ps = [] → wtr.sentAny = false →
    blocks wtr.lob.kind parts = [] ∧ wtr.explicitEmpty = false

theorem Sent.of_finish (alike : wtr.buffer.kind = wtr.lob.kind)
    (run : finish host wtr w = (.done (), wtr', w')) : Sent wtr wtr' w w' [] wtr.unsent := by
  obtain ⟨last, added⟩ := finish_done run
  have nothing : wtr.buffer.append (LobData.empty wtr.lob.kind) = wtr.buffer := by
    rw [← alike, LobData.append_empty]
  refine ⟨added, ?_, ?_, last, ?_⟩
  · intro p mem
    rw [unsent] at mem
    split at mem
    · split at mem
      · rw [List.mem_singleton.1 mem, LobData.kind_empty]
      · cases mem
    · rw [List.mem_singleton.1 mem, alike]
  · show LobData.joined wtr.lob.kind wtr.unsent = wtr.buffer.append (LobData.empty wtr.lob.kind)
    rw [nothing, unsent]
    have alone (p : LobData) (kind : p.kind = wtr.lob.kind) :
        LobData.joined wtr.lob.kind [p] = p := by
      rw [LobData.joined, LobData.joined, ← kind, LobData.append_empty]
    by_cases empty : wtr.buffer.isEmpty
    · have buffer : wtr.buffer = LobData.empty wtr.lob.kind := by
        rw [LobData.eq_empty_of_isEmpty empty, alike]
      rw [if_pos empty]
      split
      · rw [alone _ (LobData.kind_empty _), buffer]
      · rw [LobData.joined, buffer]
    · rw [if_neg empty, alone _ alike]
  · intro none unsent_any
    refine ⟨rfl, ?_⟩
    by_contra explicit
    rw [unsent] at none
    split at none
    · simp [explicit, unsent_any] at none
    · cases none

/-- Empty data only leaves a mark. -/
theorem Sent.of_empty {d : LobData} {parts : List WritePart} {ps : List LobData}
    (kind : d.kind = wtr.lob.kind) (empty : d.isEmpty)
    (sent : Sent { wtr with explicitEmpty := true } wtr' w w' parts ps) :
    Sent wtr wtr' w w' (.data d :: parts) ps := by
  have taken : blocks wtr.lob.kind (.data d :: parts) = d :: blocks wtr.lob.kind parts := by
    simp [blocks, kind]
  have d_eq : d = LobData.empty (LobData.joined wtr.lob.kind (blocks wtr.lob.kind parts)).kind := by
    rw [LobData.kind_joined fun b mem => kind_of_mem_blocks mem, ← kind]
    exact LobData.eq_empty_of_isEmpty empty
  refine ⟨sent.exchanges, sent.kinds, ?_, sent.lob, ?_⟩
  · have same := sent.joined
    rw [taken, LobData.joined, d_eq, LobData.empty_append]
    exact same
  · intro none unsent_any
    cases (sent.none_sent none unsent_any).2

/-- Of other data the full pieces are sent at once. -/
theorem Sent.of_pieces {d : LobData} {wtr₁ : LobWriter} {w₁ : World σ} {parts : List WritePart}
    {ps : List LobData} {size count : Nat} (kind : d.kind = wtr.lob.kind)
    (alike : wtr.buffer.kind = wtr.lob.kind) (units : ¬ d.isEmpty)
    (pieces : sendPieces size count host { wtr with buffer := wtr.buffer.append d } w =
      (.done (), wtr₁, w₁))
    (sent : Sent wtr₁ wtr' w₁ w' parts ps) :
    Sent wtr wtr' w w' (.data d :: parts) ((wtr.buffer.append d).cuts size count ++ ps) := by
  have taken : blocks wtr.lob.kind (.data d :: parts) = d :: blocks wtr.lob.kind parts := by
    simp [blocks, kind]
  obtain ⟨added, behind⟩ := sendPieces_done pieces
  have located : wtr₁.lob.locator = wtr.lob.locator := by
    rw [behind]
    dsimp only
    split <;> rfl
  have offset : wtr₁.offset = offsetBehind wtr.offset ((wtr.buffer.append d).cuts size count) := by
    rw [behind]
  have buffer : wtr₁.buffer = (wtr.buffer.append d).uncut size count := by rw [behind]
  have lob : wtr₁.lob = if count = 0 then wtr.lob else wtr.lob.forgetLength := by rw [behind]
  have same_kind : wtr₁.lob.kind = wtr.lob.kind := by rw [Lob.kind, located, Lob.kind]
  have buffered : (wtr.buffer.append d).kind = wtr.lob.kind := by rw [LobData.kind_append, alike]
  have rest_kind : (LobData.joined wtr.lob.kind (blocks wtr.lob.kind parts)).kind = wtr.lob.kind :=
    LobData.kind_joined fun b mem => kind_of_mem_blocks mem
  have whole : LobData.joined wtr.lob.kind ((wtr.buffer.append d).cuts size count ++ ps) =
      wtr.buffer.append (LobData.joined wtr.lob.kind (blocks wtr.lob.kind (.data d :: parts))) := by
    have left := sent.joined
    rw [same_kind, buffer] at left
    have cut := LobData.joined_cuts_append size count (wtr.buffer.append d)
      (buffered.trans rest_kind.symm) (by rw [buffered]; exact left)
    rw [buffered] at cut
    rw [cut, taken, LobData.joined,
      LobData.append_assoc (alike.trans kind.symm) (kind.trans rest_kind.symm)]
  refine ⟨?_, ?_, whole, ?_, ?_⟩
  · rw [sent.exchanges, added, located, offset, writes_append]
    simp only [List.append_assoc]
  · intro p mem
    rcases List.mem_append.1 mem with mem | mem
    · rw [LobData.kind_of_mem_cuts mem, buffered]
    · rw [sent.kinds p mem, same_kind]
  · rw [sent.lob, lob]
    cases count with
    | zero => rfl
    | succ count => simp [LobData.cuts]
  · intro none
    rw [none, taken] at whole
    have size := congrArg LobData.size whole
    rw [LobData.joined, LobData.joined, LobData.size_empty,
      LobData.size_append (by rw [LobData.kind_append, alike, kind]),
      LobData.size_append (kind.trans rest_kind.symm)] at size
    exact absurd ((LobData.isEmpty_iff d).2 (by omega)) units

/-- A writer that is done in the end has sent its data, whichever writes failed meanwhile. -/
theorem Sent.of_writeParts {parts : List WritePart} (opened : wtr.lob.position.isSome)
    (alike : wtr.buffer.kind = wtr.lob.kind)
    (run : (writeParts parts >>= fun _ => finish) host wtr w = (.done (), wtr', w')) :
    ∃ ps, Sent wtr wtr' w w' parts ps := by
  induction parts generalizing wtr w with
  | nil => exact ⟨_, .of_finish alike run⟩
  | cons part parts ih =>
    have hopeless {wtr₁ : LobWriter} {w₁ : World σ} (doomed : Doomed wtr₁ w₁)
        (run : (writeParts parts >>= fun _ => finish) host wtr₁ w₁ = (.done (), wtr', w')) :
        False := by
      obtain ⟨w₂, given, doomed⟩ := doomed.writeParts parts
      rw [bind_of_done given] at run
      exact doomed.finish run
    cases part with
    | interruption who => exact (hopeless (.fire wtr w who) run).elim
    | data d =>
      rw [writeParts, bind_assoc] at run
      rcases one : write d host wtr w with ⟨_ | e | _, wtr₁, w₁⟩
      · rw [bind_of_done (attempt_of_done one)] at run
        obtain ⟨kind, -, rest⟩ := write_done one
        by_cases empty : d.isEmpty
        · rw [if_pos empty] at rest
          obtain ⟨rfl, rfl⟩ := rest
          obtain ⟨ps, sent⟩ : ∃ ps, Sent { wtr with explicitEmpty := true } wtr' w₁ w' parts ps :=
            ih opened alike run
          exact ⟨ps, sent.of_empty kind empty⟩
        · rw [if_neg empty] at rest
          have behind := (sendPieces_done rest).2
          have opened₁ : wtr₁.lob.position.isSome := by
            rw [behind]
            dsimp only
            split
            · exact opened
            · simpa [Lob.forgetLength] using opened
          have alike₁ : wtr₁.buffer.kind = wtr₁.lob.kind := by
            rw [behind]
            dsimp only
            rw [LobData.kind_uncut, LobData.kind_append, alike]
            split <;> rfl
          obtain ⟨ps, sent⟩ := ih opened₁ alike₁ run
          exact ⟨_, sent.of_pieces kind alike empty rest⟩
      · rw [bind_of_done (attempt_of_failed one)] at run
        rcases write_failed opened one with ⟨other, rfl, rfl⟩ | doomed
        · obtain ⟨ps, sent⟩ := ih opened alike run
          have left : blocks wtr₁.lob.kind (.data d :: parts) = blocks wtr₁.lob.kind parts := by
            simp [blocks, other]
          obtain ⟨exchanges, kinds, joined, lob, none⟩ := sent
          rw [← left] at joined none
          exact ⟨ps, exchanges, kinds, joined, lob, none⟩
        · exact (hopeless doomed run).elim
      · rw [bind_of_stuck (attempt_of_stuck one)] at run
        cases run

end LobWriter

/-- A task that finishes a writer ends like the writer. -/
theorem LobTask.finished {content : σ → LobContent} {l : LobLocator} {I : Lob → Prop} {lob : Lob}
    (keeps : KeepsLob host l content) (lasting : Lob.Lasting l I) (hi : I lob)
    (parts : List WritePart) (w : World σ) :
    ∃ out lob' w', run (.write parts true) host lob w = (out, lob', w') ∧ I lob' ∧
      LobWriter.Concluded content l out w w' ∧
      (out = .done () → ∃ wtr' ps, lob' = wtr'.lob ∧
        LobWriter.Sent (.make lob) wtr' w w' parts ps) := by
  rcases run_write parts host lob w with ⟨e, refused⟩ | ⟨opened, worked⟩
  · exact ⟨_, _, _, refused, hi, ⟨[], [], .refl w, by simp, .inl ⟨rfl, nofun⟩⟩, nofun⟩
  · have given : I (LobWriter.make lob).lob := hi
    obtain ⟨out, wtr', w', run, hi', ended⟩ := LobWriter.finished_led keeps lasting given parts w
    refine ⟨out, wtr'.lob, w', worked run, hi', ended, ?_⟩
    rintro rfl
    have opened : (LobWriter.make lob).lob.position.isSome := opened
    obtain ⟨ps, sent⟩ := LobWriter.Sent.of_writeParts opened (LobData.kind_empty _) run
    exact ⟨wtr', ps, rfl, sent⟩

end SqlBinder

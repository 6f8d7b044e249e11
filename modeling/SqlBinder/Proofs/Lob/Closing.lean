import SqlBinder.Proofs.Lob.Blocks
import SqlBinder.Proofs.Lob.Tending
import SqlBinder.Proofs.Session.Account

/-!
How a handle of a large object comes to its end. Whatever is done with it, whatever the
session answers and whenever a signal fires, the object is given back once at most, and a
handle that is closed refuses everything without a call. Closed is told by the handle or
by its signals; it is enough that a handle never loses its position before its own signal
has fired.
-/
namespace SqlBinder

open Operation

variable {σ α : Type} {g : Guards} {w₀ w w' : World σ} {lob : Lob} {wtr : LobWriter}

/-! ## A handle between its uses -/

/-- Either signal stands for an error. -/
theorem Guards.stops_some {s : Signals} (closed : Error)
    (fired : s.isFired g.own = true ∨ s.isFired g.connection = true) :
    ∃ e, firstFired s (g.stops closed) = some e := by
  cases connection : s.isFired g.connection with
  | true => exact ⟨.connectionClosed, by simp [stops, firstFired, connection]⟩
  | false =>
    have own : s.isFired g.own = true := by simpa [connection] using fired
    exact ⟨closed, by simp [stops, firstFired, connection, own]⟩

namespace Lob

/-- A handle after some uses: its guards are the same, it is open unless its own signal fired,
and the object was given back once at most, behind that. -/
structure Tended (g : Guards) (w₀ : World σ) (lob : Lob) (w : World σ) : Prop where
  guards : lob.guards = g
  sealed : lob.position = none → w.signals.isFired g.own = true
  grown : w₀.signals.Grown w.signals
  closes : ∃ new, w.exchanges = w₀.exchanges ++ new ∧ (closedLobs new).length ≤ 1 ∧
    (closedLobs new ≠ [] → w.signals.isFired g.own = true)

namespace Tended

theorem make (l : LobLocator) (own connection : Signal) (w : World σ) :
    Tended ⟨own, connection⟩ w (Lob.make l own connection) w :=
  ⟨rfl, nofun, .refl _, [], by simp, by simp [closedLobs], by simp [closedLobs]⟩

theorem signals {s : Signals} (h : Tended g w₀ lob w) (grown : w.signals.Grown s) :
    Tended g w₀ lob { w with signals := s } := by
  obtain ⟨new, added, once, behind⟩ := h.closes
  exact ⟨h.guards, fun none => grown.fired _ (h.sealed none), h.grown.trans grown, new, added, once,
    fun some => grown.fired _ (behind some)⟩

theorem called {c : Call} {out : Outcome c.Reply} (h : Tended g w₀ lob w)
    (unclosing : ∀ l, c ≠ .closeLob l) (grown : w.signals.Grown w'.signals)
    (added : w'.exchanges = w.exchanges ++ [⟨c, out⟩]) : Tended g w₀ lob w' := by
  obtain ⟨new, since, once, behind⟩ := h.closes
  have quiet : closedLobs [⟨c, out⟩] = [] := by
    cases c <;> first | exact absurd rfl (unclosing _) | rfl
  refine ⟨h.guards, fun none => grown.fired _ (h.sealed none), h.grown.trans grown,
    new ++ [⟨c, out⟩], ?_, ?_, ?_⟩
  · rw [added, since, List.append_assoc]
  · simpa [quiet] using once
  · simpa [quiet] using fun some => grown.fired _ (behind some)

theorem shut (h : Tended g w₀ lob w) :
    Tended g w₀ { lob with position := none } (w.fire lob.guards.own) := by
  have fired : (w.fire g.own).signals.isFired g.own = true := by simp [World.fire]
  have grown : w.signals.Grown (w.fire g.own).signals := .fire w.signals g.own
  have kept := h.signals grown
  have own : w.fire lob.guards.own = w.fire g.own := by rw [h.guards]
  rw [own]
  exact ⟨h.guards, fun _ => fired, kept.grown, kept.closes⟩

/-- A handle whose signal has not fired was not given back yet. -/
theorem givenBack {l : LobLocator} {out : Outcome Unit} (h : Tended g w₀ lob w)
    (unfired : w.signals.isFired lob.guards.own = false)
    (grown : (w.fire lob.guards.own).signals.Grown w'.signals)
    (added : w'.exchanges = w.exchanges ++ [⟨.closeLob l, out⟩]) :
    Tended g w₀ { lob with position := none } w' := by
  have shut := h.shut
  have fired := grown.fired _ (shut.sealed rfl)
  rw [h.guards] at unfired
  obtain ⟨new, since, -, behind⟩ := h.closes
  have unclosed : closedLobs new = [] := by
    by_contra some
    simp [behind some] at unfired
  have one : closedLobs (new ++ [⟨.closeLob l, out⟩]) = [l.bytes] := by
    rw [closedLobs_append, unclosed]
    rfl
  refine ⟨h.guards, fun _ => fired, shut.grown.trans grown, new ++ [⟨.closeLob l, out⟩], ?_,
    by simp [one], fun _ => fired⟩
  rw [added, since, List.append_assoc]

theorem tending (g : Guards) (w₀ : World σ) : Tending (Tended g w₀) where
  moved _ h := ⟨h.guards, fun none => h.sealed (Option.map_eq_none_iff.1 none), h.grown, h.closes⟩
  sized _ h := ⟨h.guards, h.sealed, h.grown, h.closes⟩
  fired x h := h.signals (.fire _ x)
  called := called
  shut := shut
  givenBack := givenBack

/-- A handle is closed if one of the signals it waits with has fired. -/
theorem isClosed_iff (h : Tended g w₀ lob w) :
    lob.isClosed w.signals = true ↔
      w.signals.isFired g.own = true ∨ w.signals.isFired g.connection = true := by
  rw [isClosed, h.guards, Bool.or_eq_true, Bool.or_eq_true, Option.isNone_iff_eq_none, or_assoc]
  exact ⟨fun closed => closed.elim (fun none => .inl (h.sealed none)) id, .inr⟩

end Tended

end Lob

/-! ## A handle that is closed -/

namespace LobUse

/-- What comes of the use on a handle that is closed, with the error that its signals stand
for. A writer may still fail for a reason of its own. -/
def Refused (e : Error) : LobUse → Outcome Unit → Prop
  | .length, out | .readChunk, out | .getData, out | .trim _, out | .writer, out | .close, out =>
    out = .failed e
  | .write _, out | .finish, out => ∃ e, out = .failed e
  | .chunks, _ | .setPieceSize _, _ | .cancel, _ | .closeConnection, _ => True

end LobUse

section Stopped

variable (host : Host σ) {e : Error}

namespace Lob

theorem open?_stopped (stopped : firstFired w.signals (lob.guards.stops .lobClosed) = some e) :
    open? host lob w = (.failed e, lob, w) := by
  rw [open?_apply, stopped]

theorem readChunk_stopped (stopped : firstFired w.signals (lob.guards.stops .lobClosed) = some e) :
    readChunk host lob w = (.failed e, lob, w) := by
  rw [readChunk, bind_of_done (get_apply host lob w), bind_of_failed (open?_stopped host stopped)]

/-- A stream of pieces is the failure, if it is waited for at all. -/
theorem chunks_stopped (stopped : firstFired w.signals (lob.guards.stops .lobClosed) = some e) :
    chunks host lob w =
      (if host.patience = 0 then .stuck .waiting else .done [.error e], lob, w) := by
  rw [chunks, loop]
  cases host.patience with
  | zero => rfl
  | succ rounds =>
    rw [iterate, bind_of_done (bind_of_done (attempt_of_failed (readChunk_stopped host stopped)) _)]
    rfl

end Lob

namespace LobWriter

theorem send_stopped (stopped : firstFired w.signals (wtr.lob.guards.stops .lobClosed) = some e)
    (piece : LobData) :
    ∃ wtr' w', send piece host wtr w = (.failed e, wtr', w') ∧ w'.exchanges = w.exchanges := by
  rw [send_apply, guarded_apply, stopped]
  refine ⟨_, _, rfl, ?_⟩
  split <;> rfl

theorem commit_stopped
    (stopped : firstFired w.signals (wtr.lob.guards.stops .lobClosed) = some e) :
    ∃ wtr' w', commit host wtr w = (.failed e, wtr', w') ∧ w'.exchanges = w.exchanges := by
  rw [commit_apply, guarded_apply, stopped]
  refine ⟨_, _, rfl, ?_⟩
  split <;> rfl

theorem write_stopped (stopped : firstFired w.signals (wtr.lob.guards.stops .lobClosed) = some e)
    (data : LobData) : ∃ e, write data host wtr w = (.failed e, wtr, w) := by
  have refused : onLob Lob.open? host wtr w = (.failed e, wtr, w) := by
    rw [onLob_apply, Lob.open?_stopped host stopped]
  rw [write, bind_of_done (get_apply host wtr w)]
  split
  · exact ⟨_, rfl⟩
  split
  · exact ⟨_, rfl⟩
  · exact ⟨e, bind_of_failed refused _⟩

/-- What is left is not sent. -/
theorem flush_stopped (stopped : firstFired w.signals (wtr.lob.guards.stops .lobClosed) = some e) :
    flush host wtr w = (.done (), wtr, w) ∨
      ∃ wtr' w', flush host wtr w = (.failed e, wtr', w') ∧ w'.exchanges = w.exchanges := by
  rw [flush, bind_of_done (get_apply host wtr w)]
  split
  · have emptied : firstFired w.signals
        ({ wtr with buffer := LobData.empty wtr.lob.kind }.lob.guards.stops .lobClosed) =
          some e := stopped
    exact .inr (send_stopped host emptied wtr.buffer)
  split
  · exact .inr (send_stopped host stopped _)
  · exact .inl rfl

/-- Nothing is committed. -/
theorem finish_stopped (stopped : firstFired w.signals (wtr.lob.guards.stops .lobClosed) = some e) :
    ∃ e wtr' w', finish host wtr w = (.failed e, wtr', w') ∧ w'.exchanges = w.exchanges := by
  rw [finish, bind_of_done (get_apply host wtr w)]
  cases wtr.failure with
  | some e => exact ⟨e, _, _, rfl, rfl⟩
  | none =>
    rcases flush_stopped host stopped with flushed | ⟨wtr', w', failed, quiet⟩
    · obtain ⟨wtr', w', failed, quiet⟩ := commit_stopped host stopped
      exact ⟨e, wtr', w', (bind_of_done flushed _).trans failed, quiet⟩
    · exact ⟨e, wtr', w', bind_of_failed failed _, quiet⟩

end LobWriter

namespace LobUse

theorem lift_failed {t : Operation σ Lob α} (failed : t host wtr.lob w = (.failed e, wtr.lob, w)) :
    lift t host wtr w = (.failed e, wtr, w) := by
  rw [lift, failed]

theorem chunks_stopped (stopped : firstFired w.signals (wtr.lob.guards.stops .lobClosed) = some e) :
    chunks.run host wtr w = (if host.patience = 0 then .stuck .waiting else .failed e, wtr, w) := by
  have lifted : lift Lob.chunks host wtr w =
      (if host.patience = 0 then .stuck .waiting else .done [.error e], wtr, w) := by
    rw [lift, Lob.chunks_stopped host stopped]
  by_cases impatient : host.patience = 0
  · rw [if_pos impatient] at lifted ⊢
    exact bind_of_stuck lifted _
  · rw [if_neg impatient] at lifted ⊢
    exact bind_of_done lifted _

/-- A handle whose signals fired refuses its uses, and makes no call. -/
theorem run_stopped (stopped : firstFired w.signals (wtr.lob.guards.stops .lobClosed) = some e)
    (u : LobUse) :
    u.Refused e (u.run host wtr w).1 ∧ (u.run host wtr w).2.2.exchanges = w.exchanges := by
  have refused : ∀ {out wtr' w'}, u.run host wtr w = (out, wtr', w') → u.Refused e out →
      w'.exchanges = w.exchanges →
      u.Refused e (u.run host wtr w).1 ∧ (u.run host wtr w).2.2.exchanges = w.exchanges := by
    intro out wtr' w' run refused quiet
    rw [run]
    exact ⟨refused, quiet⟩
  have opened : ∀ {α : Type} (f : LobPosition → Operation σ Lob α),
      lift (Lob.open? >>= f) host wtr w = (.failed e, wtr, w) := fun f =>
    lift_failed host (bind_of_failed (Lob.open?_stopped host stopped) f)
  cases u with
  | length => exact refused (bind_of_failed (opened _) _) rfl rfl
  | readChunk =>
    exact refused (bind_of_failed (lift_failed host (Lob.readChunk_stopped host stopped)) _) rfl rfl
  | chunks => exact refused (chunks_stopped host stopped) trivial rfl
  | getData => exact refused (bind_of_failed (opened _) _) rfl rfl
  | trim size => exact refused (opened _) rfl rfl
  | writer => exact refused (bind_of_failed (opened _) _) rfl rfl
  | write data =>
    obtain ⟨e', run⟩ := LobWriter.write_stopped host stopped data
    exact refused run ⟨e', rfl⟩ rfl
  | finish =>
    obtain ⟨e', wtr', w', run, quiet⟩ := LobWriter.finish_stopped host stopped
    exact refused run ⟨e', rfl⟩ quiet
  | close => exact refused (opened _) rfl rfl
  | setPieceSize v =>
    rw [run, bind_of_done (get_apply host wtr w), Lob.setPieceSize]
    cases Lob.pieceSizeOf? v <;> exact ⟨trivial, rfl⟩
  | cancel => exact ⟨trivial, rfl⟩
  | closeConnection => exact ⟨trivial, rfl⟩

end LobUse

end Stopped

/-- A handle that is closed, and nothing was asked of the session since. -/
structure LobWriter.Over (g : Guards) (w₀ w₁ : World σ) (wtr : LobWriter) (w : World σ) : Prop where
  tended : wtr.lob.Tended g w₀ w
  fired : w.signals.isFired g.own = true ∨ w.signals.isFired g.connection = true
  quiet : w.exchanges = w₁.exchanges

namespace LobWriter.Over

variable {w₁ : World σ}

theorem stopped (h : Over g w₀ w₁ wtr w) :
    ∃ e, firstFired w.signals (wtr.lob.guards.stops .lobClosed) = some e := by
  rw [h.tended.guards]
  exact Guards.stops_some _ h.fired

theorem isClosed (h : Over g w₀ w₁ wtr w) : wtr.lob.isClosed w.signals = true :=
  (Lob.Tended.isClosed_iff h.tended).2 h.fired

/-- A use leaves it so. -/
theorem use (u : LobUse) : Preserves (Over g w₀ w₁) (u.run (σ := σ)) := by
  intro host wtr w h
  obtain ⟨e, stopped⟩ := h.stopped
  have grown := (u.run_grown host wtr w).2
  exact ⟨u.run_preserves (Lob.Tended.tending g w₀) host wtr w h.tended,
    h.fired.imp (grown.fired _) (grown.fired _),
    (LobUse.run_stopped host stopped u).2.trans h.quiet⟩

end LobWriter.Over

/-- Whatever is done with a handle, its object is given back once at most. Once the handle is
closed it stays closed, and from then on no use makes a call; every one that needs the object is
refused, and so is every write and finish of a writer. -/
theorem lob_closes_once (host : Host σ) (l : LobLocator) (own connection : Signal) (w : World σ)
    (before later : List LobUse) :
    ∃ outs wtr w₁ outs' wtr' w₂,
      inTurn LobUse.run before host (LobWriter.make (Lob.make l own connection)) w =
        (.done outs, wtr, w₁) ∧
      inTurn LobUse.run later host wtr w₁ = (.done outs', wtr', w₂) ∧
      (∃ new, w₁.exchanges = w.exchanges ++ new ∧ (closedLobs new).length ≤ 1) ∧
      (wtr.lob.isClosed w₁.signals = true →
        wtr'.lob.isClosed w₂.signals = true ∧ w₂.exchanges = w₁.exchanges ∧
        List.Forall₂ (fun u out => ∃ e, u.Refused e out) later outs') := by
  have tending := Lob.Tended.tending ⟨own, connection⟩ w
  have begun : (LobWriter.make (Lob.make l own connection)).lob.Tended ⟨own, connection⟩ w w :=
    .make l own connection w
  obtain ⟨outs, wtr, w₁, run, tended, -⟩ :=
    inTurn_ends host (R := fun _ _ => True) (LobUse.run_preserves tending)
      (fun _ _ _ _ => trivial) before begun
  have once : ∃ new, w₁.exchanges = w.exchanges ++ new ∧ (closedLobs new).length ≤ 1 := by
    obtain ⟨new, added, once, -⟩ := tended.closes
    exact ⟨new, added, once⟩
  by_cases closed : wtr.lob.isClosed w₁.signals = true
  · have ended : LobWriter.Over ⟨own, connection⟩ w w₁ wtr w₁ :=
      ⟨tended, (Lob.Tended.isClosed_iff tended).1 closed, rfl⟩
    obtain ⟨outs', wtr', w₂, run', ended', refused⟩ :=
      inTurn_ends host (R := fun u out => ∃ e, LobUse.Refused e u out)
        LobWriter.Over.use
        (fun u wtr w h => h.stopped.imp fun e stopped => (LobUse.run_stopped host stopped u).1)
        later ended
    exact ⟨outs, wtr, w₁, outs', wtr', w₂, run, run', once, fun _ =>
      ⟨ended'.isClosed, ended'.quiet, refused⟩⟩
  · obtain ⟨outs', wtr', w₂, run', -, -⟩ :=
      inTurn_ends host (R := fun _ _ => True) (LobUse.run_preserves tending)
        (fun _ _ _ _ => trivial) later tended
    exact ⟨outs, wtr, w₁, outs', wtr', w₂, run, run', once, fun now => absurd now closed⟩

/-- The uses behind a close ask for nothing, a second close included. -/
theorem second_close_asks_nothing :
    ∃ wtr w₁ outs wtr' w₂,
      inTurn LobUse.run [.close] LobWriter.takingHost
        (LobWriter.make (Lob.make ⟨[1], .clob, 0, 8, false⟩ ⟨1⟩ ⟨0⟩)) (World.start ()) =
          (.done [.failed .invalidLob], wtr, w₁) ∧
      inTurn LobUse.run [.length, .finish, .close] LobWriter.takingHost wtr w₁ =
        (.done outs, wtr', w₂) ∧
      closedLobs w₁.exchanges = [[1]] ∧ w₂.exchanges = w₁.exchanges := by
  obtain ⟨outs, wtr, w₁, outs', wtr', w₂, run, run', -, ended⟩ :=
    lob_closes_once LobWriter.takingHost ⟨[1], .clob, 0, 8, false⟩ ⟨1⟩ ⟨0⟩ (World.start ())
      [.close] [.length, .finish, .close]
  cases run
  exact ⟨_, _, outs', wtr', w₂, rfl, run', rfl, (ended rfl).2.1⟩

end SqlBinder

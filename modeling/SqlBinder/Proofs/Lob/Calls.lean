import SqlBinder.Proofs.Session.Rules
import SqlBinder.ResultSet
import SqlBinder.Connection.Sending

/-!
Which calls the operations on large objects make: an object that is filled is written and committed,
one that is read inline is read and closed, and no other object is touched.

There is one lemma for each operation, from the rules of `Calls`. They hold whatever the session
answers, so nothing has to be known of the answers here.
-/
namespace SqlBinder

open Operation

variable {σ η α : Type} {P : Call → Prop} {l : LobLocator}

/-- A call that writes to an object or commits it. -/
inductive Call.Writes (l : LobLocator) : Call → Prop where
  | write (offset : Nat) (data : LobData) : Writes l (.writeLob l offset data)
  | commit : Writes l (.commitLob l)

/-- A call that reads an object or closes it. -/
inductive Call.Reads (l : LobLocator) : Call → Prop where
  | read (offset amount : Nat) : Reads l (.readLob l offset amount)
  | close : Reads l (.closeLob l)

/-- Handles of one object. -/
def Lob.Of (l : LobLocator) (lob : Lob) : Prop := lob.locator = l

/-- Writers of one object. -/
def LobWriter.Of (l : LobLocator) (w : LobWriter) : Prop := w.lob.locator = l

namespace Lob

theorem open?_calls : Calls (Of l) P (open? : Operation σ Lob LobPosition) := by
  refine .get_bind fun lob _ => .bind (.check _ _) fun _ => ?_
  cases lob.position with
  | some p => exact .pure p
  | none => exact .fail _

theorem movePosition_calls (f : LobPosition → LobPosition) :
    Calls (Of l) P (movePosition f : Operation σ Lob Unit) :=
  .modify fun _ h => h

theorem roundTrip_calls {c : Call} (hc : P c) :
    Calls (Of l) P (roundTrip c : Operation σ Lob c.Reply) :=
  .get_bind fun _ _ => .guarded _ _ hc

theorem invalidate_calls : Calls (Of l) P (invalidate : Operation σ Lob Unit) := by
  refine .get_bind fun lob _ => .ite (.bind (.modify fun _ h => h) fun _ => .fire _) (.pure _)

theorem closingOnFailure_calls {t : Operation σ Lob α} (ht : Calls (Of l) P t) :
    Calls (Of l) P (closingOnFailure t) := by
  refine .bind ht.attempt fun r => ?_
  cases r with
  | ok a => exact .pure a
  | error e => exact .bind invalidate_calls fun _ => .fail e

theorem close_calls : Calls (Of l) (· = .closeLob l) (close : Operation σ Lob Unit) := by
  refine .bind open?_calls fun _ => .get_bind fun lob hl => .bind (.modify fun _ h => h) fun _ =>
    .bind (.fire _) fun _ => .callFreely ?_
  rw [show lob.locator = l from hl]

end Lob

namespace LobWriter

theorem onLob_calls {t : Operation σ Lob α} (ht : Calls (Lob.Of l) P t) :
    Calls (Of l) P (onLob t) := by
  refine .get_bind fun w hw => .on_bind ht hw fun r lob hl => .bind ?_ fun _ => .ofExcept r
  exact .modify fun _ _ => hl

theorem send_calls (piece : LobData) :
    Calls (Of l) (Call.Writes l) (send piece : Operation σ LobWriter Unit) := by
  refine .get_bind fun w hw => .bind (.attempt (onLob_calls (Lob.roundTrip_calls ?_))) fun r => ?_
  · rw [show w.lob.locator = l from hw]
    exact .write _ _
  · cases r with
    | ok _ => exact .bind (.modify fun _ h => h) fun _ => onLob_calls (Lob.movePosition_calls _)
    | error e =>
      exact .bind (onLob_calls Lob.invalidate_calls) fun _ => .bind (.modify fun _ h => h) fun _ =>
        .fail e

theorem sendPieces_calls (size count : Nat) :
    Calls (Of l) (Call.Writes l) (sendPieces size count : Operation σ LobWriter Unit) := by
  induction count with
  | zero => exact .pure ()
  | succ count ih =>
    exact .get_bind fun w _ => .bind (.modify fun _ h => h) fun _ =>
      .bind (send_calls _) fun _ => ih

theorem write_calls (data : LobData) :
    Calls (Of l) (Call.Writes l) (write data : Operation σ LobWriter Unit) := by
  refine .get_bind fun w _ => .ite (.fail _) (.ite (.fail _) (.bind (onLob_calls Lob.open?_calls)
    fun _ => .ite (.modify fun _ h => h) (.bind (.modify fun _ h => h) fun _ => ?_)))
  exact sendPieces_calls _ _

theorem flush_calls : Calls (Of l) (Call.Writes l) (flush : Operation σ LobWriter Unit) :=
  .get_bind fun _ _ => .ite (.bind (.modify fun _ h => h) fun _ => send_calls _)
    (.ite (send_calls _) (.pure _))

theorem commit_calls : Calls (Of l) (Call.Writes l) (commit : Operation σ LobWriter Unit) := by
  refine .get_bind fun w hw => onLob_calls (Lob.closingOnFailure_calls (Lob.roundTrip_calls ?_))
  rw [show w.lob.locator = l from hw]
  exact .commit

theorem finish_calls : Calls (Of l) (Call.Writes l) (finish : Operation σ LobWriter Unit) := by
  refine .get_bind fun w _ => ?_
  cases w.failure with
  | some e => exact .fail e
  | none => exact .bind flush_calls fun _ => commit_calls

end LobWriter

/-- Filling without the step that hands out the writer. -/
theorem Connection.fill_eq (data : LobData) :
    (fill data : Operation σ Lob Unit) = (do
      let _ ← Lob.open?
      let lob ← Operation.get
      let (result, writer) ← Operation.on (LobWriter.make lob) do
        LobWriter.write data
        LobWriter.finish
      Operation.modify fun _ => writer.lob
      Operation.ofExcept result) := by
  simp [fill, LobWriter.start]

/-- Filling an object writes and commits it. -/
theorem Connection.fill_calls (data : LobData) :
    Calls (Lob.Of l) (Call.Writes l) (fill data : Operation σ Lob Unit) := by
  rw [fill_eq]
  refine .bind Lob.open?_calls fun _ => .get_bind fun lob hl => ?_
  refine .on_bind (J := LobWriter.Of l) (.bind (LobWriter.write_calls data) fun _ =>
    LobWriter.finish_calls) hl fun r writer hw => ?_
  exact .bind (.modify fun _ _ => hw) fun _ => .ofExcept r

/-- Reading an object inline reads it and may close it. -/
theorem readWhole_calls {I : η → Prop} (g : Guards) (closed : Error) (l : LobLocator) :
    Calls I (Call.Reads l) (readWhole g closed l : Operation σ η Value) := by
  refine .bind (.loop (fun b => .bind (.guarded _ _ (.read _ _)) fun piece => ?_) _) fun data => ?_
  · exact .ite (.pure _) (.pure _)
  · exact .ite (.bind (.callFreely .close) fun _ => .pure _) (.pure _)

end SqlBinder

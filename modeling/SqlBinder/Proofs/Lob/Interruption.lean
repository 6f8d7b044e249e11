import SqlBinder.Proofs.Lob.Writing
import SqlBinder.Proofs.Session.Interruptible

/-!
Handles of large objects that are cancelled while they are worked on. Asking for the length, reading
a piece and cutting look at the signals once more right behind the answer; reading the whole content
and writing look only when the next round trip begins.

Each operation is put together by the rules of `Interruptible`. Those that put an answer down in
their handle ask for it once more before they do, which is the look behind the answer; a failure
closes the handle, for which nothing is asked.
-/
namespace SqlBinder

open Operation Interruption

variable {σ α : Type} {i : Interruption σ} {lob : Lob} {wtr : LobWriter}

namespace Lob

/-- A look right behind any answer. -/
abbrev OnAnyAnswer : World (σ × Nat) → List Exchange → Prop := OnAnswer fun _ => True

/-- Handles with these guards. -/
def Under (g : Guards) (lob : Lob) : Prop := lob.guards = g

variable (closed : i.closed = .lobClosed) (under : lob.Under i.guards)

include closed under

theorem open?_look : i.OnlyLooks open? lob
    (match lob.position with
      | some p => .done p
      | none => .failed .lobClosed) := by
  intro host w
  rw [open?_apply, show lob.guards = i.guards from under, closed]
  cases firstFired w.signals (i.guards.stops .lobClosed) with
  | some e => rfl
  | none => cases lob.position <;> rfl

theorem roundTrip_run (c : Call) (host : Host (σ × Nat)) (w : World (σ × Nat)) :
    roundTrip c host lob w = guarded i.guards i.closed c host lob w := by
  rw [roundTrip, bind_of_done (get_apply host lob w), show lob.guards = i.guards from under, closed]

theorem roundTrip_deaf {c : Call} (asks : ¬ c.Closes) :
    i.Deaf (Under i.guards) (roundTrip c) lob :=
  (Interruptible.guarded asks under).congr fun host w _ => roundTrip_run closed under c host w

theorem roundTrip_asks (c : Call) : Asks i (fun _ => True) (roundTrip c) lob := by
  intro w calm
  rw [roundTrip_run closed under]
  exact Asks.guarded (P := fun _ => True) trivial w calm

omit closed in
/-- Closing the handle fires no other signal than its own. -/
theorem invalidate_fires : ∃ xs, i.guards.connection ∉ xs ∧ ∀ (host : Host (σ × Nat)) w,
    invalidate host lob w = (.done (), { lob with position := none }, w.fireAll xs) := by
  refine ⟨if lob.position.isSome then [i.guards.own] else [], ?_, fun host w => ?_⟩
  · split
    · simpa using i.apart.symm
    · simp
  · rw [invalidate_apply, show lob.guards = i.guards from under]
    split <;> rfl

theorem closingOnFailure_deaf {c : Call} (asks : ¬ c.Closes) :
    i.Deaf (Under i.guards) (closingOnFailure (roundTrip c)) lob := by
  refine .closing (roundTrip_deaf closed under asks) fun e lob under => ?_
  obtain ⟨xs, other, fires⟩ := invalidate_fires (i := i) under
  exact ⟨{ lob with position := none }, xs, under, other, fun host w =>
    bind_of_done (fires host w) _⟩

theorem closingOnFailure_asks (c : Call) :
    Asks i (fun _ => True) (closingOnFailure (roundTrip c)) lob := by
  refine .closing (roundTrip_asks closed under c) fun e host lob w => ?_
  rw [bind_of_done (invalidate_apply host lob w)]
  refine ⟨_, _, rfl, ?_⟩
  split <;> rfl

theorem length_interruptible :
    i.Interruptible (Under i.guards) (fun w c => c = [] ∨ OnAnyAnswer w c) length lob := by
  refine .look_bind (open?_look closed under) under fun p _ => ?_
  cases p.length with
  | some n => exact .of_silent (fun _ _ => rfl) under fun _ => not_onAnswer_nil
  | none =>
    refine .get_bind (.answered (roundTrip_deaf closed under id) (roundTrip_asks closed under _)
      (fun n lob under => .look_deaf (open?_look closed under) under fun _ _ => ?_) fun n lob => ?_)
    · exact .silent (fun _ _ => rfl) under
    · exact ⟨Of lob.locator, rfl, .bind open?_calls fun _ => .bind (movePosition_calls _) fun _ =>
        .pure n⟩

theorem readChunk_interruptible :
    i.Interruptible (Under i.guards) (fun w c => c = [] ∨ OnAnyAnswer w c) readChunk lob := by
  refine .get_bind (.look_bind (open?_look closed under) under fun p _ => ?_)
  cases p.exhausted with
  | true => exact .of_silent (fun _ _ => rfl) under fun _ => not_onAnswer_nil
  | false =>
    refine .answered (closingOnFailure_deaf closed under id) (closingOnFailure_asks closed under _)
      (fun data lob under => .look_deaf (open?_look closed under) under fun _ _ => ?_)
      fun data lob => ?_
    · exact .ite (.silent (fun _ _ => rfl) under) (.silent (fun _ _ => rfl) under)
    · exact ⟨Of lob.locator, rfl, .bind open?_calls fun _ =>
        .ite (.bind (movePosition_calls _) fun _ => .pure _)
          (.bind (movePosition_calls _) fun _ => .pure _)⟩

theorem trim_interruptible (size : Nat) :
    i.Interruptible (Under i.guards) (fun w c => c = [] ∨ OnAnyAnswer w c) (trim size) lob :=
  .look_bind (open?_look closed under) under fun _ _ => .get_bind
    (.answered (roundTrip_deaf closed under id) (roundTrip_asks closed under _)
      (fun _ _ under => .look_deaf (open?_look closed under) under fun _ _ => .modify under)
      fun _ lob => ⟨Of lob.locator, rfl, .bind open?_calls fun _ => movePosition_calls _⟩)

theorem getData_interruptible :
    i.Interruptible (Under i.guards) (fun _ c => c = []) getData lob := by
  refine .look_deaf (open?_look closed under) under fun _ _ => .get_bind
    (.loop (fun read lob under => .bind_deaf (closingOnFailure_deaf closed under id)
      fun piece lob under => ?_) _ under)
  exact .ite (.pure _ under) (.pure _ under)

end Lob

namespace LobWriter

/-- Writers of objects with these guards. -/
def Under (g : Guards) (wtr : LobWriter) : Prop := wtr.lob.Under g

variable (closed : i.closed = .lobClosed) (under : wtr.Under i.guards)

theorem onLob_run (t : Operation (σ × Nat) Lob α) (wtr : LobWriter) (host : Host (σ × Nat))
    (w : World (σ × Nat)) :
    onLob t host wtr w =
      ((t host wtr.lob w).1,
        (match (t host wtr.lob w).1 with
          | .stuck _ => wtr
          | _ => { wtr with lob := (t host wtr.lob w).2.1 }), (t host wtr.lob w).2.2) := by
  rw [onLob_apply]
  rcases t host wtr.lob w with ⟨_ | _ | _, lob, w₁⟩ <;> rfl

include under in
theorem onLob_interruptible {looks : World (σ × Nat) → List Exchange → Prop}
    {t : Operation (σ × Nat) Lob α}
    (ht : i.Interruptible (Lob.Under i.guards) looks t wtr.lob) :
    i.Interruptible (Under i.guards) looks (onLob t) wtr := by
  refine .lift (fun out lob =>
    match out with
    | .stuck _ => wtr
    | _ => { wtr with lob := lob }) ht (onLob_run t wtr) fun out lob under' => ?_
  cases out with
  | stuck => exact under
  | done a => exact under'
  | failed e => exact under'

include closed under

theorem onLob_open?_look : i.OnlyLooks (onLob Lob.open?) wtr
    (match wtr.lob.position with
      | some p => .done p
      | none => .failed .lobClosed) := by
  intro host w
  rw [onLob_run, Lob.open?_look closed under]
  cases firstFired w.signals (i.guards.stops i.closed) with
  | some e => rfl
  | none => cases wtr.lob.position <;> rfl

/-- What sending a piece does when the round trip fails. -/
def sendFailed (e : Error) : Operation (σ × Nat) LobWriter Unit := do
  onLob Lob.invalidate
  Operation.modify fun w => { w with failure := some e }
  Operation.fail e

omit closed in
theorem sendFailed_run (e : Error) : ∃ wtr' xs, wtr'.Under i.guards ∧
    i.guards.connection ∉ xs ∧ ∀ (host : Host (σ × Nat)) w,
      sendFailed e host wtr w = (.failed e, wtr', w.fireAll xs) := by
  obtain ⟨xs, other, fires⟩ := Lob.invalidate_fires (i := i) under
  refine ⟨{ wtr with lob := { wtr.lob with position := none }, failure := some e }, xs, under,
    other, fun host w => ?_⟩
  have closes : onLob Lob.invalidate host wtr w =
      (.done (), { wtr with lob := { wtr.lob with position := none } }, w.fireAll xs) := by
    rw [onLob_run, fires host w]
  rw [sendFailed, bind_of_done closes]
  rfl

/-- Sending a piece is a round trip whose failure closes the object. -/
theorem send_deaf (piece : LobData) : i.Deaf (Under i.guards) (send piece) wtr := by
  let trip : Operation (σ × Nat) LobWriter Unit :=
    onLob (Lob.roundTrip (.writeLob wtr.lob.locator wtr.offset piece))
  let moves : Operation (σ × Nat) LobWriter Unit := do
    Operation.modify fun w => { w with offset := w.offset + piece.size, sentAny := true }
    onLob (Lob.movePosition fun p => { p with length := none })
  have tripped : i.Deaf (Under i.guards) (closing trip sendFailed) wtr :=
    .closing (onLob_interruptible under (Lob.roundTrip_deaf closed under id))
      fun e wtr under => sendFailed_run under e
  have whole : i.Deaf (Under i.guards) (closing trip sendFailed >>= fun _ => moves) wtr := by
    refine tripped.bind_deaf fun _ wtr under => .bind_deaf (.modify under) fun _ wtr under => ?_
    exact onLob_interruptible under (.modify under)
  refine whole.congr fun host w _ => ?_
  rw [send, bind_of_done (get_apply host wtr w)]
  rcases run : trip host wtr w with ⟨u | e | _, wtr₁, w₁⟩
  · rw [bind_of_done (attempt_of_done run), bind_of_done (closing_of_done run)]
  · obtain ⟨wtr₂, w₂, fails⟩ : ∃ wtr₂ w₂, sendFailed e host wtr₁ w₁ = (.failed e, wtr₂, w₂) := by
      simp only [sendFailed, bind_apply, onLob_run, Lob.invalidate_apply]
      exact ⟨_, _, rfl⟩
    rw [bind_of_done (attempt_of_failed run), bind_of_failed ((closing_of_failed run).trans fails)]
    exact fails
  · rw [bind_of_stuck (attempt_of_stuck run), bind_of_stuck (closing_of_stuck run)]

theorem sendPieces_deaf (size count : Nat) :
    i.Deaf (Under i.guards) (sendPieces size count) wtr := by
  induction count generalizing wtr with
  | zero => exact .pure () under
  | succ count ih =>
    refine .get_bind (.bind_deaf (.modify under) fun _ _ under => ?_)
    exact .bind_deaf (send_deaf closed under _) fun _ _ under => ih under

theorem write_interruptible (data : LobData) :
    ∃ looks, i.Interruptible (Under i.guards) looks (write data) wtr ∧
      ∀ w c, looks w c → c = [] := by
  by_cases failed : wtr.failure.isSome
  · have run : ∀ (host : Host (σ × Nat)) w, write data host wtr w =
        (.failed .invalidLob, wtr, w) := fun host w => by
      rw [write, bind_of_done (get_apply host wtr w), if_pos failed]
      rfl
    exact ⟨fun _ _ => False, .silent run under, fun _ _ => False.elim⟩
  by_cases other : data.kind ≠ wtr.lob.kind
  · have run : ∀ (host : Host (σ × Nat)) w, write data host wtr w =
        (.failed (wrongKind data wtr.lob.kind), wtr, w) := fun host w => by
      rw [write, bind_of_done (get_apply host wtr w), if_neg failed, if_pos other]
      rfl
    exact ⟨fun _ _ => False, .silent run under, fun _ _ => False.elim⟩
  · refine ⟨fun _ c => c = [], ?_, fun _ _ => id⟩
    refine .get_bind ?_
    rw [if_neg failed, if_neg other]
    refine .look_deaf (onLob_open?_look closed under) under fun _ _ => .ite (.modify under) ?_
    exact .bind_deaf (.modify under) fun _ _ under => sendPieces_deaf closed under _ _

theorem flush_deaf : i.Deaf (Under i.guards) flush wtr := by
  refine .get_bind (.ite (.bind_deaf (.modify under) fun _ _ under => ?_) (.ite ?_ ?_))
  · exact send_deaf closed under _
  · exact send_deaf closed under _
  · exact .pure () under

theorem commit_deaf : i.Deaf (Under i.guards) commit wtr :=
  .get_bind (onLob_interruptible under (Lob.closingOnFailure_deaf closed under id))

theorem finish_deaf : i.Deaf (Under i.guards) finish wtr := by
  refine .get_bind ?_
  cases wtr.failure with
  | some e => exact .fail e under
  | none => exact .bind_deaf (flush_deaf closed under) fun _ _ under => commit_deaf closed under

end LobWriter

end SqlBinder

import SqlBinder.Client.State
import SqlBinder.Proofs.Lob.Closing
import SqlBinder.Proofs.Lob.Storing

/-!
Tasks for one handle of a large object, one behind the other. A task is a use of the handle, or a
writer that is given its parts and then finished or dropped. Of the calls of a task only the last
can change what is committed, and only if it is a trim or the commit of a writer.

`Hides` is for operations that leave alone what is committed; each operation has it from the rules
for tracking. A task is sorted by its last call: the others before it are hidden, and it is refused,
or it is made and tells what it did.
-/
namespace SqlBinder

open Operation
open Client (WritePart)

variable {σ α : Type} {host : Host σ} {content : σ → LobContent} {l : LobLocator}
  {I : Lob → Prop} {lob lob' : Lob} {wtr wtr' : LobWriter} {w w' : World σ}

/-! ## Tasks -/

/-- What can be done with a handle. Only a writer takes it for longer than one operation. -/
inductive LobTask where
  | length
  | readChunk
  | chunks
  | getData
  | trim (size : Nat)
  | close
  | setPieceSize (v : Value)
  | interrupt (who : Client.Interruption)
  | write (parts : List WritePart) (finished : Bool)

/-- The work of a new writer, which has the handle meanwhile. -/
def LobWriter.working (t : Operation σ LobWriter α) : Operation σ Lob α := fun host lob w =>
  ((t host (make lob) w).1, (t host (make lob) w).2.1.lob, (t host (make lob) w).2.2)

/-- Give a writer its parts. A write that fails does not keep the others from being tried. -/
def LobWriter.writeParts : List WritePart → Operation σ LobWriter Unit
  | [] => pure ()
  | .data d :: rest => do
    let _ ← (write d).attempt
    writeParts rest
  | .interruption who :: rest => do
    Operation.fire (who.signal (← Operation.get).lob.guards)
    writeParts rest

namespace LobTask

/-- The task, without what it gives back. -/
def run : LobTask → Operation σ Lob Unit
  | .length => do
    let _ ← Lob.length
  | .readChunk => do
    let _ ← Lob.readChunk
  | .chunks => do
    let _ ← Lob.chunks
  | .getData => do
    let _ ← Lob.getData
  | .trim size => Lob.trim size
  | .close => Lob.close
  | .setPieceSize v => do
    let lob ← Operation.ofExcept ((← Operation.get).setPieceSize v)
    Operation.modify fun _ => lob
  | .interrupt who => do Operation.fire (who.signal (← Operation.get).guards)
  | .write parts finished => do
    let _ ← LobWriter.start
    LobWriter.working do
      LobWriter.writeParts parts
      if finished then LobWriter.finish else pure ()

end LobTask

/-! ## Calls that leave what is committed -/

/-- What holds of the handle of an object and minds neither that it moves, with its length kept or
forgotten, nor that it is closed. -/
structure Lob.Lasting (l : LobLocator) (I : Lob → Prop) : Prop where
  locator : ∀ {lob}, I lob → lob.locator = l
  moved : ∀ {lob f}, I lob → (∀ p : LobPosition, (f p).length = p.length ∨ (f p).length = none) →
    I { lob with position := lob.position.map f }
  shut : ∀ {lob}, I lob → I { lob with position := none }
  sized : ∀ {lob} size, I lob → I { lob with pieceSize := size }

/-- The operation makes calls that leave what is committed, and keeps what holds of the handle. -/
abbrev Lob.Hides (host : Host σ) (content : σ → LobContent) (l : LobLocator) (I : Lob → Prop)
    (t : Operation σ Lob α) : Prop :=
  Tracks host content LobContent.behind I (Call.Hidden l) t

/-- The same of an operation on a writer, for the handle that it owns. -/
abbrev LobWriter.Hides (host : Host σ) (content : σ → LobContent) (l : LobLocator)
    (I : Lob → Prop) (t : Operation σ LobWriter α) : Prop :=
  Tracks host content LobContent.behind (fun wtr => I wtr.lob) (Call.Hidden l) t

section Hides

variable (keeps : KeepsLob host l content) (lasting : Lob.Lasting l I)

namespace Lob

omit w w' in
theorem Hides.open? : Hides host content l I (Lob.open? : Operation σ Lob LobPosition) := by
  refine .get_bind fun lob _ => .bind (.check _ _) fun _ => ?_
  cases lob.position with
  | some p => exact .pure p
  | none => exact .fail _

include lasting in
theorem Hides.movePosition {f : LobPosition → LobPosition}
    (hf : ∀ p, (f p).length = p.length ∨ (f p).length = none) :
    Hides host content l I (Lob.movePosition f : Operation σ Lob Unit) :=
  .modify fun _ hi => lasting.moved hi hf

include lasting in
theorem Hides.invalidate : Hides host content l I (Lob.invalidate : Operation σ Lob Unit) := by
  refine .get_bind fun lob _ => ?_
  exact .ite (.bind (.modify fun _ hi => lasting.shut hi) fun _ => .fire _) (.pure ())

include keeps in
theorem Hides.roundTrip {c : Call} (hc : c.Hidden l) :
    Hides host content l I (Lob.roundTrip c : Operation σ Lob c.Reply) :=
  .get_bind fun _ _ => .guarded (keeps.moves.mono fun _ => .hidden) _ _ hc

include lasting in
theorem Hides.closingOnFailure {t : Operation σ Lob α} (ht : Hides host content l I t) :
    Hides host content l I (Lob.closingOnFailure t) := by
  refine .bind ht.attempt fun r => ?_
  cases r with
  | ok a => exact .pure a
  | error e => exact .bind (Hides.invalidate lasting) fun _ => .fail e

include keeps lasting

/-- The length is known behind its measuring. -/
theorem Hides.length
    (learns : ∀ {lob} n, I lob →
      I { lob with position := lob.position.map fun p => { p with length := some n } }) :
    Hides host content l I (Lob.length : Operation σ Lob Nat) := by
  refine .bind Hides.open? fun p => ?_
  cases p.length with
  | some n => exact .pure n
  | none =>
    refine .get_bind fun lob hi => ?_
    have asked : (Call.measureLob lob.locator).Hidden l := by
      rw [lasting.locator hi]
      exact .measure
    refine .bind (Hides.roundTrip keeps asked) fun n => .bind Hides.open? fun _ => ?_
    exact .bind (.modify fun _ hi => learns n hi) fun _ => .pure n

theorem Hides.readChunk :
    Hides host content l I (Lob.readChunk : Operation σ Lob (Option LobData)) := by
  refine .get_bind fun lob hi => ?_
  refine .bind Hides.open? fun p => .ite (.pure _) ?_
  have read : (Call.readLob lob.locator p.readOffset lob.transferSize).Hidden l := by
    rw [lasting.locator hi]
    exact .read _ _
  refine .bind (Hides.closingOnFailure lasting (Hides.roundTrip keeps read)) fun _ => ?_
  refine .bind Hides.open? fun _ => .ite ?_ ?_
  · exact .bind (Hides.movePosition lasting fun _ => .inl rfl) fun _ => .pure _
  · exact .bind (Hides.movePosition lasting fun _ => .inl rfl) fun _ => .pure _

theorem Hides.chunks : Hides host content l I (Lob.chunks : Operation σ Lob _) := by
  refine .loop (fun _ => .bind (Hides.readChunk keeps lasting).attempt fun r => ?_) _
  rcases r with e | _ | data <;> exact .pure _

theorem Hides.getData : Hides host content l I (Lob.getData : Operation σ Lob LobData) := by
  refine .bind Hides.open? fun _ => .get_bind fun lob hi => .loop (fun next => ?_) _
  have read : (Call.readLob lob.locator next.1 lob.transferSize).Hidden l := by
    rw [lasting.locator hi]
    exact .read _ _
  exact .bind (Hides.closingOnFailure lasting (Hides.roundTrip keeps read)) fun _ =>
    .ite (.pure _) (.pure _)

theorem Hides.close : Hides host content l I (Lob.close : Operation σ Lob Unit) := by
  refine .bind Hides.open? fun _ => .get_bind fun lob hi => ?_
  refine .bind (.modify fun _ hi => lasting.shut hi) fun _ => .bind (.fire _) fun _ => ?_
  rw [lasting.locator hi]
  exact .call (keeps.moves.mono fun _ => .hidden) .close _

end Lob

namespace LobWriter

omit keeps lasting in
theorem Hides.onLob {t : Operation σ Lob α} (ht : Lob.Hides host content l I t) :
    Hides host content l I (LobWriter.onLob t) := by
  intro wtr w hi
  have led := ht wtr.lob w hi
  rw [onLob_apply]
  rcases run : t host wtr.lob w with ⟨_ | _ | _, lob, w₁⟩ <;> rw [run] at led
  · exact led
  · exact led
  · exact ⟨hi, led.2⟩

include keeps lasting

theorem Hides.send (piece : LobData) :
    Hides host content l I (LobWriter.send piece : Operation σ LobWriter Unit) := by
  refine .get_bind fun wtr hi => ?_
  have write : (Call.writeLob wtr.lob.locator wtr.offset piece).Hidden l := by
    rw [lasting.locator hi]
    exact .write _ _
  refine .bind (Hides.onLob (Lob.Hides.roundTrip keeps write)).attempt fun r => ?_
  cases r with
  | ok _ =>
    exact .bind (.modify fun _ hi => hi) fun _ =>
      Hides.onLob (Lob.Hides.movePosition lasting fun _ => .inr rfl)
  | error e =>
    exact .bind (Hides.onLob (Lob.Hides.invalidate lasting)) fun _ =>
      .bind (.modify fun _ hi => hi) fun _ => .fail e

theorem Hides.sendPieces (size count : Nat) :
    Hides host content l I (LobWriter.sendPieces size count : Operation σ LobWriter Unit) := by
  induction count with
  | zero => exact .pure ()
  | succ count ih =>
    exact .get_bind fun _ _ => .bind (.modify fun _ hi => hi) fun _ =>
      .bind (Hides.send keeps lasting _) fun _ => ih

theorem Hides.write (data : LobData) :
    Hides host content l I (LobWriter.write data : Operation σ LobWriter Unit) := by
  refine .get_bind fun _ _ => .ite (.fail _) (.ite (.fail _) ?_)
  refine .bind (Hides.onLob Lob.Hides.open?) fun _ => .ite (.modify fun _ hi => hi) ?_
  exact .bind (.modify fun _ hi => hi) fun _ => Hides.sendPieces keeps lasting _ _

theorem Hides.flush : Hides host content l I (LobWriter.flush : Operation σ LobWriter Unit) :=
  .get_bind fun _ _ => .ite (.bind (.modify fun _ hi => hi) fun _ => Hides.send keeps lasting _)
    (.ite (Hides.send keeps lasting _) (.pure _))

theorem Hides.writeParts (parts : List WritePart) :
    Hides host content l I (LobWriter.writeParts parts : Operation σ LobWriter Unit) := by
  induction parts with
  | nil => exact .pure ()
  | cons part rest ih =>
    cases part with
    | data d => exact .bind (Hides.write keeps lasting d).attempt fun _ => ih
    | interruption who => exact .get_bind fun _ _ => .bind (.fire _) fun _ => ih

end LobWriter

end Hides

/-! ## Calls that change what is committed -/

/-- A signal of the guards has fired. -/
def Guards.Stopped (g : Guards) (s : Signals) : Prop :=
  s.isFired g.own = true ∨ s.isFired g.connection = true

theorem Guards.Stopped.grown {g : Guards} {s s' : Signals} (stopped : g.Stopped s)
    (grown : s.Grown s') : g.Stopped s' :=
  stopped.imp (grown.fired _) (grown.fired _)

theorem Guards.stopped_of_stops {g : Guards} {s : Signals} {closed e : Error}
    (some : firstFired s (g.stops closed) = some e) : g.Stopped s := by
  by_contra quiet
  obtain ⟨own, connection⟩ := not_or.1 quiet
  simp [stops, firstFired, own, connection] at some

section Changes

variable (keeps : KeepsLob host l content)

include keeps

/-- A trim is refused, or it is one call, behind which the length is forgotten if it succeeded and
the handle is still open. -/
theorem Lob.trim_led (located : lob.locator = l) (size : Nat) (w : World σ) :
    ∃ out lob' w', trim size host lob w = (out, lob', w') ∧
      ((lob' = lob ∧ w' = w) ∨ ∃ reply,
        Led content LobContent.behind w w' [⟨.trimLob l size, reply⟩] ∧
        (lob' = lob.forgetLength ∨
          lob' = lob ∧ (reply ≠ .done () ∨ lob.guards.Stopped w'.signals))) := by
  subst located
  rw [trim, bind_apply, open?_apply]
  cases firstFired w.signals (lob.guards.stops .lobClosed) with
  | some e => exact ⟨_, _, _, rfl, .inl ⟨rfl, rfl⟩⟩
  | none =>
    cases there : lob.position with
    | none => exact ⟨_, _, _, rfl, .inl ⟨rfl, rfl⟩⟩
    | some p =>
      simp only [bind_apply, get_apply, roundTrip]
      rcases keeps.moves.guarded (.trim size) lob.guards .lobClosed lob w with
        ⟨e, -, refused⟩ | ⟨reply, w₁, made, led⟩
      · rw [refused]
        exact ⟨_, _, _, rfl, .inl ⟨rfl, rfl⟩⟩
      · rw [made]
        cases reply with
        | failed e => exact ⟨_, _, _, rfl, .inr ⟨_, led, .inr ⟨rfl, .inl nofun⟩⟩⟩
        | stuck => exact ⟨_, _, _, rfl, .inr ⟨_, led, .inr ⟨rfl, .inl nofun⟩⟩⟩
        | done u =>
          dsimp only
          rw [open?_apply, there]
          cases stopped : firstFired w₁.signals (lob.guards.stops .lobClosed) with
          | some e =>
            exact ⟨_, _, _, rfl,
              .inr ⟨_, led, .inr ⟨rfl, .inr (Guards.stopped_of_stops stopped)⟩⟩⟩
          | none => exact ⟨_, _, _, rfl, .inr ⟨_, led, .inl rfl⟩⟩

/-- A commit is refused, or it is one call, and done if that succeeded. -/
theorem LobWriter.commit_led (lasting : Lob.Lasting l I) (hi : I wtr.lob) (w : World σ) :
    ∃ out wtr' w', commit host wtr w = (out, wtr', w') ∧ I wtr'.lob ∧
      ((Led content LobContent.behind w w' [] ∧ out ≠ .done ()) ∨
        Led content LobContent.behind w w' [⟨.commitLob l, out⟩]) := by
  rw [commit_apply, lasting.locator hi]
  rcases keeps.moves.guarded .commit wtr.lob.guards .lobClosed wtr.lob w with
    ⟨e, -, refused⟩ | ⟨reply, w₁, made, led⟩
  · rw [refused]
    refine ⟨_, _, _, rfl, lasting.shut hi, .inl ⟨?_, nofun⟩⟩
    split
    · exact .signals (.fire w.signals _)
    · exact .refl w
  · rw [made]
    cases reply with
    | done u => exact ⟨_, _, _, rfl, hi, .inr led⟩
    | stuck => exact ⟨_, _, _, rfl, hi, .inr led⟩
    | failed e =>
      refine ⟨_, _, _, rfl, lasting.shut hi, .inr ?_⟩
      split
      · have fired : Led content LobContent.behind w₁ (w₁.fire wtr.lob.guards.own) [] :=
          .signals (.fire w₁.signals _)
        exact led.trans fired
      · exact led

/-- What is left to do before the commit. -/
def LobWriter.prepare : Operation σ LobWriter Unit := do
  match (← Operation.get).failure with
  | some e => Operation.fail e
  | none => flush

omit keeps in
theorem LobWriter.finish_eq :
    (finish : Operation σ LobWriter Unit) = prepare >>= fun _ => commit := by
  funext host wtr w
  rw [finish, prepare, bind_assoc, bind_of_done (get_apply host wtr w),
    bind_of_done (get_apply host wtr w)]
  cases wtr.failure <;> rfl

theorem LobWriter.Hides.prepare (lasting : Lob.Lasting l I) :
    Hides host content l I (LobWriter.prepare : Operation σ LobWriter Unit) := by
  refine .get_bind fun wtr _ => ?_
  cases wtr.failure with
  | some e => exact .fail e
  | none => exact Hides.flush keeps lasting

omit keeps in
theorem LobWriter.start_apply (host : Host σ) (lob : Lob) (w : World σ) :
    start host lob w =
      match firstFired w.signals (lob.guards.stops .lobClosed), lob.position with
      | some e, _ => (.failed e, lob, w)
      | none, some _ => (.done (make lob), lob, w)
      | none, none => (.failed .lobClosed, lob, w) := by
  rw [start, bind_apply, Lob.open?_apply]
  cases firstFired w.signals (lob.guards.stops .lobClosed) with
  | some e => rfl
  | none => cases lob.position <;> rfl

/-- Calls that leave what is committed, and then at most a commit. The outcome is the commit's. -/
def LobWriter.Concluded (content : σ → LobContent) (l : LobLocator) (out : Outcome Unit)
    (w w' : World σ) : Prop :=
  ∃ hidden last, Led content LobContent.behind w w' (hidden ++ last) ∧
    (∀ x ∈ hidden, x.call.Hidden l) ∧
    (last = [] ∧ out ≠ .done () ∨ last = [⟨.commitLob l, out⟩])

/-- A writer that is given its parts and finished. -/
theorem LobWriter.finished_led (lasting : Lob.Lasting l I) (hi : I wtr.lob)
    (parts : List WritePart) (w : World σ) :
    ∃ out wtr' w', (writeParts parts >>= fun _ => finish) host wtr w = (out, wtr', w') ∧
      I wtr'.lob ∧ Concluded content l out w w' := by
  have parted : (writeParts parts >>= fun _ => finish : Operation σ LobWriter Unit) =
      (writeParts parts >>= fun _ => prepare) >>= fun _ => commit := by
    rw [bind_assoc, finish_eq]
  have sends : Hides host content l I (writeParts parts >>= fun _ => prepare) :=
    .bind (Hides.writeParts keeps lasting parts) fun _ => Hides.prepare keeps lasting
  obtain ⟨hi₁, hidden, led, leaves⟩ := sends wtr w hi
  rw [parted]
  rcases run : (writeParts parts >>= fun _ => prepare) host wtr w with ⟨u | e | _, wtr₁, w₁⟩ <;>
    rw [run] at hi₁ led
  · obtain ⟨out, wtr', w', committed, hi', ended⟩ := commit_led keeps lasting hi₁ w₁
    rw [bind_of_done run, committed]
    refine ⟨_, _, _, rfl, hi', hidden, ?_⟩
    rcases ended with ⟨led', undone⟩ | led'
    · exact ⟨[], led.trans led', leaves, .inl ⟨rfl, undone⟩⟩
    · exact ⟨_, led.trans led', leaves, .inr rfl⟩
  · rw [bind_of_failed run]
    exact ⟨_, _, _, rfl, hi₁, hidden, [], by simpa using led, leaves, .inl ⟨rfl, nofun⟩⟩
  · rw [bind_of_stuck run]
    exact ⟨_, _, _, rfl, hi₁, hidden, [], by simpa using led, leaves, .inl ⟨rfl, nofun⟩⟩

omit keeps in
/-- A writer works on an open handle. -/
theorem LobTask.run_write (parts : List WritePart) (host : Host σ) (lob : Lob) (w : World σ) :
    (∃ e, run (.write parts true) host lob w = (.failed e, lob, w)) ∨
      lob.position.isSome ∧ ∀ {out wtr' w'},
        (LobWriter.writeParts parts >>= fun _ => LobWriter.finish) host (.make lob) w =
          (out, wtr', w') →
        run (.write parts true) host lob w = (out, wtr'.lob, w') := by
  rw [run, bind_apply, LobWriter.start_apply]
  cases firstFired w.signals (lob.guards.stops .lobClosed) with
  | some e => exact .inl ⟨e, rfl⟩
  | none =>
    cases there : lob.position with
    | none => exact .inl ⟨.lobClosed, rfl⟩
    | some p =>
      refine .inr ⟨rfl, fun worked => ?_⟩
      dsimp only
      rw [LobWriter.working, if_pos rfl, worked]

omit keeps in
/-- A task asks for the length, cuts, finishes a writer, or is none of these. -/
theorem LobTask.sorts (t : LobTask) : t = .length ∨ (∃ n, t = .trim n) ∨
    (∃ parts, t = .write parts true) ∨
      t ≠ .length ∧ (∀ n, t ≠ .trim n) ∧ ∀ parts, t ≠ .write parts true := by
  rcases t with _ | _ | _ | _ | n | _ | _ | _ | ⟨parts, _ | _⟩ <;> simp

/-- Every other task but a trim leaves what is committed. -/
theorem LobTask.run_hides (lasting : Lob.Lasting l I) {t : LobTask} (unmeasured : t ≠ .length)
    (untrimmed : ∀ n, t ≠ .trim n) (unfinished : ∀ parts, t ≠ .write parts true) :
    Lob.Hides host content l I (t.run (σ := σ)) := by
  cases t with
  | length => exact absurd rfl unmeasured
  | trim n => exact absurd rfl (untrimmed n)
  | readChunk => exact .bind (Lob.Hides.readChunk keeps lasting) fun _ => .pure _
  | chunks => exact .bind (Lob.Hides.chunks keeps lasting) fun _ => .pure _
  | getData => exact .bind (Lob.Hides.getData keeps lasting) fun _ => .pure _
  | close => exact Lob.Hides.close keeps lasting
  | interrupt who => exact .get_bind fun _ _ => .fire _
  | setPieceSize v =>
    intro lob w hi
    rw [run, bind_of_done (get_apply host lob w), Lob.setPieceSize]
    cases Lob.pieceSizeOf? v with
    | none => exact ⟨hi, [], .refl w, by simp⟩
    | some size => exact ⟨lasting.sized size hi, [], .refl w, by simp⟩
  | write parts finished =>
    cases finished with
    | true => exact absurd rfl (unfinished parts)
    | false =>
      refine .bind (fun lob w hi => ?_) fun _ => ?_
      · rw [LobWriter.start_apply]
        cases firstFired w.signals (lob.guards.stops .lobClosed) with
        | some e => exact ⟨hi, [], .refl w, by simp⟩
        | none => cases lob.position <;> exact ⟨hi, [], .refl w, by simp⟩
      · have works : LobWriter.Hides host content l I
            (LobWriter.writeParts parts >>= fun _ => pure ()) :=
          .bind (LobWriter.Hides.writeParts keeps lasting parts) fun _ => .pure ()
        exact fun lob w hi => works (.make lob) w hi

end Changes

end SqlBinder

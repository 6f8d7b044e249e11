import SqlBinder.Proofs.Lob.Writing
import SqlBinder.Proofs.Session.Account
import SqlBinder.Proofs.Session.Custody
import SqlBinder.ResultSet

/-!
Large objects in custody. An object that is read in place or filled is settled behind the operation,
or its handle is still open and the object is to be given back.

A round trip that fails closes the handle for good, so nothing is given back behind it, and the
object counts as settled there. `Steady` has one rule for each way of building the operations of a
writer, which work on the handle that the writer owns.
-/
namespace SqlBinder

open Operation

variable {σ η α β : Type} {s : Scene σ} {own own' : List Signal} {w : World σ} {l : LobLocator}
  {new more : List Exchange}

/-! ## Single calls -/

theorem plain_closeLob (out : Outcome (Call.closeLob l).Reply) : Plain [⟨.closeLob l, out⟩] :=
  ⟨rfl, rfl⟩

theorem eachLob_closeLob (out : Outcome (Call.closeLob l).Reply) :
    EachLob Settled [l.bytes] [⟨.closeLob l, out⟩] := by
  refine .single rfl (fun b hb => ⟨?_, ?_, ?_⟩) ?_
  · simp [takenLobs, Exchange.takenLob?]
  · simp [brokenLobs, Exchange.brokenLob?]
  · simpa [closedLobs, Exchange.closedLob?] using hb
  · simp [Settled, closedLobs, brokenLobs, Exchange.closedLob?, Exchange.brokenLob?]

/-- A call that moves content of an object. -/
inductive Call.Moves (l : LobLocator) : Call → Prop where
  | read (offset amount : Nat) : Moves l (.readLob l offset amount)
  | write (offset : Nat) (data : LobData) : Moves l (.writeLob l offset data)
  | commit : Moves l (.commitLob l)

theorem Call.Moves.plain {c : Call} (h : Call.Moves l c) (out : Outcome c.Reply) :
    Plain [⟨c, out⟩] := by
  cases h <;> exact ⟨rfl, rfl⟩

theorem Call.Moves.closed {c : Call} (h : Call.Moves l c) (out : Outcome c.Reply) :
    closedLobs [⟨c, out⟩] = [] := by
  cases h <;> rfl

theorem Call.Moves.others {c : Call} (h : Call.Moves l c) (out : Outcome c.Reply) (b : LobKey)
    (hb : b ≠ l.bytes) : Idle b [⟨c, out⟩] := by
  refine ⟨?_, ?_, by simp [h.closed out]⟩
  · cases h <;> simp [takenLobs, Exchange.takenLob?, Ne.symm hb]
  · cases h <;> cases out <;> simp [brokenLobs, Exchange.brokenLob?, hb]

/-- Content that was moved leaves the object to be given back. -/
theorem Call.Moves.owed {c : Call} (h : Call.Moves l c) (r : c.Reply) :
    EachLob Owed [l.bytes] [⟨c, .done r⟩] := by
  have unbroken : brokenLobs [⟨c, .done r⟩] = [] := by cases h <;> rfl
  exact .single (h.plain _).handed (h.others _) ⟨by simp [unbroken], by simp [h.closed]⟩

/-- Content that could not be moved settles the object. -/
theorem Call.Moves.settled {c : Call} (h : Call.Moves l c) (e : Error) :
    EachLob Settled [l.bytes] [⟨c, .failed e⟩] := by
  have broken : brokenLobs [⟨c, .failed e⟩] = [l.bytes] := by cases h <;> rfl
  exact .single (h.plain _).handed (h.others _) (by simp [Settled, broken, h.closed])

/-! ## Giving back -/

namespace Lob

/-- The handle is open, for all that its own state and its connection's signal tell. -/
structure Opened (s : Scene σ) (lob : Lob) : Prop where
  position : lob.position.isSome
  connection : lob.guards.connection = s.closed

/-- A handle in custody is open. -/
theorem open?_ends {lob : Lob} (opened : lob.Opened s) (hown : lob.guards.own ∈ own) :
    Ends s own open? lob w fun r lob' own' new =>
      r.isOk ∧ lob' = lob ∧ own' = own ∧ new = [] := by
  intro r lob' w' calm run
  obtain ⟨p, hp⟩ := Option.isSome_iff_exists.1 opened.position
  have ran : open? s.host lob w = (.done p, lob, w) := by
    rw [open?_apply, calm.stops_none opened.connection hown, hp]
  rw [attempt_of_done ran] at run
  simp only [Prod.mk.injEq, Outcome.done.injEq] at run
  obtain ⟨rfl, rfl, rfl⟩ := run
  exact ⟨own, [], by simp, calm, rfl, rfl, rfl, rfl⟩

/-- A handle in custody is closed by one call. -/
theorem close_ends {lob : Lob} (opened : lob.Opened s) :
    Ends s (lob.guards.own :: own) close lob w fun _ _ own' new =>
      own' = own ∧ Plain new ∧ EachLob Settled [lob.locator.bytes] new := by
  refine Ends.bind (open?_ends opened (by simp)) ?_ ?_
  · intro p _ _ w₁ _ _ ended
    obtain ⟨-, rfl, rfl, rfl⟩ := ended
    refine Ends.get_bind (Ends.modify_bind (Ends.fire_bind fun w₂ => Ends.call ?_ ?_))
    · exact fun r => ⟨rfl, plain_closeLob _, eachLob_closeLob _⟩
    · exact fun e => ⟨rfl, plain_closeLob _, eachLob_closeLob _⟩
  · intro e _ _ w₁ _ _ ended
    obtain ⟨failed, -⟩ := ended
    simp [Except.isOk, Except.toBool] at failed

end Lob

/-! ## Reading in place -/

section Reading

variable {h : η} {g : Guards} {closed : Error}

/-- What reading has come to. An object that is not temporary is none of its business. -/
def ReadSoFar (l : LobLocator) (new : List Exchange) : Except Error α → Prop
  | .ok _ => Plain new ∧ EachLob Owed [l.bytes] new ∧ (l.isTemporary = false → ∀ b, Idle b new)
  | .error _ => Plain new ∧ EachLob Settled [l.bytes] new

theorem readLob_ends {offset amount : Nat} (connection : g.connection = s.closed)
    (hown : g.own ∈ own) :
    Ends s own (guarded g closed (.readLob l offset amount)) h w fun r h' own' new =>
      h' = h ∧ own' = own ∧ ReadSoFar l new r := by
  have moves : Call.Moves l (.readLob l offset amount) := .read offset amount
  refine Ends.guarded connection hown (fun r => ⟨rfl, rfl, ?_⟩) fun e => ⟨rfl, rfl, ?_⟩
  · refine ⟨moves.plain _, moves.owed r, fun permanent b => ?_⟩
    have untaken : takenLobs [⟨.readLob l offset amount, .done r⟩] = [] := by
      simp [takenLobs, Exchange.takenLob?, permanent]
    exact ⟨by simp [untaken], by simp [brokenLobs, Exchange.brokenLob?], by simp [moves.closed]⟩
  · exact ⟨moves.plain _, moves.settled e⟩

/-- Reading goes on from what was read. -/
theorem ReadSoFar.trans {a : α} {r : Except Error β} (h : ReadSoFar l new (.ok a))
    (h' : ReadSoFar l more r) : ReadSoFar l (new ++ more) r := by
  obtain ⟨plain, owed, idle⟩ := h
  cases r with
  | ok b =>
    obtain ⟨plain', owed', idle'⟩ := h'
    exact ⟨plain.append plain', owed.append_plain .owed Owed.append plain owed', fun permanent b =>
      (idle permanent b).append (idle' permanent b)⟩
  | error e =>
    obtain ⟨plain', settled⟩ := h'
    exact ⟨plain.append plain', owed.append_plain .settled Owed.append_settled plain settled⟩

theorem readRounds_ends (rounds : Nat) (read : Nat × LobData) (connection : g.connection = s.closed)
    (hown : g.own ∈ own) :
    Ends s own (iterate (readPiece g closed l) rounds read) h w fun r h' own' new =>
      h' = h ∧ own' = own ∧ ReadSoFar l new r := by
  -- Each round reads one piece; what was read so far is owed still.
  induction rounds generalizing read w with
  | zero => exact Ends.halt .waiting
  | succ rounds ih =>
    rw [iterate, readPiece, bind_assoc]
    apply Ends.bind (readLob_ends connection hown)
    · intro piece _ _ w₁ new _ ended
      obtain ⟨rfl, rfl, first⟩ := ended
      by_cases last : piece.isEmpty
      · simp only [last, if_true, pure_bind]
        exact Ends.pure ⟨rfl, rfl, by simpa [ReadSoFar] using first⟩
      · simp only [last, Bool.false_eq_true, if_false, pure_bind]
        exact (ih _).mono fun r h' own' more ⟨hh, ho, rest⟩ => ⟨hh, ho, first.trans rest⟩
    · intro e _ _ w₁ new _ ended
      obtain ⟨rfl, rfl, first⟩ := ended
      exact ⟨rfl, rfl, first⟩

/-- Reading leaves the object to be given back, and settles it when it fails. -/
theorem readWhole_ends (connection : g.connection = s.closed) (hown : g.own ∈ own) :
    Ends s own (readWhole g closed l) h w fun _ h' own' new =>
      h' = h ∧ own' = own ∧ Plain new ∧ EachLob Cleared [l.bytes] new := by
  apply Ends.bind (readRounds_ends s.host.patience (1, LobData.empty l.kind) connection hown)
  · intro data _ _ w₁ new _ ended
    obtain ⟨rfl, rfl, plain, owed, idle⟩ := ended
    -- Only a temporary object is taken on, so only that one has to be given back.
    by_cases temporary : l.isTemporary
    · simp only [temporary, if_true]
      have closed : ∀ out, Plain (new ++ [⟨.closeLob l, out⟩]) ∧
          EachLob Cleared [l.bytes] (new ++ [⟨.closeLob l, out⟩]) := by
        intro out
        have back := owed.append_plain .settled Owed.append_settled plain (eachLob_closeLob out)
        exact ⟨plain.append (plain_closeLob out), back.imp fun _ => .inr⟩
      exact Ends.call_bind (fun r w' => Ends.pure ⟨rfl, rfl, closed _⟩) fun e =>
        ⟨rfl, rfl, closed _⟩
    · simp only [temporary, Bool.false_eq_true, if_false]
      refine Ends.pure ⟨rfl, rfl, ?_, ?_⟩
      · simpa using plain
      · simpa using owed.imp fun b _ => .inl (idle (by simpa using temporary) b)
  · intro e _ _ w₁ new _ ended
    obtain ⟨rfl, rfl, plain, settled⟩ := ended
    exact ⟨rfl, rfl, plain, settled.imp fun _ => .inr⟩

end Reading

/-! ## Filling -/

namespace Lob

/-- The handle is open still, and the object is to be given back. -/
structure Kept (lob : Lob) (own : List Signal) (lob' : Lob) (own' : List Signal)
    (new : List Exchange) : Prop where
  locator : lob'.locator = lob.locator
  guards : lob'.guards = lob.guards
  position : lob'.position.isSome
  own : own' = lob.guards.own :: own
  owed : EachLob Owed [lob.locator.bytes] new

/-- The handle was closed behind a call that failed. -/
structure Lost (lob : Lob) (own : List Signal) (lob' : Lob) (own' : List Signal)
    (new : List Exchange) : Prop where
  position : lob'.position = none
  own : own' = own
  settled : EachLob Settled [lob.locator.bytes] new

/-- What becomes of a handle whose content is moved. -/
def Fares (lob : Lob) (own : List Signal) (lob' : Lob) (own' : List Signal)
    (new : List Exchange) : Except Error α → Prop
  | .ok _ => Plain new ∧ lob.Kept own lob' own' new
  | .error _ => Plain new ∧ (lob.Kept own lob' own' new ∨ lob.Lost own lob' own' new)

theorem Kept.refl {lob : Lob} (opened : lob.Opened s) :
    lob.Kept own lob (lob.guards.own :: own) [] :=
  ⟨rfl, rfl, opened.position, rfl, .nil fun _ => Idle.nil.owed⟩

theorem Kept.opened {lob lob' : Lob} (h : lob.Kept own lob' own' new) (opened : lob.Opened s) :
    lob'.Opened s :=
  ⟨h.position, by rw [h.guards, opened.connection]⟩

theorem Kept.trans {lob lob₁ lob₂ : Lob} {own₁ own₂ : List Signal} (plain : Plain new)
    (h : lob.Kept own lob₁ own₁ new) (h' : lob₁.Kept own lob₂ own₂ more) :
    lob.Kept own lob₂ own₂ (new ++ more) where
  locator := h'.locator.trans h.locator
  guards := h'.guards.trans h.guards
  position := h'.position
  own := by rw [h'.own, h.guards]
  owed := h.owed.append_plain .owed Owed.append plain (h.locator ▸ h'.owed)

theorem Kept.lost {lob lob₁ lob₂ : Lob} {own₁ own₂ : List Signal} (plain : Plain new)
    (h : lob.Kept own lob₁ own₁ new) (h' : lob₁.Lost own lob₂ own₂ more) :
    lob.Lost own lob₂ own₂ (new ++ more) where
  position := h'.position
  own := h'.own
  settled := h.owed.append_plain .settled Owed.append_settled plain (h.locator ▸ h'.settled)

theorem Fares.trans {lob lob₁ lob₂ : Lob} {own₁ own₂ : List Signal} {a : α} {r : Except Error β}
    (h : lob.Fares own lob₁ own₁ new (.ok a)) (h' : lob₁.Fares own lob₂ own₂ more r) :
    lob.Fares own lob₂ own₂ (new ++ more) r := by
  obtain ⟨plain, kept⟩ := h
  cases r with
  | ok b => exact ⟨plain.append h'.1, kept.trans plain h'.2⟩
  | error e =>
    exact ⟨plain.append h'.1, h'.2.imp (kept.trans plain) (kept.lost plain)⟩

/-- Closing a handle behind a failure gives its signal out of custody. -/
theorem invalidate_ends {lob : Lob} (opened : lob.Opened s) :
    Ends s (lob.guards.own :: own) invalidate lob w fun r lob' own' new =>
      r = .ok () ∧ lob' = { lob with position := none } ∧ own' = own ∧ new = [] := by
  apply Ends.get_bind
  simp only [opened.position, if_true]
  exact Ends.modify_bind (Ends.fire ⟨rfl, rfl, rfl, rfl⟩)

theorem movePosition_ends (f : LobPosition → LobPosition) {lob : Lob} :
    Ends s own (movePosition f) lob w fun r lob' own' new =>
      r = .ok () ∧ lob' = { lob with position := lob.position.map f } ∧ own' = own ∧ new = [] :=
  Ends.modify ⟨rfl, rfl, rfl, rfl⟩

/-- One call that moves content. -/
theorem roundTrip_ends {lob : Lob} {c : Call} (moves : Call.Moves lob.locator c)
    (opened : lob.Opened s) :
    Ends s (lob.guards.own :: own) (roundTrip c) lob w fun r lob' own' new =>
      lob' = lob ∧ own' = lob.guards.own :: own ∧ Plain new ∧
        match r with
        | .ok _ => EachLob Owed [lob.locator.bytes] new
        | .error _ => EachLob Settled [lob.locator.bytes] new := by
  refine Ends.get_bind (Ends.guarded opened.connection (by simp) (fun r => ?_) fun e => ?_)
  · exact ⟨rfl, rfl, moves.plain _, moves.owed r⟩
  · exact ⟨rfl, rfl, moves.plain _, moves.settled e⟩

/-- One call that moves content, and closes the handle if it fails. -/
theorem closingOnFailure_ends {lob : Lob} {c : Call} (moves : Call.Moves lob.locator c)
    (opened : lob.Opened s) :
    Ends s (lob.guards.own :: own) (closingOnFailure (roundTrip c)) lob w
      fun r lob' own' new => lob.Fares own lob' own' new r := by
  apply Ends.attempt_bind (roundTrip_ends moves opened)
  intro result _ _ w₁ new _ ended
  obtain ⟨rfl, rfl, plain, account⟩ := ended
  rcases result with e | r
  · apply (invalidate_ends opened).bind_of_ok
    intro _ _ w₂ _ ended
    obtain ⟨rfl, rfl, rfl⟩ := ended
    exact Ends.fail ⟨by simpa using plain, .inr ⟨rfl, rfl, by simpa using account⟩⟩
  · refine Ends.pure ⟨by simpa using plain, rfl, rfl, opened.position, rfl, ?_⟩
    simpa using account

end Lob

namespace LobWriter

theorem onLob_ends {t : Operation σ Lob α} {wtr : LobWriter}
    {P : Except Error α → Lob → List Signal → List Exchange → Prop}
    (ends : Ends s own t wtr.lob w P) :
    Ends s own (onLob t) wtr w fun r wtr' own' new =>
      P r wtr'.lob own' new ∧ wtr' = { wtr with lob := wtr'.lob } := by
  refine Ends.get_bind (Ends.on_bind ends ?_)
  intro r lob own' w' new hP
  exact Ends.modify_bind (Ends.ofExcept ⟨by simpa using hP, rfl⟩)

/-- Whatever the writer holds, its object fares well. -/
def Steady (s : Scene σ) (t : Operation σ LobWriter α) : Prop :=
  ∀ own wtr w, wtr.lob.Opened s → Ends s (wtr.lob.guards.own :: own) t wtr w
    fun r wtr' own' new => wtr.lob.Fares own wtr'.lob own' new r

namespace Steady

variable {t : Operation σ LobWriter α}

theorem pure (a : α) : Steady s (pure a : Operation σ LobWriter α) :=
  fun _ _ _ opened => Ends.pure ⟨.nil, .refl opened⟩

theorem fail (e : Error) : Steady s (fail e : Operation σ LobWriter α) :=
  fun _ _ _ opened => Ends.fail ⟨.nil, .inl (.refl opened)⟩

theorem modify {g : LobWriter → LobWriter} (same : ∀ wtr, (g wtr).lob = wtr.lob) :
    Steady s (modify g) := by
  intro own wtr w opened
  refine Ends.modify ⟨.nil, ?_⟩
  rw [same]
  exact .refl opened

theorem get_bind {f : LobWriter → Operation σ LobWriter α} (hf : ∀ wtr, Steady s (f wtr)) :
    Steady s (get >>= f) :=
  fun own wtr w opened => Ends.get_bind (hf wtr own wtr w opened)

theorem bind {f : α → Operation σ LobWriter β} (ht : Steady s t) (hf : ∀ a, Steady s (f a)) :
    Steady s (t >>= f) := by
  intro own wtr w opened
  apply (ht own wtr w opened).bind
  · intro a wtr₁ own₁ w₁ new _ first
    -- Only an object that is kept is handed on.
    have kept : wtr.lob.Kept own wtr₁.lob own₁ new := first.2
    rw [kept.own, ← kept.guards]
    exact (hf a own wtr₁ w₁ (kept.opened opened)).mono fun r _ _ _ rest => first.trans rest
  · intro e wtr₁ own₁ w₁ new _ first
    exact first

theorem ite {c : Prop} [Decidable c] {t' : Operation σ LobWriter α} (ht : Steady s t)
    (ht' : Steady s t') : Steady s (if c then t else t') := by
  split
  · exact ht
  · exact ht'

end Steady

theorem open?_steady : Steady s (onLob Lob.open? : Operation σ LobWriter LobPosition) := by
  intro own wtr w opened
  refine (onLob_ends (Lob.open?_ends opened (by simp))).mono ?_
  intro r wtr' own' new ended
  obtain ⟨⟨done, same, rfl, rfl⟩, -⟩ := ended
  rw [same]
  cases r with
  | ok p => exact ⟨.nil, .refl opened⟩
  | error e => exact ⟨.nil, .inl (.refl opened)⟩

theorem send_steady (piece : LobData) :
    Steady s (send piece : Operation σ LobWriter Unit) := by
  intro own wtr w opened
  refine Ends.get_bind (Ends.attempt_bind (onLob_ends (Lob.roundTrip_ends (.write _ _) opened)) ?_)
  intro r wtr₁ own₁ w₁ new _ ended
  obtain ⟨⟨same, rfl, plain, account⟩, -⟩ := ended
  rw [← same] at opened account ⊢
  cases r with
  | ok r =>
    refine Ends.modify_bind ((onLob_ends (Lob.movePosition_ends _)).mono ?_)
    intro _ wtr' own' more ended
    obtain ⟨⟨rfl, moved, rfl, rfl⟩, -⟩ := ended
    rw [moved, List.append_nil]
    exact ⟨plain, rfl, rfl, by simpa using opened.position, rfl, account⟩
  | error e =>
    apply (onLob_ends (Lob.invalidate_ends opened)).bind
    · intro _ wtr₂ own₂ w₂ _ _ ended
      obtain ⟨⟨-, closed, rfl, rfl⟩, -⟩ := ended
      refine Ends.modify_bind (Ends.fail ⟨by simpa using plain, .inr ⟨?_, rfl, ?_⟩⟩)
      · simp [closed]
      · simpa using account
    · intro e wtr₂ own₂ w₂ _ _ ended
      obtain ⟨⟨failed, -⟩, -⟩ := ended
      cases failed

theorem sendPieces_steady (size count : Nat) :
    Steady s (sendPieces size count : Operation σ LobWriter Unit) := by
  induction count with
  | zero => exact .pure ()
  | succ count ih =>
    exact .get_bind fun _ => .bind (.modify fun _ => rfl) fun _ => .bind (send_steady _) fun _ => ih

theorem write_steady (data : LobData) :
    Steady s (write data : Operation σ LobWriter Unit) := by
  refine .get_bind fun wtr => .ite (.fail _) (.ite (.fail _) (.bind open?_steady fun _ => ?_))
  refine .ite (.modify fun _ => rfl) (.bind (.modify fun _ => rfl) fun _ => ?_)
  exact sendPieces_steady _ _

theorem flush_steady : Steady s (flush : Operation σ LobWriter Unit) :=
  .get_bind fun _ => .ite (.bind (.modify fun _ => rfl) fun _ => send_steady _)
    (.ite (send_steady _) (.pure _))

theorem commit_steady : Steady s (commit : Operation σ LobWriter Unit) := by
  intro own wtr w opened
  refine Ends.get_bind ((onLob_ends (Lob.closingOnFailure_ends .commit opened)).mono ?_)
  intro r wtr' own' new ended
  obtain ⟨fares, -⟩ := ended
  exact fares

theorem finish_steady : Steady s (finish : Operation σ LobWriter Unit) := by
  refine .get_bind fun wtr => ?_
  cases wtr.failure with
  | some e => exact .fail e
  | none => exact .bind flush_steady fun _ => commit_steady

end LobWriter

/-- An object that is filled fares well. -/
theorem Connection.fill_ends {lob : Lob} (data : LobData) (opened : lob.Opened s) :
    Ends s (lob.guards.own :: own) (fill data) lob w
      fun r lob' own' new => lob.Fares own lob' own' new r := by
  rw [fill_eq]
  refine (Lob.open?_ends opened (by simp)).bind ?_ ?_
  · intro p _ _ w₁ _ _ ended
    obtain ⟨-, rfl, rfl, rfl⟩ := ended
    refine Ends.get_bind (Ends.on_bind (LobWriter.Steady.bind (LobWriter.write_steady data)
      (fun _ => LobWriter.finish_steady) own (LobWriter.make _) w₁ opened) ?_)
    intro r wtr own' w₂ new fares
    refine Ends.modify_bind (Ends.ofExcept ?_)
    rw [List.append_nil]
    exact fares
  · intro e _ _ w₁ _ _ ended
    obtain ⟨failed, -⟩ := ended
    simp [Except.isOk, Except.toBool] at failed

end SqlBinder

import SqlBinder.Proofs.Connection.Request
import SqlBinder.Proofs.Lob.Custody

/-!
Temporary objects on the way out. Each object that is made for content is in custody until it has
been given back, which happens behind the execution or behind the first failure.

Objects are made one after another before the statement is sent, so the induction is on the binds. A
bind that fails has those in front of it given back; behind the statement all of them are, whether
it failed or not.
-/
namespace SqlBinder

open Operation Binding

variable {σ η α : Type} {s : Scene σ} {own : List Signal} {c : Connection} {w : World σ}

/-- What tells the objects of handles apart. -/
def Lob.keys (lobs : List Lob) : List LobKey := lobs.map (·.locator.bytes)

/-- The signals of handles. -/
def Lob.owns (lobs : List Lob) : List Signal := lobs.map (·.guards.own)

/-- An object that was created is to be given back. -/
theorem eachLob_createLob (kind : LobKind) (raw : LobLocator) :
    EachLob Owed [] [⟨.createLob kind, .done raw⟩] := by
  have taken : takenLobs [⟨.createLob kind, .done raw⟩] = [raw.bytes] := rfl
  have handed : handedLobs [⟨.createLob kind, .done raw⟩] = [raw.bytes] := rfl
  have unbroken : brokenLobs [⟨.createLob kind, .done raw⟩] = [] := rfl
  have unclosed : closedLobs [⟨.createLob kind, .done raw⟩] = [] := rfl
  intro b
  rw [handed, List.nil_append]
  refine ⟨fun hb => ⟨by rwa [taken], by simp [unbroken], by simp [unclosed]⟩, fun _ => ?_⟩
  exact ⟨by simp [unbroken], by simp [unclosed]⟩

theorem closedCursors_createLob (kind : LobKind) (out : Outcome (Call.createLob kind).Reply)
    (xs : List Exchange) : closedCursors (⟨.createLob kind, out⟩ :: xs) = closedCursors xs :=
  rfl

theorem handedLobs_createLob (kind : LobKind) (raw : LobLocator) (xs : List Exchange) :
    handedLobs (⟨.createLob kind, .done raw⟩ :: xs) = raw.bytes :: handedLobs xs :=
  rfl

/-- What is done with an object that was created. -/
theorem EachLob.created {P : LobKey → List Exchange → Prop} (stable : Stable P)
    (hold : ∀ {b xs ys}, Owed b xs → P b ys → P b (xs ++ ys)) (kind : LobKind) {raw : LobLocator}
    {new : List Exchange} (h : EachLob P [raw.bytes] new) :
    EachLob P [] ([⟨.createLob kind, .done raw⟩] ++ new) :=
  (eachLob_createLob kind raw).append_owed stable hold h

/-- Nothing comes of a creation that fails. -/
theorem eachLob_createLob_failed (kind : LobKind) (e : Error) :
    EachLob Settled [] [⟨.createLob kind, .failed e⟩] := by
  intro b
  refine ⟨fun _ => ⟨?_, ?_, ?_⟩, fun once => ?_⟩
  · simp [takenLobs, Exchange.takenLob?]
  · simp [brokenLobs, Exchange.brokenLob?]
  · simp [closedLobs, Exchange.closedLob?]
  · simp [handedLobs, Exchange.handed] at once

/-- A new handle is in custody. -/
theorem Lob.create_bind {h : η} {l : LobLocator} {connection : Signal}
    {f : Lob → Operation σ η α} {Q : Except Error α → η → List Signal → List Exchange → Prop}
    (hf : ∀ x w', Ends s (x :: own) (f (make l x connection)) h w' Q) :
    Ends s own (create l connection >>= f) h w Q :=
  fun r h' w' calm run =>
    hf w.signals.fresh.1 { w with signals := w.signals.fresh.2 } r h' w' calm.fresh run

theorem Lob.make_opened (l : LobLocator) (x : Signal) : (make l x s.closed).Opened s := ⟨rfl, rfl⟩

namespace Connection

/-- A round trip of a connection that nobody else closes is made. -/
theorem roundTrip_ends (limit : Option Span) (call : Call) (connection : c.closed = s.closed) :
    Ends s own (roundTrip limit call) c w fun r c' own' new =>
      c' = c ∧ own' = own ∧ new = [.ofResult call r] := by
  have ends : Ends s own (Operation.call call ⟨limit, []⟩) c w fun r c' own' new =>
      c' = c ∧ own' = own ∧ new = [.ofResult call r] :=
    Ends.call (fun r => ⟨rfl, rfl, rfl⟩) fun e => ⟨rfl, rfl, rfl⟩
  apply ends.congr
  intro calm
  have isOpen : c.isClosed w.signals = false := by
    rw [isClosed, connection]
    exact calm.isOpen
  rw [roundTrip_apply, isOpen]
  rfl

/-- Objects in custody are given back. -/
theorem releaseLobs_ends (lobs : List Lob) (opened : ∀ lob ∈ lobs, lob.Opened s) :
    Ends s (Lob.owns lobs ++ own) (releaseLobs lobs) c w fun r c' own' new =>
      r = .ok () ∧ c' = c ∧ own' = own ∧ Plain new ∧ EachLob Settled (Lob.keys lobs) new := by
  induction lobs generalizing w with
  | nil => exact Ends.pure ⟨rfl, rfl, rfl, .nil, fun b => ⟨fun _ => .nil, fun once => by
      simp [Lob.keys, handedLobs] at once⟩⟩
  | cons lob rest ih =>
    apply Ends.on_bind (Lob.close_ends (opened lob (by simp)))
    intro r lob' _ w₁ new ended
    obtain ⟨rfl, plain, settled⟩ := ended
    apply (ih fun lob h => opened lob (by simp [h])).mono
    intro r c' own' more ended
    obtain ⟨rfl, rfl, rfl, plain', settled'⟩ := ended
    exact ⟨rfl, rfl, rfl, plain.append plain', settled.append .settled settled'⟩

/-- An object whose handle is open still is given back. -/
theorem discard_ends {lob : Lob} (opened : lob.Opened s) :
    Ends s (lob.guards.own :: own) (discard lob) c w fun r c' own' new =>
      r = .ok () ∧ c' = c ∧ own' = own ∧ Plain new ∧ EachLob Settled [lob.locator.bytes] new := by
  refine Ends.of_calm fun calm => Ends.signals_bind ?_
  have isOpen : lob.isClosed w.signals = false := by
    have position : lob.position.isNone = false := by
      simpa [Option.isSome_iff_ne_none] using opened.position
    simp [Lob.isClosed, position, opened.connection, calm.isOpen, calm.own_open]
  simp only [isOpen, Bool.not_false, if_true]
  apply Ends.on_bind (Lob.close_ends opened)
  intro r lob' _ w₁ new ended
  obtain ⟨rfl, plain, settled⟩ := ended
  refine Ends.pure ⟨rfl, rfl, rfl, ?_, ?_⟩
  · simpa using plain
  · simpa using settled

/-- Nothing is done about an object whose handle is closed. -/
theorem discard_ends_closed {lob : Lob} (closed : lob.position = none) :
    Ends s own (discard lob) c w fun r c' own' new =>
      r = .ok () ∧ c' = c ∧ own' = own ∧ new = [] := by
  apply Ends.signals_bind
  simp only [Lob.isClosed, closed, Option.isNone_none, Bool.true_or, Bool.not_true,
    Bool.false_eq_true, if_false]
  exact Ends.pure ⟨rfl, rfl, rfl, rfl⟩

/-- A temporary object with content is to be given back; without, it is settled. -/
theorem fillTemporary_ends (data : LobData) (o : ExecuteOptions)
    (connection : c.closed = s.closed) :
    Ends s own (fillTemporary data o) c w fun r c' own' new =>
      c' = c ∧ closedCursors new = [] ∧
        match r with
        | .ok lob => lob.Opened s ∧ own' = lob.guards.own :: own ∧
            handedLobs new = [lob.locator.bytes] ∧ EachLob Owed [] new
        | .error _ => own' = own ∧ EachLob Settled [] new := by
  apply (roundTrip_ends _ _ connection).bind
  · intro raw _ _ w₁ _ _ ended
    obtain ⟨rfl, rfl, rfl⟩ := ended
    dsimp only [Exchange.ofResult]
    refine Ends.get_bind (Lob.create_bind fun x w₂ => ?_)
    rw [connection]
    apply Ends.on_bind (fill_ends data (Lob.make_opened raw.temporary x))
    intro result lob _ w₃ new fares
    rcases result with e | u
    -- Filling failed. A handle that is open still is closed now; one that a failed call has
    -- closed cannot be, and its object is left to the server.
    · obtain ⟨plain, kept | lost⟩ := fares
      · have same : lob.locator.bytes = raw.bytes := by
          rw [kept.locator]
          rfl
        rw [kept.own, ← kept.guards]
        apply (discard_ends (kept.opened (Lob.make_opened _ _))).bind_of_ok
        intro _ _ w₄ more ended
        obtain ⟨rfl, rfl, plain', settled⟩ := ended
        rw [same] at settled
        have filled : EachLob Settled [raw.bytes] (new ++ more) :=
          kept.owed.append_plain .settled Owed.append_settled plain settled
        refine Ends.fail ⟨rfl, ?_, rfl, ?_⟩
        · simpa [closedCursors_createLob] using (plain.append plain').cursors
        · simpa using EachLob.created .settled Owed.append_settled data.kind filled
      · have settled : EachLob Settled [raw.bytes] new := lost.settled
        apply (discard_ends_closed lost.position).bind_of_ok
        intro _ _ w₄ _ ended
        obtain ⟨rfl, rfl, rfl⟩ := ended
        refine Ends.fail ⟨rfl, ?_, lost.own, ?_⟩
        · simpa [closedCursors_createLob] using plain.cursors
        · simpa using EachLob.created .settled Owed.append_settled data.kind settled
    · obtain ⟨plain, kept⟩ := fares
      have owed : EachLob Owed [raw.bytes] new := kept.owed
      refine Ends.pure ⟨rfl, ?_, kept.opened (Lob.make_opened _ _), ?_, ?_, ?_⟩
      · simpa [closedCursors_createLob] using plain.cursors
      · rw [kept.own, kept.guards]
      · rw [List.append_nil, kept.locator]
        exact (handedLobs_createLob data.kind raw new).trans (by rw [plain.handed]; rfl)
      · simpa using EachLob.created .owed Owed.append data.kind owed
  · intro e _ _ w₁ _ _ ended
    obtain ⟨rfl, rfl, rfl⟩ := ended
    exact ⟨rfl, rfl, rfl, eachLob_createLob_failed data.kind e⟩

/-- Objects of binds that are ready are to be given back; if one bind fails they are settled. -/
theorem bindAll_ends (o : ExecuteOptions) (lobs : List Lob) (pending : List PendingBind)
    (connection : c.closed = s.closed) (opened : ∀ lob ∈ lobs, lob.Opened s) :
    Ends s (Lob.owns lobs ++ own) (bindAll o lobs pending) c w fun r c' own' new =>
      c' = c ∧ closedCursors new = [] ∧
        match r with
        | .ok (_, lobs') => (∀ lob ∈ lobs', lob.Opened s) ∧ own' = Lob.owns lobs' ++ own ∧
            Lob.keys lobs' = Lob.keys lobs ++ handedLobs new ∧ EachLob Owed (Lob.keys lobs) new
        | .error _ => own' = own ∧ EachLob Settled (Lob.keys lobs) new := by
  -- The objects made so far pass from bind to bind.
  induction pending generalizing lobs w with
  | nil =>
    exact Ends.pure ⟨rfl, rfl, opened, rfl, by simp [handedLobs], .nil fun _ => Idle.nil.owed⟩
  | cons p rest ih =>
    cases p with
    | ready d wire =>
      apply (ih lobs opened).bind
      · intro ready _ own' w₁ new _ ended
        obtain ⟨bound, lobs'⟩ := ready
        obtain ⟨rfl, uncursed, opened', rfl, keys, owed⟩ := ended
        exact Ends.pure ⟨rfl, by simpa using uncursed, opened', rfl, by simpa using keys,
          by simpa using owed⟩
      · intro e _ own' w₁ new _ ended
        obtain ⟨rfl, uncursed, rfl, settled⟩ := ended
        exact ⟨rfl, uncursed, rfl, settled⟩
    | content d data =>
      apply Ends.attempt_bind (fillTemporary_ends data o connection)
      intro result _ own₁ w₁ new _ ended
      obtain ⟨rfl, uncursed, first⟩ := ended
      rcases result with e | lob
      -- The objects of the binds before are given back.
      · obtain ⟨rfl, settled⟩ := first
        apply (releaseLobs_ends lobs opened).bind_of_ok
        intro _ own' w₂ more ended
        obtain ⟨rfl, rfl, plain, settled'⟩ := ended
        refine Ends.fail ⟨rfl, ?_, rfl, ?_⟩
        · simp [uncursed, plain.cursors]
        · simpa using settled.append .settled settled'
      · obtain ⟨opened₁, rfl, handed, owed⟩ := first
        -- The new object joins those made before.
        have order : (Lob.owns (lobs ++ [lob]) ++ own).Perm
            (lob.guards.own :: (Lob.owns lobs ++ own)) := by
          simp [Lob.owns]
        have opened₂ : ∀ other ∈ lobs ++ [lob], other.Opened s := by
          intro other ho
          rcases List.mem_append.1 ho with ho | ho
          · exact opened other ho
          · exact List.mem_singleton.1 ho ▸ opened₁
        have keys₁ : Lob.keys (lobs ++ [lob]) = Lob.keys lobs ++ handedLobs new := by
          simp [Lob.keys, handed]
        have owed₁ : EachLob Owed (Lob.keys lobs) new :=
          owed.more List.nil_subperm fun _ => Idle.owed
        refine Ends.take ((ih (lobs ++ [lob]) opened₂).bind ?_ ?_) order.subperm
        · intro ready _ own' w₂ more _ ended
          obtain ⟨bound, lobs'⟩ := ready
          obtain ⟨rfl, uncursed', opened', rfl, keys, owed'⟩ := ended
          rw [keys₁] at keys owed'
          refine Ends.pure ⟨rfl, ?_, opened', rfl, ?_, ?_⟩
          · simp [uncursed, uncursed']
          · simp [keys]
          · simpa using owed₁.append_owed .owed Owed.append owed'
        · intro e _ own' w₂ more _ ended
          obtain ⟨rfl, uncursed', rfl, settled⟩ := ended
          rw [keys₁] at settled
          refine ⟨rfl, ?_, rfl, ?_⟩
          · simp [uncursed, uncursed']
          · exact owed₁.append_owed .settled Owed.append_settled settled

/-- Whatever comes of an execution, the objects that were made for it are settled, and what
its response hands out is left alone. -/
def Sent (new : List Exchange) : Except Error ExecuteResponse → Prop
  | .ok response => ∃ before request after,
      new = before ++ ⟨.execute request, .done response⟩ :: after ∧
        (∀ x ∈ before ++ after, x.call.StartsNothing) ∧ EachLob Settled [] (before ++ after)
  | .error _ => (∀ request response, ⟨.execute request, .done response⟩ ∉ new) ∧
      EachLob Settled [] new

theorem not_mem_of_startsNothing {new : List Exchange} (quiet : ∀ x ∈ new, x.call.StartsNothing)
    (request : ExecuteRequest) (out : Outcome ExecuteResponse) : ⟨.execute request, out⟩ ∉ new :=
  fun mem => quiet _ mem

theorem closedCursors_execute (request : ExecuteRequest)
    (out : Outcome (Call.execute request).Reply) (xs : List Exchange) :
    closedCursors (⟨.execute request, out⟩ :: xs) = closedCursors xs :=
  rfl

theorem transmit_ends (sql : String) (info : Statement.Info) (pending : List PendingBind)
    (o : ExecuteOptions) (connection : c.closed = s.closed) :
    Ends s own (transmit sql info pending o) c w fun r c' own' new =>
      c' = c ∧ own' = own ∧ closedCursors new = [] ∧ Sent new r := by
  have binding : Ends s (Lob.owns [] ++ own) _ c w _ :=
    (bindAll_ends o [] pending connection (by simp)).withCalls (I := fun _ => True)
      (bindAll_calls o [] pending) trivial
  apply binding.bind
  · intro ready c' own' w₁ before _ ended
    obtain ⟨bound, lobs⟩ := ready
    obtain ⟨⟨rfl, uncursed, opened, rfl, keys, owed⟩, -, moves⟩ := ended
    simp only [Lob.keys, List.map_nil, List.nil_append] at keys owed
    apply Ends.attempt_bind (roundTrip_ends _ _ connection)
    intro sent c' own' w₂ new _ made
    obtain ⟨rfl, rfl, rfl⟩ := made
    have releasing : Ends s (Lob.owns lobs ++ own) _ c' w₂ _ :=
      (releaseLobs_ends lobs opened).withCalls (I := fun _ => True) (releaseLobs_calls lobs) trivial
    apply releasing.bind
    · intro _ c₃ own₃ w₃ after _ ended
      obtain ⟨⟨-, rfl, rfl, plain, settled⟩, -, moves'⟩ := ended
      -- The statement itself does nothing with the objects, so they are settled around it.
      have back : EachLob Settled [] (before ++ after) := by
        apply owed.append_owed .settled Owed.append_settled
        rw [List.nil_append, ← keys]
        exact settled
      have quiet : ∀ x ∈ before ++ after, x.call.StartsNothing := by
        intro x hx
        rcases List.mem_append.1 hx with hx | hx
        · exact (moves x hx).startsNothing
        · exact (moves' x hx).startsNothing
      refine Ends.ofExcept ⟨rfl, rfl, ?_, ?_⟩
      · cases sent <;> simp [Exchange.ofResult, closedCursors_execute, uncursed, plain.cursors]
      · cases sent with
        | ok response =>
          exact ⟨before, ⟨sql, info, bound, o.fetchSize, o.prefetch, o.autoCommit⟩, after,
            by simp [Exchange.ofResult], quiet, back⟩
        | error e =>
          have none := not_mem_of_startsNothing quiet
          refine ⟨fun request response => ?_, ?_⟩
          · simpa [Exchange.ofResult] using none request (.done response)
          · rw [List.append_nil]
            exact EachLob.insert .settled ⟨rfl, rfl, rfl⟩ back
    · intro e c₃ own₃ w₃ after _ ended
      cases ended.1.1
  · intro e c' own' w₁ before _ ended
    obtain ⟨⟨rfl, uncursed, rfl, settled⟩, -, moves⟩ := ended
    have quiet := not_mem_of_startsNothing fun x hx => (moves x hx).startsNothing
    exact ⟨rfl, rfl, uncursed, fun request response => quiet request (.done response), settled⟩

/-- A statement is sent with every object settled that was made for it. -/
theorem send_ends (sql : String) (binds : Binds) (o : ExecuteOptions)
    (connection : c.closed = s.closed) :
    Ends s own (send sql binds o) c w fun r c' own' new =>
      c'.closed = c.closed ∧ own' = own ∧ closedCursors new = [] ∧ Sent new (r.map Prod.snd) := by
  refine Ends.congr ?_ fun calm =>
    send_apply sql binds o (by rw [isClosed, connection]; exact calm.isOpen)
  have none : ∀ e : Error, Sent [] (Except.error e) := fun e =>
    ⟨fun _ _ => List.not_mem_nil, fun b => ⟨fun _ => .nil, fun once => by
      simp [handedLobs] at once⟩⟩
  refine Ends.ofExcept_bind (fun ds _ => ?_) fun e _ => ⟨rfl, rfl, rfl, none e⟩
  refine Ends.ofExcept_bind (fun pending _ => ?_) fun e _ => ⟨rfl, rfl, rfl, none e⟩
  apply (transmit_ends (c := c.scanned sql) sql _ pending o connection).bind
  · intro response c' own' w' new _ ended
    obtain ⟨rfl, rfl, uncursed, sent⟩ := ended
    refine Ends.pure ⟨rfl, rfl, by simpa using uncursed, ?_⟩
    rw [List.append_nil]
    exact sent
  · intro e c' own' w' new _ ended
    obtain ⟨rfl, rfl, uncursed, sent⟩ := ended
    exact ⟨rfl, rfl, uncursed, sent⟩

end Connection

end SqlBinder

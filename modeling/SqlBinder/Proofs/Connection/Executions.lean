import SqlBinder.Proofs.Connection.Receiving

/-!
Executions from one end to the other, in one call and in batches. What was asked of the session
falls into what went before the statement, the statement, and what came of its response; custody
passes through all of it.

What surrounds an operation is a scene: its custody, and the signals that others may fire meanwhile.
An execution begins with nothing in custody and leaves nothing behind that belongs to nobody, so the
next one can be made in the same scene.
-/
namespace SqlBinder

open Operation Binding

variable {σ : Type} {s : Scene σ} {own : List Signal} {host : Host σ} {c c' : Connection}
  {w w' : World σ}

namespace Connection

/-! ## Circumstances -/

/-- The connection is open, and it stays so as long as an operation has it to itself: all
signals that others fire were made before, and the connection's is none of them. -/
structure Exclusive (c : Connection) (host : Host σ) (w : World σ) : Prop where
  isOpen : c.isClosed w.signals = false
  made : c.closed.number < w.signals.made
  fired_lt : ∀ x, w.signals.isFired x = true → x.number < w.signals.made
  armed : ∀ x ∈ w.armed, x.number < w.signals.made ∧ x ≠ c.closed
  answers : ∀ call session,
    ∀ x ∈ (host.answer call session).during ++ (host.answer call session).after,
      x.number < w.signals.made ∧ x ≠ c.closed

namespace Exclusive

/-- What surrounds the operations of the connection. -/
def scene (h : Exclusive c host w) : Scene σ := ⟨host, c.closed, w.signals.made, h.made, h.answers⟩

/-- An operation begins with nothing in custody. -/
theorem calm (h : Exclusive c host w) : Calm h.scene [] w where
  armed := h.armed
  grown := Nat.le_refl _
  isOpen := h.isOpen
  fired_lt := h.fired_lt
  own_range := by simp
  own_open := by simp
  distinct := .nil

/-- What an operation leaves is nobody else's either. -/
theorem of_calm {own : List Signal} (h : Exclusive c host w) (calm : Calm h.scene own w')
    (same : c'.closed = c.closed) : Exclusive c' host w' where
  isOpen := by
    rw [isClosed, same]
    exact calm.isOpen
  made := by
    rw [same]
    exact Nat.lt_of_lt_of_le h.made calm.grown
  fired_lt := calm.fired_lt
  armed := by
    intro x hx
    obtain ⟨old, other⟩ := calm.armed x hx
    rw [same]
    exact ⟨Nat.lt_of_lt_of_le old calm.grown, other⟩
  answers := by
    intro call session x hx
    obtain ⟨old, other⟩ := h.answers call session x hx
    rw [same]
    exact ⟨Nat.lt_of_lt_of_le old calm.grown, other⟩

end Exclusive

/-! ## Single executions -/

/-- The output value that nobody held when an execution failed. -/
def unheld? (host : Host σ) (sql : String) (binds : Binds) (o : ExecuteOptions) (c : Connection)
    (w : World σ) : Option WireValue :=
  match send sql binds o host c w with
  | (.done (outputs, response), c, w) => stopsAt? host o outputs response.outBinds c w
  | _ => none

/-- What was asked of the session by the end of an execution: each object was settled that was
taken on, and if the response comes to nothing, each cursor was closed that was held. -/
structure Executed (stop : Option WireValue) (new : List Exchange)
    (r : Except Error ExecuteResult) : Prop where
  lobs : EachLob Cleared [] new
  cursors : ∀ request response, ⟨.execute request, .done response⟩ ∈ new → ∀ e, r = .error e →
    (closedCursors new ++ cursorIds stop.toList).Perm
      (cursorIds response.outBinds ++ realCursor response.cursorId)

/-- An execution with no response. -/
theorem Executed.unsent {stop : Option WireValue} {new : List Exchange} {e : Error}
    (sent : Sent new (.error e)) : Executed stop new (.error e) := by
  obtain ⟨none, settled⟩ := sent
  exact ⟨settled.imp fun _ => .inr, fun request response mem => (none request response mem).elim⟩

/-- There is no response but the one that was received. -/
theorem Sent.response_eq {new more : List Exchange} {request' : ExecuteRequest}
    {response response' : ExecuteResponse} (sent : Sent new (.ok response))
    (quiet : ∀ x ∈ more, x.call.StartsNothing)
    (mem : ⟨.execute request', .done response'⟩ ∈ new ++ more) : response' = response := by
  obtain ⟨before, request, after, rfl, others, -⟩ := sent
  have none : ⟨.execute request', .done response'⟩ ∉ (before ++ after) ++ more :=
    not_mem_of_startsNothing
      (fun x hx => (List.mem_append.1 hx).elim (others x) (quiet x)) request' (.done response')
  simp only [List.append_assoc, List.cons_append, List.mem_append, List.mem_cons] at mem none
  rcases mem with mem | mem | mem
  · exact absurd (.inl mem) none
  · cases mem
    rfl
  · exact absurd (.inr mem) none

/-- A response, and what came of it. -/
theorem Executed.received {stop : Option WireValue} {new more : List Exchange}
    {response : ExecuteResponse} {r : Except Error ExecuteResult} (sent : Sent new (.ok response))
    (uncursed : closedCursors new = []) (received : Received response stop more r)
    (quiet : ∀ x ∈ more, x.call.StartsNothing) : Executed stop (new ++ more) r := by
  constructor
  · obtain ⟨before, request, after, rfl, others, settled⟩ := sent
    rw [List.append_assoc, List.cons_append]
    apply EachLob.insert .cleared ⟨rfl, rfl, rfl⟩
    have all := (settled.imp (Q := Cleared) fun _ => .inr).append .cleared received.lobs
    rw [List.append_assoc] at all
    exact all
  · intro request' response' mem e he
    have same := sent.response_eq quiet mem
    rw [same, closedCursors_append, uncursed]
    exact received.cursors e he

theorem execute_ends (sql : String) (binds : Binds) (o : ExecuteOptions)
    (connection : c.closed = s.closed) :
    Ends s own (execute sql binds o) c w fun r c' _ new =>
      c'.closed = c.closed ∧ Executed (unheld? s.host sql binds o c w) new r := by
  apply (send_ends sql binds o connection).bind
  · intro sent c' own' w₁ new ran ended
    obtain ⟨outputs, response⟩ := sent
    obtain ⟨same, rfl, uncursed, sent⟩ := ended
    have stop : unheld? s.host sql binds o c w =
        stopsAt? s.host o outputs response.outBinds c' w₁ := by
      rw [unheld?, ran]
    rw [stop]
    have behind : Ends s own' _ c' w₁ _ :=
      (receive_ends outputs response o (same.trans connection)).withCalls
        (I := fun k => k.closed = c.closed) (receive_calls _ _ _) same
    apply behind.mono
    intro r c₂ own₂ more ended
    obtain ⟨received, unchanged, quiet⟩ := ended
    exact ⟨unchanged, .received sent uncursed received quiet⟩
  · intro e c' own' w₁ new _ ended
    obtain ⟨same, -, -, unsent⟩ := ended
    exact ⟨same, .unsent unsent⟩

/-! ## Batches -/

/-- The cursors that nobody held when a batch failed. -/
def unheldInBatch (host : Host σ) (sql : String) (rows : List Binds) (o : ExecuteOptions)
    (c : Connection) (w : World σ) : List Nat :=
  match sendBatch sql rows o host c w with
  | (.done (outs, response), c, w) => unheldOfBatch host o outs response c w
  | _ => []

/-- A batch is sent in one call, or not at all. -/
theorem sendBatch_ends (sql : String) (rows : List Binds) (o : ExecuteOptions)
    (connection : c.closed = s.closed) :
    Ends s own (sendBatch sql rows o) c w fun r c' own' new =>
      c'.closed = c.closed ∧ own' = own ∧
        match r with
        | .ok (_, response) => ∃ request, new = [⟨.executeMany request, .done response⟩]
        | .error _ => ∀ request response, ⟨.executeMany request, .done response⟩ ∉ new := by
  apply (checkOpen_ends connection).bind_of_ok
  intro c₁ own₁ w₁ _ found
  obtain ⟨rfl, rfl, rfl⟩ := found
  have scanned : Ends s own₁ (scan sql) c₁ w₁ fun r c' own' new =>
      r = .ok (Statement.scan sql) ∧ c'.closed = c₁.closed ∧ own' = own₁ ∧ new = [] := by
    have there : Ends s own₁ (pure (Statement.scan sql) : Operation σ Connection _)
        (c₁.scanned sql) w₁ fun r c' own' new =>
          r = .ok (Statement.scan sql) ∧ c'.closed = c₁.closed ∧ own' = own₁ ∧ new = [] :=
      Ends.pure ⟨rfl, rfl, rfl, rfl⟩
    exact there.congr fun _ => scan_apply sql s.host c₁ w₁
  apply scanned.bind_of_ok
  intro c₂ own₂ w₂ _ found
  obtain ⟨same, rfl, rfl⟩ := found
  refine Ends.ofExcept_bind (fun bound _ => ?_) fun e _ => ⟨same, rfl, fun _ _ => by simp⟩
  apply (roundTrip_ends _ _ (same.trans connection)).bind
  · intro response c₃ own₃ w₃ _ _ made
    obtain ⟨rfl, rfl, rfl⟩ := made
    exact Ends.pure ⟨same, rfl, _, rfl⟩
  · intro e c₃ own₃ w₃ _ _ made
    obtain ⟨rfl, rfl, rfl⟩ := made
    exact ⟨same, rfl, fun _ _ => by simp [Exchange.ofResult]⟩

/-- If the response to a batch comes to nothing, each cursor was closed that was held. -/
theorem executeMany_ends (sql : String) (rows : List Binds) (o : ExecuteOptions)
    (connection : c.closed = s.closed) :
    Ends s own (executeMany sql rows o) c w fun r c' _ new => c'.closed = c.closed ∧
      ∀ request response, ⟨.executeMany request, .done response⟩ ∈ new → ∀ e, r = .error e →
        (closedCursors new ++ unheldInBatch s.host sql rows o c w).Perm
          (response.outBinds.flatMap cursorIds) := by
  apply (sendBatch_ends sql rows o connection).bind
  · intro sent c' own' w₁ new ran ended
    obtain ⟨outs, response⟩ := sent
    obtain ⟨same, rfl, request, rfl⟩ := ended
    have missing : unheldInBatch s.host sql rows o c w =
        unheldOfBatch s.host o outs response c' w₁ := by
      rw [unheldInBatch, ran]
    rw [missing]
    have behind : Ends s own' _ c' w₁ _ :=
      (receiveBatch_ends outs response o (same.trans connection)).withCalls
        (I := fun k => k.closed = c.closed) (receiveBatch_calls _ _ _) same
    apply behind.mono
    intro r c₂ own₂ more ended
    obtain ⟨closed, unchanged, quiet⟩ := ended
    refine ⟨unchanged, fun request' response' mem e he => ?_⟩
    rcases List.mem_cons.1 mem with same | later
    · cases same
      exact closed e he
    · exact (quiet _ later).elim
  · intro e c' own' w₁ new _ ended
    obtain ⟨same, -, none⟩ := ended
    exact ⟨same, fun request response mem => (none request response mem).elim⟩

/-! ## One behind the other -/

/-- An execution leaves its connection to itself, so the next one can be made alike. -/
theorem Exclusive.execute {sql : String} {binds : Binds} {o : ExecuteOptions}
    {r : Except Error ExecuteResult} (h : Exclusive c host w)
    (run : (execute sql binds o).attempt host c w = (.done r, c', w')) : Exclusive c' host w' := by
  have ends : Ends h.scene [] _ c w _ := execute_ends sql binds o rfl
  obtain ⟨own, new, -, calm, same, -⟩ := ends r c' w' h.calm run
  exact h.of_calm calm same

theorem Exclusive.executeMany {sql : String} {rows : List Binds} {o : ExecuteOptions}
    {r : Except Error BatchResult} (h : Exclusive c host w)
    (run : (executeMany sql rows o).attempt host c w = (.done r, c', w')) :
    Exclusive c' host w' := by
  have ends : Ends h.scene [] _ c w _ := executeMany_ends sql rows o rfl
  obtain ⟨own, new, -, calm, same, -⟩ := ends r c' w' h.calm run
  exact h.of_calm calm same

end Connection

end SqlBinder

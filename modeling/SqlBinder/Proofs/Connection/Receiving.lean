import SqlBinder.Proofs.Connection.Outputs

/-!
Responses on the way back. Whatever comes of a response, each object that came with it, in an output
or in a row, is cleared: content that was read in place has been given back. When something fails,
the cursor of the query and those of the outputs are closed, once each.

The parts of a response are followed in the order in which they are decoded, each with what is in
custody behind it. Releasing never changes the failure that it follows, whatever comes of its own
round trips.
-/
namespace SqlBinder

open Operation Binding

variable {σ η α : Type} {s : Scene σ} {own : List Signal} {c : Connection} {w : World σ}

/-! ## Rows -/

section Decoding

variable {h : η} {g : Guards}

/-- A value of a row is plain behind it, or a handle for the caller. -/
theorem decodeColumn_ends (o : ConvertOptions) (column : Column) (wire : WireValue)
    (connection : g.connection = s.closed) (hown : g.own ∈ own) :
    Ends s own (decodeColumn g .connectionClosed o column wire) h w fun _ h' own' new =>
      h' = h ∧ own' = own ∧ Accounts [] (lobKeys [wire]) new := by
  refine Ends.ofFallible_bind (fun v decoded => ?_) fun e _ => ⟨rfl, rfl, .nil⟩
  cases DbType.decode_decoded decoded with
  | cursor l type real => exact Ends.pure ⟨rfl, rfl, .nil⟩
  | lob l =>
    dsimp only
    split
    · apply (readWhole_ends connection hown).mono
      intro r h' own' new read
      obtain ⟨rfl, rfl, plain, cleared⟩ := read
      exact ⟨rfl, rfl, cleared.accounts plain⟩
    · exact Ends.pure ⟨rfl, rfl, .nil⟩
  | plain wirePlain plain =>
    cases v with
    | lob l => simp [Value.isHandle] at plain
    | _ => exact Ends.pure ⟨rfl, rfl, .nil⟩

theorem decodeColumns_ends (o : ConvertOptions) (pairs : List (Column × WireValue))
    (connection : g.connection = s.closed) (hown : g.own ∈ own) :
    Ends s own (decodeColumns g .connectionClosed o pairs) h w fun _ h' own' new =>
      h' = h ∧ own' = own ∧ Accounts [] (lobKeys (pairs.map (·.2))) new := by
  induction pairs generalizing w with
  | nil => exact Ends.pure ⟨rfl, rfl, .nil⟩
  | cons pair rest ih =>
    obtain ⟨column, wire⟩ := pair
    have all : lobKeys (((column, wire) :: rest).map (·.2)) =
        lobKeys [wire] ++ lobKeys (rest.map (·.2)) :=
      lobKeys_append [wire] _
    rw [all]
    apply (decodeColumn_ends o column wire connection hown).bind
    · intro v h' own' w₁ new _ first
      obtain ⟨rfl, rfl, account⟩ := first
      apply ih.bind
      · intro vs h' own' w₂ more _ behind
        obtain ⟨rfl, rfl, account'⟩ := behind
        refine Ends.pure ⟨rfl, rfl, ?_⟩
        rw [List.append_nil]
        exact account.append account'
      · intro e h' own' w₂ more _ behind
        obtain ⟨rfl, rfl, account'⟩ := behind
        exact ⟨rfl, rfl, account.append account'⟩
    · intro e h' own' w₁ new _ first
      obtain ⟨rfl, rfl, account⟩ := first
      exact ⟨rfl, rfl, account.widen .rfl (List.sublist_append_left _ _).subperm⟩

theorem decodeRow_ends (columns : Columns) (o : ConvertOptions) (wires : List WireValue)
    (connection : g.connection = s.closed) (hown : g.own ∈ own) :
    Ends s own (decodeRow g .connectionClosed columns o wires) h w fun _ h' own' new =>
      h' = h ∧ own' = own ∧ Accounts [] (lobKeys wires) new := by
  unfold decodeRow
  split
  · exact Ends.fail ⟨rfl, rfl, .nil⟩
  · next count =>
    have behind : (columns.all.zip wires).map (·.2) = wires := by
      refine List.map_snd_zip (Nat.le_of_eq ?_)
      simpa [Columns.size] using count
    have ends := decodeColumns_ends (h := h) (w := w) o (columns.all.zip wires) connection hown
    rwa [behind] at ends

end Decoding

/-- A call for more rows hands out their objects and does nothing else. -/
theorem EachLob.fetched {keys : List LobKey} {before after : List Exchange} (cursorId size : Nat)
    (response : FetchResponse)
    (h : EachLob Cleared (keys ++ response.rows.flatMap lobKeys) (before ++ after)) :
    EachLob Cleared keys (before ++ ⟨.fetch cursorId size, .done response⟩ :: after) :=
  EachLob.insert .cleared ⟨rfl, rfl, rfl⟩ h

theorem closedCursors_fetch (cursorId size : Nat) (out : Outcome FetchResponse)
    (xs : List Exchange) :
    closedCursors (⟨.fetch cursorId size, out⟩ :: xs) = closedCursors xs :=
  rfl

namespace Connection

theorem decodeRows_ends {g : Guards} (columns : Columns) (o : ExecuteOptions) (rows : List Row)
    (wires : List (List WireValue)) (connection : g.connection = s.closed) (hown : g.own ∈ own) :
    Ends s own (decodeRows g columns o rows wires) c w fun _ c' own' new =>
      c' = c ∧ own' = own ∧ Accounts [] (wires.flatMap lobKeys) new := by
  induction wires generalizing rows w with
  | nil => exact Ends.pure ⟨rfl, rfl, .nil⟩
  | cons wire rest ih =>
    unfold decodeRows
    split
    · exact Ends.pure ⟨rfl, rfl, .nil⟩
    rw [List.flatMap_cons]
    apply (decodeRow_ends columns o.convert wire connection hown).bind
    · intro v c' own' w₁ new _ first
      obtain ⟨rfl, rfl, account⟩ := first
      apply (ih _).mono
      intro r c' own' more behind
      obtain ⟨rfl, rfl, account'⟩ := behind
      exact ⟨rfl, rfl, account.append account'⟩
    · intro e c' own' w₁ new _ first
      obtain ⟨rfl, rfl, account⟩ := first
      exact ⟨rfl, rfl, account.widen .rfl (List.sublist_append_left _ _).subperm⟩

/-- The rows at hand were decoded, and if there are more, one call has asked for them. -/
def Fetched (keys : List LobKey) (new : List Exchange) :
    Except Error ((List Row × List (List WireValue) × Bool) ⊕ List Row) → Prop
  | .ok (.inl (_, wires, _)) => ∃ before cursorId size response,
      new = before ++ [⟨.fetch cursorId size, .done response⟩] ∧ response.rows = wires ∧
        Accounts [] keys before
  | _ => Accounts [] keys new

theorem fetchRound_ends {g : Guards} (columns : Columns) (cursorId : Nat) (o : ExecuteOptions)
    (rows : List Row) (wires : List (List WireValue)) (more : Bool)
    (guards : g.connection = s.closed) (hown : g.own ∈ own) (connection : c.closed = s.closed) :
    Ends s own (fetchRound g columns cursorId o (rows, wires, more)) c w fun r c' own' new =>
      c' = c ∧ own' = own ∧ Fetched (wires.flatMap lobKeys) new r := by
  apply (decodeRows_ends columns o rows wires guards hown).bind
  · intro decoded c' own' w₁ before _ ended
    obtain ⟨rfl, rfl, account⟩ := ended
    split
    · refine Ends.pure ⟨rfl, rfl, ?_⟩
      rwa [List.append_nil]
    apply (roundTrip_ends _ _ connection).bind
    · intro response c' own' w₂ new _ made
      obtain ⟨rfl, rfl, rfl⟩ := made
      exact Ends.pure ⟨rfl, rfl, before, cursorId, o.fetchSize, response, rfl, rfl, account⟩
    · intro e c' own' w₂ new _ made
      obtain ⟨rfl, rfl, rfl⟩ := made
      refine ⟨rfl, rfl, ?_, ?_⟩
      · rw [closedCursors_append, Exchange.ofResult, closedCursors_fetch]
        simpa using account.cursors
      · apply EachLob.insert .cleared ⟨rfl, rfl, rfl⟩
        show EachLob Cleared (wires.flatMap lobKeys ++ []) (before ++ [])
        simpa using account.lobs
  · intro e c' own' w₁ before _ ended
    exact ended

/-- Round by round the objects of all rows are cleared, those at hand and those fetched. -/
theorem fetchRounds_ends {g : Guards} (columns : Columns) (cursorId : Nat) (o : ExecuteOptions)
    (rounds : Nat) (rows : List Row) (wires : List (List WireValue)) (more : Bool)
    (guards : g.connection = s.closed) (hown : g.own ∈ own) (connection : c.closed = s.closed) :
    Ends s own (iterate (fetchRound g columns cursorId o) rounds (rows, wires, more)) c w
      fun _ c' own' new => c' = c ∧ own' = own ∧ Accounts [] (wires.flatMap lobKeys) new := by
  -- The rows that one round has fetched are those at hand in the next.
  induction rounds generalizing rows wires more w with
  | zero => exact Ends.halt .waiting
  | succ rounds ih =>
    apply (fetchRound_ends columns cursorId o rows wires more guards hown connection).bind
    · intro next c' own' w₁ new _ ended
      obtain ⟨rfl, rfl, fetched⟩ := ended
      rcases next with ⟨rows', wires', more'⟩ | all
      · obtain ⟨before, cursorId', size, response, rfl, rfl, account⟩ := fetched
        apply (ih rows' response.rows more').mono
        intro r c' own' behind ended
        obtain ⟨rfl, rfl, account'⟩ := ended
        refine ⟨rfl, rfl, ?_, ?_⟩
        · rw [List.append_assoc, List.singleton_append, closedCursors_append, closedCursors_fetch,
            account.cursors.eq_nil, account'.cursors.eq_nil]
          exact .nil
        · rw [List.append_assoc, List.singleton_append]
          exact .fetched cursorId' size response (account.lobs.append .cleared account'.lobs)
      · refine Ends.pure ⟨rfl, rfl, ?_⟩
        rwa [List.append_nil]
    · intro e c' own' w₁ new _ ended
      exact ended

/-- Fetching closes nothing. -/
theorem fetchRows_ends (columns : Columns) (cursorId : Nat) (first : List (List WireValue))
    (more : Bool) (o : ExecuteOptions) (connection : c.closed = s.closed) :
    Ends s own (fetchRows columns cursorId first more o) c w fun _ c' own' new =>
      c' = c ∧ own' = own ∧ Accounts [] (first.flatMap lobKeys) new := by
  have ends : Ends s own (fetchRows columns cursorId first more o) c w fun _ c' own' new =>
      c' = c ∧ (∃ x, own' = x :: own) ∧ Accounts [] (first.flatMap lobKeys) new := by
    rw [fetchRows, ownGuards, bind_assoc]
    apply Ends.fresh_bind
    intro x w₁
    rw [bind_assoc]
    apply Ends.get_bind
    rw [pure_bind]
    apply (fetchRounds_ends columns cursorId o s.host.patience [] first more connection (by simp)
      connection).mono
    intro r c' own' new ended
    obtain ⟨rfl, rfl, account⟩ := ended
    exact ⟨rfl, ⟨x, rfl⟩, account⟩
  -- Nobody needs the signal that guarded the fetching any more.
  apply ends.drop
  intro r c' own' new ended
  obtain ⟨rfl, ⟨x, rfl⟩, account⟩ := ended
  exact ⟨own, (List.sublist_cons_self x own).subperm, rfl, rfl, account⟩

/-- The cursor is closed behind the last row or the first failure. -/
theorem fetchAll_ends (columns : Columns) (cursorId : Nat) (first : List (List WireValue))
    (more : Bool) (o : ExecuteOptions) (connection : c.closed = s.closed) :
    Ends s own (fetchAll columns cursorId first more o) c w fun _ c' own' new =>
      c' = c ∧ own' = own ∧ Accounts (realCursor cursorId) (first.flatMap lobKeys) new := by
  have joined : ∀ {new more : List Exchange}, Accounts [] (first.flatMap lobKeys) new →
      Accounts (realCursor cursorId) [] more →
      Accounts (realCursor cursorId) (first.flatMap lobKeys) (new ++ more) := by
    intro new more rows closing
    simpa using rows.append closing
  apply Ends.attempt_bind (fetchRows_ends columns cursorId first more o connection)
  intro r c' own' w₁ new _ ended
  obtain ⟨rfl, rfl, account⟩ := ended
  cases r with
  | ok rows =>
    by_cases none : cursorId = 0
    · subst none
      simp only [ne_eq, not_true, if_false]
      exact Ends.pure ⟨rfl, rfl, joined account .nil⟩
    · simp only [none, ne_eq, not_false_iff, if_true]
      have closing : ∀ out, Accounts (realCursor cursorId) [] [⟨.closeCursor cursorId, out⟩] := by
        intro out
        rw [realCursor, if_neg none]
        exact accounts_closeCursor cursorId out
      exact Ends.call_bind (fun r w' => Ends.pure ⟨rfl, rfl, joined account (closing _)⟩)
        fun e => ⟨rfl, rfl, joined account (closing _)⟩
  | error e =>
    apply (releaseCursor_ends cursorId).bind_of_ok
    intro c₂ own₂ w₂ more closed
    obtain ⟨rfl, rfl, closing⟩ := closed
    refine Ends.fail ⟨rfl, rfl, ?_⟩
    rw [List.append_nil]
    exact joined account closing

/-! ## Responses -/

/-- A cursor is closed, and nothing else is asked. -/
theorem releaseCursor_closes (id : Nat) :
    Ends s own (releaseCursor id) c w fun r c' own' new => r = .ok () ∧ c' = c ∧ own' = own ∧
      Accounts (realCursor id) [] new ∧ ∀ x ∈ new, x.call.Closes := by
  have ends : Ends s own _ c w _ := (releaseCursor_ends id).withCalls
    (I := fun _ => True) (releaseCursor_calls id) trivial
  apply ends.mono
  intro r c' own' new ended
  obtain ⟨⟨done, same, sameOwn, account⟩, -, closing⟩ := ended
  exact ⟨done, same, sameOwn, account, closing⟩

/-- What output binds hold in custody is closed, and nothing else is asked. -/
theorem releaseOutBinds_closes (bs : List OutBind) (opened : ∀ b ∈ bs, b.value.Opened s) :
    Ends s (OutBind.owns bs ++ own) (releaseOutBinds bs) c w fun r c' own' new =>
      r = .ok () ∧ c' = c ∧ own' = own ∧
        Accounts (OutBind.cursors bs) (OutBind.keys bs) new ∧ ∀ x ∈ new, x.call.Closes := by
  have ends : Ends s (OutBind.owns bs ++ own) _ c w _ := (releaseOutBinds_ends bs opened).withCalls
    (I := fun _ => True) (releaseOutBinds_calls bs) trivial
  apply ends.mono
  intro r c' own' new ended
  obtain ⟨⟨done, same, sameOwn, account⟩, -, closing⟩ := ended
  exact ⟨done, same, sameOwn, account, closing⟩

section Releasing

variable {t : Operation σ Connection α}
  {P Q : Except Error α → Connection → List Signal → List Exchange → Prop}

/-- Output binds in custody are released when something fails behind them. -/
theorem releasing_ends {bs : List OutBind} (opened : ∀ b ∈ bs, b.value.Opened s)
    (ht : Ends s (OutBind.owns bs ++ own) t c w P)
    (hok : ∀ a c' own' new, P (.ok a) c' own' new → Q (.ok a) c' own' new)
    (herr : ∀ e c' own' new, P (.error e) c' own' new → own' = OutBind.owns bs ++ own ∧
      ∀ more, Accounts (OutBind.cursors bs) (OutBind.keys bs) more →
        (∀ x ∈ more, x.call.Closes) → Q (.error e) c' own (new ++ more)) :
    Ends s (OutBind.owns bs ++ own) (releasing bs t) c w Q := by
  apply Ends.attempt_bind ht
  intro r c' own' w₁ new _ ended
  cases r with
  | ok a =>
    apply Ends.pure
    rw [List.append_nil]
    exact hok a c' own' new ended
  | error e =>
    obtain ⟨rfl, hQ⟩ := herr e c' own' new ended
    apply (releaseOutBinds_closes bs opened).bind_of_ok
    intro c₂ own₂ w₂ more released
    obtain ⟨rfl, rfl, account, closing⟩ := released
    apply Ends.fail
    rw [List.append_nil]
    exact hQ more account closing

/-- A cursor is closed when something fails behind it. -/
theorem releasingCursor_ends (id : Nat) (ht : Ends s own t c w P)
    (hok : ∀ a c' own' new, P (.ok a) c' own' new → Q (.ok a) c' own' new)
    (herr : ∀ e c' own' new more, P (.error e) c' own' new → Accounts (realCursor id) [] more →
      (∀ x ∈ more, x.call.Closes) → Q (.error e) c' own' (new ++ more)) :
    Ends s own (releasingCursor id t) c w Q := by
  apply Ends.attempt_bind ht
  intro r c' own' w₁ new _ ended
  cases r with
  | ok a =>
    apply Ends.pure
    rw [List.append_nil]
    exact hok a c' own' new ended
  | error e =>
    apply (releaseCursor_closes id).bind_of_ok
    intro c₂ own₂ w₂ more closed
    obtain ⟨rfl, rfl, account, closing⟩ := closed
    apply Ends.fail
    rw [List.append_nil]
    exact herr e c₂ own₂ new more ended account closing

end Releasing

/-- The objects in the rows of a query are cleared, and its cursor is closed if it comes to
nothing. -/
theorem receiveRows_ends (outBinds : List OutBind) (described : List ColumnMetadata)
    (response : ExecuteResponse) (o : ExecuteOptions) (connection : c.closed = s.closed) :
    Ends s own (receiveRows outBinds described response o) c w fun r _ own' new =>
      EachLob Cleared (response.rows.flatMap lobKeys) new ∧
        ∀ e, r = .error e →
          own' = own ∧ (closedCursors new).Perm (realCursor response.cursorId) := by
  have described_ends : Ends s own
      (releasingCursor response.cursorId (Operation.ofExcept (Columns.ofMetadata described))) c w
      fun r c' own' new => c' = c ∧ own' = own ∧
        match r with
        | .ok columns => Columns.ofMetadata described = .ok columns ∧ new = []
        | .error _ => Accounts (realCursor response.cursorId) [] new := by
    apply releasingCursor_ends response.cursorId (P := fun r c' own' new =>
      c' = c ∧ own' = own ∧ new = [] ∧ Columns.ofMetadata described = r)
      (Ends.ofExcept ⟨rfl, rfl, rfl, rfl⟩)
    · intro columns c' own' new ended
      obtain ⟨rfl, rfl, rfl, resolved⟩ := ended
      exact ⟨rfl, rfl, resolved, rfl⟩
    · intro e c' own' new more ended closing _
      obtain ⟨rfl, rfl, rfl, -⟩ := ended
      exact ⟨rfl, rfl, closing⟩
  apply described_ends.bind
  · intro columns c' own' w₁ new _ ended
    obtain ⟨rfl, rfl, resolved, rfl⟩ := ended
    split
    · apply Ends.get_bind
      rw [connection]
      apply (create_ends response.cursorId described _ _ _ _).bind
      · intro rs c' own' w₂ new _ created
        obtain ⟨rfl, rfl, -⟩ := created
        exact Ends.pure ⟨.nil fun _ => .inl .nil, fun e he => by cases he⟩
      · intro e c' own' w₂ new _ failed
        -- The columns were described before, so only a missing cursor is left to fail.
        obtain ⟨rfl, rfl, rfl, none | ⟨e', wrong⟩⟩ := failed
        · refine ⟨.nil fun _ => .inl .nil, fun _ _ => ⟨rfl, ?_⟩⟩
          rw [realCursor, if_pos none]
          exact .nil
        · rw [resolved] at wrong
          cases wrong
    · apply (fetchAll_ends columns response.cursorId response.rows _ o connection).bind
      · intro rows c' own' w₂ new _ fetched
        obtain ⟨rfl, rfl, account⟩ := fetched
        refine Ends.pure ⟨?_, fun e he => by cases he⟩
        rw [List.append_nil]
        exact account.lobs
      · intro e c' own' w₂ new _ fetched
        obtain ⟨rfl, rfl, account⟩ := fetched
        exact ⟨account.lobs, fun _ _ => ⟨rfl, account.cursors⟩⟩
  · intro e c' own' w₁ new _ ended
    obtain ⟨rfl, rfl, account⟩ := ended
    exact ⟨account.lobs.more List.nil_subperm fun _ => .inl, fun _ _ => ⟨rfl, account.cursors⟩⟩

/-- The objects of a response are cleared, and if it comes to nothing its cursors are closed,
but for one that nobody held. -/
structure Received (response : ExecuteResponse) (stop : Option WireValue) (new : List Exchange)
    (r : Except Error ExecuteResult) : Prop where
  lobs : EachLob Cleared (lobKeys response.outBinds ++ response.rows.flatMap lobKeys) new
  cursors : ∀ e, r = .error e →
    (closedCursors new ++ cursorIds stop.toList).Perm
      (cursorIds response.outBinds ++ realCursor response.cursorId)

/-- The output values of an execution are held, or released but for one, and then the cursor of the
query with them. -/
theorem receiveOutputs_ends (outputs : List Descriptor) (response : ExecuteResponse)
    (o : ExecuteOptions) (connection : c.closed = s.closed) {stop : Option WireValue}
    (hstop : stopsAt? s.host o outputs response.outBinds c w = stop) :
    Ends s own
      (releasingCursor response.cursorId (decodeOutBinds outputs response.outBinds o)) c w
      fun r c' own' new => c' = c ∧
        (∀ bs, r = .ok bs → Unpacked s own [] response.outBinds stop own' new (.ok bs)) ∧
        ∀ e, r = .error e → EachLob Cleared (lobKeys response.outBinds) new ∧
          (closedCursors new ++ cursorIds stop.toList).Perm
            (cursorIds response.outBinds ++ realCursor response.cursorId) := by
  have decoded : Ends s own _ c w _ :=
    decodeOutBinds_ends outputs response.outBinds o connection
  rw [hstop] at decoded
  apply releasingCursor_ends response.cursorId decoded
  · intro bs c' own' new ended
    exact ⟨ended.1, fun bs' hbs => hbs ▸ ended.2, fun e he => by cases he⟩
  intro e c' own' new more ended closing _
  obtain ⟨rfl, -, cursors, lobs⟩ := ended
  refine ⟨rfl, fun bs hbs => (by cases hbs), fun _ _ => ⟨?_, ?_⟩⟩
  · have account := lobs.append .cleared closing.lobs
    simpa [OutBind.keys] using account
  · have both := cursors.append closing.cursors
    rw [closedCursors_append]
    apply List.perm_iff_count.2
    intro id
    have same := both.count_eq id
    simp only [OutBind.cursors, List.flatMap_nil, List.count_append, List.count_nil] at same ⊢
    omega

theorem receive_ends (outputs : List Descriptor) (response : ExecuteResponse) (o : ExecuteOptions)
    (connection : c.closed = s.closed) :
    Ends s own (receive outputs response o) c w fun r _ _ new =>
      Received response (stopsAt? s.host o outputs response.outBinds c w) new r := by
  generalize hstop : stopsAt? s.host o outputs response.outBinds c w = stop
  apply (receiveOutputs_ends outputs response o connection hstop).bind
  · intro bs c' own' w₁ before _ ended
    obtain ⟨rfl, unpacked, -⟩ := ended
    obtain ⟨rfl, opened, rfl, cursors, used, keys, account⟩ := unpacked bs rfl
    -- What the caller will hold and what was read in place make up the objects of the outputs.
    have lobs : ∀ {given : List LobKey} {behind : List Exchange},
        given.Subperm (OutBind.keys bs ++ response.rows.flatMap lobKeys) →
        EachLob Cleared given behind →
        EachLob Cleared (lobKeys response.outBinds ++ response.rows.flatMap lobKeys)
          (before ++ behind) := by
      intro given behind sub cleared
      refine (account.lobs.append .cleared cleared).more ?_ fun _ => .inl
      refine ((List.Subperm.refl used).append sub).trans (List.Perm.subperm ?_)
      apply List.perm_iff_count.2
      intro b
      have same := keys.count_eq b
      simp only [OutBind.keys, List.flatMap_nil, List.nil_append, List.count_append] at same ⊢
      omega
    cases response.columns with
    | none =>
      refine Ends.pure ⟨?_, fun e he => by cases he⟩
      exact lobs List.nil_subperm (.nil fun _ => .inl .nil)
    | some described =>
      apply releasing_ends opened (receiveRows_ends bs described response o connection)
      · intro result c₂ own₂ new ended
        obtain ⟨cleared, -⟩ := ended
        exact ⟨lobs (List.sublist_append_right _ _).subperm cleared, fun e he => by cases he⟩
      · intro e c₂ own₂ new ended
        obtain ⟨cleared, failing⟩ := ended
        obtain ⟨rfl, closed⟩ := failing e rfl
        refine ⟨rfl, fun more released _ => ⟨?_, fun _ _ => ?_⟩⟩
        · exact lobs List.perm_append_comm.subperm (cleared.append .cleared released.lobs)
        · have none : closedCursors before = [] := account.cursors.eq_nil
          have both := closed.append released.cursors
          rw [cursors] at both
          apply List.perm_iff_count.2
          intro id
          have same := both.count_eq id
          simp only [closedCursors_append, none, OutBind.cursors, cursorIds, Option.toList_none,
            List.filterMap_nil, List.flatMap_nil, List.nil_append, List.append_nil,
            List.count_append] at same ⊢
          omega
  · intro e c' own' w₁ before _ ended
    obtain ⟨rfl, -, failing⟩ := ended
    obtain ⟨lobs, cursors⟩ := failing e rfl
    exact ⟨lobs.more (List.sublist_append_left _ _).subperm fun _ => .inl, fun _ _ => cursors⟩

/-! ## Batches -/

/-- The cursors that nobody held when the decoding of a batch failed: that of the value at which
it stopped, and those of all executions behind. -/
def unheld (host : Host σ) (o : ExecuteOptions) :
    List (List Descriptor × List WireValue) → Connection → World σ → List Nat
  | [], _, _ => []
  | (outputs, wires) :: rest, c, w =>
    match decodeOutBinds outputs wires o host c w with
    | (.done _, c, w) => unheld host o rest c w
    | (.failed _, _, _) =>
      cursorIds (stopsAt? host o outputs wires c w).toList ++
        rest.flatMap fun row => cursorIds row.2
    | (.stuck _, _, _) => []

/-- When the output values of a batch cannot be decoded, the cursors are closed that were held. -/
theorem decodeBatch_ends (o : ExecuteOptions) (held : List (List OutBind))
    (rows : List (List Descriptor × List WireValue)) (connection : c.closed = s.closed)
    (opened : ∀ b ∈ held.flatten, b.value.Opened s) :
    Ends s (OutBind.owns held.flatten ++ own) (decodeBatch o held rows) c w fun r _ _ new =>
      ∀ e, r = .error e → (closedCursors new ++ unheld s.host o rows c w).Perm
        (OutBind.cursors held.flatten ++ rows.flatMap fun row => cursorIds row.2) := by
  -- What the executions before have handed out is held; those behind are not looked at yet.
  induction rows generalizing held w with
  | nil => exact Ends.pure fun e he => by cases he
  | cons row rest ih =>
    obtain ⟨outputs, wires⟩ := row
    apply Ends.attempt_bind (decodeOutBinds_ends outputs wires o connection)
    intro r c' own₁ w₁ new ran unpacked
    obtain ⟨rfl, unpacked⟩ := unpacked
    rw [List.flatMap_cons]
    rcases attempt_done ran with ⟨bs, rfl, done⟩ | ⟨e, rfl, failed⟩
    · have behind :
          unheld s.host o ((outputs, wires) :: rest) c' w = unheld s.host o rest c' w₁ := by
        rw [unheld, done]
      obtain ⟨-, opened', rfl, cursors, used, -, account⟩ := unpacked
      have all : (held ++ [bs]).flatten = held.flatten ++ bs := by simp
      have opened₁ : ∀ b ∈ (held ++ [bs]).flatten, b.value.Opened s := by
        intro b hb
        rw [all] at hb
        exact (List.mem_append.1 hb).elim (opened b) (opened' b)
      have order : (OutBind.owns (held ++ [bs]).flatten ++ own).Perm
          (OutBind.owns bs ++ (OutBind.owns held.flatten ++ own)) := by
        rw [all, OutBind.owns_append, ← List.append_assoc]
        exact List.perm_append_comm.append_right own
      refine Ends.take ((ih (held ++ [bs]) opened₁).mono ?_) order.subperm
      intro r c' own' more ended e he
      have rest_ := ended e he
      rw [all, OutBind.cursors_append, cursors] at rest_
      rw [behind, closedCursors_append, account.cursors.eq_nil]
      simpa [OutBind.cursors] using rest_
    · have here : unheld s.host o ((outputs, wires) :: rest) c' w =
          cursorIds (stopsAt? s.host o outputs wires c' w).toList ++
            rest.flatMap fun row => cursorIds row.2 := by
        rw [unheld, failed]
      obtain ⟨rfl, cursors, -⟩ := unpacked
      apply (releaseOutBinds_ends held.flatten opened).bind_of_ok
      intro c₂ own₂ w₂ more released
      obtain ⟨rfl, rfl, account⟩ := released
      apply Ends.fail
      intro _ _
      have both := cursors.append account.cursors
      rw [here, List.append_nil, closedCursors_append]
      apply List.perm_iff_count.2
      intro id
      have same := both.count_eq id
      simp only [List.count_append, OutBind.cursors, List.flatMap_nil, List.count_nil] at same ⊢
      omega

/-- The cursors of a batch that nobody held when it failed. If rows are missing from the response
or there are too many, nothing is decoded. -/
def unheldOfBatch (host : Host σ) (o : ExecuteOptions) (outs : List (List Descriptor))
    (response : BatchResponse) (c : Connection) (w : World σ) : List Nat :=
  if response.rowsAffected.length = outs.length ∧
      response.outBinds.length = (if outs.any (!·.isEmpty) then outs.length else 0) then
    unheld host o (outs.zip response.outBinds) c w
  else response.outBinds.flatMap cursorIds

theorem receiveBatch_ends (outs : List (List Descriptor)) (response : BatchResponse)
    (o : ExecuteOptions) (connection : c.closed = s.closed) :
    Ends s own (receiveBatch outs response o) c w fun r _ _ new =>
      ∀ e, r = .error e →
        (closedCursors new ++ unheldOfBatch s.host o outs response c w).Perm
          (response.outBinds.flatMap cursorIds) := by
  unfold receiveBatch unheldOfBatch
  by_cases counts : response.rowsAffected.length = outs.length
  swap
  · simp only [counts, ne_eq, not_false_iff, if_true, false_and, if_false]
    exact Ends.fail fun _ _ => .rfl
  by_cases rows : response.outBinds.length = (if outs.any (!·.isEmpty) then outs.length else 0)
  swap
  · simp only [counts, rows, ne_eq, not_true, not_false_iff, if_true, if_false, and_false]
    exact Ends.fail fun _ _ => .rfl
  have behind : (outs.zip response.outBinds).map (·.2) = response.outBinds := by
    apply List.map_snd_zip
    rw [rows]
    split <;> omega
  have all : (outs.zip response.outBinds).flatMap (fun row => cursorIds row.2) =
      response.outBinds.flatMap cursorIds := by
    rw [← List.flatMap_map, behind]
  simp only [counts, rows, ne_eq, not_true, if_false, and_self, if_true]
  have decoded : Ends s (OutBind.owns [].flatten ++ own) _ c w _ :=
    decodeBatch_ends o [] (outs.zip response.outBinds) connection (by simp)
  apply Ends.bind decoded
  · intro bs c' own' w' new _ ended
    exact Ends.pure fun e he => by cases he
  · intro e c' own' w' new _ ended _ _
    have closed := ended e rfl
    rw [all] at closed
    exact closed

end Connection

end SqlBinder

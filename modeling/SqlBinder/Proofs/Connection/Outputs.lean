import SqlBinder.Proofs.Connection.Sending
import SqlBinder.Proofs.Conversion.Handles

/-!
Output binds on the way back. What is made of their values is in custody until the caller gets it.
When a value cannot be decoded, each cursor among the others is closed once and each object is
cleared; the cursor at which decoding stops is nobody's then.

The induction is on the values, from left to right: `Unpacked` tells what becomes of the rest when
those in front are held already. A failure releases what is held and what was not come to, which
leaves out the value that it is about.
-/
namespace SqlBinder

open Operation Binding

variable {σ η α : Type} {s : Scene σ} {own : List Signal} {c : Connection} {w : World σ}

/-- The cursor that a number stands for. -/
def realCursor (id : Nat) : List Nat := if id = 0 then [] else [id]

theorem cursorIds_cursor (l : CursorLocator) (rest : List WireValue) :
    cursorIds (.cursor l :: rest) = realCursor l.id ++ cursorIds rest := by
  by_cases none : l.id = 0 <;> simp [cursorIds, realCursor, none]

/-- A call that closes a cursor. -/
theorem accounts_closeCursor (id : Nat) (out : Outcome (Call.closeCursor id).Reply) :
    Accounts [id] [] [⟨.closeCursor id, out⟩] := by
  refine ⟨.refl _, fun b => ⟨fun _ => ⟨?_, ?_, ?_⟩, fun once => ?_⟩⟩
  · simp [takenLobs, Exchange.takenLob?]
  · simp [brokenLobs, Exchange.brokenLob?]
  · simp [closedLobs, Exchange.closedLob?]
  · simp [handedLobs, Exchange.handed] at once

namespace ResultSet

/-- The result set is open, for all that its own state and its connection's signal tell. -/
structure Opened (s : Scene σ) (rs : ResultSet) (id : Nat) : Prop where
  cursor : rs.cursor.map (·.id) = some id
  connection : rs.guards.connection = s.closed

/-- A result set in custody is open. -/
theorem open?_ends {rs : ResultSet} {id : Nat} (opened : rs.Opened s id)
    (hown : rs.guards.own ∈ own) :
    Ends s own open? rs w fun r rs' own' new =>
      r.map (·.id) = .ok id ∧ rs' = rs ∧ own' = own ∧ new = [] := by
  obtain ⟨cursor, hc, same⟩ := Option.map_eq_some_iff.1 opened.cursor
  refine Ends.of_calm fun calm => Ends.get_bind (Ends.signals_bind (Ends.ofExcept ?_))
  have found : rs.cursorOf w.signals = .ok cursor := by
    simp [cursorOf, Guards.check, calm.stops_none opened.connection hown, hc, pure, Except.pure,
      bind, Except.bind]
  rw [found]
  exact ⟨by rw [← same]; rfl, rfl, rfl, rfl⟩

/-- A result set in custody is closed by one call. -/
theorem close_ends {rs : ResultSet} {id : Nat} (opened : rs.Opened s id) :
    Ends s (rs.guards.own :: own) close rs w fun _ _ own' new =>
      own' = own ∧ Accounts [id] [] new := by
  refine (open?_ends opened (by simp)).bind ?_ ?_
  · intro cursor _ _ w₁ _ _ found
    obtain ⟨same, rfl, rfl, rfl⟩ := found
    obtain rfl : cursor.id = id := Except.ok.inj same
    refine Ends.get_bind (Ends.modify_bind (Ends.fire_bind fun w₂ => Ends.call ?_ ?_))
    · exact fun r => ⟨rfl, accounts_closeCursor _ _⟩
    · exact fun e => ⟨rfl, accounts_closeCursor _ _⟩
  · intro e _ _ w₁ _ _ found
    cases found.1

end ResultSet

namespace Connection

/-- A cursor is closed, whatever comes of it. -/
theorem releaseCursor_ends (id : Nat) :
    Ends s own (releaseCursor id) c w fun r c' own' new =>
      r = .ok () ∧ c' = c ∧ own' = own ∧ Accounts (realCursor id) [] new := by
  unfold releaseCursor realCursor
  by_cases none : id = 0
  · simp only [none, ne_eq, not_true, if_false, if_true]
    exact Ends.pure ⟨rfl, rfl, rfl, .nil⟩
  · simp only [none, ne_eq, not_false_iff, if_true, if_false]
    refine Ends.attempt_bind (P := fun _ c' own' new => c' = c ∧ own' = own ∧
      Accounts [id] [] new) (Ends.call ?_ ?_) ?_
    · exact fun r => ⟨rfl, rfl, accounts_closeCursor id _⟩
    · exact fun e => ⟨rfl, rfl, accounts_closeCursor id _⟩
    · intro r _ _ w₁ new _ closed
      obtain ⟨rfl, rfl, account⟩ := closed
      exact Ends.pure ⟨rfl, rfl, rfl, by simpa using account⟩

/-- The cursors among wire values are closed. -/
theorem releaseWires_ends (wires : List WireValue) :
    Ends s own (releaseWires wires) c w fun r c' own' new =>
      r = .ok () ∧ c' = c ∧ own' = own ∧ Accounts (cursorIds wires) [] new := by
  -- Only cursors make calls; all other values are passed over.
  induction wires generalizing w with
  | nil => exact Ends.pure ⟨rfl, rfl, rfl, .nil⟩
  | cons wire rest ih =>
    cases wire with
    | cursor l =>
      rw [cursorIds_cursor]
      apply (releaseCursor_ends l.id).bind_of_ok
      intro _ _ w₁ new closed
      obtain ⟨rfl, rfl, account⟩ := closed
      apply ih.mono
      intro r c' own' more behind
      obtain ⟨done, same, sameOwn, account'⟩ := behind
      exact ⟨done, same, sameOwn, account.append account'⟩
    | _ => exact ih

end Connection

/-! ## Output binds -/

namespace OutValue

/-- The signals of handles that a value holds. -/
def owns : OutValue → List Signal
  | .lob handle => [handle.guards.own]
  | .resultSet rs => [rs.guards.own]
  | .value _ => []

/-- The cursors that a value holds. -/
def cursors : OutValue → List Nat
  | .resultSet rs => (rs.cursor.map (·.id)).toList
  | _ => []

/-- The objects that a value holds. -/
def keys : OutValue → List LobKey
  | .lob handle => [handle.locator.bytes]
  | _ => []

/-- The handle that a value holds is open. -/
def Opened (s : Scene σ) : OutValue → Prop
  | .lob handle => handle.Opened s
  | .resultSet rs => ∃ id, rs.Opened s id
  | .value _ => True

end OutValue

namespace OutBind

variable (bs others : List OutBind)

/-- The signals of handles that output binds hold. -/
def owns : List Signal := bs.flatMap (·.value.owns)

/-- The cursors that output binds hold. -/
def cursors : List Nat := bs.flatMap (·.value.cursors)

/-- The objects that output binds hold. -/
def keys : List LobKey := bs.flatMap (·.value.keys)

@[simp] theorem owns_append : owns (bs ++ others) = owns bs ++ owns others := List.flatMap_append

@[simp] theorem cursors_append : cursors (bs ++ others) = cursors bs ++ cursors others :=
  List.flatMap_append

@[simp] theorem keys_append : keys (bs ++ others) = keys bs ++ keys others := List.flatMap_append

@[simp] theorem owns_single (b : OutBind) : owns [b] = b.value.owns := List.append_nil _

@[simp] theorem cursors_single (b : OutBind) : cursors [b] = b.value.cursors := List.append_nil _

@[simp] theorem keys_single (b : OutBind) : keys [b] = b.value.keys := List.append_nil _

end OutBind

namespace Connection

/-- What output binds hold in custody is closed. -/
theorem releaseOutBinds_ends (bs : List OutBind) (opened : ∀ b ∈ bs, b.value.Opened s) :
    Ends s (OutBind.owns bs ++ own) (releaseOutBinds bs) c w fun r c' own' new =>
      r = .ok () ∧ c' = c ∧ own' = own ∧ Accounts (OutBind.cursors bs) (OutBind.keys bs) new := by
  induction bs generalizing w with
  | nil => exact Ends.pure ⟨rfl, rfl, rfl, .nil⟩
  | cons b rest ih =>
    have first := opened b (by simp)
    have behind := fun w => ih (w := w) fun b hb => opened b (by simp [hb])
    rw [releaseOutBinds, OutBind.owns, OutBind.cursors, OutBind.keys, List.flatMap_cons,
      List.flatMap_cons, List.flatMap_cons]
    -- Each handle is closed by its own signal, which leaves custody with it.
    cases hv : b.value with
    | lob lob =>
      rw [hv] at first
      apply Ends.on_bind (Lob.close_ends first)
      intro r lob' _ w₁ new closed
      obtain ⟨rfl, plain, settled⟩ := closed
      apply (behind w₁).mono
      intro r c' own' more done
      obtain ⟨rfl, rfl, rfl, account⟩ := done
      have account₁ := (settled.imp fun _ => Or.inr).accounts plain
      exact ⟨rfl, rfl, rfl, account₁.append account⟩
    | resultSet rs =>
      rw [hv] at first
      obtain ⟨id, first⟩ := first
      apply Ends.on_bind (ResultSet.close_ends first)
      intro r rs' _ w₁ new closed
      obtain ⟨rfl, account₁⟩ := closed
      apply (behind w₁).mono
      intro r c' own' more done
      obtain ⟨rfl, rfl, rfl, account⟩ := done
      refine ⟨rfl, rfl, rfl, ?_⟩
      simpa [OutValue.cursors, OutValue.keys, first.cursor, OutBind.cursors, OutBind.keys] using
        account₁.append account
    | value v => exact behind w

/-- A connection that nobody else closes is open. -/
theorem checkOpen_ends (connection : c.closed = s.closed) :
    Ends s own checkOpen c w fun r c' own' new => r = .ok () ∧ c' = c ∧ own' = own ∧ new = [] := by
  have ends : Ends s own (pure () : Operation σ Connection Unit) c w fun r c' own' new =>
      r = .ok () ∧ c' = c ∧ own' = own ∧ new = [] := Ends.pure ⟨rfl, rfl, rfl, rfl⟩
  apply ends.congr
  intro calm
  have isOpen : c.isClosed w.signals = false := by
    rw [isClosed, connection]
    exact calm.isOpen
  rw [checkOpen_apply, isOpen]
  rfl

/-- A result set that is made of a cursor is in custody. -/
theorem create_ends {η : Type} {h : η} (id : Nat) (described : List ColumnMetadata)
    (rows : List (List WireValue)) (more : Bool) (fetchSize : Nat) (o : ConvertOptions) :
    Ends s own (ResultSet.create id described rows more fetchSize o s.closed) h w
      fun r h' own' new => h' = h ∧ new = [] ∧
        match r with
        | .ok rs => rs.Opened s id ∧ own' = rs.guards.own :: own
        | .error _ => own' = own ∧ (id = 0 ∨ ∃ e, Columns.ofMetadata described = .error e) := by
  unfold ResultSet.create
  by_cases none : id = 0
  · simp only [none, if_true]
    exact Ends.fail ⟨rfl, rfl, rfl, .inl trivial⟩
  · simp only [none, if_false]
    refine Ends.ofExcept_bind (fun columns _ => ?_) fun e he => ⟨rfl, rfl, rfl, .inr ⟨e, he⟩⟩
    exact Ends.fresh_bind fun x w' => Ends.pure ⟨rfl, rfl, ⟨rfl, rfl⟩, rfl⟩

/-- A cursor that is opened is in custody. -/
theorem openCursor_ends (l : CursorLocator) (o : ExecuteOptions)
    (connection : c.closed = s.closed) :
    Ends s own (openCursor l o) c w fun r c' own' new =>
      c' = c ∧ new = [] ∧
        match r with
        | .ok rs => rs.Opened s l.id ∧ own' = rs.guards.own :: own
        | .error _ => own' = own ∧ (l.id = 0 ∨ ∃ e, Columns.ofMetadata l.columns = .error e) := by
  apply (checkOpen_ends connection).bind_of_ok
  intro _ _ w₁ _ found
  obtain ⟨rfl, rfl, rfl⟩ := found
  apply Ends.get_bind
  rw [connection]
  exact create_ends l.id l.columns [] true o.fetchSize o.convert

/-- An object that is opened is in custody. -/
theorem openLob_ends (l : LobLocator) (connection : c.closed = s.closed) :
    Ends s own (openLob l) c w fun r c' own' new =>
      c' = c ∧ new = [] ∧
        match r with
        | .ok lob => lob.Opened s ∧ lob.locator = l ∧ own' = lob.guards.own :: own
        | .error _ => own' = own := by
  apply (checkOpen_ends connection).bind_of_ok
  intro _ _ w₁ _ found
  obtain ⟨rfl, rfl, rfl⟩ := found
  apply Ends.get_bind
  rw [connection]
  exact Ends.fresh_bind fun x w' => Ends.pure ⟨rfl, rfl, Lob.make_opened l x, rfl, rfl⟩

theorem promotedValue_ends (d : Descriptor) (v : Value) :
    Ends s own (promotedValue d v) c w fun r c' own' new =>
      c' = c ∧ own' = own ∧ new = [] ∧ ∀ u, r = .ok u → u = .value v := by
  unfold promotedValue
  split
  · exact Ends.fail ⟨rfl, rfl, rfl, fun u hu => by cases hu⟩
  · exact Ends.pure ⟨rfl, rfl, rfl, fun u hu => (Except.ok.inj hu).symm⟩

/-- What becomes of one output value: it is held for the caller, or used up. -/
def Taken (s : Scene σ) (own : List Signal) (wire : WireValue) (own' : List Signal)
    (new : List Exchange) : Except Error OutValue → Prop
  | .ok v => v.Opened s ∧ own' = v.owns ++ own ∧ v.cursors = cursorIds [wire] ∧
      ∃ used, lobKeys [wire] = v.keys ++ used ∧ Accounts [] used new
  | .error _ => own' = own ∧ Accounts [] (lobKeys [wire]) new

theorem Taken.plain {wire : WireValue} {v : Value} {new : List Exchange}
    (none : cursorIds [wire] = []) (account : Accounts [] (lobKeys [wire]) new) :
    Taken s own wire own new (.ok (.value v)) :=
  ⟨trivial, rfl, none.symm, _, rfl, account⟩

/-- A value that was read in place has to fit. -/
theorem promoted_ends (d : Descriptor) (l : LobLocator) (connection : c.closed = s.closed) :
    Ends s own (do promotedValue d (← readWhole (← ownGuards) .connectionClosed l)) c w
      fun r c' own' new => c' = c ∧ Taken s own (.lob l) own' new r := by
  -- The signal that guards the reading stays in custody, where nobody needs it any more.
  have ends : Ends s own (do promotedValue d (← readWhole (← ownGuards) .connectionClosed l)) c w
      fun r c' own' new => c' = c ∧ (∃ x, own' = x :: own) ∧
        Accounts [] (lobKeys [.lob l]) new ∧ ∀ u, r = .ok u → ∃ v, u = .value v := by
    rw [ownGuards, bind_assoc]
    apply Ends.fresh_bind
    intro x w₁
    rw [bind_assoc]
    apply Ends.get_bind
    rw [pure_bind]
    apply (readWhole_ends connection (by simp)).bind
    · intro v c₁ own₁ w₂ new _ read
      obtain ⟨rfl, rfl, plain, cleared⟩ := read
      apply (promotedValue_ends d v).mono
      intro r c' own' more fits
      obtain ⟨rfl, rfl, rfl, value⟩ := fits
      refine ⟨rfl, ⟨x, rfl⟩, ?_, fun u hu => ⟨v, value u hu⟩⟩
      rw [List.append_nil]
      exact cleared.accounts plain
    · intro e c₁ own₁ w₂ new _ read
      obtain ⟨rfl, rfl, plain, cleared⟩ := read
      exact ⟨rfl, ⟨x, rfl⟩, cleared.accounts plain, fun u hu => by cases hu⟩
  apply ends.drop
  intro r c' own' new ended
  obtain ⟨rfl, ⟨x, rfl⟩, account, value⟩ := ended
  refine ⟨own, (List.sublist_cons_self x own).subperm, rfl, ?_⟩
  cases r with
  | ok u =>
    obtain ⟨v, rfl⟩ := value u rfl
    exact .plain rfl account
  | error e => exact ⟨rfl, account⟩

theorem decodeOutBind_ends (d : Descriptor) (wire : WireValue) (o : ExecuteOptions)
    (connection : c.closed = s.closed) :
    Ends s own (decodeOutBind d wire o) c w fun r c' own' new =>
      c' = c ∧ Taken s own wire own' new r := by
  unfold decodeOutBind
  split
  · exact Ends.fail ⟨rfl, rfl, .nil⟩
  refine Ends.ofFallible_bind (fun v decoded => ?_) fun e _ => ⟨rfl, rfl, .nil⟩
  -- A handle is opened for the caller, unless it stands for content that is read in place.
  cases DbType.decode_decoded decoded with
  | cursor l type real =>
    apply (openCursor_ends l o connection).bind
    · intro rs c' own' w₁ new _ opened
      obtain ⟨rfl, rfl, opened, rfl⟩ := opened
      refine Ends.pure ⟨rfl, ⟨l.id, opened⟩, rfl, ?_, [], rfl, .nil⟩
      simp [OutValue.cursors, opened.cursor, cursorIds, real]
    · intro e c' own' w₁ new _ failed
      obtain ⟨rfl, rfl, rfl, -⟩ := failed
      exact ⟨rfl, rfl, .nil⟩
  | lob l =>
    by_cases promoted : d.promotedFrom.isSome
    · simp only [promoted, if_true]
      exact promoted_ends d l connection
    · simp only [promoted, if_false, Bool.false_eq_true]
      apply (openLob_ends l connection).bind
      · intro lob c' own' w₁ new _ opened
        obtain ⟨rfl, rfl, opened, rfl, rfl⟩ := opened
        exact Ends.pure ⟨rfl, opened, rfl, rfl, [], rfl, .nil⟩
      · intro e c' own' w₁ new _ failed
        obtain ⟨rfl, rfl, rfl⟩ := failed
        exact ⟨rfl, rfl, .nil⟩
  | plain wirePlain plain =>
    have none : cursorIds [wire] = [] := by
      cases wire with
      | cursor l => exact absurd rfl (wirePlain l)
      | _ => rfl
    have ends : Ends s own
        (if d.promotedFrom.isSome then promotedValue d v else pure (.value v)) c w
        fun r c' own' new => c' = c ∧ Taken s own wire own' new r := by
      split
      · apply (promotedValue_ends d v).mono
        intro r c' own' new taken
        obtain ⟨rfl, rfl, rfl, value⟩ := taken
        cases r with
        | ok u =>
          obtain rfl := value u rfl
          exact ⟨rfl, .plain none .nil⟩
        | error e => exact ⟨rfl, rfl, .nil⟩
      · exact Ends.pure ⟨rfl, .plain none .nil⟩
    cases v with
    | lob l => simp [Value.isHandle] at plain
    | cursor l => simp [Value.isHandle] at plain
    | _ => exact ends

/-- The value at which the decoding of output values fails. -/
def stop? (host : Host σ) (o : ExecuteOptions) :
    List (Descriptor × WireValue) → Connection → World σ → Option WireValue
  | [], _, _ => none
  | (d, wire) :: rest, c, w =>
    match decodeOutBind d wire o host c w with
    | (.done _, c, w) => stop? host o rest c w
    | (.failed _, _, _) => some wire
    | (.stuck _, _, _) => none

/-- A cursor is opened if its slot is one for cursors and its columns can be described. -/
theorem decodeOutBind_cursor {d : Descriptor} {l : CursorLocator} {columns : Columns}
    (host : Host σ) (o : ExecuteOptions) (isOpen : c.isClosed w.signals = false)
    (real : l.id ≠ 0) (type : d.dbType = .cursor)
    (described : Columns.ofMetadata l.columns = .ok columns) :
    ∃ rs w', decodeOutBind d (.cursor l) o host c w = (.done (.resultSet rs), c, w') := by
  have fits : d.overflows (.cursor l) = false := by
    simp [Descriptor.overflows, type, DbType.isVariableLength]
  have value : d.dbType.decode o.convert (.cursor l) = .ok (.cursor l) := by
    simp [type, DbType.decode, DbType.decodeScalar, real, pure, Except.pure]
  have opened : ∃ rs w', openCursor l o host c w = (.done rs, c, w') := by
    have checked : checkOpen host c w = (.done (), c, w) := by simp [checkOpen_apply, isOpen]
    rw [openCursor, bind_of_done checked, bind_of_done (get_apply host c w), ResultSet.create,
      if_neg real, described]
    exact ⟨_, _, rfl⟩
  obtain ⟨rs, w', ran⟩ := opened
  refine ⟨rs, w', ?_⟩
  rw [decodeOutBind, fits, value]
  exact bind_of_done ran _

/-- Decoding stops at a cursor only if its slot is none for cursors or its columns cannot be
described. -/
theorem stop?_cursor {l : CursorLocator} (o : ExecuteOptions)
    (pairs : List (Descriptor × WireValue)) (connection : c.closed = s.closed) (calm : Calm s own w)
    (real : l.id ≠ 0) (stop : stop? s.host o pairs c w = some (.cursor l)) :
    ∃ d, (d, .cursor l) ∈ pairs ∧
      (d.dbType ≠ .cursor ∨ ∃ e, Columns.ofMetadata l.columns = .error e) := by
  induction pairs generalizing own w with
  | nil => cases stop
  | cons pair rest ih =>
    obtain ⟨d, wire⟩ := pair
    rcases ran : decodeOutBind d wire o s.host c w with ⟨v | e | _, c', w'⟩
    · obtain ⟨own', new, -, calm', same, -⟩ :=
        (decodeOutBind_ends d wire o connection).done calm ran
      rw [stop?, ran] at stop
      subst same
      obtain ⟨d', mem, refused⟩ := ih calm' stop
      exact ⟨d', List.mem_cons_of_mem _ mem, refused⟩
    · rw [stop?, ran] at stop
      obtain rfl : wire = .cursor l := Option.some.inj stop
      refine ⟨d, List.mem_cons_self, ?_⟩
      by_cases type : d.dbType = .cursor
      · cases described : Columns.ofMetadata l.columns with
        | ok columns =>
          have isOpen : c.isClosed w.signals = false := by
            rw [isClosed, connection]
            exact calm.isOpen
          obtain ⟨rs, w₁, done⟩ := decodeOutBind_cursor s.host o isOpen real type described
          simp [done] at ran
        | error e => exact .inr ⟨e, rfl⟩
      · exact .inl type
    · rw [stop?, ran] at stop
      cases stop

/-- What becomes of output values, behind those that are held: they are held too, or nothing
is, and only the value at which decoding stopped has not been released. -/
def Unpacked (s : Scene σ) (own : List Signal) (held : List OutBind) (wires : List WireValue)
    (stop : Option WireValue) (own' : List Signal) (new : List Exchange) :
    Except Error (List OutBind) → Prop
  | .ok bs => stop = none ∧ (∀ b ∈ bs, b.value.Opened s) ∧ own' = OutBind.owns bs ++ own ∧
      OutBind.cursors bs = OutBind.cursors held ++ cursorIds wires ∧
      ∃ used, (OutBind.keys held ++ lobKeys wires).Perm (OutBind.keys bs ++ used) ∧
        Accounts [] used new
  | .error _ => own' = own ∧
      (closedCursors new ++ cursorIds stop.toList).Perm
        (OutBind.cursors held ++ cursorIds wires) ∧
      EachLob Cleared (OutBind.keys held ++ lobKeys wires) new

/-- One more value was taken, and what becomes of those behind it is known. -/
theorem Unpacked.cons {held : List OutBind} {slot : Slot} {placeholder : String} {v : OutValue}
    {wire : WireValue} {wires : List WireValue} {stop : Option WireValue} {own₁ own' : List Signal}
    {new more : List Exchange} {r : Except Error (List OutBind)}
    (first : Taken s (OutBind.owns held ++ own) wire own₁ new (.ok v))
    (behind : Unpacked s own (held ++ [⟨slot, placeholder, v⟩]) wires stop own' more r) :
    Unpacked s own held (wire :: wires) stop own' (new ++ more) r := by
  obtain ⟨-, -, cursors, used₁, keys, account₁⟩ := first
  have cursorIds_all : OutBind.cursors (held ++ [⟨slot, placeholder, v⟩]) ++ cursorIds wires =
      OutBind.cursors held ++ cursorIds (wire :: wires) := by
    rw [OutBind.cursors_append, OutBind.cursors_single, cursors, List.append_assoc,
      ← cursorIds_append, List.singleton_append]
  have keys_all : (OutBind.keys held ++ lobKeys (wire :: wires)).Perm
      (used₁ ++ (OutBind.keys (held ++ [⟨slot, placeholder, v⟩]) ++ lobKeys wires)) := by
    rw [← List.singleton_append, lobKeys_append, keys, OutBind.keys_append, OutBind.keys_single]
    apply List.perm_iff_count.2
    intro b
    simp only [List.count_append]
    omega
  cases r with
  | ok bs =>
    obtain ⟨rfl, opened, rfl, sameCursors, used₂, sameKeys, account₂⟩ := behind
    refine ⟨rfl, opened, rfl, sameCursors.trans cursorIds_all, used₁ ++ used₂, ?_,
      account₁.append account₂⟩
    refine keys_all.trans ((sameKeys.append_left used₁).trans ?_)
    apply List.perm_iff_count.2
    intro b
    simp only [List.count_append]
    omega
  | error e =>
    obtain ⟨rfl, cursors', cleared⟩ := behind
    refine ⟨rfl, ?_, (account₁.lobs.append .cleared cleared).perm keys_all.symm⟩
    have none : closedCursors new = [] := account₁.cursors.eq_nil
    rw [closedCursors_append, none, List.nil_append, ← cursorIds_all]
    exact cursors'

/-- A value could not be decoded, and the others were released. -/
theorem Unpacked.stopped {held : List OutBind} {wire : WireValue} {wires : List WireValue}
    {e : Error} {new more behind : List Exchange}
    (first : EachLob Cleared (lobKeys [wire]) new) (uncursed : closedCursors new = [])
    (released : Accounts (OutBind.cursors held) (OutBind.keys held) more)
    (others : Accounts (cursorIds wires) [] behind) :
    Unpacked s own held (wire :: wires) (some wire) own (new ++ (more ++ behind)) (.error e) := by
  have account := released.append others
  refine ⟨rfl, ?_, ?_⟩
  · rw [closedCursors_append, uncursed, List.nil_append, ← List.singleton_append (l := wires),
      cursorIds_append]
    apply (account.cursors.append_right _).trans
    rw [List.append_assoc]
    exact List.perm_append_comm.append_left _
  · refine (first.append .cleared account.lobs).more ?_ fun _ => .inl
    rw [List.append_nil, ← List.singleton_append (l := wires), lobKeys_append, ← List.append_assoc]
    exact List.perm_append_comm.subperm.trans (List.sublist_append_left _ _).subperm

theorem decodeEach_ends (o : ExecuteOptions) (held : List OutBind)
    (pairs : List (Descriptor × WireValue)) (connection : c.closed = s.closed)
    (opened : ∀ b ∈ held, b.value.Opened s) :
    Ends s (OutBind.owns held ++ own) (decodeEach o held pairs) c w fun r c' own' new =>
      c' = c ∧ Unpacked s own held (pairs.map (·.2)) (stop? s.host o pairs c w) own' new r := by
  -- What is held grows by one value with each step, and stays in custody.
  induction pairs generalizing held w with
  | nil =>
    refine Ends.pure ⟨rfl, rfl, opened, rfl, by simp [cursorIds], [], ?_, .nil⟩
    simp [lobKeys]
  | cons pair rest ih =>
    obtain ⟨d, wire⟩ := pair
    apply Ends.attempt_bind (decodeOutBind_ends d wire o connection)
    intro r c' own₁ w₁ new ran taken
    obtain ⟨rfl, taken⟩ := taken
    rcases attempt_done ran with ⟨v, rfl, done⟩ | ⟨e, rfl, failed⟩
    · have behind : stop? s.host o ((d, wire) :: rest) c' w = stop? s.host o rest c' w₁ := by
        rw [stop?, done]
      rw [behind]
      have first : v.Opened s := taken.1
      obtain rfl := taken.2.1
      have opened₁ : ∀ b ∈ held ++ [⟨d.slot, d.placeholder, v⟩], b.value.Opened s := by
        intro b hb
        rcases List.mem_append.1 hb with hb | hb
        · exact opened b hb
        · exact List.mem_singleton.1 hb ▸ first
      have order : (OutBind.owns (held ++ [⟨d.slot, d.placeholder, v⟩]) ++ own).Perm
          (v.owns ++ (OutBind.owns held ++ own)) := by
        rw [OutBind.owns_append, OutBind.owns_single, ← List.append_assoc]
        exact List.perm_append_comm.append_right own
      -- The order of signals in custody does not matter.
      refine Ends.take ((ih (held ++ [⟨d.slot, d.placeholder, v⟩]) opened₁).mono ?_) order.subperm
      intro r c' own' more ended
      exact ⟨ended.1, .cons taken ended.2⟩
    -- Here decoding stops: the values before and behind are released, this one is not.
    · have here : stop? s.host o ((d, wire) :: rest) c' w = some wire := by
        rw [stop?, failed]
      rw [here]
      obtain ⟨rfl, account⟩ := taken
      apply (releaseOutBinds_ends held opened).bind_of_ok
      intro c₂ own₂ w₂ more released
      obtain ⟨rfl, rfl, account₁⟩ := released
      apply (releaseWires_ends _).bind_of_ok
      intro c₃ own₃ w₃ others released
      obtain ⟨rfl, rfl, account₂⟩ := released
      refine Ends.fail ⟨rfl, ?_⟩
      rw [List.append_nil]
      exact .stopped account.lobs account.cursors.eq_nil account₁ account₂

/-- The value of an execution's output at which decoding fails. Nothing is decoded unless there
is one value for each output. -/
def stopsAt? (host : Host σ) (o : ExecuteOptions) (outputs : List Descriptor)
    (wires : List WireValue) (c : Connection) (w : World σ) : Option WireValue :=
  if wires.length = outputs.length then stop? host o (outputs.zip wires) c w else none

/-- The output values of an execution are held, or released but for one. -/
theorem decodeOutBinds_ends (outputs : List Descriptor) (wires : List WireValue)
    (o : ExecuteOptions) (connection : c.closed = s.closed) :
    Ends s own (decodeOutBinds outputs wires o) c w fun r c' own' new =>
      c' = c ∧ Unpacked s own [] wires (stopsAt? s.host o outputs wires c w) own' new r := by
  unfold decodeOutBinds stopsAt?
  by_cases count : wires.length = outputs.length
  · simp only [count, ne_eq, not_true, if_false, if_true]
    have wiresBehind : (outputs.zip wires).map (·.2) = wires :=
      List.map_snd_zip (Nat.le_of_eq count)
    have ends : Ends s (OutBind.owns [] ++ own) _ c w _ :=
      decodeEach_ends o [] (outputs.zip wires) connection (by simp)
    rw [wiresBehind] at ends
    exact ends
  · simp only [count, ne_eq, not_false_iff, if_true, if_false]
    apply (releaseWires_ends wires).bind_of_ok
    intro c' own' w' new released
    obtain ⟨rfl, rfl, account⟩ := released
    refine Ends.fail ⟨rfl, rfl, ?_, ?_⟩
    · show (closedCursors (new ++ []) ++ []).Perm ([] ++ cursorIds wires)
      simpa using account.cursors
    · rw [List.append_nil]
      exact account.lobs.more List.nil_subperm fun _ => .inl

end Connection

end SqlBinder

import SqlBinder.Proofs.Connection.Buffers
import SqlBinder.Proofs.Connection.Request
import SqlBinder.Proofs.Conversion.Handles

/-!
Output binds that came back. There is one for each output descriptor, in order, and it is what
the session reported for it: decoded, read to the end of an object, or handed out as a handle.
Whatever is handed out as a plain value has passed the size of its buffer, so nothing longer
is ever returned and nothing is cut.
-/
namespace SqlBinder

open Operation Binding

/-! ## Content that is read to its end -/

/-- Reads of an object that came to pieces, one behind the other. -/
def reads (l : LobLocator) : Nat → List LobData → List Exchange
  | _, [] => []
  | offset, p :: rest =>
    ⟨.readLob l offset (max l.chunkSize 1), .done p⟩ :: reads l (offset + p.size) rest

/-- Among the calls there is a reading of the object from its start to the first piece without
content, and the value is all that was read. -/
def ReadToEnd (xs : List Exchange) (l : LobLocator) (v : Value) : Prop :=
  ∃ pieces last, (∀ p ∈ pieces, p.isEmpty = false) ∧ last.isEmpty = true ∧
    reads l 1 (pieces ++ [last]) <:+: xs ∧
    v = (pieces.foldl LobData.append (.empty l.kind)).toValue

section ReadWhole

variable {σ η : Type} {host : Host σ} {h h' : η} {w w' : World σ} {g : Guards} {closed : Error}
  {l : LobLocator}

theorem readPiece_rounds {rounds offset : Nat} {data d : LobData}
    (run : iterate (readPiece g closed l) rounds (offset, data) host h w = (.done d, h', w')) :
    h' = h ∧ ∃ pieces last, (∀ p ∈ pieces, p.isEmpty = false) ∧ last.isEmpty = true ∧
      w'.exchanges = w.exchanges ++ reads l offset (pieces ++ [last]) ∧
      d = pieces.foldl LobData.append data := by
  -- A piece with content stands in front of those of the rounds that are left.
  induction rounds generalizing offset data h w with
  | zero => simp [iterate] at run
  | succ rounds ih =>
    obtain ⟨next, h₁, w₁, round, onward⟩ := bind_done run
    obtain ⟨piece, h₂, w₂, asked, moved⟩ := bind_done round
    obtain ⟨rfl, added⟩ := guarded_done asked
    cases ended : piece.isEmpty with
    | true =>
      simp only [ended, if_true, pure_apply, Prod.mk.injEq, Outcome.done.injEq] at moved
      obtain ⟨rfl, rfl, rfl⟩ := moved
      simp only [pure_apply, Prod.mk.injEq, Outcome.done.injEq] at onward
      obtain ⟨rfl, rfl, rfl⟩ := onward
      exact ⟨rfl, [], piece, by simp, ended, added, rfl⟩
    | false =>
      simp only [ended, Bool.false_eq_true, if_false, pure_apply, Prod.mk.injEq,
        Outcome.done.injEq] at moved
      obtain ⟨rfl, rfl, rfl⟩ := moved
      obtain ⟨rfl, pieces, last, full, empty, added', whole⟩ := ih onward
      refine ⟨rfl, piece :: pieces, last, List.forall_mem_cons.2 ⟨ended, full⟩, empty, ?_, whole⟩
      rw [added', added, List.append_assoc]
      rfl

/-- An object that is read in place is read to its end. -/
theorem readWhole_reads {v : Value} (run : readWhole g closed l host h w = (.done v, h', w')) :
    h' = h ∧ ∃ new, w'.exchanges = w.exchanges ++ new ∧ ReadToEnd new l v := by
  obtain ⟨data, h₁, w₁, read, ending⟩ := bind_done run
  obtain ⟨rfl, pieces, last, full, empty, added, rfl⟩ := readPiece_rounds read
  have given : ∀ more, ReadToEnd (reads l 1 (pieces ++ [last]) ++ more) l
      (pieces.foldl LobData.append (.empty l.kind)).toValue := fun more =>
    ⟨pieces, last, full, empty, (List.prefix_append _ _).isInfix, rfl⟩
  cases temporary : l.isTemporary with
  | false =>
    simp only [temporary, Bool.false_eq_true, if_false, pure_apply, Prod.mk.injEq,
      Outcome.done.injEq] at ending
    obtain ⟨rfl, rfl, rfl⟩ := ending
    exact ⟨rfl, _, added, by simpa using given []⟩
  | true =>
    simp only [temporary, if_true] at ending
    obtain ⟨u, h₂, w₂, closing, made⟩ := bind_done ending
    obtain ⟨out, w₃, called, recorded⟩ := call_record (.closeLob l) ⟨none, []⟩ host h₁ w₁
    simp only [callFreely, called, Prod.mk.injEq] at closing
    obtain ⟨rfl, rfl, rfl⟩ := closing
    simp only [pure_apply, Prod.mk.injEq, Outcome.done.injEq] at made
    obtain ⟨rfl, rfl, rfl⟩ := made
    exact ⟨rfl, _, by rw [recorded, added, List.append_assoc], given _⟩

end ReadWhole

theorem ReadToEnd.mono {xs ys : List Exchange} {l : LobLocator} {v : Value}
    (h : ReadToEnd xs l v) (sub : xs <:+: ys) : ReadToEnd ys l v := by
  obtain ⟨pieces, last, full, empty, among, whole⟩ := h
  exact ⟨pieces, last, full, empty, among.trans sub, whole⟩

/-! ## One output bind -/

/-- What a wire value of an output bind is handed out as, with the calls made for it. -/
inductive OutValue.Of (xs : List Exchange) (d : Descriptor) (o : ConvertOptions)
    (wire : WireValue) : OutValue → Prop where
  | plain {v : Value} (decoded : d.dbType.decode o wire = .ok v) (plain : v.isHandle = false) :
    Of xs d o wire (.value v)
  | content {l : LobLocator} {v : Value} (promoted : d.promotedFrom.isSome = true)
    (decoded : d.dbType.decode o wire = .ok (.lob l)) (read : ReadToEnd xs l v) :
    Of xs d o wire (.value v)
  | lob {l : LobLocator} {lob : Lob} (whole : d.promotedFrom.isSome = false)
    (decoded : d.dbType.decode o wire = .ok (.lob l)) (of : lob.locator = l) :
    Of xs d o wire (.lob lob)
  | resultSet {l : CursorLocator} {rs : ResultSet}
    (decoded : d.dbType.decode o wire = .ok (.cursor l)) : Of xs d o wire (.resultSet rs)

theorem OutValue.Of.mono {xs ys : List Exchange} {d : Descriptor} {o : ConvertOptions}
    {wire : WireValue} {v : OutValue} (h : Of xs d o wire v) (sub : xs <:+: ys) :
    Of ys d o wire v := by
  cases h with
  | plain decoded plain => exact .plain decoded plain
  | content promoted decoded read => exact .content promoted decoded (read.mono sub)
  | lob whole decoded of => exact .lob whole decoded of
  | resultSet decoded => exact .resultSet decoded

/-- An output bind that came back for a descriptor and its wire value. -/
structure OutBind.Returns (xs : List Exchange) (o : ConvertOptions) (p : Descriptor × WireValue)
    (b : OutBind) : Prop where
  slot : b.slot = p.1.slot
  placeholder : b.placeholder = p.1.placeholder
  of : b.value.Of xs p.1 o p.2
  fits : b.value.Fits p.1

theorem OutBind.Returns.mono {xs ys : List Exchange} {o : ConvertOptions}
    {p : Descriptor × WireValue} {b : OutBind} (h : b.Returns xs o p) (sub : xs <:+: ys) :
    b.Returns ys o p where
  slot := h.slot
  placeholder := h.placeholder
  of := h.of.mono sub
  fits := h.fits

namespace Connection

variable {σ : Type} {host : Host σ} {c c' : Connection} {w w' : World σ} {o : ExecuteOptions}

theorem promotedValue_done {d : Descriptor} {u : Value} {v : OutValue}
    (run : promotedValue d u host c w = (.done v, c', w')) :
    w' = w ∧ v = .value u ∧ u.bindLength ≤ d.maxSize := by
  unfold promotedValue at run
  split at run
  · simp at run
  · simp only [pure_apply, Prod.mk.injEq, Outcome.done.injEq] at run
    obtain ⟨rfl, rfl, rfl⟩ := run
    exact ⟨rfl, rfl, by omega⟩

theorem checkOpen_done {u : Unit} (run : checkOpen host c w = (.done u, c', w')) :
    c' = c ∧ w' = w := by
  rw [checkOpen_apply] at run
  split at run
  · simp at run
  · cases run
    exact ⟨rfl, rfl⟩

theorem openLob_done {l : LobLocator} {lob : Lob}
    (run : openLob l host c w = (.done lob, c', w')) :
    w'.exchanges = w.exchanges ∧ lob.locator = l := by
  obtain ⟨u, c₁, w₁, checked, made⟩ := bind_done run
  obtain ⟨-, rfl⟩ := checkOpen_done checked
  cases made
  exact ⟨rfl, rfl⟩

/-- What came back for one output bind, behind what was there before. -/
def ComesBack (d : Descriptor) (wire : WireValue) (o : ExecuteOptions) (w w' : World σ)
    (v : OutValue) : Prop :=
  ∃ new, w'.exchanges = w.exchanges ++ new ∧ v.Of new d o.convert wire ∧ v.Fits d

section OneBind

variable {d : Descriptor} {wire : WireValue} {v : OutValue}

theorem plain_comesBack {u : Value} (decoded : d.dbType.decode o.convert wire = .ok u)
    (plain : u.isHandle = false) (small : d.overflows wire = false)
    (run : (if d.promotedFrom.isSome then promotedValue d u else pure (.value u) :
      Operation σ Connection OutValue) host c w = (.done v, c', w')) :
    ComesBack d wire o w w' v := by
  cases promoted : d.promotedFrom.isSome with
  | true =>
    simp only [promoted, if_true] at run
    obtain ⟨rfl, rfl, short⟩ := promotedValue_done run
    exact ⟨[], by simp, .plain decoded plain, OutValue.fits_of_promoted promoted short⟩
  | false =>
    simp only [promoted, Bool.false_eq_true, if_false, pure_apply, Prod.mk.injEq,
      Outcome.done.injEq] at run
    obtain ⟨rfl, rfl, rfl⟩ := run
    exact ⟨[], by simp, .plain decoded plain, OutValue.fits_of_wire promoted small decoded⟩

theorem cursor_comesBack {l : CursorLocator}
    (decoded : d.dbType.decode o.convert wire = .ok (.cursor l))
    (run : (do return .resultSet (← openCursor l o) : Operation σ Connection OutValue) host c w =
      (.done v, c', w')) :
    ComesBack d wire o w w' v := by
  obtain ⟨rs, c₁, w₁, opening, made⟩ := bind_done run
  obtain ⟨-, -, new, added, -⟩ :=
    openCursor_calls (I := fun _ => True) (P := fun _ => True) l o host c w trivial
  rw [opening] at added
  cases made
  exact ⟨new, added, .resultSet decoded, OutValue.fits_of_handle (by simp)⟩

/-- The content of an object that stands for a promoted bind is measured as a whole. -/
theorem object_comesBack {l : LobLocator}
    (decoded : d.dbType.decode o.convert wire = .ok (.lob l))
    (run : (do
      if d.promotedFrom.isSome then
        promotedValue d (← readWhole (← ownGuards) .connectionClosed l)
      else return .lob (← openLob l) : Operation σ Connection OutValue) host c w =
        (.done v, c', w')) :
    ComesBack d wire o w w' v := by
  cases promoted : d.promotedFrom.isSome with
  | true =>
    simp only [promoted, if_true] at run
    obtain ⟨g, c₁, w₁, guarding, onward⟩ := bind_done run
    obtain ⟨u, c₂, w₂, read, made⟩ := bind_done onward
    obtain ⟨rfl, rfl, short⟩ := promotedValue_done made
    obtain ⟨rfl, new, added, whole⟩ := readWhole_reads read
    cases guarding
    exact ⟨new, added, .content promoted decoded whole, OutValue.fits_of_promoted promoted short⟩
  | false =>
    simp only [promoted, Bool.false_eq_true, if_false] at run
    obtain ⟨lob, c₁, w₁, opening, made⟩ := bind_done run
    obtain ⟨quiet, of⟩ := openLob_done opening
    cases made
    exact ⟨[], by simpa using quiet, .lob promoted decoded of, OutValue.fits_of_handle (by simp)⟩

/-- A value that comes back is all of what the session reported, and within its buffer. -/
theorem decodeOutBind_comesBack (run : decodeOutBind d wire o host c w = (.done v, c', w')) :
    ComesBack d wire o w w' v := by
  unfold decodeOutBind at run
  cases long : d.overflows wire with
  | true => simp [long] at run
  | false =>
    simp only [long, Bool.false_eq_true, if_false] at run
    obtain ⟨u, c₁, w₁, decoding, onward⟩ := bind_done run
    obtain ⟨decoded, rfl, rfl⟩ := ofFallible_done decoding
    cases u with
    | cursor l => exact cursor_comesBack decoded onward
    | lob l => exact object_comesBack decoded onward
    | _ => exact plain_comesBack decoded rfl long onward

end OneBind

/-! ## All output binds of an execution -/

/-- The output binds of one execution: one for each descriptor, for the wire value reported in
its place. -/
structure Returned (xs : List Exchange) (o : ConvertOptions) (outs : List Descriptor)
    (wires : List WireValue) (bs : List OutBind) : Prop where
  counted : wires.length = outs.length
  each : List.Forall₂ (OutBind.Returns xs o) (outs.zip wires) bs

theorem Returned.mono {xs ys : List Exchange} {o : ConvertOptions} {outs : List Descriptor}
    {wires : List WireValue} {bs : List OutBind} (h : Returned xs o outs wires bs)
    (sub : xs <:+: ys) : Returned ys o outs wires bs :=
  ⟨h.counted, h.each.imp fun _ _ returns => returns.mono sub⟩

theorem decodeEach_returned {decoded bs : List OutBind} {pairs : List (Descriptor × WireValue)}
    (run : decodeEach o decoded pairs host c w = (.done bs, c', w')) :
    ∃ new rest, w'.exchanges = w.exchanges ++ new ∧ bs = decoded ++ rest ∧
      List.Forall₂ (OutBind.Returns new o.convert) pairs rest := by
  -- What was asked for one bind stands among the calls for all of them.
  induction pairs generalizing decoded c w with
  | nil =>
    cases run
    exact ⟨[], [], by simp, by simp, .nil⟩
  | cons pair rest ih =>
    obtain ⟨d, wire⟩ := pair
    obtain ⟨r, c₁, w₁, attempted, onward⟩ := bind_done run
    rcases attempt_done attempted with ⟨v, rfl, one⟩ | ⟨e, rfl, -⟩
    · obtain ⟨new₁, added₁, of, fits⟩ := decodeOutBind_comesBack one
      obtain ⟨new₂, others, added₂, rfl, each⟩ := ih onward
      refine ⟨new₁ ++ new₂, ⟨d.slot, d.placeholder, v⟩ :: others, ?_, by simp, ?_⟩
      · rw [added₂, added₁, List.append_assoc]
      · exact .cons ⟨rfl, rfl, of.mono (List.prefix_append _ _).isInfix, fits⟩
          (each.imp fun _ _ returns => returns.mono (List.suffix_append _ _).isInfix)
    · obtain ⟨u, c₂, w₂, -, failed⟩ := bind_done onward
      obtain ⟨u, c₃, w₃, -, failed⟩ := bind_done failed
      simp at failed

theorem decodeOutBinds_returned {outs : List Descriptor} {wires : List WireValue}
    {bs : List OutBind} (run : decodeOutBinds outs wires o host c w = (.done bs, c', w')) :
    ∃ new, w'.exchanges = w.exchanges ++ new ∧ Returned new o.convert outs wires bs := by
  unfold decodeOutBinds at run
  split at run
  · obtain ⟨u, c₁, w₁, -, failed⟩ := bind_done run
    simp at failed
  · rename_i counted
    obtain ⟨new, rest, added, rfl, each⟩ := decodeEach_returned run
    exact ⟨new, added, by simpa using counted, each⟩

/-! ## Single executions -/

/-- What is released when an operation fails is not released when it is done. -/
theorem attempted_done {α β : Type} {t : Operation σ Connection α} {u : Operation σ Connection β}
    {a : α}
    (run : (do
      match ← t.attempt with
      | .ok a => pure a
      | .error e =>
        let _ ← u
        Operation.fail e) host c w = (.done a, c', w')) : t host c w = (.done a, c', w') := by
  obtain ⟨r, c₁, w₁, attempted, onward⟩ := bind_done run
  rcases attempt_done attempted with ⟨b, rfl, done⟩ | ⟨e, rfl, -⟩
  · cases onward
    exact done
  · exact absurd (congrArg Prod.fst onward) (bind_fail_ne_done _ e a)

theorem releasing_done {α : Type} {bs : List OutBind} {t : Operation σ Connection α} {a : α}
    (run : releasing bs t host c w = (.done a, c', w')) : t host c w = (.done a, c', w') :=
  attempted_done run

theorem releasingCursor_done {α : Type} {id : Nat} {t : Operation σ Connection α} {a : α}
    (run : releasingCursor id t host c w = (.done a, c', w')) :
    t host c w = (.done a, c', w') :=
  attempted_done run

/-- However the rows are handed out, the output binds are those decoded before. -/
theorem receiveRows_outBinds {outBinds : List OutBind} {described : List ColumnMetadata}
    {response : ExecuteResponse} {r : ExecuteResult}
    (run : receiveRows outBinds described response o host c w = (.done r, c', w')) :
    r.outBinds = outBinds := by
  obtain ⟨columns, c₁, w₁, -, onward⟩ := bind_done run
  split at onward
  · obtain ⟨conn, c₂, w₂, -, onward⟩ := bind_done onward
    obtain ⟨rs, c₃, w₃, -, made⟩ := bind_done onward
    cases made
    rfl
  · obtain ⟨rows, c₂, w₂, -, made⟩ := bind_done onward
    cases made
    rfl

theorem receive_returned {outs : List Descriptor} {response : ExecuteResponse} {r : ExecuteResult}
    (run : receive outs response o host c w = (.done r, c', w')) :
    ∃ new, w'.exchanges = w.exchanges ++ new ∧
      Returned new o.convert outs response.outBinds r.outBinds := by
  obtain ⟨bs, c₁, w₁, decoding, onward⟩ := bind_done run
  obtain ⟨new, added, returned⟩ := decodeOutBinds_returned (releasingCursor_done decoding)
  cases columns : response.columns with
  | none =>
    simp only [columns] at onward
    cases onward
    exact ⟨new, added, returned⟩
  | some described =>
    simp only [columns] at onward
    -- The rows come behind the output binds and leave them as they are.
    have received := releasing_done onward
    obtain ⟨-, -, more, added', -⟩ :=
      receiveRows_calls (I := fun _ => True) bs described response o host c₁ w₁ trivial
    rw [received] at added'
    rw [receiveRows_outBinds received]
    refine ⟨new ++ more, by rw [added', added, List.append_assoc], ?_⟩
    exact returned.mono (List.prefix_append _ _).isInfix

theorem transmit_done {sql : String} {info : Statement.Info} {pending : List PendingBind}
    {response : ExecuteResponse}
    (run : transmit sql info pending o host c w = (.done response, c', w')) :
    ∃ new request, w'.exchanges = w.exchanges ++ new ∧
      ⟨.execute request, .done response⟩ ∈ new := by
  obtain ⟨⟨bound, lobs⟩, c₁, w₁, binding, onward⟩ := bind_done run
  obtain ⟨sent, c₂, w₂, asked, onward⟩ := bind_done onward
  obtain ⟨u, c₃, w₃, releasing, answer⟩ := bind_done onward
  obtain ⟨rfl, rfl, rfl⟩ := ofExcept_done answer
  rcases attempt_done asked with ⟨r, same, made⟩ | ⟨e, failed, -⟩
  · obtain rfl := Except.ok.inj same
    obtain ⟨-, added₂⟩ := roundTrip_done made
    obtain ⟨-, -, before, added₁, -⟩ :=
      bindAll_calls (I := fun _ => True) o [] pending host c w trivial
    obtain ⟨-, -, after, added₃, -⟩ :=
      releaseLobs_calls (I := fun _ => True) lobs host c₂ w₂ trivial
    rw [binding] at added₁
    rw [releasing] at added₃
    refine ⟨_, ⟨sql, info, bound, o.fetchSize, o.prefetch, o.autoCommit⟩,
      by rw [added₃, added₂, added₁, List.append_assoc, List.append_assoc], ?_⟩
    exact List.mem_append_right before (List.mem_append_left after (List.mem_singleton.2 rfl))
  · cases failed

/-- A statement that was sent was executed, for the output binds among its descriptors. -/
theorem send_done {sql : String} {binds : Binds} {outs : List Descriptor}
    {response : ExecuteResponse}
    (run : send sql binds o host c w = (.done (outs, response), c', w')) :
    ∃ ds new request, resolve (Statement.scan sql) binds o.bind = .ok ds ∧ outs = outputs ds ∧
      w'.exchanges = w.exchanges ++ new ∧ ⟨.execute request, .done response⟩ ∈ new := by
  obtain ⟨u, c₁, w₁, checked, run⟩ := bind_done run
  obtain ⟨info, c₂, w₂, scanning, run⟩ := bind_done run
  obtain ⟨ds, c₃, w₃, resolving, run⟩ := bind_done run
  obtain ⟨pending, c₄, w₄, preparing, run⟩ := bind_done run
  obtain ⟨sent, c₅, w₅, transmitting, made⟩ := bind_done run
  have opened := checkOpen_done checked
  rw [scan_apply] at scanning
  cases scanning
  obtain ⟨resolved, rfl, rfl⟩ := ofExcept_done resolving
  obtain ⟨-, rfl, rfl⟩ := ofExcept_done preparing
  obtain ⟨new, request, added, among⟩ := transmit_done transmitting
  cases made
  exact ⟨ds, new, request, resolved, rfl, by rw [added, opened.2], among⟩

/-- An execution that is done has one output bind for each output descriptor, in placeholder
order, for what was reported in its place. -/
theorem execute_returned {sql : String} {binds : Binds} {r : ExecuteResult}
    (run : execute sql binds o host c w = (.done r, c', w')) :
    ∃ ds new request response, resolve (Statement.scan sql) binds o.bind = .ok ds ∧
      w'.exchanges = w.exchanges ++ new ∧ ⟨.execute request, .done response⟩ ∈ new ∧
      Returned new o.convert (outputs ds) response.outBinds r.outBinds := by
  obtain ⟨⟨outs, response⟩, c₁, w₁, sending, receiving⟩ := bind_done run
  obtain ⟨ds, new, request, resolved, rfl, added, among⟩ := send_done sending
  obtain ⟨more, added', returned⟩ := receive_returned receiving
  exact ⟨ds, new ++ more, request, response, resolved, by rw [added', added, List.append_assoc],
    List.mem_append_left more among, returned.mono (List.suffix_append _ _).isInfix⟩

/-! ## Batches -/

theorem bound_descriptor {o : ConvertOptions} {d : Descriptor} {b : BoundValue}
    (h : d.bound o = .ok b) : d = b.descriptor := by
  obtain ⟨wire, -, made⟩ := Except.bind_ok.1 h
  obtain rfl := Except.ok.inj made
  rfl

/-- The descriptors of a row of a batch are those that its binds resolve to. -/
theorem boundRow_descriptors {info : Statement.Info} {binds : Binds} {row : List BoundValue}
    (h : boundRow info o binds = .ok row) :
    resolve info binds o.bind = .ok (row.map (·.descriptor)) := by
  obtain ⟨ds, resolved, bound⟩ := Except.bind_ok.1 h
  have same : List.Forall₂ Eq ds (row.map (·.descriptor)) :=
    List.forall₂_map_right_iff.2 ((Except.mapM_ok.1 bound).imp fun _ _ => bound_descriptor)
  rw [resolved, (List.forall₂_eq_eq_eq ▸ same : ds = _)]

/-- The output binds of a batch: those of each row, for the wire values reported in the place of
the row. If no row has outputs there are none. -/
structure BatchReturned (xs : List Exchange) (o : ConvertOptions) (outs : List (List Descriptor))
    (response : BatchResponse) (r : BatchResult) : Prop where
  counts : r.rowsAffected = response.rowsAffected
  counted : r.rowsAffected.length = outs.length
  reported : response.outBinds.length = if outs.any (!·.isEmpty) then outs.length else 0
  each : List.Forall₂ (fun p bs => Returned xs o p.1 p.2 bs) (outs.zip response.outBinds)
    r.outBinds

theorem BatchReturned.mono {xs ys : List Exchange} {o : ConvertOptions}
    {outs : List (List Descriptor)} {response : BatchResponse} {r : BatchResult}
    (h : BatchReturned xs o outs response r) (sub : xs <:+: ys) :
    BatchReturned ys o outs response r :=
  { h with each := h.each.imp fun _ _ returned => returned.mono sub }

theorem decodeBatch_returned {decoded rows : List (List OutBind)}
    {pairs : List (List Descriptor × List WireValue)}
    (run : decodeBatch o decoded pairs host c w = (.done rows, c', w')) :
    ∃ new rest, w'.exchanges = w.exchanges ++ new ∧ rows = decoded ++ rest ∧
      List.Forall₂ (fun p bs => Returned new o.convert p.1 p.2 bs) pairs rest := by
  induction pairs generalizing decoded c w with
  | nil =>
    cases run
    exact ⟨[], [], by simp, by simp, .nil⟩
  | cons pair rest ih =>
    obtain ⟨r, c₁, w₁, attempted, onward⟩ := bind_done run
    rcases attempt_done attempted with ⟨row, rfl, one⟩ | ⟨e, rfl, -⟩
    · obtain ⟨new₁, added₁, returned⟩ := decodeOutBinds_returned one
      obtain ⟨new₂, others, added₂, rfl, each⟩ := ih onward
      refine ⟨new₁ ++ new₂, row :: others, by rw [added₂, added₁, List.append_assoc], by simp,
        .cons (returned.mono (List.prefix_append _ _).isInfix) ?_⟩
      exact each.imp fun _ _ returned => returned.mono (List.suffix_append _ _).isInfix
    · exact absurd (congrArg Prod.fst onward) (bind_fail_ne_done _ e rows)

theorem receiveBatch_returned {outs : List (List Descriptor)} {response : BatchResponse}
    {r : BatchResult} (run : receiveBatch outs response o host c w = (.done r, c', w')) :
    ∃ new, w'.exchanges = w.exchanges ++ new ∧ BatchReturned new o.convert outs response r := by
  unfold receiveBatch at run
  generalize expected_eq : (if outs.any (!·.isEmpty) then outs.length else 0) = expected at run
  split at run
  · simp at run
  · rename_i counted
    split at run
    · simp at run
    · rename_i reported
      obtain ⟨rows, c₁, w₁, decoding, made⟩ := bind_done run
      obtain ⟨new, rest, added, rfl, each⟩ := decodeBatch_returned decoding
      cases made
      exact ⟨new, added, rfl, by simpa using counted,
        (Decidable.not_not.1 reported).trans expected_eq.symm, each⟩

/-- A batch that was sent was executed, for the output binds among the descriptors of each
row. -/
theorem sendBatch_done {sql : String} {rows : List Binds} {outs : List (List Descriptor)}
    {response : BatchResponse}
    (run : sendBatch sql rows o host c w = (.done (outs, response), c', w')) :
    ∃ bound, rows.mapM (boundRow (Statement.scan sql) o) = .ok bound ∧
      outs = bound.map (fun row => outputs (row.map (·.descriptor))) ∧
      w'.exchanges = w.exchanges ++
        [⟨.executeMany ⟨sql, Statement.scan sql, bound, o.autoCommit⟩, .done response⟩] := by
  obtain ⟨u, c₁, w₁, checked, run⟩ := bind_done run
  obtain ⟨info, c₂, w₂, scanning, run⟩ := bind_done run
  obtain ⟨bound, c₃, w₃, binding, run⟩ := bind_done run
  obtain ⟨answer, c₄, w₄, asked, made⟩ := bind_done run
  obtain ⟨-, rfl⟩ := checkOpen_done checked
  rw [scan_apply] at scanning
  cases scanning
  obtain ⟨prepared, rfl, rfl⟩ := ofExcept_done binding
  obtain ⟨-, added⟩ := roundTrip_done asked
  cases made
  exact ⟨bound, prepared, rfl, added⟩

/-- The rows of a batch resolve to the descriptors of its binds. -/
theorem boundRows_descriptors {info : Statement.Info} {rows : List Binds}
    {bound : List (List BoundValue)} (h : rows.mapM (boundRow info o) = .ok bound) :
    rows.mapM (resolve info · o.bind) = .ok (bound.map (·.map (·.descriptor))) :=
  Except.mapM_ok.2 (List.forall₂_map_right_iff.2
    ((Except.mapM_ok.1 h).imp fun _ _ => boundRow_descriptors))

/-- A batch that is done has a count for each row and, if any row has outputs, one list of
output binds for each row, by the descriptors of that row. -/
theorem executeMany_returned {sql : String} {rows : List Binds} {r : BatchResult}
    (run : executeMany sql rows o host c w = (.done r, c', w')) :
    ∃ dss new request response,
      rows.mapM (resolve (Statement.scan sql) · o.bind) = .ok dss ∧
      w'.exchanges = w.exchanges ++ new ∧ ⟨.executeMany request, .done response⟩ ∈ new ∧
      BatchReturned new o.convert (dss.map outputs) response r := by
  obtain ⟨⟨outs, response⟩, c₁, w₁, sending, receiving⟩ := bind_done run
  obtain ⟨bound, prepared, rfl, added⟩ := sendBatch_done sending
  obtain ⟨more, added', returned⟩ := receiveBatch_returned receiving
  refine ⟨_, _, _, response, boundRows_descriptors prepared,
    by rw [added', added, List.append_assoc],
    List.mem_append_left more (List.mem_singleton.2 rfl), ?_⟩
  rw [List.map_map]
  exact returned.mono (List.suffix_append _ _).isInfix

/-- The run is done with a result that passes. -/
def donePassing {α : Type} (p : α → Bool) : Outcome α × Connection × World σ → Bool
  | (.done a, _, _) => p a
  | _ => false

theorem donePassing_iff {α : Type} {p : α → Bool} {run : Outcome α × Connection × World σ} :
    donePassing p run = true ↔ ∃ a c' w', run = (.done a, c', w') ∧ p a = true := by
  obtain ⟨_ | _ | _, c', w'⟩ := run <;> simp [donePassing]

end Connection

end SqlBinder

import SqlBinder.Proofs.Connection.Returned

/-!
What a batch sends. Its rows are resolved and encoded in order, and the first thing that is wrong
with one of them ends it before anything was asked of the session. Else they are sent in one call,
each as it would be sent alone, and what comes back goes by the rows.

What is wrong with a row is a function of its binds alone, and the batch goes by the first row of
which it tells something. That a row is sent as an execution would send it compares two requests
bind by bind; objects do not come in between, as a batch refuses content for them.
-/
namespace SqlBinder

open Operation Binding

/-! ## Rows before they are sent -/

/-- Why a batch cannot send a bind. Outputs need no encoding. -/
def Binding.Descriptor.batchFault? (o : ConvertOptions) (d : Descriptor) : Option Error :=
  if d.direction.isInput then
    match d.dbType.encode? o d.value with
    | .ok _ => none
    | .error e => some e
  else none

/-- Why a batch cannot send a row: its binds do not resolve, or else one cannot be sent. -/
def Binding.rowFault? (info : Statement.Info) (o : ExecuteOptions) (binds : Binds) :
    Option Error :=
  match resolve info binds o.bind with
  | .ok ds => ds.findSome? (Descriptor.batchFault? o.convert)
  | .error e => some e

/-- Text or bytes where a large object has to be sent. Empty ones are null and need none. -/
def Binding.Descriptor.carriesContent (d : Descriptor) : Bool :=
  d.direction.isInput && d.dbType.isLob &&
    match d.value with
    | some (.string s) => !s.isEmpty
    | some (.bytes b) => !b.isEmpty
    | _ => false

namespace Binding

variable {info : Statement.Info} {o : ExecuteOptions}

theorem bound_error {o : ConvertOptions} {d : Descriptor} {e : Error} :
    d.bound o = .error e ↔ d.batchFault? o = some e := by
  unfold Descriptor.bound Descriptor.batchFault? Descriptor.encode
  cases d.direction.isInput with
  | false => simp [pure, Except.pure, bind, Except.bind]
  | true => cases d.dbType.encode? o d.value <;> simp [pure, Except.pure, bind, Except.bind]

/-- A row fails with its fault. -/
theorem boundRow_error (binds : Binds) (e : Error) :
    boundRow info o binds = .error e ↔ rowFault? info o binds = some e := by
  unfold boundRow rowFault?
  cases resolve info binds o.bind with
  | error e' => simp [bind, Except.bind]
  | ok ds => exact Except.mapM_error fun _ _ => bound_error

/-- Large objects take nothing but their handles, and null. -/
theorem encodeLeaf_lob {t : DbType} {v : Value} {o : ConvertOptions} (lob : t.isLob = true)
    (content : t.sendsNull v = false) (plain : v.isHandle = false) :
    ∃ e, t.encodeLeaf v o = .error e := by
  rw [DbType.encodeLeaf, content, if_neg Bool.false_ne_true]
  split
  · exact ⟨_, rfl⟩
  · split
    · exact ⟨_, rfl⟩
    · cases t with
      | clob | nclob | blob => cases v <;> first | exact ⟨_, rfl⟩ | cases plain
      | _ => cases lob

/-- A batch cannot send content. -/
theorem Descriptor.carriesContent_fault {o : ConvertOptions} {d : Descriptor}
    (carries : d.carriesContent = true) : (d.batchFault? o).isSome = true := by
  simp only [carriesContent, Bool.and_eq_true] at carries
  obtain ⟨⟨input, lob⟩, content⟩ := carries
  have faulty : ∃ e, d.dbType.encode? o d.value = .error e := by
    cases value : d.value with
    | none => simp [value] at content
    | some v =>
      cases v with
      | string u | bytes u =>
        simp only [value, Bool.not_eq_true'] at content
        exact encodeLeaf_lob lob (by simp [DbType.sendsNull, content]) rfl
      | _ => simp [value] at content
  obtain ⟨e, he⟩ := faulty
  simp [batchFault?, input, he]

/-- What an execution writes to an object first is content. -/
theorem Descriptor.carriesContent_of_lobContent? {d : Descriptor} {data : LobData}
    (h : d.lobContent? = some data) : d.carriesContent = true := by
  unfold lobContent? at h
  split at h
  · next kind v type value =>
    have lob : d.dbType.isLob = true ∧ (d.dbType.isText || d.dbType.isBinary) = true := by
      unfold LobKind.ofDbType? at type
      split at type <;> simp_all [DbType.isLob, DbType.isText, DbType.isBinary]
    split at h
    · cases h
    · next sent =>
      simp only [Bool.or_eq_true, Bool.not_eq_true', not_or, Bool.not_eq_false] at sent
      split at h
      · simpa [carriesContent, sent.1, lob.1, value, DbType.sendsNull, lob.2] using sent.2
      · simpa [carriesContent, sent.1, lob.1, value, DbType.sendsNull, lob.2] using sent.2
      · cases h
  · cases h

end Binding

/-- What a batch can send is ready to be sent. -/
theorem PendingBind.ofDescriptor_bound {o : ConvertOptions} {d : Descriptor} {b : BoundValue}
    (h : d.bound o = .ok b) : ofDescriptor o d = .ok (.ready b.descriptor b.wire) := by
  -- Content would not have been encoded.
  have none : d.lobContent? = none := by
    cases content : d.lobContent? with
    | none => rfl
    | some data =>
      obtain ⟨e, faulty⟩ := Option.isSome_iff_exists.1 (Descriptor.carriesContent_fault (o := o)
        (Descriptor.carriesContent_of_lobContent? content))
      simp [bound_error.2 faulty] at h
  obtain ⟨wire, encoded, made⟩ := Except.bind_ok.1 h
  obtain rfl := Except.ok.inj made
  simp only [ofDescriptor, none, encoded]
  rfl

namespace Connection

variable {σ : Type} {host : Host σ} {c c' : Connection} {w w' : World σ} {o : ExecuteOptions}

/-! ## Rows alone -/

/-- The descriptors of a row and, for each, its bind as it is. -/
theorem boundRow_ready {info : Statement.Info} {binds : Binds} {row : List BoundValue}
    (h : boundRow info o binds = .ok row) :
    (row.map (·.descriptor)).mapM (PendingBind.ofDescriptor o.convert) =
      .ok (row.map fun b => .ready b.descriptor b.wire) := by
  obtain ⟨ds, resolved, bound⟩ := Except.bind_ok.1 h
  rw [boundRow_descriptors h] at resolved
  obtain rfl := Except.ok.inj resolved
  exact Except.mapM_ok.2 (List.forall₂_map_right_iff.2
    ((Except.mapM_ok.1 bound).imp fun _ _ => PendingBind.ofDescriptor_bound))

theorem bindAll_ready (o : ExecuteOptions) (lobs : List Lob) (row : List BoundValue)
    (host : Host σ) (c : Connection) (w : World σ) :
    bindAll o lobs (row.map fun b => .ready b.descriptor b.wire) host c w =
      (.done (row, lobs), c, w) := by
  induction row with
  | nil => rfl
  | cons b rest ih =>
    rw [List.map_cons, bindAll, bind_of_done ih]
    rfl

/-- Binds that are ready are sent as they are. -/
theorem transmit_ready (sql : String) (info : Statement.Info) (row : List BoundValue)
    (o : ExecuteOptions) (host : Host σ) (c : Connection) (w : World σ) :
    transmit sql info (row.map fun b => .ready b.descriptor b.wire) o host c w =
      roundTrip o.callTimeout (.execute ⟨sql, info, row, o.fetchSize, o.prefetch, o.autoCommit⟩)
        host c w := by
  rw [transmit, bind_of_done (bindAll_ready o [] row host c w)]
  dsimp only
  -- No object was made, so nothing is given back behind the call.
  rcases run : roundTrip o.callTimeout (.execute ⟨sql, info, row, o.fetchSize, o.prefetch,
    o.autoCommit⟩) host c w with ⟨r | e | _, c₁, w₁⟩
  · rw [bind_of_done (attempt_of_done run)]
    rfl
  · rw [bind_of_done (attempt_of_failed run)]
    rfl
  · rw [bind_of_stuck (attempt_of_stuck run)]

/-- An operation on an open connection that begins with a round trip and starts nothing else. -/
theorem roundTrip_leads {α : Type} (limit : Option Span) (call : Call)
    {f : call.Reply → Operation σ Connection α}
    (quiet : ∀ r, Calls (fun _ => True) Call.StartsNothing (f r)) (host : Host σ) (c : Connection)
    (w : World σ) (hopen : c.isClosed w.signals = false) :
    ∃ reply more,
      ((roundTrip limit call >>= f) host c w).2.2.exchanges =
        w.exchanges ++ ⟨call, reply⟩ :: more ∧
      (∀ x ∈ more, x.call.StartsNothing) ∧
      ∀ a, ((roundTrip limit call >>= f) host c w).1 = .done a → ∃ r w₁ c' w',
        reply = .done r ∧ f r host c w₁ = (.done a, c', w') ∧
          w'.exchanges = w₁.exchanges ++ more := by
  obtain ⟨out, w₁, made, added⟩ := call_record call ⟨limit, []⟩ host c w
  have asked : roundTrip limit call host c w = (out, c, w₁) := by
    rw [roundTrip_apply, hopen]
    exact made
  cases out with
  | done r =>
    obtain ⟨-, -, more, added', starts⟩ := quiet r host c w₁ trivial
    rw [bind_of_done asked]
    refine ⟨.done r, more, by rw [added', added, List.append_assoc]; rfl, starts, fun a done => ?_⟩
    rcases run : f r host c w₁ with ⟨out, c', w'⟩
    rw [run] at done added'
    exact ⟨r, w₁, c', w', rfl, by rw [run, ← done], added'⟩
  | failed e =>
    rw [bind_of_failed asked]
    exact ⟨.failed e, [], added, by simp, fun a done => by cases done⟩
  | stuck why =>
    rw [bind_of_stuck asked]
    exact ⟨.stuck why, [], added, by simp, fun a done => by cases done⟩

/-- The execution of a row. -/
def alone (sql : String) (o : ExecuteOptions) (row : List BoundValue) : ExecuteRequest :=
  ⟨sql, Statement.scan sql, row, o.fetchSize, o.prefetch, o.autoCommit⟩

/-- The row is that of the binds, and an execution with these binds sends it first of all. -/
def SentAlone (sql : String) (o : ExecuteOptions) (binds : Binds) (row : List BoundValue) : Prop :=
  resolve (Statement.scan sql) binds o.bind = .ok (row.map (·.descriptor)) ∧
    ∀ (σ : Type) (host : Host σ) (c : Connection) (w : World σ),
      c.isClosed w.signals = false → ∃ reply more,
        (execute sql binds o host c w).2.2.exchanges =
          w.exchanges ++ ⟨.execute (alone sql o row), reply⟩ :: more ∧
        ∀ x ∈ more, x.call.StartsNothing

/-- A row that a batch can send is sent alone as it is. -/
theorem boundRow_sentAlone {sql : String} {binds : Binds} {row : List BoundValue}
    (h : boundRow (Statement.scan sql) o binds = .ok row) : SentAlone sql o binds row := by
  refine ⟨boundRow_descriptors h, fun σ host c w hopen => ?_⟩
  have sent : execute sql binds o host c w =
      (roundTrip o.callTimeout (.execute (alone sql o row)) >>= fun response =>
        receive (outputs (row.map (·.descriptor))) response o) host (c.scanned sql) w := by
    rw [execute, bind_apply, send_apply sql binds o hopen, boundRow_descriptors h]
    simp only [ofExcept_ok, pure_bind, boundRow_ready h]
    rw [← bind_apply, bind_assoc, bind_apply, transmit_ready, ← bind_apply]
    rfl
  have quiet : ∀ response, Calls (fun _ => True) Call.StartsNothing
      (receive (outputs (row.map (·.descriptor))) response o : Operation σ Connection _) :=
    fun response => receive_calls _ response o
  obtain ⟨reply, more, added, starts, -⟩ := roundTrip_leads o.callTimeout
    (.execute (alone sql o row)) quiet host (c.scanned sql) w hopen
  rw [sent]
  exact ⟨reply, more, added, starts⟩

/-! ## Batches -/

/-- The one call of a batch. -/
def together (sql : String) (o : ExecuteOptions) (rows : List (List BoundValue)) : BatchRequest :=
  ⟨sql, Statement.scan sql, rows, o.autoCommit⟩

/-- The output binds of each row. -/
def rowOutputs (rows : List (List BoundValue)) : List (List Descriptor) :=
  rows.map fun row => outputs (row.map (·.descriptor))

/-- Nothing is sent before all rows are right. -/
theorem executeMany_apply (sql : String) (rows : List Binds) (o : ExecuteOptions)
    (hopen : c.isClosed w.signals = false) :
    executeMany sql rows o host c w =
      (do
        let bound ← Operation.ofExcept (rows.mapM (boundRow (Statement.scan sql) o))
        let response ← roundTrip o.callTimeout (.executeMany (together sql o bound))
        receiveBatch (rowOutputs bound) response o) host (c.scanned sql) w := by
  have opened : checkOpen host c w = (.done (), c, w) := by simp [checkOpen_apply, hopen]
  rw [executeMany, sendBatch, bind_assoc, bind_of_done opened, bind_assoc,
    bind_of_done (scan_apply sql host c w)]
  simp only [bind_assoc, pure_bind]
  rfl

theorem BatchReturned.length {xs : List Exchange} {o : ConvertOptions}
    {outs : List (List Descriptor)} {response : BatchResponse} {r : BatchResult}
    (h : BatchReturned xs o outs response r) :
    r.outBinds.length = if outs.any (!·.isEmpty) then outs.length else 0 := by
  rw [← h.each.length_eq, List.length_zip, h.reported]
  split <;> simp

/-- A batch on an open connection ends with the first thing that is wrong with its rows, and then
nothing was asked of the session; content for an object is one such thing. Else it asks for one
call first, which has every row as an execution with the same binds sends it, and starts
nothing else. What is done has a count for each row and, if any row has an output, the output
binds of each row. -/
theorem executeMany_prepares_then_sends (sql : String) (rows : List Binds) (o : ExecuteOptions)
    (host : Host σ) (c : Connection) (w : World σ) (hopen : c.isClosed w.signals = false) :
    (∀ binds ds, resolve (Statement.scan sql) binds o.bind = .ok ds →
      ds.any (·.carriesContent) = true →
      (rowFault? (Statement.scan sql) o binds).isSome = true) ∧
    (∀ e, rows.findSome? (rowFault? (Statement.scan sql) o) = some e →
      ∃ c', executeMany sql rows o host c w = (.failed e, c', w)) ∧
    (rows.findSome? (rowFault? (Statement.scan sql) o) = none →
      ∃ bound reply more,
        (executeMany sql rows o host c w).2.2.exchanges =
          w.exchanges ++ ⟨.executeMany (together sql o bound), reply⟩ :: more ∧
        (∀ x ∈ more, x.call.StartsNothing) ∧
        List.Forall₂ (SentAlone sql o) rows bound ∧
        ∀ r, (executeMany sql rows o host c w).1 = .done r →
          r.rowsAffected.length = rows.length ∧
          (r.outBinds.length =
            if (rowOutputs bound).any (!·.isEmpty) then rows.length else 0) ∧
          ∃ response, reply = .done response ∧
            BatchReturned more o.convert (rowOutputs bound) response r) := by
  refine ⟨fun binds ds resolved content => ?_, fun e faulty => ⟨c.scanned sql, ?_⟩, fun sound => ?_⟩
  · obtain ⟨d, mem, carries⟩ := List.any_eq_true.1 content
    rw [rowFault?, resolved]
    exact List.findSome?_isSome_iff.2 ⟨d, mem, Descriptor.carriesContent_fault carries⟩
  · rw [executeMany_apply sql rows o hopen, (Except.mapM_error boundRow_error).2 faulty]
    rfl
  · obtain ⟨bound, prepared⟩ := Except.mapM_sound boundRow_error sound
    have each := Except.mapM_ok.1 prepared
    rw [executeMany_apply sql rows o hopen, prepared, ofExcept_ok, pure_bind]
    obtain ⟨reply, more, added, starts, ends⟩ := roundTrip_leads o.callTimeout
      (.executeMany (together sql o bound))
      (fun response => receiveBatch_calls (rowOutputs bound) response o)
      host (c.scanned sql) w hopen
    refine ⟨bound, reply, more, added, starts, each.imp fun _ _ => boundRow_sentAlone,
      fun r done => ?_⟩
    obtain ⟨response, w₁, c', w', rfl, received, added'⟩ := ends r done
    obtain ⟨new, added₂, returned⟩ := receiveBatch_returned received
    -- What the result was read from are the calls behind the first.
    obtain rfl := List.append_cancel_left (added₂.symm.trans added')
    have counted : (rowOutputs bound).length = rows.length := by
      rw [rowOutputs, List.length_map, each.length_eq]
    exact ⟨returned.counted.trans counted, counted ▸ returned.length, response, rfl, returned⟩

/-- Content for an object, behind a row that is right. -/
def contentInSecondRow : List Binds :=
  [.positional [.value (.string "x")],
    .positional [.spec { dbType := some .clob, value := some (.string "x") }]]

/-- The first row has an output, the second an input. -/
def outputThenInput : List Binds :=
  [.positional [.spec { direction := some .output }], .positional [.value (.string "x")]]

/-- A store that answers a batch of these. -/
def answeringTwo : Memory.Store :=
  { Memory.Store.empty 4 with executeMany := [⟨[1, 2], [[.text "y"], []]⟩] }

/-- Content in the second row keeps the first from being sent. Rows with other directions go
together. -/
theorem rows_sent_together :
    (∃ e c', executeMany "begin p(:1); end;" contentInSecondRow {} (Memory.Store.host 9)
      first (opened (.empty 4)) = (.failed e, c', opened (.empty 4))) ∧
    ∃ r c' w' bound reply more,
      executeMany "begin p(:1); end;" outputThenInput {} (Memory.Store.host 9) first
        (opened answeringTwo) = (.done r, c', w') ∧
      w'.exchanges = ⟨.executeMany (together "begin p(:1); end;" {} bound), reply⟩ :: more ∧
      List.Forall₂ (SentAlone "begin p(:1); end;" {}) outputThenInput bound ∧
      r.rowsAffected.length = 2 ∧ r.outBinds.length = 2 := by
  have content : (match resolve (Statement.scan "begin p(:1); end;")
        (.positional [.spec { dbType := some .clob, value := some (.string "x") }]) {} with
      | .ok ds => ds.any (·.carriesContent)
      | .error _ => false) = true := by
    decide +kernel
  have sound : (outputThenInput.findSome?
      (rowFault? (Statement.scan "begin p(:1); end;") {})).isNone = true := by
    decide +kernel
  have evaluated : donePassing (fun r => r.outBinds.length == 2)
      (executeMany "begin p(:1); end;" outputThenInput {} (Memory.Store.host 9) first
        (opened answeringTwo)) = true := by
    decide +kernel
  constructor
  · have refused := executeMany_prepares_then_sends "begin p(:1); end;" contentInSecondRow
      {} (Memory.Store.host 9) first (opened (.empty 4)) rfl
    split at content
    · next ds resolved =>
      have second := refused.1 _ ds resolved content
      obtain ⟨e, he⟩ := Option.isSome_iff_exists.1
        (List.findSome?_isSome_iff.2 ⟨_, List.mem_cons_of_mem _ (List.mem_singleton.2 rfl), second⟩)
      exact ⟨e, refused.2.1 e he⟩
    · cases content
  · obtain ⟨r, c', w', run, outs⟩ := donePassing_iff.1 evaluated
    obtain ⟨bound, reply, more, added, -, each, ends⟩ :=
      (executeMany_prepares_then_sends "begin p(:1); end;" outputThenInput {}
        (Memory.Store.host 9) first (opened answeringTwo) rfl).2.2
          (Option.isNone_iff_eq_none.1 sound)
    rw [run] at added ends
    exact ⟨r, c', w', bound, reply, more, run, added, each, (ends r rfl).1, by simpa using outs⟩

end Connection

end SqlBinder

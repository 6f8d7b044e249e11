import SqlBinder.Proofs.Binding.Placeholders
import SqlBinder.Proofs.Connection.Calls
import SqlBinder.Proofs.Lob.Writing
import SqlBinder.Session.Memory

/-!
What an execution sends. Nothing is asked of the session before every bind has been
resolved and encoded. From then on one execution at most is asked for, and its request
carries each bind as null, as encoded, or as the locator of an object that was made for
its content just before.
-/
namespace SqlBinder

open Operation Binding

variable {σ : Type} {host : Host σ} {c c' : Connection} {w w' : World σ}

/-- The executions that were asked for, in order. -/
def executions (xs : List Exchange) : List ExecuteRequest :=
  xs.filterMap fun x =>
    match x.call with
    | .execute request => some request
    | _ => none

theorem executions_append (xs ys : List Exchange) :
    executions (xs ++ ys) = executions xs ++ executions ys :=
  List.filterMap_append

/-- Calls that start nothing are no executions. -/
theorem executions_of_startsNothing {xs : List Exchange} (h : ∀ x ∈ xs, x.call.StartsNothing) :
    executions xs = [] := by
  apply List.filterMap_eq_nil_iff.2
  intro x hx
  have hs := h x hx
  rcases x with ⟨call, outcome⟩
  cases call with
  | execute request => exact hs.elim
  | _ => rfl

/-! ## Binds before they are sent -/

/-- Why a bind cannot be sent. Outputs and content of large objects need no encoding. -/
def Binding.Descriptor.fault? (o : ConvertOptions) (d : Descriptor) : Option Error :=
  if d.direction.isInput && d.lobContent?.isNone then
    match d.dbType.encode? o d.value with
    | .ok _ => none
    | .error e => some e
  else none

/-- Preparing a bind fails with its fault. -/
theorem PendingBind.ofDescriptor_error {o : ConvertOptions} {d : Descriptor} {e : Error} :
    ofDescriptor o d = .error e ↔ d.fault? o = some e := by
  unfold ofDescriptor Descriptor.fault? Descriptor.encode
  cases d.lobContent? with
  | some data => simp [pure, Except.pure]
  | none =>
    cases d.direction.isInput with
    | false => simp [pure, Except.pure, bind, Except.bind]
    | true => cases d.dbType.encode? o d.value <;> simp [pure, Except.pure, bind, Except.bind]

/-- Preparing binds fails with the fault of the first that has one. -/
theorem PendingBind.ofDescriptors_error {o : ConvertOptions} {ds : List Descriptor} {e : Error} :
    ds.mapM (ofDescriptor o) = .error e ↔ ds.findSome? (Descriptor.fault? o) = some e :=
  Except.mapM_error fun _ _ => ofDescriptor_error

/-! ## Binds as they are sent -/

/-- Calls that make an object for content: it is created, the pieces of the content are
written one behind the other, and they are committed. -/
inductive Written (data : LobData) : LobLocator → List Exchange → Prop where
  | made (raw : LobLocator) (ps : List LobData) (whole : LobData.joined data.kind ps = data) :
    Written data raw.temporary
      (⟨.createLob data.kind, .done raw⟩ ::
        (writes raw.temporary 1 ps ++ [⟨.commitLob raw.temporary, .done ()⟩]))

/-- What a bind is sent as, behind the calls that had to be made for it. -/
inductive Carries (o : ConvertOptions) (d : Descriptor) : List Exchange → WireValue → Prop where
  | output (dir : d.direction.isInput = false) : Carries o d [] .null
  | encoded {wire : WireValue} (dir : d.direction.isInput) (none : d.lobContent? = none)
      (form : d.dbType.encode? o d.value = .ok wire) : Carries o d [] wire
  | content {data : LobData} {l : LobLocator} {seg : List Exchange}
      (some : d.lobContent? = some data) (written : Written data l seg) : Carries o d seg (.lob l)

theorem Carries.of_encode {o : ConvertOptions} {d : Descriptor} {wire : WireValue}
    (hc : d.lobContent? = none) (he : d.encode o = .ok wire) : Carries o d [] wire := by
  unfold Descriptor.encode at he
  cases dir : d.direction.isInput with
  | true => exact .encoded dir hc (by simpa [dir] using he)
  | false =>
    obtain rfl : WireValue.null = wire := by simpa [dir, pure, Except.pure] using he
    exact .output dir

/-- What is left to do for a bind, by its content. -/
theorem PendingBind.ofDescriptor_ok {o : ConvertOptions} {d : Descriptor} {p : PendingBind}
    (h : ofDescriptor o d = .ok p) :
    (∃ data, d.lobContent? = some data ∧ p = .content d data) ∨
      ∃ wire, Carries o d [] wire ∧ p = .ready d wire := by
  unfold ofDescriptor at h
  cases hc : d.lobContent? with
  | some data =>
    simp only [hc] at h
    exact .inl ⟨data, rfl, (Except.ok.inj h).symm⟩
  | none =>
    simp only [hc, Except.bind_ok] at h
    obtain ⟨wire, he, h⟩ := h
    exact .inr ⟨wire, .of_encode hc he, (Except.ok.inj h).symm⟩

/-- What descriptors are sent as, in order. -/
inductive Bound (o : ConvertOptions) :
    List Descriptor → List Exchange → List BoundValue → Prop where
  | nil : Bound o [] [] []
  | cons {d : Descriptor} {wire : WireValue} {seg segs : List Exchange} {ds : List Descriptor}
      {bound : List BoundValue} (one : Carries o d seg wire) (rest : Bound o ds segs bound) :
    Bound o (d :: ds) (seg ++ segs) (⟨d, wire⟩ :: bound)

/-- Each descriptor is sent, and nothing else. -/
theorem Bound.descriptors {o : ConvertOptions} {ds : List Descriptor} {segs : List Exchange}
    {bound : List BoundValue} (h : Bound o ds segs bound) : bound.map (·.descriptor) = ds := by
  induction h with
  | nil => rfl
  | cons one rest ih => rw [List.map_cons, ih]

namespace Connection

/-- A round trip was not made, or it was recorded with its outcome. -/
theorem roundTrip_cases (limit : Option Span) (call : Call) (host : Host σ) (c : Connection)
    (w : World σ) :
    roundTrip limit call host c w = (.failed .connectionClosed, c, w) ∨
      ∃ out w', roundTrip limit call host c w = (out, c, w') ∧
        w'.exchanges = w.exchanges ++ [⟨call, out⟩] := by
  rw [roundTrip_apply]
  split
  · exact .inl rfl
  · exact .inr (call_record call ⟨limit, []⟩ host c w)

theorem roundTrip_done {limit : Option Span} {call : Call} {r : call.Reply}
    (run : roundTrip limit call host c w = (.done r, c', w')) :
    c' = c ∧ w'.exchanges = w.exchanges ++ [⟨call, .done r⟩] := by
  rcases roundTrip_cases limit call host c w with failed | ⟨out, w₁, made, added⟩
  · simp [failed] at run
  · simp only [made, Prod.mk.injEq] at run
    obtain ⟨rfl, rfl, rfl⟩ := run
    exact ⟨rfl, added⟩

/-- A temporary object that is handed out was made for the content. -/
theorem fillTemporary_done {data : LobData} {o : ExecuteOptions} {lob : Lob}
    (run : fillTemporary data o host c w = (.done lob, c', w')) :
    c' = c ∧ ∃ seg, w'.exchanges = w.exchanges ++ seg ∧ Written data lob.locator seg := by
  obtain ⟨raw, c₁, w₁, created, rest⟩ := bind_done run
  obtain ⟨rfl, added₁⟩ := roundTrip_done created
  rw [bind_of_done (get_apply host c₁ w₁), bind_of_done (Lob.create_apply _ _ host c₁ w₁)] at rest
  obtain ⟨⟨r, lob₁⟩, c₂, w₂, filling, ending⟩ := bind_done rest
  obtain ⟨rfl, ⟨u, rfl, filled⟩ | ⟨e, rfl, -⟩⟩ := on_done filling
  · obtain ⟨rfl, -, hk, added₂⟩ := fill_done filled
    simp only [pure_apply, Prod.mk.injEq, Outcome.done.injEq] at ending
    obtain ⟨rfl, rfl, rfl⟩ := ending
    rw [added₁, List.append_assoc, List.append_assoc] at added₂
    exact ⟨rfl, _, added₂, .made raw _ (LobData.joined_pieces _ data)⟩
  · obtain ⟨u, c₃, w₃, -, failed⟩ := bind_done ending
    simp at failed

/-- Binds that are ready to be sent. -/
theorem bindAll_done {o : ExecuteOptions} {ds : List Descriptor} {pending : List PendingBind}
    {lobs lobs' : List Lob} {bound : List BoundValue}
    (prepared : ds.mapM (PendingBind.ofDescriptor o.convert) = .ok pending)
    (run : bindAll o lobs pending host c w = (.done (bound, lobs'), c', w')) :
    c' = c ∧ ∃ segs, w'.exchanges = w.exchanges ++ segs ∧ Bound o.convert ds segs bound := by
  -- Each descriptor adds its own calls behind those of the ones before.
  induction ds generalizing pending lobs bound c w lobs' c' w' with
  | nil =>
    rw [List.mapM_nil] at prepared
    obtain rfl := Except.ok.inj prepared
    simp only [bindAll, pure_apply, Prod.mk.injEq, Outcome.done.injEq] at run
    obtain ⟨⟨rfl, rfl⟩, rfl, rfl⟩ := run
    exact ⟨rfl, [], by simp, .nil⟩
  | cons d rest ih =>
    rw [List.mapM_cons] at prepared
    obtain ⟨p, one, prepared⟩ := Except.bind_ok.1 prepared
    obtain ⟨ps, others, prepared⟩ := Except.bind_ok.1 prepared
    obtain rfl := Except.ok.inj prepared
    rcases PendingBind.ofDescriptor_ok one with ⟨data, hc, rfl⟩ | ⟨wire, hw, rfl⟩
    · obtain ⟨r, c₁, w₁, attempted, next⟩ := bind_done run
      rcases attempt_done attempted with ⟨lob, rfl, filled⟩ | ⟨e, rfl, -⟩
      · obtain ⟨rfl, seg, added₁, written⟩ := fillTemporary_done filled
        obtain ⟨⟨bound₁, lobs₁⟩, c₂, w₂, behind, ending⟩ := bind_done next
        obtain ⟨rfl, segs, added₂, hb⟩ := ih others behind
        simp only [pure_apply, Prod.mk.injEq, Outcome.done.injEq] at ending
        obtain ⟨⟨rfl, rfl⟩, rfl, rfl⟩ := ending
        exact ⟨rfl, seg ++ segs, by rw [added₂, added₁, List.append_assoc],
          .cons (.content hc written) hb⟩
      · obtain ⟨u, c₂, w₂, -, failed⟩ := bind_done next
        simp at failed
    · obtain ⟨⟨bound₁, lobs₁⟩, c₁, w₁, behind, ending⟩ := bind_done run
      obtain ⟨rfl, segs, added, hb⟩ := ih others behind
      simp only [pure_apply, Prod.mk.injEq, Outcome.done.injEq] at ending
      obtain ⟨⟨rfl, rfl⟩, rfl, rfl⟩ := ending
      exact ⟨rfl, segs, added, .cons hw hb⟩

/-! ## Executions -/

/-- One execution was asked for, and its binds are sent as told. -/
def SendsOnce (sql : String) (ds : List Descriptor) (o : ExecuteOptions) (new : List Exchange) :
    Prop :=
  ∃ before bound reply after,
    new = before ++
      ⟨.execute ⟨sql, Statement.scan sql, bound, o.fetchSize, o.prefetch, o.autoCommit⟩, reply⟩ ::
        after ∧
    executions before = [] ∧ executions after = [] ∧ Bound o.convert ds before bound

theorem SendsOnce.append {sql : String} {ds : List Descriptor} {o : ExecuteOptions}
    {new more : List Exchange} (h : SendsOnce sql ds o new) (hm : executions more = []) :
    SendsOnce sql ds o (new ++ more) := by
  obtain ⟨before, bound, reply, after, rfl, hb, ha, sent⟩ := h
  refine ⟨before, bound, reply, after ++ more, by simp, hb, ?_, sent⟩
  rw [executions_append, ha, hm, List.append_nil]

/-- The connection once a text has been scanned. -/
def scanned (c : Connection) (sql : String) : Connection :=
  { c with cache := (c.cache.get sql).2 }

theorem scan_apply (sql : String) (host : Host σ) (c : Connection) (w : World σ) :
    scan sql host c w = (.done (Statement.scan sql), c.scanned sql, w) := by
  rw [scan, bind_of_done (get_apply host c w), bind_of_done (modify_apply host c w _),
    Statement.Cache.info_get]
  rfl

/-- Nothing is sent before all binds are right. -/
theorem send_apply (sql : String) (binds : Binds) (o : ExecuteOptions)
    (hopen : c.isClosed w.signals = false) :
    send sql binds o host c w =
      (do
        let ds ← Operation.ofExcept (resolve (Statement.scan sql) binds o.bind)
        let pending ← Operation.ofExcept (ds.mapM (PendingBind.ofDescriptor o.convert))
        return (outputs ds, ← transmit sql (Statement.scan sql) pending o)) host
        (c.scanned sql) w := by
  have opened : checkOpen host c w = (.done (), c, w) := by simp [checkOpen_apply, hopen]
  rw [send, bind_of_done opened, bind_of_done (scan_apply sql host c w)]

theorem transmit_sends {sql : String} {ds : List Descriptor} {pending : List PendingBind}
    {o : ExecuteOptions} (prepared : ds.mapM (PendingBind.ofDescriptor o.convert) = .ok pending)
    (host : Host σ) (c : Connection) (w : World σ) :
    ∃ new, (transmit sql (Statement.scan sql) pending o host c w).2.2.exchanges =
        w.exchanges ++ new ∧
      (SendsOnce sql ds o new ∨ executions new = [] ∧
        ∀ r, (transmit sql (Statement.scan sql) pending o host c w).1 ≠ .done r) := by
  obtain ⟨-, -, before, added, moves⟩ :=
    bindAll_calls (I := fun _ => True) o [] pending host c w trivial
  have none := executions_of_startsNothing fun x hx => (moves x hx).startsNothing
  -- Binding makes no execution, whether it ends well or not.
  rcases run : bindAll o [] pending host c w with ⟨⟨bound, lobs⟩ | e | _, c₁, w₁⟩
  · obtain ⟨rfl, segs, added₁, sent⟩ := bindAll_done prepared run
    obtain rfl : segs = before := by
      rw [run] at added
      exact List.append_cancel_left (added₁.symm.trans added)
    -- Nothing that follows the round trip starts another one.
    have released : ∀ (r : Except Error ExecuteResponse) (w₂ : World σ), ∃ after,
        ((releaseLobs lobs >>= fun _ => Operation.ofExcept r) host c₁ w₂).2.2.exchanges =
          w₂.exchanges ++ after ∧ executions after = [] := by
      intro r w₂
      obtain ⟨-, -, after, added, moves⟩ := Calls.bind (I := fun _ => True)
        (releaseLobs_calls lobs) (fun _ => .ofExcept r) host c₁ w₂ trivial
      exact ⟨after, added, executions_of_startsNothing fun x hx => (moves x hx).startsNothing⟩
    rw [transmit, bind_of_done run]
    dsimp only
    rcases roundTrip_cases o.callTimeout (.execute ⟨sql, Statement.scan sql, bound, o.fetchSize,
      o.prefetch, o.autoCommit⟩) host c₁ w₁ with failed | ⟨out, w₂, made, added₂⟩
    · rw [bind_of_done (attempt_of_failed failed)]
      obtain ⟨after, added₃, quiet⟩ := released (.error .connectionClosed) w₁
      refine ⟨segs ++ after, by rw [added₃, added₁, List.append_assoc], .inr ⟨?_, ?_⟩⟩
      · rw [executions_append, none, quiet, List.append_nil]
      · exact fun r => bind_fail_ne_done _ _ r
    · have once : ∀ after, executions after = [] → SendsOnce sql ds o (segs ++
          ⟨.execute ⟨sql, Statement.scan sql, bound, o.fetchSize, o.prefetch, o.autoCommit⟩, out⟩
            :: after) :=
        fun after quiet => ⟨segs, bound, out, after, rfl, none, quiet, sent⟩
      cases out with
      | done r =>
        rw [bind_of_done (attempt_of_done made)]
        obtain ⟨after, added₃, quiet⟩ := released (.ok r) w₂
        exact ⟨_, by rw [added₃, added₂, added₁]; simp, .inl (once after quiet)⟩
      | failed e =>
        rw [bind_of_done (attempt_of_failed made)]
        obtain ⟨after, added₃, quiet⟩ := released (.error e) w₂
        exact ⟨_, by rw [added₃, added₂, added₁]; simp, .inl (once after quiet)⟩
      | stuck =>
        rw [bind_of_stuck (attempt_of_stuck made)]
        exact ⟨_, by rw [added₂, added₁]; simp, .inl (once [] rfl)⟩
  · rw [transmit, bind_of_failed run]
    exact ⟨before, by rw [← added, run], .inr ⟨none, by simp⟩⟩
  · rw [transmit, bind_of_stuck run]
    exact ⟨before, by rw [← added, run], .inr ⟨none, by simp⟩⟩

/-- An execution on an open connection ends with the first thing that is wrong with its
binds, and then nothing was asked of the session. Else it asks for one execution at most,
with one bind for each distinct placeholder. -/
theorem execute_prepares_then_sends (sql : String) (binds : Binds) (o : ExecuteOptions)
    (host : Host σ) (c : Connection) (w : World σ) (hopen : c.isClosed w.signals = false) :
    (∀ e, resolve (Statement.scan sql) binds o.bind = .error e →
      ∃ c', execute sql binds o host c w = (.failed e, c', w)) ∧
    ∀ ds, resolve (Statement.scan sql) binds o.bind = .ok ds →
      ds.map (·.placeholder) = ((Statement.scan sql).occurrences.map (·.name)).eraseDups ∧
      (∀ e, ds.findSome? (Descriptor.fault? o.convert) = some e →
        ∃ c', execute sql binds o host c w = (.failed e, c', w)) ∧
      (ds.findSome? (Descriptor.fault? o.convert) = none →
        ∃ new, (execute sql binds o host c w).2.2.exchanges = w.exchanges ++ new ∧
          (SendsOnce sql ds o new ∨ executions new = [] ∧
            ∀ r, (execute sql binds o host c w).1 ≠ .done r)) := by
  constructor
  · intro e he
    refine ⟨c.scanned sql, ?_⟩
    rw [execute, bind_apply, send_apply sql binds o hopen, he]
    rfl
  · intro ds hds
    have sent : ∀ r : Except Error (List PendingBind),
        ds.mapM (PendingBind.ofDescriptor o.convert) = r →
        send sql binds o host c w = (do
          let pending ← Operation.ofExcept r
          return (outputs ds, ← transmit sql (Statement.scan sql) pending o)) host
          (c.scanned sql) w := by
      intro r hr
      subst hr
      rw [send_apply sql binds o hopen, hds]
      rfl
    refine ⟨?_, ?_, ?_⟩
    · rw [resolve_placeholders hds, Statement.bindNames_scan]
    · intro e he
      refine ⟨c.scanned sql, ?_⟩
      rw [execute, bind_apply, sent _ (PendingBind.ofDescriptors_error.2 he)]
      rfl
    · intro sound
      obtain ⟨pending, prepared⟩ :
          ∃ pending, ds.mapM (PendingBind.ofDescriptor o.convert) = .ok pending := by
        cases h : ds.mapM (PendingBind.ofDescriptor o.convert) with
        | ok pending => exact ⟨pending, rfl⟩
        | error e => simp [PendingBind.ofDescriptors_error.1 h] at sound
      have begun := sent _ prepared
      rw [Operation.ofExcept_ok, pure_bind] at begun
      obtain ⟨new, added, once⟩ := transmit_sends prepared host (c.scanned sql) w
      rcases run : transmit sql (Statement.scan sql) pending o host (c.scanned sql) w
        with ⟨r | e | _, c₁, w₁⟩ <;> rw [run] at added once
      · rw [bind_of_done run] at begun
        obtain ⟨-, -, more, added₂, quiet⟩ :=
          receive_calls (I := fun _ => True) (outputs ds) r o host c₁ w₁ trivial
        rw [execute, bind_of_done begun]
        refine ⟨new ++ more, by rw [added₂, added, List.append_assoc], .inl ?_⟩
        rcases once with once | ⟨-, never⟩
        · exact once.append (executions_of_startsNothing quiet)
        · exact absurd rfl (never r)
      · rw [bind_of_failed run] at begun
        rw [execute, bind_of_failed begun]
        exact ⟨new, added, once.imp_right fun quiet => ⟨quiet.1, by simp⟩⟩
      · rw [bind_of_stuck run] at begun
        rw [execute, bind_of_stuck begun]
        exact ⟨new, added, once.imp_right fun quiet => ⟨quiet.1, by simp⟩⟩

/-- The connection that a session opens first. -/
def first : Connection := ⟨.empty 0, {}, ⟨0⟩⟩

/-- The world in which it was opened. -/
def opened (session : σ) : World σ := { World.start session with signals := ⟨1, []⟩ }

/-- Content for an object, and behind it a date that no wire value stands for. -/
def lateFault : Binds :=
  .named
    [("a", .spec { direction := some .input, dbType := some .clob, value := some (.string "x") }),
      ("b", .value (.dateParts ⟨1000000, 1, 1, 0, 0, 0, 0⟩))]

/-- No object is made for the first bind if the second is wrong. -/
theorem late_fault_asks_nothing :
    ∃ e c', execute "insert into t values (:a, :b)" lateFault {} (Memory.Store.host 9) first
      (opened (.empty 4)) = (.failed e, c', opened (.empty 4)) := by
  have faulty : (match resolve (Statement.scan "insert into t values (:a, :b)") lateFault {} with
      | .ok ds => (ds.findSome? (Descriptor.fault? {})).isSome
      | .error _ => false) = true := by
    decide +kernel
  have prepared := execute_prepares_then_sends "insert into t values (:a, :b)" lateFault {}
    (Memory.Store.host 9) first (opened (.empty 4)) rfl
  cases resolved : resolve (Statement.scan "insert into t values (:a, :b)") lateFault {} with
  | error e => simp [resolved] at faulty
  | ok ds =>
    simp only [resolved, Option.isSome_iff_exists] at faulty
    obtain ⟨e, he⟩ := faulty
    exact ⟨e, (prepared.2 ds resolved).2.1 e he⟩

end Connection

end SqlBinder

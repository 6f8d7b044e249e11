import SqlBinder.Client.State
import SqlBinder.Proofs.Connection.Caching

/-!
Users of two connections that keep a different number of statements. Whatever they ask for, one
request after another, they get the same replies from the same calls, however often a statement
was found, moved or dropped. Only when they ask for the kept statements themselves, the answers
may differ.
-/
namespace SqlBinder

open Operation Binding

variable {σ α : Type}

namespace Client

/-- Users of connections that differ at most in the statements that they keep. -/
structure SameButCache (c c' : Client) : Prop where
  connection : Option.Rel Connection.SameButCache c.connection c'.connection
  closed : c.closed = c'.closed
  held : c.held = c'.held

/-! ## Handing out -/

theorem hold_blind (h : Held) : Blind SameButCache (hold h : Operation σ Client Nat) :=
  .get_bind (fun c c' same => by rw [same.held]) fun _ =>
    .bind (.modify fun c c' same => ⟨same.connection, same.closed, by rw [same.held]⟩) fun _ =>
      .pure _

theorem holdLob_blind (lob : Lob) :
    Blind SameButCache (holdLob lob : Operation σ Client NewLob) :=
  .bind (hold_blind _) fun _ => .pure _

theorem holdResultSet_blind (rs : ResultSet) :
    Blind SameButCache (holdResultSet rs : Operation σ Client NewResultSet) :=
  .bind .signals fun _ => .bind (hold_blind _) fun _ => .pure _

theorem holdValue_blind (v : OutValue) :
    Blind SameButCache (holdValue v : Operation σ Client NewValue) := by
  cases v with
  | value v => exact .pure _
  | lob lob => exact .bind (holdLob_blind lob) fun _ => .pure _
  | resultSet rs => exact .bind (holdResultSet_blind rs) fun _ => .pure _

theorem holdBinds_blind (binds : List OutBind) :
    Blind SameButCache (holdBinds binds : Operation σ Client (List NewBind)) := by
  induction binds with
  | nil => exact .pure _
  | cons b rest ih => exact .bind (holdValue_blind b.value) fun _ => .bind ih fun _ => .pure _

theorem holdRows_blind (rows : List (List OutBind)) :
    Blind SameButCache (holdRows rows : Operation σ Client (List (List NewBind))) := by
  induction rows with
  | nil => exact .pure _
  | cons row rest ih => exact .bind (holdBinds_blind row) fun _ => .bind ih fun _ => .pure _

theorem takeAll_blind (names : List String) (r : ExecuteResult) :
    Blind SameButCache
      (takeAll names r : Operation σ Client (List (Option NewValue) × ExecuteResult)) := by
  induction names generalizing r with
  | nil => exact .pure _
  | cons name rest ih =>
    rw [takeAll]
    dsimp only
    cases (r.takeOutBind name).1 with
    | none => exact .bind (.pure _) fun _ => .bind (ih _) fun _ => .pure _
    | some v => exact .bind (.map _ (holdValue_blind v)) fun _ => .bind (ih _) fun _ => .pure _

theorem handOut_blind (r : ExecuteResult) (lookup take : Option (List String)) (inspect : Bool) :
    Blind SameButCache (handOut r lookup take inspect : Operation σ Client ExecuteReply) := by
  refine .bind .signals fun s => ?_
  dsimp only
  cases take with
  | none =>
    refine .bind (.pure _) fun taken => .bind (holdBinds_blind _) fun outBinds => ?_
    cases taken.2.resultSet with
    | none => exact .bind (.pure _) fun _ => .pure _
    | some rs => exact .bind (.map _ (holdResultSet_blind rs)) fun _ => .pure _
  | some names =>
    refine .bind (takeAll_blind names r) fun taken => .bind (.pure _) fun taken =>
      .bind (holdBinds_blind _) fun outBinds => ?_
    cases taken.2.resultSet with
    | none => exact .bind (.pure _) fun _ => .pure _
    | some rs => exact .bind (.map _ (holdResultSet_blind rs)) fun _ => .pure _

/-! ## Requests to the connection -/

/-- What the connection does not see of its cache, its user does not see either. -/
theorem onConnection_blind {t : Operation σ Connection α}
    (ht : Blind Connection.SameButCache t) : Blind SameButCache (onConnection t) := by
  rintro host ⟨connection, closed, held⟩ ⟨connection', closed', held'⟩ w
    ⟨connections, rfl : closed = closed', rfl : held = held'⟩
  cases connections with
  | none => exact ⟨_, _, _, _, rfl, rfl, .none, rfl, rfl⟩
  | @some c c' same =>
    obtain ⟨out, k, k', w₁, run, run', same₁⟩ := ht host c c' w same
    rw [onConnection, bind_of_done (get_apply _ _ _), bind_of_done (get_apply _ _ _)]
    dsimp only
    cases out with
    | done a =>
      rw [bind_of_done (on_of_done run), bind_of_done (on_of_done run')]
      exact ⟨_, _, _, _, rfl, rfl, .some same₁, rfl, rfl⟩
    | failed e =>
      rw [bind_of_done (on_of_failed run), bind_of_done (on_of_failed run')]
      exact ⟨_, _, _, _, rfl, rfl, .some same₁, rfl, rfl⟩
    | stuck =>
      rw [bind_of_stuck (on_of_stuck run), bind_of_stuck (on_of_stuck run')]
      exact ⟨_, _, _, _, rfl, rfl, .some same, rfl, rfl⟩

theorem request_blind {t : Operation σ Connection α} {f : α → Operation σ Client Reply}
    (ht : Blind Connection.SameButCache t) (hf : ∀ a, Blind SameButCache (f a)) :
    Blind SameButCache (request t f) := by
  refine .bind (onConnection_blind ht) fun r => ?_
  rcases r with _ | _ | a
  · exact .pure _
  · exact .pure _
  · exact .bind (hf a) fun _ => .pure _

theorem giveUp_blind : Blind SameButCache (giveUp : Operation σ Client Unit) :=
  .get_bind (fun c c' same => by rw [same.closed]) fun _ => .bind (.fire _) fun _ =>
    .modify fun c c' same => ⟨.none, same.closed, same.held⟩

/-- A reply without what it tells of kept statements. -/
def Reply.withoutCache : Reply → Reply
  | .connectionInfo i =>
    .connectionInfo { i with cacheSize := 0, cacheLimit := 0, cached := [], inspected := "" }
  | reply => reply

/-- What comes back to a request, without what it tells of kept statements. -/
def answerWithoutCache (answer : Option (Except Error Reply)) : Option (Except Error Reply) :=
  answer.map (·.map Reply.withoutCache)

/-- Apart from that, what is said of connections with other kept statements is the same. -/
theorem connectionInfo_withoutCache {c c' : Connection} (same : c.SameButCache c') (s : Signals)
    (sqls : List String) :
    (Reply.connectionInfo (connectionInfo c s sqls)).withoutCache =
      (Reply.connectionInfo (connectionInfo c' s sqls)).withoutCache := by
  simp only [Reply.withoutCache, connectionInfo, same.isClosed]

theorem info_apply (sqls : List String) (c : Connection) (closed : Signal) (held : List Held)
    (host : Host σ) (w : World σ) :
    performConnection (.info sqls) host ⟨some c, closed, held⟩ w =
      (.done (some (.ok (.connectionInfo (connectionInfo c w.signals sqls)))),
        ⟨some c, closed, held⟩, w) :=
  rfl

theorem info_blind (sqls : List String) :
    Blind SameButCache
      (answerWithoutCache <$> performConnection (.info sqls) :
        Operation σ Client (Option (Except Error Reply))) := by
  rintro host ⟨connection, closed, held⟩ ⟨connection', closed', held'⟩ w
    ⟨connections, rfl : closed = closed', rfl : held = held'⟩
  cases connections with
  | none => exact ⟨_, _, _, _, rfl, rfl, .none, rfl, rfl⟩
  | @some c c' same =>
    have shown := connectionInfo_withoutCache same w.signals sqls
    refine ⟨_, ⟨some c, closed, held⟩, ⟨some c', closed, held⟩, w, map_apply _ _ _ _ _, ?_,
      .some same, rfl, rfl⟩
    rw [map_apply, info_apply, info_apply]
    simp only [Outcome.map, answerWithoutCache, Option.map_some, Except.map, shown]

theorem performConnection_blind (r : ConnectionRequest) :
    Blind SameButCache
      (answerWithoutCache <$> performConnection r :
        Operation σ Client (Option (Except Error Reply))) := by
  cases r with
  | execute sql binds options lookup take inspect =>
    exact .map _ (request_blind (Connection.execute_blind sql binds options) fun result =>
      .map _ (handOut_blind result lookup take inspect))
  | query sql binds =>
    exact .map _ (request_blind (Connection.query_blind sql binds) fun _ => .pure _)
  | executeMany sql rows options inspect =>
    exact .map _ (request_blind (Connection.executeMany_blind sql rows options) fun _ =>
      .bind .signals fun _ => .bind (holdRows_blind _) fun _ => .pure _)
  | statementInfo sql =>
    exact .map _ (request_blind (Connection.statementInfo_blind sql) fun _ => .pure _)
  | resolveBinds sql binds options =>
    exact .map _ (request_blind (Connection.resolveBinds_blind sql binds options) fun _ => .pure _)
  | createLob kind =>
    exact .map _ (request_blind (Connection.createLob_blind kind) fun lob =>
      .map _ (holdLob_blind lob))
  | openLob locator =>
    exact .map _ (request_blind (Connection.openLob_blind locator) fun lob =>
      .map _ (holdLob_blind lob))
  | openCursor locator options =>
    exact .map _ (request_blind (Connection.openCursor_blind locator options) fun rs =>
      .map _ (holdResultSet_blind rs))
  | info sqls => exact info_blind sqls
  | close => exact .map _ (.bind giveUp_blind fun _ => .pure _)

/-! ## Interruptions -/

theorem arm_blind (xs : List Signal) : Blind SameButCache (arm xs : Operation σ Client Unit) :=
  fun _ _ _ _ related => ⟨_, _, _, _, rfl, rfl, related⟩

theorem interrupt_blind (g : Guards) (who : Interruption) :
    Blind SameButCache (interrupt g who : Operation σ Client Unit) := by
  cases who with
  | own => exact .fire _
  | connection => exact giveUp_blind

theorem interrupted_blind (g : Guards) (who : Option Interruption) {t : Operation σ Client α}
    (ht : Blind SameButCache t) : Blind SameButCache (interrupted g who t) := by
  cases who with
  | none => exact ht
  | some who =>
    exact .bind (arm_blind _) fun _ => .bind ht fun _ => .bind (arm_blind _) fun _ =>
      .bind (interrupt_blind g who) fun _ => .pure _

/-! ## Requests to handles -/

theorem put_blind (i : Nat) (h : Held) : Blind SameButCache (put i h : Operation σ Client Unit) :=
  .modify fun c c' same => ⟨same.connection, same.closed, by rw [same.held]⟩

theorem onLob_blind (i : Nat) (lob : Lob) (t : Operation σ Lob α) :
    Blind SameButCache (onLob i lob t) :=
  .bind (.on lob t) fun _ => .bind (put_blind i _) fun _ => .pure _

theorem onResultSet_blind (i : Nat) (rs : ResultSet) (t : Operation σ ResultSet α) :
    Blind SameButCache (onResultSet i rs t) :=
  .bind (.on rs t) fun _ => .bind (put_blind i _) fun _ => .pure _

theorem writeParts_blind (writer : LobWriter) (parts : List WritePart) :
    Blind SameButCache
      (writeParts writer parts : Operation σ Client (List PartReply × LobWriter)) := by
  induction parts generalizing writer with
  | nil => exact .pure _
  | cons part rest ih =>
    cases part with
    | data d => exact .bind (.on writer _) fun _ => .bind (ih _) fun _ => .pure _
    | interruption who =>
      exact .bind (interrupt_blind _ who) fun _ => .bind (ih writer) fun _ => .pure _

theorem writeLob_blind (i : Nat) (lob : Lob) (parts : List WritePart) (finish : Bool)
    (who : Option Interruption) : Blind SameButCache
      (writeLob i lob parts finish who : Operation σ Client (Except Error Reply)) := by
  refine .bind (onLob_blind i lob _) fun r => ?_
  cases r with
  | error e => exact .pure _
  | ok writer =>
    refine .bind (writeParts_blind writer parts) fun _ => .ite ?_ ?_
    · exact .bind (interrupted_blind _ who (.on _ _)) fun _ => .bind (put_blind i _) fun _ =>
        .pure _
    · exact .bind (put_blind i _) fun _ => .pure _

theorem performLob_blind (i : Nat) (lob : Lob) (r : LobRequest) :
    Blind SameButCache (performLob i lob r : Operation σ Client (Except Error Reply)) := by
  cases r with
  | info => exact .bind .signals fun _ => .pure _
  | setPieceSize v =>
    simp only [performLob]
    cases lob.setPieceSize v with
    | ok changed => exact .bind (put_blind i _) fun _ => .pure _
    | error e => exact .pure _
  | cancel => exact .bind (.fire _) fun _ => .pure _
  | write parts finish => exact writeLob_blind i lob parts finish none
  | _ => exact .bind (onLob_blind i lob _) fun _ => .pure _

theorem streamRows_blind (i : Nat) (rs : ResultSet) (limit : Option Nat) :
    Blind SameButCache
      (streamRows i rs limit : Operation σ Client (Except Error (List (Except Error Row)))) := by
  refine .bind (put_blind i _) fun _ => .bind .signals fun s => ?_
  cases RowStream.ofResultSet rs s with
  | error e => exact .pure _
  | ok stream => exact .bind (.on stream _) fun _ => .pure _

theorem performResultSet_blind (i : Nat) (rs : ResultSet) (r : ResultSetRequest) :
    Blind SameButCache (performResultSet i rs r : Operation σ Client (Except Error Reply)) := by
  cases r with
  | info => exact .bind .signals fun _ => .pure _
  | setFetchSize size => exact .bind (put_blind i _) fun _ => .pure _
  | cancel => exact .bind (.fire _) fun _ => .pure _
  | openNested locator =>
    refine .bind (onResultSet_blind i rs _) fun r => ?_
    cases r with
    | ok nested => exact .bind (holdResultSet_blind nested) fun _ => .pure _
    | error e => exact .pure _
  | openLob locator =>
    refine .bind (onResultSet_blind i rs _) fun r => ?_
    cases r with
    | ok lob => exact .bind (holdLob_blind lob) fun _ => .pure _
    | error e => exact .pure _
  | stream limit =>
    refine .bind (streamRows_blind i rs limit) fun r => ?_
    cases r with
    | ok rows => exact .bind .signals fun _ => .pure _
    | error e => exact .pure _
  | _ => exact .bind (onResultSet_blind i rs _) fun _ => .pure _

/-- One request, whatever it is. -/
theorem perform_blind (r : Request) :
    Blind SameButCache
      (answerWithoutCache <$> perform r : Operation σ Client (Option (Except Error Reply))) := by
  cases r with
  | connection r => exact performConnection_blind r
  | lob handle r who =>
    refine .map _ (.get_bind (fun c c' same => by rw [same.held]) fun c => ?_)
    cases c.held[handle - 1]? with
    | none => exact .pure _
    | some h =>
      cases h with
      | lob lob =>
        cases r with
        | write parts finish => exact .bind (writeLob_blind _ lob parts finish who) fun _ => .pure _
        | _ =>
          exact .bind (interrupted_blind _ who (performLob_blind _ lob _)) fun _ => .pure _
      | _ => exact .pure _
  | resultSet handle r who =>
    refine .map _ (.get_bind (fun c c' same => by rw [same.held]) fun c => ?_)
    cases c.held[handle - 1]? with
    | none => exact .pure _
    | some h =>
      cases h with
      | resultSet rs =>
        exact .bind (interrupted_blind _ who (performResultSet_blind _ rs r)) fun _ => .pure _
      | _ => exact .pure _

/-! ## A whole run -/

/-- Requests one after another, and what came back to each. -/
def performAll : List Request → Operation σ Client (List (Option (Except Error Reply)))
  | [] => pure []
  | r :: rest => do
    let answer ← perform r
    return answer :: (← performAll rest)

theorem performAll_blind (requests : List Request) :
    Blind SameButCache
      (List.map answerWithoutCache <$> performAll requests :
        Operation σ Client (List (Option (Except Error Reply)))) := by
  induction requests with
  | nil => exact .pure _
  | cons r rest ih =>
    -- The replies are compared one by one, so hiding has to move into the parts.
    have split : (List.map answerWithoutCache <$> performAll (r :: rest) :
        Operation σ Client (List (Option (Except Error Reply)))) = (do
          let answer ← answerWithoutCache <$> perform r
          let others ← List.map answerWithoutCache <$> performAll rest
          return answer :: others) := by
      simp only [performAll, map_eq_pure_bind, bind_assoc, pure_bind, List.map_cons]
    rw [split]
    exact .bind (perform_blind r) fun _ => .bind ih fun _ => .pure _

/-- A new connection, and requests to it. -/
def serve (options : ConnectionOptions) (requests : List Request) :
    Operation σ Unit (List (Option (Except Error Reply))) := do
  let client ← create options
  let (answers, _) ← Operation.on client (performAll requests)
  Operation.ofExcept answers

/-- The user of a connection that has kept nothing yet. -/
def opening (options : ConnectionOptions) (closed : Signal) : Client :=
  ⟨some ⟨.empty options.statementCacheSize, options, closed⟩, closed, []⟩

theorem serve_apply (options : ConnectionOptions) (requests : List Request) (host : Host σ)
    (w : World σ) :
    let run := performAll requests host (opening options w.signals.fresh.1)
      { w with signals := w.signals.fresh.2 }
    serve options requests host () w = (run.1, (), run.2.2) := by
  dsimp only
  have created : (create options : Operation σ Unit Client) host () w =
      (.done (opening options w.signals.fresh.1), (), { w with signals := w.signals.fresh.2 }) :=
    rfl
  rw [serve, bind_of_done created]
  rcases run : performAll requests host (opening options w.signals.fresh.1)
    { w with signals := w.signals.fresh.2 } with ⟨a | e | _, c, w₁⟩
  · rw [bind_of_done (on_of_done run)]
    rfl
  · rw [bind_of_done (on_of_failed run)]
    rfl
  · rw [bind_of_stuck (on_of_stuck run)]

/-- How many statements a connection keeps is never seen: with any two numbers, 0 included, any
requests are answered the same after the same calls, and leave the same world. Only replies
about the kept statements themselves tell it. -/
theorem kept_statements_unseen (host : Host σ) (options : ConnectionOptions) (m n : Nat)
    (requests : List Request) (w : World σ) :
    let run := fun size => serve { options with statementCacheSize := size } requests host () w
    (run m).1.map (List.map answerWithoutCache) = (run n).1.map (List.map answerWithoutCache) ∧
      (run m).2.2 = (run n).2.2 := by
  have same : SameButCache
      (opening { options with statementCacheSize := m } w.signals.fresh.1)
      (opening { options with statementCacheSize := n } w.signals.fresh.1) :=
    ⟨.some ⟨rfl, rfl⟩, rfl, rfl⟩
  obtain ⟨out, c, c', w₁, run, run', -⟩ :=
    performAll_blind requests host _ _ { w with signals := w.signals.fresh.2 } same
  rw [map_apply] at run run'
  simp only [serve_apply]
  exact ⟨(congrArg Prod.fst run).trans (congrArg Prod.fst run').symm,
    (congrArg (·.2.2) run).trans (congrArg (·.2.2) run').symm⟩

end Client

end SqlBinder

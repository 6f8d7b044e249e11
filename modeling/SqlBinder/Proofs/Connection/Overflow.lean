import SqlBinder.Proofs.Connection.Reading
import SqlBinder.Proofs.Connection.Returned

/-!
Output values that are too long for their buffers. The length is taken of the wire value, of a
promoted value once it is decoded, or of the content of an object once it is read, and each time
the whole call fails. What had been opened before is released, which does not change how the
call fails.
-/
namespace SqlBinder.Connection

open Operation Binding

variable {σ : Type} {host : Host σ} {c c₁ : Connection} {w w₁ : World σ} {o : ExecuteOptions}

/-- What the session reported for an output bind is longer than its buffer. The content of an
object has to be read for it. -/
inductive TooLong (host : Host σ) (c : Connection) (w : World σ) (o : ExecuteOptions)
    (d : Descriptor) (wire : WireValue) : Prop where
  | single (whole : d.promotedFrom = none) (varies : d.dbType.isVariableLength = true)
    (longer : d.maxSize < wire.bufferLength)
  | element {items : List WireValue} {x : WireValue} (whole : d.promotedFrom = none)
    (varies : d.dbType.isVariableLength = true) (array : wire = .array items) (mem : x ∈ items)
    (longer : d.maxSize < x.bufferLength)
  | promoted {v : Value} (promoted : d.promotedFrom.isSome = true)
    (decoded : d.dbType.decode o.convert wire = .ok v) (longer : d.maxSize < v.bindLength)
  | content {l : LobLocator} {v : Value} {c' : Connection} {w' : World σ}
    (promoted : d.promotedFrom.isSome = true)
    (decoded : d.dbType.decode o.convert wire = .ok (.lob l))
    (read : (do readWhole (← ownGuards) .connectionClosed l : Operation σ Connection Value)
      host c w = (.done v, c', w'))
    (longer : d.maxSize < v.bindLength)

theorem decodeOutBind_tooLong {d : Descriptor} {wire : WireValue}
    (long : TooLong host c w o d wire) :
    ∃ c' w', decodeOutBind d wire o host c w = (.failed .outBufferTooSmall, c', w') := by
  have overflows : d.overflows wire = true →
      decodeOutBind d wire o host c w = (.failed .outBufferTooSmall, c, w) := fun exceeds => by
    rw [decodeOutBind, if_pos exceeds]
    rfl
  have small : d.promotedFrom.isSome = true → d.overflows wire = false := fun promoted => by
    simp [Descriptor.overflows, promoted]
  cases long with
  | single whole varies longer =>
    exact ⟨c, w, overflows (Descriptor.overflows_iff.2 ⟨whole, varies, .inl longer⟩)⟩
  | element whole varies array mem longer =>
    exact ⟨c, w, overflows (Descriptor.overflows_iff.2
      ⟨whole, varies, .inr ⟨_, array, _, mem, longer⟩⟩)⟩
  | @promoted v promoted decoded longer =>
    refine ⟨c, w, ?_⟩
    rw [decodeOutBind, small promoted, decoded]
    cases v with
    | string s =>
      simp only [Bool.false_eq_true, if_false, ofFallible_ok, pure_bind, promoted, if_true]
      rw [promotedValue, if_pos longer]
      rfl
    | bytes b =>
      simp only [Bool.false_eq_true, if_false, ofFallible_ok, pure_bind, promoted, if_true]
      rw [promotedValue, if_pos longer]
      rfl
    | _ => exact absurd longer (Nat.not_lt_zero _)
  | content promoted decoded read longer =>
    obtain ⟨g, c₁, w₁, guarding, reading⟩ := bind_done read
    rw [decodeOutBind, small promoted, decoded]
    simp only [Bool.false_eq_true, if_false, ofFallible_ok, pure_bind, promoted, if_true]
    rw [bind_of_done guarding, bind_of_done reading, promotedValue, if_pos longer]
    exact ⟨_, _, rfl⟩

/-! ## Among other output binds -/

/-- The output binds before one are decoded, and that one is too long. -/
def StopsTooLong (host : Host σ) (c : Connection) (w : World σ) (o : ExecuteOptions)
    (outs : List Descriptor) (wires : List WireValue) : Prop :=
  wires.length = outs.length ∧ ∃ front d wire back held c' w',
    outs.zip wires = front ++ (d, wire) :: back ∧
      decodeEach o [] front host c w = (.done held, c', w') ∧ TooLong host c' w' o d wire

section Failing

variable (answered : ∀ c s, c.Closes → (host.answer c s).wait ≠ none)

include answered

theorem releaseWires_done (wires : List WireValue) (c : Connection) (w : World σ) :
    ∃ c' w', releaseWires wires host c w = (.done (), c', w') := by
  induction wires generalizing c w with
  | nil => exact ⟨c, w, rfl⟩
  | cons wire rest ih =>
    cases wire with
    | cursor l =>
      obtain ⟨c₁, w₁, released⟩ := releaseCursor_done answered l.id c w
      rw [releaseWires, bind_of_done released]
      exact ih c₁ w₁
    | _ => exact ih c w

theorem decodeEach_tooLong {front back : List (Descriptor × WireValue)} {d : Descriptor}
    {wire : WireValue} {decoded held : List OutBind}
    (run : decodeEach o decoded front host c w = (.done held, c₁, w₁))
    (long : TooLong host c₁ w₁ o d wire) :
    ∃ c' w', decodeEach o decoded (front ++ (d, wire) :: back) host c w =
      (.failed .outBufferTooSmall, c', w') := by
  induction front generalizing decoded c w with
  | nil =>
    cases run
    -- Releasing comes to an end, so the failure is what is left.
    obtain ⟨c₂, w₂, failed⟩ := decodeOutBind_tooLong long
    obtain ⟨c₃, w₃, released⟩ := releaseOutBinds_done answered held c₂ w₂
    obtain ⟨c₄, w₄, left⟩ := releaseWires_done answered (back.map (·.2)) c₃ w₃
    rw [List.nil_append, decodeEach, bind_of_done (attempt_of_failed failed)]
    dsimp only
    rw [bind_of_done released, bind_of_done left]
    exact ⟨c₄, w₄, rfl⟩
  | cons pair rest ih =>
    obtain ⟨r, c₂, w₂, attempted, onward⟩ := bind_done run
    rw [List.cons_append, decodeEach, bind_of_done attempted]
    cases r with
    | ok v => exact ih onward
    | error e =>
      obtain ⟨u, c₃, w₃, -, failed⟩ := bind_done onward
      exact absurd (congrArg Prod.fst failed) (bind_fail_ne_done _ e held)

theorem decodeOutBinds_tooLong {outs : List Descriptor} {wires : List WireValue}
    (stops : StopsTooLong host c w o outs wires) :
    ∃ c' w', decodeOutBinds outs wires o host c w = (.failed .outBufferTooSmall, c', w') := by
  obtain ⟨counted, front, d, wire, back, held, c₁, w₁, split, run, long⟩ := stops
  rw [decodeOutBinds, if_neg (by simpa using counted), split]
  exact decodeEach_tooLong answered run long

theorem releasingCursor_failed {α : Type} {t : Operation σ Connection α} {e : Error} (id : Nat)
    (run : t host c w = (.failed e, c₁, w₁)) :
    ∃ c' w', releasingCursor id t host c w = (.failed e, c', w') := by
  obtain ⟨c₂, w₂, released⟩ := releaseCursor_done answered id c₁ w₁
  rw [releasingCursor, bind_of_done (attempt_of_failed run)]
  dsimp only
  rw [bind_of_done released]
  exact ⟨c₂, w₂, rfl⟩

theorem receive_tooLong {outs : List Descriptor} {response : ExecuteResponse}
    (stops : StopsTooLong host c w o outs response.outBinds) :
    ∃ c' w', receive outs response o host c w = (.failed .outBufferTooSmall, c', w') := by
  obtain ⟨c₁, w₁, failed⟩ := decodeOutBinds_tooLong answered stops
  obtain ⟨c₂, w₂, released⟩ := releasingCursor_failed answered response.cursorId failed
  exact ⟨c₂, w₂, bind_of_failed released _⟩

theorem decodeBatch_tooLong {front : List (List Descriptor × List WireValue)}
    (back : List (List Descriptor × List WireValue)) {outs : List Descriptor}
    {wires : List WireValue} {decoded held : List (List OutBind)}
    (run : decodeBatch o decoded front host c w = (.done held, c₁, w₁))
    (stops : StopsTooLong host c₁ w₁ o outs wires) :
    ∃ c' w', decodeBatch o decoded (front ++ (outs, wires) :: back) host c w =
      (.failed .outBufferTooSmall, c', w') := by
  induction front generalizing decoded c w with
  | nil =>
    cases run
    obtain ⟨c₂, w₂, failed⟩ := decodeOutBinds_tooLong answered stops
    obtain ⟨c₃, w₃, released⟩ := releaseOutBinds_done answered held.flatten c₂ w₂
    rw [List.nil_append, decodeBatch, bind_of_done (attempt_of_failed failed)]
    dsimp only
    rw [bind_of_done released]
    exact ⟨c₃, w₃, rfl⟩
  | cons pair rest ih =>
    obtain ⟨r, c₂, w₂, attempted, onward⟩ := bind_done run
    rw [List.cons_append, decodeBatch, bind_of_done attempted]
    cases r with
    | ok row => exact ih onward
    | error e => exact absurd (congrArg Prod.fst onward) (bind_fail_ne_done _ e held)

end Failing

/-- The rows before one are decoded, and in that one a value is too long. -/
def BatchStopsTooLong (host : Host σ) (c : Connection) (w : World σ) (o : ExecuteOptions)
    (outs : List (List Descriptor)) (response : BatchResponse) : Prop :=
  response.rowsAffected.length = outs.length ∧ response.outBinds.length = outs.length ∧
    ∃ front row wires back held c' w',
      outs.zip response.outBinds = front ++ (row, wires) :: back ∧
        decodeBatch o [] front host c w = (.done held, c', w') ∧ StopsTooLong host c' w' o row wires

/-- A row in which a value is too long has an output. -/
theorem StopsTooLong.has_output {outs : List Descriptor} {wires : List WireValue}
    (stops : StopsTooLong host c w o outs wires) : outs ≠ [] := by
  obtain ⟨-, front, d, wire, back, held, c', w', split, -⟩ := stops
  rintro rfl
  simp at split

theorem receiveBatch_tooLong (answered : ∀ c s, c.Closes → (host.answer c s).wait ≠ none)
    {outs : List (List Descriptor)} {response : BatchResponse}
    (stops : BatchStopsTooLong host c w o outs response) :
    ∃ c' w', receiveBatch outs response o host c w = (.failed .outBufferTooSmall, c', w') := by
  obtain ⟨counted, reported, front, row, wires, back, held, c₁, w₁, split, run, long⟩ := stops
  -- The row that fails has an output, so there had to be a list for each row.
  have mem : row ∈ outs := by
    have pair : (row, wires) ∈ outs.zip response.outBinds := by simp [split]
    exact (List.of_mem_zip pair).1
  have some : outs.any (!·.isEmpty) = true :=
    List.any_eq_true.2 ⟨row, mem, by simpa using long.has_output⟩
  obtain ⟨c₂, w₂, failed⟩ := decodeBatch_tooLong answered back run long
  refine ⟨c₂, w₂, ?_⟩
  simp only [receiveBatch, counted, some, reported, if_true, ne_eq, not_true, if_false]
  rw [split]
  exact bind_of_failed failed _

/-! ## A session that reports output values -/

/-- A session that reports output values, with a text behind every object. What is closed, is
closed. -/
def reporting (content : String) (wires : List WireValue) : Host Unit where
  answer
    | .execute _, _ => ⟨(), some ⟨0⟩, [], [], (), .ok { outBinds := wires }⟩
    | .executeMany _, _ => ⟨(), some ⟨0⟩, [], [], (), .ok ⟨[1], [wires]⟩⟩
    | .readLob _ offset amount, _ =>
      ⟨(), some ⟨0⟩, [], [], (), .ok (((LobData.text content).drop (offset - 1)).take amount)⟩
    | .closeLob _, _ => ⟨(), some ⟨0⟩, [], [], (), .ok ()⟩
    | .closeCursor _, _ => ⟨(), some ⟨0⟩, [], [], (), .ok ()⟩
    | _, _ => ⟨(), some ⟨0⟩, [], [], (), .error .connectionClosed⟩
  patience := 9

theorem reporting_answered (content : String) (wires : List WireValue) (c : Call) (s : Unit) :
    ((reporting content wires).answer c s).wait ≠ none := by
  cases c <;> nofun

/-- Texts among the values of output binds. -/
def textsOf (bs : List OutBind) : List (Option String) :=
  bs.map fun b => b.value.value?.bind Value.text?

/-- One output bind, with a value that is too long. -/
def onlyTooLong : List Descriptor → List WireValue → Bool
  | [d], [wire] => d.promotedFrom.isNone && d.dbType.isVariableLength &&
    decide (d.maxSize < wire.bufferLength)
  | _, _ => false

theorem onlyTooLong_stops {outs : List Descriptor} {wires : List WireValue}
    (h : onlyTooLong outs wires = true) : StopsTooLong host c w o outs wires := by
  unfold onlyTooLong at h
  split at h
  · next d wire =>
    simp only [Bool.and_eq_true, Option.isNone_iff_eq_none, decide_eq_true_eq] at h
    exact ⟨rfl, [], d, wire, [], [], c, w, rfl, rfl, .single h.1.1 h.1.2 h.2⟩
  · cases h

/-- The same in a batch of one row. -/
def onlyRowTooLong : List (List Descriptor) → List (List WireValue) → Bool
  | [row], [wires] => onlyTooLong row wires
  | _, _ => false

theorem onlyRowTooLong_stops {outs : List (List Descriptor)} {response : BatchResponse}
    (counted : response.rowsAffected.length = 1)
    (h : onlyRowTooLong outs response.outBinds = true) :
    BatchStopsTooLong host c w o outs response := by
  obtain ⟨counts, lists⟩ := response
  dsimp only at h
  unfold onlyRowTooLong at h
  split at h
  · next row wires =>
    exact ⟨counted, rfl, [], row, wires, [], [], c, w, rfl, rfl, onlyTooLong_stops h⟩
  · cases h

/-- Outputs of three and of five characters. -/
def sizedOutputs : Binds :=
  .named [("a", .spec { direction := some .output, maxSize := some 3 }),
    ("b", .spec { direction := some .output, maxSize := some 5 })]

/-- The second of them is too long for a block. -/
def shortStrings : ExecuteOptions := { bind := { blockStringLimit := 4 } }

/-- A text, and an object whose content comes in pieces. -/
def textAndObject : List WireValue := [.text "abc", .lob ⟨[1], .clob, 5, 2, true⟩]

/-- An output of three characters. -/
def threeCharacters : Binds :=
  .positional [.spec { direction := some .output, maxSize := some 3 }]

/-- A session that reports four of them. -/
def fourReported : Host Unit := reporting "" [.text "abcd"]

theorem four_stop_send :
    ∃ outs response c' w', send "begin f(:a); end;" threeCharacters {} fourReported first
        (opened ()) = (.done (outs, response), c', w') ∧
      StopsTooLong fourReported c' w' {} outs response.outBinds := by
  have sent : donePassing (fun sent => onlyTooLong sent.1 sent.2.outBinds)
      (send "begin f(:a); end;" threeCharacters {} fourReported first (opened ())) = true := by
    decide +kernel
  obtain ⟨⟨outs, response⟩, c', w', run, exceeds⟩ := donePassing_iff.1 sent
  exact ⟨outs, response, c', w', run, onlyTooLong_stops exceeds⟩

theorem four_stop_sendBatch :
    ∃ outs response c' w', sendBatch "begin f(:a); end;" [threeCharacters] {} fourReported first
        (opened ()) = (.done (outs, response), c', w') ∧
      BatchStopsTooLong fourReported c' w' {} outs response := by
  have sent : donePassing (fun sent => sent.2.rowsAffected.length == 1 &&
        onlyRowTooLong sent.1 sent.2.outBinds)
      (sendBatch "begin f(:a); end;" [threeCharacters] {} fourReported first (opened ())) =
        true := by
    decide +kernel
  obtain ⟨⟨outs, response⟩, c', w', run, exceeds⟩ := donePassing_iff.1 sent
  rw [Bool.and_eq_true, beq_iff_eq] at exceeds
  exact ⟨outs, response, c', w', run, onlyRowTooLong_stops exceeds.1 exceeds.2⟩

/-! ## Calls as a whole -/

/-- The output binds of a call that is done are those of its statement, in placeholder order,
each for the value reported in its place and none longer than its buffer. A call whose response
holds a value that is too long fails for that, once what was opened can be closed again. -/
theorem outBinds_keep_buffers (host : Host σ) (c : Connection) (w : World σ) (sql : String)
    (o : ExecuteOptions) :
    (∀ binds r c' w', execute sql binds o host c w = (.done r, c', w') →
      ∃ ds new request response, resolve (Statement.scan sql) binds o.bind = .ok ds ∧
        w'.exchanges = w.exchanges ++ new ∧ ⟨.execute request, .done response⟩ ∈ new ∧
        Returned new o.convert (outputs ds) response.outBinds r.outBinds) ∧
    (∀ rows r c' w', executeMany sql rows o host c w = (.done r, c', w') →
      ∃ dss new request response,
        rows.mapM (resolve (Statement.scan sql) · o.bind) = .ok dss ∧
        w'.exchanges = w.exchanges ++ new ∧ ⟨.executeMany request, .done response⟩ ∈ new ∧
        BatchReturned new o.convert (dss.map outputs) response r) ∧
    ((∀ c s, c.Closes → (host.answer c s).wait ≠ none) →
      (∀ binds outs response c' w',
        send sql binds o host c w = (.done (outs, response), c', w') →
        StopsTooLong host c' w' o outs response.outBinds →
        ∃ c' w', execute sql binds o host c w = (.failed .outBufferTooSmall, c', w')) ∧
      ∀ rows outs response c' w',
        sendBatch sql rows o host c w = (.done (outs, response), c', w') →
        BatchStopsTooLong host c' w' o outs response →
        ∃ c' w', executeMany sql rows o host c w = (.failed .outBufferTooSmall, c', w')) := by
  refine ⟨fun binds r c' w' run => execute_returned run,
    fun rows r c' w' run => executeMany_returned run, fun answered => ⟨?_, ?_⟩⟩
  · intro binds outs response c' w' sent stops
    rw [execute, bind_of_done sent]
    exact receive_tooLong answered stops
  · intro rows outs response c' w' sent stops
    rw [executeMany, bind_of_done sent]
    exact receiveBatch_tooLong answered stops

/-- A text in its buffer and content of an object come back whole. A fourth character does not
fit into three. -/
theorem text_and_object_fit :
    (∃ r c' w' ds new request response,
      execute "begin f(:a, :b); end;" sizedOutputs shortStrings (reporting "hello" textAndObject)
        first (opened ()) = (.done r, c', w') ∧
      textsOf r.outBinds = [some "abc", some "hello"] ∧
      w'.exchanges = (opened ()).exchanges ++ new ∧
      ⟨.execute request, .done response⟩ ∈ new ∧
      Returned new {} (outputs ds) response.outBinds r.outBinds) ∧
    (∃ r c' w' new response, ∃ dss : List (List Descriptor),
      executeMany "begin f(:a, :b); end;" [sizedOutputs] shortStrings
        (reporting "hello" textAndObject) first (opened ()) = (.done r, c', w') ∧
      r.outBinds.map textsOf = [[some "abc", some "hello"]] ∧
      BatchReturned new {} (dss.map outputs) response r) ∧
    (∃ c' w', execute "begin f(:a); end;" threeCharacters {} fourReported first (opened ()) =
      (.failed .outBufferTooSmall, c', w')) ∧
    ∃ c' w', executeMany "begin f(:a); end;" [threeCharacters] {} fourReported first (opened ()) =
      (.failed .outBufferTooSmall, c', w') := by
  have short := outBinds_keep_buffers (reporting "hello" textAndObject) first (opened ())
    "begin f(:a, :b); end;" shortStrings
  have one : donePassing (fun r => textsOf r.outBinds == [some "abc", some "hello"])
      (execute "begin f(:a, :b); end;" sizedOutputs shortStrings
        (reporting "hello" textAndObject) first (opened ())) = true := by
    decide +kernel
  have many : donePassing (fun r => r.outBinds.map textsOf == [[some "abc", some "hello"]])
      (executeMany "begin f(:a, :b); end;" [sizedOutputs] shortStrings
        (reporting "hello" textAndObject) first (opened ())) = true := by
    decide +kernel
  obtain ⟨r, c', w', run, texts⟩ := donePassing_iff.1 one
  obtain ⟨r₁, c₁, w₁, run₁, texts₁⟩ := donePassing_iff.1 many
  obtain ⟨ds, new, request, response, -, added, among, returned⟩ := short.1 _ _ _ _ run
  obtain ⟨dss, new₁, request₁, response₁, -, -, -, returned₁⟩ := short.2.1 _ _ _ _ run₁
  have long := (outBinds_keep_buffers fourReported first (opened ()) "begin f(:a); end;" {}).2.2
    fun c s _ => reporting_answered _ _ c s
  obtain ⟨outs, answer, c₂, w₂, sent, stops⟩ := four_stop_send
  obtain ⟨rows, answers, c₃, w₃, sentMany, stopsMany⟩ := four_stop_sendBatch
  exact ⟨⟨r, c', w', ds, new, request, response, run, by simpa using texts, added, among,
    returned⟩, ⟨r₁, c₁, w₁, new₁, response₁, dss, run₁, by simpa using texts₁, returned₁⟩,
    long.1 _ _ _ _ _ sent stops, long.2 _ _ _ _ _ sentMany stopsMany⟩

end SqlBinder.Connection

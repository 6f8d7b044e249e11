import SqlBinder.Proofs.Connection.Executions
import SqlBinder.Session.Memory

/-!
What an execution leaves open. When it fails with a response in hand, each cursor among the
outputs is closed once, but for those that nobody held: the cursor at which decoding stopped,
and in a batch those that decoding did not reach. A temporary object is given back once, but
for one whose content could not be moved.
-/
namespace SqlBinder

open Operation Binding

variable {σ : Type} {host : Host σ} {c c' : Connection} {w w' : World σ}

/-! ## Runs over a store -/

/-- The exchange is an execution that came back with such a response. -/
def Exchange.executed (p : ExecuteResponse → Bool) : Exchange → Bool
  | ⟨.execute _, .done response⟩ => p response
  | _ => false

theorem Exchange.executed_any {p : ExecuteResponse → Bool} {xs : List Exchange}
    (h : xs.any (executed p) = true) :
    ∃ request response, ⟨.execute request, .done response⟩ ∈ xs ∧ p response = true := by
  obtain ⟨x, mem, holds⟩ := List.any_eq_true.1 h
  unfold executed at holds
  split at holds
  · next request response => exact ⟨request, response, mem, holds⟩
  · cases holds

/-- The exchange is a batch that came back with such a response. -/
def Exchange.executedMany (p : BatchResponse → Bool) : Exchange → Bool
  | ⟨.executeMany _, .done response⟩ => p response
  | _ => false

theorem Exchange.executedMany_any {p : BatchResponse → Bool} {xs : List Exchange}
    (h : xs.any (executedMany p) = true) :
    ∃ request response, ⟨.executeMany request, .done response⟩ ∈ xs ∧ p response = true := by
  obtain ⟨x, mem, holds⟩ := List.any_eq_true.1 h
  unfold executedMany at holds
  split at holds
  · next request response => exact ⟨request, response, mem, holds⟩
  · cases holds

/-- The run failed and left such exchanges behind. -/
def failedLeaving {α : Type} (p : List Exchange → Bool) :
    Outcome α × Connection × World σ → Bool
  | (.failed _, _, w) => p w.exchanges
  | _ => false

theorem failedLeaving_iff {α : Type} {p : List Exchange → Bool}
    {run : Outcome α × Connection × World σ} :
    failedLeaving p run = true ↔
      ∃ e c' w', run = (.failed e, c', w') ∧ p w'.exchanges = true := by
  obtain ⟨_ | _ | _, c', w'⟩ := run <;> simp [failedLeaving]

/-- A store fires no signals. -/
theorem Memory.Store.answer_silent (call : Call) (store : Memory.Store) :
    (store.answer call).during = [] ∧ (store.answer call).after = [] := by
  unfold answer
  dsimp only
  split
  · exact ⟨rfl, rfl⟩
  · exact ⟨rfl, rfl⟩
  · exact ⟨rfl, rfl⟩
  · exact ⟨rfl, rfl⟩
  · cases call <;> exact ⟨rfl, rfl⟩
  · cases call <;> exact ⟨rfl, rfl⟩

namespace Connection

/-- The first connection over a store is nobody else's. -/
theorem exclusive_opened (store : Memory.Store) (patience : Nat) :
    Exclusive first (Memory.Store.host patience) (opened store) where
  isOpen := rfl
  made := Nat.zero_lt_one
  fired_lt := fun x hx => by cases hx
  armed := fun x hx => by cases hx
  answers := fun call session x hx => by
    obtain ⟨during, after⟩ := Memory.Store.answer_silent call session
    simp [Memory.Store.host, during, after] at hx

/-- A cursor with one column. -/
def cursorWire (id : Nat) (typeNumber : UInt8) : WireValue :=
  .cursor ⟨id, [⟨"N", typeNumber, 0, 0, 0, 0, true⟩]⟩

/-- Outputs for cursors. -/
def cursorOutputs (names : List String) : Binds :=
  .named (names.map fun name =>
    (name, .spec { direction := some .output, dbType := some .cursor }))

/-- A store whose next execution hands out cursors. -/
def handingOut (wires : List WireValue) : Memory.Store :=
  { Memory.Store.empty 4 with execute := [{ outBinds := wires }] }

/-- A store whose next batch hands out cursors. -/
def handingOutBatch (rowsAffected : List Nat) (wires : List (List WireValue)) : Memory.Store :=
  { Memory.Store.empty 4 with executeMany := [⟨rowsAffected, wires⟩] }

/-- Content for an object. -/
def clobContent : Binds :=
  .named
    [("c", .spec
      { direction := some .input, dbType := some .clob, value := some (.string "hello") })]

/-- A store in which the first call of a method fails. -/
def failing (method : Memory.Method) (e : Error) : Memory.Store :=
  { Memory.Store.empty 4 with faults := [⟨method, 1, .fails e⟩] }

/-! ## Cursors of single executions -/

/-- Of cursors that were closed or left out once each, those are closed that were not left
out. -/
theorem count_closed {closed left all : List Nat} (perm : (closed ++ left).Perm all)
    (distinct : all.Nodup) {id : Nat} (mem : id ∈ all) :
    closed.count id = if id ∈ left then 0 else 1 := by
  have once : closed.count id + left.count id = 1 := by
    rw [← List.count_append, perm.count_eq, distinct.count, if_pos mem]
  -- A cursor that was left out was not closed, and the other way round.
  by_cases out : id ∈ left
  · have some : 0 < left.count id := List.count_pos_iff.2 out
    rw [if_pos out]
    omega
  · rw [List.count_eq_zero.2 out] at once
    rw [if_neg out]
    omega

/-- Decoding stops at a cursor only if it came for another slot than one for cursors, or if its
columns cannot be described. -/
theorem unheld?_cursor {sql : String} {binds : Binds} {o : ExecuteOptions} {l : CursorLocator}
    (exclusive : Exclusive c host w) (real : l.id ≠ 0)
    (stop : unheld? host sql binds o c w = some (.cursor l)) :
    ∃ outputs response c₁ w₁ d,
      send sql binds o host c w = (.done (outputs, response), c₁, w₁) ∧
        (d, .cursor l) ∈ outputs.zip response.outBinds ∧
          (d.dbType ≠ .cursor ∨ ∃ e, Columns.ofMetadata l.columns = .error e) := by
  unfold unheld? at stop
  split at stop
  · next outputs response c₁ w₁ sent =>
    have ends : Ends exclusive.scene [] _ c w _ := send_ends sql binds o rfl
    obtain ⟨own, new, -, calm, same, -⟩ := ends.done exclusive.calm sent
    unfold stopsAt? at stop
    split at stop
    · obtain ⟨d, mem, refused⟩ :=
        stop?_cursor (s := exclusive.scene) o _ same calm real stop
      exact ⟨outputs, response, c₁, w₁, d, sent, mem, refused⟩
    · cases stop
  · cases stop

/-- A failed execution has closed each cursor among its outputs once, except for the one at
which decoding stopped; that one came for a slot that is none for cursors, or its columns cannot be
described. -/
theorem failed_execute_closes_cursors {sql : String} {binds : Binds} {o : ExecuteOptions}
    {e : Error} (exclusive : Exclusive c host w)
    (run : execute sql binds o host c w = (.failed e, c', w')) :
    ∃ new, w'.exchanges = w.exchanges ++ new ∧
      (∀ request response, ⟨.execute request, .done response⟩ ∈ new →
        (cursorIds response.outBinds ++ realCursor response.cursorId).Nodup →
          ∀ id ∈ cursorIds response.outBinds, (closedCursors new).count id =
            if id ∈ cursorIds (unheld? host sql binds o c w).toList then 0 else 1) ∧
      ∀ l, unheld? host sql binds o c w = some (.cursor l) → l.id ≠ 0 →
        ∃ outputs response c₁ w₁ d,
          send sql binds o host c w = (.done (outputs, response), c₁, w₁) ∧
            (d, .cursor l) ∈ outputs.zip response.outBinds ∧
              (d.dbType ≠ .cursor ∨ ∃ e, Columns.ofMetadata l.columns = .error e) := by
  have ends : Ends exclusive.scene [] _ c w _ := execute_ends sql binds o rfl
  obtain ⟨_, new, added, -, -, executed⟩ := ends.failed exclusive.calm run
  refine ⟨new, added, fun request response mem distinct id hid => ?_,
    fun l stop real => unheld?_cursor exclusive real stop⟩
  have perm := executed.cursors request response mem e rfl
  exact count_closed perm distinct (List.mem_append_left _ hid)

/-- The second cursor has a column of a type that there is not. The first is closed once. -/
theorem cursor_before_failure_closed :
    ∃ e c' w', execute "begin p(:a, :b); end;" (cursorOutputs ["a", "b"]) {}
        (Memory.Store.host 9) first (opened (handingOut [cursorWire 5 2, cursorWire 6 255])) =
          (.failed e, c', w') ∧
      (closedCursors w'.exchanges).count 5 = 1 := by
  have evaluated : failedLeaving (fun xs => xs.any (Exchange.executed fun response =>
        cursorIds response.outBinds ++ realCursor response.cursorId == [5, 6] &&
          cursorIds response.outBinds == [5, 6]))
      (execute "begin p(:a, :b); end;" (cursorOutputs ["a", "b"]) {} (Memory.Store.host 9) first
        (opened (handingOut [cursorWire 5 2, cursorWire 6 255]))) = true := by
    decide +kernel
  have held : 5 ∉ cursorIds (unheld? (Memory.Store.host 9) "begin p(:a, :b); end;"
      (cursorOutputs ["a", "b"]) {} first
      (opened (handingOut [cursorWire 5 2, cursorWire 6 255]))).toList := by
    decide +kernel
  obtain ⟨e, c', w', run, returned⟩ := failedLeaving_iff.1 evaluated
  refine ⟨e, c', w', run, ?_⟩
  obtain ⟨request, response, mem, ids⟩ := Exchange.executed_any returned
  simp only [Bool.and_eq_true, beq_iff_eq] at ids
  obtain ⟨new, added, closes, -⟩ := failed_execute_closes_cursors (exclusive_opened _ 9) run
  obtain rfl : w'.exchanges = new := added
  have once := closes request response mem (by rw [ids.1]; decide) 5 (by rw [ids.2]; decide)
  rwa [if_neg held] at once

/-- A cursor that cannot be described stays open. -/
theorem undescribed_cursor_stays_open :
    ∃ e c' w', execute "begin open :rc for select n from t; end;" (cursorOutputs ["rc"]) {}
        (Memory.Store.host 9) first (opened (handingOut [cursorWire 5 255])) =
          (.failed e, c', w') ∧
      (∃ request response, ⟨.execute request, .done response⟩ ∈ w'.exchanges ∧
        cursorIds response.outBinds = [5] ∧ response.cursorId = 0) ∧
      closedCursors w'.exchanges = [] := by
  have evaluated : failedLeaving (fun xs => xs.any (Exchange.executed fun response =>
        cursorIds response.outBinds == [5] && response.cursorId == 0) && closedCursors xs == [])
      (execute "begin open :rc for select n from t; end;" (cursorOutputs ["rc"]) {}
        (Memory.Store.host 9) first (opened (handingOut [cursorWire 5 255]))) = true := by
    decide +kernel
  obtain ⟨e, c', w', run, found⟩ := failedLeaving_iff.1 evaluated
  rw [Bool.and_eq_true] at found
  obtain ⟨returned, unclosed⟩ := found
  obtain ⟨request, response, mem, ids⟩ := Exchange.executed_any returned
  simp only [Bool.and_eq_true, beq_iff_eq] at ids
  exact ⟨e, c', w', run, ⟨request, response, mem, ids⟩, by simpa using unclosed⟩

/-! ## Cursors of batches -/

/-- A failed batch has closed each cursor among its outputs once, except for those that nobody
held. -/
theorem failed_executeMany_closes_cursors {sql : String} {rows : List Binds} {o : ExecuteOptions}
    {e : Error} (exclusive : Exclusive c host w)
    (run : executeMany sql rows o host c w = (.failed e, c', w')) :
    ∃ new, w'.exchanges = w.exchanges ++ new ∧
      ∀ request response, ⟨.executeMany request, .done response⟩ ∈ new →
        (response.outBinds.flatMap cursorIds).Nodup →
          ∀ id ∈ response.outBinds.flatMap cursorIds, (closedCursors new).count id =
            if id ∈ unheldInBatch host sql rows o c w then 0 else 1 := by
  have ends : Ends exclusive.scene [] _ c w _ := executeMany_ends sql rows o rfl
  obtain ⟨_, new, added, -, -, closed⟩ := ends.failed exclusive.calm run
  refine ⟨new, added, fun request response mem distinct id hid => ?_⟩
  exact count_closed (closed request response mem e rfl) distinct hid

/-- The cursor of the second execution cannot be described. That of the first is closed once. -/
theorem cursor_of_earlier_row_closed :
    ∃ e c' w', executeMany "begin p(:a); end;" [cursorOutputs ["a"], cursorOutputs ["a"]] {}
        (Memory.Store.host 9) first
        (opened (handingOutBatch [1, 1] [[cursorWire 5 2], [cursorWire 6 255]])) =
          (.failed e, c', w') ∧
      (closedCursors w'.exchanges).count 5 = 1 := by
  have evaluated : failedLeaving (fun xs => xs.any (Exchange.executedMany fun response =>
        response.outBinds.flatMap cursorIds == [5, 6]))
      (executeMany "begin p(:a); end;" [cursorOutputs ["a"], cursorOutputs ["a"]] {}
        (Memory.Store.host 9) first
        (opened (handingOutBatch [1, 1] [[cursorWire 5 2], [cursorWire 6 255]]))) = true := by
    decide +kernel
  have held : 5 ∉ unheldInBatch (Memory.Store.host 9) "begin p(:a); end;"
      [cursorOutputs ["a"], cursorOutputs ["a"]] {} first
      (opened (handingOutBatch [1, 1] [[cursorWire 5 2], [cursorWire 6 255]])) := by
    decide +kernel
  obtain ⟨e, c', w', run, returned⟩ := failedLeaving_iff.1 evaluated
  refine ⟨e, c', w', run, ?_⟩
  obtain ⟨request, response, mem, ids⟩ := Exchange.executedMany_any returned
  rw [beq_iff_eq] at ids
  obtain ⟨new, added, closes⟩ := failed_executeMany_closes_cursors (exclusive_opened _ 9) run
  obtain rfl : w'.exchanges = new := added
  have once := closes request response mem (by rw [ids]; decide) 5 (by rw [ids]; decide)
  rwa [if_neg held] at once

/-- When row counts are missing, cursors stay open that could be opened. -/
theorem uncounted_cursor_stays_open :
    ∃ e c' w', executeMany "begin open :rc for select n from t; end;" [cursorOutputs ["rc"]] {}
        (Memory.Store.host 9) first (opened (handingOutBatch [] [[cursorWire 5 2]])) =
          (.failed e, c', w') ∧
      (∃ request response, ⟨.executeMany request, .done response⟩ ∈ w'.exchanges ∧
        response.outBinds.flatMap cursorIds = [5]) ∧
      closedCursors w'.exchanges = [] := by
  have evaluated : failedLeaving (fun xs => xs.any (Exchange.executedMany fun response =>
        response.outBinds.flatMap cursorIds == [5]) && closedCursors xs == [])
      (executeMany "begin open :rc for select n from t; end;" [cursorOutputs ["rc"]] {}
        (Memory.Store.host 9) first (opened (handingOutBatch [] [[cursorWire 5 2]]))) = true := by
    decide +kernel
  obtain ⟨e, c', w', run, found⟩ := failedLeaving_iff.1 evaluated
  rw [Bool.and_eq_true] at found
  obtain ⟨returned, unclosed⟩ := found
  obtain ⟨request, response, mem, ids⟩ := Exchange.executedMany_any returned
  exact ⟨e, c', w', run, ⟨request, response, mem, by simpa using ids⟩, by simpa using unclosed⟩

/-! ## Temporary objects -/

/-- An execution that ends has given back once each object that it made, and each temporary one
that it read in place, except for those whose content could not be moved. -/
theorem execute_gives_back {sql : String} {binds : Binds} {o : ExecuteOptions}
    {r : Except Error ExecuteResult} (exclusive : Exclusive c host w)
    (run : (execute sql binds o).attempt host c w = (.done r, c', w')) :
    ∃ new, w'.exchanges = w.exchanges ++ new ∧
      ∀ b ∈ takenLobs new, (handedLobs new).count b = 1 →
        (closedLobs new).count b = if b ∈ brokenLobs new then 0 else 1 := by
  have ends : Ends exclusive.scene [] _ c w _ := execute_ends sql binds o rfl
  obtain ⟨_, new, added, -, -, executed⟩ := ends r c' w' exclusive.calm run
  refine ⟨new, added, fun b taken once => ?_⟩
  rcases (executed.lobs b).2 once with idle | settled
  · exact absurd taken idle.taken
  · exact settled

/-- The object that was made for an execution that fails is given back once. -/
theorem temporary_of_failed_execution_closed :
    ∃ e c' w', execute "insert into t values (:c)" clobContent {} (Memory.Store.host 9) first
        (opened (failing .execute .connectionClosed)) = (.failed e, c', w') ∧
      (closedLobs w'.exchanges).count [0, 0, 3, 233] = 1 := by
  have evaluated : failedLeaving (fun xs => takenLobs xs == [[0, 0, 3, 233]] &&
        handedLobs xs == [[0, 0, 3, 233]] && brokenLobs xs == [])
      (execute "insert into t values (:c)" clobContent {} (Memory.Store.host 9) first
        (opened (failing .execute .connectionClosed))) = true := by
    decide +kernel
  obtain ⟨e, c', w', run, found⟩ := failedLeaving_iff.1 evaluated
  simp only [Bool.and_eq_true, beq_iff_eq] at found
  obtain ⟨⟨taken, handed⟩, unbroken⟩ := found
  refine ⟨e, c', w', run, ?_⟩
  obtain ⟨new, added, givesBack⟩ :=
    execute_gives_back (exclusive_opened _ 9) (attempt_of_failed run)
  obtain rfl : w'.exchanges = new := added
  have once := givesBack [0, 0, 3, 233] (by rw [taken]; decide) (by rw [handed]; decide)
  rwa [unbroken, if_neg List.not_mem_nil] at once

/-- The object stays when its content cannot be written. -/
theorem unwritten_temporary_stays :
    ∃ e c' w', execute "insert into t values (:c)" clobContent {} (Memory.Store.host 9) first
        (opened (failing .writeLob (.stream "connection reset"))) = (.failed e, c', w') ∧
      takenLobs w'.exchanges = [[0, 0, 3, 233]] ∧ handedLobs w'.exchanges = [[0, 0, 3, 233]] ∧
        closedLobs w'.exchanges = [] := by
  have evaluated : failedLeaving (fun xs => takenLobs xs == [[0, 0, 3, 233]] &&
        handedLobs xs == [[0, 0, 3, 233]] && closedLobs xs == [])
      (execute "insert into t values (:c)" clobContent {} (Memory.Store.host 9) first
        (opened (failing .writeLob (.stream "connection reset")))) = true := by
    decide +kernel
  obtain ⟨e, c', w', run, found⟩ := failedLeaving_iff.1 evaluated
  simp only [Bool.and_eq_true, beq_iff_eq] at found
  exact ⟨e, c', w', run, found.1.1, found.1.2, found.2⟩

end Connection

end SqlBinder

import SqlBinder.Proofs.ResultSet.Settling

/-!
Cancelling a handle, or its connection, in the middle of an operation. Main statement: before an
answer, or together with it, the cancellation wins; behind it the operation goes on to its next look
at the signals, and there it ends in the same way, with the cursor that it held given back unless
the connection is gone.

The operations are taken one by one where they are defined: those on large objects look at their
signals with each round trip, those on result sets with each row besides. Here they are put side by
side, with the places at which each of them looks. What is worked on when the cancellation comes may
be a row that reads content in place; it is decoded to its end, and the next row is not begun.
-/
namespace SqlBinder

variable {σ : Type}

open Interruption

/-- An operation on a handle that is cancelled at one of its calls. If the signals fire before the
answer to a guarded round trip or together with it, the operation fails with their error, whatever
the answer is, and asks for nothing more than to give the cursor back that a result set holds while
it is connected. If they fire right behind an answer, or while a call without a guard is waited for,
the operation goes on as if nothing had happened up to its next look at them, where it ends in the
same way, or to its end. It looks at them when the next guarded round trip begins, and besides
behind the one answer of `length`, `readChunk` and `trim`, behind the answer to a fetch, and when
another one of several rows begins. -/
theorem cancelled_operations_settle (i : Interruption σ) :
    (i.closed = .lobClosed →
      (∀ lob : Lob, lob.guards = i.guards →
        i.Settles Lob.OnAnyAnswer [] Lob.length lob ∧
        i.Settles Lob.OnAnyAnswer [] Lob.readChunk lob ∧
        i.Settles (fun _ _ => False) [] Lob.getData lob ∧
        ∀ size, i.Settles Lob.OnAnyAnswer [] (Lob.trim size) lob) ∧
      ∀ wtr : LobWriter, wtr.lob.guards = i.guards →
        (∀ data, i.Settles (fun _ _ => False) [] (LobWriter.write data) wtr) ∧
        i.Settles (fun _ _ => False) [] LobWriter.finish wtr) ∧
    (i.closed = .invalidResultSet → ∀ rs : ResultSet, rs.guards = i.guards →
      i.Settles (OnAnswer Call.FetchesRows) rs.holds ResultSet.getRow rs ∧
      ∀ limit, i.Settles
        (fun w made => OnAnswer Call.FetchesRows w made ∨ ResultSet.OnNextRow i limit rs w made)
        rs.holds (ResultSet.getRows limit) rs) := by
  refine ⟨fun closed => ⟨fun lob under => ⟨?_, ?_, ?_, fun size => ?_⟩, fun wtr under =>
    ⟨fun data => ?_, ?_⟩⟩, fun closed rs guards => ⟨?_, fun limit => ?_⟩⟩
  · exact .of_interruptible (Lob.length_interruptible closed under) fun _ _ some => by simp [some]
  · exact .of_interruptible (Lob.readChunk_interruptible closed under) fun _ _ some => by
      simp [some]
  · exact .of_interruptible (Lob.getData_interruptible closed under) fun _ _ some => by simp [some]
  · exact .of_interruptible (Lob.trim_interruptible closed under size) fun _ _ some => by
      simp [some]
  · obtain ⟨looks, interruptible, unlooked⟩ := LobWriter.write_interruptible closed under data
    exact .of_interruptible interruptible fun w c some =>
      ⟨False.elim, fun here => some (unlooked w c here)⟩
  · exact .of_interruptible (LobWriter.finish_deaf closed under) fun _ _ _ => Iff.rfl
  · exact ResultSet.getRow_settles closed guards
  · exact ResultSet.getRows_settles closed guards limit

/-! ## A row with content in place -/

/-- A session with an object of one byte. -/
def oneByteHost : Host Unit where
  answer c _ := ⟨(), some ⟨0⟩, [], [], (), match c with
    | .readLob _ 1 _ => .ok (.bytes [7])
    | .readLob _ _ _ => .ok (.bytes [])
    | .closeLob _ | .closeCursor _ => .ok ()
    | _ => .error .invalidLob⟩
  patience := 9

/-- The handle is cancelled at the second call, with which the end of the content is read. -/
def secondRead (closed : Error) : Interruption Unit where
  host := oneByteHost
  guards := ⟨⟨1⟩, ⟨0⟩⟩
  closed := closed
  signals := [⟨1⟩]
  place := 1
  apart := by decide
  heeded := .inl (List.mem_singleton.2 rfl)

/-- An object of one byte, made for the session. -/
def oneByte : LobLocator := ⟨[1], .blob, 1, 1, true⟩

/-- One column of large objects. -/
def blobColumns : Columns := ⟨[⟨"B", .blob, true, 0, 0, 0⟩]⟩

/-- A result set with two rows, of which the first has its content read in place. -/
def blobRows : ResultSet where
  cursor := some ⟨7, blobColumns, [[.lob oneByte], [.null]], false, 2⟩
  guards := ⟨⟨1⟩, ⟨0⟩⟩
  convert := { fetchAsBytes := [.blob] }
  fetchSize := 1
  fetched := false

theorem undisturbed_secondRead (closed : Error) :
    Undisturbed (secondRead closed).calm (secondRead closed).guards (World.start ((), 0)) where
  answers _ _ _ mem := by cases mem
  armed _ mem := by cases mem
  own := rfl
  connection := rfl

/-- Cancelled while the end of the content is read, in a handle of the object and in a row. Behind
the answer the handle has its content. -/
theorem second_read_cancelled :
    (∃ run, (∀ host, (secondRead .lobClosed).Early host →
        Lob.getData host (Lob.make oneByte ⟨1⟩ ⟨0⟩) (World.start ((), 0)) = run) ∧
      run.1 = .failed .lobClosed ∧
      run.2.2.calls = [.readLob oneByte 1 1, .readLob oneByte 2 1]) ∧
    (∀ host, (secondRead .lobClosed).Late host →
      (Lob.getData host (Lob.make oneByte ⟨1⟩ ⟨0⟩) (World.start ((), 0))).1 =
        .done (.bytes [7])) ∧
    ∃ run, (∀ host, (secondRead .invalidResultSet).Early host →
        ResultSet.getRows 0 host blobRows (World.start ((), 0)) = run) ∧
      run.1 = .failed .invalidResultSet ∧
      run.2.2.calls = [.readLob oneByte 1 1, .readLob oneByte 2 1, .closeCursor 7] := by
  obtain ⟨-, -, content, -⟩ := ((cancelled_operations_settle (secondRead .lobClosed)).1 rfl).1
    (Lob.make oneByte ⟨1⟩ ⟨0⟩) rfl
  obtain ⟨new, added, settles⟩ := content _ (undisturbed_secondRead _)
  obtain rfl : [⟨.readLob oneByte 1 1, .done (.bytes [7])⟩,
      ⟨.readLob oneByte 2 1, .done (.bytes [])⟩] = new := added
  obtain ⟨before, behind⟩ := settles 1 _ rfl rfl
  refine ⟨?_, fun host late => ?_, ?_⟩
  · obtain ⟨run, same, back, exchanges, calls, ends⟩ := before id
    obtain rfl : back = [] := List.map_eq_nil_iff.1 calls
    refine ⟨run, same, ends.resolve_right ?_, by rw [World.calls, exchanges]; rfl⟩
    rintro ⟨-, x, mem, -⟩
    cases mem
  · -- No look is left, and the connection is there.
    rcases behind host late with ⟨m, look, -⟩ | ⟨-, -, ⟨outcome, -⟩ | ⟨gone, -⟩⟩
    · rcases look.here with ⟨x, there, -⟩ | ⟨-, none⟩
      · have beyond : 2 ≤ m := look.behind
        rw [List.getElem?_eq_none beyond] at there
        cases there
      · exact none.elim
    · exact outcome
    · exact absurd gone (by decide)
  · obtain ⟨-, rows⟩ := (cancelled_operations_settle (secondRead .invalidResultSet)).2 rfl
      blobRows rfl
    obtain ⟨new, added, settles⟩ := rows 0 _ (undisturbed_secondRead _)
    obtain rfl : [⟨.readLob oneByte 1 1, .done (.bytes [7])⟩,
        ⟨.readLob oneByte 2 1, .done (.bytes [])⟩, ⟨.closeLob oneByte, .done ()⟩] = new := added
    obtain ⟨run, same, back, exchanges, calls, -⟩ := (settles 1 _ rfl rfl).1 id
    refine ⟨run, same, ?_, ?_⟩
    · rw [← same _ (early_early _)]
      rfl
    · rw [World.calls, exchanges, List.map_append, calls]
      rfl

/-- Cancelled right behind the last guarded round trip, the operation does not go on to its end: the
next row, for which nothing is asked, looks at the signals again. -/
theorem next_row_looks_again :
    (secondRead .invalidResultSet).Late (secondRead .invalidResultSet).late ∧
      (ResultSet.getRows 0 (secondRead .invalidResultSet).calm blobRows (World.start ((), 0))).1 =
        .done [⟨[.bytes [7]], blobColumns⟩, ⟨[.null], blobColumns⟩] ∧
      (ResultSet.getRows 0 (secondRead .invalidResultSet).calm blobRows
          (World.start ((), 0))).2.2.calls =
        [.readLob oneByte 1 1, .readLob oneByte 2 1, .closeLob oneByte] ∧
      (ResultSet.getRows 0 (secondRead .invalidResultSet).late blobRows (World.start ((), 0))).1 =
        .failed .invalidResultSet ∧
      (ResultSet.getRows 0 (secondRead .invalidResultSet).late blobRows
          (World.start ((), 0))).2.2.calls =
        [.readLob oneByte 1 1, .readLob oneByte 2 1, .closeLob oneByte, .closeCursor 7] :=
  ⟨late_late _, rfl, rfl, rfl, rfl⟩

end SqlBinder

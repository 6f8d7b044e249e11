import SqlBinder.Proofs.Connection.Release
import SqlBinder.Proofs.Connection.Returned
import SqlBinder.Proofs.Session.Lifetimes

/-!
Lifetimes of objects within an execution. Objects made for content are written, sent and given
back; objects that came with the response are read in place and then given back, or handed
out. So long as the session hands no object out twice, nothing is done with an object behind
its end, and no handle is handed out on an object that has been given back.

The objects made for content are given back before output binds are decoded. An object that
comes back as an output is then handed out closed.
-/
namespace SqlBinder

open Operation Binding

variable {σ η : Type}

/-! ## Content that is sent -/

/-- Calls that make objects and fill them. -/
structure Made (xs : List Exchange) : Prop where
  used : usedLobs xs ⊆ handedLobs xs
  unclosed : closedLobs xs = []

namespace Made

variable {xs ys : List Exchange}

theorem nil : Made [] := ⟨by simp [usedLobs], rfl⟩

theorem append (hx : Made xs) (hy : Made ys) : Made (xs ++ ys) where
  used := by
    rw [usedLobs_append, handedLobs_append]
    exact List.append_subset.2 ⟨List.subset_append_of_subset_left _ hx.used,
      List.subset_append_of_subset_right _ hy.used⟩
  unclosed := by rw [closedLobs_append, hx.unclosed, hy.unclosed, List.append_nil]

/-- What was made is given back behind it. -/
theorem released (hx : Made xs) (unused : usedLobs ys = []) (unhanded : handedLobs ys = [])
    (closed : closedLobs ys ⊆ handedLobs xs) : Lifetimes [] [] (xs ++ ys) where
  used := by simpa [unused, unhanded] using hx.used
  closed := by simpa [unhanded, hx.unclosed] using closed
  kept := List.nil_subset _
  ends := fun b _ =>
    ⟨.using_closing (by simp [hx.unclosed]) (by simp [unused]), fun none => by cases none⟩

end Made

theorem mem_writes {l : LobLocator} {offset : Nat} {ps : List LobData} {x : Exchange}
    (mem : x ∈ writes l offset ps) : ∃ i p, x = ⟨.writeLob l i p, .done ()⟩ := by
  induction ps generalizing offset with
  | nil => cases mem
  | cons p rest ih =>
    rcases List.mem_cons.1 mem with rfl | mem
    · exact ⟨offset, p, rfl⟩
    · exact ih mem

/-- An object that is made for content is used for nothing else. -/
theorem Written.made_of {data : LobData} {l : LobLocator} {seg : List Exchange}
    (h : Written data l seg) : Made seg ∧ l.bytes ∈ handedLobs seg := by
  obtain ⟨raw, ps, -⟩ := h
  have writing : ∀ x ∈ writes raw.temporary 1 ps,
      (x.usedLob? = some raw.bytes ∧ x.closedLob? = none) ∧ x.handed = [] := by
    intro x mem
    obtain ⟨i, p, rfl⟩ := mem_writes mem
    exact ⟨⟨rfl, rfl⟩, rfl⟩
  have handed : handedLobs (writes raw.temporary 1 ps) = [] :=
    List.flatMap_eq_nil_iff.2 fun x mem => (writing x mem).2
  obtain ⟨used, unclosed⟩ := lobs_of_using fun x mem => (writing x mem).1
  have all : handedLobs (⟨.createLob data.kind, .done raw⟩ ::
      (writes raw.temporary 1 ps ++ [⟨.commitLob raw.temporary, .done ()⟩])) = [raw.bytes] := by
    rw [← List.singleton_append, handedLobs_append, handedLobs_append, handed]
    rfl
  rw [all]
  refine ⟨⟨?_, ?_⟩, List.mem_singleton.2 rfl⟩
  · rw [all, ← List.singleton_append, usedLobs_append, usedLobs_append]
    exact List.append_subset.2 ⟨List.nil_subset _, List.append_subset.2 ⟨used, fun b h => h⟩⟩
  · rw [← List.singleton_append, closedLobs_append, closedLobs_append, unclosed]
    rfl

/-! ## Content that is read in place -/

theorem mem_reads {l : LobLocator} {offset : Nat} {ps : List LobData} {x : Exchange}
    (mem : x ∈ reads l offset ps) : ∃ i p, x = ⟨.readLob l i (max l.chunkSize 1), .done p⟩ := by
  induction ps generalizing offset with
  | nil => cases mem
  | cons p rest ih =>
    rcases List.mem_cons.1 mem with rfl | mem
    · exact ⟨offset, p, rfl⟩
    · exact ih mem

/-- An object that is read in place may be given back behind the last read. -/
theorem reads_lifetimes {l : LobLocator} {offset : Nat} {ps : List LobData}
    {closing : List Exchange} (ending : closing = [] ∨ ∃ out, closing = [⟨.closeLob l, out⟩]) :
    Lifetimes [l.bytes] [] (reads l offset ps ++ closing) := by
  have reading : ∀ x ∈ reads l offset ps,
      x.usedLob? = some l.bytes ∧ x.closedLob? = none := by
    intro x mem
    obtain ⟨i, p, rfl⟩ := mem_reads mem
    exact ⟨rfl, rfl⟩
  obtain ⟨used, unclosed⟩ := lobs_of_using reading
  have unused : usedLobs closing = [] := by
    rcases ending with rfl | ⟨out, rfl⟩ <;> rfl
  have closed : closedLobs closing ⊆ [l.bytes] := by
    rcases ending with rfl | ⟨out, rfl⟩
    · exact List.nil_subset _
    · exact fun b h => h
  refine ⟨?_, ?_, List.nil_subset _, fun b _ => ⟨?_, fun none => by cases none⟩⟩
  · rw [usedLobs_append, unused, List.append_nil]
    exact List.subset_append_of_subset_left _ used
  · rw [closedLobs_append, unclosed, List.nil_append]
    exact List.subset_append_of_subset_left _ closed
  · exact .using_closing (by simp [unclosed]) (by simp [unused])

/-- What was done with objects between two moments of a run. -/
def Handled (given held : List LobKey) (w w' : World σ) : Prop :=
  ∃ new, w'.exchanges = w.exchanges ++ new ∧ Lifetimes given held new

namespace Handled

variable {given given' held held' : List LobKey} {w w₁ w' : World σ}

/-- Nothing was asked; what is kept was given. -/
theorem silent (same : w'.exchanges = w.exchanges) (sub : held ⊆ given) :
    Handled given held w w' :=
  ⟨[], by rw [same, List.append_nil], .nil sub⟩

theorem trans (h : Handled given held w w₁) (h' : Handled given' held' w₁ w') :
    Handled (given ++ given') (held ++ held') w w' := by
  obtain ⟨new, added, first⟩ := h
  obtain ⟨more, added', second⟩ := h'
  exact ⟨new ++ more, by rw [added', added, List.append_assoc], first.append second⟩

end Handled

section Reading

variable {host : Host σ} {h h' : η} {w w' : World σ} {g : Guards} {closed : Error}

/-- What can make no call asks nothing. -/
theorem exchanges_of_calls {α : Type} {t : Operation σ η α} {out : Outcome α}
    (calls : Calls (fun _ => True) (fun _ => False) t) (run : t host h w = (out, h', w')) :
    w'.exchanges = w.exchanges := by
  obtain ⟨-, -, new, added, none⟩ := calls host h w trivial
  obtain rfl : new = [] := List.eq_nil_iff_forall_not_mem.2 fun x hx => none x hx
  rwa [run, List.append_nil] at added

theorem readWhole_handled {l : LobLocator} {v : Value}
    (run : readWhole g closed l host h w = (.done v, h', w')) :
    Handled [l.bytes] [] w w' := by
  obtain ⟨data, h₁, w₁, read, ending⟩ := bind_done run
  obtain ⟨rfl, pieces, last, -, -, added, -⟩ := readPiece_rounds read
  cases temporary : l.isTemporary with
  | false =>
    simp only [temporary, Bool.false_eq_true, if_false] at ending
    cases ending
    exact ⟨_, by rw [added, List.append_nil], reads_lifetimes (.inl rfl)⟩
  | true =>
    simp only [temporary, if_true] at ending
    obtain ⟨u, h₂, w₂, closing, made⟩ := bind_done ending
    obtain ⟨out, w₃, called, recorded⟩ := call_record (.closeLob l) ⟨none, []⟩ host h₁ w₁
    rw [callFreely, called] at closing
    cases closing
    cases made
    exact ⟨_, by rw [recorded, added, List.append_assoc], reads_lifetimes (.inr ⟨_, rfl⟩)⟩

/-- A value of a row is read in place and given back, or left to the caller. -/
theorem decodeColumn_handled {o : ConvertOptions} {column : Column} {wire : WireValue} {v : Value}
    (run : decodeColumn g closed o column wire host h w = (.done v, h', w')) :
    Handled (lobKeys [wire]) [] w w' := by
  obtain ⟨u, h₁, w₁, decoding, onward⟩ := bind_done run
  obtain ⟨decoded, rfl, rfl⟩ := ofFallible_done decoding
  have silent : Handled (lobKeys [wire]) [] w₁ w₁ := .silent rfl (List.nil_subset _)
  cases DbType.decode_decoded decoded with
  | cursor l type real =>
    cases onward
    exact silent
  | lob l =>
    dsimp only at onward
    split at onward
    · exact readWhole_handled onward
    · cases onward
      exact silent
  | plain wirePlain plain =>
    cases u with
    | lob l => simp [Value.isHandle] at plain
    | _ =>
      cases onward
      exact silent

theorem decodeColumns_handled {o : ConvertOptions} {pairs : List (Column × WireValue)}
    {vs : List Value} (run : decodeColumns g closed o pairs host h w = (.done vs, h', w')) :
    Handled (lobKeys (pairs.map (·.2))) [] w w' := by
  induction pairs generalizing h w vs h' w' with
  | nil =>
    cases run
    exact .silent rfl (List.nil_subset _)
  | cons pair rest ih =>
    obtain ⟨v, h₁, w₁, one, onward⟩ := bind_done run
    obtain ⟨others, h₂, w₂, behind, made⟩ := bind_done onward
    cases made
    have all := lobKeys_append [pair.2] (rest.map (·.2))
    rw [List.map_cons, ← List.singleton_append, all]
    exact (decodeColumn_handled one).trans (ih behind)

theorem decodeRow_handled {columns : Columns} {o : ConvertOptions} {wires : List WireValue}
    {vs : List Value} (run : decodeRow g closed columns o wires host h w = (.done vs, h', w')) :
    Handled (lobKeys wires) [] w w' := by
  unfold decodeRow at run
  split at run
  · simp at run
  · next count =>
    have behind : (columns.all.zip wires).map (·.2) = wires := by
      refine List.map_snd_zip (Nat.le_of_eq ?_)
      simpa [Columns.size] using count
    have lifetimes := decodeColumns_handled run
    rwa [behind] at lifetimes

end Reading

namespace Connection

variable {host : Host σ} {c c' : Connection} {w w' : World σ} {o : ExecuteOptions}

/-! ## Rows -/

/-- Rows behind the limit are left alone. -/
theorem decodeRows_handled {g : Guards} {columns : Columns} {rows all : List Row}
    {wires : List (List WireValue)}
    (run : decodeRows g columns o rows wires host c w = (.done all, c', w')) :
    Handled (wires.flatMap lobKeys) [] w w' := by
  induction wires generalizing rows c w with
  | nil =>
    cases run
    exact .silent rfl (List.nil_subset _)
  | cons wire rest ih =>
    unfold decodeRows at run
    split at run
    · cases run
      exact .silent rfl (List.nil_subset _)
    · obtain ⟨values, c₁, w₁, one, behind⟩ := bind_done run
      exact (decodeRow_handled one).trans (ih behind)

/-- Round by round the objects that a fetch has handed out come behind those at hand. -/
theorem fetchRounds_handled {g : Guards} {columns : Columns} {cursorId rounds : Nat}
    {rows all : List Row} {wires : List (List WireValue)} {more : Bool}
    (run : iterate (fetchRound g columns cursorId o) rounds (rows, wires, more) host c w =
      (.done all, c', w')) :
    Handled (wires.flatMap lobKeys) [] w w' := by
  induction rounds generalizing rows wires more c w with
  | zero => simp [iterate] at run
  | succ rounds ih =>
    obtain ⟨next, c₁, w₁, round, onward⟩ := bind_done run
    obtain ⟨decoded, c₂, w₂, decoding, moved⟩ := bind_done round
    obtain ⟨new₁, added₁, first⟩ := decodeRows_handled decoding
    split at moved
    · cases moved
      cases onward
      exact ⟨new₁, added₁, first⟩
    · obtain ⟨response, c₃, w₃, asked, made⟩ := bind_done moved
      obtain ⟨rfl, added₂⟩ := roundTrip_done asked
      cases made
      obtain ⟨new₂, added₃, second⟩ := ih onward
      refine ⟨new₁ ++ ⟨.fetch cursorId o.fetchSize, .done response⟩ :: new₂, ?_, ?_⟩
      · rw [added₃, added₂, added₁]
        simp
      · exact .insert rfl rfl (first.append second)

theorem fetchAll_handled {columns : Columns} {cursorId : Nat} {first : List (List WireValue)}
    {more : Bool} {rows : List Row}
    (run : fetchAll columns cursorId first more o host c w = (.done rows, c', w')) :
    Handled (first.flatMap lobKeys) [] w w' := by
  obtain ⟨r, c₁, w₁, attempted, onward⟩ := bind_done run
  rcases attempt_done attempted with ⟨all, rfl, fetched⟩ | ⟨e, rfl, -⟩
  · obtain ⟨g, c₂, w₂, guarding, rounds⟩ := bind_done fetched
    cases guarding
    obtain ⟨new, added, lifetimes⟩ := fetchRounds_handled rounds
    dsimp only at onward
    split at onward
    · obtain ⟨u, c₃, w₃, closing, made⟩ := bind_done onward
      obtain ⟨out, w₄, called, recorded⟩ :=
        call_record (.closeCursor cursorId) ⟨none, []⟩ host c₁ w₁
      rw [callFreely, called] at closing
      cases closing
      cases made
      refine ⟨new ++ [⟨.closeCursor cursorId, .done u⟩], ?_, .concat rfl rfl rfl lifetimes⟩
      rw [recorded, added, List.append_assoc]
    · cases onward
      exact ⟨new, added, lifetimes⟩
  · exact absurd (congrArg Prod.fst onward) (bind_fail_ne_done _ e rows)

/-! ## Output binds -/

/-- What is made of one output bind: content that is read in place, or a handle that is kept. -/
theorem decodeOutBind_handled {d : Descriptor} {wire : WireValue} {v : OutValue}
    (run : decodeOutBind d wire o host c w = (.done v, c', w')) :
    Handled (lobKeys [wire]) v.keys w w' := by
  unfold decodeOutBind at run
  split at run
  · simp at run
  obtain ⟨u, c₁, w₁, decoding, onward⟩ := bind_done run
  obtain ⟨decoded, rfl, rfl⟩ := ofFallible_done decoding
  cases DbType.decode_decoded decoded with
  | cursor l type real =>
    obtain ⟨rs, c₂, w₂, opening, made⟩ := bind_done onward
    have quiet := exchanges_of_calls (openCursor_calls l o) opening
    cases made
    exact .silent quiet (List.nil_subset _)
  | lob l =>
    dsimp only at onward
    split at onward
    · obtain ⟨g, c₂, w₂, guarding, reading⟩ := bind_done onward
      obtain ⟨value, c₃, w₃, read, made⟩ := bind_done reading
      obtain ⟨rfl, rfl, -⟩ := promotedValue_done made
      cases guarding
      obtain ⟨new, added, lifetimes⟩ := readWhole_handled read
      exact ⟨new, added, lifetimes⟩
    · obtain ⟨lob, c₂, w₂, opening, made⟩ := bind_done onward
      obtain ⟨quiet, rfl⟩ := openLob_done opening
      cases made
      exact .silent quiet fun b h => h
  | plain wirePlain plain =>
    have kept : w'.exchanges = w₁.exchanges ∧ v.keys = [] := by
      have ending : (if d.promotedFrom.isSome then promotedValue d u else pure (.value u) :
          Operation σ Connection OutValue) host c₁ w₁ = (.done v, c', w') := by
        cases u with
        | lob l => simp [Value.isHandle] at plain
        | cursor l => simp [Value.isHandle] at plain
        | _ => exact onward
      split at ending
      · obtain ⟨rfl, rfl, -⟩ := promotedValue_done ending
        exact ⟨rfl, rfl⟩
      · cases ending
        exact ⟨rfl, rfl⟩
    exact .silent kept.1 (by simp [kept.2])

theorem decodeEach_handled {decoded bs : List OutBind} {pairs : List (Descriptor × WireValue)}
    (run : decodeEach o decoded pairs host c w = (.done bs, c', w')) :
    ∃ rest, bs = decoded ++ rest ∧
      Handled (lobKeys (pairs.map (·.2))) (OutBind.keys rest) w w' := by
  induction pairs generalizing decoded c w with
  | nil =>
    cases run
    exact ⟨[], by simp, .silent rfl (List.nil_subset _)⟩
  | cons pair rest ih =>
    obtain ⟨d, wire⟩ := pair
    obtain ⟨r, c₁, w₁, attempted, onward⟩ := bind_done run
    rcases attempt_done attempted with ⟨v, rfl, one⟩ | ⟨e, rfl, -⟩
    · obtain ⟨others, rfl, behind⟩ := ih onward
      refine ⟨⟨d.slot, d.placeholder, v⟩ :: others, by simp, ?_⟩
      have all := lobKeys_append [wire] (rest.map (·.2))
      rw [List.map_cons, ← List.singleton_append, all]
      exact (decodeOutBind_handled one).trans behind
    · obtain ⟨u, c₂, w₂, -, failed⟩ := bind_done onward
      obtain ⟨u, c₃, w₃, -, failed⟩ := bind_done failed
      simp at failed

theorem decodeOutBinds_handled {outs : List Descriptor} {wires : List WireValue}
    {bs : List OutBind} (run : decodeOutBinds outs wires o host c w = (.done bs, c', w')) :
    Handled (lobKeys wires) (OutBind.keys bs) w w' := by
  unfold decodeOutBinds at run
  split at run
  · obtain ⟨u, c₁, w₁, -, failed⟩ := bind_done run
    simp at failed
  · next counted =>
    obtain ⟨rest, rfl, handled⟩ := decodeEach_handled run
    have wired : (outs.zip wires).map (·.2) = wires :=
      List.map_snd_zip (Nat.le_of_eq (by simpa using counted))
    rwa [wired] at handled

/-! ## Executions -/

theorem receiveRows_handled {outBinds : List OutBind} {described : List ColumnMetadata}
    {response : ExecuteResponse} {r : ExecuteResult}
    (run : receiveRows outBinds described response o host c w = (.done r, c', w')) :
    Handled (response.rows.flatMap lobKeys) [] w w' := by
  obtain ⟨columns, c₁, w₁, describing, onward⟩ := bind_done run
  obtain ⟨-, rfl, rfl⟩ := ofExcept_done (releasingCursor_done describing)
  split at onward
  · obtain ⟨conn, c₂, w₂, getting, onward⟩ := bind_done onward
    cases getting
    obtain ⟨rs, c₃, w₃, creating, made⟩ := bind_done onward
    have quiet := exchanges_of_calls (ResultSet.create_calls _ _ _ _ _ _ _) creating
    cases made
    exact .silent quiet (List.nil_subset _)
  · obtain ⟨rows, c₂, w₂, fetching, made⟩ := bind_done onward
    cases made
    exact fetchAll_handled fetching

/-- The objects of a response, those of its output binds first. -/
theorem receive_handled {outs : List Descriptor} {response : ExecuteResponse} {r : ExecuteResult}
    (run : receive outs response o host c w = (.done r, c', w')) :
    Handled (lobKeys response.outBinds ++ response.rows.flatMap lobKeys)
      (OutBind.keys r.outBinds) w w' := by
  obtain ⟨bs, c₁, w₁, decoding, onward⟩ := bind_done run
  have binds := decodeOutBinds_handled (releasingCursor_done decoding)
  cases columns : response.columns with
  | none =>
    simp only [columns] at onward
    cases onward
    obtain ⟨new, added, lifetimes⟩ := binds
    exact ⟨new, added, lifetimes.more (List.sublist_append_left _ _).subperm⟩
  | some described =>
    simp only [columns] at onward
    have received := releasing_done onward
    have both := binds.trans (receiveRows_handled received)
    rwa [List.append_nil, ← receiveRows_outBinds received] at both

/-- Objects made for binds, those that are to be given back among them. -/
theorem bindAll_made {pending : List PendingBind} {lobs lobs' : List Lob} {bound : List BoundValue}
    (run : bindAll o lobs pending host c w = (.done (bound, lobs'), c', w')) :
    ∃ new, w'.exchanges = w.exchanges ++ new ∧ Made new ∧
      ∀ lob ∈ lobs', lob ∈ lobs ∨ lob.locator.bytes ∈ handedLobs new := by
  induction pending generalizing lobs bound c w lobs' c' w' with
  | nil =>
    cases run
    exact ⟨[], by simp, .nil, fun lob mem => .inl mem⟩
  | cons p rest ih =>
    cases p with
    | ready d wire =>
      obtain ⟨⟨bound₁, lobs₁⟩, c₁, w₁, behind, ending⟩ := bind_done run
      cases ending
      exact ih behind
    | content d data =>
      obtain ⟨r, c₁, w₁, attempted, next⟩ := bind_done run
      rcases attempt_done attempted with ⟨lob, rfl, filled⟩ | ⟨e, rfl, -⟩
      · obtain ⟨rfl, seg, added₁, written⟩ := fillTemporary_done filled
        obtain ⟨made, own⟩ := written.made_of
        obtain ⟨⟨bound₁, lobs₁⟩, c₂, w₂, behind, ending⟩ := bind_done next
        cases ending
        obtain ⟨new, added₂, others, among⟩ := ih behind
        refine ⟨seg ++ new, by rw [added₂, added₁, List.append_assoc], made.append others, ?_⟩
        intro lob' mem
        rw [handedLobs_append]
        rcases among lob' mem with before | after
        · rcases List.mem_append.1 before with before | here
          · exact .inl before
          · obtain rfl := List.mem_singleton.1 here
            exact .inr (List.mem_append_left _ own)
        · exact .inr (List.mem_append_right _ after)
      · obtain ⟨u, c₂, w₂, -, failed⟩ := bind_done next
        simp at failed

theorem releaseLobs_closes (lobs : List Lob) :
    Calls (fun _ => True) (fun call => ∃ lob ∈ lobs, call = .closeLob lob.locator)
      (releaseLobs lobs : Operation σ Connection Unit) := by
  induction lobs with
  | nil => exact .pure ()
  | cons lob rest ih =>
    refine .bind ((close_lob_calls lob).mono fun call same => ?_) fun _ => ih.mono fun call => ?_
    · exact ⟨lob, List.mem_cons_self .., same⟩
    · rintro ⟨other, mem, same⟩
      exact ⟨other, List.mem_cons_of_mem lob mem, same⟩

/-- Around the round trip of a statement, objects are made for its binds and given back. -/
theorem transmit_around {sql : String} {info : Statement.Info} {pending : List PendingBind}
    {response : ExecuteResponse}
    (run : transmit sql info pending o host c w = (.done response, c', w')) :
    ∃ before request after, w'.exchanges = w.exchanges ++
        (before ++ ⟨.execute request, .done response⟩ :: after) ∧
      Lifetimes [] [] (before ++ after) := by
  obtain ⟨⟨bound, lobs⟩, c₁, w₁, binding, onward⟩ := bind_done run
  obtain ⟨sent, c₂, w₂, asked, onward⟩ := bind_done onward
  obtain ⟨u, c₃, w₃, releasing, answer⟩ := bind_done onward
  obtain ⟨rfl, rfl, rfl⟩ := ofExcept_done answer
  rcases attempt_done asked with ⟨r, same, made⟩ | ⟨e, failed, -⟩
  · obtain rfl := Except.ok.inj same
    obtain ⟨before, added₁, making, among⟩ := bindAll_made binding
    obtain ⟨-, added₂⟩ := roundTrip_done made
    obtain ⟨-, -, after, added₃, closing⟩ := releaseLobs_closes lobs host c₂ w₂ trivial
    rw [releasing] at added₃
    refine ⟨before, ⟨sql, info, bound, o.fetchSize, o.prefetch, o.autoCommit⟩, after, ?_, ?_⟩
    · rw [added₃, added₂, added₁]
      simp
    have each : ∀ x ∈ after, x.usedLob? = none ∧ x.handed = [] ∧
        ∀ b, x.closedLob? = some b → b ∈ handedLobs before := by
      rintro ⟨call, out⟩ mem
      obtain ⟨lob, own, rfl⟩ := closing _ mem
      refine ⟨rfl, rfl, fun b closed => ?_⟩
      obtain rfl := Option.some.inj closed
      exact (among lob own).resolve_left List.not_mem_nil
    refine making.released (List.filterMap_eq_nil_iff.2 fun x mem => (each x mem).1)
      (List.flatMap_eq_nil_iff.2 fun x mem => (each x mem).2.1) fun b closed => ?_
    obtain ⟨x, mem, same⟩ := List.mem_filterMap.1 closed
    exact (each x mem).2.2 b same
  · cases failed

theorem send_around {sql : String} {binds : Binds} {outs : List Descriptor}
    {response : ExecuteResponse}
    (run : send sql binds o host c w = (.done (outs, response), c', w')) :
    ∃ before request after, w'.exchanges = w.exchanges ++
        (before ++ ⟨.execute request, .done response⟩ :: after) ∧
      Lifetimes [] [] (before ++ after) := by
  obtain ⟨u, c₁, w₁, checked, run⟩ := bind_done run
  obtain ⟨info, c₂, w₂, scanning, run⟩ := bind_done run
  obtain ⟨ds, c₃, w₃, resolving, run⟩ := bind_done run
  obtain ⟨pending, c₄, w₄, preparing, run⟩ := bind_done run
  obtain ⟨sent, c₅, w₅, transmitting, made⟩ := bind_done run
  obtain ⟨rfl, rfl⟩ := checkOpen_done checked
  rw [scan_apply] at scanning
  cases scanning
  obtain ⟨-, rfl, rfl⟩ := ofExcept_done resolving
  obtain ⟨-, rfl, rfl⟩ := ofExcept_done preparing
  cases made
  exact transmit_around transmitting

theorem execute_handled {sql : String} {binds : Binds} {r : ExecuteResult}
    (run : execute sql binds o host c w = (.done r, c', w')) :
    Handled [] (OutBind.keys r.outBinds) w w' := by
  obtain ⟨⟨outs, response⟩, c₁, w₁, sending, receiving⟩ := bind_done run
  obtain ⟨before, request, after, added, made⟩ := send_around sending
  obtain ⟨more, added', received⟩ := receive_handled receiving
  refine ⟨before ++ ⟨.execute request, .done response⟩ :: (after ++ more), ?_, ?_⟩
  · rw [added', added]
    simp
  -- What the response hands out is given to the calls that receive it.
  · have all := made.append received
    rw [List.append_assoc] at all
    exact .insert rfl rfl all

/-- An object that an execution has given back is not used behind that and no output bind has a
handle on it, so long as the session handed the object out once. -/
theorem execute_closes_last {sql : String} {binds : Binds} {r : ExecuteResult}
    (run : execute sql binds o host c w = (.done r, c', w')) :
    ∃ new, w'.exchanges = w.exchanges ++ new ∧
      ∀ b ∈ closedLobs new, (handedLobs new).count b = 1 →
        b ∉ OutBind.keys r.outBinds ∧ ClosedLast b new := by
  obtain ⟨new, added, lifetimes⟩ := execute_handled run
  refine ⟨new, added, fun b closed once => ?_⟩
  obtain ⟨last, keeps⟩ := lifetimes.ends b (Nat.le_of_eq once)
  exact ⟨fun keep => keeps keep closed, last⟩

/-- The run is done and has left such a result and such exchanges. -/
def doneLeaving {α : Type} (p : α → List Exchange → Bool) :
    Outcome α × Connection × World σ → Bool
  | (.done a, _, w) => p a w.exchanges
  | _ => false

theorem doneLeaving_iff {α : Type} {p : α → List Exchange → Bool}
    {run : Outcome α × Connection × World σ} :
    doneLeaving p run = true ↔
      ∃ a c' w', run = (.done a, c', w') ∧ p a w'.exchanges = true := by
  obtain ⟨_ | _ | _, c', w'⟩ := run <;> simp [doneLeaving]

/-- Content for an object that comes back. -/
def clobExchange : Binds :=
  .named
    [("c", .spec
      { direction := some .both, dbType := some .clob, value := some (.string "hello") })]

/-- The locator of an object of five characters. -/
def clobWire (bytes : LobKey) : WireValue := .lob ⟨bytes, .clob, 5, 8, true⟩

/-- Another object comes back than was sent. The one that was sent is given back behind its last
use, and the handle is on the other one. -/
theorem other_object_comes_back :
    ∃ r c' w', execute "begin p(:c); end;" clobExchange {} (Memory.Store.host 9) first
        (opened (handingOut [clobWire [9]])) = (.done r, c', w') ∧
      OutBind.keys r.outBinds = [[9]] ∧ [0, 0, 3, 233] ∈ usedLobs w'.exchanges ∧
        ClosedLast [0, 0, 3, 233] w'.exchanges := by
  have evaluated : doneLeaving (fun r xs => OutBind.keys r.outBinds == [[9]] &&
        usedLobs xs == [[0, 0, 3, 233], [0, 0, 3, 233], [0, 0, 3, 233]] &&
        closedLobs xs == [[0, 0, 3, 233]] && handedLobs xs == [[0, 0, 3, 233], [9]])
      (execute "begin p(:c); end;" clobExchange {} (Memory.Store.host 9) first
        (opened (handingOut [clobWire [9]]))) = true := by
    decide +kernel
  obtain ⟨r, c', w', run, found⟩ := doneLeaving_iff.1 evaluated
  simp only [Bool.and_eq_true, beq_iff_eq] at found
  obtain ⟨⟨⟨keys, used⟩, closed⟩, handed⟩ := found
  obtain ⟨new, added, ends⟩ := execute_closes_last run
  obtain rfl : w'.exchanges = new := added
  have last := ends [0, 0, 3, 233] (by rw [closed]; decide) (by rw [handed]; decide)
  exact ⟨r, c', w', run, keys, by rw [used]; decide, last.2⟩

/-- The object comes back that was sent: the handle is on an object that has been given back. -/
theorem same_object_comes_back_closed :
    ∃ r c' w', execute "begin p(:c); end;" clobExchange {} (Memory.Store.host 9) first
        (opened (handingOut [clobWire [0, 0, 3, 233]])) = (.done r, c', w') ∧
      OutBind.keys r.outBinds = [[0, 0, 3, 233]] ∧
        closedLobs w'.exchanges = [[0, 0, 3, 233]] := by
  have evaluated : doneLeaving (fun r xs => OutBind.keys r.outBinds == [[0, 0, 3, 233]] &&
        closedLobs xs == [[0, 0, 3, 233]])
      (execute "begin p(:c); end;" clobExchange {} (Memory.Store.host 9) first
        (opened (handingOut [clobWire [0, 0, 3, 233]]))) = true := by
    decide +kernel
  obtain ⟨r, c', w', run, found⟩ := doneLeaving_iff.1 evaluated
  simp only [Bool.and_eq_true, beq_iff_eq] at found
  exact ⟨r, c', w', run, found⟩

end Connection

end SqlBinder

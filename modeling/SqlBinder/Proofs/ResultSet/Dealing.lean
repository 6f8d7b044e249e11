import Mathlib.Data.List.Forall2
import Mathlib.Logic.Relation
import SqlBinder.Proofs.ResultSet.Rows

/-!
How a result set deals out its rows. Over a cursor that is served in order the rows come out one
behind the other, each once, however many are asked for at a time and however many a round trip
brings. What is left at any time are the rows in the buffer and those behind them at the server.

The invariant is `Standing`: the rows in the buffer and behind it at the server decode to the values
that were not dealt out yet. Taking a row removes the first of them, a round trip moves rows to the
buffer without changing any, and demands in turn are an induction over their list.
-/
namespace SqlBinder

open Operation

variable {σ : Type} {host : Host σ} {id : Nat} {rows : σ → List (List WireValue)}

/-- The rows of a cursor are served in order: a round trip brings the first of those that are
left and tells whether some are left behind it. Calls on objects leave them alone. -/
structure Serves (host : Host σ) (id : Nat) (rows : σ → List (List WireValue)) : Prop where
  reply : ∀ n s, (host.answer (.fetch id n) s).result.1 =
    .done ⟨(rows s).take n, decide (n < (rows s).length)⟩
  left : ∀ n s, rows (host.answer (.fetch id n) s).result.2 = (rows s).drop n
  objects : ∀ l c s, Call.Reads l c → rows (host.answer c s).result.2 = rows s

/-- Round trips for rows of a cursor lead from one state to the other. -/
def Fetched (host : Host σ) (id : Nat) : σ → σ → Prop :=
  Relation.ReflTransGen fun s s' => ∃ n, s' = (host.answer (.fetch id n) s).result.2

/-- What a row is decoded to over a state of the session, and the state behind that. -/
def decoded (host : Host σ) (g : Guards) (columns : Columns) (o : ConvertOptions)
    (wires : List WireValue) (s : σ) : Outcome (List Value) × σ :=
  match decodeRow g .invalidResultSet columns o wires host () (World.start s) with
  | (out, _, w) => (out, w.session)

/-- The rows decode to these values one behind the other, whatever rows are fetched in between. -/
def Decodes (host : Host σ) (g : Guards) (id : Nat) (columns : Columns) (o : ConvertOptions) :
    List (List WireValue) → List (List Value) → σ → Prop
  | [], [], _ => True
  | wires :: rest, values :: more, s => ∀ s₁, Fetched host id s s₁ →
      ∃ s₂, decoded host g columns o wires s₁ = (.done values, s₂) ∧
        Decodes host g id columns o rest more s₂
  | _, _, _ => False

theorem Decodes.fetched {g : Guards} {columns : Columns} {o : ConvertOptions}
    {wires : List (List WireValue)} {values : List (List Value)} {s s' : σ}
    (h : Decodes host g id columns o wires values s) (there : Fetched host id s s') :
    Decodes host g id columns o wires values s' := by
  cases wires with
  | nil =>
    cases values with
    | nil => trivial
    | cons v more => exact h.elim
  | cons row rest =>
    cases values with
    | nil => exact h.elim
    | cons v more => exact fun s₁ onward => h s₁ (there.trans onward)

/-- An undisturbed handle decodes a row as it is decoded over the state of the session. -/
theorem decodeRow_decoded {g : Guards} {columns : Columns} {o : ConvertOptions}
    {wires : List WireValue} {values : List Value} {s' : σ} {w : World σ}
    (serves : Serves host id rows) (calm : Undisturbed host g w)
    (h : decoded host g columns o wires w.session = (.done values, s')) (rs : ResultSet) :
    ∃ w', decodeRow g .invalidResultSet columns o wires host rs w = (.done values, rs, w') ∧
      w'.session = s' ∧ rows s' = rows w.session ∧ Undisturbed host g w' := by
  have start : Undisturbed host g (World.start w.session) :=
    ⟨calm.answers, fun _ mem => (List.not_mem_nil mem).elim, rfl, rfl⟩
  have kept : ∀ l c s, Call.Reads l c → rows s = rows w.session →
      rows (host.answer c s).result.2 = rows w.session :=
    fun l c s reads same => (serves.objects l c s reads).trans same
  obtain ⟨out, w₁, w₁', run, run', session, unchanged, calm₁, -⟩ :=
    decodeRow_undisturbed .invalidResultSet .invalidResultSet kept columns o wires rs () w
      (World.start w.session) ⟨rfl, rfl, calm, start⟩
  simp only [decoded, run', Prod.mk.injEq] at h
  obtain ⟨rfl, rfl⟩ := h
  exact ⟨w₁, run, session.symm, by rw [session]; exact unchanged, calm₁⟩

namespace ResultSet

/-! ## Demands -/

/-- A demand on a result set: for one row, for at most so many rows or, with 0, for all, or for
other round trips from here on. -/
inductive Demand where
  | row
  | rows (limit : Nat)
  | fetchSize (size : Nat)

/-- The first of the rows that are left; with 0 all of them. -/
def atMost {α : Type} (limit : Nat) (left : List α) : List α :=
  if limit = 0 then left else left.take limit

/-- What is dealt to a demand out of what is left. -/
def Demand.share {α : Type} : Demand → List α → List α
  | .row, left => left.take 1
  | .rows limit, left => atMost limit left
  | .fetchSize _, _ => []

/-- What is dealt to demands one behind the other. -/
def deal {α : Type} : List Demand → List α → List (List α)
  | [], _ => []
  | d :: rest, left => d.share left :: deal rest (left.drop (d.share left).length)

/-- The demand asks for rows. -/
def Demand.asks : Demand → Bool
  | .fetchSize _ => false
  | _ => true

/-- The demand was dealt as many rows as it asked for. -/
def Demand.Met {α : Type} : Demand → List α → Prop
  | .row, dealt => dealt.length = 1
  | .rows limit, dealt => limit ≠ 0 ∧ dealt.length = limit
  | .fetchSize _, dealt => dealt = []

/-- The rows that answer a demand. -/
def Demand.run : Demand → Operation σ ResultSet (List Row)
  | .row => do return (← getRow).toList
  | .rows limit => getRows limit
  | .fetchSize size => do
    Operation.modify fun rs => rs.setFetchSize size
    return []

/-- The rows that answer demands one behind the other. -/
def runDemands : List Demand → Operation σ ResultSet (List (List Row))
  | [] => pure []
  | d :: rest => do
    let rows ← d.run
    return rows :: (← runDemands rest)

section Deal

variable {α β : Type} {left : List α}

theorem atMost_prefix (limit : Nat) (left : List α) : atMost limit left <+: left := by
  unfold atMost
  split
  · exact List.prefix_rfl
  · exact List.take_prefix limit left

theorem atMost_map (f : α → β) (limit : Nat) (left : List α) :
    atMost limit (left.map f) = (atMost limit left).map f := by
  unfold atMost
  split
  · rfl
  · exact List.map_take.symm

theorem Demand.share_prefix (d : Demand) (left : List α) : d.share left <+: left := by
  cases d with
  | row => exact List.take_prefix 1 left
  | rows limit => exact atMost_prefix limit left
  | fetchSize size => exact List.nil_prefix

theorem Demand.share_map (f : α → β) (d : Demand) (left : List α) :
    d.share (left.map f) = (d.share left).map f := by
  cases d with
  | row => exact List.map_take.symm
  | rows limit => exact atMost_map f limit left
  | fetchSize size => rfl

/-- A demand that is not met is dealt all that is left. -/
theorem Demand.share_met (d : Demand) (left : List α) :
    d.Met (d.share left) ∨ d.share left = left := by
  cases d with
  | row =>
    cases left with
    | nil => exact .inr rfl
    | cons a rest => exact .inl rfl
  | rows limit =>
    by_cases all : limit = 0
    · exact .inr (if_pos all)
    · rw [share, atMost, if_neg all]
      rcases Nat.le_total limit left.length with enough | short
      · exact .inl ⟨all, List.length_take_of_le enough⟩
      · exact .inr (List.take_of_length_le short)
  | fetchSize size => exact .inl rfl

theorem deal_map (f : α → β) (ds : List Demand) (left : List α) :
    deal ds (left.map f) = (deal ds left).map (List.map f) := by
  induction ds generalizing left with
  | nil => rfl
  | cons d rest ih =>
    rw [deal, deal, d.share_map, List.length_map, ← List.map_drop, ih]
    rfl

theorem deal_prefix (ds : List Demand) (left : List α) : (deal ds left).flatten <+: left := by
  induction ds generalizing left with
  | nil => exact List.nil_prefix
  | cons d rest ih =>
    rw [deal, List.flatten_cons]
    calc d.share left ++ (deal rest (left.drop (d.share left).length)).flatten
      _ <+: d.share left ++ left.drop (d.share left).length :=
        (List.prefix_append_right_inj _).2 (ih _)
      _ = left := List.prefix_iff_eq_append.1 (d.share_prefix left)

/-- Demands for other round trips do not change what is dealt. -/
theorem deal_asks (ds : List Demand) (left : List α) :
    (deal (ds.filter Demand.asks) left).flatten = (deal ds left).flatten := by
  induction ds generalizing left with
  | nil => rfl
  | cons d rest ih =>
    cases d with
    | fetchSize size => exact ih left
    | row => exact congrArg (_ ++ ·) (ih _)
    | rows limit => exact congrArg (_ ++ ·) (ih _)

/-- Only a demand behind which no row is left is dealt fewer than it asked for. -/
theorem deal_met {ds : List Demand} {i : Nat} {d : Demand} {dealt : List α}
    (hd : ds[i]? = some d) (hi : (deal ds left)[i]? = some dealt) :
    d.Met dealt ∨ ((deal ds left).take (i + 1)).flatten = left := by
  induction ds generalizing i left with
  | nil => cases hd
  | cons first rest ih =>
    cases i with
    | zero =>
      obtain rfl : first = d := by simpa using hd
      obtain rfl : first.share left = dealt := by simpa [deal] using hi
      simpa [deal] using first.share_met left
    | succ i =>
      rw [deal, List.getElem?_cons_succ] at hi
      rw [List.getElem?_cons_succ] at hd
      apply (ih hd hi).imp_right
      intro all
      rw [deal, List.take_succ_cons, List.flatten_cons, all]
      exact List.prefix_iff_eq_append.1 (first.share_prefix left)

end Deal

/-! ## What is left -/

/-- An open result set over a cursor whose rows are served in order and decode to these values,
behind as many that were dealt out. -/
structure Standing (host : Host σ) (g : Guards) (columns : Columns) (o : ConvertOptions)
    (rows : σ → List (List WireValue)) (id : Nat) (rs : ResultSet) (w : World σ)
    (cursor : OpenCursor) (values : List (List Value)) (dealt : Nat) : Prop where
  guards : rs.guards = g
  convert : rs.convert = o
  size : 0 < rs.fetchSize
  held : rs.cursor = some cursor
  named : cursor.id = id
  described : cursor.columns = columns
  accurate : cursor.moreRows = !(rows w.session).isEmpty
  counted : cursor.rowsFetched = dealt + cursor.buffer.length
  decodes : Decodes host g id columns o (cursor.buffer ++ rows w.session) values w.session
  calm : Undisturbed host g w

namespace Standing

variable {g : Guards} {columns : Columns} {o : ConvertOptions} {rs : ResultSet} {w : World σ}
  {cursor : OpenCursor} {values : List (List Value)} {dealt : Nat}

theorem calm_own (h : Standing host g columns o rows id rs w cursor values dealt) :
    Undisturbed host rs.guards w := by
  rw [h.guards]
  exact h.calm

/-- When no row is left, asking for one changes nothing. -/
theorem nextRow_none (h : Standing host g columns o rows id rs w cursor [] dealt) :
    nextRow host rs w = (.done none, rs, w) := by
  have none : cursor.buffer ++ rows w.session = [] := by
    cases left : cursor.buffer ++ rows w.session with
    | nil => rfl
    | cons row rest =>
      have decodes := h.decodes
      rw [left] at decodes
      exact decodes.elim
  obtain ⟨empty, served⟩ := List.append_eq_nil_iff.1 none
  have ended : cursor.moreRows = false := by rw [h.accurate, served]; rfl
  apply nextRow_done
  rw [readRow_held h.calm_own h.held (.inr ended), takeRow_nil h.calm_own h.held empty]

/-- A round trip for more rows changes nothing about what is left. -/
theorem fetch (h : Standing host g columns o rows id rs w cursor values dealt)
    (serves : Serves host id rows) (empty : cursor.buffer = []) :
    ∃ rs' w' cursor', ResultSet.fetch host rs w = (.done (), rs', w') ∧
      Standing host g columns o rows id rs' w' cursor' values dealt ∧
      cursor'.buffer = (rows w.session).take rs.fetchSize := by
  let n := rs.fetchSize
  let response : FetchResponse := ⟨(rows w.session).take n, decide (n < (rows w.session).length)⟩
  have reply : (host.answer (.fetch cursor.id n) w.session).result.1 = .done response := by
    rw [h.named]
    exact serves.reply n w.session
  obtain ⟨w', made, session, calm⟩ := fetch_done h.calm_own h.held reply
  have served : rows w'.session = (rows w.session).drop n := by
    rw [session, h.named]
    exact serves.left n w.session
  have batch : (cursor.receive response).buffer = (rows w.session).take n := by
    rw [OpenCursor.receive, empty]
    rfl
  refine ⟨_, w', cursor.receive response, made, ?_, batch⟩
  constructor
  case guards => exact h.guards
  case convert => exact h.convert
  case size => exact h.size
  case held => rfl
  case named => exact h.named
  case described => exact h.described
  case accurate =>
    rw [served, Bool.eq_iff_iff]
    simp [OpenCursor.receive, response]
  case counted =>
    simp only [OpenCursor.receive, h.counted, List.length_append]
    omega
  case decodes =>
    -- Together with what is at the server now, the batch is what was there before.
    have same : (cursor.receive response).buffer ++ rows w'.session =
        cursor.buffer ++ rows w.session := by
      rw [batch, served, List.take_append_drop, empty, List.nil_append]
    rw [same]
    exact h.decodes.fetched (.single ⟨n, by rw [session, h.named]⟩)
  case calm =>
    rw [← h.guards]
    exact calm

/-- The first row in the buffer is dealt out. -/
theorem takeRow (h : Standing host g columns o rows id rs w cursor values dealt)
    (serves : Serves host id rows) (filled : cursor.buffer ≠ []) :
    ∃ v more rs' w' cursor', values = v :: more ∧
      ResultSet.takeRow host rs w = (.done (some ⟨v, columns⟩), rs', w') ∧
      Standing host g columns o rows id rs' w' cursor' more (dealt + 1) := by
  obtain ⟨wires, rest, first⟩ := List.exists_cons_of_ne_nil filled
  have decodes := h.decodes
  rw [first, List.cons_append] at decodes
  cases values with
  | nil => exact decodes.elim
  | cons v more =>
    obtain ⟨s', value, behind⟩ := decodes w.session .refl
    let rs' : ResultSet := { rs with cursor := some { cursor with buffer := rest } }
    obtain ⟨w', run, session, served, calm⟩ := decodeRow_decoded serves h.calm value rs'
    have taken : ResultSet.takeRow host rs w = (.done (some ⟨v, columns⟩), rs', w') := by
      rw [← h.guards, ← h.convert, ← h.described] at run
      rw [takeRow_cons h.calm_own h.held first, bind_of_done run, h.described]
      rfl
    refine ⟨v, more, rs', w', { cursor with buffer := rest }, rfl, taken, ?_⟩
    constructor
    case guards => exact h.guards
    case convert => exact h.convert
    case size => exact h.size
    case held => rfl
    case named => exact h.named
    case described => exact h.described
    case accurate =>
      rw [session, served]
      exact h.accurate
    case counted =>
      have counted := h.counted
      rw [first, List.length_cons] at counted
      simp only [counted]
      omega
    case decodes =>
      rw [session, served]
      exact behind
    case calm => exact calm

/-- The next row is dealt out. -/
theorem nextRow_some {v : List Value} {more : List (List Value)}
    (h : Standing host g columns o rows id rs w cursor (v :: more) dealt)
    (serves : Serves host id rows) :
    ∃ rs' w' cursor', nextRow host rs w = (.done (some ⟨v, columns⟩), rs', w') ∧
      Standing host g columns o rows id rs' w' cursor' more (dealt + 1) := by
  by_cases empty : cursor.buffer = []
  · -- The buffer is empty, so the row is the first that the next round trip brings.
    have left : rows w.session ≠ [] := by
      intro none
      have decodes := h.decodes
      rw [empty, none] at decodes
      exact decodes.elim
    have more : cursor.moreRows = true := by rw [h.accurate]; simp [left]
    obtain ⟨rs₁, w₁, cursor₁, made, standing, batch⟩ := h.fetch serves empty
    have filled : cursor₁.buffer ≠ [] := by
      have size := h.size
      rw [batch, Ne, List.take_eq_nil_iff]
      rintro (none | none)
      · omega
      · exact left none
    obtain ⟨v', more', rs', w', cursor', same, taken, standing'⟩ := standing.takeRow serves filled
    cases same
    exact ⟨rs', w', cursor',
      nextRow_done ((readRow_fetching h.calm_own h.held empty more made).trans taken), standing'⟩
  · obtain ⟨v', more', rs', w', cursor', same, taken, standing'⟩ := h.takeRow serves empty
    cases same
    exact ⟨rs', w', cursor', nextRow_done ((readRow_held h.calm_own h.held (.inl empty)).trans
      taken), standing'⟩

/-- That rows were asked for does not matter. -/
theorem markFetched (h : Standing host g columns o rows id rs w cursor values dealt) :
    Standing host g columns o rows id { rs with fetched := true } w cursor values dealt :=
  { h with }

theorem setFetchSize (h : Standing host g columns o rows id rs w cursor values dealt) (size : Nat) :
    Standing host g columns o rows id (rs.setFetchSize size) w cursor values dealt :=
  { h with size := Nat.le_max_right size 1 }

/-- Rows are collected until there are enough or none is left. -/
theorem collect (serves : Serves host id rows) (limit : Nat) {rounds : Nat} (acc : List Row)
    (h : Standing host g columns o rows id rs w cursor values dealt)
    (patient : values.length < rounds) :
    ∃ part rs' w' cursor', part = (if limit = 0 then values else values.take (limit - acc.length)) ∧
      iterate (collectRow limit) rounds acc host rs w =
        (.done (acc ++ part.map fun v => ⟨v, columns⟩), rs', w') ∧
      Standing host g columns o rows id rs' w' cursor' (values.drop part.length)
        (dealt + part.length) := by
  obtain ⟨rounds, rfl⟩ : ∃ n, rounds = n + 1 := ⟨rounds - 1, by omega⟩
  induction values generalizing acc rs w cursor dealt rounds with
  | nil =>
    refine ⟨[], rs, w, cursor, by simp, ?_, h⟩
    by_cases enough : limit ≠ 0 ∧ limit ≤ acc.length
    · rw [iterate_enough enough, List.map_nil, List.append_nil]
    · rw [iterate_none enough h.nextRow_none, List.map_nil, List.append_nil]
  | cons v more ih =>
    by_cases enough : limit ≠ 0 ∧ limit ≤ acc.length
    · refine ⟨[], rs, w, cursor, ?_, ?_, h⟩
      · rw [if_neg enough.1, Nat.sub_eq_zero_of_le enough.2, List.take_zero]
      · rw [iterate_enough enough, List.map_nil, List.append_nil]
    · obtain ⟨rs₁, w₁, cursor₁, run, standing⟩ := h.nextRow_some serves
      rw [List.length_cons] at patient
      obtain ⟨rounds, rfl⟩ : ∃ n, rounds = n + 1 := ⟨rounds - 1, by omega⟩
      obtain ⟨part, rs', w', cursor', same, collected, standing'⟩ :=
        ih (acc ++ [⟨v, columns⟩]) standing rounds (by omega)
      refine ⟨v :: part, rs', w', cursor', ?_, ?_, ?_⟩
      · rw [same]
        split
        · rfl
        · next limited =>
          have room : limit - acc.length =
              limit - (acc ++ [(⟨v, columns⟩ : Row)]).length + 1 := by
            simp only [List.length_append, List.length_singleton]
            omega
          rw [room, List.take_succ_cons]
      · rw [iterate_row enough run, collected]
        simp
      · rw [List.length_cons, List.drop_succ_cons]
        simpa only [Nat.add_assoc, Nat.add_comm 1] using standing'

/-- A demand is answered by its share of what is left. -/
theorem run (h : Standing host g columns o rows id rs w cursor values dealt)
    (serves : Serves host id rows) (patient : values.length < host.patience) (d : Demand) :
    ∃ rs' w' cursor',
      d.run host rs w = (.done ((d.share values).map fun v => ⟨v, columns⟩), rs', w') ∧
      Standing host g columns o rows id rs' w' cursor' (values.drop (d.share values).length)
        (dealt + (d.share values).length) := by
  cases d with
  | row =>
    have marked : Demand.row.run host rs w =
        (nextRow >>= fun row => pure row.toList) host { rs with fetched := true } w := rfl
    cases values with
    | nil =>
      refine ⟨_, w, cursor, ?_, h.markFetched⟩
      rw [marked, bind_of_done h.markFetched.nextRow_none]
      rfl
    | cons v more =>
      obtain ⟨rs', w', cursor', run, standing⟩ := h.markFetched.nextRow_some serves
      refine ⟨rs', w', cursor', ?_, standing⟩
      rw [marked, bind_of_done run]
      rfl
  | rows limit =>
    obtain ⟨part, rs', w', cursor', same, run, standing⟩ :=
      h.markFetched.collect serves limit [] patient
    obtain rfl : part = atMost limit values := same
    exact ⟨rs', w', cursor', run, standing⟩
  | fetchSize size => exact ⟨_, w, cursor, rfl, h.setFetchSize size⟩

/-- Demands are answered by their shares, one behind the other. -/
theorem runDemands (h : Standing host g columns o rows id rs w cursor values dealt)
    (serves : Serves host id rows) (patient : values.length < host.patience) (ds : List Demand) :
    ∃ rs' w' cursor',
      ResultSet.runDemands ds host rs w =
        (.done ((deal ds values).map (List.map fun v => ⟨v, columns⟩)), rs', w') ∧
      Standing host g columns o rows id rs' w' cursor'
        (values.drop (deal ds values).flatten.length)
        (dealt + (deal ds values).flatten.length) := by
  induction ds generalizing rs w cursor values dealt with
  | nil => exact ⟨rs, w, cursor, rfl, h⟩
  | cons d rest ih =>
    obtain ⟨rs₁, w₁, cursor₁, run, standing⟩ := h.run serves patient d
    have fewer : (values.drop (d.share values).length).length < host.patience := by
      rw [List.length_drop]
      omega
    obtain ⟨rs', w', cursor', rest', standing'⟩ := ih standing fewer
    refine ⟨rs', w', cursor', ?_, ?_⟩
    · rw [ResultSet.runDemands, bind_of_done run, bind_of_done rest']
      rfl
    · rw [deal, List.flatten_cons, List.length_append, ← List.drop_drop, ← Nat.add_assoc]
      exact standing'

end Standing

/-- The rows received and not dealt out yet. -/
def buffered (rs : ResultSet) : Nat := (rs.cursor.map (·.buffer.length)).getD 0

/-- Demands on an open result set are dealt the rows that came with it and those behind them at
the server: from the front, in order, each once. How many a round trip brings does not show. -/
theorem deals_in_order (rs : ResultSet) (w : World σ) {cursor : OpenCursor}
    (values : List (List Value)) (serves : Serves host cursor.id rows)
    (held : rs.cursor = some cursor) (fresh : cursor.rowsFetched = cursor.buffer.length)
    (accurate : cursor.moreRows = !(rows w.session).isEmpty) (size : 0 < rs.fetchSize)
    (calm : Undisturbed host rs.guards w)
    (decodes : Decodes host rs.guards cursor.id cursor.columns rs.convert
      (cursor.buffer ++ rows w.session) values w.session)
    (patient : values.length < host.patience) (ds : List Demand) :
    ∃ dealt rs' w', runDemands ds host rs w = (.done dealt, rs', w') ∧
      dealt = deal ds (values.map fun v => ⟨v, cursor.columns⟩) ∧
      dealt.flatten <+: (values.map fun v => ⟨v, cursor.columns⟩) ∧
      dealt.flatten = (deal (ds.filter Demand.asks)
        (values.map fun v => ⟨v, cursor.columns⟩)).flatten ∧
      (∀ (i : Nat) d part, ds[i]? = some d → dealt[i]? = some part →
        d.Met part ∨ (dealt.take (i + 1)).flatten = values.map fun v => ⟨v, cursor.columns⟩) ∧
      rs'.rowCount = dealt.flatten.length + rs'.buffered := by
  have standing : Standing host rs.guards cursor.columns rs.convert rows cursor.id rs w cursor
      values 0 :=
    ⟨rfl, rfl, size, held, rfl, rfl, accurate, by omega, decodes, calm⟩
  obtain ⟨rs', w', cursor', run, standing'⟩ := standing.runDemands serves patient ds
  rw [← deal_map] at run
  refine ⟨_, rs', w', run, rfl, deal_prefix ds _, (deal_asks ds _).symm, fun i d part => deal_met,
    ?_⟩
  rw [rowCount, buffered, standing'.held]
  simp only [Option.map_some, Option.getD_some, standing'.counted, Nat.zero_add]
  rw [deal_map, ← List.map_flatten, List.length_map]

/-- A table of rows served over any cursor. It answers no other call. -/
def tableHost (patience : Nat) : Host (List (List WireValue)) where
  answer
    | .fetch _ n, left => ⟨left, some ⟨0⟩, [], [], left.drop n, .ok ⟨left.take n, n < left.length⟩⟩
    | _, left => ⟨left, some ⟨0⟩, [], [], left, .error .connectionClosed⟩
  patience := patience

theorem tableHost_serves (id patience : Nat) : Serves (tableHost patience) id fun left => left where
  reply _ _ := rfl
  left _ _ := rfl
  objects l c s reads := by cases reads <;> rfl

/-- Rows that decode without a call decode over every state of the session. -/
theorem Decodes.plain {g : Guards} {columns : Columns} {o : ConvertOptions}
    {wires : List (List WireValue)} {values : List (List Value)}
    (h : List.Forall₂ (fun row v => decodeRow g .invalidResultSet columns o row =
      (pure v : Operation σ Unit (List Value))) wires values) (s : σ) :
    Decodes host g id columns o wires values s := by
  induction h generalizing s with
  | nil => trivial
  | cons same _ ih =>
    intro s₁ _
    exact ⟨s₁, by rw [decoded, same]; rfl, ih s₁⟩

/-- A result set of texts. One row came with it. -/
def texts : ResultSet :=
  ⟨some ⟨7, ⟨[⟨"N", .varchar, true, 0, 0, 9⟩]⟩, [[.text "a"]], true, 1⟩, ⟨⟨0⟩, ⟨1⟩⟩, {}, 1, false⟩

/-- Demands for one row, for two and for all that are left, in round trips of one row and of
two. -/
theorem texts_dealt :
    ∃ dealt rs' w', runDemands [.row, .fetchSize 2, .rows 2, .rows 0, .row] (tableHost 9) texts
        (World.start [[.text "b"], [.text "c"], [.text "d"]]) = (.done dealt, rs', w') ∧
      dealt.map (List.map (·.values)) =
        [[[.string "a"]], [], [[.string "b"], [.string "c"]], [[.string "d"]], []] := by
  obtain ⟨dealt, rs', w', run, same, -⟩ := deals_in_order texts
    (World.start [[.text "b"], [.text "c"], [.text "d"]])
    [[.string "a"], [.string "b"], [.string "c"], [.string "d"]] (tableHost_serves 7 9)
    rfl rfl rfl (by decide) ⟨fun c s => by cases c <;> nofun, nofun, rfl, rfl⟩
    (Decodes.plain (.cons rfl (.cons rfl (.cons rfl (.cons rfl .nil)))) _) (by decide)
    [.row, .fetchSize 2, .rows 2, .rows 0, .row]
  exact ⟨dealt, rs', w', run, by rw [same]; rfl⟩

end ResultSet

end SqlBinder

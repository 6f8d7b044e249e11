import SqlBinder.Proofs.ResultSet.Interruption
import SqlBinder.Proofs.ResultSet.Refusing
import SqlBinder.Proofs.Session.Settling

/-!
Rows that are asked for while the result set is cancelled. Behind any failure the cursor is given
back; a failure among several rows is handled once, behind all of them.

The runs with the cancellation and without it are compared up to the failure, by the rules for
`Interruptible`, and giving up behind it is followed on both sides. Several rows are a loop with one
handler around it, so the loop is compared first and the handler once.
-/
namespace SqlBinder

open Operation

variable {σ α : Type}

namespace ResultSet

open Interruption

variable {i : Interruption σ} {rs : ResultSet} {id : Option Nat}

/-- What gives the cursor back. -/
def holds (rs : ResultSet) : List Call := rs.cursor.toList.map fun c => .closeCursor c.id

theorem Holds.holds {g : Guards} (held : rs.Holds g id) :
    rs.holds = id.toList.map .closeCursor := by
  rw [← held.2, ResultSet.holds]
  cases rs.cursor <;> rfl

/-- What is done behind the failure of a row. -/
def giveUp (e : Error) : Operation σ ResultSet α := do
  let _ ← release.attempt
  Operation.fail e

theorem nextRow_closing (host : Host σ) (rs : ResultSet) (w : World σ) :
    nextRow host rs w = closing readRow giveUp host rs w := by
  rcases run : readRow host rs w with ⟨row | e | _, rs₁, w₁⟩
  · rw [nextRow_done run, closing_of_done run]
  · rw [nextRow_failed run, closing_of_failed run]
    rfl
  · rw [nextRow_stuck run, closing_of_stuck run]

theorem release_held (host : Host σ) {w : World σ} {c : OpenCursor} (held : rs.cursor = some c)
    (apart : rs.guards.own ≠ rs.guards.connection)
    (connected : w.signals.isFired rs.guards.connection = false) :
    release host rs w = callFreely (.closeCursor c.id) host { rs with cursor := none }
      (w.fire rs.guards.own) := by
  have still : (w.fire rs.guards.own).signals.isFired rs.guards.connection = false := by
    simp [World.fire, connected, apart.symm]
  simp only [release, bind_apply, get_apply, modify_apply, fire_apply, held, signals_apply, still]
  rfl

theorem release_none (host : Host σ) {w : World σ} (held : rs.cursor = none) :
    release host rs w = (.done (), { rs with cursor := none }, w.fire rs.guards.own) := by
  simp only [release, bind_apply, get_apply, modify_apply, fire_apply, held]
  rfl

theorem giveUp_of_done {host : Host σ} {rs' : ResultSet} {w w' : World σ} (e : Error)
    (released : release host rs w = (.done (), rs', w')) :
    (giveUp e : Operation σ ResultSet α) host rs w = (.failed e, rs', w') :=
  bind_of_done (attempt_of_done released) _

/-- Giving up fails, if it comes to an end. -/
theorem giveUp_ends (host : Host σ) (rs : ResultSet) (w : World σ) (e : Error) : ∃ rs' w',
    (∀ α, (giveUp e : Operation σ ResultSet α) host rs w = (.failed e, rs', w')) ∨
      ∃ why, ∀ α, (giveUp e : Operation σ ResultSet α) host rs w = (.stuck why, rs', w') := by
  rcases run : release host rs w with ⟨u | e' | _, rs', w'⟩
  · exact ⟨rs', w', .inl fun α => bind_of_done (attempt_of_done run) _⟩
  · exact ⟨rs', w', .inl fun α => bind_of_done (attempt_of_failed run) _⟩
  · exact ⟨rs', w', .inr ⟨_, fun α => bind_of_stuck (attempt_of_stuck run) _⟩⟩

theorem release_handle (host : Host σ) (rs : ResultSet) (w : World σ) :
    (release host rs w).2.1 = { rs with cursor := none } := by
  simp only [release, bind_apply, get_apply, modify_apply, fire_apply]
  cases rs.cursor with
  | none => rfl
  | some c =>
    simp only [bind_apply, signals_apply]
    split <;> rfl

theorem giveUp_handle (host : Host σ) (rs : ResultSet) (w : World σ) (e : Error) :
    ((giveUp e : Operation σ ResultSet α) host rs w).2.1 = { rs with cursor := none } := by
  rw [← release_handle host rs w]
  rcases run : release host rs w with ⟨u | e' | _, rs', w'⟩
  · rw [giveUp, bind_of_done (attempt_of_done run)]
    rfl
  · rw [giveUp, bind_of_done (attempt_of_failed run)]
    rfl
  · rw [giveUp, bind_of_stuck (attempt_of_stuck run)]

/-- Releases that are alike make giving up alike. -/
theorem giveUp_alike {host host' : Host σ} {w w' : World σ} (e : Error)
    (outcome : (release host' rs w').1 = (release host rs w).1)
    (session : (release host' rs w').2.2.session = (release host rs w).2.2.session)
    (exchanges : (release host' rs w').2.2.exchanges = (release host rs w).2.2.exchanges) :
    ((giveUp e : Operation σ ResultSet α) host' rs w').1 =
        ((giveUp e : Operation σ ResultSet α) host rs w).1 ∧
      ((giveUp e : Operation σ ResultSet α) host' rs w').2.2.session =
        ((giveUp e : Operation σ ResultSet α) host rs w).2.2.session ∧
      ((giveUp e : Operation σ ResultSet α) host' rs w').2.2.exchanges =
        ((giveUp e : Operation σ ResultSet α) host rs w).2.2.exchanges := by
  rcases run : release host rs w with ⟨out, rs₁, w₁⟩
  rcases run' : release host' rs w' with ⟨out', rs₁', w₁'⟩
  rw [run, run'] at outcome session exchanges
  obtain rfl : out' = out := outcome
  cases out' with
  | done u =>
    rw [giveUp, bind_of_done (attempt_of_done run), bind_of_done (attempt_of_done run')]
    exact ⟨rfl, session, exchanges⟩
  | failed e' =>
    rw [giveUp, bind_of_done (attempt_of_failed run), bind_of_done (attempt_of_failed run')]
    exact ⟨rfl, session, exchanges⟩
  | stuck =>
    rw [giveUp, bind_of_stuck (attempt_of_stuck run), bind_of_stuck (attempt_of_stuck run')]
    exact ⟨rfl, session, exchanges⟩

/-- Giving up gives the cursor back, unless the connection is gone, and fails when that is done. -/
theorem giveUp_back (host : Host σ) (w : World σ) (e : Error)
    (apart : rs.guards.own ≠ rs.guards.connection) :
    ∃ back, ((giveUp e : Operation σ ResultSet α) host rs w).2.2.exchanges =
        w.exchanges ++ back ∧
      back.map (·.call) = (if w.signals.isFired rs.guards.connection then [] else rs.holds) ∧
      (((giveUp e : Operation σ ResultSet α) host rs w).1 = .failed e ∨
        ((giveUp e : Operation σ ResultSet α) host rs w).1 = .stuck .waiting ∧
          ∃ x ∈ back, x.Stuck) := by
  cases connected : w.signals.isFired rs.guards.connection with
  | true =>
    rw [giveUp_of_done e (release_gone host connected)]
    exact ⟨[], by simp [World.fire], rfl, .inl rfl⟩
  | false =>
    cases held : rs.cursor with
    | none =>
      rw [giveUp_of_done e (release_none host held)]
      exact ⟨[], by simp [World.fire], by simp [holds, held], .inl rfl⟩
    | some c =>
      have released := release_held host held apart connected
      obtain ⟨out, w', made, added⟩ := call_record (.closeCursor c.id) ⟨none, []⟩ host
        { rs with cursor := none } (w.fire rs.guards.own)
      rw [callFreely, made] at released
      refine ⟨[⟨.closeCursor c.id, out⟩], ?_⟩
      rcases out with u | e' | _
      · rw [giveUp, bind_of_done (attempt_of_done released)]
        exact ⟨added, by simp [holds, held], .inl rfl⟩
      · rw [giveUp, bind_of_done (attempt_of_failed released)]
        exact ⟨added, by simp [holds, held], .inl rfl⟩
      · obtain rfl := call_stuck made
        rw [giveUp, bind_of_stuck (attempt_of_stuck released)]
        exact ⟨added, by simp [holds, held], .inr ⟨rfl, _, List.mem_singleton.2 rfl, rfl⟩⟩

/-- Only the answer to its one call matters. -/
theorem giveUp_congr {host host' : Host σ} {w : World σ} (e : Error)
    (same : ∀ c, host.answer c w.session = host'.answer c w.session) :
    (giveUp e : Operation σ ResultSet α) host rs w = giveUp e host' rs w := by
  have released : release host rs w = release host' rs w := by
    simp only [release, bind_apply, get_apply, modify_apply, fire_apply]
    cases rs.cursor with
    | none => rfl
    | some c =>
      simp only [bind_apply, signals_apply]
      split
      · rfl
      · rw [callFreely, call_apply, call_apply]
        show (_, _, _) = (_, _, _)
        rw [show (w.fire rs.guards.own).session = w.session from rfl, same]
  simp only [giveUp, bind_apply, Operation.attempt, released]
  rcases release host' rs w with ⟨_ | _ | _, _, _⟩ <;> rfl

/-- A failure among several rows is handled once, behind the loop. -/
theorem collect_closing (limit rounds : Nat) (rows : List Row) (host : Host σ) (rs : ResultSet)
    (w : World σ) :
    iterate (collectRow limit) rounds rows host rs w =
      closing (iterate (gatherRow limit) rounds rows) giveUp host rs w := by
  induction rounds generalizing rows rs w with
  | zero => rfl
  | succ rounds ih =>
    by_cases enough : limit ≠ 0 ∧ limit ≤ rows.length
    · rw [iterate_enough enough, gather_enough enough]
      rfl
    · have step := gather_more (σ := σ) rounds enough
      rcases run : readRow host rs w with ⟨row | e | _, rs₁, w₁⟩
      · have next := nextRow_done run
        cases row with
        | none =>
          rw [iterate_none enough next, closing_of_done]
          rw [step, bind_of_done run]
          rfl
        | some row =>
          rw [iterate_row enough next, ih]
          exact closing_congr (by rw [step, bind_of_done run])
      · have failed : iterate (gatherRow limit) (rounds + 1) rows host rs w =
            (.failed e, rs₁, w₁) := by
          rw [step, bind_of_failed run]
        have next : nextRow host rs w = giveUp e host rs₁ w₁ := nextRow_failed run
        rw [closing_of_failed failed]
        obtain ⟨rs₂, w₂, ends | ⟨why, ends⟩⟩ := giveUp_ends host rs₁ w₁ e
        · rw [iterate_failed enough (next.trans (ends _)), ends]
        · rw [iterate_stuck enough (next.trans (ends _)), ends]
      · have next := nextRow_stuck run
        rw [iterate_stuck enough next, closing_of_stuck]
        rw [step, bind_of_stuck run]

section Settling

variable {t u : Operation (σ × Nat) ResultSet α} {rs' : ResultSet} {w w' : World (σ × Nat)}
  {looks looks' : World (σ × Nat) → List Exchange → Prop} {new : List Exchange} {e : Error}

/-- Where an operation was stopped, giving up is all that it still does. -/
theorem giveUp_fails {made : List Exchange} (host : Host (σ × Nat))
    (stopped : i.Stopped (Holds i.guards id) w made rs w') :
    i.Fails (id.toList.map .closeCursor) w made
      ((giveUp i.error : Operation (σ × Nat) ResultSet α) host rs w') := by
  have guards := stopped.kept.1
  obtain ⟨back, added, calls, ends⟩ := giveUp_back (α := α) host w' i.error
    (by rw [guards]; exact i.apart)
  refine ⟨back, by rw [added, stopped.added], ?_, ends⟩
  rw [calls, guards, stopped.connection, stopped.kept.holds]
  by_cases gone : i.guards.connection ∈ i.signals <;> simp [gone]

/-- Giving up behind the cancellation, as long as the connection is there on both sides. -/
theorem giveUp_onward {host : Host (σ × Nat)} (late : i.Late host) (beside : i.Beside w w')
    (held : rs.Holds i.guards id) (connected : w.signals.isFired i.guards.connection = false)
    (connected' : w'.signals.isFired i.guards.connection = false) :
    ((giveUp e : Operation (σ × Nat) ResultSet α) host rs w').1 =
        ((giveUp e : Operation (σ × Nat) ResultSet α) i.calm rs w).1 ∧
      ((giveUp e : Operation (σ × Nat) ResultSet α) host rs w').2.2.session =
        ((giveUp e : Operation (σ × Nat) ResultSet α) i.calm rs w).2.2.session ∧
      ((giveUp e : Operation (σ × Nat) ResultSet α) host rs w').2.2.exchanges =
        ((giveUp e : Operation (σ × Nat) ResultSet α) i.calm rs w).2.2.exchanges := by
  have apart : rs.guards.own ≠ rs.guards.connection := by
    rw [held.1]
    exact i.apart
  rw [← held.1] at connected connected'
  cases there : rs.cursor with
  | none =>
    rw [giveUp_of_done e (release_none host there), giveUp_of_done e (release_none i.calm there)]
    exact ⟨rfl, beside.session, beside.exchanges⟩
  | some c =>
    obtain ⟨outcome, -, session, exchanges, -⟩ := Onward.call (h := { rs with cursor := none })
      late (.closeCursor c.id) ⟨none, []⟩ rfl rfl rfl (fun _ => rfl)
      (beside.fireAll [rs.guards.own])
    have calm := release_held i.calm there apart connected
    have cancelled := release_held host there apart connected'
    rw [callFreely] at calm cancelled
    apply giveUp_alike e
    · rw [calm, cancelled]
      exact outcome
    · rw [calm, cancelled]
      exact session
    · rw [calm, cancelled]
      exact exchanges

/-- An operation that goes on to its end gives up, if it does, as it would have. What it holds is
not given back once the connection is gone. -/
theorem endsAlike {host : Host (σ × Nat)} {back : List Exchange} (late : i.Late host)
    (calm : i.Calm (Holds i.guards id) w (t i.calm rs w) new)
    (onward : i.Onward (t i.calm rs w) (t host rs w'))
    (added : (closing t giveUp i.calm rs w).2.2.exchanges = w.exchanges ++ (new ++ back)) :
    i.EndsAlike (id.toList.map .closeCursor) w (new ++ back) (closing t giveUp i.calm rs w)
      (closing t giveUp host rs w') := by
  rcases ended : t i.calm rs w with ⟨out, rs₁, w₁⟩
  rcases ended' : t host rs w' with ⟨out', rs₁', w₁'⟩
  rw [ended] at calm onward
  rw [ended'] at onward
  obtain ⟨outcome, handle, session, exchanges, beside⟩ := onward
  obtain rfl : out' = out := outcome
  obtain rfl : rs₁' = rs₁ := handle
  cases out' with
  | done a =>
    rw [closing_of_done ended, closing_of_done ended']
    exact ⟨rfl, .inl ⟨rfl, session, exchanges⟩⟩
  | stuck =>
    rw [closing_of_stuck ended, closing_of_stuck ended']
    exact ⟨rfl, .inl ⟨rfl, session, exchanges⟩⟩
  | failed e =>
    have beside : i.Beside w₁ w₁' := beside nofun
    rw [closing_of_failed ended, closing_of_failed ended']
    refine ⟨by rw [giveUp_handle, giveUp_handle], ?_⟩
    cases connected : w₁'.signals.isFired i.guards.connection with
    | false => exact .inl (giveUp_onward late beside calm.kept calm.connection connected)
    | true =>
      have fired := beside.fired_of_connection calm.connection connected
      have gone := fired.connection calm.connection
      rw [connected] at gone
      obtain ⟨back', added', calls, ends⟩ := giveUp_back (α := α) i.calm w₁ e
        (by rw [calm.kept.1]; exact i.apart)
      rw [closing_of_failed ended, added', calm.added, List.append_assoc] at added
      obtain rfl : back' = back := List.append_cancel_left (List.append_cancel_left added)
      rw [calm.kept.1, calm.connection, calm.kept.holds] at calls
      rw [giveUp_of_done e (release_gone host (by rw [calm.kept.1, connected]))]
      exact .inr ⟨of_decide_eq_true gone.symm, e, new, back', rfl,
        fired.exchanges.trans calm.added, rfl, calls, ends⟩

/-- What is done behind a failure calls for nothing but to close the cursor. -/
theorem closing_giveUp_back (calm : i.Calm (Holds i.guards id) w (t i.calm rs w) new) :
    ∃ back, (closing t giveUp i.calm rs w).2.2.exchanges = w.exchanges ++ (new ++ back) ∧
      ∀ x ∈ back, ∃ k, x.call = .closeCursor k := by
  rcases ended : t i.calm rs w with ⟨a | e | _, rs₁, w₁⟩ <;> rw [ended] at calm
  · rw [closing_of_done ended]
    exact ⟨[], by rw [List.append_nil, calm.added], by simp⟩
  · obtain ⟨back, added, calls, -⟩ := giveUp_back (α := α) i.calm w₁ e
      (by rw [calm.kept.1]; exact i.apart)
    rw [closing_of_failed ended]
    refine ⟨back, by rw [added, calm.added, List.append_assoc], fun x mem => ?_⟩
    have call := List.mem_map_of_mem (f := (·.call)) mem
    rw [calls] at call
    split at call
    · cases call
    · obtain ⟨c, -, same⟩ := List.mem_map.1 call
      exact ⟨c.id, same.symm⟩
  · rw [closing_of_stuck ended]
    exact ⟨[], by rw [List.append_nil, calm.added], by simp⟩

theorem settles_of_closing (ht : i.Interruptible (Holds i.guards id) looks' t rs')
    (run : ∀ host w, host.patience = i.host.patience → u host rs w = closing t giveUp host rs' w)
    (same : ∀ w c, c ≠ [] → (looks w c ↔ looks' w c))
    (last : ∀ w c, looks w c → ∀ x, c.getLast? = some x → ∀ k, x.call ≠ .closeCursor k) :
    i.Settles looks (id.toList.map .closeCursor) u rs := by
  intro w calm
  obtain ⟨new, calm₁, cut₁, yields₁⟩ := ht w calm
  obtain ⟨back, added, backs⟩ := closing_giveUp_back calm₁
  rw [← run i.calm w rfl] at added
  refine ⟨new ++ back, added, fun n x place there => ?_⟩
  have looksAt : ∀ m, n < m →
      (LooksAt looks w (new ++ back) m ↔ LooksAt looks' w new m) := fun m gt => by
    refine looksAt_append_back new back (Nat.zero_lt_of_lt gt) (fun x mem => ?_)
      (fun x mem c ends here => ?_) (same w)
    · obtain ⟨k, call⟩ := backs x mem
      rw [call]
      trivial
    · obtain ⟨k, call⟩ := backs x mem
      exact last w c here x ends k call
  have due := due_of_place place
  have le : w.session.2 ≤ i.place := by omega
  have index : i.place - w.session.2 = n := by omega
  refine ⟨fun asks => ?_, fun host late => ?_⟩
  · have lt : n < new.length := by
      refine Nat.not_le.1 fun ge => ?_
      rw [List.getElem?_append_right ge] at there
      obtain ⟨k, same⟩ := backs x (List.mem_of_getElem? there)
      exact asks (by rw [same]; trivial)
    rw [List.getElem?_append_left lt] at there
    obtain ⟨rs₁, w₁, stopped, count, runs⟩ := (cut₁ le).reached x (by rwa [index]) asks
    rw [index] at stopped
    refine ⟨giveUp i.error i.calm rs₁ w₁, fun host early => ?_, ?_⟩
    · rw [run host w early.patience, closing_of_failed (runs host early)]
      exact giveUp_congr i.error fun c => early.elsewhere c w₁.session (by omega)
    · rw [List.take_append_of_le_length (Nat.le_of_lt lt)]
      exact giveUp_fails i.calm stopped
  · rcases yields₁ host late w ((beside_of_le le).2 rfl) with
      ⟨onward, deaf⟩ | ⟨m, rs₁, w₁, first, stopped, stops⟩
    · refine .inr ⟨fun m gt here => deaf m (by omega) ((looksAt m gt).1 here), ?_⟩
      rw [run i.calm w rfl, run host w late.patience]
      rw [run i.calm w rfl] at added
      exact endsAlike late calm₁ onward added
    · have behind := first.due
      refine .inl ⟨m, ⟨by omega, (looksAt m (by omega)).2 first.here, fun m' gt lt' here => ?_⟩, ?_⟩
      · exact first.first m' (by omega) lt' ((looksAt m' gt).1 here)
      · rw [run host w late.patience, closing_of_failed stops,
          List.take_append_of_le_length first.here.le]
        exact giveUp_fails host stopped

end Settling

/-- Some of at most `limit` rows are there, for which the calls `made` were made, and another one
begins. -/
def OnNextRow (i : Interruption σ) (limit : Nat) (rs : ResultSet) (w : World (σ × Nat))
    (made : List Exchange) : Prop :=
  ∃ r, 0 < r ∧ (limit = 0 ∨ r < limit) ∧ ∃ rows rs₁ w₁,
    getRows r i.calm rs w = (.done rows, rs₁, w₁) ∧ rows.length = r ∧
      w₁.exchanges = w.exchanges ++ made

theorem getRow_closing (host : Host σ) (rs : ResultSet) (w : World σ) :
    getRow host rs w = closing readRow giveUp host { rs with fetched := true } w := by
  rw [getRow, markFetched, bind_of_done (modify_apply host rs w _), nextRow_closing]

theorem getRows_closing (limit : Nat) (host : Host σ) (rs : ResultSet) (w : World σ) :
    getRows limit host rs w =
      closing (iterate (gatherRow limit) host.patience []) giveUp host { rs with fetched := true }
        w := by
  rw [getRows_eq, markFetched, bind_of_done (modify_apply host rs w _), loop, collect_closing]

theorem onNextRow_iff {limit : Nat} {rs : ResultSet} {w : World (σ × Nat)} {made : List Exchange} :
    OnNextRow i limit rs w made ↔
      OnRow i limit i.host.patience [] { rs with fetched := true } w made := by
  have runs : ∀ {r rows rs₁ w₁}, getRows r i.calm rs w = (.done rows, rs₁, w₁) ↔
      iterate (gatherRow r) i.host.patience [] i.calm { rs with fetched := true } w =
        (.done rows, rs₁, w₁) := fun {r rows rs₁ w₁} => by
    rw [getRows_closing, show i.calm.patience = i.host.patience from rfl]
    refine ⟨fun run => ?_, closing_of_done⟩
    rcases run' : iterate (gatherRow r) i.host.patience [] i.calm { rs with fetched := true } w with
      ⟨rows' | e | _, rs₂, w₂⟩
    · rwa [closing_of_done run'] at run
    · obtain ⟨rs₃, w₃, ends | ⟨why, ends⟩⟩ := giveUp_ends i.calm rs₂ w₂ e
      · simp [closing_of_failed run', ends] at run
      · simp [closing_of_failed run', ends] at run
    · simp [closing_of_stuck run'] at run
  simp only [OnNextRow, OnRow, runs, List.length_nil]

theorem onFetch_last {w : World (σ × Nat)} {c : List Exchange} {x : Exchange}
    (here : OnAnswer Call.FetchesRows w c) (last : c.getLast? = some x) (k : Nat) :
    x.call ≠ .closeCursor k := by
  obtain ⟨y, last', fetches, -⟩ := here
  obtain rfl : y = x := by simpa [last] using last'.symm
  intro same
  rw [same] at fetches
  exact fetches

theorem onRow_last {limit rounds : Nat} {rows : List Row} {w : World (σ × Nat)}
    {c : List Exchange} {x : Exchange} (here : OnRow i limit rounds rows rs w c)
    (last : c.getLast? = some x) (k : Nat) : x.call ≠ .closeCursor k := by
  obtain ⟨r, -, -, got, rs₁, w₁, run, -, made⟩ := here
  obtain ⟨-, -, new, added, moves⟩ := gather_calls r rounds rows i.calm rs w (Eq.refl rs.guards)
  rw [run] at added
  obtain rfl : c = new := List.append_cancel_left (made.symm.trans added)
  intro same
  have moved := moves x (List.mem_of_getLast? last)
  rw [same] at moved
  exact moved

section Held

variable (closed : i.closed = .invalidResultSet) (guards : rs.guards = i.guards)

include closed guards

theorem getRow_settles : i.Settles (OnAnswer Call.FetchesRows) rs.holds getRow rs := by
  have held : ({ rs with fetched := true } : ResultSet).Holds i.guards (rs.cursor.map (·.id)) :=
    ⟨guards, rfl⟩
  rw [show rs.holds = _ from held.holds]
  exact settles_of_closing (readRow_interruptible closed held)
    (fun host w _ => getRow_closing host rs w) (fun w c some => by simp [some])
    fun w c here x last k => onFetch_last here last k

theorem getRows_settles (limit : Nat) :
    i.Settles (fun w c => OnAnswer Call.FetchesRows w c ∨ OnNextRow i limit rs w c) rs.holds
      (getRows limit) rs := by
  have held : ({ rs with fetched := true } : ResultSet).Holds i.guards (rs.cursor.map (·.id)) :=
    ⟨guards, rfl⟩
  rw [show rs.holds = _ from held.holds]
  refine settles_of_closing (gather_interruptible closed held)
    (fun host w patient => by rw [getRows_closing, patient])
    (fun w c some => by rw [onNextRow_iff]; simp [GatherLooks, some]) fun w c here x last k => ?_
  rcases here with here | here
  · exact onFetch_last here last k
  · exact onRow_last (onNextRow_iff.1 here) last k

end Held

end ResultSet

end SqlBinder

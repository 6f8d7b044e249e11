import SqlBinder.Proofs.Connection.Calls
import SqlBinder.Proofs.Session.Alike

/-!
One cancellation in the middle of an operation. A host that counts its calls answers one of them in
another way: signals of the handle fire before the answer is there, or right behind it. The
operation is set beside the same operation that nothing disturbs. Up to the call both are the same;
then the one that is cancelled goes on until it looks at its signals again.

An operation is `Interruptible` if three things are known of it: what its run is when nothing
disturbs it, that it stops at the round trip before whose answer the signals fire, and that behind
an answer it goes on to the first look or to its end. All of them are needed to pass from parts to a
whole.
-/
namespace SqlBinder

open Operation

variable {σ η α β ρ : Type}

/-- The call succeeded. -/
def Exchange.Done (x : Exchange) : Prop := ∃ r, x.outcome = .done r

/-! ## Waiting undisturbed -/

/-- The world behind a wait that nothing ends early. -/
def World.heard (w : World σ) (a : Answer σ ρ) : World σ :=
  if a.wait.isNone then w.asking a else (w.asking a).answered a

theorem Operation.await_quiet (a : Answer σ ρ) {watch : Watch} {w : World σ}
    (unlimited : watch.limit = none)
    (quiet : firstFired (w.asking a).signals watch.stops = none) :
    await a watch w = (a.result.1, w.heard a) := by
  have unmissed : watch.missed? a.wait = none := by simp [Watch.missed?, unlimited]
  simp only [await, quiet, unmissed, Answer.result, World.heard]
  split
  · rfl
  · cases a.reply <;> rfl

theorem World.exchanges_heard (w : World σ) (a : Answer σ ρ) :
    (w.heard a).exchanges = w.exchanges := by
  unfold heard
  split <;> rfl

theorem World.session_heard (w : World σ) (a : Answer σ ρ) :
    (w.heard a).session = a.result.2 := by
  unfold heard Answer.result
  split
  · rfl
  · cases a.reply <;> rfl

/-- The answer, with signals that fire right behind it. -/
def Answer.behind (a : Answer σ ρ) (xs : List Signal) : Answer σ ρ :=
  { a with after := a.after ++ xs }

/-- The host, counting the calls that it answers. -/
def Host.counted (host : Host σ) : Host (σ × Nat) where
  answer c s :=
    let a := host.answer c s.1
    ⟨(a.begun, s.2 + 1), a.wait, a.during, a.after, (a.finished, s.2 + 1), a.reply⟩
  patience := host.patience

/-- Whatever the answer comes to, the call is counted. -/
theorem Host.result_counted (host : Host σ) (c : Call) (s : σ × Nat) :
    (host.counted.answer c s).result.2.2 = s.2 + 1 := by
  unfold Answer.result
  split
  · rfl
  · cases (host.counted.answer c s).reply <;> rfl

/-! ## Cancellations -/

/-- A cancellation of a handle, of its connection, or of both, at one of the calls that a
session answers. -/
structure Interruption (σ : Type) where
  host : Host σ
  guards : Guards
  /-- The error of the handle once it is closed. -/
  closed : Error
  /-- The signals that fire. -/
  signals : List Signal
  /-- How many calls are answered before. -/
  place : Nat
  apart : guards.own ≠ guards.connection
  heeded : guards.own ∈ signals ∨ guards.connection ∈ signals

namespace Interruption

variable (i : Interruption σ)

/-- What the operation fails with. The connection wins. -/
def error : Error :=
  if i.guards.connection ∈ i.signals then .connectionClosed else i.closed

/-- The session without the cancellation. -/
def calm : Host (σ × Nat) := i.host.counted

/-- The answer with the signals of the cancellation before it. -/
def cut (a : Answer (σ × Nat) ρ) : Answer (σ × Nat) ρ := { a with during := a.during ++ i.signals }

/-- Sessions with the cancellation before the answer or together with it. The answer itself is
any. -/
structure Early (host : Host (σ × Nat)) : Prop where
  patience : host.patience = i.host.patience
  elsewhere : ∀ c s, s.2 ≠ i.place → host.answer c s = i.calm.answer c s
  begun : ∀ c s, (host.answer c s).begun = (i.calm.answer c s).begun
  wait : ∀ c s, (host.answer c s).wait = (i.calm.answer c s).wait
  during : ∀ c s, s.2 = i.place →
    (host.answer c s).during = (i.calm.answer c s).during ++ i.signals

/-- Sessions with the cancellation right behind the answer. It may come before an answer to which
no guard is set. -/
structure Late (host : Host (σ × Nat)) : Prop where
  patience : host.patience = i.host.patience
  elsewhere : ∀ c s, s.2 ≠ i.place → host.answer c s = i.calm.answer c s
  here : ∀ c s, s.2 = i.place → host.answer c s = (i.calm.answer c s).behind i.signals ∨
    c.Closes ∧ host.answer c s = i.cut (i.calm.answer c s)

/-- A session with the cancellation before the answer. -/
def early : Host (σ × Nat) where
  answer c s := if s.2 = i.place then i.cut (i.calm.answer c s) else i.calm.answer c s
  patience := i.host.patience

/-- A session with the cancellation right behind the answer. -/
def late : Host (σ × Nat) where
  answer c s :=
    if s.2 = i.place then (i.calm.answer c s).behind i.signals else i.calm.answer c s
  patience := i.host.patience

theorem early_early : i.Early i.early where
  patience := rfl
  elsewhere _ _ ne := if_neg ne
  begun c s := by
    simp only [early]
    split <;> rfl
  wait c s := by
    simp only [early]
    split <;> rfl
  during c s here := by
    simp only [early, if_pos here]
    rfl

theorem late_late : i.Late i.late where
  patience := rfl
  elsewhere _ _ ne := if_neg ne
  here _ _ there := .inl (if_pos there)

/-- The same world in which the signals of the cancellation have fired. -/
structure Fired (w w' : World (σ × Nat)) : Prop where
  session : w'.session = w.session
  exchanges : w'.exchanges = w.exchanges
  armed : w'.armed = w.armed
  signals : ∀ x, w'.signals.isFired x = (w.signals.isFired x || i.signals.contains x)

/-- The world of the operation that is cancelled beside that of the one that is not: the same up to
the cancellation, and behind it the same with the signals fired. -/
def Beside (w w' : World (σ × Nat)) : Prop :=
  if w.session.2 ≤ i.place then w' = w else i.Fired w w'

/-- How many calls are made from here until the signals have fired. -/
def due (w : World (σ × Nat)) : Nat := i.place + 1 - w.session.2

/-- Of the calls `new`, behind the first `m` the signals are looked at: a guarded round trip comes
next, or one of the other looks, which are told by the world `w` at the beginning and the calls
since. -/
def LooksAt (looks : World (σ × Nat) → List Exchange → Prop) (w : World (σ × Nat))
    (new : List Exchange) (m : Nat) : Prop :=
  (∃ x, new[m]? = some x ∧ ¬ x.call.Closes) ∨ m ≤ new.length ∧ looks w (new.take m)

/-- The first such place behind the cancellation. -/
structure LooksFirst (looks : World (σ × Nat) → List Exchange → Prop) (w : World (σ × Nat))
    (new : List Exchange) (m : Nat) : Prop where
  due : i.due w ≤ m
  here : LooksAt looks w new m
  first : ∀ m', i.due w ≤ m' → m' < m → ¬ LooksAt looks w new m'

/-- A run that nothing disturbs made the calls `new`. -/
structure Calm (I : η → Prop) (w : World (σ × Nat)) (run : Outcome α × η × World (σ × Nat))
    (new : List Exchange) : Prop where
  added : run.2.2.exchanges = w.exchanges ++ new
  counted : run.2.2.session.2 = w.session.2 + new.length
  kept : I run.2.1
  connection : run.2.2.signals.isFired i.guards.connection = false
  undisturbed : ∀ a, run.1 = .done a → Undisturbed i.calm i.guards run.2.2

/-- Where a run is that was stopped behind the calls `made`. -/
structure Stopped (I : η → Prop) (w : World (σ × Nat)) (made : List Exchange) (h : η)
    (w' : World (σ × Nat)) : Prop where
  kept : I h
  added : w'.exchanges = w.exchanges ++ made
  connection : w'.signals.isFired i.guards.connection = decide (i.guards.connection ∈ i.signals)

/-- With the cancellation before the answer to a guarded round trip the operation stops at it,
and the answer leaves no trace. -/
structure Cut (I : η → Prop) (t : Operation (σ × Nat) η α) (h : η) (w : World (σ × Nat))
    (new : List Exchange) : Prop where
  unreached : (t i.calm h w).2.2.session.2 ≤ i.place → ∀ host, i.Early host →
    t host h w = t i.calm h w
  reached : ∀ x, new[i.place - w.session.2]? = some x → ¬ x.call.Closes →
    ∃ h₁ w₁, i.Stopped I w (new.take (i.place - w.session.2) ++ [⟨x.call, .failed i.error⟩]) h₁ w₁ ∧
      w₁.session.2 = i.place + 1 ∧ ∀ host, i.Early host → t host h w = (.failed i.error, h₁, w₁)

/-- The operation goes on as if it had not been cancelled. -/
structure Onward (run run' : Outcome α × η × World (σ × Nat)) : Prop where
  outcome : run'.1 = run.1
  handle : run'.2.1 = run.2.1
  session : run'.2.2.session = run.2.2.session
  exchanges : run'.2.2.exchanges = run.2.2.exchanges
  beside : (∀ why, run.1 ≠ .stuck why) → i.Beside run.2.2 run'.2.2

/-- With the cancellation behind an answer the operation goes on to the next look, where it fails,
and the calls that it would have made behind that are not made; or to its end, if it does not look
again. -/
def Yields (host : Host (σ × Nat)) (I : η → Prop)
    (looks : World (σ × Nat) → List Exchange → Prop) (t : Operation (σ × Nat) η α) (h : η)
    (w w' : World (σ × Nat)) (new : List Exchange) : Prop :=
  (i.Onward (t i.calm h w) (t host h w') ∧ ∀ m, i.due w ≤ m → ¬ LooksAt looks w new m) ∨
    ∃ m h₁ w₁, i.LooksFirst looks w new m ∧ i.Stopped I w (new.take m) h₁ w₁ ∧
      t host h w' = (.failed i.error, h₁, w₁)

/-- What a cancellation does to an operation on the handle `h`, from any world in which nothing has
happened to its signals. `new` are the calls of the run that nothing disturbs, and both other runs
are measured by them. -/
def Interruptible (I : η → Prop) (looks : World (σ × Nat) → List Exchange → Prop)
    (t : Operation (σ × Nat) η α) (h : η) : Prop :=
  ∀ w, Undisturbed i.calm i.guards w → ∃ new, i.Calm I w (t i.calm h w) new ∧
    (w.session.2 ≤ i.place → i.Cut I t h w new) ∧
    ∀ host, i.Late host → ∀ w', i.Beside w w' → i.Yields host I looks t h w w' new

/-- An operation that looks at its signals with its guarded round trips only. -/
abbrev Deaf (I : η → Prop) (t : Operation (σ × Nat) η α) (h : η) : Prop :=
  i.Interruptible I (fun _ _ => False) t h

variable {i} {I : η → Prop} {looks looks' : World (σ × Nat) → List Exchange → Prop} {h : η}
  {w w' : World (σ × Nat)}

/-! ## Worlds beside each other -/

theorem beside_of_le (before : w.session.2 ≤ i.place) : i.Beside w w' ↔ w' = w := by
  rw [Beside, if_pos before]

theorem beside_of_lt (behind : i.place < w.session.2) : i.Beside w w' ↔ i.Fired w w' := by
  rw [Beside, if_neg (Nat.not_le.2 behind)]

theorem Beside.cases (beside : i.Beside w w') :
    (w.session.2 ≤ i.place ∧ w' = w) ∨ (i.place < w.session.2 ∧ i.Fired w w') := by
  by_cases before : w.session.2 ≤ i.place
  · exact .inl ⟨before, (beside_of_le before).1 beside⟩
  · have behind := Nat.not_le.1 before
    exact .inr ⟨behind, (beside_of_lt behind).1 beside⟩

theorem Beside.exchanges (beside : i.Beside w w') : w'.exchanges = w.exchanges := by
  rcases beside.cases with ⟨-, rfl⟩ | ⟨-, fired⟩
  · rfl
  · exact fired.exchanges

theorem Beside.session (beside : i.Beside w w') : w'.session = w.session := by
  rcases beside.cases with ⟨-, rfl⟩ | ⟨-, fired⟩
  · rfl
  · exact fired.session

/-- What makes no call on either side leaves them beside each other. -/
theorem Beside.map {f : World (σ × Nat) → World (σ × Nat)} (beside : i.Beside w w')
    (still : (f w).session = w.session) (fires : i.Fired w w' → i.Fired (f w) (f w')) :
    i.Beside (f w) (f w') := by
  rcases beside.cases with ⟨before, rfl⟩ | ⟨behind, fired⟩
  · exact (beside_of_le (by rwa [still])).2 rfl
  · exact (beside_of_lt (by rwa [still])).2 (fires fired)

/-- Of the guards the connection's is heeded first. -/
theorem firstFired_error {s : Signals}
    (connection : s.isFired i.guards.connection = decide (i.guards.connection ∈ i.signals))
    (own : i.guards.own ∈ i.signals → s.isFired i.guards.own = true) :
    firstFired s (i.guards.stops i.closed) = some i.error := by
  simp only [Guards.stops, firstFired, error, connection]
  by_cases both : i.guards.connection ∈ i.signals
  · simp [both]
  · simp [both, own (i.heeded.resolve_right both)]

theorem Fired.connection (calm : w.signals.isFired i.guards.connection = false)
    (fired : i.Fired w w') :
    w'.signals.isFired i.guards.connection = decide (i.guards.connection ∈ i.signals) := by
  rw [fired.signals, calm]
  simp

/-- Where the connection's signal has fired on one side only, the cancellation is behind. -/
theorem Beside.fired_of_connection (beside : i.Beside w w')
    (calm : w.signals.isFired i.guards.connection = false)
    (fired : w'.signals.isFired i.guards.connection = true) : i.Fired w w' := by
  rcases beside.cases with ⟨-, rfl⟩ | ⟨-, there⟩
  · rw [calm] at fired
    cases fired
  · exact there

/-- Once the signals have fired a look fails. -/
theorem Fired.stops (calm : Undisturbed i.calm i.guards w) (fired : i.Fired w w') :
    firstFired w'.signals (i.guards.stops i.closed) = some i.error := by
  refine firstFired_error (fired.connection calm.connection) fun own => ?_
  rw [fired.signals]
  simp [own]

theorem Fired.fireAll (xs : List Signal) (fired : i.Fired w w') :
    i.Fired (w.fireAll xs) (w'.fireAll xs) where
  session := fired.session
  exchanges := fired.exchanges
  armed := fired.armed
  signals x := by simp [World.fireAll, fired.signals, Bool.or_assoc]

theorem Fired.heard {a : Answer (σ × Nat) ρ} (fired : i.Fired w w') :
    i.Fired (w.heard a) (w'.heard a) := by
  have asked : i.Fired (w.asking a) (w'.asking a) := by
    have sent : i.Fired { w with session := a.begun } { w' with session := a.begun } :=
      ⟨rfl, fired.exchanges, fired.armed, fired.signals⟩
    have same : w'.asking a = { w' with session := a.begun }.fireAll
        (a.during ++ if a.waits then w.armed else []) := by
      rw [World.asking, fired.armed]
    rw [same]
    exact sent.fireAll _
  unfold World.heard
  split
  · exact asked
  · have there : i.Fired { w.asking a with session := a.finished }
        { w'.asking a with session := a.finished } :=
      ⟨rfl, asked.exchanges, asked.armed, asked.signals⟩
    exact there.fireAll a.after

theorem Fired.record (fired : i.Fired w w') (x : Exchange) :
    i.Fired (w.record x) (w'.record x) where
  session := fired.session
  exchanges := by rw [World.record, World.record, fired.exchanges]
  armed := fired.armed
  signals := fired.signals

/-- Signals that fire right behind an answer that comes. -/
theorem Fired.behind {a : Answer (σ × Nat) ρ} (there : a.wait.isNone = false) :
    i.Fired (w.heard a) (w.heard (a.behind i.signals)) := by
  have then_ : w.heard (a.behind i.signals) = (w.heard a).fireAll i.signals := by
    have here : (a.behind i.signals).wait.isNone = false := there
    rw [World.heard, World.heard, there, here]
    simp [World.answered, World.fireAll, Signals.fireAll, Answer.behind, World.asking,
      Answer.waits]
  rw [then_]
  exact ⟨rfl, rfl, rfl, fun x => by simp [World.fireAll, Bool.or_comm]⟩

/-- Signals that fire before an answer that is waited for all the same. -/
theorem Fired.cut {a : Answer (σ × Nat) ρ} : i.Fired (w.heard a) (w.heard (i.cut a)) := by
  have asked : i.Fired (w.asking a) (w.asking (i.cut a)) := by
    have fires : w.asking (i.cut a) = { w with session := a.begun }.fireAll
        (a.during ++ i.signals ++ if a.waits then w.armed else []) := rfl
    rw [fires]
    refine ⟨rfl, rfl, rfl, fun x => ?_⟩
    simp only [World.asking, World.fireAll, Signals.isFired_fireAll, List.contains_append]
    cases a.during.contains x <;> cases i.signals.contains x <;> simp
  have wait : (i.cut a).wait = a.wait := rfl
  unfold World.heard
  rw [wait]
  split
  · exact asked
  · have there : i.Fired { w.asking a with session := a.finished }
        { w.asking (i.cut a) with session := a.finished } :=
      ⟨rfl, asked.exchanges, asked.armed, asked.signals⟩
    exact there.fireAll a.after

/-! ## Operations without a call -/

theorem due_pos (before : w.session.2 ≤ i.place) : 0 < i.due w := by
  unfold due
  omega

theorem not_looksAt_nil {m : Nat} : ¬ LooksAt (fun _ _ => False) w [] m := by
  simp [LooksAt]

/-- An operation that makes no call and looks at no signal. -/
theorem Interruptible.silent {t : Operation (σ × Nat) η α} {out : Outcome α} {k : η}
    (run : ∀ host w, t host h w = (out, k, w)) (kept : I k) : i.Deaf I t h := by
  intro w calm
  refine ⟨[], ?_, fun _ => ⟨fun _ host _ => by rw [run, run], fun x there => by simp at there⟩,
    fun host _ w' beside => .inl ⟨?_, ?_⟩⟩
  · rw [run]
    exact ⟨by simp, rfl, kept, calm.connection, fun _ _ => calm⟩
  · rw [run, run]
    exact ⟨rfl, rfl, beside.session, beside.exchanges, fun _ => beside⟩
  · exact fun m _ => not_looksAt_nil

/-- The operation does nothing but look, and comes to `out` as long as nothing has fired. -/
def OnlyLooks (i : Interruption σ) (t : Operation (σ × Nat) η α) (h : η) (out : Outcome α) : Prop :=
  ∀ host w, t host h w =
    match firstFired w.signals (i.guards.stops i.closed) with
    | some e => (.failed e, h, w)
    | none => (out, h, w)

theorem OnlyLooks.undisturbed {t : Operation (σ × Nat) η α} {out : Outcome α}
    (looks : i.OnlyLooks t h out) (calm : Undisturbed i.calm i.guards w) (host : Host (σ × Nat)) :
    t host h w = (out, h, w) := by
  rw [looks, calm.stops_none]

theorem Interruptible.of_look {t : Operation (σ × Nat) η α} {out : Outcome α}
    (look : i.OnlyLooks t h out) (kept : I h) :
    i.Interruptible I (fun _ made => made = []) t h := by
  intro w calm
  have still := look.undisturbed calm
  refine ⟨[], ?_, fun _ => ⟨fun _ host _ => by rw [still, still], fun x there => by simp at there⟩,
    fun host _ w' beside => ?_⟩
  · rw [still]
    exact ⟨by simp, rfl, kept, calm.connection, fun _ _ => calm⟩
  · rcases beside.cases with ⟨before, rfl⟩ | ⟨behind, fired⟩
    · have pos := due_pos before
      refine .inl ⟨?_, fun m due here => ?_⟩
      · rw [still, still]
        exact ⟨rfl, rfl, rfl, rfl, fun _ => beside⟩
      · rcases here with ⟨x, there, -⟩ | ⟨le, -⟩
        · simp at there
        · have : m ≤ 0 := le
          omega
    · refine .inr ⟨0, h, w', ⟨?_, .inr ⟨Nat.le_refl _, rfl⟩, fun m' _ lt => absurd lt (by omega)⟩,
        ⟨kept, by simp [fired.exchanges], fired.connection calm.connection⟩, ?_⟩
      · unfold due
        omega
      · rw [look, fired.stops calm]

/-! ## Round trips -/

theorem call_calm {c : Call} {watch : Watch} (unlimited : watch.limit = none)
    (quiet : firstFired (w.asking (i.calm.answer c w.session)).signals watch.stops = none) :
    call c watch i.calm h w =
      ((i.calm.answer c w.session).result.1, h, (w.heard (i.calm.answer c w.session)).record
        ⟨c, (i.calm.answer c w.session).result.1⟩) := by
  rw [call_apply, await_quiet _ unlimited quiet]

/-- What a call comes to that is waited for to its end. -/
theorem Calm.call (c : Call) (watch : Watch) (calm : Undisturbed i.calm i.guards w) (kept : I h)
    (unlimited : watch.limit = none)
    (quiet : firstFired (w.asking (i.calm.answer c w.session)).signals watch.stops = none) :
    i.Calm I w (call c watch i.calm h w) [⟨c, (i.calm.answer c w.session).result.1⟩] := by
  have after := calm.await c watch
  rw [await_quiet _ unlimited quiet] at after
  rw [call_calm unlimited quiet]
  refine ⟨by rw [World.record, World.exchanges_heard], ?_, kept, after.connection,
    fun _ _ => after.of_signals rfl rfl⟩
  show (w.heard _).session.2 = _
  rw [World.session_heard]
  exact i.host.result_counted c w.session

theorem Beside.record (beside : i.Beside w w') (x : Exchange) :
    i.Beside (w.record x) (w'.record x) :=
  beside.map (f := (·.record x)) rfl fun fired => fired.record x

theorem Beside.fireAll (beside : i.Beside w w') (xs : List Signal) :
    i.Beside (w.fireAll xs) (w'.fireAll xs) :=
  beside.map (f := (·.fireAll xs)) rfl fun fired => fired.fireAll xs

/-- A call comes to the same if its answer does and is heard to the end on both sides. -/
theorem Onward.of_heard {host : Host (σ × Nat)} {c : Call} {watch : Watch}
    {a : Answer (σ × Nat) c.Reply} (unlimited : watch.limit = none)
    (quiet : firstFired (w.asking (i.calm.answer c w.session)).signals watch.stops = none)
    (answer : host.answer c w'.session = a)
    (quiet' : firstFired (w'.asking a).signals watch.stops = none)
    (same : a.result = (i.calm.answer c w.session).result) (exchanges : w'.exchanges = w.exchanges)
    (beside : (∀ why, (i.calm.answer c w.session).result.1 ≠ .stuck why) →
      i.Beside (w.heard (i.calm.answer c w.session)) (w'.heard a)) :
    i.Onward (call c watch i.calm h w) (call c watch host h w') := by
  have run : call c watch host h w' = ((i.calm.answer c w.session).result.1, h,
      (w'.heard a).record ⟨c, (i.calm.answer c w.session).result.1⟩) := by
    rw [call_apply, answer, await_quiet a unlimited quiet', same]
  rw [call_calm unlimited quiet, run]
  refine ⟨rfl, rfl, ?_, ?_, fun unstuck => (beside unstuck).record _⟩
  · show (w'.heard a).session = (w.heard _).session
    rw [World.session_heard, World.session_heard, same]
  · simp only [World.record, World.exchanges_heard, exchanges]

/-- With the cancellation behind the answer to a call, or behind an earlier one of which the call
does not know, the call comes to the same. -/
theorem Onward.call {host : Host (σ × Nat)} (late : i.Late host) (c : Call) (watch : Watch)
    (unlimited : watch.limit = none)
    (quiet : firstFired (w.asking (i.calm.answer c w.session)).signals watch.stops = none)
    (quiet' : firstFired (w'.asking (i.calm.answer c w.session)).signals watch.stops = none)
    (unguarded : c.Closes → watch.stops = []) (beside : i.Beside w w') :
    i.Onward (call c watch i.calm h w) (call c watch host h w') := by
  have counted : (w.heard (i.calm.answer c w.session)).session.2 = w.session.2 + 1 := by
    rw [World.session_heard]
    exact i.host.result_counted c w.session
  by_cases here : w.session.2 = i.place
  · obtain rfl := (beside_of_le (Nat.le_of_eq here)).1 beside
    have behind : i.place < (w'.heard (i.calm.answer c w'.session)).session.2 := by omega
    rcases late.here c w'.session here with answer | ⟨closes, answer⟩
    · refine .of_heard unlimited quiet answer quiet rfl rfl fun unstuck => ?_
      refine (beside_of_lt behind).2 (Fired.behind ?_)
      rw [Bool.eq_false_iff]
      exact fun never => unstuck .waiting (by rw [Answer.result, if_pos never])
    · refine .of_heard unlimited quiet answer ?_ rfl rfl fun _ => (beside_of_lt behind).2 .cut
      rw [unguarded closes]
      rfl
  · have answer : host.answer c w'.session = i.calm.answer c w.session := by
      rw [beside.session, late.elsewhere c _ here]
    refine .of_heard unlimited quiet answer quiet' rfl beside.exchanges fun _ => ?_
    rcases beside.cases with ⟨before, rfl⟩ | ⟨behind, fired⟩
    · exact (beside_of_le (by omega)).2 rfl
    · exact (beside_of_lt (by omega)).2 fired.heard

theorem Early.asking {host : Host (σ × Nat)} (early : i.Early host) (c : Call)
    (here : w.session.2 = i.place) :
    w.asking (host.answer c w.session) = w.asking (i.cut (i.calm.answer c w.session)) := by
  have begun := early.begun c w.session
  have during := early.during c w.session here
  have waits : (host.answer c w.session).waits = (i.calm.answer c w.session).waits := by
    rw [Answer.waits, early.wait]
    rfl
  simp only [World.asking, begun, during, waits]
  rfl

/-- While the answer is waited for the signals fire, and no other guard. -/
theorem asking_cut (calm : Undisturbed i.calm i.guards w) (c : Call) {x : Signal}
    (guard : x = i.guards.own ∨ x = i.guards.connection) :
    (w.asking (i.cut (i.calm.answer c w.session))).signals.isFired x = decide (x ∈ i.signals) := by
  have asked : (w.asking (i.calm.answer c w.session)).signals.isFired x = false := by
    rcases guard with rfl | rfl
    · exact (calm.asking c).own
    · exact (calm.asking c).connection
  have cut_ : w.asking (i.cut (i.calm.answer c w.session)) =
      { w with session := (i.calm.answer c w.session).begun }.fireAll
        ((i.calm.answer c w.session).during ++ i.signals ++
          if (i.calm.answer c w.session).waits then w.armed else []) := rfl
  rw [cut_]
  simp only [World.asking, World.fireAll, Signals.isFired_fireAll, List.contains_append,
    Bool.or_eq_false_iff] at asked ⊢
  obtain ⟨⟨during, armed⟩, before⟩ := asked
  rw [during, armed, before]
  simp

/-- A guarded call before whose answer the signals fire. -/
theorem Early.call {host : Host (σ × Nat)} (early : i.Early host) {c : Call}
    (calm : Undisturbed i.calm i.guards w) (here : w.session.2 = i.place) :
    call c ⟨none, i.guards.stops i.closed⟩ host h w =
      (.failed i.error, h, (w.asking (i.cut (i.calm.answer c w.session))).record
        ⟨c, .failed i.error⟩) := by
  have fired : firstFired (w.asking (host.answer c w.session)).signals
      (i.guards.stops i.closed) = some i.error := by
    rw [early.asking c here]
    refine firstFired_error (asking_cut calm c (.inr rfl)) fun own => ?_
    simp [asking_cut calm c (.inl rfl), own]
  have waited : await (host.answer c w.session) ⟨none, i.guards.stops i.closed⟩ w =
      (.failed i.error, w.asking (host.answer c w.session)) := by
    simp only [await, fired]
  rw [call_apply, waited, early.asking c here]

/-- A call that nothing can end early, and that the handle has behind it whatever fires. -/
theorem Interruptible.callFreely {c : Call} (closes : c.Closes) (kept : I h) :
    i.Deaf I (callFreely c) h := by
  intro w calm
  have calmly := Calm.call c ⟨none, []⟩ calm kept rfl rfl
  refine ⟨_, calmly, fun before => ⟨fun unreached host early => ?_, ?_⟩,
    fun host late w' beside =>
      .inl ⟨Onward.call late c ⟨none, []⟩ rfl rfl rfl (fun _ => rfl) beside, ?_⟩⟩
  · have elsewhere : w.session.2 ≠ i.place := fun same => by
      rw [Operation.callFreely, calmly.counted, same] at unreached
      exact absurd unreached (by simp)
    rw [Operation.callFreely, call_apply, call_apply, early.elsewhere c _ elsewhere]
  · intro x there open_
    cases hn : i.place - w.session.2 with
    | zero =>
      rw [hn] at there
      cases there
      exact absurd closes open_
    | succ n => simp [hn] at there
  · rintro m - (⟨x, there, open_⟩ | ⟨-, none⟩)
    · cases m with
      | zero =>
        cases there
        exact open_ closes
      | succ m => simp at there
    · exact none

/-- One guarded round trip. -/
theorem Interruptible.guarded {c : Call} (asks : ¬ c.Closes) (kept : I h) :
    i.Deaf I (guarded i.guards i.closed c) h := by
  intro w calm
  have begin_ : ∀ host, Operation.guarded i.guards i.closed c host h w =
      call c ⟨none, i.guards.stops i.closed⟩ host h w := fun host => by
    rw [guarded_apply, calm.stops_none]
  have quiet := (calm.asking c).stops_none i.closed
  have calmly := Calm.call c ⟨none, i.guards.stops i.closed⟩ calm kept rfl quiet
  refine ⟨_, by rw [begin_]; exact calmly, fun before => ⟨fun unreached host early => ?_, ?_⟩,
    fun host late w' beside => ?_⟩
  · rw [begin_, calmly.counted] at unreached
    have elsewhere : w.session.2 ≠ i.place := fun same => by
      rw [same] at unreached
      exact absurd unreached (by simp)
    rw [begin_, begin_, call_apply, call_apply, early.elsewhere c _ elsewhere]
  · intro x there _
    cases hn : i.place - w.session.2 with
    | succ n => simp [hn] at there
    | zero =>
      rw [hn] at there
      cases there
      have here : w.session.2 = i.place := by omega
      let stopped := (w.asking (i.cut (i.calm.answer c w.session))).record ⟨c, .failed i.error⟩
      refine ⟨h, stopped, ⟨kept, rfl, asking_cut calm c (.inr rfl)⟩, ?_, fun host early => ?_⟩
      · show (i.calm.answer c w.session).begun.2 = _
        rw [← here]
        rfl
      · rw [begin_, early.call calm here]
  · rcases beside.cases with ⟨before, rfl⟩ | ⟨behind, fired⟩
    · refine .inl ⟨?_, ?_⟩
      · rw [begin_, begin_]
        exact Onward.call late c _ rfl quiet quiet (fun closes => absurd closes asks) beside
      · rintro m due (⟨x, there, -⟩ | ⟨-, none⟩)
        · have pos := due_pos before
          cases m with
          | zero => omega
          | succ m => simp at there
        · exact none
    · refine .inr ⟨0, h, w', ⟨?_, .inl ⟨_, rfl, asks⟩, fun m' _ lt => absurd lt (by omega)⟩,
        ⟨kept, by simp [fired.exchanges], fired.connection calm.connection⟩, ?_⟩
      · unfold due
        omega
      · rw [guarded_apply, fired.stops calm]

end Interruption

end SqlBinder

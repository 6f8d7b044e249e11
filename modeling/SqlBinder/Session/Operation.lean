import SqlBinder.Session.Call
import SqlBinder.Session.Signal

/-!
Operations over a session. How the session answers a call is data: its state when
the call has begun, how long the answer takes, which signals fire in the meantime,
and its state and reply when the answer is there. An operation may stop waiting
before that, because a signal fires or time runs out; then the reply is lost and
the session stays as it was when the call had begun.

Every call is recorded with the end of the wait for its answer, so that what an
operation asked of the session, and what it got, can be read off the world it leaves.
-/
namespace SqlBinder

/-- How a session in states `σ` answers a call: what it does, what happens meanwhile, and what comes
back. An answer may be as late or as wrong as it likes. -/
structure Answer (σ ρ : Type) where
  /-- The state if the answer is not waited for. -/
  begun : σ
  /-- How long the answer takes; none if it never comes. -/
  wait : Option Span
  /-- Signals that fire before the answer is there. -/
  during : List Signal := []
  /-- Signals that fire right behind it. -/
  after : List Signal := []
  /-- The state when the answer is there. -/
  finished : σ
  reply : Except Error ρ

/-- The operation has to wait for the answer. -/
def Answer.waits {σ ρ : Type} (a : Answer σ ρ) : Bool := a.wait != some ⟨0⟩

/-- A session behaviour, and the most rounds that a loop over it goes. -/
structure Host (σ : Type) where
  answer : (c : Call) → σ → Answer σ c.Reply
  patience : Nat

/-- Why an operation gets no further. Both leave the caller without a result; they differ in whether
anything is still waited for. -/
inductive Halt where
  /-- It waits for an answer that never comes. -/
  | waiting
  /-- It has broken off. -/
  | brokenOff
  deriving DecidableEq, Repr

/-- What an operation comes to. One that is stuck never returns to its caller, and nothing is done
behind it any more, be it to handle an error or to give back what is held. -/
inductive Outcome (α : Type) where
  | done (a : α)
  | failed (e : Error)
  | stuck (why : Halt)

/-- A call, and how the wait for its answer ended. A wait that was given up tells nothing of the
answer, which may have been a success. -/
structure Exchange where
  call : Call
  outcome : Outcome call.Reply

/-- All that operations share: the session, what was asked of it, and the signals. What belongs to
one handle is not part of it. -/
structure World (σ : Type) where
  session : σ
  /-- The calls so far with what came back, in order. -/
  exchanges : List Exchange
  signals : Signals
  /-- Signals that fire as soon as an operation has to wait. -/
  armed : List Signal

namespace World

/-- A world in which nothing has happened. -/
def start (session : σ) : World σ := ⟨session, [], .empty, []⟩

/-- The calls so far, in order. -/
def calls (w : World σ) : List Call := w.exchanges.map (·.call)

/-- The world in which one more signal has fired. -/
def fire (w : World σ) (x : Signal) : World σ := { w with signals := w.signals.fire x }

/-- The world in which more signals have fired, one after another. -/
def fireAll (w : World σ) (xs : List Signal) : World σ :=
  { w with signals := w.signals.fireAll xs }

/-- The world while an answer is waited for. -/
def asking (w : World σ) (a : Answer σ ρ) : World σ :=
  { w with session := a.begun }.fireAll (a.during ++ if a.waits then w.armed else [])

/-- The world once the answer is there. -/
def answered (w : World σ) (a : Answer σ ρ) : World σ :=
  { w with session := a.finished }.fireAll a.after

/-- The world with one more call put down. -/
def record (w : World σ) (x : Exchange) : World σ := { w with exchanges := w.exchanges ++ [x] }

end World

/-- An operation on a handle in states `η`. -/
def Operation (σ η α : Type) : Type := Host σ → η → World σ → Outcome α × η × World σ

namespace Operation

variable {σ η θ α β : Type}

instance : Monad (Operation σ η) where
  pure a := fun _ h w => (.done a, h, w)
  bind t f := fun host h w =>
    match t host h w with
    | (.done a, h, w) => f a host h w
    | (.failed e, h, w) => (.failed e, h, w)
    | (.stuck why, h, w) => (.stuck why, h, w)

/-- What `bind` does with the end of the first operation. -/
theorem bind_apply (t : Operation σ η α) (f : α → Operation σ η β) (host : Host σ) (h : η)
    (w : World σ) :
    (t >>= f) host h w =
      match t host h w with
      | (.done a, h, w) => f a host h w
      | (.failed e, h, w) => (.failed e, h, w)
      | (.stuck why, h, w) => (.stuck why, h, w) :=
  rfl

instance : LawfulMonad (Operation σ η) :=
  LawfulMonad.mk' _
    (fun t => by
      funext host h w
      show (t >>= pure) host h w = t host h w
      rw [bind_apply]
      rcases t host h w with ⟨_ | _ | _, _, _⟩ <;> rfl)
    (fun _ _ => rfl)
    (fun t f g => by
      funext host h w
      simp only [bind_apply]
      rcases t host h w with ⟨_ | _ | _, _, _⟩ <;> rfl)

/-- End with an error. The handle stays as it is. -/
def fail (e : Error) : Operation σ η α := fun _ h w => (.failed e, h, w)

/-- Nothing comes behind it. -/
def halt (why : Halt) : Operation σ η α := fun _ h w => (.stuck why, h, w)

/-- Wait for what never comes. -/
def wait : Operation σ η α := halt .waiting

/-- The result of a computation, which may be an error. -/
def ofExcept : Except Error α → Operation σ η α
  | .ok a => pure a
  | .error e => fail e

/-- The result of a computation that may break off, and the operation with it. -/
def ofFallible : Except Fault α → Operation σ η α
  | .ok a => pure a
  | .error (.refused e) => fail e
  | .error .brokenOff => halt .brokenOff

/-- The state of the handle. -/
def get : Operation σ η η := fun _ h w => (.done h, h, w)

/-- Change the state of the handle. -/
def modify (f : η → η) : Operation σ η Unit := fun _ h w => (.done (), f h, w)

/-- The signals as they are now. -/
def signals : Operation σ η Signals := fun _ h w => (.done w.signals, h, w)

/-- Make a signal that nobody else holds. -/
def fresh : Operation σ η Signal := fun _ h w =>
  (.done w.signals.fresh.1, h, { w with signals := w.signals.fresh.2 })

/-- Fire a signal. Whoever holds it, or waits for it, sees that. -/
def fire (x : Signal) : Operation σ η Unit := fun _ h w => (.done (), h, w.fire x)

/-- The operation, with a failure as its result. -/
def attempt (t : Operation σ η α) : Operation σ η (Except Error α) := fun host h w =>
  match t host h w with
  | (.done a, h, w) => (.done (.ok a), h, w)
  | (.failed e, h, w) => (.done (.error e), h, w)
  | (.stuck why, h, w) => (.stuck why, h, w)

/-- An operation on another handle: its result and the handle it leaves. -/
def on (k : θ) (t : Operation σ θ α) : Operation σ η (Except Error α × θ) := fun host h w =>
  match t host k w with
  | (.done a, k, w) => (.done (.ok a, k), h, w)
  | (.failed e, k, w) => (.done (.error e, k), h, w)
  | (.stuck why, _, w) => (.stuck why, h, w)

/-! ## What the parts do -/

section Parts

variable (host : Host σ) (h : η) (w : World σ)

@[simp] theorem pure_apply (a : α) : (pure a : Operation σ η α) host h w = (.done a, h, w) := rfl

@[simp] theorem fail_apply (e : Error) :
    (fail e : Operation σ η α) host h w = (.failed e, h, w) := rfl

@[simp] theorem halt_apply (why : Halt) :
    (halt why : Operation σ η α) host h w = (.stuck why, h, w) := rfl

@[simp] theorem wait_apply : (wait : Operation σ η α) host h w = (.stuck .waiting, h, w) := rfl

@[simp] theorem ofExcept_ok (a : α) : (ofExcept (.ok a) : Operation σ η α) = pure a := rfl

@[simp] theorem ofExcept_error (e : Error) :
    (ofExcept (.error e) : Operation σ η α) = fail e := rfl

@[simp] theorem ofFallible_ok (a : α) : (ofFallible (.ok a) : Operation σ η α) = pure a := rfl

@[simp] theorem ofFallible_refused (e : Error) :
    (ofFallible (.error (.refused e)) : Operation σ η α) = fail e := rfl

@[simp] theorem ofFallible_brokenOff :
    (ofFallible (.error .brokenOff) : Operation σ η α) = halt .brokenOff := rfl

@[simp] theorem get_apply : (get : Operation σ η η) host h w = (.done h, h, w) := rfl

@[simp] theorem modify_apply (f : η → η) :
    (modify f : Operation σ η Unit) host h w = (.done (), f h, w) := rfl

@[simp] theorem signals_apply :
    (signals : Operation σ η Signals) host h w = (.done w.signals, h, w) := rfl

@[simp] theorem fresh_apply :
    (fresh : Operation σ η Signal) host h w =
      (.done w.signals.fresh.1, h, { w with signals := w.signals.fresh.2 }) := rfl

@[simp] theorem fire_apply (x : Signal) :
    (fire x : Operation σ η Unit) host h w = (.done (), h, w.fire x) := rfl

end Parts

/-! ## Loops -/

/-- At most `rounds` steps, until one gives a result. -/
def iterate (step : β → Operation σ η (β ⊕ α)) : Nat → β → Operation σ η α
  | 0, _ => wait
  | rounds + 1, b => do
    match ← step b with
    | .inl b => iterate step rounds b
    | .inr a => pure a

/-- Steps until one gives a result, as long as the host has patience. -/
def loop (step : β → Operation σ η (β ⊕ α)) (b : β) : Operation σ η α := fun host =>
  iterate step host.patience b host

/-! ## Round trips -/

/-- What may end the wait for an answer before it is there. Signals are heeded before the limit. -/
structure Watch where
  /-- The longest wait. -/
  limit : Option Span
  /-- Signals and the errors they stand for, the first to be heeded first. -/
  stops : List (Signal × Error)

/-- The wait is over before an answer that takes this long. -/
def Watch.Misses (watch : Watch) (limit : Span) : Option Span → Prop
  | none => watch.limit = some limit
  | some span => watch.limit = some limit ∧ limit.micros < span.micros

instance (watch : Watch) (limit : Span) (span : Option Span) :
    Decidable (watch.Misses limit span) := by
  cases span <;> unfold Watch.Misses <;> exact inferInstance

/-- The limit that an answer does not meet. -/
def Watch.missed? (watch : Watch) (span : Option Span) : Option Span :=
  watch.limit.filter fun limit => decide (watch.Misses limit span)

/-- Wait for an answer. A signal that fires before it is there, or together with it,
wins over it. -/
def await (a : Answer σ ρ) (watch : Watch) (w : World σ) : Outcome ρ × World σ :=
  let begun := w.asking a
  match firstFired begun.signals watch.stops with
  | some e => (.failed e, begun)
  | none =>
    match watch.missed? a.wait with
    | some limit => (.failed (.callTimeout limit), begun)
    | none =>
      if a.wait.isNone then (.stuck .waiting, begun)
      else
        match a.reply with
        | .ok r => (.done r, begun.answered a)
        | .error e => (.failed e, begun.answered a)

/-- One round trip, put down with the end of the wait for its answer, whatever that was. -/
def call (c : Call) (watch : Watch) : Operation σ η c.Reply := fun host h w =>
  let (outcome, w) := await (host.answer c w.session) watch w
  (outcome, h, w.record ⟨c, outcome⟩)

theorem call_apply (c : Call) (watch : Watch) (host : Host σ) (h : η) (w : World σ) :
    call c watch host h w =
      ((await (host.answer c w.session) watch w).1, h,
        (await (host.answer c w.session) watch w).2.record
          ⟨c, (await (host.answer c w.session) watch w).1⟩) :=
  rfl

/-- One round trip that nothing ends early. -/
def callFreely (c : Call) : Operation σ η c.Reply := call c ⟨none, []⟩

/-- Fail if the connection or the handle is closed. -/
def check (g : Guards) (closed : Error) : Operation σ η Unit := do
  ofExcept (g.check (← signals) closed)

/-- One round trip of a handle. It fails as soon as the handle or its connection is
closed. -/
def guarded (g : Guards) (closed : Error) (c : Call) : Operation σ η c.Reply := do
  check g closed
  call c ⟨none, g.stops closed⟩

end Operation

end SqlBinder

import SqlBinder.Error

/-!
Close signals. A signal fires once and for all; every holder of it sees that and may wait for it.
The signals of a connection and of a handle guard each round trip of that handle.

A signal is a number, given out in order, and has fired if it is among those that have. Copies of a
signal are the same number, so that all who hold one see the same. Who holds which signal is not
known here; `Holders` keeps that beside it, for a family of holders made and copied step by step.
-/
namespace SqlBinder

/-- A signal, by number. Copies share it, so firing one of them fires all. -/
structure Signal where
  number : Nat
  deriving DecidableEq, Repr

/-- The signals made so far, and those of them that fired. Nothing is ever taken from either. -/
structure Signals where
  made : Nat
  fired : List Signal
  deriving DecidableEq, Repr

/-- One who waits for a signal to fire, with the firings noted before the wait. -/
structure Waiter where
  noted : Nat
  deriving DecidableEq, Repr

namespace Signals

/-- No signal has been made. -/
def empty : Signals := ⟨0, []⟩

/-- A signal of its own. -/
def fresh (s : Signals) : Signal × Signals := (⟨s.made⟩, { s with made := s.made + 1 })

/-- The signal has fired. -/
def isFired (s : Signals) (x : Signal) : Bool := s.fired.contains x

/-- The signal has fired from now on. A second time changes nothing. -/
def fire (s : Signals) (x : Signal) : Signals :=
  if s.isFired x then s else { s with fired := x :: s.fired }

/-- Signals fire one after another. -/
def fireAll (s : Signals) (xs : List Signal) : Signals := xs.foldl fire s

@[simp] theorem isFired_empty (x : Signal) : empty.isFired x = false := rfl

@[simp] theorem isFired_fresh (s : Signals) (x : Signal) : s.fresh.2.isFired x = s.isFired x := rfl

@[simp] theorem made_fire (s : Signals) (x : Signal) : (s.fire x).made = s.made := by
  unfold fire
  split <;> rfl

@[simp] theorem made_fireAll (s : Signals) (xs : List Signal) : (s.fireAll xs).made = s.made := by
  induction xs generalizing s with
  | nil => rfl
  | cons x rest ih => exact (ih (s.fire x)).trans (made_fire s x)

/-- Firing is for good and touches no other signal. -/
@[simp] theorem isFired_fire (s : Signals) (x y : Signal) :
    (s.fire x).isFired y = (y == x || s.isFired y) := by
  cases fired : s.isFired x with
  | true => by_cases same : y = x <;> simp [fire, fired, same]
  | false =>
    have added : s.fire x = { s with fired := x :: s.fired } := by simp [fire, fired]
    rw [added]
    rfl

@[simp] theorem isFired_fireAll (s : Signals) (xs : List Signal) (y : Signal) :
    (s.fireAll xs).isFired y = (xs.contains y || s.isFired y) := by
  induction xs generalizing s with
  | nil => simp [fireAll]
  | cons x rest ih =>
    have step : s.fireAll (x :: rest) = (s.fire x).fireAll rest := rfl
    rw [step, ih, isFired_fire, List.contains_cons]
    cases rest.contains y <;> cases y == x <;> rfl

/-- How often those who wait for a signal were woken. -/
def firings (s : Signals) (x : Signal) : Nat := s.fired.count x

/-- A wait for a signal begins. The waiter notes the firings and then looks, so that
none in between is missed; the wait is over if the signal fired. -/
def wait? (s : Signals) (x : Signal) : Option Waiter :=
  if s.isFired x then none else some ⟨s.firings x⟩

/-- A wait goes on: the waiter sleeps until the signal fires, and then begins anew. -/
def waitOn? (s : Signals) (x : Signal) (w : Waiter) : Option Waiter :=
  if s.firings x = w.noted then some w else s.wait? x

theorem firings_eq_zero {s : Signals} {x : Signal} : s.firings x = 0 ↔ s.isFired x = false := by
  simp [firings, isFired, List.count_eq_zero]

theorem wait?_eq_none {s : Signals} {x : Signal} : s.wait? x = none ↔ s.isFired x = true := by
  simp [wait?]

/-- A wait that goes on is over as soon as the signal has fired. -/
theorem waitOn?_eq_none {s t : Signals} {x : Signal} {w : Waiter} (begun : s.wait? x = some w) :
    t.waitOn? x w = none ↔ t.isFired x = true := by
  have noted : w.noted = 0 := by
    simp only [wait?, Option.ite_none_left_eq_some, Bool.not_eq_true, Option.some.injEq] at begun
    rw [← begun.2]
    exact firings_eq_zero.2 begun.1
  cases fired : t.isFired x with
  | true => simp [waitOn?, wait?, noted, firings_eq_zero, fired]
  | false => simp [waitOn?, noted, firings_eq_zero.2 fired]

end Signals

/-- The signals that end a handle: its own and its connection's. -/
structure Guards where
  own : Signal
  connection : Signal
  deriving DecidableEq, Repr

/-- The first error whose signal fired. -/
def firstFired (s : Signals) : List (Signal × Error) → Option Error
  | [] => none
  | (x, e) :: rest => if s.isFired x then some e else firstFired s rest

/-- Which error each signal stands for. The connection's comes first. -/
def Guards.stops (g : Guards) (closed : Error) : List (Signal × Error) :=
  [(g.connection, .connectionClosed), (g.own, closed)]

/-- The error of a handle that is closed. -/
def Guards.check (g : Guards) (s : Signals) (closed : Error) : Except Error Unit :=
  match firstFired s (g.stops closed) with
  | some e => throw e
  | none => pure ()

/-- One step on a growing list of holders of signals. Holders are told by the order in which they
came to be. -/
inductive HolderStep where
  /-- A holder of a new signal. -/
  | create
  /-- Another holder of the signal that holder `i` has. -/
  | share (i : Nat)
  /-- Holder `i` fires its signal. -/
  | fire (i : Nat)
  deriving DecidableEq, Repr

/-- Holders of signals, in the order they came to be. -/
structure Holders where
  signals : Signals
  holders : List Signal
  deriving DecidableEq, Repr

namespace Holders

/-- One holder of one signal that has not fired. -/
def single : Holders := ⟨Signals.empty.fresh.2, [Signals.empty.fresh.1]⟩

/-- Steps that name no holder change nothing. -/
def step (h : Holders) : HolderStep → Holders
  | .create => ⟨h.signals.fresh.2, h.holders ++ [h.signals.fresh.1]⟩
  | .share i =>
    match h.holders[i]? with
    | some x => { h with holders := h.holders ++ [x] }
    | none => h
  | .fire i =>
    match h.holders[i]? with
    | some x => { h with signals := h.signals.fire x }
    | none => h

/-- Whether holder `i` sees its signal fired. -/
def isFired (h : Holders) (i : Nat) : Bool := (h.holders[i]?.map h.signals.isFired).getD false

/-- Whether a wait of holder `i` for its signal is over as soon as it begins. -/
def resolves (h : Holders) (i : Nat) : Bool :=
  (h.holders[i]?.map fun x => (h.signals.wait? x).isNone).getD false

/-- What each holder sees of its signal, in the order of the holders. -/
def states (h : Holders) : List Bool := h.holders.map h.signals.isFired

end Holders

end SqlBinder

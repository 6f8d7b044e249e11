import Mathlib.Data.List.Perm.Subperm
import SqlBinder.Proofs.Session.Rules

/-!
Custody of signals. While an operation has a connection to itself, nobody else closes the
connection, and nobody else knows the handles that the operation makes: a session fires
signals that were there before, if any. So a handle that is made and not given away stays
open until the operation closes it.

`Ends` says how an operation ends under these circumstances: with which result, which
handle, which signals in its custody, and behind which calls.
-/
namespace SqlBinder

/-- What surrounds an operation that has a connection to itself. -/
structure Scene (σ : Type) where
  host : Host σ
  /-- Fires when the connection closes. -/
  closed : Signal
  /-- Signals below it were there before. -/
  bound : Nat
  closed_lt : closed.number < bound
  answers : ∀ c s, ∀ x ∈ (host.answer c s).during ++ (host.answer c s).after,
    x.number < bound ∧ x ≠ closed

namespace Scene

variable {σ : Type}

/-- A signal that others may fire. -/
def Foreign (s : Scene σ) (x : Signal) : Prop := x.number < s.bound ∧ x ≠ s.closed

end Scene

/-- The connection is open, and so are the handles whose signals are in custody. -/
structure Calm {σ : Type} (s : Scene σ) (own : List Signal) (w : World σ) : Prop where
  armed : ∀ x ∈ w.armed, s.Foreign x
  grown : s.bound ≤ w.signals.made
  isOpen : w.signals.isFired s.closed = false
  fired_lt : ∀ x, w.signals.isFired x = true → x.number < w.signals.made
  own_range : ∀ x ∈ own, s.bound ≤ x.number ∧ x.number < w.signals.made
  own_open : ∀ x ∈ own, w.signals.isFired x = false
  distinct : own.Nodup

namespace Calm

open Operation

variable {σ η α : Type} {s : Scene σ} {own own' : List Signal} {w w' : World σ}

theorem of_signals (h : Calm s own w) (signals : w'.signals = w.signals)
    (armed : w'.armed = w.armed) : Calm s own w' where
  armed := by rw [armed]; exact h.armed
  grown := by rw [signals]; exact h.grown
  isOpen := by rw [signals]; exact h.isOpen
  fired_lt := by rw [signals]; exact h.fired_lt
  own_range := by rw [signals]; exact h.own_range
  own_open := by rw [signals]; exact h.own_open
  distinct := h.distinct

/-- Signals may be given out of custody. -/
theorem drop (h : Calm s own w) (sub : own'.Subperm own) : Calm s own' w where
  armed := h.armed
  grown := h.grown
  isOpen := h.isOpen
  fired_lt := h.fired_lt
  own_range := fun x hx => h.own_range x (sub.subset hx)
  own_open := fun x hx => h.own_open x (sub.subset hx)
  distinct := by
    obtain ⟨l, perm, sublist⟩ := sub
    exact perm.nodup_iff.1 (h.distinct.sublist sublist)

/-- What others fire is neither the connection's signal nor in custody. -/
theorem fireAll (h : Calm s own w) {xs : List Signal} (foreign : ∀ x ∈ xs, s.Foreign x) :
    Calm s own (w.fireAll xs) where
  armed := h.armed
  grown := by simpa [World.fireAll] using h.grown
  isOpen := by
    -- Others never fire the connection's signal.
    have other : s.closed ∉ xs := fun hx => (foreign _ hx).2 rfl
    simpa [World.fireAll, h.isOpen] using other
  fired_lt := by
    intro x hx
    have grown := h.grown
    simp only [World.fireAll, Signals.isFired_fireAll, Bool.or_eq_true, List.contains_iff_mem,
      Signals.made_fireAll] at hx ⊢
    rcases hx with hx | hx
    · have old := (foreign x hx).1
      omega
    · exact h.fired_lt x hx
  own_range := by simpa [World.fireAll] using h.own_range
  own_open := by
    intro x hx
    -- What is in custody is newer than anything others know of.
    have new := (h.own_range x hx).1
    have other : x ∉ xs := fun hf => by
      have old := (foreign x hf).1
      omega
    simpa [World.fireAll, h.own_open x hx] using other
  distinct := h.distinct

/-- Custody outlives a wait for an answer. -/
theorem await {c : Call} (watch : Watch) (h : Calm s own w) :
    Calm s own (await (s.host.answer c w.session) watch w).2 := by
  let a := s.host.answer c w.session
  have foreign := s.answers c w.session
  have sent : Calm s own { w with session := a.begun } := h.of_signals rfl rfl
  -- Armed signals fire only while an answer is waited for.
  have begun : Calm s own (w.asking a) := by
    apply sent.fireAll
    intro x hx
    rcases List.mem_append.1 hx with hx | hx
    · exact foreign x (List.mem_append_left _ hx)
    · split at hx
      · exact h.armed x hx
      · simp at hx
  rcases await_cases a watch w with ended | ended
  · rw [ended]
    exact begun
  · have finished : Calm s own { w.asking a with session := a.finished } :=
      begun.of_signals rfl rfl
    rw [ended]
    exact finished.fireAll fun x hx => foreign x (List.mem_append_right _ hx)

/-- A new signal is in custody. -/
theorem fresh (h : Calm s own w) :
    Calm s (w.signals.fresh.1 :: own) { w with signals := w.signals.fresh.2 } where
  armed := h.armed
  grown := Nat.le_succ_of_le h.grown
  isOpen := h.isOpen
  fired_lt := fun x hx => Nat.lt_succ_of_lt (h.fired_lt x hx)
  own_range := by
    intro x hx
    rcases List.mem_cons.1 hx with rfl | hx
    · exact ⟨h.grown, Nat.lt_succ_self _⟩
    · exact ⟨(h.own_range x hx).1, Nat.lt_succ_of_lt (h.own_range x hx).2⟩
  own_open := by
    intro x hx
    rcases List.mem_cons.1 hx with rfl | hx
    · exact Bool.eq_false_iff.2 fun hf => Nat.lt_irrefl _ (h.fired_lt _ hf)
    · exact h.own_open x hx
  distinct := by
    refine List.nodup_cons.2 ⟨fun hx => ?_, h.distinct⟩
    exact Nat.lt_irrefl _ (h.own_range _ hx).2

/-- A signal that fires is in custody no more; the others stay. -/
theorem fire {x : Signal} (h : Calm s (x :: own) w) : Calm s own (w.fire x) where
  armed := h.armed
  grown := by simpa [World.fire] using h.grown
  isOpen := by
    have new := (h.own_range x (by simp)).1
    -- The connection's signal is older than all in custody.
    have old := s.closed_lt
    have other : s.closed ≠ x := fun same => by
      subst same
      omega
    simpa [World.fire, h.isOpen] using other
  fired_lt := by
    intro y hy
    simp only [World.fire, Signals.isFired_fire, Bool.or_eq_true, beq_iff_eq,
      Signals.made_fire] at hy ⊢
    rcases hy with rfl | hy
    · exact (h.own_range y (by simp)).2
    · exact h.fired_lt y hy
  own_range := by
    intro y hy
    simpa [World.fire] using h.own_range y (List.mem_cons_of_mem x hy)
  own_open := by
    intro y hy
    have other : y ≠ x := fun same => (List.nodup_cons.1 h.distinct).1 (same ▸ hy)
    simpa [World.fire, other] using h.own_open y (List.mem_cons_of_mem x hy)
  distinct := (List.nodup_cons.1 h.distinct).2

/-- Guards in custody stop nothing. -/
theorem stops_none {g : Guards} (h : Calm s own w) (connection : g.connection = s.closed)
    (hown : g.own ∈ own) (closed : Error) : firstFired w.signals (g.stops closed) = none := by
  simp [Guards.stops, firstFired, connection, h.isOpen, h.own_open _ hown]

end Calm

/-- What is recorded of a call that came to a result. -/
def Exchange.ofResult (c : Call) : Except Error c.Reply → Exchange
  | .ok r => ⟨c, .done r⟩
  | .error e => ⟨c, .failed e⟩

namespace Operation

variable {σ η θ α β : Type} {s : Scene σ} {own own' : List Signal} {h : η} {w : World σ}
  {P Q : Except Error α → η → List Signal → List Exchange → Prop}

/-- Begun with signals in custody the operation ends as told, unless it waits forever: with
a result, a handle, signals in custody, and behind calls. -/
def Ends (s : Scene σ) (own : List Signal) (t : Operation σ η α) (h : η) (w : World σ)
    (Q : Except Error α → η → List Signal → List Exchange → Prop) : Prop :=
  ∀ r h' w', Calm s own w → t.attempt s.host h w = (.done r, h', w') →
    ∃ own' new, w'.exchanges = w.exchanges ++ new ∧ Calm s own' w' ∧ Q r h' own' new

namespace Ends

theorem done {t : Operation σ η α} {a : α} {h' : η} {w' : World σ} (ends : Ends s own t h w Q)
    (calm : Calm s own w) (run : t s.host h w = (.done a, h', w')) :
    ∃ own' new, w'.exchanges = w.exchanges ++ new ∧ Calm s own' w' ∧ Q (.ok a) h' own' new :=
  ends _ _ _ calm (attempt_of_done run)

theorem failed {t : Operation σ η α} {e : Error} {h' : η} {w' : World σ}
    (ends : Ends s own t h w Q) (calm : Calm s own w)
    (run : t s.host h w = (.failed e, h', w')) :
    ∃ own' new, w'.exchanges = w.exchanges ++ new ∧ Calm s own' w' ∧ Q (.error e) h' own' new :=
  ends _ _ _ calm (attempt_of_failed run)

/-- Signals may be given out of custody at the end. -/
theorem drop {t : Operation σ η α} (ends : Ends s own t h w P)
    (hQ : ∀ r h' own' new, P r h' own' new → ∃ own₁, own₁.Subperm own' ∧ Q r h' own₁ new) :
    Ends s own t h w Q := by
  intro r h' w' calm run
  obtain ⟨own', new, added, calm', hP⟩ := ends r h' w' calm run
  obtain ⟨own₁, sub, hq⟩ := hQ r h' own' new hP
  exact ⟨own₁, new, added, calm'.drop sub, hq⟩

theorem mono {t : Operation σ η α} (ends : Ends s own t h w P)
    (hQ : ∀ r h' own' new, P r h' own' new → Q r h' own' new) : Ends s own t h w Q :=
  ends.drop fun r h' own' new hP => ⟨own', List.Subperm.refl _, hQ r h' own' new hP⟩

/-- Signals may be given out of custody at the beginning. -/
theorem take {t : Operation σ η α} (ends : Ends s own' t h w Q) (sub : own'.Subperm own) :
    Ends s own t h w Q :=
  fun r h' w' calm run => ends r h' w' (calm.drop sub) run

/-- What is in custody can be used. -/
theorem of_calm {t : Operation σ η α} (ends : Calm s own w → Ends s own t h w Q) :
    Ends s own t h w Q :=
  fun r h' w' calm run => ends calm r h' w' calm run

/-- Operations that run alike end alike. -/
theorem congr {t t' : Operation σ η α} {k : η} (ends : Ends s own t' k w Q)
    (same : Calm s own w → t s.host h w = t' s.host k w) : Ends s own t h w Q := by
  intro r h' w' calm run
  have alike : t.attempt s.host h w = t'.attempt s.host k w := by
    rw [attempt, attempt, same calm]
  rw [alike] at run
  exact ends r h' w' calm run

/-- What is known of the calls that an operation can make, and of the handles that it leaves, is
known behind it. -/
theorem withCalls {I : η → Prop} {K : Call → Prop} {t : Operation σ η α}
    (ends : Ends s own t h w Q) (calls : Calls I K t) (hi : I h) :
    Ends s own t h w fun r h' own' new => Q r h' own' new ∧ I h' ∧ ∀ x ∈ new, K x.call := by
  intro r h' w' calm run
  obtain ⟨own', new, added, calm', hQ⟩ := ends r h' w' calm run
  obtain ⟨hi', -, made, added', known⟩ := calls.attempt s.host h w hi
  rw [run] at added' hi'
  obtain rfl : new = made := List.append_cancel_left (added.symm.trans added')
  exact ⟨own', new, added, calm', hQ, hi', known⟩

theorem pure {a : α} (hQ : Q (.ok a) h own []) : Ends s own (pure a) h w Q := by
  intro r h' w' calm run
  simp only [attempt_of_done (pure_apply s.host h w a), Prod.mk.injEq, Outcome.done.injEq] at run
  obtain ⟨rfl, rfl, rfl⟩ := run
  exact ⟨own, [], by simp, calm, hQ⟩

theorem fail {e : Error} (hQ : Q (.error e) h own []) :
    Ends s own (fail e : Operation σ η α) h w Q := by
  intro r h' w' calm run
  simp only [attempt_of_failed (fail_apply s.host h w e), Prod.mk.injEq, Outcome.done.injEq] at run
  obtain ⟨rfl, rfl, rfl⟩ := run
  exact ⟨own, [], by simp, calm, hQ⟩

theorem halt (why : Halt) : Ends s own (halt why : Operation σ η α) h w Q := by
  intro r h' w' calm run
  simp [attempt_of_stuck (halt_apply s.host h w why)] at run

theorem ofExcept {r : Except Error α} (hQ : Q r h own []) :
    Ends s own (ofExcept r : Operation σ η α) h w Q := by
  cases r with
  | ok a => exact pure hQ
  | error e => exact fail hQ

theorem bind {t : Operation σ η β} {f : β → Operation σ η α}
    {P : Except Error β → η → List Signal → List Exchange → Prop} (ht : Ends s own t h w P)
    (hok : ∀ a h' own' w' new, t s.host h w = (.done a, h', w') → P (.ok a) h' own' new →
      Ends s own' (f a) h' w' fun r h₂ own₂ more => Q r h₂ own₂ (new ++ more))
    (herr : ∀ e h' own' w' new, t s.host h w = (.failed e, h', w') → P (.error e) h' own' new →
      Q (.error e) h' own' new) :
    Ends s own (t >>= f) h w Q := by
  intro r h' w' calm run
  -- What follows depends on how the first operation ended.
  rcases first : t s.host h w with ⟨a | e | _, h₁, w₁⟩
  · obtain ⟨own₁, new₁, added₁, calm₁, hP⟩ := ht.done calm first
    have rest : (f a).attempt s.host h₁ w₁ = (.done r, h', w') := by
      rw [← run, attempt, attempt, bind_of_done first]
    obtain ⟨own₂, new₂, added₂, calm₂, hQ⟩ := hok a h₁ own₁ w₁ new₁ first hP r h' w' calm₁ rest
    exact ⟨own₂, new₁ ++ new₂, by rw [added₂, added₁, List.append_assoc], calm₂, hQ⟩
  · obtain ⟨own₁, new₁, added₁, calm₁, hP⟩ := ht.failed calm first
    simp only [attempt_of_failed (bind_of_failed first f), Prod.mk.injEq, Outcome.done.injEq] at run
    obtain ⟨rfl, rfl, rfl⟩ := run
    exact ⟨own₁, new₁, added₁, calm₁, herr e h₁ own₁ w₁ new₁ first hP⟩
  · simp [attempt_of_stuck (bind_of_stuck first f)] at run

/-- Behind an operation that does not fail. -/
theorem bind_of_ok {t : Operation σ η β} {f : β → Operation σ η α} {b : β}
    {P : η → List Signal → List Exchange → Prop}
    (ht : Ends s own t h w fun r h' own' new => r = .ok b ∧ P h' own' new)
    (hf : ∀ h' own' w' new, P h' own' new →
      Ends s own' (f b) h' w' fun r h₂ own₂ more => Q r h₂ own₂ (new ++ more)) :
    Ends s own (t >>= f) h w Q := by
  apply ht.bind
  · intro a h' own' w' new _ ended
    obtain ⟨same, known⟩ := ended
    obtain rfl := Except.ok.inj same
    exact hf h' own' w' new known
  · intro e h' own' w' new _ ended
    cases ended.1

/-- Behind an attempt both results go on. -/
theorem attempt_bind {t : Operation σ η β} {f : Except Error β → Operation σ η α}
    {P : Except Error β → η → List Signal → List Exchange → Prop} (ht : Ends s own t h w P)
    (hf : ∀ r h' own' w' new, t.attempt s.host h w = (.done r, h', w') → P r h' own' new →
      Ends s own' (f r) h' w' fun r h₂ own₂ more => Q r h₂ own₂ (new ++ more)) :
    Ends s own (t.attempt >>= f) h w Q := by
  intro r h' w' calm run
  rcases first : t.attempt s.host h w with ⟨r₁ | e | _, h₁, w₁⟩
  · obtain ⟨own₁, new₁, added₁, calm₁, hP⟩ := ht r₁ h₁ w₁ calm first
    have rest : (f r₁).attempt s.host h₁ w₁ = (.done r, h', w') := by
      rw [← run, attempt, attempt, bind_of_done first]
    obtain ⟨own₂, new₂, added₂, calm₂, hQ⟩ := hf r₁ h₁ own₁ w₁ new₁ first hP r h' w' calm₁ rest
    exact ⟨own₂, new₁ ++ new₂, by rw [added₂, added₁, List.append_assoc], calm₂, hQ⟩
  · exact (attempt_failed first).elim
  · simp [attempt_of_stuck (bind_of_stuck first f)] at run

/-- Behind an operation on another handle both results go on. -/
theorem on_bind {k : θ} {t : Operation σ θ β} {f : Except Error β × θ → Operation σ η α}
    {P : Except Error β → θ → List Signal → List Exchange → Prop} (ht : Ends s own t k w P)
    (hf : ∀ r k' own' w' new, P r k' own' new →
      Ends s own' (f (r, k')) h w' fun r h₂ own₂ more => Q r h₂ own₂ (new ++ more)) :
    Ends s own (Operation.on k t >>= f) h w Q := by
  intro r h' w' calm run
  rcases first : t.attempt s.host k w with ⟨r₁ | e | _, k₁, w₁⟩
  · obtain ⟨own₁, new₁, added₁, calm₁, hP⟩ := ht r₁ k₁ w₁ calm first
    -- A failure on the other handle is a result here.
    have there : (Operation.on k t : Operation σ η _) s.host h w = (.done (r₁, k₁), h, w₁) := by
      rcases attempt_done first with ⟨a, rfl, ran⟩ | ⟨e, rfl, ran⟩
      · exact on_of_done ran
      · exact on_of_failed ran
    have rest : (f (r₁, k₁)).attempt s.host h w₁ = (.done r, h', w') := by
      rw [← run, attempt, attempt, bind_of_done there]
    obtain ⟨own₂, new₂, added₂, calm₂, hQ⟩ := hf r₁ k₁ own₁ w₁ new₁ hP r h' w' calm₁ rest
    exact ⟨own₂, new₁ ++ new₂, by rw [added₂, added₁, List.append_assoc], calm₂, hQ⟩
  · exact (attempt_failed first).elim
  · have there : ∃ why, t s.host k w = (.stuck why, k₁, w₁) := by
      rcases ran : t s.host k w with ⟨_ | _ | _, k₂, w₂⟩
      · simp [attempt_of_done ran] at first
      · simp [attempt_of_failed ran] at first
      · exact ⟨_, by simpa [attempt_of_stuck ran] using first⟩
    obtain ⟨why, there⟩ := there
    simp [attempt_of_stuck (bind_of_stuck (on_of_stuck there) f)] at run

/-! ### Steps that make no call -/

theorem get_bind {f : η → Operation σ η α} (hf : Ends s own (f h) h w Q) :
    Ends s own (Operation.get >>= f) h w Q :=
  hf

theorem modify_bind {g : η → η} {f : Unit → Operation σ η α} (hf : Ends s own (f ()) (g h) w Q) :
    Ends s own (Operation.modify g >>= f) h w Q :=
  hf

theorem signals_bind {f : Signals → Operation σ η α} (hf : Ends s own (f w.signals) h w Q) :
    Ends s own (Operation.signals >>= f) h w Q :=
  hf

theorem ofExcept_bind {r : Except Error β} {f : β → Operation σ η α}
    (hok : ∀ b, r = .ok b → Ends s own (f b) h w Q)
    (herr : ∀ e, r = .error e → Q (.error e) h own []) :
    Ends s own (Operation.ofExcept r >>= f) h w Q := by
  cases r with
  | ok b => exact hok b rfl
  | error e =>
    have failed : Ends s own (Operation.fail e : Operation σ η α) h w Q := fail (herr e rfl)
    exact failed.congr fun _ => rfl

/-- What breaks off comes to no end, and there is nothing to be known of it. -/
theorem ofFallible_bind {r : Except Fault β} {f : β → Operation σ η α}
    (hok : ∀ b, r = .ok b → Ends s own (f b) h w Q)
    (hrefused : ∀ e, r = .error (.refused e) → Q (.error e) h own []) :
    Ends s own (Operation.ofFallible r >>= f) h w Q := by
  rcases r with (e | _) | b
  · have failed : Ends s own (Operation.fail e : Operation σ η α) h w Q := fail (hrefused e rfl)
    exact failed.congr fun _ => rfl
  · have halted : Ends s own (Operation.halt .brokenOff : Operation σ η α) h w Q := halt .brokenOff
    exact halted.congr fun _ => rfl
  · exact hok b rfl

/-- A new signal is in custody. -/
theorem fresh_bind {f : Signal → Operation σ η α}
    (hf : ∀ x w', Ends s (x :: own) (f x) h w' Q) : Ends s own (Operation.fresh >>= f) h w Q :=
  fun r h' w' calm run =>
    hf w.signals.fresh.1 { w with signals := w.signals.fresh.2 } r h' w' calm.fresh run

/-- Who fires a signal gives it out of custody. -/
theorem fire_bind {x : Signal} {f : Unit → Operation σ η α} (hf : ∀ w', Ends s own (f ()) h w' Q) :
    Ends s (x :: own) (Operation.fire x >>= f) h w Q :=
  fun r h' w' calm run => hf (w.fire x) r h' w' calm.fire run

theorem modify {g : η → η} {Q : Except Error Unit → η → List Signal → List Exchange → Prop}
    (hQ : Q (.ok ()) (g h) own []) : Ends s own (Operation.modify g) h w Q := by
  have last : Ends s own (Operation.modify g >>= Pure.pure) h w Q := modify_bind (pure hQ)
  rwa [bind_pure] at last

theorem fire {x : Signal} {Q : Except Error Unit → η → List Signal → List Exchange → Prop}
    (hQ : Q (.ok ()) h own []) : Ends s (x :: own) (Operation.fire x) h w Q := by
  have last : Ends s (x :: own) (Operation.fire x >>= Pure.pure) h w Q :=
    fire_bind fun _ => pure hQ
  rwa [bind_pure] at last

/-! ### Round trips -/

theorem call {c : Call} {watch : Watch}
    {Q : Except Error c.Reply → η → List Signal → List Exchange → Prop}
    (hok : ∀ r, Q (.ok r) h own [⟨c, .done r⟩])
    (herr : ∀ e, Q (.error e) h own [⟨c, .failed e⟩]) :
    Ends s own (call c watch) h w Q := by
  intro r h' w' calm run
  obtain ⟨out, w₁, made, added⟩ := call_record c watch s.host h w
  have calm₁ : Calm s own w₁ := by
    have waited := calm.await (c := c) watch
    rw [call_apply] at made
    obtain ⟨-, -, rfl⟩ := made
    exact waited.of_signals rfl rfl
  rcases attempt_done run with ⟨a, rfl, ran⟩ | ⟨e, rfl, ran⟩
  · obtain ⟨rfl, rfl, rfl⟩ := made.symm.trans ran
    exact ⟨own, _, added, calm₁, hok a⟩
  · obtain ⟨rfl, rfl, rfl⟩ := made.symm.trans ran
    exact ⟨own, _, added, calm₁, herr e⟩

/-- Behind a call. -/
theorem call_bind {c : Call} {watch : Watch} {f : c.Reply → Operation σ η α}
    (hok : ∀ r w', Ends s own (f r) h w' fun r' h' own' more => Q r' h' own' (⟨c, .done r⟩ :: more))
    (herr : ∀ e, Q (.error e) h own [⟨c, .failed e⟩]) :
    Ends s own (Operation.call c watch >>= f) h w Q := by
  have made : Ends s own (Operation.call c watch) h w fun r h' own' new => h' = h ∧ own' = own ∧
      match r with
      | .ok r => new = [⟨c, .done r⟩]
      | .error e => new = [⟨c, .failed e⟩] :=
    call (fun r => ⟨rfl, rfl, rfl⟩) fun e => ⟨rfl, rfl, rfl⟩
  apply made.bind
  · intro r _ _ w' _ _ ended
    obtain ⟨rfl, rfl, rfl⟩ := ended
    exact hok r w'
  · intro e _ _ w' _ _ ended
    obtain ⟨rfl, rfl, rfl⟩ := ended
    exact herr e

/-- A round trip of a handle in custody is made. -/
theorem guarded {g : Guards} {closed : Error} {c : Call}
    {Q : Except Error c.Reply → η → List Signal → List Exchange → Prop}
    (connection : g.connection = s.closed) (hown : g.own ∈ own)
    (hok : ∀ r, Q (.ok r) h own [⟨c, .done r⟩])
    (herr : ∀ e, Q (.error e) h own [⟨c, .failed e⟩]) :
    Ends s own (guarded g closed c) h w Q := by
  have made : Ends s own (Operation.call c ⟨none, g.stops closed⟩) h w Q := call hok herr
  apply made.congr
  intro calm
  rw [guarded_apply, calm.stops_none connection hown]

end Ends

end Operation

end SqlBinder

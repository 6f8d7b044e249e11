import SqlBinder.Proofs.Session.Rules

/-!
Operations that do not see a part of their handle. Run beside itself, from handles that agree
on the rest, such an operation comes to one outcome and to one world: nothing that depends on
the hidden part gets into a result or into a call. There is one rule for each way of building
operations, so that an operation is blind as soon as the looks it takes at its handle are.
-/
namespace SqlBinder

/-- The outcome with another result. -/
def Outcome.map {α β : Type} (f : α → β) : Outcome α → Outcome β
  | .done a => .done (f a)
  | .failed e => .failed e
  | .stuck why => .stuck why

namespace Operation

variable {σ η θ α β : Type}

theorem map_apply (f : α → β) (t : Operation σ η α) (host : Host σ) (h : η) (w : World σ) :
    (f <$> t) host h w = ((t host h w).1.map f, (t host h w).2) := by
  show (t >>= fun a => pure (f a)) host h w = _
  rcases run : t host h w with ⟨a | e | _, h₁, w₁⟩
  · exact bind_of_done run _
  · exact bind_of_failed run _
  · exact bind_of_stuck run _

/-- From related handles the operation comes to the same outcome and the same world, and to
related handles. -/
def Blind (R : η → η → Prop) (t : Operation σ η α) : Prop :=
  ∀ host h h' w, R h h' → ∃ out k k' w₁,
    t host h w = (out, k, w₁) ∧ t host h' w = (out, k', w₁) ∧ R k k'

namespace Blind

variable {R : η → η → Prop}

theorem pure (a : α) : Blind R (pure a : Operation σ η α) :=
  fun _ _ _ _ related => ⟨_, _, _, _, rfl, rfl, related⟩

theorem fail (e : Error) : Blind R (fail e : Operation σ η α) :=
  fun _ _ _ _ related => ⟨_, _, _, _, rfl, rfl, related⟩

theorem halt (why : Halt) : Blind R (halt why : Operation σ η α) :=
  fun _ _ _ _ related => ⟨_, _, _, _, rfl, rfl, related⟩

theorem ofExcept (r : Except Error α) : Blind R (ofExcept r : Operation σ η α) := by
  cases r with
  | ok a => exact pure a
  | error e => exact fail e

theorem ofFallible (r : Except Fault α) : Blind R (ofFallible r : Operation σ η α) := by
  rcases r with (e | _) | a
  · exact fail e
  · exact halt .brokenOff
  · exact pure a

theorem modify {f : η → η} (kept : ∀ h h', R h h' → R (f h) (f h')) :
    Blind R (modify f : Operation σ η Unit) :=
  fun _ h h' _ related => ⟨_, _, _, _, rfl, rfl, kept h h' related⟩

theorem signals : Blind R (signals : Operation σ η Signals) :=
  fun _ _ _ _ related => ⟨_, _, _, _, rfl, rfl, related⟩

theorem fresh : Blind R (fresh : Operation σ η Signal) :=
  fun _ _ _ _ related => ⟨_, _, _, _, rfl, rfl, related⟩

theorem fire (x : Signal) : Blind R (fire x : Operation σ η Unit) :=
  fun _ _ _ _ related => ⟨_, _, _, _, rfl, rfl, related⟩

theorem bind {t : Operation σ η α} {f : α → Operation σ η β} (ht : Blind R t)
    (hf : ∀ a, Blind R (f a)) : Blind R (t >>= f) := by
  intro host h h' w related
  obtain ⟨out, k, k', w₁, run, run', related₁⟩ := ht host h h' w related
  cases out with
  | done a =>
    rw [bind_of_done run, bind_of_done run']
    exact hf a host k k' w₁ related₁
  | failed e => exact ⟨_, _, _, _, bind_of_failed run f, bind_of_failed run' f, related₁⟩
  | stuck => exact ⟨_, _, _, _, bind_of_stuck run f, bind_of_stuck run' f, related₁⟩

theorem map {t : Operation σ η α} (f : α → β) (ht : Blind R t) : Blind R (f <$> t) :=
  bind ht fun _ => pure _

/-- A look at the handle from which the same follows for related ones. -/
theorem get_bind {f : η → Operation σ η β} (same : ∀ h h', R h h' → f h = f h')
    (hf : ∀ h, Blind R (f h)) : Blind R (get >>= f) := by
  intro host h h' w related
  rw [bind_of_done (get_apply host h w), bind_of_done (get_apply host h' w), same h h' related]
  exact hf h' host h h' w related

theorem attempt {t : Operation σ η α} (ht : Blind R t) : Blind R t.attempt := by
  intro host h h' w related
  obtain ⟨out, k, k', w₁, run, run', related₁⟩ := ht host h h' w related
  cases out with
  | done a => exact ⟨_, _, _, _, attempt_of_done run, attempt_of_done run', related₁⟩
  | failed e => exact ⟨_, _, _, _, attempt_of_failed run, attempt_of_failed run', related₁⟩
  | stuck => exact ⟨_, _, _, _, attempt_of_stuck run, attempt_of_stuck run', related₁⟩

/-- An operation on another handle does not see this one at all. -/
theorem on (k : θ) (t : Operation σ θ α) : Blind R (on k t : Operation σ η _) := by
  intro host h h' w related
  rcases run : t host k w with ⟨a | e | _, k₁, w₁⟩
  · exact ⟨_, _, _, _, on_of_done run, on_of_done run, related⟩
  · exact ⟨_, _, _, _, on_of_failed run, on_of_failed run, related⟩
  · exact ⟨_, _, _, _, on_of_stuck run, on_of_stuck run, related⟩

theorem iterate {step : β → Operation σ η (β ⊕ α)} (hs : ∀ b, Blind R (step b)) (rounds : Nat)
    (b : β) : Blind R (iterate step rounds b) := by
  induction rounds generalizing b with
  | zero => exact halt .waiting
  | succ rounds ih =>
    apply bind (hs b)
    intro next
    cases next with
    | inl b => exact ih b
    | inr a => exact pure a

theorem loop {step : β → Operation σ η (β ⊕ α)} (hs : ∀ b, Blind R (step b)) (b : β) :
    Blind R (loop step b) :=
  fun host => iterate hs host.patience b host

theorem ite {c : Prop} [Decidable c] {s t : Operation σ η α} (hs : Blind R s)
    (ht : Blind R t) : Blind R (if c then s else t) := by
  split
  · exact hs
  · exact ht

theorem call (c : Call) (watch : Watch) : Blind R (call c watch : Operation σ η c.Reply) :=
  fun host h h' w related =>
    ⟨_, _, _, _, call_apply c watch host h w, call_apply c watch host h' w, related⟩

theorem callFreely (c : Call) : Blind R (callFreely c : Operation σ η c.Reply) := call c _

theorem check (g : Guards) (closed : Error) : Blind R (check g closed : Operation σ η Unit) :=
  bind signals fun _ => ofExcept _

theorem guarded (g : Guards) (closed : Error) (c : Call) :
    Blind R (guarded g closed c : Operation σ η c.Reply) :=
  bind (check g closed) fun _ => call c _

end Blind

end Operation

end SqlBinder

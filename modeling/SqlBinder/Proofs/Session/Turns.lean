import Mathlib.Data.List.Forall2
import SqlBinder.Proofs.Session.Rules

/-!
Operations in turn. What one operation preserves of its handle and of the world, a sequence of them
preserves, also behind one that failed or that was given up because its answer never comes.

Neither how an operation ends nor what it asks for comes into `Preserves`. That is what lets a
sequence go on behind a failure; the price is that an invariant has to hold in between as well.
-/
namespace SqlBinder

namespace Operation

variable {σ η ι α β : Type} {host : Host σ} {h : η} {w : World σ}

/-- A call is recorded, signals may fire meanwhile, and the handle stays as it is. -/
theorem call_grows (c : Call) (watch : Watch) (host : Host σ) (h : η) (w : World σ) :
    ∃ out w', call c watch host h w = (out, h, w') ∧ w.signals.Grown w'.signals ∧
      w'.exchanges = w.exchanges ++ [⟨c, out⟩] := by
  obtain ⟨xs, fired⟩ := signals_await (host.answer c w.session) watch w
  refine ⟨_, _, call_apply c watch host h w, ?_, by rw [World.record, exchanges_await]⟩
  show w.signals.Grown (await (host.answer c w.session) watch w).2.signals
  rw [fired]
  exact .fireAll w.signals xs

/-! ## What an operation preserves -/

/-- What holds of the handle and the world holds of them behind the operation. -/
def Preserves (J : η → World σ → Prop) (t : Operation σ η α) : Prop :=
  ∀ host h w, J h w → J (t host h w).2.1 (t host h w).2.2

namespace Preserves

variable {J : η → World σ → Prop}

theorem pure (a : α) : Preserves J (pure a : Operation σ η α) := fun _ _ _ hj => hj

theorem fail (e : Error) : Preserves J (fail e : Operation σ η α) := fun _ _ _ hj => hj

theorem wait : Preserves J (wait : Operation σ η α) := fun _ _ _ hj => hj

theorem ofExcept (r : Except Error α) : Preserves J (ofExcept r : Operation σ η α) := by
  cases r with
  | ok a => exact pure a
  | error e => exact fail e

theorem signals : Preserves J (signals : Operation σ η Signals) := fun _ _ _ hj => hj

theorem modify {f : η → η} (hf : ∀ h w, J h w → J (f h) w) :
    Preserves J (modify f : Operation σ η Unit) :=
  fun _ h w hj => hf h w hj

theorem fire {x : Signal} (hx : ∀ h w, J h w → J h (w.fire x)) :
    Preserves J (fire x : Operation σ η Unit) :=
  fun _ h w hj => hx h w hj

theorem bind {t : Operation σ η α} {f : α → Operation σ η β} (ht : Preserves J t)
    (hf : ∀ a, Preserves J (f a)) : Preserves J (t >>= f) := by
  intro host h w hj
  have hj₁ := ht host h w hj
  rcases run : t host h w with ⟨a | e | _, h₁, w₁⟩ <;> rw [run] at hj₁
  · rw [bind_of_done run]
    exact hf a host h₁ w₁ hj₁
  · rwa [bind_of_failed run]
  · rwa [bind_of_stuck run]

theorem get_bind {f : η → Operation σ η β} (hf : ∀ h, Preserves J (f h)) :
    Preserves J (Operation.get >>= f) :=
  fun host h w hj => hf h host h w hj

theorem attempt {t : Operation σ η α} (ht : Preserves J t) : Preserves J t.attempt := by
  intro host h w hj
  have hj₁ := ht host h w hj
  rcases run : t host h w with ⟨a | e | _, h₁, w₁⟩ <;> rw [run] at hj₁
  · rwa [attempt_of_done run]
  · rwa [attempt_of_failed run]
  · rwa [attempt_of_stuck run]

theorem ite {c : Prop} [Decidable c] {s t : Operation σ η α} (hs : Preserves J s)
    (ht : Preserves J t) : Preserves J (if c then s else t) := by
  split
  · exact hs
  · exact ht

theorem iterate {step : β → Operation σ η (β ⊕ α)} (hs : ∀ b, Preserves J (step b))
    (rounds : Nat) (b : β) : Preserves J (iterate step rounds b) := by
  induction rounds generalizing b with
  | zero => exact wait
  | succ rounds ih =>
    apply bind (hs b)
    intro next
    cases next with
    | inl b => exact ih b
    | inr a => exact pure a

theorem loop {step : β → Operation σ η (β ⊕ α)} (hs : ∀ b, Preserves J (step b)) (b : β) :
    Preserves J (loop step b) :=
  fun host h w hj => iterate hs host.patience b host h w hj

theorem check (g : Guards) (closed : Error) : Preserves J (check g closed : Operation σ η Unit) :=
  bind signals fun _ => ofExcept _

/-- What does not mind a call, and signals that fire meanwhile, is preserved by it. -/
theorem call {c : Call} {watch : Watch}
    (hc : ∀ out h w w', J h w → w.signals.Grown w'.signals →
      w'.exchanges = w.exchanges ++ [⟨c, out⟩] → J h w') :
    Preserves J (call c watch : Operation σ η c.Reply) := by
  intro host h w hj
  obtain ⟨out, w', made, grown, added⟩ := call_grows c watch host h w
  rw [made]
  exact hc out h w w' hj grown added

theorem guarded {c : Call} (g : Guards) (closed : Error)
    (hc : ∀ out h w w', J h w → w.signals.Grown w'.signals →
      w'.exchanges = w.exchanges ++ [⟨c, out⟩] → J h w') :
    Preserves J (guarded g closed c : Operation σ η c.Reply) :=
  bind (check g closed) fun _ => call hc

end Preserves

/-- A guarded round trip leaves the handle as it is. -/
theorem guarded_handle (g : Guards) (closed : Error) (c : Call) (host : Host σ) (h : η)
    (w : World σ) : (guarded g closed c host h w).2.1 = h := by
  rw [guarded_apply]
  cases firstFired w.signals (g.stops closed) <;> rfl

/-! ## One behind the other -/

/-- The operation, with its end as its result. One that never ends is given up. -/
def ended (t : Operation σ η α) : Operation σ η (Outcome α) := fun host h w =>
  (.done (t host h w).1, (t host h w).2.1, (t host h w).2.2)

/-- Operations one behind the other, and how each of them ended. -/
def inTurn (run : ι → Operation σ η α) : List ι → Operation σ η (List (Outcome α))
  | [] => pure []
  | i :: rest => do
    let out ← (run i).ended
    return out :: (← inTurn run rest)

theorem inTurn_cons (run : ι → Operation σ η α) (i : ι) (rest : List ι) {outs : List (Outcome α)}
    {h' : η} {w' : World σ}
    (behind : inTurn run rest host (run i host h w).2.1 (run i host h w).2.2 =
      (.done outs, h', w')) :
    inTurn run (i :: rest) host h w = (.done ((run i host h w).1 :: outs), h', w') := by
  have first : (run i).ended host h w =
      (.done (run i host h w).1, (run i host h w).2.1, (run i host h w).2.2) := rfl
  rw [inTurn, bind_of_done first, bind_of_done behind]
  rfl

/-- A sequence comes to its end whatever becomes of its operations; what each of them preserves
holds there, and each ends as it does where that holds. -/
theorem inTurn_ends (host : Host σ) {run : ι → Operation σ η α} {J : η → World σ → Prop}
    {R : ι → Outcome α → Prop} (kept : ∀ i, Preserves J (run i))
    (ends : ∀ i h w, J h w → R i (run i host h w).1) (is : List ι) (hj : J h w) :
    ∃ outs h' w', inTurn run is host h w = (.done outs, h', w') ∧ J h' w' ∧
      List.Forall₂ R is outs := by
  induction is generalizing h w with
  | nil => exact ⟨[], h, w, rfl, hj, .nil⟩
  | cons i rest ih =>
    obtain ⟨outs, h', w', behind, hj', all⟩ := ih (kept i host h w hj)
    exact ⟨_, h', w', inTurn_cons run i rest behind, hj', .cons (ends i h w hj) all⟩

end Operation

end SqlBinder

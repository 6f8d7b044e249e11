import SqlBinder.Proofs.Session.Rules

/-!
Operations that do not break off. An operation breaks off where a computation in it does, and such a
computation works on what the session reported. So what an operation comes to is told from the wire
values in the answers that it got: if they are all in order, it is done with a result of which
something is known, or it failed, or it waits for an answer that never comes. Every way of putting
operations together keeps that.

The calls are recorded whatever the values are. What is known beforehand is therefore not a
hypothesis of the operation but a part of what is said of it; a second operation then may rely on
what was known before the first and on what the first gave.
-/
namespace SqlBinder

open Operation

variable {σ η θ α β : Type}

/-- The wire values that a call gave back for binds and rows. -/
def Exchange.reported : Exchange → List WireValue
  | ⟨.execute _, .done response⟩ => response.outBinds ++ response.rows.flatten
  | ⟨.executeMany _, .done response⟩ => response.outBinds.flatten
  | ⟨.fetch _ _, .done response⟩ => response.rows.flatten
  | _ => []

/-- The operation has not broken off, and if it is done its result is one of these. -/
def Outcome.Unbroken (Q : α → Prop) : Outcome α → Prop
  | .done a => Q a
  | .failed _ => True
  | .stuck why => why = .waiting

theorem Outcome.Unbroken.mono {Q R : α → Prop} {out : Outcome α} (h : out.Unbroken Q)
    (weaker : ∀ a, Q a → R a) : out.Unbroken R := by
  cases out with
  | done a => exact weaker a h
  | failed e => trivial
  | stuck why => exact h

namespace Operation

/-- If `P` is known and the session reports nothing but such values, the operation does not break
off, and what it gives is one of `Q`. -/
def Gives (ok : WireValue → Prop) (P : Prop) (Q : α → Prop) (t : Operation σ η α) : Prop :=
  ∀ host h w, ∃ new, (t host h w).2.2.exchanges = w.exchanges ++ new ∧
    (P → (∀ x ∈ new, ∀ v ∈ x.reported, ok v) → (t host h w).1.Unbroken Q)

/-- The same where nothing is asked of the result. -/
abbrev Holds (ok : WireValue → Prop) (P : Prop) (t : Operation σ η α) : Prop :=
  Gives ok P (fun _ => True) t

namespace Gives

variable {ok : WireValue → Prop} {P : Prop} {Q R : α → Prop}

/-- An operation that calls nothing. -/
theorem of_silent {t : Operation σ η α}
    (ht : ∀ host h w, (t host h w).2.2.exchanges = w.exchanges ∧
      (P → (t host h w).1.Unbroken Q)) :
    Gives ok P Q t :=
  fun host h w => ⟨[], by rw [(ht host h w).1, List.append_nil], fun p _ => (ht host h w).2 p⟩

theorem pure {a : α} (known : P → Q a) : Gives ok P Q (pure a : Operation σ η α) :=
  of_silent fun _ _ _ => ⟨rfl, known⟩

theorem fail (e : Error) : Gives ok P Q (fail e : Operation σ η α) :=
  of_silent fun _ _ _ => ⟨rfl, fun _ => trivial⟩

theorem wait : Gives ok P Q (wait : Operation σ η α) :=
  of_silent fun _ _ _ => ⟨rfl, fun _ => rfl⟩

theorem ofExcept {r : Except Error α} (known : P → ∀ a, r = .ok a → Q a) :
    Gives ok P Q (ofExcept r : Operation σ η α) := by
  cases r with
  | ok a => exact pure fun p => known p a rfl
  | error e => exact fail e

/-- A computation that does not break off. -/
theorem ofFallible {r : Except Fault α} (unbroken : P → r ≠ .error .brokenOff) :
    Holds ok P (ofFallible r : Operation σ η α) := by
  rcases r with (e | _) | a
  · exact fail e
  · exact of_silent fun _ _ _ => ⟨rfl, fun p => absurd rfl (unbroken p)⟩
  · exact pure fun _ => trivial

theorem modify (f : η → η) : Holds ok P (modify f : Operation σ η Unit) :=
  of_silent fun _ _ _ => ⟨rfl, fun _ => trivial⟩

theorem signals : Holds ok P (signals : Operation σ η Signals) :=
  of_silent fun _ _ _ => ⟨rfl, fun _ => trivial⟩

theorem fresh : Holds ok P (fresh : Operation σ η Signal) :=
  of_silent fun _ _ _ => ⟨rfl, fun _ => trivial⟩

theorem fire (x : Signal) : Holds ok P (fire x : Operation σ η Unit) :=
  of_silent fun _ _ _ => ⟨rfl, fun _ => trivial⟩

/-- A call gives what the session reports. -/
theorem call (c : Call) (watch : Watch) :
    Gives ok P (fun r => ∀ v ∈ Exchange.reported ⟨c, .done r⟩, ok v)
      (call c watch : Operation σ η c.Reply) := by
  intro host h w
  obtain ⟨out, w', made, added⟩ := call_record c watch host h w
  rw [made]
  refine ⟨[⟨c, out⟩], added, fun _ sound => ?_⟩
  cases out with
  | done r => exact sound _ (List.mem_singleton_self _)
  | failed e => trivial
  | stuck why => exact call_stuck made

theorem get_bind {f : η → Operation σ η α} (hf : ∀ h, Gives ok P Q (f h)) :
    Gives ok P Q (Operation.get >>= f) :=
  fun host h w => hf h host h w

theorem ite {c : Prop} [Decidable c] {s t : Operation σ η α} (hs : Gives ok P Q s)
    (ht : Gives ok P Q t) : Gives ok P Q (if c then s else t) := by
  split
  · exact hs
  · exact ht

theorem mono {t : Operation σ η α} (ht : Gives ok P Q t) (weaker : ∀ a, Q a → R a) :
    Gives ok P R t := by
  intro host h w
  obtain ⟨new, added, unbroken⟩ := ht host h w
  exact ⟨new, added, fun p sound => (unbroken p sound).mono weaker⟩

/-- More may be known than is needed. -/
theorem given {P' : Prop} {t : Operation σ η α} (ht : Gives ok P Q t) (known : P' → P) :
    Gives ok P' Q t := by
  intro host h w
  obtain ⟨new, added, unbroken⟩ := ht host h w
  exact ⟨new, added, fun p => unbroken (known p)⟩

/-- Where nothing is asked of the result. -/
theorem holds {t : Operation σ η α} (ht : Gives ok P Q t) : Holds ok P t :=
  ht.mono fun _ _ => trivial

/-- What is done behind other calls, by which more is known. -/
theorem behind {C : Prop} {t : Operation σ η α} (ht : Gives ok (P ∧ C) Q t) {w w₁ : World σ}
    {new : List Exchange} (added : w₁.exchanges = w.exchanges ++ new)
    (known : P → (∀ x ∈ new, ∀ v ∈ x.reported, ok v) → C) (host : Host σ) (h : η) :
    ∃ new, (t host h w₁).2.2.exchanges = w.exchanges ++ new ∧
      (P → (∀ x ∈ new, ∀ v ∈ x.reported, ok v) → (t host h w₁).1.Unbroken Q) := by
  obtain ⟨more, added', unbroken⟩ := ht host h w₁
  refine ⟨new ++ more, by rw [added', added, List.append_assoc], fun p sound => ?_⟩
  refine unbroken ⟨p, known p fun x hx => ?_⟩ fun x hx => ?_
  · exact sound x (List.mem_append_left more hx)
  · exact sound x (List.mem_append_right new hx)

theorem bind {t : Operation σ η β} {f : β → Operation σ η α} {Q : β → Prop}
    (ht : Gives ok P Q t) (hf : ∀ b, Gives ok (P ∧ Q b) R (f b)) : Gives ok P R (t >>= f) := by
  intro host h w
  obtain ⟨new, added, unbroken⟩ := ht host h w
  rcases run : t host h w with ⟨b | e | why, h₁, w₁⟩ <;> rw [run] at added unbroken
  · rw [bind_of_done run]
    exact (hf b).behind added unbroken host h₁
  · rw [bind_of_failed run]
    exact ⟨new, added, fun _ _ => trivial⟩
  · rw [bind_of_stuck run]
    exact ⟨new, added, unbroken⟩

/-- A failure is caught, a break is not. -/
theorem attempt_bind {t : Operation σ η β} {f : Except Error β → Operation σ η α} {Q : β → Prop}
    (ht : Gives ok P Q t) (done : ∀ b, Gives ok (P ∧ Q b) R (f (.ok b)))
    (failed : ∀ e, Gives ok P R (f (.error e))) : Gives ok P R (t.attempt >>= f) := by
  intro host h w
  obtain ⟨new, added, unbroken⟩ := ht host h w
  rcases run : t host h w with ⟨b | e | why, h₁, w₁⟩ <;> rw [run] at added unbroken
  · rw [bind_of_done (attempt_of_done run)]
    exact (done b).behind added unbroken host h₁
  · rw [bind_of_done (attempt_of_failed run)]
    exact ((failed e).given (And.left (b := True))).behind added (fun _ _ => trivial) host h₁
  · rw [bind_of_stuck (attempt_of_stuck run)]
    exact ⟨new, added, unbroken⟩

/-- So is a failure of an operation on another handle. -/
theorem on_bind {k : θ} {t : Operation σ θ β} {f : Except Error β × θ → Operation σ η α}
    {Q : β → Prop} (ht : Gives ok P Q t) (done : ∀ b k, Gives ok (P ∧ Q b) R (f (.ok b, k)))
    (failed : ∀ e k, Gives ok P R (f (.error e, k))) : Gives ok P R (Operation.on k t >>= f) := by
  intro host h w
  obtain ⟨new, added, unbroken⟩ := ht host k w
  rcases run : t host k w with ⟨b | e | why, k₁, w₁⟩ <;> rw [run] at added unbroken
  · rw [bind_of_done (on_of_done run)]
    exact (done b k₁).behind added unbroken host h
  · rw [bind_of_done (on_of_failed run)]
    exact ((failed e k₁).given (And.left (b := True))).behind added (fun _ _ => trivial) host h
  · rw [bind_of_stuck (on_of_stuck run)]
    exact ⟨new, added, unbroken⟩

/-- Every step may rely on what is known of where it begins. -/
theorem iterate {I : β → Prop} {step : β → Operation σ η (β ⊕ α)}
    (hs : ∀ b, Gives ok (P ∧ I b) (Sum.elim I Q) (step b)) (rounds : Nat) (b : β) :
    Gives ok (P ∧ I b) Q (iterate step rounds b) := by
  induction rounds generalizing b with
  | zero => exact wait
  | succ rounds ih =>
    refine (hs b).bind fun next => ?_
    cases next with
    | inl b => exact (ih b).given fun known => ⟨known.1.1, known.2⟩
    | inr a => exact pure fun known => known.2

theorem loop {I : β → Prop} {step : β → Operation σ η (β ⊕ α)}
    (hs : ∀ b, Gives ok (P ∧ I b) (Sum.elim I Q) (step b)) {b : β} (first : P → I b) :
    Gives ok P Q (loop step b) :=
  fun host h w =>
    ((iterate hs host.patience b).given fun p => ⟨p, first p⟩) host h w

theorem callFreely (c : Call) : Holds ok P (callFreely c : Operation σ η c.Reply) :=
  (call c _).holds

theorem check (g : Guards) (closed : Error) :
    Holds ok P (check g closed : Operation σ η Unit) :=
  bind signals fun _ => ofExcept fun _ _ _ => trivial

theorem guarded (g : Guards) (closed : Error) (c : Call) :
    Holds ok P (guarded g closed c : Operation σ η c.Reply) :=
  bind (check g closed) fun _ => (call c _).holds

end Gives

end Operation

end SqlBinder

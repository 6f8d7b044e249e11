import SqlBinder.Session.Operation

/-!
Rules for operations. A run is taken apart at its first step, and `Calls` says which calls an
operation can make at all, whatever the session answers and whatever signals fire. What a run asked
of the session is then known without following it.

`Calls` has one rule for each way of building operations, so an operation that is made of others
needs one line for each of its steps. The loops are inductions on their rounds.
-/
namespace SqlBinder

namespace Signals

/-- Signals were made and fired in between; what had fired has fired. -/
structure Grown (s s' : Signals) : Prop where
  made : s.made ≤ s'.made
  fired : ∀ x, s.isFired x = true → s'.isFired x = true

namespace Grown

variable {s s' s'' : Signals}

theorem refl (s : Signals) : s.Grown s := ⟨Nat.le_refl _, fun _ fired => fired⟩

theorem trans (h : s.Grown s') (h' : s'.Grown s'') : s.Grown s'' :=
  ⟨Nat.le_trans h.made h'.made, fun x fired => h'.fired x (h.fired x fired)⟩

theorem fresh (s : Signals) : s.Grown s.fresh.2 := ⟨Nat.le_succ _, fun _ fired => fired⟩

theorem fire (s : Signals) (x : Signal) : s.Grown (s.fire x) :=
  ⟨Nat.le_of_eq (made_fire s x).symm, fun y fired => by simp [fired]⟩

theorem fireAll (s : Signals) (xs : List Signal) : s.Grown (s.fireAll xs) :=
  ⟨Nat.le_of_eq (made_fireAll s xs).symm, fun y fired => by simp [fired]⟩

end Grown

end Signals

namespace Operation

variable {σ η θ α β : Type} {host : Host σ} {h h' h₁ : η} {w w' w₁ : World σ} {why : Halt}

/-! ## Runs step by step -/

theorem bind_of_done {t : Operation σ η α} {a : α} (run : t host h w = (.done a, h₁, w₁))
    (f : α → Operation σ η β) : (t >>= f) host h w = f a host h₁ w₁ := by
  rw [bind_apply, run]

theorem bind_of_failed {t : Operation σ η α} {e : Error} (run : t host h w = (.failed e, h₁, w₁))
    (f : α → Operation σ η β) : (t >>= f) host h w = (.failed e, h₁, w₁) := by
  rw [bind_apply, run]

theorem bind_of_stuck {t : Operation σ η α} (run : t host h w = (.stuck why, h₁, w₁))
    (f : α → Operation σ η β) : (t >>= f) host h w = (.stuck why, h₁, w₁) := by
  rw [bind_apply, run]

/-- What is done was done in both parts. -/
theorem bind_done {t : Operation σ η α} {f : α → Operation σ η β} {b : β}
    (run : (t >>= f) host h w = (.done b, h', w')) :
    ∃ a h₁ w₁, t host h w = (.done a, h₁, w₁) ∧ f a host h₁ w₁ = (.done b, h', w') := by
  rcases ht : t host h w with ⟨_ | _ | _, h₁, w₁⟩
  · exact ⟨_, h₁, w₁, rfl, by rwa [bind_of_done ht] at run⟩
  · simp [bind_of_failed ht] at run
  · simp [bind_of_stuck ht] at run

/-- A result that is only put differently. -/
theorem bind_pure_snd (t : Operation σ η α) (f : α → β) :
    ((t >>= fun a => pure (f a)) host h w).2 = (t host h w).2 := by
  rcases ht : t host h w with ⟨_ | _ | _, _, _⟩
  · rw [bind_of_done ht]
    rfl
  · rw [bind_of_failed ht]
  · rw [bind_of_stuck ht]

/-- Operations that come to the same outcome do so when it is only put differently. -/
theorem bind_pure_fst {t : Operation σ η α} {t' : Operation σ θ α} {k : θ}
    (same : (t host h w).1 = (t' host k w').1) (f : α → β) :
    ((t >>= fun a => pure (f a)) host h w).1 = ((t' >>= fun a => pure (f a)) host k w').1 := by
  rcases ht : t host h w with ⟨out, h₁, w₁⟩
  rcases ht' : t' host k w' with ⟨out', k₁, w₁'⟩
  rw [ht, ht'] at same
  obtain rfl : out = out' := same
  rw [bind_apply, bind_apply, ht, ht']
  cases out <;> rfl

/-- Behind a failure nothing is done. -/
theorem bind_failed_fst {t : Operation σ η α} {e : Error} (failed : (t host h w).1 = .failed e)
    (f : α → Operation σ η β) : ((t >>= f) host h w).1 = .failed e := by
  rcases ht : t host h w with ⟨out, h₁, w₁⟩
  rw [ht] at failed
  obtain rfl : out = .failed e := failed
  rw [bind_of_failed ht]

/-- What ends with a failure is never done. -/
theorem bind_fail_ne_done (t : Operation σ η α) (e : Error) (b : β) :
    ((t >>= fun _ => fail e) host h w).1 ≠ .done b := by
  rcases ht : t host h w with ⟨_ | _ | _, _, _⟩
  · simp [bind_of_done ht]
  · simp [bind_of_failed ht]
  · simp [bind_of_stuck ht]

theorem attempt_of_done {t : Operation σ η α} {a : α} (run : t host h w = (.done a, h₁, w₁)) :
    t.attempt host h w = (.done (.ok a), h₁, w₁) := by
  simp [attempt, run]

theorem attempt_of_failed {t : Operation σ η α} {e : Error}
    (run : t host h w = (.failed e, h₁, w₁)) :
    t.attempt host h w = (.done (.error e), h₁, w₁) := by
  simp [attempt, run]

theorem attempt_of_stuck {t : Operation σ η α} (run : t host h w = (.stuck why, h₁, w₁)) :
    t.attempt host h w = (.stuck why, h₁, w₁) := by
  simp [attempt, run]

/-- An attempt that is done tells how the operation ended. -/
theorem attempt_done {t : Operation σ η α} {r : Except Error α}
    (run : t.attempt host h w = (.done r, h', w')) :
    (∃ a, r = .ok a ∧ t host h w = (.done a, h', w')) ∨
      ∃ e, r = .error e ∧ t host h w = (.failed e, h', w') := by
  rcases ht : t host h w with ⟨a | e | _, h₁, w₁⟩
  · simp only [attempt_of_done ht, Prod.mk.injEq, Outcome.done.injEq] at run
    obtain ⟨rfl, rfl, rfl⟩ := run
    exact .inl ⟨a, rfl, rfl⟩
  · simp only [attempt_of_failed ht, Prod.mk.injEq, Outcome.done.injEq] at run
    obtain ⟨rfl, rfl, rfl⟩ := run
    exact .inr ⟨e, rfl, rfl⟩
  · simp [attempt_of_stuck ht] at run

/-- An attempt never fails. -/
theorem attempt_failed {t : Operation σ η α} {e : Error}
    (run : t.attempt host h w = (.failed e, h', w')) : False := by
  rcases ht : t host h w with ⟨_ | _ | _, h₁, w₁⟩
  · simp [attempt_of_done ht] at run
  · simp [attempt_of_failed ht] at run
  · simp [attempt_of_stuck ht] at run

theorem on_of_done {t : Operation σ θ α} {k k₁ : θ} {a : α}
    (run : t host k w = (.done a, k₁, w₁)) :
    (on k t : Operation σ η _) host h w = (.done (.ok a, k₁), h, w₁) := by
  simp [on, run]

theorem on_of_failed {t : Operation σ θ α} {k k₁ : θ} {e : Error}
    (run : t host k w = (.failed e, k₁, w₁)) :
    (on k t : Operation σ η _) host h w = (.done (.error e, k₁), h, w₁) := by
  simp [on, run]

theorem on_of_stuck {t : Operation σ θ α} {k k₁ : θ} (run : t host k w = (.stuck why, k₁, w₁)) :
    (on k t : Operation σ η _) host h w = (.stuck why, h, w₁) := by
  simp [on, run]

/-- An operation on another handle that is done tells how it ended there. -/
theorem on_done {t : Operation σ θ α} {k k' : θ} {r : Except Error α}
    (run : (on k t : Operation σ η _) host h w = (.done (r, k'), h', w')) :
    h' = h ∧ ((∃ a, r = .ok a ∧ t host k w = (.done a, k', w')) ∨
      ∃ e, r = .error e ∧ t host k w = (.failed e, k', w')) := by
  rcases ht : t host k w with ⟨a | e | _, k₁, w₁⟩
  · simp only [on_of_done ht, Prod.mk.injEq, Outcome.done.injEq] at run
    obtain ⟨⟨rfl, rfl⟩, rfl, rfl⟩ := run
    exact ⟨rfl, .inl ⟨a, rfl, rfl⟩⟩
  · simp only [on_of_failed ht, Prod.mk.injEq, Outcome.done.injEq] at run
    obtain ⟨⟨rfl, rfl⟩, rfl, rfl⟩ := run
    exact ⟨rfl, .inr ⟨e, rfl, rfl⟩⟩
  · simp [on_of_stuck ht] at run

theorem ofExcept_done {r : Except Error α} {a : α}
    (run : (ofExcept r : Operation σ η α) host h w = (.done a, h', w')) :
    r = .ok a ∧ h' = h ∧ w' = w := by
  cases r with
  | ok b =>
    simp only [ofExcept_ok, pure_apply, Prod.mk.injEq, Outcome.done.injEq] at run
    obtain ⟨rfl, rfl, rfl⟩ := run
    exact ⟨rfl, rfl, rfl⟩
  | error e => simp at run

theorem ofFallible_done {r : Except Fault α} {a : α}
    (run : (ofFallible r : Operation σ η α) host h w = (.done a, h', w')) :
    r = .ok a ∧ h' = h ∧ w' = w := by
  rcases r with (_ | _) | b
  · simp at run
  · simp at run
  · simp only [ofFallible_ok, pure_apply, Prod.mk.injEq, Outcome.done.injEq] at run
    obtain ⟨rfl, rfl, rfl⟩ := run
    exact ⟨rfl, rfl, rfl⟩

/-! ## Waiting for answers -/

/-- Behind a wait the answer was given up or is there. -/
theorem await_cases {ρ : Type} (a : Answer σ ρ) (watch : Watch) (w : World σ) :
    (await a watch w).2 = w.asking a ∨ (await a watch w).2 = (w.asking a).answered a := by
  simp only [await]
  cases firstFired (w.asking a).signals watch.stops with
  | some e => exact .inl rfl
  | none =>
    cases watch.missed? a.wait with
    | some limit => exact .inl rfl
    | none =>
      dsimp only
      split
      · exact .inl rfl
      · cases a.reply with
        | ok r => exact .inr rfl
        | error e => exact .inr rfl

/-- Waiting never breaks off. -/
theorem await_stuck {ρ : Type} {a : Answer σ ρ} {watch : Watch}
    (stuck : (await a watch w).1 = .stuck why) : why = .waiting := by
  simp only [await] at stuck
  cases stops : firstFired (w.asking a).signals watch.stops with
  | some e => simp [stops] at stuck
  | none =>
    cases missed : watch.missed? a.wait with
    | some limit => simp [stops, missed] at stuck
    | none =>
      simp only [stops, missed] at stuck
      split at stuck
      · exact (Outcome.stuck.inj stuck).symm
      · cases reply : a.reply <;> simp [reply] at stuck

theorem exchanges_await {ρ : Type} (a : Answer σ ρ) (watch : Watch) (w : World σ) :
    (await a watch w).2.exchanges = w.exchanges := by
  rcases await_cases a watch w with h | h <;> rw [h] <;> rfl

/-- Waiting fires signals and does nothing else to them. -/
theorem signals_await {ρ : Type} (a : Answer σ ρ) (watch : Watch) (w : World σ) :
    ∃ xs, (await a watch w).2.signals = w.signals.fireAll xs := by
  rcases await_cases a watch w with ended | ended
  · exact ⟨_, by rw [ended]; rfl⟩
  · refine ⟨(a.during ++ if a.waits then w.armed else []) ++ a.after, ?_⟩
    rw [ended, Signals.fireAll, List.foldl_append]
    rfl

/-! ## The calls an operation can make -/

/-- From handles with `I` the operation makes only calls with `P`, and it keeps `I`. Signals are
only made and fired by it. -/
def Calls (I : η → Prop) (P : Call → Prop) (t : Operation σ η α) : Prop :=
  ∀ host h w, I h → I (t host h w).2.1 ∧ w.signals.Grown (t host h w).2.2.signals ∧
    ∃ new, (t host h w).2.2.exchanges = w.exchanges ++ new ∧ ∀ x ∈ new, P x.call

namespace Calls

variable {I : η → Prop} {P Q : Call → Prop}

theorem mono {t : Operation σ η α} (ht : Calls I P t) (hPQ : ∀ c, P c → Q c) : Calls I Q t := by
  intro host h w hi
  obtain ⟨hi', grown, new, added, hnew⟩ := ht host h w hi
  exact ⟨hi', grown, new, added, fun x hx => hPQ _ (hnew x hx)⟩

/-- An operation that calls nothing. -/
theorem of_silent {t : Operation σ η α}
    (ht : ∀ host h w, I h → I (t host h w).2.1 ∧ w.signals.Grown (t host h w).2.2.signals ∧
      (t host h w).2.2.exchanges = w.exchanges) :
    Calls I P t := by
  intro host h w hi
  obtain ⟨hi', grown, same⟩ := ht host h w hi
  exact ⟨hi', grown, [], by simp [same], by simp⟩

theorem pure (a : α) : Calls I P (pure a : Operation σ η α) :=
  of_silent fun _ _ w hi => ⟨hi, .refl w.signals, rfl⟩

theorem fail (e : Error) : Calls I P (fail e : Operation σ η α) :=
  of_silent fun _ _ w hi => ⟨hi, .refl w.signals, rfl⟩

theorem halt (why : Halt) : Calls I P (halt why : Operation σ η α) :=
  of_silent fun _ _ w hi => ⟨hi, .refl w.signals, rfl⟩

theorem ofExcept (r : Except Error α) : Calls I P (ofExcept r : Operation σ η α) := by
  cases r with
  | ok a => exact pure a
  | error e => exact fail e

theorem ofFallible (r : Except Fault α) : Calls I P (ofFallible r : Operation σ η α) := by
  rcases r with (_ | _) | a
  · exact fail _
  · exact halt .brokenOff
  · exact pure a

theorem get : Calls I P (get : Operation σ η η) :=
  of_silent fun _ _ w hi => ⟨hi, .refl w.signals, rfl⟩

theorem modify {f : η → η} (hf : ∀ h, I h → I (f h)) :
    Calls I P (modify f : Operation σ η Unit) :=
  of_silent fun _ h w hi => ⟨hf h hi, .refl w.signals, rfl⟩

theorem signals : Calls I P (signals : Operation σ η Signals) :=
  of_silent fun _ _ w hi => ⟨hi, .refl w.signals, rfl⟩

theorem fresh : Calls I P (fresh : Operation σ η Signal) :=
  of_silent fun _ _ w hi => ⟨hi, .fresh w.signals, rfl⟩

theorem fire (x : Signal) : Calls I P (fire x : Operation σ η Unit) :=
  of_silent fun _ _ w hi => ⟨hi, .fire w.signals x, rfl⟩

theorem bind {t : Operation σ η α} {f : α → Operation σ η β} (ht : Calls I P t)
    (hf : ∀ a, Calls I P (f a)) : Calls I P (t >>= f) := by
  intro host h w hi
  obtain ⟨hi₁, grown₁, new₁, added₁, hnew₁⟩ := ht host h w hi
  rcases run : t host h w with ⟨a | e | _, h₁, w₁⟩ <;> rw [run] at hi₁ grown₁ added₁
  · obtain ⟨hi₂, grown₂, new₂, added₂, hnew₂⟩ := hf a host h₁ w₁ hi₁
    rw [bind_of_done run]
    refine ⟨hi₂, grown₁.trans grown₂, new₁ ++ new₂, ?_, fun x hx => ?_⟩
    · rw [added₂, added₁, List.append_assoc]
    · exact (List.mem_append.1 hx).elim (hnew₁ x) (hnew₂ x)
  · rw [bind_of_failed run]
    exact ⟨hi₁, grown₁, new₁, added₁, hnew₁⟩
  · rw [bind_of_stuck run]
    exact ⟨hi₁, grown₁, new₁, added₁, hnew₁⟩

/-- Behind a look at the handle, what is known of it can be used. -/
theorem get_bind {f : η → Operation σ η β} (hf : ∀ h, I h → Calls I P (f h)) :
    Calls I P (Operation.get >>= f) :=
  fun host h w hi => hf h hi host h w hi

theorem attempt {t : Operation σ η α} (ht : Calls I P t) : Calls I P t.attempt := by
  intro host h w hi
  have made := ht host h w hi
  rcases run : t host h w with ⟨_ | _ | _, h₁, w₁⟩ <;> rw [run] at made
  · rwa [attempt_of_done run]
  · rwa [attempt_of_failed run]
  · rwa [attempt_of_stuck run]

/-- An operation on another handle, of which `J` is known. -/
theorem on {J : θ → Prop} {k : θ} {t : Operation σ θ α} (ht : Calls J P t) (hk : J k) :
    Calls I P (on k t : Operation σ η _) := by
  intro host h w hi
  obtain ⟨-, made⟩ := ht host k w hk
  rcases run : t host k w with ⟨_ | _ | _, k₁, w₁⟩ <;> rw [run] at made
  · rw [on_of_done run]
    exact ⟨hi, made⟩
  · rw [on_of_failed run]
    exact ⟨hi, made⟩
  · rw [on_of_stuck run]
    exact ⟨hi, made⟩

/-- An operation on another handle, and what is done with the handle it leaves. -/
theorem on_bind {J : θ → Prop} {k : θ} {t : Operation σ θ α}
    {f : Except Error α × θ → Operation σ η β} (ht : Calls J P t) (hk : J k)
    (hf : ∀ r k, J k → Calls I P (f (r, k))) : Calls I P (Operation.on k t >>= f) := by
  intro host h w hi
  obtain ⟨hj, grown, new, added, hnew⟩ := ht host k w hk
  -- Both results of the other operation lead to the same continuation.
  have then_ : ∀ {r k₁ w₁}, J k₁ → w.signals.Grown w₁.signals → w₁.exchanges = w.exchanges ++ new →
      I (f (r, k₁) host h w₁).2.1 ∧ w.signals.Grown (f (r, k₁) host h w₁).2.2.signals ∧ ∃ new,
        (f (r, k₁) host h w₁).2.2.exchanges = w.exchanges ++ new ∧ ∀ x ∈ new, P x.call := by
    intro r k₁ w₁ hk₁ grown₁ added₁
    obtain ⟨hi₂, grown₂, new₂, added₂, hnew₂⟩ := hf r k₁ hk₁ host h w₁ hi
    refine ⟨hi₂, grown₁.trans grown₂, new ++ new₂, ?_, fun x hx => ?_⟩
    · rw [added₂, added₁, List.append_assoc]
    · exact (List.mem_append.1 hx).elim (hnew x) (hnew₂ x)
  rcases run : t host k w with ⟨_ | _ | _, k₁, w₁⟩ <;> rw [run] at hj grown added
  · rw [bind_of_done (on_of_done run)]
    exact then_ hj grown added
  · rw [bind_of_done (on_of_failed run)]
    exact then_ hj grown added
  · rw [bind_of_stuck (on_of_stuck run)]
    exact ⟨hi, grown, new, added, hnew⟩

theorem iterate {step : β → Operation σ η (β ⊕ α)} (hs : ∀ b, Calls I P (step b)) (rounds : Nat)
    (b : β) : Calls I P (iterate step rounds b) := by
  induction rounds generalizing b with
  | zero => exact halt .waiting
  | succ rounds ih =>
    apply bind (hs b)
    intro next
    cases next with
    | inl b => exact ih b
    | inr a => exact pure a

theorem loop {step : β → Operation σ η (β ⊕ α)} (hs : ∀ b, Calls I P (step b)) (b : β) :
    Calls I P (loop step b) :=
  fun host h w hi => iterate hs host.patience b host h w hi

theorem ite {c : Prop} [Decidable c] {s t : Operation σ η α} (hs : Calls I P s)
    (ht : Calls I P t) : Calls I P (if c then s else t) := by
  split
  · exact hs
  · exact ht

end Calls

/-- A call is recorded with its outcome, and the handle stays as it is. -/
theorem call_record (c : Call) (watch : Watch) (host : Host σ) (h : η) (w : World σ) :
    ∃ out w', call c watch host h w = (out, h, w') ∧ w'.exchanges = w.exchanges ++ [⟨c, out⟩] :=
  ⟨_, _, call_apply c watch host h w, by rw [World.record, exchanges_await]⟩

theorem call_stuck {c : Call} {watch : Watch}
    (run : call c watch host h w = (.stuck why, h', w')) : why = .waiting := by
  rw [call_apply] at run
  exact await_stuck (Prod.mk.inj run).1

/-- A guarded round trip is not begun once a signal has fired. -/
theorem guarded_apply (g : Guards) (closed : Error) (c : Call) (host : Host σ) (h : η)
    (w : World σ) :
    guarded g closed c host h w =
      match firstFired w.signals (g.stops closed) with
      | some e => (.failed e, h, w)
      | none => call c ⟨none, g.stops closed⟩ host h w := by
  simp only [guarded, check, bind_apply, signals_apply, Guards.check]
  cases firstFired w.signals (g.stops closed) <;> rfl

/-- A guarded round trip that is done was made. -/
theorem guarded_done {g : Guards} {closed : Error} {c : Call} {r : c.Reply}
    (run : guarded g closed c host h w = (.done r, h', w')) :
    h' = h ∧ w'.exchanges = w.exchanges ++ [⟨c, .done r⟩] := by
  rw [guarded_apply] at run
  cases hf : firstFired w.signals (g.stops closed) with
  | some e => simp [hf] at run
  | none =>
    obtain ⟨out, w₁, made, added⟩ := call_record c ⟨none, g.stops closed⟩ host h w
    simp only [hf, made, Prod.mk.injEq] at run
    obtain ⟨rfl, rfl, rfl⟩ := run
    exact ⟨rfl, added⟩

theorem guarded_stuck {g : Guards} {closed : Error} {c : Call}
    (run : guarded g closed c host h w = (.stuck why, h', w')) : why = .waiting := by
  rw [guarded_apply] at run
  cases stopped : firstFired w.signals (g.stops closed) with
  | some e => simp [stopped] at run
  | none =>
    simp only [stopped] at run
    exact call_stuck run

namespace Calls

variable {I : η → Prop} {P : Call → Prop}

theorem call {c : Call} (hc : P c) (watch : Watch) :
    Calls I P (call c watch : Operation σ η c.Reply) := by
  intro host h w hi
  obtain ⟨xs, fired⟩ := signals_await (host.answer c w.session) watch w
  refine ⟨hi, ?_, [⟨c, (await (host.answer c w.session) watch w).1⟩], ?_, by simpa using hc⟩
  · show w.signals.Grown (await (host.answer c w.session) watch w).2.signals
    rw [fired]
    exact .fireAll w.signals xs
  · rw [call_apply, World.record, exchanges_await]

theorem callFreely {c : Call} (hc : P c) : Calls I P (callFreely c : Operation σ η c.Reply) :=
  call hc _

theorem check (g : Guards) (closed : Error) : Calls I P (check g closed : Operation σ η Unit) :=
  bind signals fun _ => ofExcept _

theorem guarded {c : Call} (g : Guards) (closed : Error) (hc : P c) :
    Calls I P (guarded g closed c : Operation σ η c.Reply) :=
  bind (check g closed) fun _ => call hc _

end Calls

end Operation

end SqlBinder

import SqlBinder.Proofs.Session.Rules

/-!
Operations that run alike, one beside the other: they come to the same outcome, leave their
handles as they are, and keep what relates their worlds. With one world on both sides this
says what a single run keeps.

A handle that nobody disturbs never sees its guards. Then only the state of the session
decides what a round trip comes to.
-/
namespace SqlBinder

variable {σ η θ α β ρ : Type} {host : Host σ}

namespace Operation

/-- From worlds with `S` both operations come to the same outcome, and to worlds with `S`. -/
def Alike (host : Host σ) (S : World σ → World σ → Prop) (t : Operation σ η α)
    (t' : Operation σ θ α) : Prop :=
  ∀ h k w w', S w w' → ∃ out w₁ w₁',
    t host h w = (out, h, w₁) ∧ t' host k w' = (out, k, w₁') ∧ S w₁ w₁'

namespace Alike

variable {S : World σ → World σ → Prop}

theorem pure (a : α) : Alike host S (pure a : Operation σ η α) (pure a : Operation σ θ α) :=
  fun _ _ _ _ same => ⟨_, _, _, rfl, rfl, same⟩

theorem fail (e : Error) :
    Alike host S (fail e : Operation σ η α) (fail e : Operation σ θ α) :=
  fun _ _ _ _ same => ⟨_, _, _, rfl, rfl, same⟩

theorem halt (why : Halt) :
    Alike host S (halt why : Operation σ η α) (halt why : Operation σ θ α) :=
  fun _ _ _ _ same => ⟨_, _, _, rfl, rfl, same⟩

theorem ofExcept (r : Except Error α) :
    Alike host S (ofExcept r : Operation σ η α) (ofExcept r : Operation σ θ α) := by
  cases r with
  | ok a => exact pure a
  | error e => exact fail e

theorem ofFallible (r : Except Fault α) :
    Alike host S (ofFallible r : Operation σ η α) (ofFallible r : Operation σ θ α) := by
  rcases r with (e | _) | a
  · exact fail e
  · exact halt .brokenOff
  · exact pure a

theorem bind {t : Operation σ η α} {t' : Operation σ θ α} {f : α → Operation σ η β}
    {f' : α → Operation σ θ β} (ht : Alike host S t t') (hf : ∀ a, Alike host S (f a) (f' a)) :
    Alike host S (t >>= f) (t' >>= f') := by
  intro h k w w' same
  obtain ⟨out, w₁, w₁', run, run', same₁⟩ := ht h k w w' same
  cases out with
  | done a =>
    rw [bind_of_done run, bind_of_done run']
    exact hf a h k w₁ w₁' same₁
  | failed e => exact ⟨_, _, _, bind_of_failed run f, bind_of_failed run' f', same₁⟩
  | stuck => exact ⟨_, _, _, bind_of_stuck run f, bind_of_stuck run' f', same₁⟩

theorem ite {c : Prop} [Decidable c] {s t : Operation σ η α} {s' t' : Operation σ θ α}
    (hs : Alike host S s s') (ht : Alike host S t t') :
    Alike host S (if c then s else t) (if c then s' else t') := by
  split
  · exact hs
  · exact ht

theorem iterate {step : β → Operation σ η (β ⊕ α)} {step' : β → Operation σ θ (β ⊕ α)}
    (hs : ∀ b, Alike host S (step b) (step' b)) (rounds : Nat) (b : β) :
    Alike host S (iterate step rounds b) (iterate step' rounds b) := by
  induction rounds generalizing b with
  | zero => exact halt .waiting
  | succ rounds ih =>
    apply bind (hs b)
    intro next
    cases next with
    | inl b => exact ih b
    | inr a => exact pure a

theorem loop {step : β → Operation σ η (β ⊕ α)} {step' : β → Operation σ θ (β ⊕ α)}
    (hs : ∀ b, Alike host S (step b) (step' b)) (b : β) :
    Alike host S (loop step b) (loop step' b) :=
  fun h k w w' same => iterate hs host.patience b h k w w' same

end Alike

end Operation

open Operation

/-! ## Undisturbed handles -/

/-- What waiting for an answer to its end comes to, and the state it leaves. -/
def Answer.result (a : Answer σ ρ) : Outcome ρ × σ :=
  if a.wait.isNone then (.stuck .waiting, a.begun)
  else
    match a.reply with
    | .ok r => (.done r, a.finished)
    | .error e => (.failed e, a.finished)

/-- An answer that is waited for to its end. -/
theorem await_result (a : Answer σ ρ) {watch : Watch} {w : World σ} (unlimited : watch.limit = none)
    (quiet : firstFired (w.asking a).signals watch.stops = none) :
    (await a watch w).1 = a.result.1 ∧ (await a watch w).2.session = a.result.2 := by
  have unmissed : watch.missed? a.wait = none := by simp [Watch.missed?, unlimited]
  simp only [await, quiet, unmissed, Answer.result]
  split
  · exact ⟨rfl, rfl⟩
  · cases a.reply with
    | ok r => exact ⟨rfl, rfl⟩
    | error e => exact ⟨rfl, rfl⟩

/-- The guards are open, and nobody fires them. -/
structure Undisturbed (host : Host σ) (g : Guards) (w : World σ) : Prop where
  answers : ∀ c s, ∀ x ∈ (host.answer c s).during ++ (host.answer c s).after,
    x ≠ g.own ∧ x ≠ g.connection
  armed : ∀ x ∈ w.armed, x ≠ g.own ∧ x ≠ g.connection
  own : w.signals.isFired g.own = false
  connection : w.signals.isFired g.connection = false

namespace Undisturbed

variable {g : Guards} {w : World σ}

theorem of_signals {w' : World σ} (h : Undisturbed host g w) (signals : w'.signals = w.signals)
    (armed : w'.armed = w.armed) : Undisturbed host g w' where
  answers := h.answers
  armed := by rw [armed]; exact h.armed
  own := by rw [signals]; exact h.own
  connection := by rw [signals]; exact h.connection

theorem fireAll {xs : List Signal} (h : Undisturbed host g w)
    (others : ∀ x ∈ xs, x ≠ g.own ∧ x ≠ g.connection) : Undisturbed host g (w.fireAll xs) where
  answers := h.answers
  armed := h.armed
  own := by
    have other : g.own ∉ xs := fun mem => (others _ mem).1 rfl
    simpa [World.fireAll, h.own] using other
  connection := by
    have other : g.connection ∉ xs := fun mem => (others _ mem).2 rfl
    simpa [World.fireAll, h.connection] using other

theorem asking (h : Undisturbed host g w) (c : Call) :
    Undisturbed host g (w.asking (host.answer c w.session)) := by
  have sent : Undisturbed host g { w with session := (host.answer c w.session).begun } :=
    h.of_signals rfl rfl
  apply sent.fireAll
  intro x mem
  rcases List.mem_append.1 mem with mem | mem
  · exact h.answers c w.session x (List.mem_append_left _ mem)
  · split at mem
    · exact h.armed x mem
    · cases mem

theorem await (h : Undisturbed host g w) (c : Call) (watch : Watch) :
    Undisturbed host g (await (host.answer c w.session) watch w).2 := by
  rcases await_cases (host.answer c w.session) watch w with ended | ended
  · rw [ended]
    exact h.asking c
  · have there : Undisturbed host g
        { w.asking (host.answer c w.session) with session := (host.answer c w.session).finished } :=
      (h.asking c).of_signals rfl rfl
    rw [ended]
    exact there.fireAll fun x mem => h.answers c w.session x (List.mem_append_right _ mem)

theorem stops_none (h : Undisturbed host g w) (closed : Error) :
    firstFired w.signals (g.stops closed) = none := by
  simp [Guards.stops, firstFired, h.own, h.connection]

/-- A round trip that nothing ends early comes to its result. -/
theorem call {c : Call} {watch : Watch} (calm : Undisturbed host g w)
    (unlimited : watch.limit = none)
    (quiet : firstFired (w.asking (host.answer c w.session)).signals watch.stops = none) (h : η) :
    ∃ w', Operation.call c watch host h w = ((host.answer c w.session).result.1, h, w') ∧
      w'.session = (host.answer c w.session).result.2 ∧ Undisturbed host g w' := by
  obtain ⟨outcome, session⟩ := await_result (host.answer c w.session) unlimited quiet
  rw [call_apply, outcome]
  exact ⟨_, rfl, session, (calm.await c watch).of_signals rfl rfl⟩

theorem callFreely (calm : Undisturbed host g w) (c : Call) (h : η) :
    ∃ w', Operation.callFreely c host h w = ((host.answer c w.session).result.1, h, w') ∧
      w'.session = (host.answer c w.session).result.2 ∧ Undisturbed host g w' :=
  calm.call rfl rfl h

theorem guarded (calm : Undisturbed host g w) (closed : Error) (c : Call) (h : η) :
    ∃ w', Operation.guarded g closed c host h w = ((host.answer c w.session).result.1, h, w') ∧
      w'.session = (host.answer c w.session).result.2 ∧ Undisturbed host g w' := by
  rw [guarded_apply, calm.stops_none closed]
  exact calm.call rfl ((calm.asking c).stops_none closed) h

end Undisturbed

/-! ## Operations that come to an end -/

namespace Operation

/-- An answer that comes, and is waited for to its end, is the outcome. -/
theorem callFreely_answered {c : Call} {w : World σ}
    (answered : (host.answer c w.session).wait ≠ none) (h : η) :
    ∃ w', callFreely c host h w =
      (match (host.answer c w.session).reply with
        | .ok r => .done r
        | .error e => .failed e, h, w') := by
  have outcome : (await (host.answer c w.session) ⟨none, []⟩ w).1 =
      (host.answer c w.session).result.1 :=
    (await_result _ rfl rfl).1
  have there : (host.answer c w.session).wait.isNone = false :=
    Option.isNone_eq_false_iff.2 (Option.isSome_iff_ne_none.2 answered)
  rw [callFreely, call_apply, outcome, Answer.result, there]
  cases (host.answer c w.session).reply <;> exact ⟨_, rfl⟩

/-- The operation comes to an end: it never waits forever, and never breaks off. -/
def Prompt (host : Host σ) (t : Operation σ η α) : Prop :=
  ∀ h w why, (t host h w).1 ≠ .stuck why

namespace Prompt

theorem pure (a : α) : Prompt host (pure a : Operation σ η α) := nofun

theorem fail (e : Error) : Prompt host (fail e : Operation σ η α) := nofun

theorem ofExcept (r : Except Error α) : Prompt host (ofExcept r : Operation σ η α) := by
  cases r with
  | ok a => exact pure a
  | error e => exact fail e

theorem get : Prompt host (get : Operation σ η η) := nofun

theorem modify (f : η → η) : Prompt host (modify f : Operation σ η Unit) := nofun

theorem signals : Prompt host (signals : Operation σ η Signals) := nofun

theorem fire (x : Signal) : Prompt host (fire x : Operation σ η Unit) := nofun

theorem bind {t : Operation σ η α} {f : α → Operation σ η β} (ht : Prompt host t)
    (hf : ∀ a, Prompt host (f a)) : Prompt host (t >>= f) := by
  intro h w why
  rcases run : t host h w with ⟨a | e | _, h₁, w₁⟩
  · rw [bind_of_done run]
    exact hf a h₁ w₁ why
  · rw [bind_of_failed run]
    nofun
  · exact absurd (congrArg Prod.fst run) (ht h w _)

theorem check (g : Guards) (closed : Error) :
    Prompt host (check g closed : Operation σ η Unit) :=
  bind signals fun _ => ofExcept _

theorem ite {c : Prop} [Decidable c] {s t : Operation σ η α} (hs : Prompt host s)
    (ht : Prompt host t) : Prompt host (if c then s else t) := by
  split
  · exact hs
  · exact ht

/-- An answer that is waited for to its end and comes. -/
theorem callFreely {c : Call} (answered : ∀ s, (host.answer c s).wait ≠ none) :
    Prompt host (callFreely c : Operation σ η c.Reply) := by
  intro h w why
  obtain ⟨w', made⟩ := callFreely_answered (answered w.session) h
  rw [made]
  cases (host.answer c w.session).reply <;> nofun

/-- An attempt that comes to an end is done. -/
theorem attempt {t : Operation σ η α} (ht : Prompt host t) (h : η) (w : World σ) :
    ∃ r h' w', t.attempt host h w = (.done r, h', w') := by
  rcases run : t host h w with ⟨a | e | _, h₁, w₁⟩
  · exact ⟨_, _, _, attempt_of_done run⟩
  · exact ⟨_, _, _, attempt_of_failed run⟩
  · exact absurd (congrArg Prod.fst run) (ht h w _)

/-- So is an operation on another handle. -/
theorem on {t : Operation σ θ α} (ht : Prompt host t) (k : θ) (h : η) (w : World σ) :
    ∃ r w', (on k t : Operation σ η _) host h w = (.done r, h, w') := by
  rcases run : t host k w with ⟨a | e | _, k₁, w₁⟩
  · exact ⟨_, _, on_of_done run⟩
  · exact ⟨_, _, on_of_failed run⟩
  · exact absurd (congrArg Prod.fst run) (ht k w _)

end Prompt

end Operation

end SqlBinder

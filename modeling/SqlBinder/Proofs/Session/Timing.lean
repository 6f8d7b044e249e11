import SqlBinder.Proofs.Connection.Calls

/-!
The time for calls. A host notes how long each of its answers takes. An operation heeds a limit
if an answer to a bounded round trip that comes too late is the last one it needs: from there on
it only gives things back, and it fails with the limit, unless what it gives back is never
answered. Main statement: what heeds a limit does so under every way of putting operations
together, as long as a failure is only caught to give things back and to fail with it again.
-/
namespace SqlBinder

open Operation

variable {σ η θ α β : Type}

/-- A call, and the time that its answer takes; none if it never comes. -/
abbrev Asked := Call × Option Span

/-- The host, noting what it is asked and how long the answer takes. -/
def Host.timed (host : Host σ) : Host (σ × List Asked) where
  answer c s :=
    let a := host.answer c s.1
    let asked := s.2 ++ [(c, a.wait)]
    ⟨(a.begun, asked), a.wait, a.during, a.after, (a.finished, asked), a.reply⟩
  patience := host.patience

/-- The round trips that an execution makes within the time for calls. -/
def Call.Bounded : Call → Prop
  | .createLob _ | .execute _ | .fetch _ _ => True
  | _ => False

/-- The answer takes longer than the limit. -/
def Late (limit : Span) : Option Span → Prop
  | none => True
  | some span => limit.micros < span.micros

/-- No answer to a bounded round trip took longer than the limit. -/
def Punctual (limit : Span) (asked : List Asked) : Prop :=
  ∀ p ∈ asked, p.1.Bounded → ¬Late limit p.2

/-- Nothing was asked but to take things back. The operation is done, or it failed where it may,
or it waits for one of the answers forever. -/
def Tidied (fails : Prop) (out : Outcome α) (asked : List Asked) : Prop :=
  (∀ p ∈ asked, p.1.Closes) ∧
    match out with
    | .done _ => True
    | .failed _ => fails
    | .stuck why => why = .waiting ∧ ∃ p ∈ asked, p.2 = none

/-- Nothing was asked but to take things back. The operation failed with the error, or it waits
for one of the answers forever. -/
def Quit (e : Error) (out : Outcome α) (asked : List Asked) : Prop :=
  (∀ p ∈ asked, p.1.Closes) ∧
    match out with
    | .done _ => False
    | .failed e' => e' = e
    | .stuck why => why = .waiting ∧ ∃ p ∈ asked, p.2 = none

/-- An answer to a bounded round trip took longer than the limit. Behind it nothing was asked
but to take things back, and the limit is what the operation failed with. -/
def GivenUp (limit : Span) (out : Outcome α) (asked : List Asked) : Prop :=
  ∃ before p after, asked = before ++ p :: after ∧ p.1.Bounded ∧ Late limit p.2 ∧
    Quit (.callTimeout limit) out after

/-- Every bounded round trip met the limit, or the operation was given up at the first that did
not. -/
def Heeded (limit : Span) (out : Outcome α) (asked : List Asked) : Prop :=
  Punctual limit asked ∨ GivenUp limit out asked

section Notes

variable {limit : Span} {e : Error} {fails : Prop} {out : Outcome α} {asked asked' : List Asked}

theorem closes_append (h : ∀ p ∈ asked, p.1.Closes) (h' : ∀ p ∈ asked', p.1.Closes) :
    ∀ p ∈ asked ++ asked', p.1.Closes := fun p hp =>
  (List.mem_append.1 hp).elim (h p) (h' p)

theorem Call.Closes.not_bounded {c : Call} (h : c.Closes) : ¬c.Bounded := by
  cases c <;> first | exact h.elim | exact id

theorem Punctual.nil : Punctual limit [] := by simp [Punctual]

theorem Punctual.append (h : Punctual limit asked) (h' : Punctual limit asked') :
    Punctual limit (asked ++ asked') := fun p hp =>
  (List.mem_append.1 hp).elim (h p) (h' p)

theorem punctual_of_closes (h : ∀ p ∈ asked, p.1.Closes) : Punctual limit asked :=
  fun p hp bounded => absurd bounded (h p hp).not_bounded

/-- Something is given back first. -/
theorem Quit.behind (h : Quit e out asked') (closes : ∀ p ∈ asked, p.1.Closes) :
    Quit e out (asked ++ asked') := by
  refine ⟨closes_append closes h.1, ?_⟩
  have ended := h.2
  cases out with
  | done a => exact ended
  | failed e' => exact ended
  | stuck why =>
    obtain ⟨waiting, p, hp, never⟩ := ended
    exact ⟨waiting, p, List.mem_append_right _ hp, never⟩

theorem GivenUp.behind (h : GivenUp limit out asked') (asked : List Asked) :
    GivenUp limit out (asked ++ asked') := by
  obtain ⟨before, p, after, rfl, given⟩ := h
  exact ⟨asked ++ before, p, after, (List.append_assoc ..).symm, given⟩

/-- What is given up is not done. -/
theorem Heeded.punctual {a : α} (h : Heeded limit (.done a) asked) : Punctual limit asked := by
  obtain punctual | ⟨_, _, _, _, _, _, quit⟩ := h
  · exact punctual
  · exact quit.2.elim

theorem Heeded.behind (h : Heeded limit out asked') (punctual : Punctual limit asked) :
    Heeded limit out (asked ++ asked') :=
  h.imp punctual.append fun given => given.behind asked

/-- A failure behind which things are given back and the operation fails in the same way. -/
theorem Heeded.quit {out' : Outcome β} (h : Heeded limit (.failed e : Outcome α) asked)
    (quit : Quit e out' asked') : Heeded limit out' (asked ++ asked') := by
  obtain punctual | ⟨before, p, after, rfl, bounded, late, closes, same⟩ := h
  · exact .inl (punctual.append (punctual_of_closes quit.1))
  · obtain rfl : e = .callTimeout limit := same
    refine .inr ⟨before, p, after ++ asked', by simp, bounded, late, quit.behind closes⟩

end Notes

namespace Operation

/-- Behind the operation stand the notes of before and those of its own, of which, with the
outcome, `Q` holds. -/
def Asks (Q : Outcome α → List Asked → Prop) (t : Operation (σ × List Asked) η α) : Prop :=
  ∀ (host : Host σ) h w, ∃ asked,
    (t host.timed h w).2.2.session.2 = w.session.2 ++ asked ∧ Q (t host.timed h w).1 asked

/-- The operation gives things back and does nothing else. -/
def Tidies (fails : Prop) (t : Operation (σ × List Asked) η α) : Prop := Asks (Tidied fails) t

/-- The operation gives things back and fails with the error. -/
def Quits (e : Error) (t : Operation (σ × List Asked) η α) : Prop := Asks (Quit e) t

/-- The operation ends at the first answer to a bounded round trip that takes too long. -/
def Heeds (limit : Span) (t : Operation (σ × List Asked) η α) : Prop := Asks (Heeded limit) t

variable {limit : Span} {e : Error} {fails : Prop}

namespace Asks

variable {Q : Outcome α → List Asked → Prop}

/-- An operation that asks nothing. -/
theorem of_silent {t : Operation (σ × List Asked) η α}
    (ht : ∀ host h w, (t host h w).2.2.session = w.session ∧ Q (t host h w).1 []) : Asks Q t :=
  fun host h w => ⟨[], by rw [(ht host.timed h w).1, List.append_nil], (ht host.timed h w).2⟩

theorem get_bind {f : η → Operation (σ × List Asked) η α} (hf : ∀ h, Asks Q (f h)) :
    Asks Q (Operation.get >>= f) :=
  fun host h w => hf h host h w

theorem ite {c : Prop} [Decidable c] {s t : Operation (σ × List Asked) η α} (hs : Asks Q s)
    (ht : Asks Q t) : Asks Q (if c then s else t) := by
  split
  · exact hs
  · exact ht

theorem mono {Q' : Outcome α → List Asked → Prop} {t : Operation (σ × List Asked) η α}
    (ht : Asks Q t) (hQ : ∀ out asked, Q out asked → Q' out asked) : Asks Q' t := by
  intro host h w
  obtain ⟨asked, noted, hq⟩ := ht host h w
  exact ⟨asked, noted, hQ _ _ hq⟩

/-- What is asked in two parts, and how an end of the first part is an end of both. -/
theorem bind {R S : Outcome β → List Asked → Prop} {t : Operation (σ × List Asked) η α}
    {f : α → Operation (σ × List Asked) η β} (ht : Asks Q t) (hf : ∀ a, Asks R (f a))
    (done : ∀ a asked out asked', Q (.done a) asked → R out asked' → S out (asked ++ asked'))
    (failed : ∀ e asked, Q (.failed e) asked → S (.failed e) asked)
    (stuck : ∀ why asked, Q (.stuck why) asked → S (.stuck why) asked) : Asks S (t >>= f) := by
  intro host h w
  obtain ⟨asked, noted, hq⟩ := ht host h w
  rcases run : t host.timed h w with ⟨a | e | _, h₁, w₁⟩ <;> rw [run] at noted hq
  · obtain ⟨asked', noted', hr⟩ := hf a host h₁ w₁
    rw [bind_of_done run]
    exact ⟨asked ++ asked', by rw [noted', noted, List.append_assoc], done _ _ _ _ hq hr⟩
  · rw [bind_of_failed run]
    exact ⟨asked, noted, failed e asked hq⟩
  · rw [bind_of_stuck run]
    exact ⟨asked, noted, stuck _ asked hq⟩

/-- A call is noted with the time that its answer takes. -/
theorem call {c : Call} {watch : Watch} {Q : Outcome c.Reply → List Asked → Prop}
    (hQ : ∀ (host : Host σ) (w : World (σ × List Asked)),
      Q (await (host.timed.answer c w.session) watch w).1
        [(c, (host.timed.answer c w.session).wait)]) :
    Asks Q (call c watch : Operation (σ × List Asked) η c.Reply) := by
  intro host h w
  refine ⟨[(c, (host.timed.answer c w.session).wait)], ?_, hQ host w⟩
  have noted : (await (host.timed.answer c w.session) watch w).2.session.2 =
      w.session.2 ++ [(c, (host.timed.answer c w.session).wait)] := by
    rcases await_cases (host.timed.answer c w.session) watch w with ended | ended <;>
      rw [ended] <;> rfl
  rwa [call_apply]

end Asks

/-! ## Giving things back -/

namespace Tidies

theorem of_silent {t : Operation (σ × List Asked) η α}
    (ht : ∀ host h w, (t host h w).2.2.session = w.session ∧ ∃ a, (t host h w).1 = .done a) :
    Tidies fails t :=
  Asks.of_silent fun host h w => by
    obtain ⟨same, a, done⟩ := ht host h w
    rw [done]
    exact ⟨same, by simp, trivial⟩

theorem pure (a : α) : Tidies fails (pure a : Operation (σ × List Asked) η α) :=
  of_silent fun _ _ _ => ⟨rfl, _, rfl⟩

theorem modify (f : η → η) : Tidies fails (modify f : Operation (σ × List Asked) η Unit) :=
  of_silent fun _ _ _ => ⟨rfl, _, rfl⟩

theorem signals : Tidies fails (signals : Operation (σ × List Asked) η Signals) :=
  of_silent fun _ _ _ => ⟨rfl, _, rfl⟩

theorem fire (x : Signal) : Tidies fails (fire x : Operation (σ × List Asked) η Unit) :=
  of_silent fun _ _ _ => ⟨rfl, _, rfl⟩

theorem fail (e : Error) (may : fails) :
    Tidies fails (fail e : Operation (σ × List Asked) η α) :=
  Asks.of_silent fun _ _ _ => ⟨rfl, by simp, may⟩

theorem ofExcept (r : Except Error α) (may : fails) :
    Tidies fails (ofExcept r : Operation (σ × List Asked) η α) := by
  cases r with
  | ok a => exact pure a
  | error e => exact fail e may

theorem bind {t : Operation (σ × List Asked) η α} {f : α → Operation (σ × List Asked) η β}
    (ht : Tidies fails t) (hf : ∀ a, Tidies fails (f a)) : Tidies fails (t >>= f) := by
  refine Asks.bind ht hf (fun a asked out asked' hq hr => ?_) (fun _ _ hq => hq) fun _ _ hq => hq
  refine ⟨closes_append hq.1 hr.1, ?_⟩
  have ended := hr.2
  cases out with
  | done b => trivial
  | failed e => exact ended
  | stuck why =>
    obtain ⟨waiting, p, hp, never⟩ := ended
    exact ⟨waiting, p, List.mem_append_right _ hp, never⟩

theorem callFreely {c : Call} (closes : c.Closes) (may : fails) :
    Tidies fails (callFreely c : Operation (σ × List Asked) η c.Reply) := by
  refine Asks.call fun host w => ⟨by simpa using closes, ?_⟩
  -- Without a limit and without signals only an answer that never comes is waited for.
  have unmissed : (⟨none, []⟩ : Watch).missed? (host.timed.answer c w.session).wait = none := rfl
  simp only [await, firstFired, unmissed]
  cases wait : (host.timed.answer c w.session).wait with
  | none => exact ⟨rfl, _, List.mem_singleton_self _, rfl⟩
  | some span =>
    cases (host.timed.answer c w.session).reply with
    | ok r => trivial
    | error e => exact may

theorem check (g : Guards) (closed : Error) (may : fails) :
    Tidies fails (check g closed : Operation (σ × List Asked) η Unit) :=
  bind signals fun _ => ofExcept _ may

/-- Whether it fails is the result of an operation on another handle. -/
theorem on {k : θ} {t : Operation (σ × List Asked) θ α} (ht : Tidies True t) :
    Tidies fails (on k t : Operation (σ × List Asked) η _) := by
  intro host h w
  obtain ⟨asked, noted, closes, ended⟩ := ht host k w
  rcases run : t host.timed k w with ⟨a | e | _, k₁, w₁⟩ <;> rw [run] at noted ended
  · rw [on_of_done run]
    exact ⟨asked, noted, closes, trivial⟩
  · rw [on_of_failed run]
    exact ⟨asked, noted, closes, trivial⟩
  · rw [on_of_stuck run]
    exact ⟨asked, noted, closes, ended⟩

theorem attempt {t : Operation (σ × List Asked) η α} (ht : Tidies True t) :
    Tidies fails t.attempt := by
  intro host h w
  obtain ⟨asked, noted, closes, ended⟩ := ht host h w
  rcases run : t host.timed h w with ⟨a | e | _, h₁, w₁⟩ <;> rw [run] at noted ended
  · rw [attempt_of_done run]
    exact ⟨asked, noted, closes, trivial⟩
  · rw [attempt_of_failed run]
    exact ⟨asked, noted, closes, trivial⟩
  · rw [attempt_of_stuck run]
    exact ⟨asked, noted, closes, ended⟩

/-- What is done behind an operation on another handle that never fails. -/
theorem on_bind {k : θ} {t : Operation (σ × List Asked) θ α}
    {f : Except Error α × θ → Operation (σ × List Asked) η β} (ht : Tidies False t)
    (hf : ∀ a k, Tidies fails (f (.ok a, k))) : Tidies fails (Operation.on k t >>= f) := by
  intro host h w
  obtain ⟨asked, noted, closes, ended⟩ := ht host k w
  rcases run : t host.timed k w with ⟨a | e | _, k₁, w₁⟩ <;> rw [run] at noted ended
  · obtain ⟨asked', noted', closes', ended'⟩ := hf a k₁ host h w₁
    rw [bind_of_done (on_of_done run)]
    refine ⟨asked ++ asked', by rw [noted', noted, List.append_assoc],
      closes_append closes closes', ?_⟩
    cases out : (f (.ok a, k₁) host.timed h w₁).1 with
    | done b => trivial
    | failed e => rwa [out] at ended'
    | stuck why =>
      rw [out] at ended'
      obtain ⟨waiting, p, hp, never⟩ := ended'
      exact ⟨waiting, p, List.mem_append_right _ hp, never⟩
  · exact ended.elim
  · rw [bind_of_stuck (on_of_stuck run)]
    exact ⟨asked, noted, closes, ended⟩

end Tidies

namespace Quits

theorem fail (e : Error) : Quits e (fail e : Operation (σ × List Asked) η α) :=
  Asks.of_silent fun _ _ _ => ⟨rfl, by simp, rfl⟩

theorem bind {t : Operation (σ × List Asked) η α} {f : α → Operation (σ × List Asked) η β}
    (ht : Tidies False t) (hf : ∀ a, Quits e (f a)) : Quits e (t >>= f) :=
  Asks.bind ht hf (fun _ _ _ _ hq hr => hr.behind hq.1) (fun _ _ hq => hq.2.elim) fun _ _ hq => hq

end Quits

/-! ## Heeding a limit -/

namespace Heeds

theorem of_silent {t : Operation (σ × List Asked) η α}
    (ht : ∀ host h w, (t host h w).2.2.session = w.session) : Heeds limit t :=
  Asks.of_silent fun host h w => ⟨ht host h w, .inl .nil⟩

theorem pure (a : α) : Heeds limit (pure a : Operation (σ × List Asked) η α) :=
  of_silent fun _ _ _ => rfl

theorem fail (e : Error) : Heeds limit (fail e : Operation (σ × List Asked) η α) :=
  of_silent fun _ _ _ => rfl

theorem halt (why : Halt) : Heeds limit (halt why : Operation (σ × List Asked) η α) :=
  of_silent fun _ _ _ => rfl

theorem ofExcept (r : Except Error α) :
    Heeds limit (ofExcept r : Operation (σ × List Asked) η α) := by
  cases r with
  | ok a => exact pure a
  | error e => exact fail e

theorem ofFallible (r : Except Fault α) :
    Heeds limit (ofFallible r : Operation (σ × List Asked) η α) := by
  rcases r with (e | _) | a
  · exact fail e
  · exact halt .brokenOff
  · exact pure a

theorem modify (f : η → η) : Heeds limit (modify f : Operation (σ × List Asked) η Unit) :=
  of_silent fun _ _ _ => rfl

theorem signals : Heeds limit (signals : Operation (σ × List Asked) η Signals) :=
  of_silent fun _ _ _ => rfl

theorem fresh : Heeds limit (fresh : Operation (σ × List Asked) η Signal) :=
  of_silent fun _ _ _ => rfl

theorem of_tidies {t : Operation (σ × List Asked) η α} (ht : Tidies True t) : Heeds limit t :=
  ht.mono fun _ _ tidied => .inl (punctual_of_closes tidied.1)

theorem bind {t : Operation (σ × List Asked) η α} {f : α → Operation (σ × List Asked) η β}
    (ht : Heeds limit t) (hf : ∀ a, Heeds limit (f a)) : Heeds limit (t >>= f) :=
  Asks.bind ht hf (fun _ _ _ _ hq hr => hr.behind hq.punctual) (fun _ _ hq => hq)
    fun _ _ hq => hq

theorem get_bind {f : η → Operation (σ × List Asked) η α} (hf : ∀ h, Heeds limit (f h)) :
    Heeds limit (Operation.get >>= f) :=
  Asks.get_bind hf

theorem ite {c : Prop} [Decidable c] {s t : Operation (σ × List Asked) η α}
    (hs : Heeds limit s) (ht : Heeds limit t) : Heeds limit (if c then s else t) :=
  Asks.ite hs ht

/-- A failure is caught only to give things back and to fail with it again. -/
theorem attempt_bind {t : Operation (σ × List Asked) η α}
    {f : Except Error α → Operation (σ × List Asked) η β} (ht : Heeds limit t)
    (ok : ∀ a, Heeds limit (f (.ok a))) (error : ∀ e, Quits e (f (.error e))) :
    Heeds limit (t.attempt >>= f) := by
  intro host h w
  obtain ⟨asked, noted, heeded⟩ := ht host h w
  rcases run : t host.timed h w with ⟨a | e | _, h₁, w₁⟩ <;> rw [run] at noted heeded
  · obtain ⟨asked', noted', heeded'⟩ := ok a host h₁ w₁
    rw [bind_of_done (attempt_of_done run)]
    exact ⟨asked ++ asked', by rw [noted', noted, List.append_assoc],
      heeded'.behind heeded.punctual⟩
  · obtain ⟨asked', noted', quit⟩ := error e host h₁ w₁
    rw [bind_of_done (attempt_of_failed run)]
    exact ⟨asked ++ asked', by rw [noted', noted, List.append_assoc], heeded.quit quit⟩
  · rw [bind_of_stuck (attempt_of_stuck run)]
    exact ⟨asked, noted, heeded⟩

/-- So is the failure of an operation on another handle. -/
theorem on_bind {k : θ} {t : Operation (σ × List Asked) θ α}
    {f : Except Error α × θ → Operation (σ × List Asked) η β} (ht : Heeds limit t)
    (ok : ∀ a k, Heeds limit (f (.ok a, k))) (error : ∀ e k, Quits e (f (.error e, k))) :
    Heeds limit (Operation.on k t >>= f) := by
  intro host h w
  obtain ⟨asked, noted, heeded⟩ := ht host k w
  rcases run : t host.timed k w with ⟨a | e | _, k₁, w₁⟩ <;> rw [run] at noted heeded
  · obtain ⟨asked', noted', heeded'⟩ := ok a k₁ host h w₁
    rw [bind_of_done (on_of_done run)]
    exact ⟨asked ++ asked', by rw [noted', noted, List.append_assoc],
      heeded'.behind heeded.punctual⟩
  · obtain ⟨asked', noted', quit⟩ := error e k₁ host h w₁
    rw [bind_of_done (on_of_failed run)]
    exact ⟨asked ++ asked', by rw [noted', noted, List.append_assoc], heeded.quit quit⟩
  · rw [bind_of_stuck (on_of_stuck run)]
    exact ⟨asked, noted, heeded⟩

theorem iterate {step : β → Operation (σ × List Asked) η (β ⊕ α)}
    (hs : ∀ b, Heeds limit (step b)) (rounds : Nat) (b : β) :
    Heeds limit (iterate step rounds b) := by
  induction rounds generalizing b with
  | zero => exact halt .waiting
  | succ rounds ih =>
    apply bind (hs b)
    intro next
    cases next with
    | inl b => exact ih b
    | inr a => exact pure a

theorem loop {step : β → Operation (σ × List Asked) η (β ⊕ α)} (hs : ∀ b, Heeds limit (step b))
    (b : β) : Heeds limit (loop step b) :=
  fun host h w => iterate hs host.timed.patience b host h w

/-- A round trip without a limit may take as long as it takes. -/
theorem call {c : Call} (unbounded : ¬c.Bounded) (watch : Watch) :
    Heeds limit (call c watch : Operation (σ × List Asked) η c.Reply) :=
  Asks.call fun _ _ => .inl (by simpa [Punctual] using fun bounded => absurd bounded unbounded)

/-- A round trip that nothing but the limit ends early. -/
theorem call_within (c : Call) :
    Heeds limit (Operation.call c ⟨some limit, []⟩ : Operation (σ × List Asked) η c.Reply) := by
  refine Asks.call fun host w => ?_
  by_cases late : c.Bounded ∧ Late limit (host.timed.answer c w.session).wait
  case neg => exact .inl (by simpa [Punctual] using fun bounded late' => late ⟨bounded, late'⟩)
  case pos =>
    have misses : (⟨some limit, []⟩ : Watch).Misses limit (host.timed.answer c w.session).wait := by
      have late := late.2
      cases wait : (host.timed.answer c w.session).wait with
      | none => rfl
      | some span =>
        rw [wait] at late
        exact ⟨rfl, late⟩
    have missed : (⟨some limit, []⟩ : Watch).missed? (host.timed.answer c w.session).wait =
        some limit := by
      simp [Watch.missed?, misses]
    refine .inr ⟨[], _, [], rfl, late.1, late.2, by simp, ?_⟩
    simp only [await, firstFired, missed]

theorem callFreely {c : Call} (unbounded : ¬c.Bounded) :
    Heeds limit (callFreely c : Operation (σ × List Asked) η c.Reply) :=
  call unbounded _

theorem check (g : Guards) (closed : Error) :
    Heeds limit (check g closed : Operation (σ × List Asked) η Unit) :=
  bind signals fun _ => ofExcept _

theorem guarded {c : Call} (g : Guards) (closed : Error) (unbounded : ¬c.Bounded) :
    Heeds limit (guarded g closed c : Operation (σ × List Asked) η c.Reply) :=
  bind (check g closed) fun _ => call unbounded _

end Heeds

end Operation

end SqlBinder

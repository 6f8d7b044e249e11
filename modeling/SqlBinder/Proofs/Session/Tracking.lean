import SqlBinder.Proofs.Session.Alike
import SqlBinder.Proofs.Session.Turns

/-!
A view of the session that the exchanges decide. If what is recorded of a call tells what it did to
the view, then behind an operation the view stands where the exchanges of the operation lead.
`Tracks` also says which calls these are and what stays true of the handle.

Operations touch the session by calls alone, so single calls are all that has to be looked at for a
given view; the rules carry what they do to whole operations, in the order of the exchanges.
-/
namespace SqlBinder

open Operation

variable {σ η α β ν : Type} {host : Host σ} {view : σ → ν} {move : ν → Exchange → ν}
  {P : Call → Prop} {w w' w'' : World σ}

/-- The wait fails early and the answer is lost, or it comes to the result. -/
theorem await_ends {ρ : Type} (a : Answer σ ρ) (watch : Watch) (w : World σ) :
    (∃ e, (await a watch w).1 = .failed e ∧ (await a watch w).2.session = a.begun) ∨
      ((await a watch w).1 = a.result.1 ∧ (await a watch w).2.session = a.result.2) := by
  simp only [await, Answer.result]
  cases firstFired (w.asking a).signals watch.stops with
  | some e => exact .inl ⟨e, rfl, rfl⟩
  | none =>
    cases watch.missed? a.wait with
    | some limit => exact .inl ⟨_, rfl, rfl⟩
    | none =>
      right
      dsimp only
      split
      · exact ⟨rfl, rfl⟩
      · cases a.reply <;> exact ⟨rfl, rfl⟩

/-- A guarded round trip that is done was waited for to its end. -/
theorem guarded_result {g : Guards} {closed : Error} {c : Call} {r : c.Reply} {h h' : η}
    (run : guarded g closed c host h w = (.done r, h', w')) :
    (host.answer c w.session).result.1 = .done r ∧
      w'.session = (host.answer c w.session).result.2 := by
  rw [guarded_apply] at run
  cases stopped : firstFired w.signals (g.stops closed) with
  | some e => simp [stopped] at run
  | none =>
    simp only [stopped, call_apply, Prod.mk.injEq] at run
    obtain ⟨outcome, -, rfl⟩ := run
    rcases await_ends (host.answer c w.session) ⟨none, g.stops closed⟩ w with
      ⟨e, lost, -⟩ | ⟨there, session⟩
    · cases lost.symm.trans outcome
    · exact ⟨there.symm.trans outcome, session⟩

/-- A round trip whose answer comes is not waited for forever. -/
theorem call_ne_stuck {c : Call} (answered : (host.answer c w.session).wait ≠ none) (watch : Watch)
    (h : η) (why : Halt) : (call c watch host h w).1 ≠ .stuck why := by
  have there : (host.answer c w.session).wait.isNone = false :=
    Option.isNone_eq_false_iff.2 (Option.isSome_iff_ne_none.2 answered)
  rw [call_apply]
  rcases await_ends (host.answer c w.session) watch w with ⟨e, lost, -⟩ | ⟨came, -⟩
  · rw [lost]
    exact fun same => by cases same
  · rw [came, Answer.result, there]
    cases (host.answer c w.session).reply <;> exact fun same => by cases same

theorem guarded_ne_stuck {c : Call} (answered : (host.answer c w.session).wait ≠ none) (g : Guards)
    (closed : Error) (h : η) (why : Halt) : (guarded g closed c host h w).1 ≠ .stuck why := by
  rw [guarded_apply]
  cases firstFired w.signals (g.stops closed) with
  | some e => exact fun same => by cases same
  | none => exact call_ne_stuck answered _ h why

/-- What is recorded of calls with `P` tells what they did to the view. -/
def Moves (host : Host σ) (view : σ → ν) (move : ν → Exchange → ν) (P : Call → Prop) : Prop :=
  ∀ c, P c → ∀ watch w, view (await (host.answer c w.session) watch w).2.session =
    move (view w.session) ⟨c, (await (host.answer c w.session) watch w).1⟩

/-- Exchanges that lead from one world to another. -/
structure Led (view : σ → ν) (move : ν → Exchange → ν) (w w' : World σ) (made : List Exchange) :
    Prop where
  exchanges : w'.exchanges = w.exchanges ++ made
  session : view w'.session = made.foldl move (view w.session)
  grown : w.signals.Grown w'.signals

namespace Led

variable {made made' : List Exchange}

theorem refl (w : World σ) : Led view move w w [] := ⟨by simp, rfl, .refl _⟩

theorem trans (h : Led view move w w' made) (h' : Led view move w' w'' made') :
    Led view move w w'' (made ++ made') where
  exchanges := by rw [h'.exchanges, h.exchanges, List.append_assoc]
  session := by rw [h'.session, h.session, List.foldl_append]
  grown := h.grown.trans h'.grown

theorem signals {s : Signals} (grown : w.signals.Grown s) :
    Led view move w { w with signals := s } [] :=
  ⟨by simp, rfl, grown⟩

/-- The exchanges are those that were added. -/
theorem made_eq (h : Led view move w w' made) (added : w'.exchanges = w.exchanges ++ made') :
    made = made' :=
  List.append_cancel_left (h.exchanges.symm.trans added)

theorem drop_eq (h : Led view move w w' made) : w'.exchanges.drop w.exchanges.length = made := by
  rw [h.exchanges, List.drop_left]

end Led

theorem Moves.mono {Q : Call → Prop} (moves : Moves host view move P) (hQP : ∀ c, Q c → P c) :
    Moves host view move Q :=
  fun c hc => moves c (hQP c hc)

theorem Moves.call (moves : Moves host view move P) {c : Call} (hc : P c) (watch : Watch) (h : η)
    (w : World σ) :
    ∃ out w', Operation.call c watch host h w = (out, h, w') ∧
      Led view move w w' [⟨c, out⟩] := by
  obtain ⟨out, w', made, grown, added⟩ := call_grows c watch host h w
  refine ⟨out, w', made, added, ?_, grown⟩
  rw [call_apply, Prod.mk.injEq, Prod.mk.injEq] at made
  obtain ⟨rfl, -, rfl⟩ := made
  exact moves c hc watch w

/-- A guarded round trip is refused without a call, or it is made. -/
theorem Moves.guarded (moves : Moves host view move P) {c : Call} (hc : P c) (g : Guards)
    (closed : Error) (h : η) (w : World σ) :
    (∃ e, firstFired w.signals (g.stops closed) = some e ∧
      Operation.guarded g closed c host h w = (.failed e, h, w)) ∨
    ∃ out w', Operation.guarded g closed c host h w = (out, h, w') ∧
      Led view move w w' [⟨c, out⟩] := by
  rw [guarded_apply]
  cases firstFired w.signals (g.stops closed) with
  | some e => exact .inl ⟨e, rfl, rfl⟩
  | none => exact .inr (moves.call hc _ h w)

namespace Operation

/-- From handles with `I` the operation makes only calls with `P`, and it keeps `I`; the view
stands where the exchanges lead. -/
def Tracks (host : Host σ) (view : σ → ν) (move : ν → Exchange → ν) (I : η → Prop)
    (P : Call → Prop) (t : Operation σ η α) : Prop :=
  ∀ h w, I h → I (t host h w).2.1 ∧
    ∃ made, Led view move w (t host h w).2.2 made ∧ ∀ x ∈ made, P x.call

namespace Tracks

variable {I : η → Prop}

/-- An operation that asks nothing of the session. -/
theorem of_silent {t : Operation σ η α}
    (ht : ∀ h w, I h → I (t host h w).2.1 ∧ Led view move w (t host h w).2.2 []) :
    Tracks host view move I P t :=
  fun h w hi => ⟨(ht h w hi).1, [], (ht h w hi).2, by simp⟩

theorem pure (a : α) : Tracks host view move I P (pure a : Operation σ η α) :=
  of_silent fun _ w hi => ⟨hi, .refl w⟩

theorem fail (e : Error) : Tracks host view move I P (fail e : Operation σ η α) :=
  of_silent fun _ w hi => ⟨hi, .refl w⟩

theorem halt (why : Halt) : Tracks host view move I P (halt why : Operation σ η α) :=
  of_silent fun _ w hi => ⟨hi, .refl w⟩

theorem ofExcept (r : Except Error α) :
    Tracks host view move I P (ofExcept r : Operation σ η α) := by
  cases r with
  | ok a => exact pure a
  | error e => exact fail e

theorem signals : Tracks host view move I P (signals : Operation σ η Signals) :=
  of_silent fun _ w hi => ⟨hi, .refl w⟩

theorem modify {f : η → η} (hf : ∀ h, I h → I (f h)) :
    Tracks host view move I P (modify f : Operation σ η Unit) :=
  of_silent fun h w hi => ⟨hf h hi, .refl w⟩

theorem fire (x : Signal) : Tracks host view move I P (fire x : Operation σ η Unit) :=
  of_silent fun _ w hi => ⟨hi, .signals (.fire w.signals x)⟩

theorem bind {t : Operation σ η α} {f : α → Operation σ η β} (ht : Tracks host view move I P t)
    (hf : ∀ a, Tracks host view move I P (f a)) : Tracks host view move I P (t >>= f) := by
  intro h w hi
  obtain ⟨hi₁, made₁, led₁, hP₁⟩ := ht h w hi
  rcases run : t host h w with ⟨a | e | _, h₁, w₁⟩ <;> rw [run] at hi₁ led₁
  · obtain ⟨hi₂, made₂, led₂, hP₂⟩ := hf a h₁ w₁ hi₁
    rw [bind_of_done run]
    exact ⟨hi₂, made₁ ++ made₂, led₁.trans led₂, fun x hx =>
      (List.mem_append.1 hx).elim (hP₁ x) (hP₂ x)⟩
  · rw [bind_of_failed run]
    exact ⟨hi₁, made₁, led₁, hP₁⟩
  · rw [bind_of_stuck run]
    exact ⟨hi₁, made₁, led₁, hP₁⟩

/-- Behind a look at the handle, what is known of it can be used. -/
theorem get_bind {f : η → Operation σ η β} (hf : ∀ h, I h → Tracks host view move I P (f h)) :
    Tracks host view move I P (Operation.get >>= f) :=
  fun h w hi => hf h hi h w hi

theorem attempt {t : Operation σ η α} (ht : Tracks host view move I P t) :
    Tracks host view move I P t.attempt := by
  intro h w hi
  have led := ht h w hi
  rcases run : t host h w with ⟨_ | _ | _, h₁, w₁⟩ <;> rw [run] at led
  · rwa [attempt_of_done run]
  · rwa [attempt_of_failed run]
  · rwa [attempt_of_stuck run]

theorem ite {c : Prop} [Decidable c] {s t : Operation σ η α} (hs : Tracks host view move I P s)
    (ht : Tracks host view move I P t) : Tracks host view move I P (if c then s else t) := by
  split
  · exact hs
  · exact ht

theorem iterate {step : β → Operation σ η (β ⊕ α)} (hs : ∀ b, Tracks host view move I P (step b))
    (rounds : Nat) (b : β) : Tracks host view move I P (iterate step rounds b) := by
  induction rounds generalizing b with
  | zero => exact halt .waiting
  | succ rounds ih =>
    apply bind (hs b)
    intro next
    cases next with
    | inl b => exact ih b
    | inr a => exact pure a

theorem loop {step : β → Operation σ η (β ⊕ α)} (hs : ∀ b, Tracks host view move I P (step b))
    (b : β) : Tracks host view move I P (loop step b) :=
  fun h w hi => iterate hs host.patience b h w hi

theorem check (g : Guards) (closed : Error) :
    Tracks host view move I P (check g closed : Operation σ η Unit) :=
  bind signals fun _ => ofExcept _

theorem call (moves : Moves host view move P) {c : Call} (hc : P c) (watch : Watch) :
    Tracks host view move I P (call c watch : Operation σ η c.Reply) := by
  intro h w hi
  obtain ⟨out, w', made, led⟩ := moves.call hc watch h w
  rw [made]
  exact ⟨hi, _, led, by simpa using hc⟩

theorem guarded (moves : Moves host view move P) {c : Call} (g : Guards) (closed : Error)
    (hc : P c) : Tracks host view move I P (guarded g closed c : Operation σ η c.Reply) :=
  bind (check g closed) fun _ => call moves hc _

end Tracks

end Operation

end SqlBinder

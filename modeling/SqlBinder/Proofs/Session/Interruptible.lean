import SqlBinder.Proofs.Session.Interruption

/-!
Rules for operations that are cancelled. An operation that is put together from others goes on
behind the cancellation as far as they do, and looks at its signals where they do.

Where an operation looks is told by the world that it began in and the calls it has made since, not
by a place in its text. To put two operations together, the looks of the whole have to be split: the
calls made so far are a front of the first one's, or all of the first one's with a front of the
second one's behind them. They do not tell which of the two it is. Only the run that nothing
disturbs tells how many calls the first operation makes, and with which result and from which handle
the second begins. Therefore `Joins` is about such a run, and about fronts of its calls alone: a
cancellation cannot fall anywhere else. Where the two meet, either of them may look. If the first
operation does not come to its end the second is never begun, and the looks are those of the first.
-/
namespace SqlBinder

open Operation

variable {σ η α β : Type}

namespace Interruption

variable {i : Interruption σ} {I : η → Prop}
  {looks looks' : World (σ × Nat) → List Exchange → Prop} {h : η} {w w' : World (σ × Nat)}

/-! ## One operation behind the other -/

section Bind

variable {t : Operation (σ × Nat) η α} {f : α → Operation (σ × Nat) η β}
  {before : World (σ × Nat) → List Exchange → Prop}
  {behind : α → η → World (σ × Nat) → List Exchange → Prop}

theorem LooksAt.le {new : List Exchange} {m : Nat} (here : LooksAt looks w new m) :
    m ≤ new.length := by
  rcases here with ⟨x, there, -⟩ | ⟨le, -⟩
  · exact Nat.le_of_lt (List.getElem?_eq_some_iff.1 there).1
  · exact le

/-- Two operations one behind the other look where one of them does. In a run of which the first
part is done with the calls `made`, the whole looks behind a front `c` of all its calls if `c` is
within `made` and the first operation looks there, or if `c` goes on behind `made` and the second
looks there, begun with the result and in the world that the first has left. In a run of which the
first part is not done, it looks where the first one does. -/
structure Joins (t : Operation (σ × Nat) η α) (f : α → Operation (σ × Nat) η β) (h : η)
    (before : World (σ × Nat) → List Exchange → Prop)
    (behind : α → η → World (σ × Nat) → List Exchange → Prop)
    (looks : World (σ × Nat) → List Exchange → Prop) (i : Interruption σ) : Prop where
  done : ∀ {w a h₁ w₁ made made'}, Undisturbed i.calm i.guards w →
    t i.calm h w = (.done a, h₁, w₁) → w₁.exchanges = w.exchanges ++ made →
    (f a i.calm h₁ w₁).2.2.exchanges = w₁.exchanges ++ made' → ∀ c, c <+: made ++ made' →
    (looks w c ↔ (c <+: made ∧ before w c) ∨ ∃ c', c = made ++ c' ∧ behind a h₁ w₁ c')
  ended : ∀ {w made}, Undisturbed i.calm i.guards w → (∀ a, (t i.calm h w).1 ≠ .done a) →
    (t i.calm h w).2.2.exchanges = w.exchanges ++ made → ∀ c, c <+: made →
    (looks w c ↔ before w c)

theorem looksAt_append {w₁ : World (σ × Nat)} {looks₁ looks₂ : World (σ × Nat) →
      List Exchange → Prop} {made made' : List Exchange}
    (joined : ∀ c, c <+: made ++ made' →
      (looks w c ↔ (c <+: made ∧ looks₁ w c) ∨ ∃ c', c = made ++ c' ∧ looks₂ w₁ c')) (m : Nat) :
    LooksAt looks w (made ++ made') m ↔
      LooksAt looks₁ w made m ∨
        made.length ≤ m ∧ LooksAt looks₂ w₁ made' (m - made.length) := by
  have calls : (∃ x, (made ++ made')[m]? = some x ∧ ¬ x.call.Closes) ↔
      (∃ x, made[m]? = some x ∧ ¬ x.call.Closes) ∨
        made.length ≤ m ∧ ∃ x, made'[m - made.length]? = some x ∧ ¬ x.call.Closes := by
    by_cases lt : m < made.length
    · rw [List.getElem?_append_left lt]
      simp [Nat.not_le.2 lt]
    · have ge := Nat.not_lt.1 lt
      rw [List.getElem?_append_right ge, List.getElem?_eq_none ge]
      simp [ge]
  have looked : (m ≤ (made ++ made').length ∧ looks w ((made ++ made').take m)) ↔
      (m ≤ made.length ∧ looks₁ w (made.take m)) ∨ made.length ≤ m ∧
        m - made.length ≤ made'.length ∧ looks₂ w₁ (made'.take (m - made.length)) := by
    rw [joined _ (List.take_prefix _ _), List.length_append]
    constructor
    · rintro ⟨le, ⟨first, here⟩ | ⟨c', same, here⟩⟩
      · have short := first.length_le
        rw [List.length_take, List.length_append, Nat.min_eq_left le] at short
        rw [List.take_append_of_le_length short] at here
        exact .inl ⟨short, here⟩
      · have long := congrArg List.length same
        rw [List.length_take, List.length_append, Nat.min_eq_left le, List.length_append] at long
        rw [List.take_append, List.take_of_length_le (by omega), List.append_cancel_left_eq] at same
        exact .inr ⟨by omega, by omega, same ▸ here⟩
    · rintro (⟨short, here⟩ | ⟨long, le, here⟩)
      · refine ⟨by omega, .inl ?_⟩
        rw [List.take_append_of_le_length short]
        exact ⟨List.take_prefix _ _, here⟩
      · refine ⟨by omega, .inr ⟨_, ?_, here⟩⟩
        rw [List.take_append, List.take_of_length_le long]
  simp only [LooksAt, calls, looked]
  grind

theorem Stopped.append {w₁ : World (σ × Nat)} {made made' : List Exchange}
    (added : w₁.exchanges = w.exchanges ++ made) (stopped : i.Stopped I w₁ made' h w') :
    i.Stopped I w (made ++ made') h w' :=
  ⟨stopped.kept, by rw [stopped.added, added, List.append_assoc], stopped.connection⟩

/-- What does not come to its end passes on how it ended. -/
theorem bind_of_ended {out : Outcome α} (ended : ∀ a, out ≠ .done a)
    (f : α → Operation (σ × Nat) η β) :
    ∃ out' : Outcome β, (∀ b, out' ≠ .done b) ∧
      ((∀ why, out' ≠ .stuck why) → ∀ why, out ≠ .stuck why) ∧
      ∀ {t : Operation (σ × Nat) η α} {host h w h₁ w₁}, t host h w = (out, h₁, w₁) →
        (t >>= f) host h w = (out', h₁, w₁) := by
  cases out with
  | done a => exact absurd rfl (ended a)
  | failed e => exact ⟨.failed e, nofun, fun _ => nofun, fun run => bind_of_failed run f⟩
  | stuck why =>
    exact ⟨.stuck why, nofun, fun ne => absurd rfl (ne why), fun run => bind_of_stuck run f⟩

section Done

variable {a : α} {h₁ : η} {w₁ : World (σ × Nat)} {made made' : List Exchange}
  (run : t i.calm h w = (.done a, h₁, w₁)) (calm₁ : i.Calm I w (t i.calm h w) made)

include run calm₁

theorem Calm.bind (calm₂ : i.Calm I w₁ (f a i.calm h₁ w₁) made') :
    i.Calm I w ((t >>= f) i.calm h w) (made ++ made') := by
  have added := calm₁.added
  have counted := calm₁.counted
  rw [run] at added counted
  rw [bind_of_done run]
  exact ⟨by rw [calm₂.added, added, List.append_assoc],
    by rw [calm₂.counted, counted, List.length_append, Nat.add_assoc], calm₂.kept,
    calm₂.connection, calm₂.undisturbed⟩

theorem Cut.bind (le : w.session.2 ≤ i.place) (cut₁ : i.Cut I t h w made)
    (calm₂ : i.Calm I w₁ (f a i.calm h₁ w₁) made')
    (cut₂ : w₁.session.2 ≤ i.place → i.Cut I (f a) h₁ w₁ made') :
    i.Cut I (t >>= f) h w (made ++ made') := by
  have counted := calm₁.counted
  have added := calm₁.added
  have through : ∀ {host}, w₁.session.2 ≤ i.place → i.Early host →
      (t >>= f) host h w = f a host h₁ w₁ := fun still early =>
    bind_of_done ((cut₁.unreached (by rwa [run]) _ early).trans run) f
  rw [run] at counted added
  refine ⟨fun still host early => ?_, fun x there asks => ?_⟩
  · rw [bind_of_done run, calm₂.counted] at still
    rw [through (by omega) early, bind_of_done run]
    exact (cut₂ (by omega)).unreached (by rw [calm₂.counted]; exact still) host early
  · by_cases inside : i.place - w.session.2 < made.length
    · rw [List.getElem?_append_left inside] at there
      obtain ⟨h', w', stopped, count, runs⟩ := cut₁.reached x there asks
      rw [List.take_append_of_le_length (Nat.le_of_lt inside)]
      exact ⟨h', w', stopped, count, fun host early => bind_of_failed (runs host early) f⟩
    · have still : w₁.session.2 ≤ i.place := by
        simp only at counted
        omega
      have place : i.place - w.session.2 - made.length = i.place - w₁.session.2 := by
        simp only at counted
        omega
      rw [List.getElem?_append_right (Nat.not_lt.1 inside), place] at there
      obtain ⟨h', w', stopped, count, runs⟩ := (cut₂ still).reached x there asks
      rw [List.take_append, List.take_of_length_le (Nat.not_lt.1 inside), place,
        List.append_assoc]
      exact ⟨h', w', stopped.append added, count, fun host early => by
        rw [through still early, runs host early]⟩

theorem Yields.bind {host : Host (σ × Nat)} (calm : Undisturbed i.calm i.guards w)
    (calm₂ : i.Calm I w₁ (f a i.calm h₁ w₁) made')
    (joins : Joins t f h before behind looks i) (yields₁ : i.Yields host I before t h w w' made)
    (yields₂ : ∀ w₁', i.Beside w₁ w₁' → i.Yields host I (behind a h₁) (f a) h₁ w₁ w₁' made') :
    i.Yields host I looks (t >>= f) h w w' (made ++ made') := by
  have counted := calm₁.counted
  have added := calm₁.added
  rw [run] at counted added
  simp only at counted added
  have joined := looksAt_append (joins.done calm run added calm₂.added)
  have due : i.due w₁ = i.due w - made.length := by
    unfold Interruption.due
    omega
  rcases yields₁ with ⟨onward, deaf⟩ | ⟨m, h', w'', first, stopped, late⟩
  · rcases run' : t host h w' with ⟨out', h₁', w₁'⟩
    have onward' := onward
    rw [run, run'] at onward'
    obtain ⟨outcome, handle, -, -, beside⟩ := onward'
    obtain rfl : out' = .done a := outcome
    obtain rfl : h₁' = h₁ := handle
    rcases yields₂ w₁' (beside nofun) with ⟨onward₂, deaf₂⟩ | ⟨m, h', w'', first, stopped, late⟩
    · refine .inl ⟨by rwa [bind_of_done run, bind_of_done run'], fun m ge here => ?_⟩
      rcases (joined m).1 here with here | ⟨long, here⟩
      · exact deaf m ge here
      · exact deaf₂ _ (by omega) here
    · have short := first.here.le
      have ge := first.due
      refine .inr ⟨made.length + m, h', w'', ⟨by omega, ?_, fun m' ge' lt here => ?_⟩, ?_, ?_⟩
      · exact (joined _).2 (.inr ⟨by omega, by rw [Nat.add_sub_cancel_left]; exact first.here⟩)
      · rcases (joined m').1 here with here | ⟨long, here⟩
        · exact deaf m' ge' here
        · exact first.first _ (by omega) (by omega) here
      · rw [List.take_append, List.take_of_length_le (by omega), Nat.add_sub_cancel_left]
        exact stopped.append added
      · rw [bind_of_done run', late]
  · have short := first.here.le
    refine .inr ⟨m, h', w'', ⟨first.due, (joined m).2 (.inl first.here), fun m' ge lt here => ?_⟩,
      by rwa [List.take_append_of_le_length short], bind_of_failed late f⟩
    rcases (joined m').1 here with here | ⟨long, -⟩
    · exact first.first m' ge lt here
    · omega

end Done

theorem Interruptible.bind (behind : α → η → World (σ × Nat) → List Exchange → Prop)
    (ht : i.Interruptible I before t h)
    (hf : ∀ {w a h₁ w₁}, Undisturbed i.calm i.guards w → t i.calm h w = (.done a, h₁, w₁) →
      I h₁ → i.Interruptible I (behind a h₁) (f a) h₁)
    (joins : Joins t f h before behind looks i) : i.Interruptible I looks (t >>= f) h := by
  intro w calm
  obtain ⟨made, calm₁, cut₁, yields₁⟩ := ht w calm
  rcases run : t i.calm h w with ⟨out, h₁, w₁⟩
  by_cases done : ∃ a, out = .done a
  · obtain ⟨a, rfl⟩ := done
    have kept := calm₁.kept
    have open_ := calm₁.undisturbed
    rw [run] at kept open_
    obtain ⟨made', calm₂, cut₂, yields₂⟩ := hf calm run kept w₁ (open_ a rfl)
    exact ⟨made ++ made', calm₁.bind run calm₂,
      fun le => Cut.bind run calm₁ le (cut₁ le) calm₂ cut₂,
      fun host late w' beside => Yields.bind run calm₁ calm calm₂ joins
        (yields₁ host late w' beside) (yields₂ host late)⟩
  · -- What `t` comes to is what both come to.
    have ended : ∀ a, out ≠ .done a := fun a same => done ⟨a, same⟩
    obtain ⟨out', ended', unstuck, passes⟩ := bind_of_ended ended f
    have whole := passes run
    have joined : ∀ c, c <+: made → (looks w c ↔ before w c) :=
      joins.ended calm (by rwa [run]) calm₁.added
    have looksAt : ∀ m, LooksAt looks w made m ↔ LooksAt before w made m := fun m => by
      rw [LooksAt, LooksAt, joined _ (List.take_prefix _ _)]
    refine ⟨made, ?_, fun le => ⟨fun still host early => ?_, fun x there asks => ?_⟩,
      fun host lately w' beside => ?_⟩
    · rw [whole]
      rw [run] at calm₁
      exact ⟨calm₁.added, calm₁.counted, calm₁.kept, calm₁.connection,
        fun b same => absurd same (ended' b)⟩
    · rw [whole] at still ⊢
      exact passes (((cut₁ le).unreached (by rwa [run]) host early).trans run)
    · obtain ⟨h', w', stopped, count, runs⟩ := (cut₁ le).reached x there asks
      exact ⟨h', w', stopped, count, fun host early => bind_of_failed (runs host early) f⟩
    · rcases yields₁ host lately w' beside with ⟨onward, deaf⟩ | ⟨m, h', w'', first, stopped, late⟩
      · refine .inl ⟨?_, fun m ge here => deaf m ge ((looksAt m).1 here)⟩
        rcases run' : t host h w' with ⟨out₁, h₁', w₁'⟩
        rw [run, run'] at onward
        obtain ⟨outcome, handle, session, exchanges, beside'⟩ := onward
        obtain rfl : out₁ = out := outcome
        rw [whole, passes run']
        exact ⟨rfl, handle, session, exchanges, fun ne => beside' (unstuck ne)⟩
      · exact .inr ⟨m, h', w'', ⟨first.due, (looksAt m).2 first.here,
          fun m' ge lt here => first.first m' ge lt ((looksAt m').1 here)⟩, stopped,
          bind_of_failed late f⟩

theorem Interruptible.bind_deaf (ht : i.Deaf I t h) (hf : ∀ a h₁, I h₁ → i.Deaf I (f a) h₁) :
    i.Deaf I (t >>= f) h :=
  Interruptible.bind (fun _ _ _ _ => False) ht (fun _ _ => hf _ _)
    ⟨fun _ _ _ _ _ _ => by simp, fun _ _ _ _ _ => Iff.rfl⟩

end Bind

/-! ## Rules -/

section Rules

variable {t t' : Operation (σ × Nat) η α}

/-- Only the runs from the handle matter, on hosts with the patience of the session. -/
theorem Interruptible.congr {h' : η} (ht : i.Interruptible I looks t' h')
    (same : ∀ host w, host.patience = i.host.patience → t host h w = t' host h' w) :
    i.Interruptible I looks t h := by
  have calmly : ∀ w, t i.calm h w = t' i.calm h' w := fun w => same i.calm w rfl
  intro w calm
  obtain ⟨new, calm₁, cut₁, yields₁⟩ := ht w calm
  refine ⟨new, by rwa [calmly], fun le => ⟨fun still host early => ?_, fun x there asks => ?_⟩,
    fun host lately w' beside => ?_⟩
  · rw [calmly] at still ⊢
    rw [same host w early.patience]
    exact (cut₁ le).unreached still host early
  · obtain ⟨h', w', stopped, count, runs⟩ := (cut₁ le).reached x there asks
    exact ⟨h', w', stopped, count, fun host early => by
      rw [same host w early.patience, runs host early]⟩
  · have yields := yields₁ host lately w' beside
    unfold Yields at yields ⊢
    rwa [calmly, same host w' lately.patience]

/-- Other looks that are the same as far as the run goes. -/
theorem Interruptible.of_looks (ht : i.Interruptible I looks t h)
    (same : ∀ w c, Undisturbed i.calm i.guards w →
      (∃ more, (t i.calm h w).2.2.exchanges = w.exchanges ++ (c ++ more)) →
      (looks' w c ↔ looks w c)) : i.Interruptible I looks' t h := by
  intro w calm
  obtain ⟨new, calm₁, cut₁, yields₁⟩ := ht w calm
  have looksAt : ∀ m, LooksAt looks' w new m ↔ LooksAt looks w new m := fun m => by
    rw [LooksAt, LooksAt, same w _ calm ⟨new.drop m, by rw [List.take_append_drop, calm₁.added]⟩]
  refine ⟨new, calm₁, cut₁, fun host lately w' beside => ?_⟩
  rcases yields₁ host lately w' beside with ⟨onward, deaf⟩ | ⟨m, h', w'', first, stopped, late⟩
  · exact .inl ⟨onward, fun m ge here => deaf m ge ((looksAt m).1 here)⟩
  · exact .inr ⟨m, h', w'', ⟨first.due, (looksAt m).2 first.here,
      fun m' ge lt here => first.first m' ge lt ((looksAt m').1 here)⟩, stopped, late⟩

theorem Interruptible.pure (a : α) (kept : I h) : i.Deaf I (pure a) h :=
  .silent (fun _ _ => rfl) kept

theorem Interruptible.fail (e : Error) (kept : I h) :
    i.Deaf I (fail e : Operation (σ × Nat) η α) h :=
  .silent (fun _ _ => rfl) kept

theorem Interruptible.ofExcept (r : Except Error α) (kept : I h) :
    i.Deaf I (ofExcept r : Operation (σ × Nat) η α) h := by
  cases r with
  | ok a => exact .pure a kept
  | error e => exact .fail e kept

theorem Interruptible.halt (why : Halt) (kept : I h) :
    i.Deaf I (halt why : Operation (σ × Nat) η α) h :=
  .silent (fun _ _ => rfl) kept

theorem Interruptible.ofFallible (r : Except Fault α) (kept : I h) :
    i.Deaf I (ofFallible r : Operation (σ × Nat) η α) h := by
  rcases r with (e | _) | a
  · exact .fail e kept
  · exact .halt .brokenOff kept
  · exact .pure a kept

theorem Interruptible.modify {f : η → η} (kept : I (f h)) :
    i.Deaf I (modify f : Operation (σ × Nat) η Unit) h :=
  .silent (fun _ _ => rfl) kept

theorem Interruptible.get_bind {f : η → Operation (σ × Nat) η β}
    (hf : i.Interruptible I looks (f h) h) :
    i.Interruptible I looks (Operation.get >>= f) h :=
  hf.congr fun _ _ _ => rfl

theorem Interruptible.modify_bind {f : η → η} {g : Unit → Operation (σ × Nat) η β}
    (hg : i.Interruptible I looks (g ()) (f h)) :
    i.Interruptible I looks (Operation.modify f >>= g) h :=
  hg.congr fun _ _ _ => rfl

theorem Interruptible.ite {c : Prop} [Decidable c] {s t : Operation (σ × Nat) η α}
    (hs : i.Interruptible I looks s h) (ht : i.Interruptible I looks t h) :
    i.Interruptible I looks (if c then s else t) h := by
  split
  · exact hs
  · exact ht

/-- A look first. -/
theorem Interruptible.look_bind {t : Operation (σ × Nat) η α} {out : Outcome α}
    {f : α → Operation (σ × Nat) η β} (look : i.OnlyLooks t h out) (kept : I h)
    (hf : ∀ a, out = .done a → i.Interruptible I looks (f a) h) :
    i.Interruptible I (fun w c => c = [] ∨ looks w c) (t >>= f) h := by
  have still : ∀ {w}, Undisturbed i.calm i.guards w → t i.calm h w = (out, h, w) :=
    fun calm => look.undisturbed calm i.calm
  refine Interruptible.bind (fun _ _ => looks) (.of_look look kept)
    (fun {w a h₁ w₁} calm there _ => ?_) ⟨fun {w a h₁ w₁ made made'} calm there added _ c _ => ?_,
      fun {w made} calm ended added c first => ?_⟩
  · rw [still calm, Prod.mk.injEq, Prod.mk.injEq] at there
    obtain ⟨same, rfl, -⟩ := there
    exact hf a same
  · rw [still calm, Prod.mk.injEq, Prod.mk.injEq] at there
    obtain ⟨-, -, rfl⟩ := there
    have none : made = [] := by simpa using added
    subst none
    simp
  · have none : made = [] := by simpa [still calm] using added
    subst none
    simp [List.prefix_nil.1 first]

theorem Interruptible.iterate {step : β → Operation (σ × Nat) η (β ⊕ α)}
    (hs : ∀ b h, I h → i.Deaf I (step b) h) (rounds : Nat) (b : β) (kept : I h) :
    i.Deaf I (iterate step rounds b) h := by
  induction rounds generalizing b h with
  | zero => exact .silent (fun _ _ => rfl) kept
  | succ rounds ih =>
    refine .bind_deaf (hs b h kept) fun next h₁ kept₁ => ?_
    cases next with
    | inl b => exact ih b kept₁
    | inr a => exact .pure a kept₁

theorem Interruptible.loop {step : β → Operation (σ × Nat) η (β ⊕ α)}
    (hs : ∀ b h, I h → i.Deaf I (step b) h) (b : β) (kept : I h) : i.Deaf I (loop step b) h :=
  (Interruptible.iterate hs i.host.patience b kept).congr fun _ _ patient => by
    rw [Operation.loop, patient]

/-- An operation that makes no call, from where nothing is looked for. -/
theorem Interruptible.of_silent {out : Outcome α} {k : η}
    (run : ∀ host w, t host h w = (out, k, w)) (kept : I k) (unlooked : ∀ w, ¬ looks w []) :
    i.Interruptible I looks t h := by
  refine (Interruptible.silent run kept).of_looks fun w c _ first => ?_
  obtain ⟨more, same⟩ := first
  rw [run] at same
  obtain ⟨rfl, -⟩ : c = [] ∧ more = [] := by simpa using same
  simp [unlooked w]

/-- An operation on a part of the handle. -/
theorem Interruptible.lift {θ : Type} {K : θ → Prop} {k : θ} {u : Operation (σ × Nat) θ α}
    (put : Outcome α → η → θ) (ht : i.Interruptible I looks t h)
    (run : ∀ host w, u host k w =
      ((t host h w).1, put (t host h w).1 (t host h w).2.1, (t host h w).2.2))
    (kept : ∀ out h, I h → K (put out h)) : i.Interruptible K looks u k := by
  intro w calm
  obtain ⟨new, calm₁, cut₁, yields₁⟩ := ht w calm
  refine ⟨new, ?_, fun le => ⟨fun still host early => ?_, fun x there asks => ?_⟩,
    fun host lately w' beside => ?_⟩
  · rw [run]
    exact ⟨calm₁.added, calm₁.counted, kept _ _ calm₁.kept, calm₁.connection, calm₁.undisturbed⟩
  · rw [run] at still
    rw [run, run, (cut₁ le).unreached still host early]
  · obtain ⟨h', w', stopped, count, runs⟩ := (cut₁ le).reached x there asks
    exact ⟨put (.failed i.error) h', w', ⟨kept _ _ stopped.kept, stopped.added,
      stopped.connection⟩, count, fun host early => by rw [run, runs host early]⟩
  · rcases yields₁ host lately w' beside with ⟨onward, deaf⟩ | ⟨m, h', w'', first, stopped, late⟩
    · refine .inl ⟨?_, deaf⟩
      rw [run, run]
      exact ⟨onward.outcome, by rw [onward.outcome, onward.handle], onward.session,
        onward.exchanges, onward.beside⟩
    · exact .inr ⟨m, put (.failed i.error) h', w'', first, ⟨kept _ _ stopped.kept, stopped.added,
        stopped.connection⟩, by rw [run, late]⟩

end Rules

/-! ## Failures that close the handle -/

section Closing

variable {t : Operation (σ × Nat) η α} {c : Error → Operation (σ × Nat) η α}

/-- The operation with what is done behind its failure. -/
def closing (t : Operation σ η α) (c : Error → Operation σ η α) : Operation σ η α := do
  match ← t.attempt with
  | .ok a => pure a
  | .error e => c e

theorem closing_of_done {t : Operation σ η α} {c : Error → Operation σ η α} {host : Host σ}
    {h h₁ : η} {w w₁ : World σ} {a : α} (run : t host h w = (.done a, h₁, w₁)) :
    closing t c host h w = (.done a, h₁, w₁) :=
  bind_of_done (attempt_of_done run) _

theorem closing_of_failed {t : Operation σ η α} {c : Error → Operation σ η α} {host : Host σ}
    {h h₁ : η} {w w₁ : World σ} {e : Error} (run : t host h w = (.failed e, h₁, w₁)) :
    closing t c host h w = c e host h₁ w₁ :=
  bind_of_done (attempt_of_failed run) _

theorem closing_of_stuck {t : Operation σ η α} {c : Error → Operation σ η α} {host : Host σ}
    {h h₁ : η} {w w₁ : World σ} {why : Halt} (run : t host h w = (.stuck why, h₁, w₁)) :
    closing t c host h w = (.stuck why, h₁, w₁) :=
  bind_of_stuck (attempt_of_stuck run) _

theorem closing_congr {t t' : Operation σ η α} {c : Error → Operation σ η α} {host : Host σ}
    {h h' : η} {w w' : World σ} (same : t host h w = t' host h' w') :
    closing t c host h w = closing t' c host h' w' := by
  simp only [closing, bind_apply, attempt, same]

theorem isFired_fireAll_of_not_mem {x : Signal} {xs : List Signal} (other : x ∉ xs)
    (w : World (σ × Nat)) : (w.fireAll xs).signals.isFired x = w.signals.isFired x := by
  simp [World.fireAll, other]

section Shut

variable {new : List Exchange} {h' : η}
  (closes : ∀ e h, I h → ∃ h₁ xs, I h₁ ∧ i.guards.connection ∉ xs ∧
    ∀ host w, c e host h w = (.failed e, h₁, w.fireAll xs))

include closes

/-- What a stop of `t` becomes does not depend on the session. -/
theorem Stopped.shut (stopped : i.Stopped I w new h' w') : ∃ h₁ w₁, i.Stopped I w new h₁ w₁ ∧
    w₁.session = w'.session ∧ ∀ {host w₀}, t host h w₀ = (.failed i.error, h', w') →
      closing t c host h w₀ = (.failed i.error, h₁, w₁) := by
  obtain ⟨h₁, xs, kept, other, runs⟩ := closes i.error h' stopped.kept
  have connection := (isFired_fireAll_of_not_mem other w').trans stopped.connection
  exact ⟨h₁, w'.fireAll xs, ⟨kept, stopped.added, connection⟩, rfl,
    fun run => by rw [closing_of_failed run, runs]⟩

theorem Calm.shut (calm : i.Calm I w (t i.calm h w) new) :
    i.Calm I w (closing t c i.calm h w) new := by
  rcases run : t i.calm h w with ⟨a | e | _, h₁, w₁⟩ <;> rw [run] at calm
  · rwa [closing_of_done run]
  · obtain ⟨h₂, xs, kept, other, runs⟩ := closes e h₁ calm.kept
    have connection := (isFired_fireAll_of_not_mem other w₁).trans calm.connection
    rw [closing_of_failed run, runs]
    exact ⟨calm.added, calm.counted, kept, connection, fun _ done => by cases done⟩
  · rwa [closing_of_stuck run]

/-- A run that is the same on both sides is closed in the same way. -/
theorem Onward.shut {host : Host (σ × Nat)} (kept : I (t i.calm h w).2.1)
    (onward : i.Onward (t i.calm h w) (t host h w')) :
    i.Onward (closing t c i.calm h w) (closing t c host h w') := by
  rcases run' : t host h w' with ⟨out', h₁', w₁'⟩
  rcases run : t i.calm h w with ⟨out, h₁, w₁⟩
  rw [run] at kept
  rw [run, run'] at onward
  obtain ⟨outcome, handle, session, exchanges, beside⟩ := onward
  obtain rfl : out' = out := outcome
  obtain rfl : h₁' = h₁ := handle
  cases out' with
  | done a =>
    rw [closing_of_done run, closing_of_done run']
    exact ⟨rfl, rfl, session, exchanges, beside⟩
  | failed e =>
    obtain ⟨h₂, xs, -, -, runs⟩ := closes e h₁' kept
    rw [closing_of_failed run, closing_of_failed run', runs, runs]
    have ended : ∀ why, (Outcome.failed e : Outcome α) ≠ .stuck why :=
      fun _ same => by cases same
    exact ⟨rfl, rfl, session, exchanges, fun _ => (beside ended).fireAll xs⟩
  | stuck =>
    rw [closing_of_stuck run, closing_of_stuck run']
    exact ⟨rfl, rfl, session, exchanges, beside⟩

/-- No call is made behind a failure. -/
theorem session_closing {host : Host (σ × Nat)} (kept : I (t host h w).2.1) :
    (closing t c host h w).2.2.session = (t host h w).2.2.session := by
  rcases run : t host h w with ⟨a | e | _, h₁, w₁⟩ <;> rw [run] at kept
  · rw [closing_of_done run]
  · obtain ⟨h₂, xs, -, -, runs⟩ := closes e h₁ kept
    rw [closing_of_failed run, runs]
    rfl
  · rw [closing_of_stuck run]

/-- What is done behind a failure does not depend on the session. -/
theorem closing_same {host host' : Host (σ × Nat)} (kept : I (t host h w).2.1)
    (same : t host' h w = t host h w) : closing t c host' h w = closing t c host h w := by
  rcases run : t host h w with ⟨a | e | _, h₁, w₁⟩ <;> rw [run] at kept
  · rw [closing_of_done run, closing_of_done (same.trans run)]
  · obtain ⟨h₂, xs, -, -, runs⟩ := closes e h₁ kept
    rw [closing_of_failed run, closing_of_failed (same.trans run), runs, runs]
  · rw [closing_of_stuck run, closing_of_stuck (same.trans run)]

theorem Cut.shut (kept : I (t i.calm h w).2.1) (cut : i.Cut I t h w new) :
    i.Cut I (closing t c) h w new := by
  refine ⟨fun still host early => ?_, fun x there asks => ?_⟩
  · rw [session_closing closes kept] at still
    exact closing_same closes kept (cut.unreached still host early)
  · obtain ⟨h', w', stopped, count, runs⟩ := cut.reached x there asks
    obtain ⟨h₁, w₁, stopped₁, session, closed⟩ := stopped.shut closes
    exact ⟨h₁, w₁, stopped₁, by rw [session, count], fun host early => closed (runs host early)⟩

end Shut

/-- Closing the handle behind a failure asks nothing of the session. -/
theorem Interruptible.closing (ht : i.Deaf I t h)
    (closes : ∀ e h, I h → ∃ h₁ xs, I h₁ ∧ i.guards.connection ∉ xs ∧
      ∀ host w, c e host h w = (.failed e, h₁, w.fireAll xs)) :
    i.Deaf I (closing t c) h := by
  intro w calm
  obtain ⟨new, calm₁, cut₁, yields₁⟩ := ht w calm
  refine ⟨new, calm₁.shut closes, fun le => (cut₁ le).shut closes calm₁.kept,
    fun host lately w' beside => ?_⟩
  rcases yields₁ host lately w' beside with ⟨onward, deaf⟩ | ⟨m, h', w'', first, stopped, late⟩
  · exact .inl ⟨onward.shut closes calm₁.kept, deaf⟩
  · obtain ⟨h₁, w₁, stopped₁, -, closed⟩ := stopped.shut closes
    exact .inr ⟨m, h₁, w₁, first, stopped₁, closed late⟩

end Closing

/-! ## A look right behind an answer -/

section Answered

variable {t : Operation (σ × Nat) η α} {f : α → Operation (σ × Nat) η β}

/-- Undisturbed, the operation is one call with `P`, and it is done if the call is. -/
def Asks (i : Interruption σ) (P : Call → Prop) (t : Operation (σ × Nat) η α) (h : η) : Prop :=
  ∀ w, Undisturbed i.calm i.guards w → ∃ x, (t i.calm h w).2.2.exchanges = w.exchanges ++ [x] ∧
    P x.call ∧ (x.Done ↔ ∃ a, (t i.calm h w).1 = .done a)

/-- A look right behind the answer to a call with `P` that succeeded. -/
def OnAnswer (P : Call → Prop) (_ : World (σ × Nat)) (made : List Exchange) : Prop :=
  ∃ x, made.getLast? = some x ∧ P x.call ∧ x.Done

theorem not_onAnswer_nil {P : Call → Prop} : ¬ OnAnswer P w [] := by
  simp [OnAnswer]

theorem onAnswer_append {P : Call → Prop} {w₁ : World (σ × Nat)} {made made' : List Exchange}
    (some : made' ≠ []) : OnAnswer P w (made ++ made') ↔ OnAnswer P w₁ made' := by
  rw [OnAnswer, OnAnswer, List.getLast?_append, List.getLast?_eq_some_getLast some,
    Option.some_or]

theorem Asks.guarded {P : Call → Prop} {c : Call} (hc : P c) :
    Asks i P (guarded i.guards i.closed c) h := by
  intro w calm
  rw [guarded_apply, calm.stops_none]
  simp only
  rw [call_calm rfl ((calm.asking c).stops_none i.closed)]
  exact ⟨_, by rw [World.record, World.exchanges_heard], hc, Iff.rfl⟩

theorem Asks.closing {P : Call → Prop} {c : Error → Operation (σ × Nat) η α} (ht : Asks i P t h)
    (closes : ∀ e host h w, ∃ h' w', c e host h w = (.failed e, h', w') ∧
      w'.exchanges = w.exchanges) : Asks i P (closing t c) h := by
  intro w calm
  obtain ⟨x, added, kind, done⟩ := ht w calm
  refine ⟨x, ?_⟩
  rcases run : t i.calm h w with ⟨a | e | _, h₁, w₁⟩ <;> rw [run] at added done
  · rw [closing_of_done run]
    exact ⟨added, kind, done⟩
  · obtain ⟨h', w', runs, same⟩ := closes e i.calm h₁ w₁
    rw [closing_of_failed run, runs, same]
    exact ⟨added, kind, done.trans (by simp)⟩
  · rw [closing_of_stuck run]
    exact ⟨added, kind, done⟩

/-- A look, and nothing else to look for behind it. -/
theorem Interruptible.look_deaf {out : Outcome α} (look : i.OnlyLooks t h out) (kept : I h)
    (hf : ∀ a, out = .done a → i.Deaf I (f a) h) :
    i.Interruptible I (fun _ c => c = []) (t >>= f) h :=
  (Interruptible.look_bind look kept hf).of_looks fun _ _ _ _ => by simp

/-- A look right behind a call with `P`, and no such call later. -/
theorem Interruptible.answered {P : Call → Prop} (ht : i.Deaf I t h) (asks : Asks i P t h)
    (hf : ∀ a h₁, I h₁ → i.Interruptible I (fun _ c => c = []) (f a) h₁)
    (rest : ∀ a h₁, ∃ J : η → Prop, J h₁ ∧ Calls J (fun c => ¬ P c) (f a)) :
    i.Interruptible I (OnAnswer P) (t >>= f) h := by
  refine .bind (fun _ _ _ c => c = []) ht (fun _ _ => hf _ _)
    ⟨fun {w a h₁ w₁ made made'} calm run added added' c first => ?_,
      fun {w made} calm ended added c first => ?_⟩
  · obtain ⟨x, one, kind, done⟩ := asks w calm
    rw [run] at one done
    obtain rfl : made = [x] := by simpa using added.symm.trans one
    obtain ⟨J, here, calls⟩ := rest a h₁
    obtain ⟨-, -, new, added₂, others⟩ := calls i.calm h₁ w₁ here
    obtain rfl : made' = new := List.append_cancel_left (added'.symm.trans added₂)
    constructor
    · rintro ⟨y, last, kind', -⟩
      cases c with
      | nil => simp at last
      | cons z c' =>
        obtain ⟨rfl, first'⟩ : z = x ∧ c' <+: made' := by simpa using first
        cases c' with
        | nil => exact .inr ⟨[], rfl, rfl⟩
        | cons u c' =>
          have mem : y ∈ u :: c' := by
            rw [List.getLast?_cons_cons] at last
            exact List.mem_of_getLast? last
          exact absurd kind' (others y (first'.subset mem))
    · rintro (⟨-, none⟩ | ⟨_, rfl, rfl⟩)
      · exact none.elim
      · exact ⟨x, rfl, kind, done.2 ⟨a, rfl⟩⟩
  · obtain ⟨x, one, -, done⟩ := asks w calm
    obtain rfl : made = [x] := by simpa using added.symm.trans one
    refine ⟨?_, False.elim⟩
    rintro ⟨y, last, -, succeeded⟩
    obtain rfl : y = x := by simpa using first.subset (List.mem_of_getLast? last)
    obtain ⟨a, same⟩ := done.1 succeeded
    exact ended a same

end Answered

end Interruption

end SqlBinder

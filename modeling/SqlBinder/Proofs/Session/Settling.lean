import SqlBinder.Proofs.Session.Interruptible

/-!
What becomes of an operation that is cancelled in one of its guarded round trips. Before the
answer, or together with it, the cancellation wins and the answer leaves no trace; behind the
answer the operation goes on to its next look at the signals. Where it stops nothing is asked
for any more, but what it holds is given back, unless the connection is gone.
-/
namespace SqlBinder

open Operation

variable {σ η α : Type}

/-- Its answer never comes. -/
def Exchange.Stuck (x : Exchange) : Prop := x.outcome = .stuck .waiting

namespace Interruption

variable (i : Interruption σ)

/-- Behind the calls `made` the operation fails with the error of the cancellation, as soon as it
has given back what it holds. -/
def Fails (holds : List Call) (w : World (σ × Nat)) (made : List Exchange)
    (run : Outcome α × η × World (σ × Nat)) : Prop :=
  ∃ back, run.2.2.exchanges = w.exchanges ++ made ++ back ∧
    back.map (·.call) = (if i.guards.connection ∈ i.signals then [] else holds) ∧
    (run.1 = .failed i.error ∨ run.1 = .stuck .waiting ∧ ∃ x ∈ back, x.Stuck)

/-- The operation that is cancelled ends as it would have. When it fails by itself, what it holds is
not given back any more once the connection is gone. -/
def EndsAlike (holds : List Call) (w : World (σ × Nat)) (new : List Exchange)
    (run run' : Outcome α × η × World (σ × Nat)) : Prop :=
  run'.2.1 = run.2.1 ∧
    (run'.1 = run.1 ∧ run'.2.2.session = run.2.2.session ∧
        run'.2.2.exchanges = run.2.2.exchanges ∨
      i.guards.connection ∈ i.signals ∧ ∃ e made back,
        run'.1 = .failed e ∧ run'.2.2.exchanges = w.exchanges ++ made ∧
        new = made ++ back ∧ back.map (·.call) = holds ∧
        (run.1 = .failed e ∨ run.1 = .stuck .waiting ∧ ∃ x ∈ back, x.Stuck))

/-- The next look behind call number `n` comes behind `m` calls. -/
structure NextLook (looks : World (σ × Nat) → List Exchange → Prop) (w : World (σ × Nat))
    (new : List Exchange) (n m : Nat) : Prop where
  behind : n < m
  here : LooksAt looks w new m
  next : ∀ m', n < m' → m' < m → ¬ LooksAt looks w new m'

/-- The operation on `h`, which holds what the calls `holds` give back, and a cancellation at call
number `n`. Before the answer to a guarded round trip it stops the operation at once. Behind an
answer it stops the operation at its next look, if there is one. -/
def Settles (looks : World (σ × Nat) → List Exchange → Prop) (holds : List Call)
    (t : Operation (σ × Nat) η α) (h : η) : Prop :=
  ∀ w, Undisturbed i.calm i.guards w → ∃ new,
    (t i.calm h w).2.2.exchanges = w.exchanges ++ new ∧
    ∀ n x, i.place = w.session.2 + n → new[n]? = some x →
      (¬ x.call.Closes → ∃ run, (∀ host, i.Early host → t host h w = run) ∧
        i.Fails holds w (new.take n ++ [⟨x.call, .failed i.error⟩]) run) ∧
      ∀ host, i.Late host →
        (∃ m, NextLook looks w new n m ∧ i.Fails holds w (new.take m) (t host h w)) ∨
          (∀ m, n < m → ¬ LooksAt looks w new m) ∧
            i.EndsAlike holds w new (t i.calm h w) (t host h w)

variable {i} {I : η → Prop} {looks looks' : World (σ × Nat) → List Exchange → Prop} {h : η}

theorem due_of_place {w : World (σ × Nat)} {n : Nat} (place : i.place = w.session.2 + n) :
    i.due w = n + 1 := by
  unfold due
  omega

theorem take_ne_nil {new : List Exchange} {m : Nat} (pos : 0 < m) (some : new ≠ []) :
    new.take m ≠ [] := fun none => by
  rcases List.take_eq_nil_iff.1 none with zero | empty
  · omega
  · exact some empty

/-- Giving something back is no look, and the look at the beginning is over behind a call. -/
theorem looksAt_append_back {w : World (σ × Nat)} (new back : List Exchange) {m : Nat}
    (pos : 0 < m) (backs : ∀ x ∈ back, x.call.Closes)
    (last : ∀ x ∈ back, ∀ c, c.getLast? = some x → ¬ looks w c)
    (same : ∀ c, c ≠ [] → (looks w c ↔ looks' w c)) :
    LooksAt looks w (new ++ back) m ↔ LooksAt looks' w new m := by
  by_cases short : m ≤ new.length
  · have asked : (∃ x, (new ++ back)[m]? = some x ∧ ¬ x.call.Closes) ↔
        ∃ x, new[m]? = some x ∧ ¬ x.call.Closes := by
      by_cases lt : m < new.length
      · rw [List.getElem?_append_left lt]
      · rw [List.getElem?_append_right (Nat.not_lt.1 lt), List.getElem?_eq_none (Nat.not_lt.1 lt)]
        refine ⟨fun ⟨x, there, asks⟩ => ?_, fun ⟨x, there, _⟩ => by simp at there⟩
        exact absurd (backs x (List.mem_of_getElem? there)) asks
    have some : new.take m ≠ [] := take_ne_nil pos fun none => by
      rw [none, List.length_nil] at short
      omega
    rw [LooksAt, LooksAt, asked, List.length_append, List.take_append_of_le_length short,
      same _ some]
    simp only [short, Nat.le_add_right_of_le short]
  · -- Behind all of `new` the last call is one that gives back.
    refine ⟨fun here => ?_, fun here => absurd here.le short⟩
    obtain ⟨k, rfl⟩ : ∃ k, m = new.length + (k + 1) := ⟨m - new.length - 1, by omega⟩
    have le := here.le
    rw [List.length_append] at le
    rcases here with ⟨x, there, asks⟩ | ⟨-, looked⟩
    · rw [List.getElem?_append_right (by omega)] at there
      exact absurd (backs x (List.mem_of_getElem? there)) asks
    · have some : back.take (k + 1) ≠ [] := take_ne_nil (Nat.succ_pos k) fun none => by
        rw [none, List.length_nil] at le
        omega
      rw [List.take_length_add_append] at looked
      refine absurd looked (last _ (List.take_subset _ _ (List.getLast_mem some)) _ ?_)
      rw [List.getLast?_append, List.getLast?_eq_some_getLast some, Option.some_or]

/-- An operation that holds nothing. The look at its beginning is over when it makes a call. -/
theorem Settles.of_interruptible {t : Operation (σ × Nat) η α}
    (ht : i.Interruptible I looks' t h)
    (same : ∀ w c, c ≠ [] → (looks w c ↔ looks' w c)) : i.Settles looks [] t h := by
  intro w calm
  obtain ⟨new, calm₁, cut₁, yields₁⟩ := ht w calm
  refine ⟨new, calm₁.added, fun n x place there => ⟨fun asks => ?_, fun host late => ?_⟩⟩
  · have le : w.session.2 ≤ i.place := by omega
    have index : i.place - w.session.2 = n := by omega
    obtain ⟨h₁, w₁, stopped, -, runs⟩ := (cut₁ le).reached x (by rwa [index]) asks
    rw [index] at stopped
    exact ⟨_, runs, [], by rw [stopped.added, List.append_nil], by simp, .inl rfl⟩
  · have looksAt : ∀ m, n < m → (LooksAt looks w new m ↔ LooksAt looks' w new m) := fun m lt => by
      have both := looksAt_append_back new [] (Nat.zero_lt_of_lt lt) (by simp) (by simp) (same w)
      rwa [List.append_nil] at both
    have due := due_of_place place
    have beside : i.Beside w w := (beside_of_le (by omega)).2 rfl
    rcases yields₁ host late w beside with ⟨onward, deaf⟩ | ⟨m, h₁, w₁, first, stopped, run⟩
    · exact .inr ⟨fun m lt here => deaf m (by omega) ((looksAt m lt).1 here), onward.handle,
        .inl ⟨onward.outcome, onward.session, onward.exchanges⟩⟩
    · have behind := first.due
      refine .inl ⟨m, ⟨by omega, (looksAt m (by omega)).2 first.here, fun m' lt lt' here => ?_⟩, ?_⟩
      · exact first.first m' (by omega) lt' ((looksAt m' lt).1 here)
      · rw [run]
        exact ⟨[], by rw [stopped.added, List.append_nil], by simp, .inl rfl⟩

end Interruption

end SqlBinder

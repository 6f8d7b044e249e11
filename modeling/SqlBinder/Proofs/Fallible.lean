import Mathlib.Data.List.Forall2

/-!
Computations that can fail. What one that succeeds is made of, for the steps that the library's
functions are built from, and what failed where a list is gone through.

They are used from the back: a result of decoding or encoding is taken apart into the results of its
steps. For `mapM` the order matters in one direction only, as it fails with the first that fails.
-/
namespace SqlBinder

/-- What is related element by element leaves no element of the second list alone. -/
theorem exists_of_forall₂ {α β : Type} {R : α → β → Prop} {l : List α} {bs : List β}
    (each : List.Forall₂ R l bs) {b : β} (member : b ∈ bs) : ∃ a ∈ l, R a b := by
  induction each with
  | nil => cases member
  | @cons a _ rest others one behind ih =>
    rcases List.mem_cons.1 member with rfl | member
    · exact ⟨a, List.mem_cons_self, one⟩
    · obtain ⟨x, among, related⟩ := ih member
      exact ⟨x, List.mem_cons_of_mem a among, related⟩

namespace Except

variable {ε α β : Type}

theorem bind_ok {r : Except ε α} {f : α → Except ε β} {b : β} :
    (r >>= f) = .ok b ↔ ∃ a, r = .ok a ∧ f a = .ok b := by
  cases r <;> simp [bind, Except.bind]

theorem bind_error {r : Except ε α} {f : α → Except ε β} {e : ε} :
    (r >>= f) = .error e ↔ r = .error e ∨ ∃ a, r = .ok a ∧ f a = .error e := by
  cases r <;> simp [bind, Except.bind]

@[simp] theorem throw_ne_ok (e : ε) (a : α) : (throw e : Except ε α) ≠ .ok a := by
  simp [throw, throwThe, MonadExceptOf.throw]

theorem ite_throw_ok {c : Prop} [Decidable c] {e : ε} {r : Except ε α} {a : α} :
    (if c then throw e else r) = .ok a ↔ ¬ c ∧ r = .ok a := by
  by_cases hc : c <;> simp [hc]

theorem ite_throw_bind_ok {c : Prop} [Decidable c] {e : ε} {f : β → Except ε α}
    {r : Except ε α} {a : α} :
    (if c then (throw e : Except ε β) >>= f else r) = .ok a ↔ ¬ c ∧ r = .ok a := by
  by_cases hc : c <;> simp [hc, bind_ok]

theorem map_ok {f : α → β} {r : Except ε α} {b : β} :
    f <$> r = .ok b ↔ ∃ a, r = .ok a ∧ f a = b := by
  cases r <;> simp [Functor.map, Except.map]

theorem map_error {f : α → β} {r : Except ε α} {e : ε} : f <$> r = .error e ↔ r = .error e := by
  cases r <;> simp [Functor.map, Except.map]

/-! ## Errors under other names -/

section MapError

variable {ε' : Type} (g : ε → ε')

@[simp] theorem mapError_pure (a : α) : (pure a : Except ε α).mapError g = pure a := rfl

@[simp] theorem mapError_throw (e : ε) : (throw e : Except ε α).mapError g = throw (g e) := rfl

@[simp] theorem mapError_bind (r : Except ε α) (k : α → Except ε β) :
    (r >>= k).mapError g = r.mapError g >>= fun a => (k a).mapError g := by
  cases r <;> rfl

@[simp] theorem mapError_map (k : α → β) (r : Except ε α) :
    (k <$> r).mapError g = k <$> r.mapError g := by
  cases r <;> rfl

@[simp] theorem mapError_ite (c : Prop) [Decidable c] (r r' : Except ε α) :
    (if c then r else r').mapError g = if c then r.mapError g else r'.mapError g :=
  apply_ite _ _ _ _

end MapError

/-! ## Lists -/

variable {f : α → Except ε β} {l : List α} {bs : List β} {e : ε}

/-- What is made of a list is made element by element. -/
theorem mapM_ok : l.mapM f = .ok bs ↔ List.Forall₂ (fun a b => f a = .ok b) l bs := by
  induction l generalizing bs with
  | nil =>
    rw [List.mapM_nil, List.forall₂_nil_left_iff]
    exact ⟨fun h => (Except.ok.inj h).symm, fun h => h ▸ rfl⟩
  | cons a rest ih =>
    simp only [List.mapM_cons, bind_ok, List.forall₂_cons_left_iff, ← ih]
    constructor
    · rintro ⟨b, one, others, behind, made⟩
      exact ⟨b, others, one, behind, (Except.ok.inj made).symm⟩
    · rintro ⟨b, others, one, behind, rfl⟩
      exact ⟨b, one, others, behind, rfl⟩

theorem mem_of_mapM (h : l.mapM f = .ok bs) {b : β} (member : b ∈ bs) : ∃ a ∈ l, f a = .ok b :=
  exists_of_forall₂ (mapM_ok.1 h) member

/-- Going through a list fails with the error of the first element that has one. -/
theorem mapM_eq_error : l.mapM f = .error e ↔
    ∃ before a after, l = before ++ a :: after ∧ (∀ x ∈ before, ∃ b, f x = .ok b) ∧
      f a = .error e := by
  induction l with
  | nil => simp [pure, Except.pure]
  | cons a rest ih =>
    rw [List.mapM_cons]
    cases first : f a with
    | error e' =>
      constructor
      · intro failed
        obtain rfl := Except.error.inj failed
        exact ⟨[], a, rest, rfl, by simp, first⟩
      · rintro ⟨before, x, after, split, each, failed⟩
        cases before with
        | nil =>
          obtain rfl := (List.cons.inj split).1
          exact congrArg Except.error (Except.error.inj (first.symm.trans failed))
        | cons _ before =>
          obtain rfl := (List.cons.inj split).1
          obtain ⟨b, made⟩ := each a List.mem_cons_self
          cases first.symm.trans made
    | ok b =>
      have behind : (Except.ok b >>= fun b => rest.mapM f >>= fun others => pure (b :: others)) =
          .error e ↔ rest.mapM f = .error e := by
        cases rest.mapM f <;> simp [bind, Except.bind, pure, Except.pure]
      refine behind.trans (ih.trans ?_)
      constructor
      · rintro ⟨before, x, after, rfl, each, failed⟩
        exact ⟨a :: before, x, after, rfl, List.forall_mem_cons.2 ⟨⟨b, first⟩, each⟩, failed⟩
      · rintro ⟨before, x, after, split, each, failed⟩
        cases before with
        | nil =>
          obtain rfl := (List.cons.inj split).1
          cases first.symm.trans failed
        | cons _ before =>
          exact ⟨before, x, after, (List.cons.inj split).2, (List.forall_mem_cons.1 each).2, failed⟩

/-- An element that fails is enough. -/
theorem exists_mapM_error {a : α} (member : a ∈ l) (failed : f a = .error e) :
    ∃ e, l.mapM f = .error e := by
  cases made : l.mapM f with
  | error e' => exact ⟨e', rfl⟩
  | ok bs =>
    obtain ⟨b, -, one⟩ := exists_of_forall₂ (mapM_ok.1 made).flip member
    cases failed.symm.trans one

/-- What fails at its elements by their faults fails by the first of them. -/
theorem mapM_error {fault? : α → Option ε}
    (faults : ∀ a e, f a = .error e ↔ fault? a = some e) :
    l.mapM f = .error e ↔ l.findSome? fault? = some e := by
  have sound : ∀ a, (∃ b, f a = .ok b) ↔ fault? a = none := by
    intro a
    rw [Option.eq_none_iff_forall_ne_some]
    cases made : f a with
    | error e' => simp [(faults a e').1 made]
    | ok b => simp [← faults, made]
  simp only [mapM_eq_error, List.findSome?_eq_some_iff, faults, sound, and_comm]

theorem mapM_sound {fault? : α → Option ε}
    (faults : ∀ a e, f a = .error e ↔ fault? a = some e)
    (sound : l.findSome? fault? = none) : ∃ bs, l.mapM f = .ok bs := by
  cases made : l.mapM f with
  | ok bs => exact ⟨bs, rfl⟩
  | error e => simp [(mapM_error faults).1 made] at sound

end Except

end SqlBinder

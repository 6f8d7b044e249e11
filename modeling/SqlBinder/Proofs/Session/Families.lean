import SqlBinder.Session.Signal
import Mathlib.Data.List.Induction
import Mathlib.Logic.Relation

/-!
Holders of close signals in families. Steps make holders of new signals, make further holders of a
signal, and fire signals; a family is what sharing joins, in either direction and over any number of
steps. Main statement: a holder sees its signal fired exactly if a holder of its family has fired
its own before, and so do those who wait and the guards of a handle.
-/
namespace SqlBinder.Holders

/-! ## Families -/

/-- Nobody holds a signal yet. -/
def nobody : Holders := ⟨Signals.empty, []⟩

/-- The holders behind steps from the first one on. -/
def run (steps : List HolderStep) : Holders := steps.foldl step nobody

/-- How many holders there are behind steps. -/
def population (steps : List HolderStep) : Nat :=
  steps.foldl (fun n step =>
    match step with
    | .create => n + 1
    | .share i => if i < n then n + 1 else n
    | .fire _ => n) 0

/-- The step was taken when there were so many holders. -/
def Taken (steps : List HolderStep) (step : HolderStep) (n : Nat) : Prop :=
  ∃ before after, steps = before ++ step :: after ∧ population before = n

/-- Holder `j` came to be as another holder of the signal of `i`. -/
def CopyOf (steps : List HolderStep) (i j : Nat) : Prop := i < j ∧ Taken steps (.share i) j

/-- Copies are joined with what they are copies of. -/
def Family (steps : List HolderStep) : Nat → Nat → Prop := Relation.EqvGen (CopyOf steps)

/-- Holder `k` was there and fired its signal. -/
def FiredBy (steps : List HolderStep) (k : Nat) : Prop := ∃ n, k < n ∧ Taken steps (.fire k) n

/-- A holder of the family of `i` fired its signal. -/
def FamilyFired (steps : List HolderStep) (i : Nat) : Prop :=
  ∃ k, FiredBy steps k ∧ Family steps i k

variable {steps more : List HolderStep} {s t : HolderStep} {h : Holders} {i j k n : Nat}
  {x : Signal}

/-! One more step. -/

theorem run_concat : run (steps ++ [s]) = (run steps).step s := List.foldl_append

theorem population_concat : population (steps ++ [s]) =
    match s with
    | .create => population steps + 1
    | .share i => if i < population steps then population steps + 1 else population steps
    | .fire _ => population steps := by
  rw [population, List.foldl_append]
  rfl

theorem taken_concat :
    Taken (steps ++ [s]) t n ↔ Taken steps t n ∨ t = s ∧ n = population steps := by
  constructor
  · rintro ⟨before, after, split, rfl⟩
    obtain rfl | ⟨after, last, rfl⟩ := after.eq_nil_or_concat
    · obtain ⟨rfl, same⟩ := List.append_inj' split rfl
      exact .inr ⟨(List.cons.inj same).1.symm, rfl⟩
    · rw [List.concat_eq_append, ← List.cons_append, ← List.append_assoc] at split
      obtain ⟨rfl, -⟩ := List.append_inj' split rfl
      exact .inl ⟨before, after, rfl, rfl⟩
  · rintro (⟨before, after, rfl, rfl⟩ | ⟨rfl, rfl⟩)
    · exact ⟨before, after ++ [s], by simp, rfl⟩
    · exact ⟨steps, [], rfl, rfl⟩

theorem Taken.append (taken : Taken steps t n) (more : List HolderStep) :
    Taken (steps ++ more) t n := by
  obtain ⟨before, after, rfl, rfl⟩ := taken
  exact ⟨before, after ++ more, by simp, rfl⟩

/-- Who is of one family stays so. -/
theorem Family.append (family : Family steps i j) (more : List HolderStep) :
    Family (steps ++ more) i j :=
  have copies : CopyOf steps ≤ CopyOf (steps ++ more) :=
    fun _ _ copy => ⟨copy.1, copy.2.append more⟩
  Relation.EqvGen.mono copies _ _ family

theorem FamilyFired.append (fired : FamilyFired steps i) (more : List HolderStep) :
    FamilyFired (steps ++ more) i := by
  obtain ⟨k, ⟨n, there, taken⟩, family⟩ := fired
  exact ⟨k, ⟨n, there, taken.append more⟩, family.append more⟩

/-- Holders stay, with the signals that they have. -/
theorem holders_step (s : HolderStep) : ∃ new, (h.step s).holders = h.holders ++ new := by
  cases s with
  | create => exact ⟨_, rfl⟩
  | share i =>
    simp only [step]
    split
    · exact ⟨_, rfl⟩
    · exact ⟨[], (List.append_nil _).symm⟩
  | fire i =>
    simp only [step]
    split <;> exact ⟨[], (List.append_nil _).symm⟩

theorem getElem?_step (has : h.holders[i]? = some x) (s : HolderStep) :
    (h.step s).holders[i]? = some x := by
  obtain ⟨new, added⟩ := holders_step (h := h) s
  obtain ⟨there, _⟩ := List.getElem?_eq_some_iff.1 has
  rw [added, List.getElem?_append_left there, has]

theorem isFired_step (fired : h.signals.isFired x = true) (s : HolderStep) :
    (h.step s).signals.isFired x = true := by
  cases s with
  | create => exact fired
  | share i =>
    simp only [step]
    split <;> exact fired
  | fire k =>
    simp only [step]
    split
    · simp [fired]
    · exact fired

theorem copyOf_concat : CopyOf (steps ++ [s]) i j ↔
    CopyOf steps i j ∨ s = .share i ∧ i < j ∧ j = population steps := by
  simp only [CopyOf, taken_concat, eq_comm (a := s)]
  tauto

theorem firedBy_concat : FiredBy (steps ++ [s]) k ↔
    FiredBy steps k ∨ s = .fire k ∧ k < population steps := by
  simp only [FiredBy, taken_concat, eq_comm (a := s)]
  constructor
  · rintro ⟨n, there, taken | ⟨last, rfl⟩⟩
    · exact .inl ⟨n, there, taken⟩
    · exact .inr ⟨last, there⟩
  · rintro (⟨n, there, taken⟩ | ⟨last, there⟩)
    · exact ⟨n, there, .inl taken⟩
    · exact ⟨_, there, .inr ⟨last, rfl⟩⟩

theorem getElem?_concat_eq_some {l : List Signal} {y : Signal} :
    (l ++ [y])[i]? = some x ↔ l[i]? = some x ∨ i = l.length ∧ y = x := by
  rw [List.getElem?_append]
  grind

theorem getElem?_run_append (has : (run steps).holders[i]? = some x) (more : List HolderStep) :
    (run (steps ++ more)).holders[i]? = some x := by
  induction more using List.reverseRecOn with
  | nil => simpa using has
  | append_singleton more s ih =>
    rw [← List.append_assoc, run_concat]
    exact getElem?_step ih s

/-! ## What is known of every holder -/

/-- The signals of holders tell their families, and which of them fired. -/
structure Tracks (steps : List HolderStep) (h : Holders) : Prop where
  population_eq : h.holders.length = population steps
  made : ∀ x ∈ h.holders, x.number < h.signals.made
  copies : ∀ {i j}, CopyOf steps i j → ∃ x, h.holders[i]? = some x ∧ h.holders[j]? = some x
  family : ∀ {i j x}, h.holders[i]? = some x → h.holders[j]? = some x → Family steps i j
  effect : ∀ {k}, FiredBy steps k → ∃ x, h.holders[k]? = some x ∧ h.signals.isFired x = true
  cause : ∀ {x}, h.signals.isFired x = true → ∃ k, FiredBy steps k ∧ h.holders[k]? = some x

namespace Tracks

theorem there (tracks : Tracks steps h) (has : h.holders[i]? = some x) : i < population steps :=
  tracks.population_eq ▸ (List.getElem?_eq_some_iff.1 has).1

theorem absent (tracks : Tracks steps h) (has : h.holders[i]? = none) : ¬ i < population steps :=
  tracks.population_eq ▸ Nat.not_lt.2 (List.getElem?_eq_none_iff.1 has)

theorem start : Tracks [] nobody where
  population_eq := rfl
  made _ mem := absurd mem (List.not_mem_nil)
  copies copy := by
    obtain ⟨_, before, after, split, -⟩ := copy
    simp at split
  family has := by simp [nobody] at has
  effect fired := by
    obtain ⟨_, _, before, after, split, -⟩ := fired
    simp at split
  cause fired := by simp [nobody] at fired

/-! What was known before a step is known behind it. -/

theorem copies_step (tracks : Tracks steps h) (copy : CopyOf steps i j) (s : HolderStep) :
    ∃ x, (h.step s).holders[i]? = some x ∧ (h.step s).holders[j]? = some x := by
  obtain ⟨x, hasI, hasJ⟩ := tracks.copies copy
  exact ⟨x, getElem?_step hasI s, getElem?_step hasJ s⟩

theorem effect_step (tracks : Tracks steps h) (fired : FiredBy steps k) (s : HolderStep) :
    ∃ x, (h.step s).holders[k]? = some x ∧ (h.step s).signals.isFired x = true := by
  obtain ⟨x, has, past⟩ := tracks.effect fired
  exact ⟨x, getElem?_step has s, isFired_step past s⟩

theorem cause_step (tracks : Tracks steps h) (fired : h.signals.isFired x = true)
    (s : HolderStep) : ∃ k, FiredBy (steps ++ [s]) k ∧ (h.step s).holders[k]? = some x := by
  obtain ⟨k, past, has⟩ := tracks.cause fired
  exact ⟨k, firedBy_concat.2 (.inl past), getElem?_step has s⟩

/-- One more holder of a signal keeps the families apart if the old holders of that signal are of
its family. -/
theorem family_added {y : Signal} (tracks : Tracks steps h)
    (joins : ∀ {i}, h.holders[i]? = some y → Family (steps ++ [s]) i h.holders.length)
    (hasI : (h.holders ++ [y])[i]? = some x) (hasJ : (h.holders ++ [y])[j]? = some x) :
    Family (steps ++ [s]) i j := by
  obtain oldI | ⟨rfl, rfl⟩ := getElem?_concat_eq_some.1 hasI <;>
    obtain oldJ | ⟨rfl, same⟩ := getElem?_concat_eq_some.1 hasJ
  · exact (tracks.family oldI oldJ).append _
  · exact joins (same ▸ oldI)
  · exact (joins oldJ).symm
  · exact .refl _

theorem create (tracks : Tracks steps h) : Tracks (steps ++ [.create]) (h.step .create) := by
  refine ⟨?population, ?made, ?copies, ?family, ?effect, ?cause⟩
  case population => simp [step, population_concat, tracks.population_eq]
  case made =>
    intro x mem
    obtain old | rfl : x ∈ h.holders ∨ x = h.signals.fresh.1 := by simpa [step] using mem
    · exact Nat.lt_succ_of_lt (tracks.made x old)
    · exact Nat.lt_succ_self _
  case copies =>
    intro i j copy
    exact tracks.copies_step (by simpa [copyOf_concat] using copy) _
  case family =>
    -- Nobody has had the new signal before.
    have new : h.signals.fresh.1 ∉ h.holders := fun mem => Nat.lt_irrefl _ (tracks.made _ mem)
    intro i j x hasI hasJ
    exact tracks.family_added (fun has => absurd (List.mem_of_getElem? has) new) hasI hasJ
  case effect =>
    intro k fired
    exact tracks.effect_step (by simpa [firedBy_concat] using fired) _
  case cause =>
    intro x fired
    exact tracks.cause_step fired _

/-- Steps that name no holder. -/
theorem idle (tracks : Tracks steps h) (same : population (steps ++ [s]) = population steps)
    (noCopy : ∀ {i j}, CopyOf (steps ++ [s]) i j → CopyOf steps i j)
    (noFire : ∀ {k}, FiredBy (steps ++ [s]) k → FiredBy steps k) : Tracks (steps ++ [s]) h where
  population_eq := tracks.population_eq.trans same.symm
  made := tracks.made
  copies copy := tracks.copies (noCopy copy)
  family hasI hasJ := (tracks.family hasI hasJ).append _
  effect fired := tracks.effect (noFire fired)
  cause fired := by
    obtain ⟨k, past, has⟩ := tracks.cause fired
    exact ⟨k, firedBy_concat.2 (.inl past), has⟩

theorem share (tracks : Tracks steps h) (i : Nat) :
    Tracks (steps ++ [.share i]) (h.step (.share i)) := by
  cases has : h.holders[i]? with
  | none =>
    have absent := tracks.absent has
    have stays : h.step (.share i) = h := by simp [step, has]
    rw [stays]
    refine tracks.idle ?same ?noCopy ?noFire
    case same => simp [population_concat, absent]
    case noCopy =>
      intro a b copy
      obtain old | ⟨named, before, rfl⟩ := copyOf_concat.1 copy
      · exact old
      · obtain rfl : i = a := by simpa using named
        exact absurd before absent
    case noFire => simp [firedBy_concat]
  | some y =>
    have there := tracks.there has
    have copied : h.step (.share i) = { h with holders := h.holders ++ [y] } := by simp [step, has]
    have copy : CopyOf (steps ++ [.share i]) i h.holders.length :=
      copyOf_concat.2 (.inr ⟨rfl, tracks.population_eq ▸ there, tracks.population_eq⟩)
    refine ⟨?population, ?made, ?copies, ?family, ?effect, ?cause⟩
    case population => simp [copied, population_concat, tracks.population_eq, there]
    case made =>
      intro x mem
      rw [copied] at mem ⊢
      obtain old | rfl : x ∈ h.holders ∨ x = y := by simpa using mem
      · exact tracks.made x old
      · exact tracks.made x (List.mem_of_getElem? has)
    case copies =>
      intro a b copy
      obtain old | ⟨named, before, rfl⟩ := copyOf_concat.1 copy
      · exact tracks.copies_step old _
      · obtain rfl : i = a := by simpa using named
        refine ⟨y, getElem?_step has _, ?_⟩
        rw [copied]
        exact getElem?_concat_eq_some.2 (.inr ⟨tracks.population_eq.symm, rfl⟩)
    case family =>
      intro a b x hasA hasB
      rw [copied] at hasA hasB
      refine tracks.family_added (fun old => ?_) hasA hasB
      exact .trans _ _ _ ((tracks.family old has).append _) (.rel _ _ copy)
    case effect =>
      intro k fired
      exact tracks.effect_step (by simpa [firedBy_concat] using fired) _
    case cause =>
      intro x fired
      exact tracks.cause_step (by simpa [copied] using fired) _

theorem fire (tracks : Tracks steps h) (k : Nat) :
    Tracks (steps ++ [.fire k]) (h.step (.fire k)) := by
  cases has : h.holders[k]? with
  | none =>
    have absent := tracks.absent has
    have stays : h.step (.fire k) = h := by simp [step, has]
    rw [stays]
    refine tracks.idle ?same ?noCopy ?noFire
    case same => simp [population_concat]
    case noCopy => simp [copyOf_concat]
    case noFire =>
      intro j fired
      obtain old | ⟨named, there⟩ := firedBy_concat.1 fired
      · exact old
      · obtain rfl : k = j := by simpa using named
        exact absurd there absent
  | some y =>
    have fires : h.step (.fire k) = { h with signals := h.signals.fire y } := by simp [step, has]
    refine ⟨?population, ?made, ?copies, ?family, ?effect, ?cause⟩
    case population => simp [fires, population_concat, tracks.population_eq]
    case made => simpa [fires] using tracks.made
    case copies =>
      intro i j copy
      exact tracks.copies_step (by simpa [copyOf_concat] using copy) _
    case family =>
      intro i j x hasI hasJ
      rw [fires] at hasI hasJ
      exact (tracks.family hasI hasJ).append _
    case effect =>
      intro j fired
      obtain old | ⟨named, -⟩ := firedBy_concat.1 fired
      · exact tracks.effect_step old _
      · obtain rfl : k = j := by simpa using named
        exact ⟨y, getElem?_step has _, by simp [fires]⟩
    case cause =>
      intro x fired
      obtain rfl | old : x = y ∨ h.signals.isFired x = true := by simpa [fires] using fired
      · exact ⟨k, firedBy_concat.2 (.inr ⟨rfl, tracks.there has⟩), getElem?_step has _⟩
      · exact tracks.cause_step old _

end Tracks

theorem tracks_run (steps : List HolderStep) : Tracks steps (run steps) := by
  induction steps using List.reverseRecOn with
  | nil => exact .start
  | append_singleton steps s tracks =>
    rw [run_concat]
    cases s with
    | create => exact tracks.create
    | share i => exact tracks.share i
    | fire k => exact tracks.fire k

/-- Who is of one family has one signal. -/
theorem Family.same_signal (family : Family steps i j) :
    (run steps).holders[i]? = (run steps).holders[j]? := by
  induction family with
  | rel i j copy =>
    obtain ⟨x, hasI, hasJ⟩ := (tracks_run steps).copies copy
    rw [hasI, hasJ]
  | refl => rfl
  | symm _ _ _ ih => exact ih.symm
  | trans _ _ _ _ _ first second => exact first.trans second

/-! ## Who sees a signal fired -/

theorem isFired_holder (has : (run steps).holders[i]? = some x) :
    (run steps).signals.isFired x = true ↔ FamilyFired steps i := by
  constructor
  · intro fired
    obtain ⟨k, by_k, hasK⟩ := (tracks_run steps).cause fired
    exact ⟨k, by_k, (tracks_run steps).family has hasK⟩
  · rintro ⟨k, by_k, family⟩
    obtain ⟨y, hasK, fired⟩ := (tracks_run steps).effect by_k
    obtain rfl : x = y := Option.some.inj (has.symm.trans (family.same_signal.trans hasK))
    exact fired

theorem not_familyFired (has : (run steps).holders[i]? = none) : ¬ FamilyFired steps i := by
  rintro ⟨k, by_k, family⟩
  obtain ⟨y, hasK, -⟩ := (tracks_run steps).effect by_k
  exact absurd (has.symm.trans (family.same_signal.trans hasK)) (Option.some_ne_none y).symm

theorem isFired_run : (run steps).isFired i = true ↔ FamilyFired steps i := by
  cases has : (run steps).holders[i]? with
  | none => simp [isFired, has, not_familyFired has]
  | some x => simp [isFired, has, isFired_holder has]

/-- A wait that begins is over at once exactly if the signal has fired. -/
theorem resolves_eq_isFired (h : Holders) (i : Nat) : h.resolves i = h.isFired i := by
  cases has : h.holders[i]? with
  | none => simp [resolves, isFired, has]
  | some x =>
    have ended : (h.signals.wait? x).isNone = h.signals.isFired x := by
      rw [Bool.eq_iff_iff, Option.isNone_iff_eq_none, Signals.wait?_eq_none]
    simp [resolves, isFired, has, ended]

theorem isFired_fire_other (other : ¬ Family steps j k) :
    (run (steps ++ [.fire k])).isFired j = (run steps).isFired j := by
  rw [run_concat]
  cases hasK : (run steps).holders[k]? with
  | none => simp [step, hasK]
  | some y =>
    cases hasJ : (run steps).holders[j]? with
    | none => simp [step, isFired, hasK, hasJ]
    | some x =>
      have differ : x ≠ y := by
        rintro rfl
        exact other ((tracks_run steps).family hasJ hasK)
      simp [step, isFired, hasK, hasJ, differ]

theorem check_eq (g : Guards) (s : Signals) (closed : Error) : g.check s closed =
    if s.isFired g.connection then .error .connectionClosed
    else if s.isFired g.own then .error closed else .ok () := by
  simp only [Guards.check, Guards.stops, firstFired]
  cases s.isFired g.connection <;> cases s.isFired g.own <;> rfl

/-- A holder sees its signal fired, and a wait of it is over at once, exactly if one of its family
has fired. That stays so, and no other family sees anything of it. A wait that goes on when it
begins is over, whatever is done meanwhile, exactly if one of the family has fired by then. The
guards of a handle tell the connection's family first, then its own. -/
theorem families_fire_together (steps : List HolderStep) :
    (∀ i, (run steps).isFired i = true ↔ FamilyFired steps i) ∧
    (∀ i, (run steps).resolves i = true ↔ FamilyFired steps i) ∧
    (∀ more i, (run steps).isFired i = true → (run (steps ++ more)).isFired i = true) ∧
    (∀ j k, ¬ Family steps j k →
      (run (steps ++ [.fire k])).isFired j = (run steps).isFired j) ∧
    (∀ more i x w, (run steps).holders[i]? = some x → (run steps).signals.wait? x = some w →
      ((run (steps ++ more)).signals.waitOn? x w = none ↔ FamilyFired (steps ++ more) i)) ∧
    ∀ i j own connection closed, (run steps).holders[i]? = some own →
      (run steps).holders[j]? = some connection →
      (FamilyFired steps j →
        (Guards.mk own connection).check (run steps).signals closed = .error .connectionClosed) ∧
      (¬ FamilyFired steps j → FamilyFired steps i →
        (Guards.mk own connection).check (run steps).signals closed = .error closed) ∧
      (¬ FamilyFired steps j → ¬ FamilyFired steps i →
        (Guards.mk own connection).check (run steps).signals closed = .ok ()) := by
  refine ⟨fun _ => isFired_run, ?resolves, ?lasting, fun _ _ => isFired_fire_other, ?pending,
    ?guards⟩
  case resolves =>
    intro i
    rw [resolves_eq_isFired, isFired_run]
  case lasting =>
    intro more i fired
    exact isFired_run.2 ((isFired_run.1 fired).append more)
  case pending =>
    intro more i x w has begun
    rw [Signals.waitOn?_eq_none begun, isFired_holder (getElem?_run_append has more)]
  case guards =>
    intro i j own connection closed hasI hasJ
    rw [check_eq, ← isFired_holder hasI, ← isFired_holder hasJ]
    refine ⟨?first, ?second, ?neither⟩
    case first => intro cut; simp [cut]
    case second => intro calm ended; simp [calm, ended]
    case neither => intro calm going; simp [calm, going]

/-- Holders `0`, `1` and `3` are of one family, which holder `3` fires; holder `2` is alone. -/
def twoFamilies : List HolderStep := [.create, .share 0, .create, .share 1, .fire 3]

theorem two_families_apart :
    FamilyFired twoFamilies 0 ∧ ¬ FamilyFired twoFamilies 2 ∧
    (run twoFamilies).resolves 1 = true ∧
    (run (twoFamilies ++ [.share 2, .create])).isFired 0 = true ∧
    (run (twoFamilies ++ [.fire 0])).isFired 2 = false ∧
    (run (twoFamilies ++ [.fire 2])).signals.waitOn? ⟨1⟩ ⟨0⟩ = none ∧
    (Guards.mk ⟨1⟩ ⟨0⟩).check (run twoFamilies).signals .lobClosed = .error .connectionClosed ∧
    (Guards.mk ⟨0⟩ ⟨1⟩).check (run twoFamilies).signals .lobClosed = .error .lobClosed ∧
    (Guards.mk ⟨1⟩ ⟨1⟩).check (run twoFamilies).signals .lobClosed = .ok () := by
  obtain ⟨sees, waits, lasting, other, pending, guards⟩ := families_fire_together twoFamilies
  have cut : FamilyFired twoFamilies 0 := (sees 0).1 rfl
  have calm : ¬ FamilyFired twoFamilies 2 := fun fired => absurd ((sees 2).2 fired) (by decide)
  have apart : ¬ Family twoFamilies 2 0 := fun family =>
    calm (cut.elim fun k fired => ⟨k, fired.1, family.trans _ _ _ fired.2⟩)
  refine ⟨cut, calm, ?waits, lasting _ 0 rfl, other 2 0 apart, ?pending, ?first, ?second, ?neither⟩
  case waits => exact (waits 1).2 ((sees 1).1 rfl)
  case pending =>
    have seen : (run (twoFamilies ++ [.fire 2])).isFired 2 = true := rfl
    exact (pending [.fire 2] 2 _ _ rfl rfl).2
      (((families_fire_together (twoFamilies ++ [.fire 2])).1 2).1 seen)
  case first => exact (guards 2 0 _ _ _ rfl rfl).1 cut
  case second => exact (guards 0 2 _ _ _ rfl rfl).2.1 calm cut
  case neither => exact (guards 2 2 _ _ _ rfl rfl).2.2 calm calm

end SqlBinder.Holders

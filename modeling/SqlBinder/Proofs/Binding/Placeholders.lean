import SqlBinder.Binding.Resolve
import SqlBinder.Proofs.Fallible

/-!
Placeholder names. The distinct names of a statement are those of its occurrences, each at its first
one, and binds that resolve have one descriptor for each of them.

The invariant of the reading is that the names are those of the occurrences, each once. Every lexeme
keeps it, and an induction over the text carries it to the scan. Resolving goes through the names in
their order, whether binds are given by position or by name.
-/
namespace SqlBinder

theorem eraseDups_concat {α : Type} [DecidableEq α] (l : List α) (a : α) :
    (l ++ [a]).eraseDups = if a ∈ l then l.eraseDups else l.eraseDups ++ [a] := by
  by_cases ha : a ∈ l <;> simp [List.eraseDups_append, List.eraseDups_cons, List.removeAll, ha]

namespace Statement

/-- The distinct names are the names of the occurrences, each once. -/
def Reading.Distinct (r : Reading) : Prop :=
  r.info.bindNames = (r.info.occurrences.map (·.name)).eraseDups

theorem Reading.Distinct.setKeyword {r : Reading} (h : r.Distinct) (letters : List Char) :
    (r.setKeyword letters).Distinct :=
  h

theorem Reading.Distinct.addWord {r : Reading} (h : r.Distinct) (letters : List Char) :
    (r.addWord letters).Distinct := by
  unfold Reading.addWord
  split
  · split <;> exact h
  · split <;> exact h

theorem Reading.Distinct.addPlaceholder {r : Reading} (h : r.Distinct) (name : String) :
    (r.addPlaceholder name).Distinct := by
  have known : r.info.bindNames.contains name = true ↔
      name ∈ r.info.occurrences.map (·.name) := by
    rw [show r.info.bindNames = _ from h, List.contains_iff_mem, List.mem_eraseDups]
  unfold Reading.addPlaceholder
  by_cases seen : name ∈ r.info.occurrences.map (·.name)
  · by_cases block : r.info.isPlsql
    · simpa only [known.2 seen, block, Bool.and_self, if_true] using h
    · simp only [Distinct, known.2 seen, block, Bool.false_and, Bool.false_eq_true, if_false,
        if_true, List.map_append, List.map_singleton, eraseDups_concat, seen]
      exact h
  · have unknown : r.info.bindNames.contains name = false :=
      Bool.eq_false_iff.2 fun k => seen (known.1 k)
    simp only [Distinct, unknown, Bool.and_false, Bool.false_eq_true, if_false, List.map_append,
      List.map_singleton, eraseDups_concat, seen]
    rw [show r.info.bindNames = _ from h]

theorem Reading.Distinct.add {r : Reading} (h : r.Distinct) (lexeme : Lexeme) :
    (r.add lexeme).Distinct := by
  unfold Reading.add
  split
  · exact h
  · cases lexeme with
    | word letters =>
      dsimp only
      split
      · exact h.addWord letters
      · exact h.setKeyword letters
    | lastWord letters =>
      dsimp only
      split
      · exact h
      · exact h.setKeyword letters
    | placeholder name => exact h.addPlaceholder name

/-- Names of a scan are those of its occurrences, each at its first one. -/
theorem bindNames_scan (sql : String) :
    (scan sql).bindNames = ((scan sql).occurrences.map (·.name)).eraseDups := by
  have kept : ∀ (lexemes : List Lexeme) (r : Reading), r.Distinct →
      (lexemes.foldl Reading.add r).Distinct := by
    intro lexemes
    induction lexemes with
    | nil => exact fun _ h => h
    | cons lexeme rest ih => exact fun r h => ih _ (h.add lexeme)
  exact kept _ _ rfl

end Statement

namespace Binding

variable {info : Statement.Info} {o : BindOptions}

theorem resolveOne_placeholder {placeholder : String} {position : Nat} {slot : Slot}
    {param : Param} {d : Descriptor}
    (h : resolveOne info placeholder position slot param o = .ok d) :
    d.placeholder = placeholder := by
  simp only [resolveOne, Except.bind_ok] at h
  obtain ⟨spec, -, u, -, t, -, limit, -, size, -, made⟩ := h
  obtain rfl := Except.ok.inj made
  rfl

theorem resolvePositional_placeholders {position : Nat} {params : List (String × Param)}
    {ds : List Descriptor} (h : resolvePositional info o position params = .ok ds) :
    ds.map (·.placeholder) = params.map (·.1) := by
  induction params generalizing position ds with
  | nil =>
    obtain rfl := Except.ok.inj h
    rfl
  | cons p rest ih =>
    simp only [resolvePositional, Except.bind_ok] at h
    obtain ⟨u, -, d, one, others, behind, made⟩ := h
    obtain rfl := Except.ok.inj made
    rw [List.map_cons, List.map_cons, resolveOne_placeholder one, ih behind]

theorem resolveNamed_placeholders {params : List (Nat × Param)} {place : Nat}
    {names : List String} {ds : List Descriptor}
    (h : resolveNamed info o params place names = .ok ds) : ds.map (·.placeholder) = names := by
  induction names generalizing place ds with
  | nil =>
    obtain rfl := Except.ok.inj h
    rfl
  | cons name rest ih =>
    rw [resolveNamed] at h
    cases last : lastAt place params with
    | none => simp [last] at h
    | some param =>
      simp only [last, Except.bind_ok] at h
      obtain ⟨d, one, others, behind, made⟩ := h
      obtain rfl := Except.ok.inj made
      rw [List.map_cons, resolveOne_placeholder one, ih behind]

/-- Binds that resolve have one descriptor for each name, in order. -/
theorem resolve_placeholders {binds : Binds} {ds : List Descriptor}
    (h : resolve info binds o = .ok ds) : ds.map (·.placeholder) = info.bindNames := by
  cases binds with
  | none =>
    cases names : info.bindNames with
    | nil =>
      simp only [resolve, names] at h
      obtain rfl := Except.ok.inj h
      rfl
    | cons first rest => simp [resolve, names] at h
  | positional params =>
    by_cases count : params.length = info.bindNames.length
    · simp only [resolve, count, ne_eq, not_true, if_false] at h
      rw [resolvePositional_placeholders h, List.map_fst_zip (by omega)]
    · simp [resolve, count] at h
  | named params =>
    simp only [resolve, Except.bind_ok] at h
    obtain ⟨places, -, resolved⟩ := h
    exact resolveNamed_placeholders resolved

end Binding

end SqlBinder

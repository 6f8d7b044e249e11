import SqlBinder.Proofs.Statement.Clause
import Mathlib.Data.List.Nodup

/-!
What a scan records fits together, for every text. Main statement: the distinct names are those of
the occurrences, each at its first one; only a data change has a returning clause; marked
occurrences stand behind all others, and only with such a clause; and the look-ups by name say what
the two lists say.
-/
namespace SqlBinder

theorem nodup_eraseDups {α : Type} [DecidableEq α] (l : List α) : l.eraseDups.Nodup := by
  induction l using List.reverseRecOn with
  | nil => exact List.nodup_nil
  | append_singleton l a ih =>
    rw [eraseDups_concat]
    split
    case isTrue => exact ih
    case isFalse new =>
      rw [← List.concat_eq_append]
      exact .concat (List.mem_eraseDups.not.2 new) ih

namespace Statement

/-! Marks. -/

/-- Marks are missing up to some occurrence and set from there on, and none is set without a
clause. -/
def Info.Marked (info : Info) : Prop :=
  ∃ unmarked marked, info.occurrences.map (·.isReturn) =
      List.replicate unmarked false ++ List.replicate marked true ∧
    (marked ≠ 0 → info.isReturning = true)

/-- What is known after any part of a text. -/
structure Reading.Ordered (r : Reading) : Prop where
  /-- A clause begins with its first word. -/
  clause : r.info.isReturning = true → r.hasReturning = true
  /-- That word counts in a data change, whose own first word has been read. -/
  change : r.hasReturning = true → r.hasKeyword = true ∧ r.info.category = .dml
  marked : r.info.Marked

namespace Reading.Ordered

variable {r : Reading}

theorem empty : Reading.empty.Ordered where
  clause := nofun
  change := nofun
  marked := ⟨0, 0, rfl, nofun⟩

/-- The first word comes before any clause. -/
theorem setKeyword (h : r.Ordered) (first : r.hasKeyword = false) (letters : List Char) :
    (r.setKeyword letters).Ordered := by
  have no : r.hasReturning ≠ true := fun returning => by
    rw [(h.change returning).1] at first
    cases first
  exact {
    clause := fun returning => h.clause returning
    change := fun returning => absurd returning no
    marked := h.marked }

theorem addWord (h : r.Ordered) (keyword : r.hasKeyword = true) (letters : List Char) :
    (r.addWord letters).Ordered := by
  unfold Reading.addWord
  split
  case isTrue change =>
    have dml : r.info.category = .dml := by
      simpa [Info.isDml] using (Bool.and_eq_true_iff.1 change).1
    split
    · exact ⟨fun _ => rfl, fun _ => ⟨keyword, dml⟩, h.marked⟩
    · exact h
  case isFalse =>
    split
    case isTrue into =>
      obtain ⟨unmarked, marked, marks, -⟩ := h.marked
      exact {
        clause := fun _ => (Bool.and_eq_true_iff.1 into).1
        change := h.change
        marked := ⟨unmarked, marked, marks, fun _ => rfl⟩ }
    case isFalse => exact h

/-- An occurrence is marked from the clause on. -/
theorem addPlaceholder (h : r.Ordered) (name : String) : (r.addPlaceholder name).Ordered := by
  unfold Reading.addPlaceholder
  dsimp only
  split
  case isTrue => exact h
  case isFalse =>
    refine ⟨h.clause, h.change, ?_⟩
    obtain ⟨unmarked, marked, marks, only⟩ := h.marked
    cases returning : r.info.isReturning with
    | true =>
      refine ⟨unmarked, marked + 1, ?_, fun _ => rfl⟩
      rw [List.map_append, marks, List.append_assoc, List.replicate_succ']
      rfl
    | false =>
      have none : marked = 0 := by
        by_contra some
        rw [only some] at returning
        cases returning
      subst none
      refine ⟨unmarked + 1, 0, ?_, fun some => absurd rfl some⟩
      rw [List.map_append, marks, List.replicate_succ']
      simp

theorem add (h : r.Ordered) (lexeme : Lexeme) : (r.add lexeme).Ordered := by
  unfold Reading.add
  split
  case isTrue => exact h
  case isFalse =>
    cases lexeme with
    | placeholder name => exact h.addPlaceholder name
    | word letters =>
      cases keyword : r.hasKeyword with
      | true => simpa using h.addWord keyword letters
      | false => simpa using h.setKeyword keyword letters
    | lastWord letters =>
      cases keyword : r.hasKeyword with
      | true => simpa using h
      | false => simpa using h.setKeyword keyword letters

theorem of (ls : List Lexeme) : (Reading.of ls).Ordered := by
  induction ls using List.reverseRecOn with
  | nil => exact .empty
  | append_singleton ls l ih =>
    rw [Reading.of_concat]
    exact ih.add l

end Reading.Ordered

/-! Look-ups. -/

namespace Info

variable {info : Info} {name : String}

theorem isReturnBind_iff : info.isReturnBind name = true ↔
    name ∈ info.occurrences.map (·.name) ∧
      ∀ o ∈ info.occurrences, o.name = name → o.isReturn = true := by
  have found : (info.occurrences.filter (·.name == name)).isEmpty = false ↔
      name ∈ info.occurrences.map (·.name) := by
    simp [List.isEmpty_eq_false_iff, List.filter_eq_nil_iff]
  simp only [isReturnBind, Bool.and_eq_true, Bool.not_eq_true', found, List.all_eq_true,
    List.mem_filter, beq_iff_eq, and_imp]

theorem positionOf_eq_some {i : Nat} : info.positionOf name = some i ↔
    info.bindNames[i]? = some name ∧ ∀ j < i, info.bindNames[j]? ≠ some name := by
  simp only [positionOf, List.findIdx?_eq_some_iff_getElem, beq_iff_eq]
  constructor
  · rintro ⟨within, here, before⟩
    refine ⟨List.getElem?_eq_some_iff.2 ⟨within, here⟩, fun j earlier there => ?_⟩
    obtain ⟨_, there⟩ := List.getElem?_eq_some_iff.1 there
    exact before j earlier there
  · rintro ⟨here, before⟩
    obtain ⟨within, here⟩ := List.getElem?_eq_some_iff.1 here
    refine ⟨within, here, fun j earlier there => before j earlier ?_⟩
    exact List.getElem?_eq_some_iff.2 ⟨by omega, there⟩

theorem positionOf_eq_none : info.positionOf name = none ↔ name ∉ info.bindNames := by
  simp only [positionOf, List.findIdx?_eq_none_iff, beq_eq_false_iff_ne]
  exact ⟨fun others member => others name member rfl, fun no n member same => no (same ▸ member)⟩

/-- The parts of what is known of a statement agree with each other. -/
structure Coherent (info : Info) : Prop where
  nodup : info.bindNames.Nodup
  /-- The names of the occurrences, each where it stands first. -/
  names : info.bindNames = (info.occurrences.map (·.name)).eraseDups
  /-- Only a data change returns values of its rows. -/
  change : info.isReturning = true → info.category = .dml
  marked : info.Marked
  returns : ∀ name, info.isReturnBind name = true ↔ name ∈ info.bindNames ∧
    ∀ o ∈ info.occurrences, o.name = name → o.isReturn = true
  /-- The place of a name is the first at which it stands among the distinct names. -/
  place : ∀ name i, info.positionOf name = some i ↔
    info.bindNames[i]? = some name ∧ ∀ j < i, info.bindNames[j]? ≠ some name
  noPlace : ∀ name, info.positionOf name = none ↔ name ∉ info.bindNames

end Info

/-- What a text says is coherent, be it valid or not. -/
theorem scan_coherent (sql : String) : (scan sql).Coherent := by
  have ordered : (Reading.of (lexemes sql.toList)).Ordered := .of _
  have names := bindNames_scan sql
  exact {
    nodup := names ▸ nodup_eraseDups _
    names := names
    change := fun returning => (ordered.change (ordered.clause returning)).2
    marked := ordered.marked
    returns := fun name => by rw [Info.isReturnBind_iff, names, List.mem_eraseDups]
    place := fun _ _ => Info.positionOf_eq_some
    noPlace := fun _ => Info.positionOf_eq_none }

/-- A name on both sides of a clause is no result, and one in front of the first word counts. -/
example : (scan ":b update t set a = :a returning a, b into :a, :c").bindNames = ["B", "A", "C"] ∧
    (scan ":b update t set a = :a returning a, b into :a, :c").occurrences.map (·.isReturn) =
      [false, false, true, true] ∧
    (scan ":b update t set a = :a returning a, b into :a, :c").isReturnBind "A" = false := by
  decide +kernel

end Statement

end SqlBinder

import SqlBinder.Proofs.Statement.Regions
import Mathlib.Data.List.Induction

/-!
`RETURNING … INTO` among the lexemes of a data change. Main statement: the reading marks the
statement, and each placeholder, exactly when a word behind the first one spells `RETURNING` or
`RETURN` and a later one spells `INTO`.

The invariant is `Follows`: what is known after part of the lexemes is what the words among them
have said. One more lexeme keeps it, with one case for each sort. The mark of a placeholder is what
is known in front of it, so it is read off `Follows` at that place.
-/
namespace SqlBinder.Statement

variable {α : Type}

/-- An element of a sort stands behind a front that is as told. -/
def Behind (first : List α → Prop) (sort : α → Prop) (xs : List α) : Prop :=
  ∃ front x back, xs = front ++ x :: back ∧ first front ∧ sort x

theorem not_behind_nil {first : List α → Prop} {sort : α → Prop} : ¬ Behind first sort [] := by
  rintro ⟨front, x, back, cut, -⟩
  exact List.append_ne_nil_of_right_ne_nil front (List.cons_ne_nil x back) cut.symm

theorem behind_concat {first : List α → Prop} {sort : α → Prop} {xs : List α} {x : α} :
    Behind first sort (xs ++ [x]) ↔ Behind first sort xs ∨ (first xs ∧ sort x) := by
  constructor
  · rintro ⟨front, y, back, cut, before, sorted⟩
    rcases List.eq_nil_or_concat back with rfl | ⟨back, z, rfl⟩
    · obtain ⟨rfl, same⟩ := List.append_inj' cut rfl
      obtain rfl := List.singleton_inj.mp same
      exact .inr ⟨before, sorted⟩
    · rw [List.concat_eq_append, ← List.cons_append, ← List.append_assoc] at cut
      exact .inl ⟨front, y, back, (List.append_inj' cut rfl).1, before, sorted⟩
  · rintro (⟨front, y, back, rfl, before, sorted⟩ | ⟨before, sorted⟩)
    · exact ⟨front, y, back ++ [x], by simp, before, sorted⟩
    · exact ⟨xs, x, [], rfl, before, sorted⟩

theorem behind_append {first : List α → Prop} {sort : α → Prop} {xs ys : List α}
    (none : ∀ y ∈ ys, ¬ sort y) : Behind first sort (xs ++ ys) ↔ Behind first sort xs := by
  induction ys using List.reverseRecOn with
  | nil => rw [List.append_nil]
  | append_singleton ys y ih =>
    rw [← List.append_assoc, behind_concat,
      ih fun z found => none z (List.mem_append_left _ found)]
    exact or_iff_left fun last => none y (by simp) last.2

/-- How elements of a text tell that they are words, and which ones. -/
structure Wording (α : Type) where
  isWord : α → Bool
  spells : String → α → Bool

namespace Wording

variable (w : Wording α)

/-- There is a word, the first of which tells the kind of the statement. -/
def HasKeyword (xs : List α) : Prop := ∃ x ∈ xs, w.isWord x = true

/-- Behind a word, `RETURNING` or `RETURN`. -/
def HasReturning : List α → Prop :=
  Behind w.HasKeyword fun x => w.spells "RETURNING" x = true ∨ w.spells "RETURN" x = true

/-- Behind a word, `RETURNING` or `RETURN`, and behind that `INTO`. -/
def HasClause : List α → Prop := Behind w.HasReturning fun x => w.spells "INTO" x = true

variable {w} {xs : List α} {x : α}

theorem hasKeyword_concat :
    w.HasKeyword (xs ++ [x]) ↔ w.HasKeyword xs ∨ w.isWord x = true := by
  simp [HasKeyword, List.mem_append, or_and_right, exists_or]

theorem hasReturning_concat : w.HasReturning (xs ++ [x]) ↔ w.HasReturning xs ∨
    (w.HasKeyword xs ∧ (w.spells "RETURNING" x = true ∨ w.spells "RETURN" x = true)) :=
  behind_concat

theorem hasClause_concat : w.HasClause (xs ++ [x]) ↔
    w.HasClause xs ∨ (w.HasReturning xs ∧ w.spells "INTO" x = true) :=
  behind_concat

theorem HasReturning.hasKeyword (h : w.HasReturning xs) : w.HasKeyword xs := by
  obtain ⟨front, x, back, rfl, ⟨y, found, word⟩, -⟩ := h
  exact ⟨y, List.mem_append_left _ found, word⟩

theorem HasClause.hasReturning (h : w.HasClause xs) : w.HasReturning xs := by
  obtain ⟨front, x, back, rfl, ⟨before, y, middle, rfl, word, sorted⟩, -⟩ := h
  exact ⟨before, y, middle ++ x :: back, by simp, word, sorted⟩

theorem HasClause.append (h : w.HasClause xs) (ys : List α) : w.HasClause (xs ++ ys) := by
  obtain ⟨front, x, back, rfl, before, sorted⟩ := h
  exact ⟨front, x, back ++ ys, by simp, before, sorted⟩

end Wording

/-! ## Lexemes -/

namespace Lexeme

/-- The lexeme is this word, and more text follows it. -/
def spells (word : String) : Lexeme → Bool
  | .word letters => Reading.spells letters word
  | .lastWord _ | .placeholder _ => false

/-- The recorded name of a placeholder. -/
def name? : Lexeme → Option String
  | .placeholder name => some name
  | .word _ | .lastWord _ => none

/-- A word that ends the text is a word, but is not compared with any. -/
def wording : Wording Lexeme := ⟨fun l => !l.isPlaceholder, spells⟩

end Lexeme

namespace Reading

/-- What is known after these lexemes. -/
def of (ls : List Lexeme) : Reading := ls.foldl add empty

theorem of_concat (ls : List Lexeme) (l : Lexeme) : of (ls ++ [l]) = (of ls).add l := by
  simp [of]

variable {r : Reading} {ls : List Lexeme} {l : Lexeme} {letters : List Char}

/-- A word of a data change behind its first one. -/
theorem addWord_of_dml (letters : List Char) (dml : r.info.isDml = true) :
    (r.addWord letters).hasReturning =
        (r.hasReturning || (spells letters "RETURNING" || spells letters "RETURN")) ∧
      (r.addWord letters).info.isReturning =
        (r.info.isReturning || (r.hasReturning && spells letters "INTO")) := by
  unfold addWord
  cases returning : r.hasReturning with
  | false =>
    rw [dml]
    cases word : spells letters "RETURNING" || spells letters "RETURN" <;> simp [returning]
  | true =>
    cases word : spells letters "INTO" <;> simp [returning]

theorem addWord_keeps (letters : List Char) :
    (r.addWord letters).hasKeyword = r.hasKeyword ∧
      (r.addWord letters).info.category = r.info.category := by
  unfold addWord
  split
  · split <;> exact ⟨rfl, rfl⟩
  · split <;> exact ⟨rfl, rfl⟩

theorem addPlaceholder_keeps (name : String) :
    (r.addPlaceholder name).hasKeyword = r.hasKeyword ∧
      (r.addPlaceholder name).hasReturning = r.hasReturning ∧
      (r.addPlaceholder name).info.category = r.info.category ∧
      (r.addPlaceholder name).info.isReturning = r.info.isReturning := by
  unfold addPlaceholder
  dsimp only
  split <;> exact ⟨rfl, rfl, rfl, rfl⟩

/-- Outside blocks every placeholder is recorded, with the mark of its place. -/
theorem addPlaceholder_occurrences (name : String) (h : r.info.isPlsql = false) :
    (r.addPlaceholder name).info.occurrences =
      r.info.occurrences ++ [⟨name, r.info.isReturning⟩] := by
  simp [addPlaceholder, h]

/-- The first word decides the category for good. -/
theorem add_keeps (keyword : r.hasKeyword = true) :
    (r.add l).hasKeyword = true ∧ (r.add l).info.category = r.info.category := by
  unfold add
  split
  · exact ⟨keyword, rfl⟩
  · cases l with
    | word letters => simp [keyword, addWord_keeps]
    | lastWord letters => simp [keyword]
    | placeholder name =>
      obtain ⟨kept, -, category, -⟩ := addPlaceholder_keeps (r := r) name
      exact ⟨kept.trans keyword, category⟩

/-- What is known of a data change after part of its lexemes. -/
structure Follows (r : Reading) (ls : List Lexeme) : Prop where
  keyword : r.hasKeyword = true ↔ Lexeme.wording.HasKeyword ls
  returning : r.hasReturning = true ↔ Lexeme.wording.HasReturning ls
  clause : r.info.isReturning = true ↔ Lexeme.wording.HasClause ls
  names : r.info.occurrences.map (·.name) = ls.filterMap Lexeme.name?
  fresh : r.hasKeyword = false → r.info.category = .other

namespace Follows

theorem nil : empty.Follows [] where
  keyword := by simp [empty, Wording.HasKeyword]
  returning := by simp [empty, Wording.HasReturning, not_behind_nil]
  clause := by simp [empty, Wording.HasClause, not_behind_nil]
  names := rfl
  fresh _ := rfl

/-- A word of a data change behind its first one. -/
theorem addWord (h : r.Follows ls) (keyword : r.hasKeyword = true) (dml : r.info.isDml = true) :
    (r.addWord letters).Follows (ls ++ [.word letters]) := by
  obtain ⟨returning, clause⟩ := addWord_of_dml letters dml
  obtain ⟨kept, category⟩ := addWord_keeps (r := r) letters
  constructor
  · rw [Wording.hasKeyword_concat, kept, h.keyword]
    simp [h.keyword.mp keyword]
  · rw [Wording.hasReturning_concat, returning, Bool.or_eq_true, Bool.or_eq_true, h.returning,
      and_iff_right (h.keyword.mp keyword)]
    rfl
  · rw [Wording.hasClause_concat, clause, Bool.or_eq_true, Bool.and_eq_true, h.clause, h.returning]
    rfl
  · rw [occurrences_addWord, h.names]
    simp [Lexeme.name?]
  · intro fresh
    rw [kept, keyword] at fresh
    cases fresh

/-- The first word, which may end the text. -/
theorem setKeyword (h : r.Follows ls) (keyword : r.hasKeyword = false)
    (word : l.isPlaceholder = false) : (r.setKeyword letters).Follows (ls ++ [l]) := by
  have none : ¬ Lexeme.wording.HasKeyword ls := by simp [← h.keyword, keyword]
  have noReturning : ¬ Lexeme.wording.HasReturning ls := fun found => none found.hasKeyword
  have noClause : ¬ Lexeme.wording.HasClause ls := fun found => noReturning found.hasReturning
  constructor
  · rw [Wording.hasKeyword_concat]
    simp [Reading.setKeyword, Lexeme.wording, word]
  · rw [Wording.hasReturning_concat]
    simp [none, noReturning, Reading.setKeyword, h.returning]
  · rw [Wording.hasClause_concat]
    simp [noReturning, noClause, Reading.setKeyword, h.clause]
  · rw [occurrences_setKeyword, h.names]
    cases l with
    | placeholder name => cases word
    | word letters => simp [Lexeme.name?]
    | lastWord letters => simp [Lexeme.name?]
  · intro fresh
    cases fresh

/-- A last word behind the first one does nothing. -/
theorem lastWord (h : r.Follows ls) (keyword : r.hasKeyword = true) :
    r.Follows (ls ++ [.lastWord letters]) := by
  constructor
  · rw [Wording.hasKeyword_concat, h.keyword]
    simp [h.keyword.mp keyword]
  · rw [Wording.hasReturning_concat, h.returning]
    simp [Lexeme.wording, Lexeme.spells]
  · rw [Wording.hasClause_concat, h.clause]
    simp [Lexeme.wording, Lexeme.spells]
  · rw [h.names]
    simp [Lexeme.name?]
  · exact h.fresh

theorem addPlaceholder (h : r.Follows ls) (name : String) (sql : r.info.isPlsql = false) :
    (r.addPlaceholder name).Follows (ls ++ [.placeholder name]) := by
  obtain ⟨keyword, returning, category, clause⟩ := addPlaceholder_keeps (r := r) name
  constructor
  · rw [Wording.hasKeyword_concat, keyword, h.keyword]
    simp [Lexeme.wording, Lexeme.isPlaceholder]
  · rw [Wording.hasReturning_concat, returning, h.returning]
    simp [Lexeme.wording, Lexeme.spells]
  · rw [Wording.hasClause_concat, clause, h.clause]
    simp [Lexeme.wording, Lexeme.spells]
  · rw [addPlaceholder_occurrences name sql, List.map_append, h.names]
    simp [Lexeme.name?]
  · rw [keyword, category]
    exact h.fresh

/-- One more lexeme of a data change. -/
theorem add (h : r.Follows ls)
    (dml : (r.add l).hasKeyword = true → (r.add l).info.isDml = true) :
    (r.add l).Follows (ls ++ [l]) := by
  cases keyword : r.hasKeyword with
  | true =>
    obtain ⟨kept, category⟩ := add_keeps (l := l) keyword
    have changes : r.info.category = .dml := by
      have final := dml kept
      rwa [Info.isDml, category, beq_iff_eq] at final
    have step : r.info.isDdl = false := by simp [Info.isDdl, changes]
    cases l with
    | word letters =>
      have eq : r.add (.word letters) = r.addWord letters := by simp [Reading.add, step, keyword]
      rw [eq]
      exact h.addWord keyword (by simp [Info.isDml, changes])
    | lastWord letters =>
      have eq : r.add (.lastWord letters) = r := by simp [Reading.add, step, keyword]
      rw [eq]
      exact h.lastWord keyword
    | placeholder name =>
      have eq : r.add (.placeholder name) = r.addPlaceholder name := by simp [Reading.add, step]
      rw [eq]
      exact h.addPlaceholder name (by simp [Info.isPlsql, changes])
  | false =>
    have other : r.info.category = .other := h.fresh keyword
    have step : r.info.isDdl = false := by simp [Info.isDdl, other]
    cases l with
    | word letters =>
      have eq : r.add (.word letters) = r.setKeyword letters := by
        simp [Reading.add, step, keyword]
      rw [eq]
      exact h.setKeyword keyword rfl
    | lastWord letters =>
      have eq : r.add (.lastWord letters) = r.setKeyword letters := by
        simp [Reading.add, step, keyword]
      rw [eq]
      exact h.setKeyword keyword rfl
    | placeholder name =>
      have eq : r.add (.placeholder name) = r.addPlaceholder name := by simp [Reading.add, step]
      rw [eq]
      exact h.addPlaceholder name (by simp [Info.isPlsql, other])

end Follows

/-- Part of the lexemes, if the whole is a data change. -/
theorem follows_of (ls : List Lexeme)
    (dml : (of ls).hasKeyword = true → (of ls).info.isDml = true) : (of ls).Follows ls := by
  induction ls using List.reverseRecOn with
  | nil => exact .nil
  | append_singleton ls l ih =>
    rw [of_concat] at dml ⊢
    refine (ih fun keyword => ?_).add dml
    obtain ⟨kept, category⟩ := add_keeps (l := l) keyword
    rw [Info.isDml, ← category]
    exact dml kept

theorem foldl_add_keeps (ls : List Lexeme) {r : Reading} (keyword : r.hasKeyword = true) :
    (ls.foldl Reading.add r).info.category = r.info.category := by
  induction ls generalizing r with
  | nil => rfl
  | cons l ls ih =>
    obtain ⟨kept, category⟩ := add_keeps (l := l) keyword
    rw [List.foldl_cons, ih kept, category]

/-- In front of every place a data change is known to be one, or nothing is known of its kind. -/
theorem follows_front {front back : List Lexeme} (dml : (of (front ++ back)).info.isDml = true) :
    (of front).Follows front := by
  refine follows_of front fun keyword => ?_
  have kept := foldl_add_keeps back keyword
  rw [of, List.foldl_append] at dml
  rw [Info.isDml, ← kept]
  exact dml

theorem occurrences_before_add (r : Reading) (l : Lexeme) :
    r.info.occurrences <+: (r.add l).info.occurrences := by
  cases l with
  | placeholder name =>
    unfold add
    split
    · exact List.prefix_rfl
    · dsimp only [addPlaceholder]
      split
      · exact List.prefix_rfl
      · exact List.prefix_append _ _
  | _ => exact ⟨[], by rw [List.append_nil, occurrences_add r rfl]⟩

theorem occurrences_before_foldl (ls : List Lexeme) (r : Reading) :
    r.info.occurrences <+: (ls.foldl Reading.add r).info.occurrences := by
  induction ls generalizing r with
  | nil => exact List.prefix_rfl
  | cons l ls ih => exact (occurrences_before_add r l).trans (ih (r.add l))

/-- The placeholder at a place of a data change, with the mark of what stands in front of it. -/
theorem occurrence_at {front back : List Lexeme} {name : String}
    (dml : (of (front ++ .placeholder name :: back)).info.isDml = true) :
    (of (front ++ .placeholder name :: back)).info.occurrences[
      (front.filterMap Lexeme.name?).length]? = some ⟨name, (of front).info.isReturning⟩ := by
  have known := follows_front dml
  have count : (front.filterMap Lexeme.name?).length = (of front).info.occurrences.length := by
    rw [← known.names, List.length_map]
  obtain ⟨noDdl, noBlock⟩ : (of front).info.isDdl = false ∧ (of front).info.isPlsql = false := by
    cases keyword : (of front).hasKeyword with
    | true =>
      have kept := foldl_add_keeps (.placeholder name :: back) keyword
      rw [of, List.foldl_append, Info.isDml, beq_iff_eq] at dml
      have changes : (of front).info.category = .dml := kept.symm.trans dml
      simp [Info.isDdl, Info.isPlsql, changes]
    | false => simp [Info.isDdl, Info.isPlsql, known.fresh keyword]
  have here : ((of front).add (.placeholder name)).info.occurrences =
      (of front).info.occurrences ++ [⟨name, (of front).info.isReturning⟩] := by
    rw [add, noDdl, ← addPlaceholder_occurrences name noBlock]
    rfl
  obtain ⟨later, whole⟩ := occurrences_before_foldl back ((of front).add (.placeholder name))
  have read : of (front ++ .placeholder name :: back) =
      back.foldl add ((of front).add (.placeholder name)) := by
    rw [of, List.foldl_append]
    rfl
  rw [read, ← whole, here, count]
  simp

end Reading

/-- A data change is marked when the words of its text have the clause, and each placeholder when
those in front of it do. -/
theorem scan_clause {sql : String} (dml : (scan sql).isDml = true) :
    ((scan sql).isReturning = true ↔ Lexeme.wording.HasClause (lexemes sql.toList)) ∧
      (scan sql).occurrences.map (·.name) = (lexemes sql.toList).filterMap Lexeme.name? ∧
      ∀ front name back, lexemes sql.toList = front ++ .placeholder name :: back →
        ∃ isReturn, (scan sql).occurrences[(front.filterMap Lexeme.name?).length]? =
            some ⟨name, isReturn⟩ ∧
          (isReturn = true ↔ Lexeme.wording.HasClause front) := by
  have whole := Reading.follows_of (lexemes sql.toList) fun _ => dml
  refine ⟨whole.clause, whole.names, fun front name back cut => ?_⟩
  have dml' : (Reading.of (front ++ .placeholder name :: back)).info.isDml = true := cut ▸ dml
  refine ⟨_, ?_, (Reading.follows_front dml').clause⟩
  rw [scan, Info.ofLexemes, cut]
  exact Reading.occurrence_at dml'

end SqlBinder.Statement

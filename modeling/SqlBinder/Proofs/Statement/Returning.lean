import SqlBinder.Proofs.Statement.Clause
import SqlBinder.Proofs.Statement.Pieces
import SqlBinder.Proofs.Text.Case

/-!
`RETURNING … INTO` among the pieces of a text. Main statement: where no identifier holds a word of
the clause as a part, a data change and its placeholders are marked exactly behind the identifiers
`RETURNING` or `RETURN` and `INTO`. For the reader words are runs of letters, so identifiers with
underscores or digits may mark a statement that has no such clause, and a word that ends the text
is never compared.
-/
namespace SqlBinder.Statement

open Text

/-! ## Words of pieces -/

namespace Piece

/-- The piece is an identifier and this word, in any mix of ASCII cases. -/
def spells (word : String) : Piece → Bool
  | .identifier chars => Reading.spells chars word
  | .blank _ | .symbol _ | .region _ _ _ | .placeholder _ _ => false

/-- The piece is an identifier that a word can be read from. -/
def hasLetter : Piece → Bool
  | .identifier chars => chars.any isLetter
  | .blank _ | .symbol _ | .region _ _ _ | .placeholder _ _ => false

/-- The recorded name of a placeholder. -/
def name? : Piece → Option String
  | .placeholder _ label => some label.recorded
  | .blank _ | .symbol _ | .identifier _ | .region _ _ _ => none

/-- Words are the identifiers with a letter. -/
def wording : Wording Piece := ⟨hasLetter, spells⟩

end Piece

/-- The words that make the clause. -/
def clauseWords : List String := ["RETURNING", "RETURN", "INTO"]

/-- A run of letters that is a word of the clause is the whole identifier. -/
def Piece.HasWholeWords : Piece → Prop
  | .identifier chars => ∀ run ∈ letterRuns chars, ∀ word ∈ clauseWords,
      Reading.spells run word = true → run = chars
  | .blank _ | .symbol _ | .region _ _ _ | .placeholder _ _ => True

instance : (p : Piece) → Decidable p.HasWholeWords
  | .identifier chars =>
    inferInstanceAs (Decidable (∀ run ∈ letterRuns chars, ∀ word ∈ clauseWords,
      Reading.spells run word = true → run = chars))
  | .blank _ | .symbol _ | .region _ _ _ | .placeholder _ _ => inferInstanceAs (Decidable True)

/-! ## Identifiers -/

section Identifiers

variable {chars : List Char} {word : String} {last : Bool}

theorem isLetter_of_mem_clauseWords (known : word ∈ clauseWords) :
    ∀ c ∈ word.toList, isLetter c = true := by
  have all : clauseWords.all (fun word => word.toList.all isLetter) = true := by decide +kernel
  exact List.all_eq_true.mp (List.all_eq_true.mp all word known)

/-- A word of the clause has no other characters than letters. -/
theorem letterRuns_of_spells (known : word ∈ clauseWords)
    (h : Reading.spells chars word = true) : letterRuns chars = [chars] := by
  refine letterRuns_of_letters fun c found => ?_
  have same : chars.map Char.toUpper = word.toList := by simpa [Reading.spells] using h
  rw [← isLetter_toUpper]
  exact isLetter_of_mem_clauseWords known _ (same ▸ List.mem_map_of_mem found)

theorem mem_wordsOfRuns {runs : List (List Char)} {l : Lexeme} (h : l ∈ wordsOfRuns last runs) :
    ∃ run ∈ runs, l = .word run ∨ l = .lastWord run := by
  induction runs with
  | nil => cases h
  | cons run runs ih =>
    rcases List.mem_append.mp h with here | behind
    · refine ⟨run, List.mem_cons_self, ?_⟩
      split at here
      · cases here
      · split at here
        · exact .inr (List.mem_singleton.mp here)
        · exact .inl (List.mem_singleton.mp here)
    · obtain ⟨other, found, same⟩ := ih behind
      exact ⟨other, List.mem_cons_of_mem _ found, same⟩

theorem wordsOfRuns_eq_nil {runs : List (List Char)} :
    wordsOfRuns last runs = [] ↔ ∀ run ∈ runs, run = [] := by
  induction runs with
  | nil => simp [wordsOfRuns]
  | cons run runs ih =>
    rw [wordsOfRuns, List.append_eq_nil_iff, ih, List.forall_mem_cons]
    refine and_congr_left fun _ => ?_
    split
    · simp_all
    · split <;> simp_all

/-- An identifier without letters has no words, and any other one has. -/
theorem words_eq_nil : wordsOfRuns last (letterRuns chars) = [] ↔ chars.any isLetter = false := by
  rw [wordsOfRuns_eq_nil]
  induction chars with
  | nil => simp [letterRuns]
  | cons c chars ih =>
    cases letter : isLetter c with
    | true =>
      have nonempty : letterRuns chars ≠ [] := letterRuns_ne_nil
      obtain ⟨run, runs, split⟩ := List.exists_cons_of_ne_nil nonempty
      have head : letterRuns (c :: chars) = (c :: run) :: runs := by
        rw [letterRuns] at split ⊢
        rw [List.splitOnP_cons_eq_if_modifyHead, split, letter]
        rfl
      simp [head, letter]
    | false =>
      have head : letterRuns (c :: chars) = [] :: letterRuns chars :=
        letterRuns_append_cons (List.forall_mem_nil _) letter chars
      rw [head, List.forall_mem_cons, ih, List.any_cons, letter]
      simp

end Identifiers

/-! ## Lexemes of pieces -/

namespace Piece

variable {p : Piece} {word : String} {last : Bool}

theorem isWord_lexemes (last : Bool) :
    (∃ l ∈ p.lexemes last, Lexeme.wording.isWord l = true) ↔ wording.isWord p = true := by
  cases p with
  | identifier chars =>
    constructor
    · rintro ⟨l, found, -⟩
      by_contra none
      exact List.ne_nil_of_mem found (words_eq_nil.mpr (Bool.eq_false_iff.mpr none))
    · intro letter
      have nonempty : wordsOfRuns last (letterRuns chars) ≠ [] := fun none =>
        Bool.false_ne_true ((words_eq_nil.mp none).symm.trans letter)
      obtain ⟨l, found⟩ := List.exists_mem_of_ne_nil _ nonempty
      refine ⟨l, found, ?_⟩
      obtain ⟨run, -, rfl | rfl⟩ := mem_wordsOfRuns found <;> rfl
  | placeholder blanks label =>
    simp [lexemes, Lexeme.wording, Lexeme.isPlaceholder, wording, hasLetter]
  | _ => simp [lexemes, wording, hasLetter]

/-- A word of the clause is all that its identifier says. -/
theorem lexemes_of_spells (last : Bool) (nonempty : p.chars ≠ []) (known : word ∈ clauseWords)
    (h : p.spells word = true) :
    ∃ letters, p.lexemes last = [if last then .lastWord letters else .word letters] ∧
      ∀ other, Reading.spells letters other = p.spells other := by
  cases p with
  | identifier chars =>
    refine ⟨chars, ?_, fun _ => rfl⟩
    rw [lexemes, letterRuns_of_spells known h]
    have nonempty : chars ≠ [] := nonempty
    cases last <;> simp [wordsOfRuns, nonempty]
  | _ => cases h

/-- Other identifiers say no word of the clause. -/
theorem spells_lexemes (tidy : p.HasWholeWords) (known : word ∈ clauseWords)
    (h : p.spells word = false) {l : Lexeme} (found : l ∈ p.lexemes last) :
    l.spells word = false := by
  cases p with
  | identifier chars =>
    obtain ⟨run, runs, rfl | rfl⟩ := mem_wordsOfRuns found
    · refine Bool.eq_false_iff.mpr fun spelled => ?_
      obtain rfl := tidy run runs word known spelled
      exact Bool.false_ne_true (h.symm.trans spelled)
    · rfl
  | placeholder blanks label =>
    obtain rfl := List.mem_singleton.mp found
    rfl
  | _ => cases found

end Piece

/-- What pieces say in front of more text. -/
def said (ps : List Piece) : List Lexeme := ps.flatMap (Piece.lexemes false)

theorem said_cons (p : Piece) (ps : List Piece) : said (p :: ps) = p.lexemes false ++ said ps :=
  List.flatMap_cons

theorem said_append (front back : List Piece) : said (front ++ back) = said front ++ said back :=
  List.flatMap_append

theorem said_concat (ps : List Piece) (p : Piece) :
    said (ps ++ [p]) = said ps ++ p.lexemes false := by
  simp [said]

theorem hasKeyword_said (ps : List Piece) :
    Lexeme.wording.HasKeyword (said ps) ↔ Piece.wording.HasKeyword ps := by
  simp only [Wording.HasKeyword, said, List.mem_flatMap, ← Piece.isWord_lexemes false]
  constructor
  · rintro ⟨l, ⟨p, there, found⟩, word⟩
    exact ⟨p, there, l, found, word⟩
  · rintro ⟨p, there, l, found, word⟩
    exact ⟨l, ⟨p, there, found⟩, word⟩

section Behind

variable {first : List Lexeme → Prop} {first' : List Piece → Prop} {ps : List Piece}

/-- An identifier that is a word of the clause is found, whatever the others are. -/
theorem behind_said (words : List String) (known : ∀ word ∈ words, word ∈ clauseWords)
    (nonempty : ∀ p ∈ ps, p.chars ≠ [])
    (alike : ∀ front, front <+: ps → first' front → first (said front))
    (h : Behind first' (fun p => ∃ word ∈ words, p.spells word = true) ps) :
    Behind first (fun l => ∃ word ∈ words, l.spells word = true) (said ps) := by
  obtain ⟨front, p, back, rfl, before, word, listed, same⟩ := h
  obtain ⟨letters, alone, spelled⟩ := Piece.lexemes_of_spells false (nonempty p (by simp))
    (known word listed) same
  refine ⟨said front, .word letters, said back, ?_, alike front (List.prefix_append _ _) before,
    word, listed, (spelled word).trans same⟩
  rw [said_append, said_cons, alone]
  rfl

/-- Where words of the clause are whole identifiers, nothing else is found. -/
theorem behind_of_said (words : List String) (known : ∀ word ∈ words, word ∈ clauseWords)
    (nonempty : ∀ p ∈ ps, p.chars ≠ []) (tidy : ∀ p ∈ ps, p.HasWholeWords)
    (alike : ∀ front, front <+: ps → first (said front) → first' front)
    (h : Behind first (fun l => ∃ word ∈ words, l.spells word = true) (said ps)) :
    Behind first' (fun p => ∃ word ∈ words, p.spells word = true) ps := by
  induction ps using List.reverseRecOn with
  | nil => exact absurd h not_behind_nil
  | append_singleton ps p ih =>
    obtain ⟨nonempty, nonemptyLast⟩ := List.forall_mem_append.mp nonempty
    obtain ⟨tidy, tidyLast⟩ := List.forall_mem_append.mp tidy
    have before := ih nonempty tidy fun front short =>
      alike front (short.trans (List.prefix_append ps [p]))
    rw [said_concat] at h
    by_cases spelled : ∃ word ∈ words, p.spells word = true
    · obtain ⟨word, listed, same⟩ := id spelled
      obtain ⟨letters, alone, -⟩ := Piece.lexemes_of_spells false
        (nonemptyLast p List.mem_cons_self) (known word listed) same
      rw [alone, if_neg Bool.false_ne_true, behind_concat] at h
      exact behind_concat.mpr (h.imp before fun here =>
        ⟨alike ps (List.prefix_append _ _) here.1, spelled⟩)
    · have silent : ∀ l ∈ p.lexemes false, ¬ ∃ word ∈ words, l.spells word = true := by
        rintro l found ⟨word, listed, same⟩
        have other : p.spells word = false :=
          Bool.eq_false_iff.mpr fun same => spelled ⟨word, listed, same⟩
        exact Bool.false_ne_true ((Piece.spells_lexemes (tidyLast p List.mem_cons_self)
          (known word listed) other found).symm.trans same)
      exact behind_concat.mpr (.inl (before ((behind_append silent).mp h)))

theorem hasReturning_said (nonempty : ∀ p ∈ ps, p.chars ≠ [])
    (h : Piece.wording.HasReturning ps) : Lexeme.wording.HasReturning (said ps) := by
  have found : Behind Lexeme.wording.HasKeyword _ (said ps) :=
    behind_said ["RETURNING", "RETURN"] (by simp [clauseWords]) nonempty
      (fun front _ => (hasKeyword_said front).mpr)
      (by simpa [Wording.HasReturning, Piece.wording] using h)
  simpa [Wording.HasReturning, Lexeme.wording] using found

theorem hasReturning_of_said (nonempty : ∀ p ∈ ps, p.chars ≠ [])
    (tidy : ∀ p ∈ ps, p.HasWholeWords) (h : Lexeme.wording.HasReturning (said ps)) :
    Piece.wording.HasReturning ps := by
  have found : Behind Piece.wording.HasKeyword _ ps :=
    behind_of_said ["RETURNING", "RETURN"] (by simp [clauseWords]) nonempty tidy
      (fun front _ => (hasKeyword_said front).mp)
      (by simpa [Wording.HasReturning, Lexeme.wording] using h)
  simpa [Wording.HasReturning, Piece.wording] using found

theorem hasClause_said (nonempty : ∀ p ∈ ps, p.chars ≠ [])
    (h : Piece.wording.HasClause ps) : Lexeme.wording.HasClause (said ps) := by
  have found : Behind Lexeme.wording.HasReturning _ (said ps) :=
    behind_said ["INTO"] (by simp [clauseWords]) nonempty
      (fun front short => hasReturning_said fun p found => nonempty p (short.subset found))
      (by simpa [Wording.HasClause, Piece.wording] using h)
  simpa [Wording.HasClause, Lexeme.wording] using found

theorem hasClause_of_said (nonempty : ∀ p ∈ ps, p.chars ≠ [])
    (tidy : ∀ p ∈ ps, p.HasWholeWords) (h : Lexeme.wording.HasClause (said ps)) :
    Piece.wording.HasClause ps := by
  have found : Behind Piece.wording.HasReturning _ ps :=
    behind_of_said ["INTO"] (by simp [clauseWords]) nonempty tidy
      (fun front short => hasReturning_of_said (fun p found => nonempty p (short.subset found))
        fun p found => tidy p (short.subset found))
      (by simpa [Wording.HasClause, Lexeme.wording] using h)
  simpa [Wording.HasClause, Piece.wording] using found

end Behind

/-! ## Whole texts -/

theorem piecesLexemes_append (front : List Piece) (p : Piece) (back : List Piece) :
    piecesLexemes (front ++ p :: back) = said front ++ piecesLexemes (p :: back) := by
  induction front with
  | nil => rfl
  | cons q front ih =>
    have more : (front ++ p :: back).isEmpty = false := by simp
    rw [List.cons_append, piecesLexemes, ih, more, said_cons, List.append_assoc]

theorem names_lexemes (p : Piece) (last : Bool) :
    (p.lexemes last).filterMap Lexeme.name? = p.name?.toList := by
  cases p with
  | identifier chars =>
    refine List.filterMap_eq_nil_iff.mpr fun l found => ?_
    obtain ⟨run, -, rfl | rfl⟩ := mem_wordsOfRuns found <;> rfl
  | _ => rfl

theorem names_said (ps : List Piece) :
    (said ps).filterMap Lexeme.name? = ps.filterMap Piece.name? := by
  induction ps with
  | nil => rfl
  | cons p ps ih =>
    rw [said_cons, List.filterMap_append, names_lexemes, ih]
    cases p <;> rfl

theorem names_piecesLexemes (ps : List Piece) :
    (piecesLexemes ps).filterMap Lexeme.name? = ps.filterMap Piece.name? := by
  induction ps with
  | nil => rfl
  | cons p ps ih =>
    rw [piecesLexemes, List.filterMap_append, names_lexemes, ih]
    cases p <;> rfl

/-- The last piece of a text is not compared. -/
theorem hasClause_piecesLexemes {ps : List Piece} (nonempty : ∀ p ∈ ps, p.chars ≠ [])
    (h : Piece.wording.HasClause ps.dropLast) :
    Lexeme.wording.HasClause (piecesLexemes ps) := by
  rcases List.eq_nil_or_concat ps with rfl | ⟨front, p, rfl⟩
  · exact absurd h not_behind_nil
  · rw [List.concat_eq_append] at nonempty h ⊢
    rw [List.dropLast_concat] at h
    rw [piecesLexemes_append]
    exact (hasClause_said (List.forall_mem_append.mp nonempty).1 h).append _

theorem hasClause_of_piecesLexemes {ps : List Piece} (nonempty : ∀ p ∈ ps, p.chars ≠ [])
    (tidy : ∀ p ∈ ps, p.HasWholeWords) (h : Lexeme.wording.HasClause (piecesLexemes ps)) :
    Piece.wording.HasClause ps := by
  rcases List.eq_nil_or_concat ps with rfl | ⟨front, p, rfl⟩
  · exact absurd h not_behind_nil
  · rw [List.concat_eq_append] at nonempty tidy h ⊢
    obtain ⟨nonempty, nonemptyLast⟩ := List.forall_mem_append.mp nonempty
    obtain ⟨tidy, tidyLast⟩ := List.forall_mem_append.mp tidy
    have silent : ∀ l ∈ p.lexemes true, ¬ l.spells "INTO" = true := by
      intro l found same
      cases spelled : p.spells "INTO" with
      | true =>
        obtain ⟨letters, alone, -⟩ := Piece.lexemes_of_spells true
          (nonemptyLast p List.mem_cons_self) (by simp [clauseWords]) spelled
        rw [alone, if_pos rfl, List.mem_singleton] at found
        rw [found] at same
        cases same
      | false =>
        exact Bool.false_ne_true ((Piece.spells_lexemes (tidyLast p List.mem_cons_self)
          (by simp [clauseWords]) spelled found).symm.trans same)
    have whole : piecesLexemes [p] = p.lexemes true := List.append_nil _
    rw [piecesLexemes_append, whole] at h
    exact (hasClause_of_said nonempty tidy ((behind_append silent).mp h)).append [p]

/-- The marks of a data change. Its text is cut into pieces. A placeholder that has the clause in
front is marked, and so is a statement that has it in front of its last piece. Conversely, where
identifiers hold words of the clause as a whole only, what is marked has the clause. -/
theorem marked_iff_hasClause {sql : String} (dml : (scan sql).isDml = true) :
    (∃ ps, IsCut sql.toList ps) ∧
    ∀ ps, IsCut sql.toList ps →
      (Piece.wording.HasClause ps.dropLast → (scan sql).isReturning = true) ∧
      ((∀ p ∈ ps, p.HasWholeWords) → (scan sql).isReturning = true →
        Piece.wording.HasClause ps) ∧
      (scan sql).occurrences.map (·.name) = ps.filterMap Piece.name? ∧
      ∀ front p back name, ps = front ++ p :: back → p.name? = some name →
        ∃ isReturn, (scan sql).occurrences[(front.filterMap Piece.name?).length]? =
            some ⟨name, isReturn⟩ ∧
          (Piece.wording.HasClause front → isReturn = true) ∧
          ((∀ p ∈ front, p.HasWholeWords) → isReturn = true → Piece.wording.HasClause front) := by
  refine ⟨exists_cut _, fun ps cut => ?_⟩
  have nonempty := cut.fit.chars_ne_nil
  obtain ⟨statement, names, marks⟩ := scan_clause dml
  rw [cut.lexemes] at statement names marks
  refine ⟨fun found => statement.mpr (hasClause_piecesLexemes nonempty found),
    fun tidy marked => hasClause_of_piecesLexemes nonempty tidy (statement.mp marked),
    names.trans (names_piecesLexemes ps), ?_⟩
  rintro front p back name rfl named
  obtain ⟨nonemptyFront, -⟩ := List.forall_mem_append.mp nonempty
  cases p with
  | placeholder blanks label =>
    obtain rfl := Option.some.inj named
    have split := piecesLexemes_append front (.placeholder blanks label) back
    obtain ⟨isReturn, recorded, mark⟩ := marks (said front) label.recorded _ split
    rw [names_said] at recorded
    exact ⟨isReturn, recorded, fun found => mark.mpr (hasClause_said nonemptyFront found),
      fun tidy marked => hasClause_of_said nonemptyFront tidy (mark.mp marked)⟩
  | _ => cases named

/-- The pieces of `delete t returning a into :b`. -/
def deletion : List Piece :=
  [.identifier "delete".toList, .blank ' ', .identifier "t".toList, .blank ' ',
    .identifier "returning".toList, .blank ' ', .identifier "a".toList, .blank ' ',
    .identifier "into".toList, .blank ' ', .placeholder [] (.plain "b".toList)]

theorem hasClause_deletion : Piece.wording.HasClause (deletion.take 9) := by
  have returning : Piece.wording.HasReturning (deletion.take 8) :=
    ⟨deletion.take 4, .identifier "returning".toList, (deletion.take 8).drop 5, by decide +kernel,
      ⟨.identifier "delete".toList, by decide +kernel, by decide +kernel⟩, .inl (by decide +kernel)⟩
  exact ⟨deletion.take 8, .identifier "into".toList, [], by decide +kernel, returning,
    by decide +kernel⟩

/-- A deletion with the clause, and the placeholder behind it. -/
theorem marked_deletion :
    (scan "delete t returning a into :b").isDml = true ∧
      IsCut "delete t returning a into :b".toList deletion ∧
      Piece.wording.HasClause deletion.dropLast ∧ (∀ p ∈ deletion, p.HasWholeWords) ∧
      (scan "delete t returning a into :b").isReturning = true ∧
      Piece.wording.HasClause deletion ∧
      (scan "delete t returning a into :b").occurrences[0]? = some ⟨"B", true⟩ := by
  have dml : (scan "delete t returning a into :b").isDml = true := by decide +kernel
  have cut : IsCut "delete t returning a into :b".toList deletion :=
    ⟨by decide +kernel, by decide +kernel⟩
  have before : Piece.wording.HasClause (deletion.take 10) := hasClause_deletion.append [.blank ' ']
  have tidy : ∀ p ∈ deletion, p.HasWholeWords := by decide +kernel
  obtain ⟨found, clause, -, marks⟩ := (marked_iff_hasClause dml).2 _ cut
  obtain ⟨isReturn, recorded, mark, -⟩ := marks (deletion.take 10)
    (.placeholder [] (.plain "b".toList)) [] "B" rfl (by decide +kernel)
  rw [mark before] at recorded
  exact ⟨dml, cut, before, tidy, found before, clause tidy (found before), recorded⟩

/-- The pieces of `update t set x_return = 1, y_into = :a`. -/
def assignment : List Piece :=
  [.identifier "update".toList, .blank ' ', .identifier "t".toList, .blank ' ',
    .identifier "set".toList, .blank ' ', .identifier "x_return".toList, .blank ' ', .symbol '=',
    .blank ' ', .identifier "1".toList, .symbol ',', .blank ' ', .identifier "y_into".toList,
    .blank ' ', .symbol '=', .blank ' ', .placeholder [] (.plain "a".toList)]

theorem not_hasClause_assignment : ¬ Piece.wording.HasClause assignment := by
  intro found
  obtain ⟨front, p, back, cut, -, spelled⟩ := found.hasReturning
  have none : ∀ p ∈ assignment, p.spells "RETURNING" = false ∧ p.spells "RETURN" = false := by
    decide +kernel
  obtain ⟨long, short⟩ := none p (by rw [cut]; simp)
  rcases spelled with same | same
  · exact Bool.false_ne_true (long.symm.trans same)
  · exact Bool.false_ne_true (short.symm.trans same)

/-- Columns whose names hold the words mark a statement without the clause, and a clause that ends
the text is missed. -/
theorem marked_by_column_names :
    (IsCut "update t set x_return = 1, y_into = :a".toList assignment ∧
      (scan "update t set x_return = 1, y_into = :a").isDml = true ∧
      ¬ Piece.wording.HasClause assignment ∧
      (scan "update t set x_return = 1, y_into = :a").isReturning = true ∧
      (scan "update t set x_return = 1, y_into = :a").occurrences = [⟨"A", true⟩]) ∧
    IsCut "delete t returning a into".toList (deletion.take 9) ∧
      (scan "delete t returning a into").isDml = true ∧
      Piece.wording.HasClause (deletion.take 9) ∧
      (scan "delete t returning a into").isReturning = false :=
  ⟨⟨⟨by decide +kernel, by decide +kernel⟩, by decide +kernel, not_hasClause_assignment,
      by decide +kernel, by decide +kernel⟩,
    ⟨by decide +kernel, by decide +kernel⟩, by decide +kernel, hasClause_deletion,
    by decide +kernel⟩

end SqlBinder.Statement

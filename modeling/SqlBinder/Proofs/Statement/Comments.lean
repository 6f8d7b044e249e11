import SqlBinder.Proofs.Statement.Pieces

/-!
Comments as blanks. Main statement: with a space in place of a comment a text says the same, unless
the comment parts a literal from a colon or a colon from a name. The reader forgets a literal at a
comment but not at a blank, and looks for a name behind blanks but not behind a comment.

A comment and a space lead the reader to one mode, but behind a literal and behind a colon. There
the texts still say the same unless a colon with a name, or a name, comes next; `Parts` collects
just these cases, from the text alone.
-/
namespace SqlBinder.Statement

open Text

/-- It is a comment of either sort. -/
def Region.isComment : Region → Bool
  | .lineComment | .blockComment => true
  | .literal | .delimited _ | .quotedName => false

/-! ## Where a comment is no blank -/

/-- Blanks aside, a literal comes last. -/
def EndsInLiteral (front : List Char) : Prop := (Mode.plain false).after front = .plain true

/-- Blanks aside, a colon that is behind no literal comes last. -/
def EndsInColon (front : List Char) : Prop := (Mode.plain false).after front = .colon

/-- Blanks aside, the name of a placeholder comes first. -/
def StartsLabel (back : List Char) : Prop := Label.startsWith (back.dropWhile isBlank) = true

/-- Blanks aside, a colon with a name behind it comes first. -/
def StartsPlaceholder (back : List Char) : Prop :=
  ∃ rest, back.dropWhile isBlank = ':' :: rest ∧ StartsLabel rest

/-- What stands here between a front and a back keeps a literal from a colon, or a colon from its
name. -/
def Parts (front back : List Char) : Prop :=
  EndsInLiteral front ∧ StartsPlaceholder back ∨ EndsInColon front ∧ StartsLabel back

instance (front : List Char) : Decidable (EndsInLiteral front) :=
  inferInstanceAs (Decidable (_ = _))

instance (front : List Char) : Decidable (EndsInColon front) :=
  inferInstanceAs (Decidable (_ = _))

instance (back : List Char) : Decidable (StartsLabel back) :=
  inferInstanceAs (Decidable (_ = true))

/-! ## Blanks -/

variable {front back body blanks rest : List Char} {r : Region} {closed : Bool} {mode : Mode}

theorem isNameChar_first (comment : r.isComment = true) : isNameChar r.first = false := by
  cases r with
  | lineComment | blockComment => decide
  | literal | delimited _ | quotedName => cases comment

/-- The rest of an opening says nothing. -/
theorem Mode.passed_opening (opens : mode.opens r = true) :
    mode.passed r.opening = (mode.next r.first).2 := by
  obtain ⟨reached, suited⟩ := Bool.and_eq_true_iff.mp opens
  obtain ⟨afterLiteral, started⟩ := Mode.next_of_reaches reached Region.isLetter_first
  rw [Region.opening, Mode.passed, started, (Region.read_second afterLiteral suited).2,
    List.append_nil]

/-- A space completes what a comment completes, and leads where the comment leads, but behind a
literal and behind a colon. -/
theorem Mode.next_space (opens : mode.opens r = true) (comment : r.isComment = true) :
    (mode.next ' ').2 = mode.passed r.opening ∧
      ((mode.next ' ').1 = .plain false ∨
        (mode = .plain true ∨ mode = .colon) ∧ (mode.next ' ').1 = mode) := by
  have space : ∀ afterLiteral afterQ, start afterLiteral afterQ ' ' = .plain afterLiteral :=
    fun _ _ => start_blank (by decide)
  have letter : isLetter ' ' = false := by decide
  have numeral : isNumeral ' ' = false := by decide
  have name : isNameChar ' ' = false := by decide
  have other := isNameChar_first comment
  rw [passed_opening opens]
  cases mode with
  | plain afterLiteral => cases afterLiteral <;> simp [next, space]
  | word letters => simp [next, space, letter, isLetter_of_isNameChar other]
  | dash => simp [next, space]
  | slash => simp [next, space]
  | colon =>
    have silent : ∀ c, (colon.next c).2 = [] := by
      intro c
      unfold next
      dsimp only
      repeat' split
      all_goals rfl
    exact ⟨by rw [silent, silent], .inr ⟨.inr rfl, rfl⟩⟩
  | numberPlaceholder chars => simp [next, space, numeral, isNumeral_of_isNameChar other]
  | namePlaceholder chars => simp [next, space, name, other]
  | _ => cases opens

/-! ## Behind a literal and behind a colon -/

/-- Without a placeholder behind it a literal makes no difference. -/
theorem lexemes_plain_true (h : ¬ StartsPlaceholder back) :
    (Mode.plain true).lexemes back = (Mode.plain false).lexemes back := by
  induction back with
  | nil => rfl
  | cons c back ih =>
    rw [Mode.lexemes_cons, Mode.lexemes_cons]
    simp only [Mode.next]
    by_cases blank : isBlank c = true
    · rw [Mode.start_blank blank, Mode.start_blank blank]
      refine congrArg _ (ih ?_)
      rintro ⟨rest, first, named⟩
      refine h ⟨rest, ?_, named⟩
      rwa [List.dropWhile_cons_of_pos blank]
    by_cases colon : c = ':'
    · subst colon
      have unnamed : ¬ StartsLabel back := fun named =>
        h ⟨back, List.dropWhile_cons_of_neg blank, named⟩
      rw [Mode.start_colon, Mode.start_colon, if_pos rfl, if_neg Bool.false_ne_true,
        lexemes_colon (Bool.eq_false_iff.mpr unnamed), Mode.lexemes_plain]
      rfl
    · simp [Mode.start, colon, blank]

/-- Blanks in front of a text make no difference to it. -/
theorem lexemes_plain_blanks (blanks : List Char) (h : ∀ c ∈ blanks, isBlank c = true)
    (afterLiteral : Bool) :
    (Mode.plain afterLiteral).lexemes (blanks ++ rest) =
      (Mode.plain afterLiteral).lexemes rest := by
  induction blanks with
  | nil => rfl
  | cons c blanks ih =>
    obtain ⟨blank, others⟩ := List.forall_mem_cons.mp h
    rw [List.cons_append, Mode.lexemes_cons, Mode.next, Mode.start_blank blank]
    exact ih others

theorem exists_blanks_label (h : StartsLabel back) : ∃ blanks label rest,
    (∀ c ∈ blanks, isBlank c = true) ∧ Label.Fits rest label ∧
      back = blanks ++ (label.chars ++ rest) := by
  obtain ⟨label, rest, written, fits⟩ := exists_label h
  exact ⟨back.takeWhile isBlank, label, rest, forall_takeWhile _ _, fits,
    by rw [written, List.takeWhile_append_dropWhile]⟩

/-- A name behind a colon is a placeholder, and one behind anything else is not. -/
theorem lexemes_startsLabel (h : StartsLabel back) : ∃ label rest, Label.Fits rest label ∧
    Mode.colon.lexemes back = .placeholder label.recorded :: Context.plain.lexemes rest ∧
    (Mode.plain false).lexemes back = Context.plain.lexemes (label.chars ++ rest) := by
  obtain ⟨blanks, label, rest, blank, fits, rfl⟩ := exists_blanks_label h
  exact ⟨label, rest, fits, by rw [lexemes_blanks blanks blank, lexemes_label fits],
    by rw [lexemes_plain_blanks blanks blank, Mode.lexemes_plain]; rfl⟩

/-- A colon with a name is a placeholder, unless behind a literal. -/
theorem lexemes_startsPlaceholder (h : StartsPlaceholder back) :
    ∃ label rest, Label.Fits rest label ∧
      (Mode.plain false).lexemes back = .placeholder label.recorded :: Context.plain.lexemes rest ∧
      (Mode.plain true).lexemes back = Context.plain.lexemes (label.chars ++ rest) := by
  obtain ⟨behind, first, named⟩ := h
  obtain ⟨label, rest, fits, colon, plain⟩ := lexemes_startsLabel named
  have skip : ∀ afterLiteral, (Mode.plain afterLiteral).lexemes back =
      (Mode.start afterLiteral false ':').lexemes behind := by
    intro afterLiteral
    rw [← List.takeWhile_append_dropWhile (p := isBlank) (l := back), first,
      lexemes_plain_blanks _ (forall_takeWhile _ _), Mode.lexemes_cons]
    rfl
  refine ⟨label, rest, fits, ?_, ?_⟩
  · rw [skip, Mode.start_colon, if_neg Bool.false_ne_true, colon]
  · rw [skip, Mode.start_colon, if_pos rfl, plain]

/-! ## Whole texts -/

theorem lexemes_comment (comment : r.isComment = true) (stands : StandsAfter front r)
    (fits : r.Fits body closed back) :
    lexemes (front ++ (r.chars body closed ++ back)) =
      (Mode.plain false).passed (front ++ [' ']) ++ (Mode.plain false).lexemes back := by
  have behind : r.behind = .plain false := by
    cases r with
    | lineComment | blockComment => rfl
    | literal | delimited _ | quotedName => cases comment
  rw [lexemes, Mode.lexemes_append, Region.lexemes_chars stands fits, behind,
    ← (Mode.next_space stands comment).1, Mode.passed_append, List.append_assoc]
  simp [Mode.passed]

theorem lexemes_space (front back : List Char) :
    lexemes (front ++ ' ' :: back) = (Mode.plain false).passed (front ++ [' ']) ++
      (((Mode.plain false).after front).next ' ').1.lexemes back := by
  rw [lexemes, List.append_cons, Mode.lexemes_append, Mode.after_append]
  rfl

/-- A text with a space in place of a comment says the same, unless the comment parts a literal from
a colon or a colon from a name. Behind the literal it makes a placeholder of the name, which behind
a space is none; behind the colon it keeps the name from being the placeholder that it is behind a
space. -/
theorem comment_reads_as_space {front back body : List Char} {r : Region} {closed : Bool}
    (comment : r.isComment = true) (stands : StandsAfter front r)
    (fits : r.Fits body closed back) :
    (¬ Parts front back → scan (String.ofList (front ++ ' ' :: back)) =
      scan (String.ofList (front ++ (r.chars body closed ++ back)))) ∧
    (EndsInLiteral front → StartsPlaceholder back → ∃ said label rest, Label.Fits rest label ∧
      lexemes (front ++ (r.chars body closed ++ back)) =
        said ++ .placeholder label.recorded :: Context.plain.lexemes rest ∧
      lexemes (front ++ ' ' :: back) = said ++ Context.plain.lexemes (label.chars ++ rest)) ∧
    (EndsInColon front → StartsLabel back → ∃ said label rest, Label.Fits rest label ∧
      lexemes (front ++ (r.chars body closed ++ back)) =
        said ++ Context.plain.lexemes (label.chars ++ rest) ∧
      lexemes (front ++ ' ' :: back) =
        said ++ .placeholder label.recorded :: Context.plain.lexemes rest) := by
  have commented := lexemes_comment comment stands fits
  have spaced := lexemes_space front back
  refine ⟨fun whole => ?_, fun literal starts => ?_, fun colon starts => ?_⟩
  · have same : (((Mode.plain false).after front).next ' ').1.lexemes back =
        (Mode.plain false).lexemes back := by
      obtain ⟨-, plain | ⟨literal | colon, stays⟩⟩ := Mode.next_space stands comment
      · rw [plain]
      · rw [stays, literal]
        exact lexemes_plain_true fun starts => whole (.inl ⟨literal, starts⟩)
      · have unnamed : ¬ StartsLabel back := fun starts => whole (.inr ⟨colon, starts⟩)
        rw [stays, colon, lexemes_colon (Bool.eq_false_iff.mpr unnamed), Mode.lexemes_plain]
        rfl
    simp only [scan, String.toList_ofList, commented, spaced, same]
  · obtain ⟨label, rest, fits, seen, unseen⟩ := lexemes_startsPlaceholder starts
    refine ⟨_, label, rest, fits, by rw [commented, seen], ?_⟩
    rw [spaced, show (Mode.plain false).after front = _ from literal]
    exact congrArg _ unseen
  · obtain ⟨label, rest, fits, seen, unseen⟩ := lexemes_startsLabel starts
    refine ⟨_, label, rest, fits, by rw [commented, unseen], ?_⟩
    rw [spaced, show (Mode.plain false).after front = _ from colon]
    exact congrArg _ seen

/-- A comment between two words, one between a literal and a colon, and one between a colon and a
name. -/
theorem comments_in_texts :
    (StandsAfter "delete t returning a".toList .blockComment ∧
      Region.blockComment.Fits " :x ".toList true "into :b".toList ∧
      ¬ Parts "delete t returning a".toList "into :b".toList ∧
      scan "delete t returning a into :b" = scan "delete t returning a/* :x */into :b") ∧
    (∃ said label rest, Label.Fits rest label ∧
      lexemes "select json_object('k' --c\n:v) from t".toList =
        said ++ .placeholder label.recorded :: Context.plain.lexemes rest ∧
      lexemes "select json_object('k'  :v) from t".toList =
        said ++ Context.plain.lexemes (label.chars ++ rest)) ∧
    (∃ said label rest, Label.Fits rest label ∧
      lexemes "select :/* c */a from t".toList =
        said ++ Context.plain.lexemes (label.chars ++ rest) ∧
      lexemes "select : a from t".toList =
        said ++ .placeholder label.recorded :: Context.plain.lexemes rest) := by
  have stands : StandsAfter "delete t returning a".toList .blockComment := by decide +kernel
  have fits : Region.blockComment.Fits " :x ".toList true "into :b".toList := by decide +kernel
  have whole : ¬ Parts "delete t returning a".toList "into :b".toList := by
    rintro (⟨literal, -⟩ | ⟨colon, -⟩)
    · exact absurd literal (by decide +kernel)
    · exact absurd colon (by decide +kernel)
  have behindLiteral : StandsAfter "select json_object('k' ".toList .lineComment := by
    decide +kernel
  have line : Region.lineComment.Fits "c".toList true ":v) from t".toList := by decide +kernel
  have behindColon : StandsAfter "select :".toList .blockComment := by decide +kernel
  have block : Region.blockComment.Fits " c ".toList true "a from t".toList := by decide +kernel
  refine ⟨⟨stands, fits, whole, (comment_reads_as_space rfl stands fits).1 whole⟩, ?_, ?_⟩
  · exact (comment_reads_as_space rfl behindLiteral line).2.1 (by decide +kernel)
      ⟨"v) from t".toList, by decide +kernel, by decide +kernel⟩
  · exact (comment_reads_as_space rfl behindColon block).2.2 (by decide +kernel) (by decide +kernel)

/-- A comment hides a literal from the colon behind it, and the name from the colon in front of it,
and a space in its place hides neither. -/
theorem comment_hides_from_colon :
    (StandsAfter "select json_object('k' ".toList .blockComment ∧
      Region.blockComment.Fits " c ".toList true " : v) from dual".toList ∧
      (scan "select json_object('k' /* c */ : v) from dual").bindNames = ["V"] ∧
      (scan "select json_object('k'   : v) from dual").bindNames = []) ∧
    StandsAfter "select : ".toList .blockComment ∧
      Region.blockComment.Fits " c ".toList true " a from dual".toList ∧
      (scan "select : /* c */ a from dual").bindNames = [] ∧
      (scan "select :   a from dual").bindNames = ["A"] :=
  ⟨⟨by decide +kernel, by decide +kernel, by decide +kernel, by decide +kernel⟩,
    by decide +kernel, by decide +kernel, by decide +kernel, by decide +kernel⟩

end SqlBinder.Statement

import SqlBinder.Proofs.Statement.Regions
import Mathlib.Data.List.Induction

/-!
Texts as pieces: blanks, symbols, identifiers, regions and placeholders, each as long as it can be.
Main statements: every text is cut into pieces that fit together, and the lexemes of a text are
those of its pieces, whatever the cut.

What a piece says depends on little around it: whether a literal or an identifier that ends in `q`
stands in front, and whether it is complete. `Context` and `Fits` are just that, so a piece can be
put in place of another that leaves the same context. That every text has a cut is an induction on
its length, with the longest piece there is taken off each time.
-/
namespace SqlBinder.Statement

open Text

/-- What stands right in front of a place, as far as it decides what comes next. -/
structure Context where
  /-- A literal, blanks aside: a colon starts no placeholder. -/
  afterLiteral : Bool
  /-- An identifier that ends in `q`: a quote starts a literal with a delimiter. -/
  afterQ : Bool
  deriving DecidableEq, Repr

namespace Context

/-- Nothing in front decides anything, as at the beginning of a text. -/
def plain : Context := ⟨false, false⟩

/-- The lexemes of a text read from here to its end. -/
def lexemes (k : Context) : List Char → List Lexeme
  | [] => []
  | c :: rest => (Mode.start k.afterLiteral k.afterQ c).lexemes rest

end Context

/-- A run of such characters ends here. -/
def Ends (p : Char → Bool) (rest : List Char) : Prop := ∀ c ∈ rest.head?, p c = false

instance (p : Char → Bool) (rest : List Char) : Decidable (Ends p rest) :=
  Option.decidableForallMem rest.head?

-- Characters are finitely many: without this instance all of them may be tried.
instance decidableAll (p : Char → Bool) (chars : List Char) :
    Decidable (∀ c ∈ chars, p c = true) :=
  List.decidableBAll (fun c => p c = true) chars

/-- The name of a placeholder as it is written. -/
inductive Label where
  | quoted (inner : List Char) (closed : Bool)
  | number (digits : List Char)
  | plain (chars : List Char)
  deriving DecidableEq, Repr

namespace Label

/-- The label as it is written. -/
def chars : Label → List Char
  | .quoted inner closed => '"' :: (inner ++ if closed then ['"'] else [])
  | .number digits => digits
  | .plain chars => chars

/-- The name as it is recorded. -/
def recorded : Label → String
  | .quoted inner _ => String.ofList inner
  | .number digits => String.ofList digits
  | .plain chars => String.ofList (upper chars)

/-- The label is written in full in front of this text. -/
def Fits (rest : List Char) : Label → Prop
  | .quoted inner closed => '"' ∉ inner ∧ (closed = false → rest = [])
  | .number digits => digits ≠ [] ∧ (∀ c ∈ digits, isNumeral c = true) ∧ Ends isNumeral rest
  | .plain chars =>
    (∃ c ∈ chars.head?, isLetter c = true ∧ isNumeral c = false) ∧
      (∀ c ∈ chars, isNameChar c = true) ∧ Ends isNameChar rest

instance (rest : List Char) (label : Label) : Decidable (label.Fits rest) := by
  have (chars : List Char) :
      Decidable (∃ c ∈ chars.head?, isLetter c = true ∧ isNumeral c = false) :=
    Option.decidableExistsMem chars.head?
  cases label <;> unfold Fits <;> infer_instance

/-- A label starts with this text. -/
def startsWith : List Char → Bool
  | [] => false
  | c :: _ => c = '"' || isNumeral c || isLetter c

end Label

/-- A piece of a text. -/
inductive Piece where
  | blank (c : Char)
  | symbol (c : Char)
  | identifier (chars : List Char)
  | region (r : Region) (body : List Char) (closed : Bool)
  | placeholder (blanks : List Char) (label : Label)
  deriving DecidableEq, Repr

namespace Piece

/-- The piece as it is written. -/
def chars : Piece → List Char
  | .blank c | .symbol c => [c]
  | .identifier chars => chars
  | .region r body closed => r.chars body closed
  | .placeholder blanks label => ':' :: (blanks ++ label.chars)

/-- A sign that is read for itself: no region and no placeholder starts with it here. A quote is one
where the text ends in place of a delimiter. -/
def IsSign (k : Context) (rest : List Char) (c : Char) : Prop :=
  isBlank c = false ∧ isNameChar c = false ∧ c ≠ '"' ∧
    (c = '\'' → k.afterQ = true ∧ rest = []) ∧
    (c = '-' → rest.head? ≠ some '-') ∧ (c = '/' → rest.head? ≠ some '*') ∧
    (c = ':' → k.afterLiteral = true ∨ Label.startsWith (rest.dropWhile isBlank) = false)

instance (k : Context) (rest : List Char) (c : Char) : Decidable (IsSign k rest c) := by
  unfold IsSign
  infer_instance

/-- The piece stands in this context and is written in full in front of this text. -/
def Fits (k : Context) (rest : List Char) : Piece → Prop
  | .blank c => isBlank c = true
  | .symbol c => IsSign k rest c
  | .identifier chars => chars ≠ [] ∧ (∀ c ∈ chars, isNameChar c = true) ∧ Ends isNameChar rest
  | .region r body closed => r.suits k.afterQ = true ∧ r.Fits body closed rest
  | .placeholder blanks label =>
    k.afterLiteral = false ∧ (∀ c ∈ blanks, isBlank c = true) ∧ label.Fits rest

instance (k : Context) (rest : List Char) (p : Piece) : Decidable (p.Fits k rest) := by
  cases p <;> unfold Fits <;> infer_instance

/-- The context behind a piece. -/
def after (k : Context) : Piece → Context
  | .blank _ => ⟨k.afterLiteral, false⟩
  | .identifier chars => ⟨false, endsInQ chars.reverse⟩
  | .region r _ _ => ⟨r.isLiteral, false⟩
  | .symbol _ | .placeholder _ _ => .plain

end Piece

/-- The text that is written in pieces. -/
def written (ps : List Piece) : List Char := ps.flatMap Piece.chars

/-- Pieces that follow one another in this context, up to the end of a text. -/
def FitTogether (k : Context) : List Piece → Prop
  | [] => True
  | p :: ps => p.Fits k (written ps) ∧ FitTogether (p.after k) ps

instance decidableFitTogether (k : Context) : (ps : List Piece) → Decidable (FitTogether k ps)
  | [] => inferInstanceAs (Decidable True)
  | p :: ps =>
    have := decidableFitTogether (p.after k) ps
    inferInstanceAs (Decidable (p.Fits k (written ps) ∧ FitTogether (p.after k) ps))

/-- The pieces make up the text, each in full. -/
structure IsCut (text : List Char) (ps : List Piece) : Prop where
  whole : written ps = text
  fit : FitTogether .plain ps

/-! ## Lexemes -/

/-- The words of an identifier by its runs of letters, of which the last may end the text. -/
def wordsOfRuns (last : Bool) : List (List Char) → List Lexeme
  | [] => []
  | run :: runs =>
    (if run = [] then [] else if last && runs.isEmpty then [.lastWord run] else [.word run]) ++
      wordsOfRuns last runs

/-- The maximal runs of letters of an identifier, in order, with empty ones between. -/
def letterRuns (chars : List Char) : List (List Char) := chars.splitOnP fun c => !isLetter c

/-- What a piece says. -/
def Piece.lexemes (last : Bool) : Piece → List Lexeme
  | .identifier chars => wordsOfRuns last (letterRuns chars)
  | .placeholder _ label => [.placeholder label.recorded]
  | .blank _ | .symbol _ | .region _ _ _ => []

/-- What pieces say, up to the end of a text. -/
def piecesLexemes : List Piece → List Lexeme
  | [] => []
  | p :: ps => p.lexemes ps.isEmpty ++ piecesLexemes ps

/-! ### Characters -/

theorem isNameChar_of_isLetter {c : Char} (h : isLetter c = true) : isNameChar c = true := by
  simp [isNameChar, h]

theorem isNameChar_of_isNumeral {c : Char} (h : isNumeral c = true) : isNameChar c = true := by
  simp [isNameChar, h]

theorem inside_run {start stop code : Nat} {rest : List Nat} :
    inside (start :: stop :: rest) code = true ↔
      start ≤ code ∧ (code < stop ∨ inside rest code = true) := by
  simp only [inside, Bool.and_eq_true, decide_eq_true_eq, Bool.not_eq_true', Bool.and_eq_false_iff,
    decide_eq_false_iff_not, Nat.not_le, Bool.not_eq_false']

/-- The White_Space characters. -/
def blankCodes : List Nat :=
  [9, 10, 11, 12, 13, 32, 133, 160, 5760, 8192, 8193, 8194, 8195, 8196, 8197, 8198, 8199, 8200,
    8201, 8202, 8232, 8233, 8239, 8287, 12288]

theorem mem_blankCodes {c : Char} (h : isBlank c = true) : c.toNat ∈ blankCodes := by
  simp only [isBlank, blankBoundaries, inside_run] at h
  simp only [inside, Bool.false_eq_true, or_false] at h
  simp only [blankCodes, List.mem_cons, List.not_mem_nil, or_false]
  omega

/-- No blank belongs to a name. -/
theorem isNameChar_of_isBlank {c : Char} (h : isBlank c = true) : isNameChar c = false := by
  have apart : ∀ code ∈ blankCodes, inside letterBoundaries code = false ∧
      inside numeralBoundaries code = false ∧ code ≠ 36 ∧ code ≠ 95 ∧ code ≠ 35 := by
    decide +kernel
  obtain ⟨letter, numeral, dollar, underscore, hash⟩ := apart _ (mem_blankCodes h)
  have sign : c ≠ '$' ∧ c ≠ '_' ∧ c ≠ '#' :=
    ⟨fun same => dollar (same ▸ rfl), fun same => underscore (same ▸ rfl),
      fun same => hash (same ▸ rfl)⟩
  simp [isNameChar, isLetter, isNumeral, letter, numeral, sign]

theorem isBlank_eq_false {c : Char} (name : isNameChar c = true) : isBlank c = false :=
  Bool.eq_false_iff.mpr fun blank =>
    Bool.false_ne_true ((isNameChar_of_isBlank blank).symm.trans name)

theorem isLetter_of_isNameChar {c : Char} (other : isNameChar c = false) : isLetter c = false :=
  Bool.eq_false_iff.mpr fun letter =>
    Bool.false_ne_true (other.symm.trans (isNameChar_of_isLetter letter))

theorem isNumeral_of_isNameChar {c : Char} (other : isNameChar c = false) : isNumeral c = false :=
  Bool.eq_false_iff.mpr fun numeral =>
    Bool.false_ne_true (other.symm.trans (isNameChar_of_isNumeral numeral))

namespace Mode

variable {afterLiteral afterQ : Bool} {c : Char}

theorem start_letter (h : isLetter c = true) : start afterLiteral afterQ c = .word [c] := by
  simp [start, h]

theorem start_blank (h : isBlank c = true) :
    start afterLiteral afterQ c = .plain afterLiteral := by
  have quote : c ≠ '\'' := by
    rintro rfl
    exact absurd h (by decide)
  simp [start, isLetter_of_isNameChar (isNameChar_of_isBlank h), quote, h]

/-- Of the characters of a name only letters are read on. -/
theorem start_nameChar (name : isNameChar c = true) (letter : isLetter c = false) :
    start afterLiteral afterQ c = .plain false := by
  have sign : ∀ d, isNameChar d = false → c ≠ d := by
    rintro d none rfl
    exact Bool.false_ne_true (none.symm.trans name)
  simp [start, letter, isBlank_eq_false name, sign '\'' (by decide), sign '-' (by decide),
    sign '/' (by decide), sign '"' (by decide), sign ':' (by decide)]

@[simp] theorem start_colon :
    start afterLiteral afterQ ':' = if afterLiteral then .plain false else .colon := by
  rw [start, isLetter_eq_false (by decide)]
  rfl

theorem lexemes_plain (afterLiteral : Bool) (rest : List Char) :
    (plain afterLiteral).lexemes rest = Context.lexemes ⟨afterLiteral, false⟩ rest := by
  cases rest with
  | nil => rfl
  | cons c rest => rw [lexemes_cons]; rfl

end Mode

/-! ### Identifiers -/

variable {k : Context} {chars rest : List Char} {c : Char}

theorem letterRuns_ne_nil : letterRuns chars ≠ [] :=
  List.splitOnP_ne_nil _ _

theorem letterRuns_of_letters (h : ∀ c ∈ chars, isLetter c = true) : letterRuns chars = [chars] :=
  List.splitOnP_eq_singleton fun c found => by rw [h c found]; rfl

theorem letterRuns_append_cons (h : ∀ c ∈ chars, isLetter c = true) (other : isLetter c = false)
    (more : List Char) : letterRuns (chars ++ c :: more) = chars :: letterRuns more :=
  List.splitOnP_append_cons_of_forall_mem (fun c found => by rw [h c found]; rfl) c
    (by rw [other]; rfl) more

theorem wordsOfRuns_cons {last : Bool} {run : List Char} {runs : List (List Char)}
    (h : runs ≠ []) : wordsOfRuns last (run :: runs) =
      (if run = [] then [] else [.word run]) ++ wordsOfRuns last runs := by
  simp [wordsOfRuns, h]

/-- What is no letter ends no word in `q`, and does not keep the next one from doing so. -/
theorem endsInQ_append_cons (other : isLetter c = false) (letters : List Char) :
    endsInQ (chars ++ c :: letters) = endsInQ chars := by
  cases chars with
  | nil =>
    have sign : ∀ d, isLetter d = true → c ≠ d := by
      rintro d letter rfl
      exact Bool.false_ne_true (other.symm.trans letter)
    simp [endsInQ, sign 'q' (by decide), sign 'Q' (by decide)]
  | cons => rfl

theorem lexemes_nameChar (name : isNameChar c = true) (other : isLetter c = false) :
    k.lexemes (c :: rest) = Context.plain.lexemes rest := by
  rw [Context.lexemes, Mode.start_nameChar name other, Mode.lexemes_plain]
  rfl

theorem lexemes_word_ends {letters : List Char} (nonempty : letters ≠ [])
    (ends : Ends isNameChar rest) :
    (Mode.word letters).lexemes rest = wordsOfRuns rest.isEmpty [letters.reverse] ++
      Context.lexemes ⟨false, endsInQ letters⟩ rest := by
  cases rest with
  | nil =>
    simp [wordsOfRuns, nonempty, Mode.lexemes, Mode.passed, Mode.after, Mode.finish,
      Context.lexemes]
  | cons d rest =>
    have other : isLetter d = false := isLetter_of_isNameChar (ends d rfl)
    simp [wordsOfRuns, nonempty, Mode.lexemes_cons, Mode.next, other, Context.lexemes]

theorem lexemes_word_nameChar {letters : List Char} (name : isNameChar c = true)
    (other : isLetter c = false) :
    (Mode.word letters).lexemes (c :: rest) =
      .word letters.reverse :: Context.plain.lexemes rest := by
  rw [Mode.lexemes_cons, Mode.next, other, Mode.start_nameChar name other]
  simp [Mode.lexemes_plain, Context.plain]

/-- The rest of an identifier, behind a character that is no letter or in a word. -/
theorem lexemes_run (ends : Ends isNameChar rest) (h : ∀ c ∈ chars, isNameChar c = true) :
    (Context.plain.lexemes (chars ++ rest) = wordsOfRuns rest.isEmpty (letterRuns chars) ++
      Context.lexemes ⟨false, endsInQ chars.reverse⟩ rest) ∧
    ∀ letters ≠ [], (∀ c ∈ letters, isLetter c = true) →
      (Mode.word letters).lexemes (chars ++ rest) =
        wordsOfRuns rest.isEmpty (letterRuns (letters.reverse ++ chars)) ++
          Context.lexemes ⟨false, endsInQ (chars.reverse ++ letters)⟩ rest := by
  induction chars with
  | nil =>
    refine ⟨rfl, fun letters nonempty word => ?_⟩
    rw [List.append_nil, letterRuns_of_letters fun c found => word c (List.mem_reverse.mp found)]
    exact lexemes_word_ends nonempty ends
  | cons c chars ih =>
    obtain ⟨name, others⟩ := List.forall_mem_cons.mp h
    obtain ⟨between, inWord⟩ := ih others
    have order : ∀ letters, (c :: chars).reverse ++ letters = chars.reverse ++ c :: letters := by
      simp
    cases letter : isLetter c with
    | true =>
      constructor
      · have read := inWord [c] (by simp) (by simpa using letter)
        rw [List.cons_append, Context.lexemes, Mode.start_letter letter, read, ← order,
          List.append_nil]
        rfl
      · intro letters nonempty word
        rw [List.cons_append, Mode.lexemes_cons, Mode.next, if_pos letter,
          inWord (c :: letters) (by simp) (List.forall_mem_cons.mpr ⟨letter, word⟩),
          List.reverse_cons, List.append_assoc, order]
        rfl
    | false =>
      constructor
      · have runs : letterRuns (c :: chars) = [] :: letterRuns chars :=
          letterRuns_append_cons (List.forall_mem_nil _) letter chars
        rw [List.cons_append, lexemes_nameChar name letter, between, runs,
          wordsOfRuns_cons letterRuns_ne_nil, List.reverse_cons, endsInQ_append_cons letter]
        rfl
      · intro letters nonempty word
        have runs := letterRuns_append_cons
          (fun d found => word d (List.mem_reverse.mp found)) letter chars
        rw [List.cons_append, lexemes_word_nameChar name letter, between, runs,
          wordsOfRuns_cons letterRuns_ne_nil, List.append_assoc, order,
          endsInQ_append_cons letter, if_neg (by simpa using nonempty)]
        rfl

/-- What came before an identifier makes no difference to it. -/
theorem lexemes_identifier (nonempty : chars ≠ []) (h : ∀ c ∈ chars, isNameChar c = true)
    (ends : Ends isNameChar rest) :
    k.lexemes (chars ++ rest) = wordsOfRuns rest.isEmpty (letterRuns chars) ++
      Context.lexemes ⟨false, endsInQ chars.reverse⟩ rest := by
  rw [← (lexemes_run ends h).1]
  cases chars with
  | nil => exact absurd rfl nonempty
  | cons c more =>
    cases letter : isLetter c with
    | true => simp only [List.cons_append, Context.lexemes, Mode.start_letter letter]
    | false =>
      have name : isNameChar c = true := h c List.mem_cons_self
      rw [List.cons_append, lexemes_nameChar name letter, lexemes_nameChar name letter]

/-! ### Placeholders -/

theorem lexemes_quotedPlaceholder (inner kept : List Char) (unclosed : '"' ∉ inner) (closed : Bool)
    (ends : closed = false → rest = []) :
    (Mode.quotedPlaceholder kept).lexemes ((inner ++ if closed then ['"'] else []) ++ rest) =
      .placeholder (ofReversed (inner.reverse ++ kept)) :: Context.plain.lexemes rest := by
  induction inner generalizing kept with
  | nil =>
    cases closed with
    | true => simp [Mode.lexemes_cons, Mode.next, Mode.lexemes_plain, Context.plain]
    | false => simp [ends rfl, Mode.lexemes, Mode.passed, Mode.after, Mode.finish, Context.lexemes]
  | cons c inner ih =>
    obtain ⟨other, others⟩ := not_or.mp fun found => unclosed (List.mem_cons.mpr found)
    have step : (Mode.quotedPlaceholder kept).next c = (.quotedPlaceholder (c :: kept), []) := by
      simp [Mode.next, Ne.symm other]
    rw [List.cons_append, List.cons_append, Mode.lexemes_cons, step, ih _ others,
      List.reverse_cons, List.append_assoc]
    rfl

theorem lexemes_numberPlaceholder (digits kept : List Char)
    (h : ∀ c ∈ digits, isNumeral c = true) (ends : Ends isNumeral rest) :
    (Mode.numberPlaceholder kept).lexemes (digits ++ rest) =
      .placeholder (ofReversed (digits.reverse ++ kept)) :: Context.plain.lexemes rest := by
  induction digits generalizing kept with
  | nil =>
    cases rest with
    | nil => rfl
    | cons d rest =>
      have other : isNumeral d = false := ends d rfl
      simp [Mode.lexemes_cons, Mode.next, other, Context.lexemes, Context.plain]
  | cons c digits ih =>
    obtain ⟨numeral, others⟩ := List.forall_mem_cons.mp h
    rw [List.cons_append, Mode.lexemes_cons, Mode.next, if_pos numeral, ih _ others,
      List.reverse_cons, List.append_assoc]
    rfl

theorem lexemes_namePlaceholder (chars kept : List Char)
    (h : ∀ c ∈ chars, isNameChar c = true) (ends : Ends isNameChar rest) :
    (Mode.namePlaceholder kept).lexemes (chars ++ rest) =
      .placeholder (capitalName (chars.reverse ++ kept)) :: Context.plain.lexemes rest := by
  induction chars generalizing kept with
  | nil =>
    cases rest with
    | nil => rfl
    | cons d rest =>
      have other : isNameChar d = false := ends d rfl
      simp [Mode.lexemes_cons, Mode.next, other, Context.lexemes, Context.plain]
  | cons c chars ih =>
    obtain ⟨name, others⟩ := List.forall_mem_cons.mp h
    rw [List.cons_append, Mode.lexemes_cons, Mode.next, if_pos name, ih _ others,
      List.reverse_cons, List.append_assoc]
    rfl

theorem next_colon_numeral (h : isNumeral c = true) :
    Mode.colon.next c = (.numberPlaceholder [c], []) := by
  have blank := isBlank_eq_false (isNameChar_of_isNumeral h)
  have quote : c ≠ '"' := by
    rintro rfl
    exact absurd h (by decide)
  simp [Mode.next, blank, quote, h]

theorem next_colon_letter (h : isLetter c = true) (other : isNumeral c = false) :
    Mode.colon.next c = (.namePlaceholder [c], []) := by
  have blank := isBlank_eq_false (isNameChar_of_isLetter h)
  have quote : c ≠ '"' := by
    rintro rfl
    exact absurd h (by decide)
  simp [Mode.next, blank, quote, other, h]

theorem lexemes_label {label : Label} (fits : label.Fits rest) :
    Mode.colon.lexemes (label.chars ++ rest) =
      .placeholder label.recorded :: Context.plain.lexemes rest := by
  cases label with
  | quoted inner closed =>
    have step : Mode.colon.next '"' = (.quotedPlaceholder [], []) := rfl
    rw [Label.chars, List.cons_append, Mode.lexemes_cons, step,
      lexemes_quotedPlaceholder _ _ fits.1 _ fits.2]
    simp [ofReversed, Label.recorded]
  | number digits =>
    obtain ⟨nonempty, numerals, ends⟩ := fits
    cases digits with
    | nil => exact absurd rfl nonempty
    | cons c digits =>
      obtain ⟨numeral, others⟩ := List.forall_mem_cons.mp numerals
      rw [Label.chars, List.cons_append, Mode.lexemes_cons, next_colon_numeral numeral,
        lexemes_numberPlaceholder _ _ others ends]
      simp [ofReversed, Label.recorded]
  | plain chars =>
    obtain ⟨⟨c, first, letter, numeral⟩, names, ends⟩ := fits
    obtain ⟨more, rfl⟩ := List.head?_eq_some_iff.mp first
    obtain ⟨-, others⟩ := List.forall_mem_cons.mp names
    rw [Label.chars, List.cons_append, Mode.lexemes_cons, next_colon_letter letter numeral,
      lexemes_namePlaceholder _ _ others ends]
    simp [capitalName, Label.recorded]

theorem lexemes_blanks (blanks : List Char) (h : ∀ c ∈ blanks, isBlank c = true) :
    Mode.colon.lexemes (blanks ++ rest) = Mode.colon.lexemes rest := by
  induction blanks with
  | nil => rfl
  | cons c blanks ih =>
    obtain ⟨blank, others⟩ := List.forall_mem_cons.mp h
    rw [List.cons_append, Mode.lexemes_cons, Mode.next, if_pos blank, ih others]
    rfl

/-! ### Signs -/

/-- A colon that no name follows is passed over like any sign. -/
theorem lexemes_colon (h : Label.startsWith (rest.dropWhile isBlank) = false) :
    Mode.colon.lexemes rest = Context.plain.lexemes rest := by
  induction rest with
  | nil => rfl
  | cons c rest ih =>
    cases blank : isBlank c with
    | true =>
      rw [List.dropWhile_cons_of_pos blank] at h
      rw [Mode.lexemes_cons, Mode.next, if_pos blank, Context.lexemes, Mode.start_blank blank,
        Mode.lexemes_plain]
      exact ih h
    | false =>
      rw [List.dropWhile_cons_of_neg (by simp [blank])] at h
      simp only [Label.startsWith, Bool.or_eq_false_iff, decide_eq_false_iff_not] at h
      obtain ⟨⟨quote, numeral⟩, letter⟩ := h
      simp [Mode.lexemes_cons, Mode.next, blank, quote, numeral, letter, Context.lexemes,
        Context.plain]

theorem lexemes_dash (h : rest.head? ≠ some '-') :
    Mode.dash.lexemes rest = Context.plain.lexemes rest := by
  cases rest with
  | nil => rfl
  | cons c rest =>
    have other : c ≠ '-' := fun same => h (same ▸ rfl)
    simp [Mode.lexemes_cons, Mode.next, other, Context.lexemes, Context.plain]

theorem lexemes_slash (h : rest.head? ≠ some '*') :
    Mode.slash.lexemes rest = Context.plain.lexemes rest := by
  cases rest with
  | nil => rfl
  | cons c rest =>
    have other : c ≠ '*' := fun same => h (same ▸ rfl)
    simp [Mode.lexemes_cons, Mode.next, other, Context.lexemes, Context.plain]

theorem lexemes_sign (sign : Piece.IsSign k rest c) :
    k.lexemes (c :: rest) = Context.plain.lexemes rest := by
  obtain ⟨blank, name, quotes, quote, dash, slash, colon⟩ := sign
  rw [Context.lexemes]
  by_cases isQuote : c = '\''
  · subst isQuote
    obtain ⟨q, rfl⟩ := quote rfl
    rw [Mode.start_quote, if_pos q]
    rfl
  by_cases isDash : c = '-'
  · subst isDash
    rw [Mode.start_dash, lexemes_dash (dash rfl)]
  by_cases isSlash : c = '/'
  · subst isSlash
    rw [Mode.start_slash, lexemes_slash (slash rfl)]
  by_cases isColon : c = ':'
  · subst isColon
    rw [Mode.start_colon]
    split
    · exact Mode.lexemes_plain false rest
    · next free => exact lexemes_colon ((colon rfl).resolve_left free)
  · have other : Mode.start k.afterLiteral k.afterQ c = .plain false := by
      simp [Mode.start, isLetter_of_isNameChar name, blank, isQuote, isDash, isSlash, isColon,
        quotes]
    rw [other, Mode.lexemes_plain]
    rfl

/-! ### Pieces -/

theorem Piece.lexemes_chars (p : Piece) (fits : p.Fits k rest) :
    k.lexemes (p.chars ++ rest) = p.lexemes rest.isEmpty ++ (p.after k).lexemes rest := by
  cases p with
  | blank c =>
    rw [Piece.chars, List.singleton_append, Context.lexemes, Mode.start_blank fits,
      Mode.lexemes_plain]
    rfl
  | symbol c => exact lexemes_sign fits
  | identifier chars => exact lexemes_identifier fits.1 fits.2.1 fits.2.2
  | region r body closed =>
    obtain ⟨suited, fits⟩ := fits
    obtain ⟨after, passed⟩ := Region.read_second k.afterLiteral suited
    rw [Piece.chars, Region.chars, Region.opening, List.append_assoc, List.cons_append,
      Context.lexemes, Mode.lexemes_append, after, passed, Region.lexemes_inside fits]
    exact Mode.lexemes_plain r.isLiteral rest
  | placeholder blanks label =>
    obtain ⟨free, blank, fits⟩ := fits
    rw [Piece.chars, List.cons_append, List.append_assoc, Context.lexemes, Mode.start_colon, free,
      if_neg Bool.false_ne_true, lexemes_blanks blanks blank, lexemes_label fits]
    rfl

theorem Piece.chars_ne_nil (p : Piece) (fits : p.Fits k rest) : p.chars ≠ [] := by
  cases p with
  | identifier chars => exact fits.1
  | _ => exact List.cons_ne_nil _ _

theorem lexemes_written {ps : List Piece} (fit : FitTogether k ps) :
    k.lexemes (written ps) = piecesLexemes ps := by
  induction ps generalizing k with
  | nil => rfl
  | cons p ps ih =>
    obtain ⟨here, behind⟩ := fit
    have last : (written ps).isEmpty = ps.isEmpty := by
      cases ps with
      | nil => rfl
      | cons q qs =>
        have nonempty := q.chars_ne_nil behind.1
        simp [written, nonempty]
    rw [written, List.flatMap_cons, ← written, p.lexemes_chars here, ih behind, last]
    rfl

/-- The lexemes of a text are those of its pieces. -/
theorem IsCut.lexemes {text : List Char} {ps : List Piece} (cut : IsCut text ps) :
    lexemes text = piecesLexemes ps := by
  rw [Statement.lexemes, Mode.lexemes_plain, ← cut.whole]
  exact lexemes_written cut.fit

theorem FitTogether.chars_ne_nil {ps : List Piece} (fit : FitTogether k ps) :
    ∀ p ∈ ps, p.chars ≠ [] := by
  induction ps generalizing k with
  | nil => exact List.forall_mem_nil _
  | cons p ps ih => exact List.forall_mem_cons.mpr ⟨p.chars_ne_nil fit.1, ih fit.2⟩

theorem FitTogether.behind {front back : List Piece} (fit : FitTogether k (front ++ back)) :
    FitTogether (front.foldl Piece.after k) back := by
  induction front generalizing k with
  | nil => exact fit
  | cons p front ih => exact ih fit.2

/-! ## Cuts -/

theorem ends_dropWhile (p : Char → Bool) (text : List Char) : Ends p (text.dropWhile p) := by
  intro c first
  have stops := List.head?_dropWhile_not p text
  rwa [Option.mem_def.mp first] at stops

theorem forall_takeWhile (p : Char → Bool) (text : List Char) :
    ∀ c ∈ text.takeWhile p, p c = true :=
  List.all_eq_true.mp List.all_takeWhile

/-- A text that a pattern occurs in is cut at its first occurrence. -/
theorem exists_first {pattern text : List Char} (nonempty : pattern ≠ []) (h : pattern <:+: text) :
    ∃ body back, text = body ++ pattern ++ back ∧
      ¬ pattern <:+: (body ++ pattern).dropLast := by
  induction text using List.reverseRecOn with
  | nil => exact absurd (List.infix_nil.mp h) nonempty
  | append_singleton text c ih =>
    by_cases before : pattern <:+: text
    · obtain ⟨body, back, rfl, first⟩ := ih before
      exact ⟨body, back ++ [c], by simp, first⟩
    · obtain ⟨body, whole⟩ := (List.infix_concat_iff.mp h).resolve_right before
      refine ⟨body, [], by rw [whole, List.append_nil], ?_⟩
      rwa [whole, List.dropLast_concat]

theorem Region.closing_ne_nil (r : Region) : r.closing ≠ [] := by
  cases r <;> simp [Region.closing]

theorem Region.exists_body (r : Region) (text : List Char) :
    ∃ body closed back, text = (body ++ if closed then r.closing else []) ++ back ∧
      r.Fits body closed back := by
  by_cases closed : r.closing <:+: text
  · obtain ⟨body, back, rfl, first⟩ := exists_first r.closing_ne_nil closed
    exact ⟨body, true, back, rfl, first⟩
  · exact ⟨text, false, [], by simp, closed, rfl⟩

theorem exists_region {r : Region} (suited : r.suits k.afterQ = true) (text : List Char) :
    ∃ p tail, Piece.chars p ++ tail = r.opening ++ text ∧ p.Fits k tail := by
  obtain ⟨body, closed, back, rfl, fits⟩ := r.exists_body text
  exact ⟨.region r body closed, back, by simp [Piece.chars, Region.chars], suited, fits⟩

theorem infix_of_mem (found : c ∈ chars) : [c] <:+: chars := by
  obtain ⟨front, back, rfl⟩ := List.append_of_mem found
  exact ⟨front, back, by simp⟩

theorem exists_label (h : Label.startsWith rest = true) :
    ∃ label tail, Label.chars label ++ tail = rest ∧ label.Fits tail := by
  cases rest with
  | nil => cases h
  | cons c rest =>
    simp only [Label.startsWith, Bool.or_eq_true, decide_eq_true_eq] at h
    by_cases quote : c = '"'
    · obtain ⟨inner, closed, tail, rfl, fits⟩ := Region.quotedName.exists_body rest
      refine ⟨.quoted inner closed, tail, by simp [Label.chars, quote, Region.closing], ?_⟩
      cases closed with
      | true =>
        have first : ¬ ['"'] <:+: (inner ++ ['"']).dropLast := fits
        rw [List.dropLast_concat] at first
        exact ⟨fun found => first (infix_of_mem found), fun unclosed => by cases unclosed⟩
      | false => exact ⟨fun found => fits.1 (infix_of_mem found), fun _ => fits.2⟩
    by_cases numeral : isNumeral c = true
    · refine ⟨.number ((c :: rest).takeWhile isNumeral), (c :: rest).dropWhile isNumeral,
        List.takeWhile_append_dropWhile, ?_, forall_takeWhile _ _, ends_dropWhile _ _⟩
      rw [List.takeWhile_cons_of_pos numeral]
      exact List.cons_ne_nil _ _
    · have letter : isLetter c = true := h.resolve_left (not_or.mpr ⟨quote, numeral⟩)
      refine ⟨.plain ((c :: rest).takeWhile isNameChar), (c :: rest).dropWhile isNameChar,
        List.takeWhile_append_dropWhile, ⟨c, ?_, letter, Bool.eq_false_iff.mpr numeral⟩,
        forall_takeWhile _ _, ends_dropWhile _ _⟩
      rw [List.takeWhile_cons_of_pos (isNameChar_of_isLetter letter)]
      rfl

theorem exists_placeholder (free : k.afterLiteral = false)
    (h : Label.startsWith (rest.dropWhile isBlank) = true) :
    ∃ p tail, Piece.chars p ++ tail = ':' :: rest ∧ p.Fits k tail := by
  obtain ⟨label, tail, cut, fits⟩ := exists_label h
  refine ⟨.placeholder (rest.takeWhile isBlank) label, tail, ?_, free, forall_takeWhile _ _, fits⟩
  rw [Piece.chars, List.cons_append, List.append_assoc, cut, List.takeWhile_append_dropWhile]

theorem exists_piece (k : Context) (c : Char) (rest : List Char) :
    ∃ p tail, Piece.chars p ++ tail = c :: rest ∧ p.Fits k tail := by
  by_cases blank : isBlank c = true
  · exact ⟨.blank c, rest, rfl, blank⟩
  by_cases name : isNameChar c = true
  · refine ⟨.identifier ((c :: rest).takeWhile isNameChar), (c :: rest).dropWhile isNameChar,
      List.takeWhile_append_dropWhile, ?_, forall_takeWhile _ _, ends_dropWhile _ _⟩
    rw [List.takeWhile_cons_of_pos name]
    exact List.cons_ne_nil _ _
  by_cases quotes : c = '"'
  · subst quotes
    exact exists_region (r := .quotedName) rfl rest
  by_cases quote : c = '\'' ∧ ¬ (k.afterQ = true ∧ rest = [])
  · obtain ⟨rfl, more⟩ := quote
    cases q : k.afterQ with
    | false => exact exists_region (r := .literal) (by simp [Region.suits, q]) rest
    | true =>
      cases rest with
      | nil => exact absurd ⟨q, rfl⟩ more
      | cons opener rest => exact exists_region (r := .delimited opener) q rest
  by_cases dash : c = '-' ∧ rest.head? = some '-'
  · obtain ⟨rfl, second⟩ := dash
    obtain ⟨tail, rfl⟩ := List.head?_eq_some_iff.mp second
    exact exists_region (r := .lineComment) rfl tail
  by_cases slash : c = '/' ∧ rest.head? = some '*'
  · obtain ⟨rfl, second⟩ := slash
    obtain ⟨tail, rfl⟩ := List.head?_eq_some_iff.mp second
    exact exists_region (r := .blockComment) rfl tail
  by_cases colon : c = ':' ∧ k.afterLiteral = false ∧
      Label.startsWith (rest.dropWhile isBlank) = true
  · obtain ⟨rfl, free, named⟩ := colon
    exact exists_placeholder free named
  · refine ⟨.symbol c, rest, rfl, Bool.eq_false_iff.mpr blank, Bool.eq_false_iff.mpr name, quotes,
      fun same => ?_, fun same second => dash ⟨same, second⟩,
      fun same second => slash ⟨same, second⟩, fun same => ?_⟩
    · exact not_not.mp fun more => quote ⟨same, more⟩
    · by_cases free : k.afterLiteral = false
      · exact .inr (Bool.eq_false_iff.mpr fun named => colon ⟨same, free, named⟩)
      · exact .inl (by simpa using free)

theorem exists_fit (k : Context) (text : List Char) :
    ∃ ps, written ps = text ∧ FitTogether k ps := by
  induction length : text.length using Nat.strongRecOn generalizing k text with
  | ind n ih =>
    cases text with
    | nil => exact ⟨[], rfl, trivial⟩
    | cons c rest =>
      obtain ⟨p, tail, cut, fits⟩ := exists_piece k c rest
      have shorter : tail.length < n := by
        have nonempty := List.length_pos_iff.mpr (p.chars_ne_nil fits)
        rw [← length, ← cut, List.length_append]
        omega
      obtain ⟨ps, rfl, fit⟩ := ih _ shorter (p.after k) tail rfl
      exact ⟨p :: ps, cut, fits, fit⟩

/-- Every text is cut into pieces. -/
theorem exists_cut (text : List Char) : ∃ ps, IsCut text ps := by
  obtain ⟨ps, whole, fit⟩ := exists_fit .plain text
  exact ⟨ps, whole, fit⟩

end SqlBinder.Statement

import SqlBinder.Proofs.Statement.Comments
import SqlBinder.Proofs.Text.Case
import Mathlib.Data.List.Forall2

/-!
Texts in another case, and behind blanks and comments. Main statement: a text says the same when
letters outside its literals and quoted names change their case, and with blanks and comments in
front of it.

The text is cut into pieces and each piece is written anew by itself. Where a piece begins and ends
does not depend on the case of letters, so the new pieces fit together as the old ones did; and
words are compared in capitals, so they say the same.
-/
namespace SqlBinder.Statement

open Text

/-! ## Texts written anew -/

/-- The name stands between quotes. -/
def Label.isQuoted : Label → Bool
  | .quoted _ _ => true
  | .number _ | .plain _ => false

namespace Piece

/-- The piece is a literal or a quoted name, of a placeholder or not. -/
def isQuoted : Piece → Bool
  | .region r _ _ => !r.isComment
  | .placeholder _ label => label.isQuoted
  | .blank _ | .symbol _ | .identifier _ => false

/-- The piece with its letters in any case, unless they are quoted. -/
def Respelled (p : Piece) (text : List Char) : Prop :=
  if p.isQuoted then text = p.chars else SameLetters text p.chars

instance (p : Piece) (text : List Char) : Decidable (p.Respelled text) := by
  unfold Respelled
  infer_instance

/-- A blank or a complete comment. -/
def IsFiller : Piece → Prop
  | .blank c => isBlank c = true
  | .region r body true => r.isComment = true ∧ r.Fits body true []
  | .region _ _ false | .symbol _ | .identifier _ | .placeholder _ _ => False

instance : (p : Piece) → Decidable p.IsFiller
  | .blank c => inferInstanceAs (Decidable (isBlank c = true))
  | .region r body true => inferInstanceAs (Decidable (r.isComment = true ∧ r.Fits body true []))
  | .region _ _ false | .symbol _ | .identifier _ | .placeholder _ _ =>
    inferInstanceAs (Decidable False)

/-- The pieces are the same but for the case of letters that are not quoted. -/
inductive Alike : Piece → Piece → Prop
  | same (p : Piece) : Alike p p
  | identifier {chars other : List Char} (letters : SameLetters other chars) :
    Alike (.identifier chars) (.identifier other)
  | comment {r : Region} {body other : List Char} {closed : Bool} (comment : r.isComment = true)
    (letters : SameLetters other body) : Alike (.region r body closed) (.region r other closed)
  | placeholder {blanks chars other : List Char} (letters : SameLetters other chars) :
    Alike (.placeholder blanks (.plain chars)) (.placeholder blanks (.plain other))

end Piece

/-! ## Cuts -/

variable {k : Context} {c : Char} {rest rest' text : List Char} {p q : Piece}

theorem isBlank_toUpper (c : Char) : isBlank c.toUpper = isBlank c :=
  apply_toUpper (f := isBlank) (by decide +kernel) c

theorem isNameChar_toUpper (c : Char) : isNameChar c.toUpper = isNameChar c :=
  apply_toUpper (f := isNameChar) (by decide +kernel) c

theorem isCaseless_of_isBlank (h : isBlank c = true) : IsCaseless c :=
  isCaseless_of_isLetter (isLetter_of_isNameChar (isNameChar_of_isBlank h))

/-- Signs that stand in front of the letters in ASCII. -/
theorem isCaseless_of_lt {signs : List Char} (low : signs.all (fun c => c.toNat < 65) = true) :
    ∀ c ∈ signs, IsCaseless c := fun c found =>
  isCaseless_of_isLetter (isLetter_eq_false (of_decide_eq_true (List.all_eq_true.mp low c found)))

theorem Region.isCaseless_delimiters {r : Region} (comment : r.isComment = true) :
    (∀ c ∈ r.opening, IsCaseless c) ∧ ∀ c ∈ r.closing, IsCaseless c := by
  cases r with
  | lineComment | blockComment => exact ⟨isCaseless_of_lt (by decide), isCaseless_of_lt (by decide)⟩
  | literal | delimited _ | quotedName => cases comment

/-- What a placeholder has in front of its label. -/
theorem isCaseless_colon_blanks {blanks : List Char} (h : ∀ c ∈ blanks, isBlank c = true) :
    ∀ c ∈ ':' :: blanks, IsCaseless c :=
  List.forall_mem_cons.mpr
    ⟨isCaseless_of_isLetter (by decide +kernel), fun c found => isCaseless_of_isBlank (h c found)⟩

/-- Of a comment only the body changes. -/
theorem Region.exists_alike {r : Region} {body : List Char} {closed : Bool}
    (comment : r.isComment = true) (h : SameLetters text (r.chars body closed)) :
    ∃ other, SameLetters other body ∧ r.chars other closed = text := by
  obtain ⟨opening, inside, rfl, opens, inner⟩ := h.exists_append
  obtain ⟨other, closing, rfl, letters, closes⟩ := inner.exists_append
  obtain ⟨opensFixed, closesFixed⟩ := isCaseless_delimiters comment
  have fixed : ∀ c ∈ if closed then r.closing else [], IsCaseless c := by
    cases closed with
    | true => exact closesFixed
    | false => exact List.forall_mem_nil _
  refine ⟨other, letters, ?_⟩
  rw [opens.eq_of_caseless opensFixed, closes.eq_of_caseless fixed]
  rfl

/-- A piece written anew is a piece of its kind. -/
theorem Piece.Respelled.exists_alike (h : p.Respelled text) (fits : p.Fits k rest) :
    ∃ q, p.Alike q ∧ q.chars = text := by
  cases p with
  | blank c =>
    have same : SameLetters text [c] := h
    refine ⟨_, .same _, (same.eq_of_caseless ?_).symm⟩
    simpa using isCaseless_of_isBlank fits
  | symbol c =>
    have same : SameLetters text [c] := h
    refine ⟨_, .same _, (same.eq_of_caseless ?_).symm⟩
    simpa using isCaseless_of_isLetter (isLetter_of_isNameChar fits.2.1)
  | identifier chars => exact ⟨.identifier text, .identifier h, rfl⟩
  | region r body closed =>
    cases comment : r.isComment with
    | false =>
      have quoted : (Piece.region r body closed).isQuoted = true := by simp [isQuoted, comment]
      rw [Respelled, if_pos quoted] at h
      exact ⟨_, .same _, h.symm⟩
    | true =>
      have plain : ¬ (Piece.region r body closed).isQuoted = true := by simp [isQuoted, comment]
      rw [Respelled, if_neg plain] at h
      obtain ⟨other, letters, rfl⟩ := Region.exists_alike comment h
      exact ⟨.region r other closed, .comment comment letters, rfl⟩
  | placeholder blanks label =>
    obtain ⟨-, blank, labelFits⟩ := fits
    have front := isCaseless_colon_blanks blank
    cases label with
    | quoted inner closed => exact ⟨_, .same _, Eq.symm h⟩
    | number digits =>
      -- a numeral may be a letter too, but none that has another case in ASCII
      have same : SameLetters text ((':' :: blanks) ++ digits) := h
      refine ⟨_, .same _, (same.eq_of_caseless fun c found => ?_).symm⟩
      rcases List.mem_append.mp found with before | digit
      · exact front c before
      · exact isCaseless_of_isNumeral (labelFits.2.1 c digit)
    | plain chars =>
      have same : SameLetters text ((':' :: blanks) ++ chars) := h
      obtain ⟨before, other, rfl, colon, letters⟩ := same.exists_append
      refine ⟨.placeholder blanks (.plain other), .placeholder letters, ?_⟩
      rw [colon.eq_of_caseless front]
      rfl

theorem Piece.Alike.sameLetters (alike : p.Alike q) : SameLetters q.chars p.chars := by
  cases alike with
  | same => exact .refl _
  | identifier letters => exact letters
  | comment _ letters => exact (SameLetters.refl _).append (letters.append (.refl _))
  | @placeholder blanks _ _ letters => exact SameLetters.append (.refl (':' :: blanks)) letters

/-! ### What stands behind a piece -/

theorem Ends.respelled {f : Char → Bool} (blind : ∀ c, f c.toUpper = f c)
    (letters : SameLetters rest' rest) (ends : Ends f rest) : Ends f rest' := by
  intro c first
  obtain ⟨tail, rfl⟩ := List.head?_eq_some_iff.mp first
  obtain ⟨d, tail', rfl, same, -⟩ := letters.symm.exists_cons
  rw [← apply_eq_of_toUpper blind same, ends d rfl]

theorem Label.startsWith_respelled (letters : SameLetters rest' rest) :
    startsWith rest' = startsWith rest := by
  cases rest with
  | nil => rw [letters.eq_nil_iff.mpr rfl]
  | cons c rest =>
    obtain ⟨d, tail, rfl, same, -⟩ := letters.exists_cons
    exact apply_eq_of_toUpper (f := fun c => startsWith [c])
      (apply_toUpper (f := fun c => startsWith [c]) (by decide +kernel)) same

theorem Label.Fits.respelled {label : Label} (letters : SameLetters rest' rest)
    (fits : label.Fits rest) : label.Fits rest' := by
  cases label with
  | quoted inner closed => exact ⟨fits.1, fun open' => letters.eq_nil_iff.mpr (fits.2 open')⟩
  | number digits => exact ⟨fits.1, fits.2.1, fits.2.2.respelled isNumeral_toUpper letters⟩
  | plain chars => exact ⟨fits.1, fits.2.1, fits.2.2.respelled isNameChar_toUpper letters⟩

theorem Region.Fits.respelled {r : Region} {body : List Char} {closed : Bool}
    (letters : SameLetters rest' rest) (fits : r.Fits body closed rest) :
    r.Fits body closed rest' := by
  cases closed with
  | true => exact fits
  | false => exact ⟨fits.1, letters.eq_nil_iff.mpr fits.2⟩

theorem Piece.IsSign.respelled (letters : SameLetters rest' rest) (sign : IsSign k rest c) :
    IsSign k rest' c := by
  obtain ⟨blank, name, quotes, quote, dash, slash, colon⟩ := sign
  refine ⟨blank, name, quotes, fun same => ?_, fun same => ?_, fun same => ?_, fun same => ?_⟩
  · exact ⟨(quote same).1, letters.eq_nil_iff.mpr (quote same).2⟩
  · exact letters.head?_ne (isCaseless_of_isLetter (by decide +kernel)) (dash same)
  · exact letters.head?_ne (isCaseless_of_isLetter (by decide +kernel)) (slash same)
  · rw [Label.startsWith_respelled (letters.dropWhile isBlank_toUpper)]
    exact colon same

theorem Piece.Fits.respelled (letters : SameLetters rest' rest) (fits : p.Fits k rest) :
    p.Fits k rest' := by
  cases p with
  | blank c => exact fits
  | symbol c => exact IsSign.respelled letters fits
  | identifier chars => exact ⟨fits.1, fits.2.1, fits.2.2.respelled isNameChar_toUpper letters⟩
  | region r body closed => exact ⟨fits.1, fits.2.respelled letters⟩
  | placeholder blanks label => exact ⟨fits.1, fits.2.1, fits.2.2.respelled letters⟩

/-! ### The piece itself -/

theorem Region.Fits.alike {r : Region} {body other : List Char} {closed : Bool}
    (comment : r.isComment = true) (letters : SameLetters other body)
    (fits : r.Fits body closed rest) : r.Fits other closed rest := by
  have fixed := (isCaseless_delimiters comment).2
  cases closed with
  | true =>
    have unclosed : ¬ r.closing <:+: (body ++ r.closing).dropLast := fits
    exact fun found => unclosed ((letters.append (.refl _)).dropLast.symm.isInfix fixed found)
  | false => exact ⟨fun found => fits.1 (letters.symm.isInfix fixed found), fits.2⟩

theorem Piece.Alike.fits (alike : p.Alike q) (fits : p.Fits k rest) : q.Fits k rest := by
  cases alike with
  | same => exact fits
  | identifier letters =>
    obtain ⟨nonempty, names, ends⟩ := fits
    exact ⟨fun none => nonempty (letters.eq_nil_iff.mp none), letters.all isNameChar_toUpper names,
      ends⟩
  | comment comment letters => exact ⟨fits.1, fits.2.alike comment letters⟩
  | placeholder letters =>
    obtain ⟨free, blank, ⟨c, first, letter, numeral⟩, names, ends⟩ := fits
    obtain ⟨tail, rfl⟩ := List.head?_eq_some_iff.mp first
    obtain ⟨d, tail', rfl, same, -⟩ := letters.exists_cons
    exact ⟨free, blank, ⟨d, rfl, (apply_eq_of_toUpper isLetter_toUpper same).trans letter,
      (apply_eq_of_toUpper isNumeral_toUpper same).trans numeral⟩,
      letters.all isNameChar_toUpper names, ends⟩

theorem endsInQ_respelled {letters other : List Char} (same : SameLetters other letters) :
    endsInQ other = endsInQ letters := by
  cases letters with
  | nil => rw [same.eq_nil_iff.mpr rfl]
  | cons c letters =>
    obtain ⟨d, tail, rfl, first, -⟩ := same.exists_cons
    exact apply_eq_of_toUpper (f := fun c => endsInQ [c])
      (apply_toUpper (f := fun c => endsInQ [c]) (by decide +kernel)) first

theorem Piece.Alike.after (alike : p.Alike q) : q.after k = p.after k := by
  cases alike with
  | identifier letters => rw [Piece.after, Piece.after, endsInQ_respelled letters.reverse]
  | same | comment _ _ | placeholder _ => rfl

theorem sameLetters_written {ps qs : List Piece} (alike : List.Forall₂ Piece.Alike ps qs) :
    SameLetters (written qs) (written ps) := by
  induction alike with
  | nil => rfl
  | cons here _ ih => exact here.sameLetters.append ih

/-- Pieces in another case follow one another as they did. -/
theorem FitTogether.respelled {ps qs : List Piece} (alike : List.Forall₂ Piece.Alike ps qs)
    (fit : FitTogether k ps) : FitTogether k qs := by
  induction alike generalizing k with
  | nil => trivial
  | cons here more ih =>
    -- first the piece changes, then what stands behind it
    refine ⟨(here.fits fit.1).respelled (sameLetters_written more), ?_⟩
    rw [here.after]
    exact ih fit.2

theorem exists_alike {ps : List Piece} {texts : List (List Char)} (fit : FitTogether k ps)
    (h : List.Forall₂ Piece.Respelled ps texts) :
    ∃ qs, List.Forall₂ Piece.Alike ps qs ∧ written qs = texts.flatten := by
  induction h generalizing k with
  | nil => exact ⟨[], .nil, rfl⟩
  | cons here _ ih =>
    obtain ⟨q, alike, rfl⟩ := here.exists_alike fit.1
    obtain ⟨qs, others, whole⟩ := ih fit.2
    exact ⟨q :: qs, .cons alike others, by rw [written, List.flatMap_cons, ← written, whole]; rfl⟩

/-! ## What is said -/

/-- The lexeme with its word in capitals. -/
def Lexeme.capital : Lexeme → Lexeme
  | .word letters => .word (letters.map Char.toUpper)
  | .lastWord letters => .lastWord (letters.map Char.toUpper)
  | .placeholder name => .placeholder name

namespace Reading

theorem spells_toUpper (letters : List Char) (word : String) :
    spells (letters.map Char.toUpper) word = spells letters word := by
  rw [spells, spells, show _ = _ from SameLetters.toUpper letters]

/-- Words count by their letters in whatever case. -/
theorem add_capital (r : Reading) (l : Lexeme) : r.add l.capital = r.add l := by
  have keyword : ∀ letters, r.setKeyword (letters.map Char.toUpper) = r.setKeyword letters := by
    intro letters
    rw [setKeyword, setKeyword, (SameLetters.toUpper letters).upper_eq]
  cases l with
  | word letters => simp only [Lexeme.capital, add, addWord, spells_toUpper, keyword]
  | lastWord letters => simp only [Lexeme.capital, add, keyword]
  | placeholder name => rfl

end Reading

theorem Info.ofLexemes_capital (ls : List Lexeme) :
    ofLexemes (ls.map Lexeme.capital) = ofLexemes ls := by
  rw [ofLexemes, List.foldl_map]
  simp only [Reading.add_capital]
  rfl

theorem letterRuns_toUpper (chars : List Char) :
    letterRuns (chars.map Char.toUpper) = (letterRuns chars).map (List.map Char.toUpper) := by
  induction chars with
  | nil => rfl
  | cons c chars ih =>
    unfold letterRuns at ih ⊢
    rw [List.map_cons, List.splitOnP_cons_eq_if_modifyHead, List.splitOnP_cons_eq_if_modifyHead, ih,
      isLetter_toUpper]
    split
    · rfl
    · cases List.splitOnP (fun c => !isLetter c) chars <;> rfl

theorem wordsOfRuns_toUpper (last : Bool) (runs : List (List Char)) :
    (wordsOfRuns last runs).map Lexeme.capital =
      wordsOfRuns last (runs.map (List.map Char.toUpper)) := by
  induction runs with
  | nil => rfl
  | cons run runs ih =>
    rw [List.map_cons, wordsOfRuns, wordsOfRuns, List.map_append, ih, List.isEmpty_map]
    congr 1
    simp only [List.map_eq_nil_iff]
    split
    · rfl
    · split <;> rfl

theorem Piece.Alike.lexemes (alike : p.Alike q) (last : Bool) :
    (q.lexemes last).map Lexeme.capital = (p.lexemes last).map Lexeme.capital := by
  cases alike with
  | identifier letters =>
    rw [Piece.lexemes, Piece.lexemes, wordsOfRuns_toUpper, wordsOfRuns_toUpper,
      ← letterRuns_toUpper, ← letterRuns_toUpper, letters]
  | placeholder letters =>
    rw [Piece.lexemes, Piece.lexemes, Label.recorded, Label.recorded, letters.upper_eq]
  | same | comment _ _ => rfl

theorem piecesLexemes_alike {ps qs : List Piece} (alike : List.Forall₂ Piece.Alike ps qs) :
    (piecesLexemes qs).map Lexeme.capital = (piecesLexemes ps).map Lexeme.capital := by
  induction alike with
  | nil => rfl
  | @cons p q ps qs here more ih =>
    have last : qs.isEmpty = ps.isEmpty := by cases more <;> rfl
    rw [piecesLexemes, piecesLexemes, List.map_append, List.map_append, ih, last, here.lexemes]

/-! ## What stands in front -/

theorem FitTogether.behind_fillers {fillers ps : List Piece} (h : ∀ p ∈ fillers, p.IsFiller)
    (fit : FitTogether .plain ps) : FitTogether .plain (fillers ++ ps) := by
  induction fillers with
  | nil => exact fit
  | cons p fillers ih =>
    obtain ⟨filler, others⟩ := List.forall_mem_cons.mp h
    cases p with
    | blank c => exact ⟨filler, ih others⟩
    | region r body closed =>
      cases closed with
      | false => cases filler
      | true =>
        obtain ⟨comment, fits⟩ := filler
        cases r with
        | lineComment | blockComment => exact ⟨⟨rfl, fits⟩, ih others⟩
        | literal | delimited _ | quotedName => cases comment
    | symbol _ | identifier _ | placeholder _ _ => cases filler

theorem piecesLexemes_fillers {fillers : List Piece} (h : ∀ p ∈ fillers, p.IsFiller)
    (ps : List Piece) : piecesLexemes (fillers ++ ps) = piecesLexemes ps := by
  induction fillers with
  | nil => rfl
  | cons p fillers ih =>
    obtain ⟨filler, others⟩ := List.forall_mem_cons.mp h
    rw [List.cons_append, piecesLexemes, ih others]
    cases p with
    | blank _ | region _ _ _ => rfl
    | symbol _ | identifier _ | placeholder _ _ => cases filler

/-! ## Whole texts -/

/-- Every text is cut into pieces, and says the same when the pieces that are not quoted are written
with letters in any other case. It says the same behind blanks and complete comments. -/
theorem scan_respelled (sql : String) :
    (∃ ps, IsCut sql.toList ps) ∧
    (∀ ps texts, IsCut sql.toList ps → List.Forall₂ Piece.Respelled ps texts →
      scan (String.ofList texts.flatten) = scan sql) ∧
    ∀ fillers, (∀ p ∈ fillers, Piece.IsFiller p) →
      scan (String.ofList (written fillers ++ sql.toList)) = scan sql := by
  refine ⟨exists_cut _, fun ps texts cut respelled => ?_, fun fillers h => ?_⟩
  · obtain ⟨qs, alike, whole⟩ := exists_alike cut.fit respelled
    have recut : IsCut texts.flatten qs := ⟨whole, cut.fit.respelled alike⟩
    rw [scan, scan, String.toList_ofList, recut.lexemes, cut.lexemes, ← Info.ofLexemes_capital,
      piecesLexemes_alike alike, Info.ofLexemes_capital]
  · obtain ⟨ps, whole, fit⟩ := exists_cut sql.toList
    have longer : IsCut (written fillers ++ sql.toList) (fillers ++ ps) :=
      ⟨by rw [← whole, written, List.flatMap_append]; rfl, fit.behind_fillers h⟩
    rw [scan, scan, String.toList_ofList, longer.lexemes, piecesLexemes_fillers h,
      IsCut.lexemes ⟨whole, fit⟩]

/-- The pieces of `Update t set a = q'[X]', "b" = :Id`. -/
def update : List Piece :=
  [.identifier "Update".toList, .blank ' ', .identifier "t".toList, .blank ' ',
    .identifier "set".toList, .blank ' ', .identifier "a".toList, .blank ' ', .symbol '=',
    .blank ' ', .identifier "q".toList, .region (.delimited '[') "X".toList true, .symbol ',',
    .blank ' ', .region .quotedName "b".toList true, .blank ' ', .symbol '=', .blank ' ',
    .placeholder [] (.plain "Id".toList)]

/-- The texts of these pieces in another case. -/
def updateRecased : List (List Char) :=
  ["UPDATE", " ", "T", " ", "set", " ", "A", " ", "=", " ", "Q", "'[X]'", ",", " ", "\"b\"", " ",
    "=", " ", ":iD"].map String.toList

/-- An update in another case, and behind a comment. -/
theorem update_respelled :
    IsCut "Update t set a = q'[X]', \"b\" = :Id".toList update ∧
      List.Forall₂ Piece.Respelled update updateRecased ∧
      scan "UPDATE T set A = Q'[X]', \"b\" = :iD" =
        scan "Update t set a = q'[X]', \"b\" = :Id" ∧
      scan "/* :x */ \nUpdate t set a = q'[X]', \"b\" = :Id" =
        scan "Update t set a = q'[X]', \"b\" = :Id" := by
  have cut : IsCut "Update t set a = q'[X]', \"b\" = :Id".toList update :=
    ⟨by decide +kernel, by decide +kernel⟩
  have respelled : List.Forall₂ Piece.Respelled update updateRecased := by decide +kernel
  have fillers : ∀ p ∈ [.region .blockComment " :x ".toList true, .blank ' ', .blank '\n'],
      Piece.IsFiller p := by
    decide +kernel
  obtain ⟨-, recased, behind⟩ := scan_respelled "Update t set a = q'[X]', \"b\" = :Id"
  refine ⟨cut, respelled, ?_, ?_⟩
  · rw [← recased _ _ cut respelled]
    exact congrArg scan (by decide +kernel)
  · rw [← behind _ fillers]
    exact congrArg scan (by decide +kernel)

end SqlBinder.Statement

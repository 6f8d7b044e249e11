import SqlBinder.Proofs.Binding.Descriptors
import SqlBinder.Proofs.Decimal.Numeral
import SqlBinder.Proofs.Statement.Coherence
import SqlBinder.Proofs.Statement.Returning

/-!
Placeholders as a text spells them. Main statement: the names of a statement are those of the
placeholders that the scan comes to, and a caller who names one as it stands in the text, with or
without its colon, reaches it.

A label begins and ends with visible characters, so trimming stops at it, and normalizing does the
same to the label alone as to the whole placeholder. Which names a scan records is told by the
pieces of the text: each placeholder's, unless the statement defines something and its first word is
behind.
-/
namespace SqlBinder

namespace Statement

/-- Quotes that the label opens are closed. -/
def Label.isTerminated : Label → Bool
  | .quoted _ closed => closed
  | .number _ | .plain _ => true

/-! ## What a scan records -/

namespace Reading

variable {r : Reading} {l : Lexeme} {ls : List Lexeme} {name : String}

/-- Placeholders count up to the first word of a definition. -/
def Counts (ls : List Lexeme) : Prop := (of ls).info.isDdl = false

instance (ls : List Lexeme) : Decidable (Counts ls) :=
  inferInstanceAs (Decidable (_ = false))

theorem mem_bindNames_addPlaceholder (recorded : String) :
    name ∈ (r.addPlaceholder recorded).info.bindNames ↔
      name ∈ r.info.bindNames ∨ recorded = name := by
  unfold addPlaceholder
  by_cases known : recorded ∈ r.info.bindNames
  · have old : recorded = name → name ∈ r.info.bindNames := fun same => same ▸ known
    rw [or_iff_left_of_imp old]
    cases block : r.info.isPlsql <;> simp [known]
  · simp only [List.contains_eq_mem, known, decide_false, Bool.and_false, Bool.false_eq_true,
      if_false, List.mem_append, List.mem_singleton, eq_comm]

theorem bindNames_addWord (letters : List Char) :
    (r.addWord letters).info.bindNames = r.info.bindNames := by
  unfold addWord
  split
  · split <;> rfl
  · split <;> rfl

theorem mem_bindNames_add : name ∈ (r.add l).info.bindNames ↔
    name ∈ r.info.bindNames ∨ (r.info.isDdl = false ∧ l = .placeholder name) := by
  unfold add
  cases definition : r.info.isDdl with
  | true => simp
  | false =>
    cases l with
    | placeholder recorded => simpa using mem_bindNames_addPlaceholder recorded
    | word letters =>
      cases keyword : r.hasKeyword with
      | true => simp [bindNames_addWord]
      | false => simp [setKeyword]
    | lastWord letters =>
      cases keyword : r.hasKeyword with
      | true => simp
      | false => simp [setKeyword]

theorem mem_bindNames_of :
    name ∈ (of ls).info.bindNames ↔ Behind Counts (· = .placeholder name) ls := by
  induction ls using List.reverseRecOn with
  | nil => simp [of, empty, not_behind_nil]
  | append_singleton ls l ih => rw [of_concat, mem_bindNames_add, ih, behind_concat]; rfl

end Reading

/-- Only a placeholder is read as one. -/
theorem Piece.exists_of_lexemes {p : Piece} {last : Bool} {name : String} {ls ls' : List Lexeme}
    (h : p.lexemes last = ls ++ .placeholder name :: ls') :
    ls = [] ∧ ls' = [] ∧ ∃ blanks label, p = .placeholder blanks label ∧ label.recorded = name := by
  cases p with
  | placeholder blanks label =>
    obtain ⟨rfl, alone⟩ | ⟨_, behind⟩ := List.singleton_eq_append_iff.mp h
    · obtain ⟨same, rfl⟩ := List.cons.inj alone
      exact ⟨rfl, rfl, blanks, label, rfl, (Lexeme.placeholder.inj same).symm⟩
    · cases behind
  | identifier chars =>
    have found : Lexeme.placeholder name ∈ wordsOfRuns last (letterRuns chars) := by
      rw [← Piece.lexemes, h]
      simp
    obtain ⟨run, -, word | word⟩ := mem_wordsOfRuns found <;> cases word
  | _ => exact absurd h.symm (List.append_ne_nil_of_right_ne_nil _ (List.cons_ne_nil _ _))

theorem exists_of_piecesLexemes {ps : List Piece} {name : String} {ls ls' : List Lexeme}
    (h : piecesLexemes ps = ls ++ .placeholder name :: ls') :
    ∃ front blanks label back, ps = front ++ .placeholder blanks label :: back ∧
      said front = ls ∧ label.recorded = name := by
  induction ps generalizing ls with
  | nil => exact absurd h.symm (List.append_ne_nil_of_right_ne_nil _ (List.cons_ne_nil _ _))
  | cons p ps ih =>
    obtain ⟨mid, rfl, behind⟩ | ⟨mid, here, behind⟩ := List.append_eq_append_iff.mp h
    · obtain ⟨front, blanks, label, back, rfl, rfl, same⟩ := ih behind
      have more : (front ++ .placeholder blanks label :: back).isEmpty = false := by simp
      exact ⟨p :: front, blanks, label, back, rfl, by rw [said_cons, more], same⟩
    · cases mid with
      | nil =>
        obtain ⟨front, blanks, label, back, rfl, none, same⟩ := @ih [] behind.symm
        have more : (front ++ .placeholder blanks label :: back).isEmpty = false := by simp
        rw [List.append_nil, more] at here
        exact ⟨p :: front, blanks, label, back, rfl, by rw [said_cons, none, here]; simp, same⟩
      | cons l mid =>
        obtain ⟨rfl, -⟩ := List.cons.inj behind
        obtain ⟨rfl, rfl, blanks, label, rfl, same⟩ := Piece.exists_of_lexemes here
        exact ⟨[], blanks, label, ps, rfl, rfl, same⟩

/-- The text holds the placeholder, and the scan comes to it. -/
def Records (sql : String) (blanks : List Char) (label : Label) : Prop :=
  ∃ front back, IsCut sql.toList (front ++ .placeholder blanks label :: back) ∧
    Reading.Counts (said front)

theorem mem_bindNames_scan {sql name : String} : name ∈ (scan sql).bindNames ↔
    ∃ blanks label, Records sql blanks label ∧ label.recorded = name := by
  have read : name ∈ (scan sql).bindNames ↔ _ := Reading.mem_bindNames_of
  rw [read]
  constructor
  · rintro ⟨before, l, after, split, counts, rfl⟩
    obtain ⟨ps, cut⟩ := exists_cut sql.toList
    obtain ⟨front, blanks, label, back, rfl, rfl, same⟩ :=
      exists_of_piecesLexemes (cut.lexemes.symm.trans split)
    exact ⟨blanks, label, ⟨front, back, cut, counts⟩, same⟩
  · rintro ⟨blanks, label, ⟨front, back, cut, counts⟩, rfl⟩
    exact ⟨said front, _, piecesLexemes back, by rw [cut.lexemes, piecesLexemes_append]; rfl,
      counts, rfl⟩

end Statement

namespace Binding

open Statement Text

/-! ## Names as they are spelled -/

theorem trim_visible {cs : List Char} (front : ∀ c ∈ cs.head?, isBlank c = false)
    (back : ∀ c ∈ cs.getLast?, isBlank c = false) : trim cs = cs := by
  have start : trimStart cs = cs :=
    trimStart_append (List.forall_mem_nil _) fun c first => by simp [front c first]
  have stop : trimEnd (cs ++ []) = cs :=
    trimEnd_append (List.forall_mem_nil _) fun c last => by simp [back c last]
  rw [trim, start]
  simpa using stop

section Labels

variable {label : Label} {rest blanks : List Char}

/-- A label starts with a visible character that is no colon. -/
theorem head_label (fits : label.Fits rest) :
    ∃ c more, label.chars = c :: more ∧ isBlank c = false ∧ c ≠ ':' := by
  have apart : ∀ {c}, isNameChar c = true → isBlank c = false ∧ c ≠ ':' := by
    refine fun name => ⟨isBlank_eq_false name, ?_⟩
    rintro rfl
    exact absurd name (by decide)
  cases label with
  | quoted inner closed => exact ⟨'"', _, rfl, by decide, by decide⟩
  | number digits =>
    obtain ⟨nonempty, numerals, -⟩ := fits
    obtain ⟨c, more, rfl⟩ := List.exists_cons_of_ne_nil nonempty
    exact ⟨c, more, rfl, apart (isNameChar_of_isNumeral (numerals c List.mem_cons_self))⟩
  | plain chars =>
    obtain ⟨⟨c, first, letter, -⟩, -⟩ := fits
    obtain ⟨more, rfl⟩ := List.head?_eq_some_iff.mp first
    exact ⟨c, more, rfl, apart (isNameChar_of_isLetter letter)⟩

/-- A complete label ends with a visible character. -/
theorem getLast_label (fits : label.Fits rest) (terminated : label.isTerminated = true) :
    ∀ c ∈ label.chars.getLast?, isBlank c = false := by
  intro c last
  have among := List.mem_of_getLast? last
  cases label with
  | quoted inner closed =>
    obtain rfl : closed = true := terminated
    rw [Label.chars, if_pos rfl, ← List.cons_append, List.getLast?_concat] at last
    obtain rfl := Option.some.inj last
    decide
  | number digits => exact isBlank_eq_false (isNameChar_of_isNumeral (fits.2.1 c among))
  | plain chars => exact isBlank_eq_false (fits.2.1 c among)

/-- The recorded form follows from the label, whatever is trimmed off in front of it. -/
theorem normalizeChars_of_front (fits : label.Fits rest) (terminated : label.isTerminated = true)
    {cs : List Char} (front : trimStart (dropOne ':' (trim cs)) = label.chars) :
    String.ofList (normalizeChars cs) = label.recorded := by
  unfold normalizeChars
  rw [front]
  cases label with
  | quoted inner closed =>
    obtain rfl : closed = true := terminated
    simp [Label.chars, Label.recorded, unquote?]
  | number digits =>
    obtain ⟨-, numerals, -⟩ := fits
    have unquoted : unquote? digits = none := by
      unfold unquote?
      split
      · exact absurd (numerals '"' List.mem_cons_self) (by decide)
      · rfl
    simp [Label.chars, Label.recorded, unquoted, List.all_eq_true.mpr numerals]
  | plain chars =>
    obtain ⟨⟨c, first, letter, other⟩, -⟩ := fits
    obtain ⟨more, rfl⟩ := List.head?_eq_some_iff.mp first
    have unquoted : unquote? (c :: more) = none := by
      unfold unquote?
      split
      · rename_i quote
        obtain ⟨rfl, -⟩ := List.cons.inj quote
        exact absurd letter (by decide)
      · rfl
    simp [Label.chars, Label.recorded, unquoted, other]

/-- The label alone. -/
theorem normalizeName_label (fits : label.Fits rest) (terminated : label.isTerminated = true) :
    normalizeName (String.ofList label.chars) = label.recorded := by
  obtain ⟨c, more, written, visible, sign⟩ := head_label fits
  refine normalizeChars_of_front fits terminated ?_
  rw [String.toList_ofList,
    trim_visible (by simp [written, visible]) (getLast_label fits terminated), written, dropOne,
    if_neg sign]
  exact trimStart_append (List.forall_mem_nil _) (by simp [visible])

/-- The whole placeholder, with the colon and the blanks behind it. -/
theorem normalizeName_placeholder (fits : label.Fits rest)
    (terminated : label.isTerminated = true) (blank : ∀ c ∈ blanks, isBlank c = true) :
    normalizeName (String.ofList (Piece.placeholder blanks label).chars) = label.recorded := by
  obtain ⟨c, more, written, visible, -⟩ := head_label fits
  have nonempty : label.chars ≠ [] := written ▸ List.cons_ne_nil c more
  have last : (':' :: (blanks ++ label.chars)).getLast? = label.chars.getLast? := by
    rw [← List.cons_append, List.getLast?_append_of_ne_nil _ nonempty]
  refine normalizeChars_of_front fits terminated ?_
  rw [String.toList_ofList, Piece.chars,
    trim_visible (by simp; decide) (last ▸ getLast_label fits terminated), dropOne, if_pos rfl]
  exact trimStart_append blank (by simp [written, visible])

end Labels

/-! ## Places -/

variable {info : Info} {name spelling : String} {i : Nat}

/-- The recorded form is looked for first. -/
theorem placeOf_eq_ok (place : info.positionOf name = some i)
    (recorded : normalizeName spelling = name) : placeOf info spelling = .ok i := by
  rw [placeOf, recorded, place]
  rfl

/-- The last bind that names a place is the one given for it. -/
theorem given_named {param : Param} (before : List (String × Param)) {after : List (String × Param)}
    (here : placeOf info spelling = .ok i) (last : ∀ q ∈ after, placeOf info q.1 ≠ .ok i) :
    (Binds.named (before ++ (spelling, param) :: after)).given info i = some param := by
  have none : after.reverse.find? (fun p => (placeOf info p.1).toOption == some i) = none := by
    refine List.find?_eq_none.mpr fun q found => ?_
    have other := last q (List.mem_reverse.mp found)
    cases place : placeOf info q.1 with
    | error e => simp [Except.toOption]
    | ok j => simpa [Except.toOption, place] using other
  have found : (placeOf info spelling).toOption = some i := by rw [here]; rfl
  simp [Binds.given, List.find?_append, none, found]

/-- The descriptor of a placeholder is that of the bind given for it. -/
theorem resolve_named {params : List (String × Param)} {param : Param} {o : BindOptions}
    {ds : List Descriptor} (h : resolve info (.named params) o = .ok ds)
    (there : info.bindNames[i]? = some name)
    (given : (Binds.named params).given info i = some param) :
    ∃ d, ds[i]? = some d ∧ resolveOne info name (i + 1) (.name name) param o = .ok d := by
  have names := resolve_placeholders h
  simp only [resolve, Except.bind_ok] at h
  obtain ⟨places, denoted, resolved⟩ := h
  rw [← names, List.getElem?_map, Option.map_eq_some_iff] at there
  obtain ⟨d, listed, same⟩ := there
  obtain ⟨name', param', there', last, one⟩ := resolveNamed_each resolved i listed
  rw [Nat.zero_add, lastAt_placed denoted, given] at last
  obtain rfl := Option.some.inj last
  obtain rfl : name' = name := (resolveOne_placeholder one).symm.trans same
  exact ⟨d, listed, by rwa [Nat.zero_add] at one⟩

/-- A name that the scan records has its place. -/
theorem exists_place (member : name ∈ info.bindNames) :
    ∃ i, info.bindNames[i]? = some name ∧ info.positionOf name = some i := by
  cases place : info.positionOf name with
  | none => exact absurd member (Info.positionOf_eq_none.mp place)
  | some i => exact ⟨i, (Info.positionOf_eq_some.mp place).1, rfl⟩

/-- A statement has the names of the placeholders that the scan comes to, each read off its label.
A caller may spell such a name as the text does, from the colon on or the label alone: normalized it
is the recorded name, it denotes the place of that name, and the last bind that does so is the one
that is resolved there. -/
theorem spellings_reach_placeholder (sql : String) :
    (∀ name, name ∈ (scan sql).bindNames ↔
      ∃ blanks label, Records sql blanks label ∧ label.recorded = name) ∧
    ∀ front blanks label back, IsCut sql.toList (front ++ .placeholder blanks label :: back) →
      Reading.Counts (said front) →
      (∃ behind, lexemes sql.toList = said front ++ .placeholder label.recorded :: behind) ∧
      (label.isTerminated = true →
        ∀ spelling ∈ [(Piece.placeholder blanks label).chars, label.chars],
          normalizeName (String.ofList spelling) = label.recorded ∧
          ∃ i, (scan sql).bindNames[i]? = some label.recorded ∧
            placeOf (scan sql) (String.ofList spelling) = .ok i ∧
            ∀ before after param o ds, (∀ q ∈ after, placeOf (scan sql) q.1 ≠ .ok i) →
              resolve (scan sql) (.named (before ++ (String.ofList spelling, param) :: after)) o =
                .ok ds →
              ∃ d, ds[i]? = some d ∧ resolveOne (scan sql) label.recorded (i + 1)
                (.name label.recorded) param o = .ok d) := by
  refine ⟨fun name => mem_bindNames_scan, fun front blanks label back cut counts => ⟨?_, ?_⟩⟩
  · exact ⟨piecesLexemes back, by rw [cut.lexemes, piecesLexemes_append]; rfl⟩
  · intro terminated spelling spelled
    obtain ⟨-, blank, fits⟩ := cut.fit.behind.1
    have recorded : normalizeName (String.ofList spelling) = label.recorded := by
      rcases List.mem_pair.mp spelled with rfl | rfl
      · exact normalizeName_placeholder fits terminated blank
      · exact normalizeName_label fits terminated
    have member : label.recorded ∈ (scan sql).bindNames :=
      mem_bindNames_scan.mpr ⟨blanks, label, ⟨front, back, cut, counts⟩, rfl⟩
    obtain ⟨i, there, place⟩ := exists_place member
    have here := placeOf_eq_ok place recorded
    refine ⟨recorded, i, there, here, fun before after param o ds last resolved => ?_⟩
    exact resolve_named resolved there (given_named before here last)

/-- The pieces of `select : straße, :"a b"`. -/
def selection : List Piece :=
  [.identifier "select".toList, .blank ' ', .placeholder [' '] (.plain "straße".toList),
    .symbol ',', .blank ' ', .placeholder [] (.quoted "a b".toList true)]

/-- A name with a letter of two capitals, spelled with the blank behind its colon. -/
theorem spelled_street_reaches :
    IsCut "select : straße, :\"a b\"".toList selection ∧
      normalizeName ": straße" = "STRASSE" ∧
      placeOf (scan "select : straße, :\"a b\"") ": straße" = .ok 0 ∧
      ∃ ds d, resolve (scan "select : straße, :\"a b\"")
          (.named [("\"a b\"", .value .null), (": straße", .value (.integer 1))]) {} = .ok ds ∧
        ds[0]? = some d ∧
        resolveOne (scan "select : straße, :\"a b\"") "STRASSE" 1 (.name "STRASSE")
          (.value (.integer 1)) {} = .ok d := by
  have cut : IsCut "select : straße, :\"a b\"".toList selection :=
    ⟨by decide +kernel, by decide +kernel⟩
  obtain ⟨-, spelled⟩ := (spellings_reach_placeholder "select : straße, :\"a b\"").2
    (selection.take 2) [' '] (.plain "straße".toList) (selection.drop 3) cut (by decide +kernel)
  have name : (Label.plain "straße".toList).recorded = "STRASSE" := by decide +kernel
  obtain ⟨recorded, i, there, place, reached⟩ := spelled rfl ": straße".toList (by decide +kernel)
  rw [name] at recorded there reached
  have first : placeOf (scan "select : straße, :\"a b\"") ": straße" = .ok 0 := by rfl
  obtain rfl : i = 0 := Except.ok.inj (place.symm.trans first)
  obtain ⟨d, listed, one⟩ := reached [("\"a b\"", .value .null)] [] (.value (.integer 1)) {} _
    (List.forall_mem_nil _) rfl
  exact ⟨cut, recorded, first, _, d, rfl, listed, one⟩

end Binding

end SqlBinder

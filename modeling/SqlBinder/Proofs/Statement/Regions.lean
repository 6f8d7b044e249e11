import SqlBinder.Proofs.Binding.Placeholders
import Mathlib.Data.List.Infix

/-!
Comments, literals and quoted identifiers. Main statement: whatever stands between the opening of
such a region and the first occurrence of its closing, the scan of the text is the same, and a text
whose colons all stand in regions has no placeholders.

Inside a region the reader is in one of a few modes, and the body cannot lead it out of them before
the closing occurs; that is an induction on the body. Behind the closing only the sort of the region
is remembered. A colon inside is met in one of these modes and starts nothing.
-/
namespace SqlBinder.Statement

open Text

/-- A part of a text that is passed over, by its delimiters. A literal with a delimiter starts at
its quote, behind the `q`. -/
inductive Region where
  | lineComment
  | blockComment
  | literal
  | delimited (opener : Char)
  | quotedName
  deriving DecidableEq, Repr

namespace Region

/-- The character that a region starts with. -/
def first : Region → Char
  | .lineComment => '-'
  | .blockComment => '/'
  | .literal | .delimited _ => '\''
  | .quotedName => '"'

/-- What completes the opening. -/
def second : Region → List Char
  | .lineComment => ['-']
  | .blockComment => ['*']
  | .delimited opener => [opener]
  | .literal | .quotedName => []

/-- The characters that a region opens with. -/
def opening (r : Region) : List Char := r.first :: r.second

/-- The characters that end a region; a literal with a delimiter ends with the other one of its
pair. -/
def closing : Region → List Char
  | .lineComment => ['\n']
  | .blockComment => ['*', '/']
  | .literal => ['\'']
  | .delimited opener => [closingDelimiter opener, '\'']
  | .quotedName => ['"']

/-- The region as it is written. One that is not closed ends with the text. -/
def chars (r : Region) (body : List Char) (closed : Bool) : List Char :=
  r.opening ++ (body ++ if closed then r.closing else [])

/-- The body is all of the region's body: the closing first occurs right behind it, or nowhere. -/
def Fits (r : Region) (body : List Char) (closed : Bool) (back : List Char) : Prop :=
  if closed then ¬ r.closing <:+: (body ++ r.closing).dropLast
  else ¬ r.closing <:+: body ∧ back = []

instance (r : Region) (body : List Char) (closed : Bool) (back : List Char) :
    Decidable (r.Fits body closed back) := by
  unfold Fits
  infer_instance

/-- A literal has a delimiter when its quote stands behind a `q`, and only then. -/
def suits (afterQ : Bool) : Region → Bool
  | .literal => !afterQ
  | .delimited _ => afterQ
  | .lineComment | .blockComment | .quotedName => true

/-- The mode inside the region, behind a part of the body. -/
def within : Region → List Char → Mode
  | .lineComment, _ => .lineComment
  | .blockComment, part => .blockComment (part.getLast? = some '*')
  | .literal, _ => .literal
  | .delimited opener, part =>
    .delimited (closingDelimiter opener) (part.getLast? = some (closingDelimiter opener))
  | .quotedName, _ => .quotedName

/-- It is a literal of either sort. Behind one a colon starts no placeholder. -/
def isLiteral : Region → Bool
  | .literal | .delimited _ => true
  | .lineComment | .blockComment | .quotedName => false

/-- The mode behind the closing. -/
def behind (r : Region) : Mode := .plain r.isLiteral

end Region

/-! ## Where a region starts -/

/-- The character is read between tokens: no region, placeholder or opening runs up to it. -/
def Mode.reaches : Mode → Char → Bool
  | .plain _, _ | .word _, _ => true
  | .dash, c => c ≠ '-'
  | .slash, c => c ≠ '*'
  | .colon, c => !isBlank c && c ≠ '"' && !isNumeral c && !isLetter c
  | .numberPlaceholder _, c => !isNumeral c
  | .namePlaceholder _, c => !isNameChar c
  | _, _ => false

/-- The last character read is a `q` of the text itself, not of a placeholder. -/
def Mode.followsQ : Mode → Bool
  | .word letters => endsInQ letters
  | _ => false

/-- The region starts with the next character. -/
def Mode.opens (mode : Mode) (r : Region) : Bool :=
  mode.reaches r.first && r.suits mode.followsQ

/-- The reader comes to the region when it has read the text in front of it. -/
def StandsAfter (front : List Char) (r : Region) : Prop :=
  ((Mode.plain false).after front).opens r = true

instance (front : List Char) (r : Region) : Decidable (StandsAfter front r) :=
  inferInstanceAs (Decidable (_ = true))

/-- The character at this place of the text belongs to a region, delimiters included. -/
def InRegion (text : List Char) (place : Nat) : Prop :=
  ∃ front r body closed back, StandsAfter front r ∧ Region.Fits r body closed back ∧
    text = front ++ (r.chars body closed ++ back) ∧
    front.length ≤ place ∧ place < front.length + (r.chars body closed).length

/-- What is read between tokens and is no letter says nothing of what came before it, except
whether a literal or a `q` did. -/
theorem Mode.next_of_reaches {mode : Mode} {c : Char} (h : mode.reaches c = true)
    (sign : isLetter c = false) :
    ∃ afterLiteral, (mode.next c).1 = .start afterLiteral mode.followsQ c := by
  cases mode with
  | plain afterLiteral => exact ⟨afterLiteral, rfl⟩
  | word letters => exact ⟨false, by simp [next, sign, followsQ]⟩
  | dash => exact ⟨false, by simp_all [reaches, next, followsQ]⟩
  | slash => exact ⟨false, by simp_all [reaches, next, followsQ]⟩
  | colon => exact ⟨false, by simp_all [reaches, next, followsQ]⟩
  | numberPlaceholder chars => exact ⟨false, by simp_all [reaches, next, followsQ]⟩
  | namePlaceholder chars => exact ⟨false, by simp_all [reaches, next, followsQ]⟩
  | _ => cases h

theorem isLetter_eq_false {c : Char} (h : c.toNat < 65) : isLetter c = false :=
  inside_of_lt _ h

namespace Mode

variable (afterLiteral afterQ : Bool)

@[simp] theorem start_quote :
    start afterLiteral afterQ '\'' = if afterQ then .delimiter else .literal := by
  rw [start, isLetter_eq_false (by decide)]
  rfl

@[simp] theorem start_dash : start afterLiteral afterQ '-' = .dash := by
  rw [start, isLetter_eq_false (by decide)]
  rfl

@[simp] theorem start_slash : start afterLiteral afterQ '/' = .slash := by
  rw [start, isLetter_eq_false (by decide)]
  rfl

@[simp] theorem start_doubleQuote : start afterLiteral afterQ '"' = .quotedName := by
  rw [start, isLetter_eq_false (by decide)]
  rfl

end Mode

namespace Region

variable {r : Region} {body back part : List Char} {closed : Bool} {mode : Mode}

theorem isLetter_first : isLetter r.first = false := by
  refine isLetter_eq_false ?_
  cases r <;> simp [first]

/-- The opening leads inside and says nothing. -/
theorem read_second (afterLiteral : Bool) {afterQ : Bool} (h : r.suits afterQ = true) :
    (Mode.start afterLiteral afterQ r.first).after r.second = r.within [] ∧
      (Mode.start afterLiteral afterQ r.first).passed r.second = [] := by
  cases r with
  | lineComment => rw [first, Mode.start_dash]; exact ⟨rfl, rfl⟩
  | blockComment => rw [first, Mode.start_slash]; exact ⟨rfl, rfl⟩
  | literal => rw [first, Mode.start_quote, (Bool.not_eq_true' _).mp h]; exact ⟨rfl, rfl⟩
  | delimited opener =>
    rw [first, Mode.start_quote, show afterQ = true from h]
    exact ⟨rfl, rfl⟩
  | quotedName => rw [first, Mode.start_doubleQuote]; exact ⟨rfl, rfl⟩

theorem after_opening (h : mode.opens r = true) : mode.after r.opening = r.within [] := by
  obtain ⟨reached, suited⟩ := Bool.and_eq_true_iff.mp h
  obtain ⟨_, started⟩ := Mode.next_of_reaches reached isLetter_first
  rw [opening, Mode.after, started, (read_second _ suited).1]

/-! ## The inside -/

theorem single_suffix {x c : Char} : [x] <:+ part ++ [c] ↔ c = x := by
  have last : [] ++ [x] <:+ part ++ [c] ↔ [] <:+ part ∧ [x] = [c] :=
    List.suffix_append_inj_of_length_eq rfl
  rw [List.nil_append] at last
  simp [last, eq_comm]

theorem pair_suffix {x y c : Char} :
    [x, y] <:+ part ++ [c] ↔ part.getLast? = some x ∧ c = y := by
  have last : [x] ++ [y] <:+ part ++ [c] ↔ [x] <:+ part ∧ [y] = [c] :=
    List.suffix_append_inj_of_length_eq rfl
  rw [List.singleton_append] at last
  rw [last, List.getLast?_eq_some_iff]
  simp [List.IsSuffix, eq_comm]

/-- Inside, a character completes the closing or is more of the body. -/
theorem next_within (c : Char) :
    (r.within part).next c =
      (if r.closing <:+ part ++ [c] then r.behind else r.within (part ++ [c]), []) := by
  cases r with
  | lineComment => simp only [closing, single_suffix]; rfl
  | blockComment => simp [closing, pair_suffix, within, Mode.next, behind, isLiteral]
  | literal => simp only [closing, single_suffix]; rfl
  | delimited opener => simp [closing, pair_suffix, within, Mode.next, behind, isLiteral]
  | quotedName => simp only [closing, single_suffix]; rfl

theorem read_within (part : List Char) {more : List Char} (h : ¬ r.closing <:+: part ++ more) :
    (r.within part).after more = r.within (part ++ more) ∧ (r.within part).passed more = [] := by
  induction more generalizing part with
  | nil => simp [Mode.after, Mode.passed]
  | cons c rest ih =>
    rw [List.append_cons] at h ⊢
    have unclosed : ¬ r.closing <:+ part ++ [c] :=
      fun done => h (done.isInfix.trans (List.prefix_append _ _).isInfix)
    obtain ⟨after, passed⟩ := ih (part ++ [c]) h
    simp [Mode.after, Mode.passed, next_within, unclosed, after, passed]

theorem finish_within : (r.within part).finish = [] := by
  cases r <;> rfl

theorem finish_behind : r.behind.finish = [] := by
  cases r <;> rfl

/-- A body up to its closing says nothing. -/
theorem read_closing (fits : ¬ r.closing <:+: (body ++ r.closing).dropLast) :
    (r.within []).after (body ++ r.closing) = r.behind ∧
      (r.within []).passed (body ++ r.closing) = [] := by
  rcases List.eq_nil_or_concat (body ++ r.closing) with none | ⟨inner, c, written⟩
  · cases r <;> simp [closing] at none
  · rw [List.concat_eq_append] at written
    have ends : r.closing <:+ inner ++ [c] := written ▸ List.suffix_append _ _
    rw [written, List.dropLast_concat] at fits
    obtain ⟨after, passed⟩ := read_within [] fits
    simp [written, Mode.after_append, Mode.passed_append, after, passed, Mode.after, Mode.passed,
      next_within, ends]

/-- A region read to its end says nothing, whatever its body. -/
theorem lexemes_inside (fits : r.Fits body closed back) :
    (r.within []).lexemes ((body ++ if closed then r.closing else []) ++ back) =
      r.behind.lexemes back := by
  cases closed with
  | true =>
    obtain ⟨after, passed⟩ := read_closing fits
    rw [if_pos rfl, Mode.lexemes_append, after, passed, List.nil_append]
  | false =>
    obtain ⟨inner, rfl⟩ := fits
    obtain ⟨after, passed⟩ := read_within [] inner
    simp [Mode.lexemes, after, passed, finish_within, finish_behind, Mode.after, Mode.passed]

theorem lexemes_chars (h : mode.opens r = true) (fits : r.Fits body closed back) :
    mode.lexemes (r.chars body closed ++ back) =
      mode.passed r.opening ++ r.behind.lexemes back := by
  rw [chars, List.append_assoc, Mode.lexemes_append, after_opening h, lexemes_inside fits]

/-! ## Colons -/

theorem first_ne_colon : r.first ≠ ':' := by
  cases r <;> simp [first]

theorem length_second : r.second.length ≤ 1 := by
  cases r <;> simp [second]

theorem next_colon_within (part : List Char) : ((r.within part).next ':').1 ≠ .colon := by
  rw [next_within]
  split
  · cases r <;> simp [behind]
  · cases r <;> simp [within]

/-- No colon behind the opening starts a placeholder. -/
theorem next_colon_inside (part : List Char) (fits : r.Fits body closed back) {rest : List Char}
    (written : (body ++ if closed then r.closing else []) = part ++ ':' :: rest) :
    (((r.within []).after part).next ':').1 ≠ .colon := by
  have unclosed : ¬ r.closing <:+: part := by
    cases closed with
    | true =>
      rw [if_pos rfl] at written
      have inner : ¬ r.closing <:+: (body ++ r.closing).dropLast := fits
      rw [written, List.dropLast_append_cons] at inner
      exact fun h => inner (h.trans (List.prefix_append _ _).isInfix)
    | false =>
      have whole : body = part ++ ':' :: rest := by simpa using written
      exact fun h => fits.1 (h.trans (whole ▸ (List.prefix_append _ _).isInfix))
  rw [(read_within [] unclosed).1]
  exact next_colon_within _

/-- No colon of a region starts a placeholder. -/
theorem next_colon_ne (h : mode.opens r = true) (fits : r.Fits body closed back)
    {inner rest : List Char} (written : r.chars body closed = inner ++ ':' :: rest) :
    ((mode.after inner).next ':').1 ≠ .colon := by
  rcases List.append_eq_append_iff.mp written with ⟨part, rfl, more⟩ | ⟨part, opens, more⟩
  · rw [Mode.after_append, after_opening h]
    exact next_colon_inside part fits more
  · cases part with
    | nil =>
      rw [List.append_nil] at opens
      rw [← opens, after_opening h]
      exact next_colon_inside [] fits more.symm
    | cons c others =>
      obtain ⟨rfl, -⟩ := List.cons.inj more
      -- the one opening with a colon is that of a literal with a colon for its delimiter
      have last : others = [] := by
        cases inner with
        | nil => exact absurd (List.cons.inj opens).1 first_ne_colon
        | cons d inner =>
          have short : r.second.length = (inner ++ ':' :: others).length :=
            congrArg List.length (List.cons.inj opens).2
          have one := length_second (r := r)
          rw [List.length_append, List.length_cons] at short
          exact List.length_eq_zero_iff.mp (by omega)
      have opened := after_opening h
      rw [opens, last, Mode.after_append] at opened
      rw [show ((mode.after inner).next ':').1 = r.within [] from opened]
      cases r <;> simp [within]

end Region

/-- Not in a placeholder, and not where one may start. -/
def Mode.isSilent : Mode → Bool
  | .colon | .quotedPlaceholder _ | .numberPlaceholder _ | .namePlaceholder _ => false
  | _ => true

/-- It is a placeholder and no word. -/
def Lexeme.isPlaceholder : Lexeme → Bool
  | .placeholder _ => true
  | _ => false

namespace Mode

variable {mode : Mode} {c : Char}

theorem start_eq_colon {afterLiteral afterQ : Bool}
    (h : start afterLiteral afterQ c = .colon) : c = ':' := by
  unfold start at h
  repeat' split at h
  all_goals simp_all

theorem isSilent_start {afterLiteral afterQ : Bool}
    (h : start afterLiteral afterQ c ≠ .colon) : (start afterLiteral afterQ c).isSilent = true := by
  unfold start at h ⊢
  repeat' split
  all_goals simp_all [isSilent]

/-- Away from placeholders a character stays so, or is read between tokens. -/
theorem next_of_silent (silent : mode.isSilent = true) :
    (mode.next c).1.isSilent = true ∨
      ∃ afterLiteral afterQ, (mode.next c).1 = .start afterLiteral afterQ c := by
  cases mode with
  | plain afterLiteral => exact .inr ⟨_, _, rfl⟩
  | colon | quotedPlaceholder _ | numberPlaceholder _ | namePlaceholder _ => cases silent
  | delimiter => exact .inl rfl
  | _ =>
    unfold next
    dsimp only
    split
    · exact .inl rfl
    · first
      | exact .inl rfl
      | exact .inr ⟨_, _, rfl⟩

theorem next_eq_colon (silent : mode.isSilent = true) (h : (mode.next c).1 = .colon) :
    c = ':' := by
  rcases next_of_silent silent with still | ⟨_, _, started⟩
  · rw [h] at still
    cases still
  · exact start_eq_colon (started.symm.trans h)

theorem isSilent_next (silent : mode.isSilent = true) (h : (mode.next c).1 ≠ .colon) :
    (mode.next c).1.isSilent = true := by
  rcases next_of_silent silent with still | ⟨_, _, started⟩
  · exact still
  · rw [started] at h ⊢
    exact isSilent_start h

theorem isPlaceholder_next (silent : mode.isSilent = true) {lexeme : Lexeme}
    (h : lexeme ∈ (mode.next c).2) : lexeme.isPlaceholder = false := by
  cases mode with
  | word letters =>
    simp only [next] at h
    split at h <;> simp_all [Lexeme.isPlaceholder]
  | colon | quotedPlaceholder _ | numberPlaceholder _ | namePlaceholder _ => cases silent
  | _ => simp [next] at h

theorem isPlaceholder_finish (silent : mode.isSilent = true) {lexeme : Lexeme}
    (h : lexeme ∈ mode.finish) : lexeme.isPlaceholder = false := by
  cases mode with
  | colon | quotedPlaceholder _ | numberPlaceholder _ | namePlaceholder _ => cases silent
  | _ => simp_all [finish, Lexeme.isPlaceholder]

theorem lexemes_cons (mode : Mode) (c : Char) (rest : List Char) :
    mode.lexemes (c :: rest) = (mode.next c).2 ++ (mode.next c).1.lexemes rest := by
  rw [← List.singleton_append, lexemes_append]
  simp [passed, Mode.after]

/-- A text no colon of which starts a placeholder has none. -/
theorem isPlaceholder_lexemes {cs : List Char} (silent : mode.isSilent = true)
    (h : ∀ before rest, cs = before ++ ':' :: rest → ((mode.after before).next ':').1 ≠ .colon)
    {lexeme : Lexeme} (found : lexeme ∈ mode.lexemes cs) : lexeme.isPlaceholder = false := by
  induction cs generalizing mode with
  | nil => exact isPlaceholder_finish silent found
  | cons c rest ih =>
    have stays : (mode.next c).1.isSilent = true := by
      refine isSilent_next silent fun colon => ?_
      obtain rfl := next_eq_colon silent colon
      exact h [] rest rfl colon
    rw [lexemes_cons] at found
    rcases List.mem_append.mp found with here | behind
    · exact isPlaceholder_next silent here
    · exact ih stays (fun before rest' split => h (c :: before) rest' (by rw [split]; rfl)) behind

end Mode

namespace Reading

theorem occurrences_setKeyword (r : Reading) (letters : List Char) :
    (r.setKeyword letters).info.occurrences = r.info.occurrences :=
  rfl

theorem occurrences_addWord (r : Reading) (letters : List Char) :
    (r.addWord letters).info.occurrences = r.info.occurrences := by
  unfold addWord
  split
  · split <;> rfl
  · split <;> rfl

theorem occurrences_add (r : Reading) {lexeme : Lexeme} (h : lexeme.isPlaceholder = false) :
    (r.add lexeme).info.occurrences = r.info.occurrences := by
  unfold add
  split
  · rfl
  · cases lexeme with
    | word letters =>
      dsimp only
      split
      · exact occurrences_addWord r letters
      · exact occurrences_setKeyword r letters
    | lastWord letters =>
      dsimp only
      split
      · rfl
      · exact occurrences_setKeyword r letters
    | placeholder name => cases h

theorem occurrences_foldl (r : Reading) {lexemes : List Lexeme}
    (h : ∀ lexeme ∈ lexemes, lexeme.isPlaceholder = false) :
    (lexemes.foldl add r).info.occurrences = r.info.occurrences := by
  induction lexemes generalizing r with
  | nil => rfl
  | cons lexeme rest ih =>
    obtain ⟨here, behind⟩ := List.forall_mem_cons.mp h
    rw [List.foldl_cons, ih _ behind, occurrences_add r here]

end Reading

/-- A place within the middle of three parts cuts the middle one. -/
theorem exists_inner {α : Type} {before rest front middle back : List α} {c : α}
    (text : before ++ c :: rest = front ++ (middle ++ back))
    (starts : front.length ≤ before.length)
    (ends : before.length < front.length + middle.length) :
    ∃ inner more, before = front ++ inner ∧ middle = inner ++ c :: more := by
  obtain ⟨inner, rfl⟩ : front <+: before :=
    List.prefix_of_prefix_length_le ⟨_, rfl⟩ ⟨_, text⟩ starts
  rw [List.append_assoc, List.append_cancel_left_eq] at text
  rw [List.length_append, Nat.add_lt_add_iff_left] at ends
  obtain ⟨more, rfl⟩ : inner <+: middle :=
    List.prefix_of_prefix_length_le ⟨_, rfl⟩ ⟨_, text.symm⟩ (Nat.le_of_lt ends)
  cases more with
  | nil => simp at ends
  | cons d more =>
    rw [List.append_assoc, List.append_cancel_left_eq] at text
    obtain ⟨rfl, -⟩ := List.cons.inj text
    exact ⟨inner, more, rfl, rfl⟩

/-- What stands in regions does not count. Whatever the body of a region that the reader comes to,
the scan of the text is the same; and a text with colons in regions only has no placeholders. -/
theorem scan_regions :
    (∀ (front back : List Char) (r : Region) (body other : List Char) (closed closed' : Bool),
      StandsAfter front r → r.Fits body closed back → r.Fits other closed' back →
        scan (String.ofList (front ++ (r.chars other closed' ++ back))) =
          scan (String.ofList (front ++ (r.chars body closed ++ back)))) ∧
    ∀ sql : String, (∀ place, sql.toList[place]? = some ':' → InRegion sql.toList place) →
      (scan sql).bindNames = [] ∧ (scan sql).occurrences = [] := by
  constructor
  · intro front back r body other closed closed' stands fits fits'
    simp only [scan, lexemes, String.toList_ofList, Mode.lexemes_append (Mode.plain false) front]
    rw [Region.lexemes_chars stands fits, Region.lexemes_chars stands fits']
  · intro sql inside
    have none : (scan sql).occurrences = [] := by
      refine Reading.occurrences_foldl _ fun lexeme => Mode.isPlaceholder_lexemes rfl ?_
      intro before rest written
      obtain ⟨front, r, body, closed, back, stands, fits, text, starts, ends⟩ :=
        inside before.length (by simp [written])
      obtain ⟨inner, more, rfl, cut⟩ := exists_inner (written.symm.trans text) starts ends
      rw [Mode.after_append]
      exact Region.next_colon_ne stands fits cut
    exact ⟨by rw [bindNames_scan, none]; rfl, none⟩

/-- Another body of a literal with a delimiter, and a text with its one colon in a literal. -/
theorem scan_regions_literals :
    (StandsAfter "select q".toList (.delimited '[') ∧
      (Region.delimited '[').Fits "it's :a".toList true ", :c".toList ∧
      (Region.delimited '[').Fits "] returning :b into ".toList true ", :c".toList ∧
      scan "select q'[] returning :b into ]', :c" = scan "select q'[it's :a]', :c") ∧
    (∀ place, "select ':a'".toList[place]? = some ':' → InRegion "select ':a'".toList place) ∧
      (scan "select ':a'").bindNames = [] ∧ (scan "select ':a'").occurrences = [] := by
  have stands : StandsAfter "select q".toList (.delimited '[') := by decide +kernel
  have fits : (Region.delimited '[').Fits "it's :a".toList true ", :c".toList := by decide +kernel
  have fits' : (Region.delimited '[').Fits "] returning :b into ".toList true ", :c".toList := by
    decide +kernel
  have inside : ∀ place, "select ':a'".toList[place]? = some ':' →
      InRegion "select ':a'".toList place := by
    intro place colon
    have only : ∀ place < 11, "select ':a'".toList[place]? = some ':' → place = 8 := by decide
    obtain rfl := only place (List.getElem?_eq_some_iff.mp colon).1 colon
    exact ⟨"select ".toList, .literal, ":a".toList, true, [], by decide +kernel, by decide +kernel,
      rfl, by decide, by decide⟩
  have replaced := scan_regions.1 _ _ _ _ _ true true stands fits fits'
  have text : String.ofList ("select q".toList ++
      ((Region.delimited '[').chars "it's :a".toList true ++ ", :c".toList)) =
        "select q'[it's :a]', :c" := by
    decide +kernel
  have text' : String.ofList ("select q".toList ++
      ((Region.delimited '[').chars "] returning :b into ".toList true ++ ", :c".toList)) =
        "select q'[] returning :b into ]', :c" := by
    decide +kernel
  rw [text, text'] at replaced
  exact ⟨⟨stands, fits, fits', replaced⟩, inside, scan_regions.2 _ inside⟩

end SqlBinder.Statement

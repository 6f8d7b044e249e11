import SqlBinder.Proofs.Decimal.Digits
import SqlBinder.Text.Blank
import Mathlib.Algebra.Field.Rat
import Mathlib.Data.List.DropRight
import Mathlib.Data.List.TakeWhile

/-!
The grammar of numbers in text and the rational number a text denotes. Main statements: a text
denotes at most one number, and what reading takes apart is the numeral the text spells.

A numeral is data, with the text that it is written as; so reading can be shown to undo writing,
part by part. Each part is read as far as it goes, and what stands behind it cannot belong to it.
-/
namespace SqlBinder.Text

theorem trimStart_append {before cs : List Char} (blank : ∀ c ∈ before, isBlank c)
    (visible : ∀ c ∈ cs.head?, ¬isBlank c) : trimStart (before ++ cs) = cs := by
  rw [trimStart, List.dropWhile_append_of_pos blank]
  cases cs with
  | nil => rfl
  | cons c cs => exact List.dropWhile_cons_of_neg (visible c rfl)

theorem trimEnd_append {cs after : List Char} (blank : ∀ c ∈ after, isBlank c)
    (visible : ∀ c ∈ cs.getLast?, ¬isBlank c) : trimEnd (cs ++ after) = cs := by
  have reversed := @trimStart_append after.reverse cs.reverse
    (by simpa using blank) (by simpa using visible)
  rw [trimEnd, List.reverse_append, ← trimStart, reversed, List.reverse_reverse]

/-- Blanks around a text without any do not count. -/
theorem trim_surrounded {before core after : List Char} (blank : ∀ c ∈ before, isBlank c)
    (blank' : ∀ c ∈ after, isBlank c) (visible : ∀ c ∈ core, ¬isBlank c) (nonempty : core ≠ []) :
    trim (before ++ core ++ after) = core := by
  rw [trim, List.append_assoc, trimStart_append blank,
    trimEnd_append blank' fun c last => visible c (List.mem_of_getLast? last)]
  intro c head
  rw [List.head?_append_of_ne_nil _ nonempty] at head
  exact visible c (List.mem_of_head? head)

/-- A text is what trimming leaves with blanks around it. -/
theorem exists_blanks (cs : List Char) : ∃ before after, (∀ c ∈ before, isBlank c) ∧
    (∀ c ∈ after, isBlank c) ∧ cs = before ++ trim cs ++ after := by
  refine ⟨cs.takeWhile isBlank, (trimStart cs).rtakeWhile isBlank,
    fun _ => List.mem_takeWhile_imp, fun _ => List.mem_rtakeWhile_imp, ?_⟩
  have front : cs.takeWhile isBlank ++ trimStart cs = cs := List.takeWhile_append_dropWhile
  have back : trim cs ++ (trimStart cs).rtakeWhile isBlank = trimStart cs :=
    List.rdropWhile_append_rtakeWhile
  rw [List.append_assoc, back, front]

end SqlBinder.Text

namespace SqlBinder.Decimal

open SqlBinder.Text

/-- What stands in front of the digits. -/
inductive Sign where
  | absent
  | plus
  | minus
  deriving DecidableEq, Repr

namespace Sign

/-- The sign as it is written. -/
def chars : Sign → List Char
  | absent => []
  | plus => ['+']
  | minus => ['-']

/-- Only a minus makes a number negative. -/
def negative (s : Sign) : Bool := s = minus

end Sign

/-- An exponent: its mark, a sign and at least one digit. -/
structure Exponent where
  mark : Char
  sign : Sign
  digits : List Nat
  marked : mark = 'e' ∨ mark = 'E'
  nonempty : digits ≠ []
  allDigits : AllDigits digits

namespace Exponent

/-- The exponent as it is written. -/
def chars (e : Exponent) : List Char := e.mark :: (e.sign.chars ++ digitChars e.digits)

/-- The number that the exponent is. -/
def value (e : Exponent) : Int :=
  if e.sign.negative then -(ofDigits e.digits : Int) else ofDigits e.digits

end Exponent

/-- A number as it is written: a sign, digits, the digits behind the point if there is one, and
an exponent if there is one. At least one digit stands on either side of the point. -/
structure Numeral where
  sign : Sign
  whole : List Nat
  fraction : Option (List Nat)
  exponent : Option Exponent
  wholeDigits : AllDigits whole
  fractionDigits : AllDigits (fraction.getD [])
  hasDigit : whole ≠ [] ∨ fraction.getD [] ≠ []

namespace Numeral

variable (n : Numeral)

/-- The digits behind the point. -/
def decimals : List Nat := n.fraction.getD []

/-- The point and the digits behind it, if there is a point. -/
def fractionChars : List Char := n.fraction.elim [] fun ds => '.' :: digitChars ds

/-- The exponent, if there is one. -/
def exponentChars : List Char := n.exponent.elim [] Exponent.chars

/-- The numeral as it is written, without blanks. -/
def chars : List Char :=
  n.sign.chars ++ (digitChars n.whole ++ (n.fractionChars ++ n.exponentChars))

/-- The power of ten the exponent asks for. -/
def scale : Int := n.exponent.elim 0 Exponent.value

/-- The number without its sign. -/
def size : ℚ :=
  (ofDigits n.whole + ofDigits n.decimals / 10 ^ n.decimals.length) * 10 ^ n.scale

/-- The number that the numeral denotes. -/
def value : ℚ := if n.sign.negative then -n.size else n.size

/-- The text is the numeral with blanks around it. -/
def Spells (text : String) : Prop :=
  ∃ before after, (∀ c ∈ before, isBlank c) ∧ (∀ c ∈ after, isBlank c) ∧
    text.toList = before ++ n.chars ++ after

end Numeral

/-- The text is a number in the grammar above, and its value is `q`. -/
def Denotes (text : String) (q : ℚ) : Prop := ∃ n : Numeral, n.Spells text ∧ n.value = q

/-! Reading signs and integers. -/

theorem splitSign_append (s : Sign) {rest : List Char}
    (unsigned : ∀ c ∈ rest.head?, c ≠ '-' ∧ c ≠ '+') :
    splitSign (s.chars ++ rest) = (s.negative, rest) := by
  cases s with
  | plus => rfl
  | minus => rfl
  | absent =>
    rw [Sign.chars, List.nil_append]
    unfold splitSign
    split
    next => exact absurd rfl (unsigned '-' rfl).1
    next => exact absurd rfl (unsigned '+' rfl).2
    next => rfl

/-- A text is its sign and what is behind it. -/
theorem exists_sign (cs : List Char) :
    ∃ s : Sign, s.negative = (splitSign cs).1 ∧ s.chars ++ (splitSign cs).2 = cs := by
  unfold splitSign
  split
  · exact ⟨.minus, rfl, rfl⟩
  · exact ⟨.plus, rfl, rfl⟩
  · exact ⟨.absent, rfl, rfl⟩

theorem digitChar_ne {d : Nat} {c : Char} (digit : d < 10) (no : digit? c = none) :
    d.digitChar ≠ c := by
  rintro rfl
  rw [digit?_digitChar digit] at no
  cases no

theorem head?_digitChars {ds : List Nat} {c : Char} {rest : List Char} (nonempty : ds ≠ [])
    (head : c ∈ (digitChars ds ++ rest).head?) : ∃ d ∈ ds, c = d.digitChar := by
  cases ds with
  | nil => exact absurd rfl nonempty
  | cons d ds => exact ⟨d, List.mem_cons_self, (Option.some.inj head).symm⟩

theorem unsigned_digitChars {ds : List Nat} {rest : List Char} (nonempty : ds ≠ [])
    (digits : AllDigits ds) :
    ∀ c ∈ (digitChars ds ++ rest).head?, c ≠ '-' ∧ c ≠ '+' := by
  intro c head
  obtain ⟨d, member, rfl⟩ := head?_digitChars nonempty head
  exact ⟨digitChar_ne (digits d member) rfl, digitChar_ne (digits d member) rfl⟩

/-- An integer is read where one is written, and nowhere else. -/
theorem readInt?_eq_some {cs : List Char} {x : Int} :
    readInt? cs = some x ↔ ∃ (s : Sign) (ds : List Nat), ds ≠ [] ∧ AllDigits ds ∧
      cs = s.chars ++ digitChars ds ∧
      x = if s.negative then -(ofDigits ds : Int) else ofDigits ds := by
  constructor
  · intro read
    obtain ⟨s, negative, split⟩ := exists_sign cs
    simp only [readInt?, Option.ite_none_right_eq_some, Option.some.injEq] at read
    obtain ⟨⟨nonempty, whole⟩, value⟩ := read
    have chars := digitChars_leadingDigits (splitSign cs).2
    rw [whole, List.drop_length, List.append_nil] at chars
    exact ⟨s, _, nonempty, allDigits_leadingDigits _, by rw [chars, split],
      by rw [negative, value]⟩
  · rintro ⟨s, ds, nonempty, digits, rfl, rfl⟩
    have unsigned := @unsigned_digitChars ds [] nonempty digits
    have leading := @leadingDigits_digitChars ds [] digits (by simp [Ends])
    rw [List.append_nil] at unsigned leading
    simp [readInt?, splitSign_append s unsigned, leading, nonempty]

theorem Exponent.readInt?_tail (e : Exponent) : readInt? e.chars.tail = some e.value :=
  readInt?_eq_some.2 ⟨e.sign, e.digits, e.nonempty, e.allDigits, rfl, rfl⟩

/-! Reading a numeral. -/

namespace Numeral

variable (n : Numeral)

theorem ends_exponentChars : Ends n.exponentChars := by
  intro c head
  unfold exponentChars at head
  cases written : n.exponent with
  | none => simp [written] at head
  | some e =>
    simp only [written, Option.elim_some, Exponent.chars, List.head?_cons, Option.mem_def,
      Option.some.injEq] at head
    rcases e.marked with mark | mark <;> (rw [← head, mark]; rfl)

theorem exponentChars_ne_point (rest : List Char) : n.exponentChars ≠ '.' :: rest := by
  unfold exponentChars
  cases n.exponent with
  | none => simp
  | some e =>
    intro h
    have mark : e.mark = '.' := (List.cons.inj h).1
    rcases e.marked with mark' | mark' <;> simp [mark'] at mark

theorem ends_fractionChars : Ends (n.fractionChars ++ n.exponentChars) := by
  unfold fractionChars
  cases n.fraction with
  | none => exact n.ends_exponentChars
  | some ds => intro c head; cases head; rfl

theorem unsigned : ∀ c ∈ (digitChars n.whole ++ (n.fractionChars ++ n.exponentChars)).head?,
    c ≠ '-' ∧ c ≠ '+' := by
  by_cases nonempty : n.whole = []
  case neg => exact unsigned_digitChars nonempty n.wholeDigits
  case pos =>
    intro c head
    obtain ⟨ds, fraction⟩ : ∃ ds, n.fraction = some ds := by
      have := n.hasDigit.resolve_left (not_not.2 nonempty)
      cases h : n.fraction with
      | none => simp [h] at this
      | some ds => exact ⟨ds, rfl⟩
    have : '.' = c := by simpa [nonempty, fractionChars, fraction] using head
    subst this
    decide

theorem read_chars : Literal.read n.chars =
    ⟨n.sign.negative, n.whole, n.decimals, n.exponentChars⟩ := by
  have whole := leadingDigits_digitChars n.wholeDigits n.ends_fractionChars
  simp only [Literal.read, chars, splitSign_append n.sign n.unsigned, whole]
  rw [← @length_digitChars n.whole, List.drop_left]
  unfold fractionChars decimals
  cases fraction : n.fraction with
  | none =>
    split
    next rest point => exact absurd point (n.exponentChars_ne_point rest)
    next => rfl
  | some ds =>
    have digits : AllDigits ds := by simpa [fraction] using n.fractionDigits
    simp only [Option.elim_some, List.cons_append, Option.getD_some,
      leadingDigits_digitChars digits n.ends_exponentChars]
    rw [← @length_digitChars ds, List.drop_left]

/-- Behind the digits stands nothing, or a mark and an integer. -/
def Exponential (rest : List Char) (scale : Int) : Prop :=
  rest = [] ∧ scale = 0 ∨
    ∃ mark digits, rest = mark :: digits ∧ (mark = 'e' ∨ mark = 'E') ∧
      readInt? digits = some scale

theorem exponential_exponentChars : Exponential n.exponentChars n.scale := by
  unfold exponentChars scale
  cases n.exponent with
  | none => exact .inl ⟨rfl, rfl⟩
  | some e => exact .inr ⟨e.mark, _, rfl, e.marked, e.readInt?_tail⟩

theorem Exponential.unique {rest : List Char} {x y : Int} (h : Exponential rest x)
    (h' : Exponential rest y) : x = y := by
  rcases h with ⟨rfl, rfl⟩ | ⟨mark, digits, rfl, -, read⟩
  · rcases h' with ⟨-, rfl⟩ | ⟨mark, digits, h', -⟩
    · rfl
    · cases h'
  · rcases h' with ⟨h', -⟩ | ⟨mark', digits', same, -, read'⟩
    · cases h'
    · cases same
      exact Option.some.inj (read.symm.trans read')

theorem Exponential.exists_exponent {rest : List Char} {scale : Int}
    (h : Exponential rest scale) : ∃ e : Option Exponent, e.elim [] Exponent.chars = rest := by
  rcases h with ⟨rfl, -⟩ | ⟨mark, cs, rfl, marked, read⟩
  · exact ⟨none, rfl⟩
  · obtain ⟨s, ds, nonempty, digits, rfl, -⟩ := readInt?_eq_some.1 read
    exact ⟨some ⟨mark, s, ds, marked, nonempty, digits⟩, rfl⟩

end Numeral

/-- A text is the parts of the literal it begins with and what is behind them. -/
theorem Literal.exists_parts (cs : List Char) :
    ∃ (s : Sign) (fraction : Option (List Nat)),
      AllDigits (Literal.read cs).whole ∧ AllDigits (Literal.read cs).fraction ∧
      fraction.getD [] = (Literal.read cs).fraction ∧
      s.chars ++ (digitChars (Literal.read cs).whole ++
        (fraction.elim [] (fun ds => '.' :: digitChars ds) ++ (Literal.read cs).rest)) = cs := by
  obtain ⟨s, -, split⟩ := exists_sign cs
  have whole := digitChars_leadingDigits (splitSign cs).2
  have wholeDigits := allDigits_leadingDigits (splitSign cs).2
  simp only [Literal.read]
  split
  next rest point =>
    have fraction := digitChars_leadingDigits rest
    refine ⟨s, some (leadingDigits rest), wholeDigits, allDigits_leadingDigits rest, rfl, ?_⟩
    rw [Option.elim_some, List.cons_append, fraction, ← point, whole, split]
  next =>
    refine ⟨s, none, wholeDigits, .nil, rfl, ?_⟩
    rw [Option.elim_none, List.nil_append, whole, split]

/-- A text that reads as a literal with an exponent is a numeral. -/
theorem Numeral.exists_of_read {cs : List Char} (hasDigit : (Literal.read cs).HasDigit)
    {scale : Int} (exponential : Exponential (Literal.read cs).rest scale) :
    ∃ n : Numeral, n.chars = cs := by
  obtain ⟨s, fraction, wholeDigits, fractionDigits, same, parts⟩ := Literal.exists_parts cs
  obtain ⟨e, exponent⟩ := exponential.exists_exponent
  refine ⟨⟨s, _, fraction, e, wholeDigits, same ▸ fractionDigits, same ▸ hasDigit⟩, ?_⟩
  rw [← exponent] at parts
  exact parts

/-! What a text denotes. -/

namespace Numeral

variable {m n : Numeral}

theorem visible (n : Numeral) : ∀ c ∈ n.chars, ¬isBlank c := by
  have digit : ∀ d < 10, ¬isBlank d.digitChar := by decide
  have digits : ∀ {ds}, AllDigits ds → ∀ c ∈ digitChars ds, ¬isBlank c := by
    intro ds all c member
    obtain ⟨d, within, rfl⟩ := List.mem_map.1 member
    exact digit d (all d within)
  have sign : ∀ s : Sign, ∀ c ∈ s.chars, ¬isBlank c := by
    intro s
    cases s with
    | absent => exact nofun
    | plus => exact List.forall_mem_singleton.2 (by decide)
    | minus => exact List.forall_mem_singleton.2 (by decide)
  simp only [chars, List.mem_append]
  rintro c (signed | whole | fraction | exponent)
  · exact sign _ c signed
  · exact digits n.wholeDigits c whole
  · have fractionDigits := n.fractionDigits
    unfold fractionChars at fraction
    cases written : n.fraction with
    | none => simp [written] at fraction
    | some ds =>
      rw [written] at fraction fractionDigits
      rcases List.mem_cons.1 fraction with rfl | fraction
      · decide
      · exact digits fractionDigits c fraction
  · unfold exponentChars at exponent
    cases written : n.exponent with
    | none => simp [written] at exponent
    | some e =>
      rw [written] at exponent
      rcases List.mem_cons.1 exponent with rfl | exponent
      · rcases e.marked with mark | mark <;> (rw [mark]; decide)
      · exact (List.mem_append.1 exponent).elim (sign _ c) (digits e.allDigits c)

theorem chars_ne_nil (n : Numeral) : n.chars ≠ [] := by
  intro empty
  have read := n.read_chars
  rw [empty] at read
  have whole : [] = n.whole := congrArg Literal.whole read
  have decimals : [] = n.decimals := congrArg Literal.fraction read
  exact n.hasDigit.elim (absurd whole.symm) (absurd decimals.symm)

theorem Spells.trim {text : String} (h : n.Spells text) : trim text.toList = n.chars := by
  obtain ⟨before, after, blank, blank', split⟩ := h
  rw [split, trim_surrounded blank blank' n.visible n.chars_ne_nil]

theorem spells_of_trim {text : String} (h : Text.trim text.toList = n.chars) :
    n.Spells text := by
  obtain ⟨before, after, blank, blank', split⟩ := exists_blanks text.toList
  exact ⟨before, after, blank, blank', h ▸ split⟩

theorem spells_of_chars {text : String} (chars : n.chars = text.toList) : n.Spells text :=
  ⟨[], [], by simp, by simp, by rw [chars, List.nil_append, List.append_nil]⟩

/-- A numeral with neither point nor exponent is a whole number. -/
theorem value_of_whole (whole : n.fraction = none) (plain : n.exponent = none) :
    n.value =
      ((if n.sign.negative then -(ofDigits n.whole : Int) else ofDigits n.whole : Int) : ℚ) := by
  have size : n.size = ofDigits n.whole := by simp [size, decimals, scale, whole, plain]
  rw [value, size]
  split <;> push_cast <;> rfl

/-- Where an integer is read, a whole number stands. -/
theorem exists_of_readInt? {cs : List Char} {x : Int} (read : readInt? cs = some x) :
    ∃ n : Numeral, n.chars = cs ∧ n.exponent = none ∧ n.value = x := by
  obtain ⟨sign, ds, nonempty, digits, chars, value⟩ := readInt?_eq_some.1 read
  let n : Numeral := ⟨sign, ds, none, none, digits, .nil, .inl nonempty⟩
  refine ⟨n, ?_, rfl, ?_⟩
  · rw [chars]
    simp [n, Numeral.chars, Numeral.fractionChars, Numeral.exponentChars]
  · rw [value]
    exact value_of_whole rfl rfl

/-- Numerals written alike are worth the same. -/
theorem value_eq_of_chars_eq (same : m.chars = n.chars) : m.value = n.value := by
  have read := m.read_chars.symm.trans ((congrArg Literal.read same).trans n.read_chars)
  obtain ⟨negative, whole, decimals, exponent⟩ := Literal.mk.injEq .. ▸ read
  have scale : m.scale = n.scale :=
    m.exponential_exponentChars.unique (exponent ▸ n.exponential_exponentChars)
  simp only [value, size, negative, whole, decimals, scale]

end Numeral

theorem Denotes.unique {text : String} {q r : ℚ} (h : Denotes text q) (h' : Denotes text r) :
    q = r := by
  obtain ⟨m, spells, rfl⟩ := h
  obtain ⟨n, spells', rfl⟩ := h'
  exact Numeral.value_eq_of_chars_eq (spells.trim.symm.trans spells'.trim)

end SqlBinder.Decimal

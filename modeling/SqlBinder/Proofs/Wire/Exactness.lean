import SqlBinder.Proofs.Decimal.Canonical
import SqlBinder.Proofs.Wire.Pairs

/-!
Numbers keep their value on the wire. Main statement: what is decoded is the canonical plain decimal
of the number the text denotes, and two texts have one wire form exactly if they denote one number.

What is encoded are the digits of the magnitude that the text denotes, and what is decoded is that
magnitude as text. Since a number has one canonical decimal, texts of one number have one wire form,
and texts of one wire form are decoded alike and so denote one number.
-/
namespace SqlBinder.Decimal

/-- The range of an exponent in text. -/
def ExponentFits (scale : Int) : Prop := -2147483648 ≤ scale ∧ scale ≤ 2147483647

theorem readExponent?_eq_some {cs : List Char} {scale : Int} :
    readExponent? cs = some scale ↔ readInt? cs = some scale ∧ ExponentFits scale := by
  simp [readExponent?, readIntIn?, Option.filter_eq_some_iff, ExponentFits]

theorem Numeral.exponential_nil {scale : Int} : Exponential [] scale ↔ scale = 0 := by
  simp [Exponential]

theorem Numeral.exponential_cons {c : Char} {cs : List Char} {scale : Int} :
    Exponential (c :: cs) scale ↔ (c = 'e' ∨ c = 'E') ∧ readInt? cs = some scale := by
  simp [Exponential]

end SqlBinder.Decimal

namespace SqlBinder.Wire.Numeric

open SqlBinder.Decimal SqlBinder.Text

variable {text : String} {bytes : List UInt8}

/-- What is accepted, by the parts a text is read into. -/
theorem encode_eq_ok {l : Literal} (read : Literal.read (trim text.toList) = l) :
    encode text = .ok bytes ↔ l.HasDigit ∧ ∃ scale, Numeral.Exponential l.rest scale ∧
      ExponentFits scale ∧ ofDecimal? l.negative (magnitude l scale) = some bytes := by
  simp only [encode, read]
  by_cases hasDigit : l.HasDigit
  case neg => simp [hasDigit, Except.bind_ok]
  case pos =>
    simp only [hasDigit, not_true, if_false, true_and]
    cases rest : l.rest with
    | nil =>
      have fits : ExponentFits 0 := by simp [ExponentFits]
      simp only [pure_bind, Numeral.exponential_nil, exists_eq_left, fits, true_and]
      cases ofDecimal? l.negative (magnitude l 0) with
      | none => simp
      | some _ => simp [pure, Except.pure]
    | cons c cs =>
      simp only [Numeral.exponential_cons]
      by_cases mark : c = 'e' ∨ c = 'E'
      case neg => simp [mark, Except.bind_ok]
      case pos =>
        simp only [mark, if_true, true_and, ← and_assoc, ← readExponent?_eq_some]
        cases readExponent? cs with
        | none => simp [Except.bind_ok]
        | some scale =>
          simp only [pure_bind, Option.some.injEq, exists_eq_left']
          cases ofDecimal? l.negative (magnitude l scale) with
          | none => simp
          | some _ => simp [pure, Except.pure]

/-- Exactly the numerals are accepted whose exponent is within the range and whose digits are
within the type. -/
theorem encode_eq_ok_iff : encode text = .ok bytes ↔ ∃ n : Numeral, n.Spells text ∧
    ExponentFits n.scale ∧ ofDecimal? n.sign.negative n.magnitude = some bytes := by
  constructor
  · intro accepted
    obtain ⟨hasDigit, scale, exponential, fits, wire⟩ := (encode_eq_ok rfl).1 accepted
    obtain ⟨n, chars⟩ := Numeral.exists_of_read hasDigit exponential
    rw [← chars, n.read_chars] at exponential wire
    cases exponential.unique n.exponential_exponentChars
    exact ⟨n, Numeral.spells_of_trim chars.symm, fits, wire⟩
  · rintro ⟨n, spells, fits, wire⟩
    rw [encode_eq_ok (l := ⟨n.sign.negative, n.whole, n.decimals, n.exponentChars⟩)
      (by rw [spells.trim, n.read_chars])]
    exact ⟨n.hasDigit, n.scale, n.exponential_exponentChars, fits, wire⟩

/-- What comes back for a numeral is the canonical plain decimal of its number. -/
theorem decode_numeral {n : Numeral}
    (wire : ofDecimal? n.sign.negative n.magnitude = some bytes) :
    ∃ plain, decode bytes = .ok plain ∧ PlainText n.value plain := by
  have normal := n.magnitude_normal
  by_cases zero : n.magnitude.digits = []
  case pos =>
    rw [ofDecimal?, if_pos zero] at wire
    cases wire
    rw [Numeral.magnitude_digits_eq_nil.1 zero]
    exact ⟨"0", rfl, plainText_zero⟩
  case neg =>
    have shown := normal.plainText zero n.sign.negative
    rw [n.value_magnitude, ← Numeral.value] at shown
    exact ⟨_, decode_ofDecimal? normal zero wire, shown⟩

/-- The number alone decides on the wire form. -/
theorem ofDecimal?_eq_of_value_eq {m n : Numeral} (same : m.value = n.value) :
    ofDecimal? m.sign.negative m.magnitude = ofDecimal? n.sign.negative n.magnitude := by
  by_cases zero : m.magnitude.digits = []
  case pos =>
    have zero' : n.magnitude.digits = [] := by
      rwa [Numeral.magnitude_digits_eq_nil, ← same, ← Numeral.magnitude_digits_eq_nil]
    rw [ofDecimal?, ofDecimal?, if_pos zero, if_pos zero']
  case neg =>
    have nonzero : m.value ≠ 0 := Numeral.magnitude_digits_eq_nil.not.1 zero
    have sign : m.sign.negative = n.sign.negative := by
      rw [Bool.eq_iff_iff, m.negative_iff nonzero, n.negative_iff (same ▸ nonzero), same]
    have value : m.magnitude.value = n.magnitude.value := by
      rw [m.value_magnitude, n.value_magnitude, Numeral.size_eq_of_value_eq sign same]
    rw [sign, m.magnitude_normal.eq_of_value_eq n.magnitude_normal zero value]

/-- Decoding what was encoded gives the canonical plain decimal of the number the text denotes, and
two texts have the same wire form exactly if they denote the same number. -/
theorem encode_exact :
    (∀ {text : String} {bytes : List UInt8}, encode text = .ok bytes →
      ∃ q, (∀ r, Denotes text r ↔ r = q) ∧
        ∃ plain, decode bytes = .ok plain ∧ ∀ s, PlainText q s ↔ s = plain) ∧
    ∀ {text text' : String} {bytes bytes' : List UInt8}, encode text = .ok bytes →
      encode text' = .ok bytes' → (bytes = bytes' ↔ ∃ q, Denotes text q ∧ Denotes text' q) := by
  constructor
  · intro text bytes accepted
    obtain ⟨n, spells, -, wire⟩ := encode_eq_ok_iff.1 accepted
    have denotes : Denotes text n.value := ⟨n, spells, rfl⟩
    obtain ⟨plain, decoded, shown⟩ := decode_numeral wire
    refine ⟨n.value, fun r => ⟨fun h => h.unique denotes, fun h => h ▸ denotes⟩, plain, decoded,
      fun s => ⟨fun h => h.unique shown, fun h => h ▸ shown⟩⟩
  · intro text text' bytes bytes' accepted accepted'
    obtain ⟨m, spells, -, wire⟩ := encode_eq_ok_iff.1 accepted
    obtain ⟨n, spells', -, wire'⟩ := encode_eq_ok_iff.1 accepted'
    constructor
    · rintro rfl
      obtain ⟨plain, decoded, shown⟩ := decode_numeral wire
      obtain ⟨plain', decoded', shown'⟩ := decode_numeral wire'
      cases Except.ok.inj (decoded.symm.trans decoded')
      exact ⟨m.value, ⟨m, spells, rfl⟩, n, spells', shown'.value_unique shown⟩
    · rintro ⟨q, denotes, denotes'⟩
      have same : m.value = n.value :=
        (Denotes.unique ⟨m, spells, rfl⟩ denotes).trans (denotes'.unique ⟨n, spells', rfl⟩)
      rw [ofDecimal?_eq_of_value_eq same, wire'] at wire
      exact (Option.some.inj wire).symm

/-- A negative number of odd place, spelled with and without an exponent. -/
theorem encode_exact_for_two_spellings :
    encode "-2.50E-2" = .ok [63, 99, 51, 102] ∧ encode " -0.0250 " = .ok [63, 99, 51, 102] ∧
      (∃ q, (∀ r, Denotes "-2.50E-2" r ↔ r = q) ∧
        ∃ plain, decode [63, 99, 51, 102] = .ok plain ∧ ∀ s, PlainText q s ↔ s = plain) ∧
      (([63, 99, 51, 102] : List UInt8) = [63, 99, 51, 102] ↔
        ∃ q, Denotes "-2.50E-2" q ∧ Denotes " -0.0250 " q) := by
  have first : encode "-2.50E-2" = .ok [63, 99, 51, 102] := by decide
  have second : encode " -0.0250 " = .ok [63, 99, 51, 102] := by decide
  exact ⟨first, second, encode_exact.1 first, encode_exact.2 first second⟩

end SqlBinder.Wire.Numeric

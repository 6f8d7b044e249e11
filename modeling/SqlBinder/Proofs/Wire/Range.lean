import SqlBinder.Proofs.Wire.Integers
import SqlBinder.Proofs.Wire.Layout

/-!
Which texts have a wire form, and what is said of the others. Main statement: a text is accepted
exactly if it is a numeral whose number is within the type, however the text spells it; a text that
is no numeral and a number out of range are told apart, and no byte wraps around.

A numeral is encoded by its magnitude alone, so the question is which magnitudes fit: few enough
digits, and a point that is near enough. Both are put as statements about the number. Counting with
32 bits agrees with counting as the text is written, because the point is no further from the digits
than the text is long, and an exponent that saturates is beyond the type anyway.
-/
namespace SqlBinder

theorem scaled_eq_mul {m : Nat} {e k : Int} (finer : k ≤ e) :
    scaled m e = scaled (m * 10 ^ (e - k).toNat) k := by
  rw [← scaled_add, Int.toNat_of_nonneg (by omega)]
  congr 1
  omega

namespace Decimal

variable {d : Decimal}

/-- A magnitude lies below the place of its point, and not below the next one. -/
theorem Normal.value_bounds (h : d.Normal) (nonempty : d.digits ≠ []) :
    (10 : ℚ) ^ (d.point - 1) ≤ d.value ∧ d.value < 10 ^ d.point := by
  obtain ⟨n, length⟩ : ∃ n, d.digits.length = n + 1 :=
    ⟨d.digits.length - 1, by have := List.length_pos_of_ne_nil nonempty; omega⟩
  have low : 10 ^ n ≤ ofDigits d.digits :=
    Wire.Numeric.le_ofDigits h.allDigits h.leading length
  have high : ofDigits d.digits < 10 ^ (n + 1) := length ▸ ofDigits_lt h.allDigits
  have place : (0 : ℚ) < 10 ^ (d.point - d.digits.length) := zpow_pos (by norm_num) _
  have split : ∀ k : Nat, (10 : ℚ) ^ (k + (d.point - d.digits.length)) =
      (10 ^ k : Nat) * 10 ^ (d.point - d.digits.length) := by
    intro k
    rw [zpow_add₀ (by norm_num), zpow_natCast, Nat.cast_pow, Nat.cast_ofNat]
  have first : d.point - 1 = n + (d.point - d.digits.length) := by omega
  have next : d.point = (n + 1 : Nat) + (d.point - d.digits.length) := by omega
  constructor
  · rw [first, split, value, scaled]
    exact mul_le_mul_of_nonneg_right (Nat.cast_le.2 low) place.le
  · conv_rhs => rw [next, split]
    rw [value, scaled]
    exact mul_lt_mul_of_pos_right (Nat.cast_lt.2 high) place

theorem Normal.le_point_iff (h : d.Normal) (nonempty : d.digits ≠ []) (low : Int) :
    (10 : ℚ) ^ (low - 1) ≤ d.value ↔ low ≤ d.point := by
  obtain ⟨first, next⟩ := h.value_bounds nonempty
  constructor
  · intro above
    have := (zpow_lt_zpow_iff_right₀ (by norm_num : (1 : ℚ) < 10)).1 (above.trans_lt next)
    omega
  · intro above
    exact (zpow_le_zpow_right₀ (by norm_num) (by omega)).trans first

theorem Normal.point_le_iff (h : d.Normal) (nonempty : d.digits ≠ []) (high : Int) :
    d.value < (10 : ℚ) ^ high ↔ d.point ≤ high := by
  obtain ⟨first, next⟩ := h.value_bounds nonempty
  constructor
  · intro below
    have := (zpow_lt_zpow_iff_right₀ (by norm_num : (1 : ℚ) < 10)).1 (first.trans_lt below)
    omega
  · intro below
    exact next.trans_le (zpow_le_zpow_right₀ (by norm_num) below)

/-- The digits of a magnitude are as few as any whole number has that is scaled to its value. -/
theorem Normal.length_le_iff (h : d.Normal) (nonempty : d.digits ≠ []) (k : Nat) :
    d.digits.length ≤ k ↔ ∃ (m : Nat) (e : Int), m < 10 ^ k ∧ d.value = scaled m e := by
  constructor
  · intro few
    exact ⟨_, _, (ofDigits_lt h.allDigits).trans_le (Nat.pow_le_pow_right (by decide) few), rfl⟩
  · rintro ⟨m, e, small, same⟩
    by_contra many
    obtain ⟨n, length⟩ : ∃ n, d.digits.length = n + 1 := ⟨d.digits.length - 1, by omega⟩
    have large : 10 ^ k ≤ ofDigits d.digits :=
      (Nat.pow_le_pow_right (by decide) (by omega)).trans
        (Wire.Numeric.le_ofDigits h.allDigits h.leading length)
    rw [value] at same
    obtain finer | coarser := lt_or_ge (d.point - d.digits.length) e
    · exact not_ten_dvd_ofDigits h.allDigits nonempty h.trailing
        (ten_dvd_of_scaled_eq finer same)
    · rw [scaled_eq_mul coarser, scaled_left_inj] at same
      have : ofDigits d.digits ≤ m := same ▸ Nat.le_mul_of_pos_right _ (by positivity)
      omega

/-! The counter of the point. -/

/-- The nearest integer of 32 bits. -/
def saturate (x : Int) : Int := max (-2147483648) (min x 2147483647)

theorem Literal.length_le (cs : List Char) :
    (Literal.read cs).whole.length + (Literal.read cs).fraction.length ≤ cs.length := by
  obtain ⟨s, fraction, -, -, same, parts⟩ := Literal.exists_parts cs
  have length := congrArg List.length parts
  simp only [List.length_append, length_digitChars] at length
  rw [← same]
  cases fraction with
  | none =>
    simp only [Option.getD_none, List.length_nil] at length ⊢
    omega
  | some ds =>
    simp only [Option.elim_some, List.length_cons, length_digitChars, Option.getD_some]
      at length ⊢
    omega

end Decimal

theorem Text.length_trim_le (cs : List Char) : (trim cs).length ≤ cs.length := by
  obtain ⟨before, after, -, -, split⟩ := exists_blanks cs
  have length := congrArg List.length split
  simp only [List.length_append] at length
  omega

namespace Wire.Numeric

open SqlBinder.Decimal SqlBinder.Text

variable {text : String} {bytes : List UInt8}

/-- Zero, or at most forty digits from the first to the last that is not zero, within
`[10⁻¹³⁰, 10¹²⁶)`. -/
def Representable (q : ℚ) : Prop :=
  q = 0 ∨ (∃ (m : Nat) (k : Int), m < 10 ^ 40 ∧ |q| = scaled m k) ∧
    (10 : ℚ) ^ (-130 : Int) ≤ |q| ∧ |q| < (10 : ℚ) ^ (126 : Int)

/-- A numeral has a wire form exactly if its number is within the type. -/
theorem exists_ofDecimal?_iff (n : Numeral) :
    (∃ bytes, ofDecimal? n.sign.negative n.magnitude = some bytes) ↔ Representable n.value := by
  have normal := n.magnitude_normal
  by_cases zero : n.magnitude.digits = []
  case pos =>
    rw [ofDecimal?, if_pos zero, Representable, Numeral.magnitude_digits_eq_nil.1 zero]
    exact ⟨fun _ => .inl rfl, fun _ => ⟨_, rfl⟩⟩
  case neg =>
    have low := normal.le_point_iff zero (-129)
    have high := normal.point_le_iff zero 126
    have few := normal.length_le_iff zero 40
    have most : maxDigits = 40 := rfl
    rw [Representable, or_iff_right (Numeral.magnitude_digits_eq_nil.not.1 zero), abs_value,
      ← few, high, show (-130 : Int) = -129 - 1 from rfl, low]
    constructor
    · rintro ⟨bytes, wire⟩
      rw [ofDecimal?, if_neg zero] at wire
      split at wire
      · cases wire
      · omega
    · rintro ⟨length, above, below⟩
      exact exists_ofDecimal? _ length above below

/-! What is said of a text. -/

/-- A numeral whose exponent is within 32 bits is encoded by its magnitude alone. -/
theorem encode_numeral {n : Numeral} (spells : n.Spells text) (fits : ExponentFits n.scale) :
    encode text = match ofDecimal? n.sign.negative n.magnitude with
      | some bytes => .ok bytes
      | none => .error .unrepresentable := by
  cases wire : ofDecimal? n.sign.negative n.magnitude with
  | some bytes => exact encode_eq_ok_iff.2 ⟨n, spells, fits, wire⟩
  | none =>
    have exponential := n.exponential_exponentChars
    have same : magnitude ⟨n.sign.negative, n.whole, n.decimals, n.exponentChars⟩ n.scale =
        n.magnitude := rfl
    have hasDigit : Literal.HasDigit ⟨n.sign.negative, n.whole, n.decimals, n.exponentChars⟩ :=
      n.hasDigit
    simp only [encode, spells.trim, n.read_chars, hasDigit, not_true, if_false]
    rcases exponential with ⟨rest, scale⟩ | ⟨mark, digits, rest, marked, read⟩
    · rw [scale] at same
      simp only [rest] at same ⊢
      simp only [pure_bind, same, wire]
      rfl
    · have exponent := readExponent?_eq_some.2 ⟨read, fits⟩
      simp only [rest] at same ⊢
      simp only [marked, if_true, exponent, pure_bind, same, wire]
      rfl

/-- Any other text is refused as one. -/
theorem encode_no_numeral (no : ¬∃ n : Numeral, n.Spells text ∧ ExponentFits n.scale) :
    ∃ m, encode text = .error (.conversion m) := by
  obtain ⟨l, read⟩ : ∃ l, l = Literal.read (trim text.toList) := ⟨_, rfl⟩
  -- A text that reads as a literal with an exponent would be a numeral.
  have refused : ∀ {scale}, l.HasDigit → Numeral.Exponential l.rest scale →
      ¬ExponentFits scale := by
    intro scale hasDigit exponential fits
    obtain ⟨n, chars⟩ := Numeral.exists_of_read (read ▸ hasDigit) (read ▸ exponential)
    have : scale = n.scale := by
      rw [read, ← chars, n.read_chars] at exponential
      exact exponential.unique n.exponential_exponentChars
    exact no ⟨n, Numeral.spells_of_trim chars.symm, this ▸ fits⟩
  simp only [encode, ← read]
  by_cases hasDigit : l.HasDigit
  case neg => exact ⟨_, by simp only [hasDigit, not_false_iff, if_true]; rfl⟩
  case pos =>
    simp only [hasDigit, not_true, if_false]
    cases rest : l.rest with
    | nil =>
      refine absurd ?_ (refused hasDigit (rest ▸ Numeral.exponential_nil.2 rfl))
      simp [ExponentFits]
    | cons c cs =>
      by_cases mark : c = 'e' ∨ c = 'E'
      case neg => exact ⟨_, by simp only [mark, if_false]; rfl⟩
      case pos =>
        cases exponent : readExponent? cs with
        | none => exact ⟨_, by simp only [mark, if_true, exponent]; rfl⟩
        | some scale =>
          obtain ⟨value, fits⟩ := readExponent?_eq_some.1 exponent
          exact absurd fits
            (refused hasDigit (rest ▸ Numeral.exponential_cons.2 ⟨mark, value⟩))

theorem encode_cases (text : String) :
    (∃ n : Numeral, n.Spells text ∧ ExponentFits n.scale ∧ Representable n.value ∧
      ∃ bytes, encode text = .ok bytes) ∨
    (∃ n : Numeral, n.Spells text ∧ ExponentFits n.scale ∧ ¬Representable n.value ∧
      encode text = .error .unrepresentable) ∨
    ((¬∃ n : Numeral, n.Spells text ∧ ExponentFits n.scale) ∧
      ∃ m, encode text = .error (.conversion m)) := by
  by_cases numeral : ∃ n : Numeral, n.Spells text ∧ ExponentFits n.scale
  case neg => exact .inr (.inr ⟨numeral, encode_no_numeral numeral⟩)
  case pos =>
    obtain ⟨n, spells, fits⟩ := numeral
    have encoded := encode_numeral spells fits
    have within := exists_ofDecimal?_iff n
    cases wire : ofDecimal? n.sign.negative n.magnitude with
    | some bytes =>
      rw [wire] at encoded within
      exact .inl ⟨n, spells, fits, within.1 ⟨bytes, rfl⟩, bytes, encoded⟩
    | none =>
      rw [wire] at encoded within
      exact .inr (.inl ⟨n, spells, fits, within.not.1 (by simp), encoded⟩)

/-! Bytes as whole numbers. -/

/-- The bytes of a number other than zero as whole numbers: its exponent to base 100, or what 255
is above it, and its pairs plus 1, or what they leave of 101. They are these numbers themselves
and not what is left of them in eight bits. -/
structure Unwrapped (q : ℚ) (exponent : Nat) (ps : List Nat) (bytes : List UInt8) : Prop where
  exponent_mem : 128 ≤ exponent ∧ exponent ≤ 255
  pairs_lt : ∀ p ∈ ps, p < 100
  value : Decimal.value ⟨unpair ps, 2 * ((exponent : Int) - 192)⟩ = |q|
  bytes_eq : bytes.map (fun b => (b.toNat : Int)) =
    (if q < 0 then 255 - (exponent : Int) else exponent) ::
      (ps.map (fun p : Nat => if q < 0 then 101 - (p : Int) else p + 1) ++
        if q < 0 ∧ ps.length < 20 then [102] else [])

theorem toNat_pairByte :
    ∀ negative, ∀ p < 100, ((pairByte negative p).toNat : Int) =
      if negative then 101 - (p : Int) else p + 1 := by
  decide

theorem toNat_exponentByte {exponent : Nat} (high : exponent ≤ 255) (negative : Bool) :
    ((UInt8.ofNat (if negative then 255 - exponent else exponent)).toNat : Int) =
      if negative then 255 - (exponent : Int) else exponent := by
  rw [UInt8.toNat_ofNat']
  cases negative <;> simp only [if_true, if_false, Bool.false_eq_true] <;> omega

theorem exists_unwrapped {n : Numeral} (nonzero : n.value ≠ 0)
    (wire : ofDecimal? n.sign.negative n.magnitude = some bytes) :
    ∃ exponent ps, Unwrapped n.value exponent ps bytes := by
  have nonempty : n.magnitude.digits ≠ [] := Numeral.magnitude_digits_eq_nil.not.2 nonzero
  obtain ⟨i, -, exponent, low, high, -, place, rfl⟩ := ofDecimal?_eq_some nonempty wire
  have digits : AllDigits (List.replicate i 0 ++ n.magnitude.digits) :=
    allDigits_append.2 ⟨allDigits_replicate i (by decide), n.magnitude_normal.allDigits⟩
  have within := pairs_lt digits
  obtain ⟨j, unpaired⟩ := exists_unpair_pairs digits
  refine ⟨exponent, pairs (List.replicate i 0 ++ n.magnitude.digits), ⟨low, high⟩, within, ?_, ?_⟩
  · rw [abs_value, ← n.magnitude.value_padded i j, unpaired, Decimal.padded, place]
  · have sign : n.sign.negative = decide (n.value < 0) := by
      rw [Bool.eq_iff_iff, n.negative_iff nonzero, decide_eq_true_iff]
    have body : (pairs (List.replicate i 0 ++ n.magnitude.digits)).map
        (fun p : Nat => ((pairByte n.sign.negative p).toNat : Int)) =
          (pairs (List.replicate i 0 ++ n.magnitude.digits)).map
            (fun p : Nat => if n.value < 0 then 101 - (p : Int) else p + 1) :=
      List.map_congr_left fun p member => by
        rw [toNat_pairByte _ p (within p member), sign]
        simp only [decide_eq_true_eq]
    rw [List.map_cons, toNat_exponentByte high, List.map_append, List.map_map,
      Function.comp_def, body, sign]
    simp only [decide_eq_true_eq]
    congr 2
    split <;> rfl

/-! The counter of the point. -/

/-- The exponent moves the point of the digits and nothing else. -/
theorem magnitude_eq (l : Literal) (exponent : Int) :
    magnitude l exponent = ⟨(magnitude l 0).digits, (magnitude l 0).point + exponent⟩ := by
  simp only [magnitude, Decimal.normalize, Decimal.mk.injEq, true_and]
  omega

/-- The place of the point is no further from the first digit than the text is long. -/
theorem magnitude_point_bounds (l : Literal) :
    -(l.fraction.length : Int) ≤ (magnitude l 0).point ∧
      (magnitude l 0).point ≤ l.whole.length := by
  obtain ⟨-, low, high⟩ := normalize_bounds ⟨l.whole ++ l.fraction, l.whole.length + 0⟩
  simp only [List.length_append] at low high
  rw [magnitude]
  omega

/-- A point beyond 32 bits is beyond the type as well. -/
theorem ofDecimal?_saturate (negative : Bool) (digits : List Nat) (point : Int) :
    ofDecimal? negative ⟨digits, saturate point⟩ = ofDecimal? negative ⟨digits, point⟩ := by
  by_cases within : ExponentFits point
  case pos =>
    have : saturate point = point := by
      simp only [ExponentFits] at within
      simp only [saturate]
      omega
    rw [this]
  case neg =>
    by_cases zero : digits = []
    case pos => simp only [ofDecimal?, zero, if_true]
    case neg =>
      have outside : point < -129 ∨ 126 < point := by
        simp only [ExponentFits] at within
        omega
      have outside' : saturate point < -129 ∨ 126 < saturate point := by
        simp only [saturate]
        omega
      simp only [ofDecimal?, zero, if_false, outside, outside', or_true, if_true]

/-- In a text of fewer than 2^31 characters the point is counted in 32 bits, and saturating when
the exponent is added changes nothing. -/
theorem point_counted (short : text.length < 2 ^ 31) (exponent : Int) :
    ∃ digits point, magnitude (Literal.read (trim text.toList)) 0 = ⟨digits, point⟩ ∧
      ExponentFits point ∧ ∀ negative, ofDecimal? negative ⟨digits, saturate (point + exponent)⟩ =
        ofDecimal? negative (magnitude (Literal.read (trim text.toList)) exponent) := by
  rcases placed : magnitude (Literal.read (trim text.toList)) 0 with ⟨digits, point⟩
  refine ⟨digits, point, rfl, ?_, fun negative => ?_⟩
  · obtain ⟨low, high⟩ := magnitude_point_bounds (Literal.read (trim text.toList))
    have parts := Literal.length_le (trim text.toList)
    have trimmed := length_trim_le text.toList
    rw [String.length_toList] at trimmed
    simp only [placed] at low high
    simp only [ExponentFits]
    omega
  · rw [ofDecimal?_saturate, magnitude_eq _ exponent, placed]

/-! All texts. -/

/-- A text has a wire form exactly if it is a numeral, with an exponent of 32 bits if any, of a
number within the type; it is refused as no number exactly if it is no such numeral, and as out of
range exactly if it is one of a number beyond the type. The bytes are whole numbers below 256 as
they are computed, and 32 bits are enough to count the point of a text below 2^31 characters. -/
theorem encode_accepts (text : String) :
    ((∃ bytes, encode text = .ok bytes) ↔
      ∃ n : Numeral, n.Spells text ∧ ExponentFits n.scale ∧ Representable n.value) ∧
    ((∃ m, encode text = .error (.conversion m)) ↔
      ¬∃ n : Numeral, n.Spells text ∧ ExponentFits n.scale) ∧
    (encode text = .error .unrepresentable ↔
      ∃ n : Numeral, n.Spells text ∧ ExponentFits n.scale ∧ ¬Representable n.value) ∧
    (∀ q bytes, Denotes text q → encode text = .ok bytes →
      q = 0 ∧ bytes = [128] ∨ q ≠ 0 ∧ ∃ exponent ps, Unwrapped q exponent ps bytes) ∧
    (text.length < 2 ^ 31 → ∀ exponent,
      ∃ digits point, magnitude (Literal.read (trim text.toList)) 0 = ⟨digits, point⟩ ∧
        ExponentFits point ∧
        ∀ negative, ofDecimal? negative ⟨digits, saturate (point + exponent)⟩ =
          ofDecimal? negative (magnitude (Literal.read (trim text.toList)) exponent)) := by
  have unique : ∀ {m n : Numeral}, m.Spells text → n.Spells text → m.value = n.value :=
    fun {m n} spells spells' => Denotes.unique ⟨m, spells, rfl⟩ ⟨n, spells', rfl⟩
  refine ⟨?_, ?_, ?_, fun q bytes denotes accepted => ?_, point_counted⟩
  · rcases encode_cases text with ⟨n, spells, fits, within, accepted⟩ |
      ⟨n, spells, fits, beyond, refused⟩ | ⟨no, m, refused⟩
    · exact iff_of_true accepted ⟨n, spells, fits, within⟩
    · refine iff_of_false (by simp [refused]) ?_
      rintro ⟨n', spells', -, within⟩
      exact beyond (unique spells' spells ▸ within)
    · exact iff_of_false (by simp [refused]) fun ⟨n, spells, fits, _⟩ => no ⟨n, spells, fits⟩
  · rcases encode_cases text with ⟨n, spells, fits, -, bytes, accepted⟩ |
      ⟨n, spells, fits, -, refused⟩ | ⟨no, refused⟩
    · exact iff_of_false (by simp [accepted]) (not_not_intro ⟨n, spells, fits⟩)
    · exact iff_of_false (by simp [refused]) (not_not_intro ⟨n, spells, fits⟩)
    · exact iff_of_true refused no
  · rcases encode_cases text with ⟨n, spells, fits, within, bytes, accepted⟩ |
      ⟨n, spells, fits, beyond, refused⟩ | ⟨no, m, refused⟩
    · refine iff_of_false (by simp [accepted]) ?_
      rintro ⟨n', spells', -, beyond⟩
      exact beyond (unique spells spells' ▸ within)
    · exact iff_of_true refused ⟨n, spells, fits, beyond⟩
    · exact iff_of_false (by simp [refused]) fun ⟨n, spells, fits, _⟩ => no ⟨n, spells, fits⟩
  · obtain ⟨n, spells, -, wire⟩ := encode_eq_ok_iff.1 accepted
    obtain rfl : n.value = q := Denotes.unique ⟨n, spells, rfl⟩ denotes
    by_cases zero : n.value = 0
    · rw [ofDecimal?, if_pos (Numeral.magnitude_digits_eq_nil.2 zero)] at wire
      exact .inl ⟨zero, (Option.some.inj wire).symm⟩
    · exact .inr ⟨zero, exists_unwrapped zero wire⟩

theorem denotes_quarter : Denotes " -0.0250E+1 " (-1 / 4) := by
  let tens : Exponent := ⟨'E', .plus, [1], .inr rfl, by simp, by simp⟩
  let numeral : Numeral :=
    ⟨.minus, [0], some [0, 2, 5, 0], some tens, by simp, by simp, .inl (by simp)⟩
  refine ⟨numeral, ⟨[' '], [' '], by decide, by decide, by decide⟩, ?_⟩
  norm_num [Numeral.value, Numeral.size, numeral, tens, Numeral.decimals, Numeral.scale,
    Exponent.value, Sign.negative, ofDigits, show Sign.plus ≠ .minus by decide]

/-- Zeros at both ends and an exponent, in a short text. -/
theorem encode_accepts_quarter :
    encode " -0.0250E+1 " = .ok [63, 76, 102] ∧
      (∃ exponent ps, Unwrapped (-1 / 4) exponent ps [63, 76, 102]) ∧
      ∃ digits point, magnitude (Literal.read (trim " -0.0250E+1 ".toList)) 0 = ⟨digits, point⟩ ∧
        ExponentFits point ∧
        ∀ negative, ofDecimal? negative ⟨digits, saturate (point + 1)⟩ =
          ofDecimal? negative (magnitude (Literal.read (trim " -0.0250E+1 ".toList)) 1) := by
  have accepted : encode " -0.0250E+1 " = .ok [63, 76, 102] := by decide
  obtain ⟨-, -, -, unwrapped, counted⟩ := encode_accepts " -0.0250E+1 "
  have nonzero : (-1 / 4 : ℚ) ≠ 0 := by norm_num
  refine ⟨accepted, ?_, counted (by decide) 1⟩
  exact ((unwrapped _ _ denotes_quarter accepted).resolve_left fun zero => nonzero zero.1).2

/-- The bounds of the type and of the exponent, on either side. -/
example : encode "1e125" = .ok [255, 11] ∧ encode "10e125" = .error .unrepresentable ∧
    encode "-0.01e-128" = .ok [127, 100, 102] ∧ encode "0e2147483647" = .ok [128] ∧
    encode "0e2147483648" = .error (.conversion "'0e2147483648' has an invalid exponent") := by
  decide

end Wire.Numeric

end SqlBinder

import SqlBinder.Proofs.Binary.Fewest
import SqlBinder.Proofs.Wire.Range

/-!
Decimal texts through floats. Main statement: a number of up to fifteen digits, far enough from the
ends of the format, reads as a float that is printed as the same text.

Floats are close together against decimals of fifteen digits: no two of those read as one float, so
the text with the fewest digits is the one that was read. The place of the point is kept within the
powers of ten that floats have in full.
-/
namespace SqlBinder.Double

open Binary Decimal

variable {q : ℚ} {text : String} {d : Decimal}

/-- The text is that of the float it reads as. -/
def Keeps (text : String) : Prop :=
  ∃ x, parse? text.toList = some x ∧ x.isFinite = true ∧ x.plain = text

/-- The plain text of a finite float has no exponent. -/
theorem not_keeps_lowest : ¬Keeps "-1e126" := by
  rintro ⟨x, -, finite, plain⟩
  simp only [isFinite, Bool.and_eq_true, Bool.not_eq_true'] at finite
  obtain ⟨n, spells, noExponent⟩ := exists_numeral_of_plain finite.1 finite.2
  have trimmed : Text.trim "-1e126".toList = "-1e126".toList := by decide
  rw [plain] at spells
  have read := n.read_chars
  rw [← spells.trim, trimmed] at read
  have rest : (Literal.read "-1e126".toList).rest = ['e', '1', '2', '6'] := by decide
  rw [read, Numeral.exponentChars, noExponent] at rest
  cases rest

/-- A number of up to fifteen digits, within the powers of ten that floats have in full. -/
def Short (q : ℚ) : Prop :=
  (∃ (c : Nat) (k : Int), c < 10 ^ 15 ∧ |q| = scaled c k) ∧ (10 : ℚ) ^ (-300 : Int) ≤ |q| ∧
    |q| < 10 ^ (300 : Int)

/-- A magnitude that is no zero and not far outside the range is read by its digits. -/
theorem ofDecimal_eq (negative : Bool) {d : Decimal} (nonempty : d.normalize.digits ≠ [])
    (low : -400 ≤ d.normalize.point) (high : d.normalize.point ≤ 400) :
    ofDecimal negative d =
      ⟨UInt64.ofNat (doubleFormat.nearest negative
        (ofDigits d.normalize.digits *
          tenTo (d.normalize.point - d.normalize.digits.length).toNat)
        (tenTo (-(d.normalize.point - d.normalize.digits.length)).toNat))⟩ := by
  simp only [ofDecimal]
  rw [if_neg (by simp only [nonempty, false_or]; omega), if_neg (by omega)]

/-- The quotient that is read is the value. -/
theorem value_eq_div (d : Decimal) : d.value =
    (ofDigits d.digits * tenTo (d.point - d.digits.length).toNat : Nat) /
      (tenTo (-(d.point - d.digits.length)).toNat : Nat) := by
  rw [Decimal.value, scaled, zpow_eq_div, Nat.cast_mul, cast_tenTo, cast_tenTo, mul_div_assoc]

/-- The exponent to base 2 of a quotient within the powers of ten. -/
theorem log2Quotient_within {num den : Nat} (num_pos : 0 < num) (den_pos : 0 < den)
    (low : (10 : ℚ) ^ (-300 : Int) ≤ (num : ℚ) / den)
    (high : (num : ℚ) / den < 10 ^ (300 : Int)) :
    -1000 ≤ Format.log2Quotient num den ∧ Format.log2Quotient num den < 1000 := by
  obtain ⟨least, most⟩ := Format.log2Quotient_bounds num_pos den_pos
  have large : (10 : ℚ) ^ (300 : Int) < 2 ^ (1000 : Int) := by
    rw [show (300 : Int) = 3 * (100 : Nat) by rfl, show (1000 : Int) = 10 * (100 : Nat) by rfl,
      zpow_mul, zpow_mul, zpow_natCast, zpow_natCast]
    exact pow_lt_pow_left₀ (by norm_num) (by norm_num) (by decide)
  have small : (2 : ℚ) ^ (-1000 : Int) < 10 ^ (-300 : Int) := by
    rw [zpow_neg, zpow_neg]
    exact inv_strictAnti₀ (zpow_pos (by norm_num) _) large
  have below := (zpow_lt_zpow_iff_right₀ (by norm_num)).1 ((small.trans_le low).trans most)
  have above := (zpow_lt_zpow_iff_right₀ (by norm_num)).1 ((least.trans_lt high).trans large)
  omega

/-- A short magnitude is read as a float of which it is the fewest digits. -/
theorem number_ofDecimal (negative : Bool) (normal : d.normalize.Normal)
    (few : d.normalize.digits.length ≤ 15) (low : (10 : ℚ) ^ (-300 : Int) ≤ d.normalize.value)
    (high : d.normalize.value < 10 ^ (300 : Int)) :
    ∃ mantissa scale, (ofDecimal negative d).number = .finite negative mantissa scale ∧
      mantissa ≠ 0 ∧ doubleFormat.shortest mantissa scale = d.normalize := by
  have positive : 0 < d.normalize.value := (zpow_pos (by norm_num) _).trans_le low
  have nonempty : d.normalize.digits ≠ [] := fun empty =>
    positive.ne' (normal.value_eq_zero.2 empty)
  have point : -299 ≤ d.normalize.point := (normal.le_point_iff nonempty _).1 (by
    rwa [show (-299 - 1 : Int) = -300 by rfl])
  have point' := (normal.point_le_iff nonempty 300).1 high
  have digits : 0 < ofDigits d.normalize.digits :=
    Nat.pos_of_ne_zero fun zero => nonempty (normal.ofDigits_eq_zero.1 zero)
  have num_pos := Nat.mul_pos digits
    (tenTo_pos (d.normalize.point - d.normalize.digits.length).toNat)
  have den_pos := tenTo_pos (-(d.normalize.point - d.normalize.digits.length)).toNat
  rw [value_eq_div] at low high
  obtain ⟨least, most⟩ := log2Quotient_within num_pos den_pos low high
  have bits : twoTo doubleFormat.fractionBits = 2 ^ 52 := rfl
  have bits' : twoTo doubleFormat.exponentBits = 2 ^ 11 := rfl
  have lowest : doubleFormat.lowestScale = -1074 := rfl
  have width : doubleFormat.fractionBits = 52 := rfl
  obtain ⟨mantissa, scale, read, full, has⟩ := doubleFormat.read_nearest (by decide) num_pos den_pos
    (by omega) (by omega) negative
  rw [← value_eq_div] at has
  have small : ofDigits d.normalize.digits < 10 ^ 15 :=
    (ofDigits_lt normal.allDigits).trans_le (Nat.pow_le_pow_right (by decide) few)
  obtain ⟨normal', value⟩ := Format.shortest_of_has full (by omega) has
    (not_ten_dvd_ofDigits normal.allDigits nonempty normal.trailing) (by omega) (by omega)
  refine ⟨mantissa, scale, ?_, ?_, ?_⟩
  · rw [ofDecimal_eq negative nonempty (by omega) (by omega), number, Format.nearest,
      toNat_word (doubleFormat.nearestMagnitude_le _ _)]
    exact read
  · have := twoTo_pos doubleFormat.fractionBits
    omega
  · exact (normal.eq_of_value_eq normal' nonempty value.symm).symm

/-- A number that is no NaN and not infinite is finite. -/
theorem isFinite_of_number {x : Double} {negative : Bool} {mantissa : Nat} {scale : Int}
    (number : x.number = .finite negative mantissa scale) : x.isFinite = true := by
  rw [isFinite, isNaN, isInfinite, number]
  rfl

/-- A canonical text of few digits is that of the float it reads as. -/
theorem keeps_of_short (plain : PlainText q text) (short : Short q) : Keeps text := by
  obtain ⟨n, canonical, rfl, chars⟩ := plain
  obtain ⟨few, low, high⟩ := short
  rw [Wire.Numeric.abs_value] at few low high
  have nonempty : n.magnitude.digits ≠ [] := fun empty =>
    ((zpow_pos (by norm_num) _).trans_le low).ne' (n.magnitude_normal.value_eq_zero.2 empty)
  obtain ⟨mantissa, scale, number, nonzero, fewest⟩ := number_ofDecimal n.sign.negative
    n.magnitude_normal ((n.magnitude_normal.length_le_iff nonempty 15).2 few) low high
  refine ⟨_, chars ▸ parse?_numeral n, isFinite_of_number number, ?_⟩
  -- Both texts are canonical for the number.
  obtain ⟨m, canonical', sign, size, chars'⟩ :=
    n.magnitude_normal.exists_canonical nonempty n.sign.negative
  have value : m.value = n.value := by
    rw [Numeral.value, Numeral.value, sign, size, n.value_magnitude]
  refine PlainText.unique ⟨m, canonical', value, ?_⟩ ⟨n, canonical, rfl, chars⟩
  rw [Double.plain, number, Number.plain, String.toList_ofList, if_neg nonzero, fewest]
  exact chars'

/-- A text with more digits than its float shows. -/
theorem not_keeps_long : ¬Keeps "0.1234567890123456789" := by
  rintro ⟨x, parsed, -, plain⟩
  have read : parse? "0.1234567890123456789".toList = some ⟨0x3fbf9add3746f65f⟩ := by
    decide +kernel
  have lost : (⟨0x3fbf9add3746f65f⟩ : Double).plain ≠ "0.1234567890123456789" := by
    decide +kernel
  obtain rfl := Option.some.inj (read.symm.trans parsed)
  exact lost plain

end SqlBinder.Double

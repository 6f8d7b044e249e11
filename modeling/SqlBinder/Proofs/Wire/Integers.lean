import SqlBinder.Proofs.Wire.Exactness
import SqlBinder.Conversion

/-!
Integers as numbers. Main statement: every integer of 64 bits has a wire form, what is decoded is
the text of the integer, and that text is the integer again.

An integer is printed as a numeral without point and exponent and without zeros in front, which is
its own canonical decimal. Nothing is left to show but the range, and the digits of 64 bits are few
against those of the type.
-/
namespace SqlBinder

namespace Decimal

/-- The digits of a whole number; zero has one. -/
def digitsOf (n : Nat) : List Nat := if n = 0 then [0] else (Nat.digits 10 n).reverse

variable {n : Nat}

theorem allDigits_digitsOf (n : Nat) : AllDigits (digitsOf n) := by
  unfold digitsOf
  split
  · simp
  · exact allDigits_reverse.2 fun d member => Nat.digits_lt_base (by decide) member

theorem ofDigits_digitsOf (n : Nat) : ofDigits (digitsOf n) = n := by
  unfold digitsOf
  split
  case isTrue zero => rw [zero, ofDigits_singleton]
  case isFalse => rw [ofDigits_eq, List.reverse_reverse, Nat.ofDigits_digits]

theorem unpadded_digitsOf (n : Nat) : Unpadded (digitsOf n) none := by
  unfold digitsOf
  split
  case isTrue => exact ⟨by simp, fun _ => rfl, by simp⟩
  case isFalse nonzero =>
    have nonempty : Nat.digits 10 n ≠ [] := Nat.digits_ne_nil_iff_ne_zero.2 nonzero
    refine ⟨by simpa using nonempty, fun leading => ?_, by simp⟩
    rw [List.head?_reverse, List.getLast?_eq_some_getLast nonempty, Option.some.injEq] at leading
    exact absurd leading (Nat.getLast_digit_ne_zero 10 nonzero)

theorem length_digitsOf_le {k : Nat} (pos : 0 < k) (small : n < 10 ^ k) :
    (digitsOf n).length ≤ k := by
  unfold digitsOf
  split
  · exact pos
  · rw [List.length_reverse]
    exact (Nat.digits_length_le_iff (by decide) n).2 small

/-- A whole number is printed by its digits. -/
theorem toDigits_eq (n : Nat) : Nat.toDigits 10 n = digitChars (digitsOf n) := by
  induction n using Nat.strongRecOn with
  | ind n ih =>
    rw [Nat.toDigits_eq_if (by decide)]
    split
    case isTrue small =>
      interval_cases n <;> rfl
    case isFalse large =>
      have rest : n / 10 ≠ 0 := by omega
      have nonzero : n ≠ 0 := by omega
      have digits : digitsOf n = digitsOf (n / 10) ++ [n % 10] := by
        rw [digitsOf, digitsOf, if_neg nonzero, if_neg rest,
          Nat.digits_def' (by decide) (by omega), List.reverse_cons]
      rw [ih (n / 10) (by omega), digits, digitChars_append]
      rfl

namespace Numeral

/-- An integer as it is printed. -/
def ofInt (x : Int) : Numeral where
  sign := if x < 0 then .minus else .absent
  whole := digitsOf x.natAbs
  fraction := none
  exponent := none
  wholeDigits := allDigits_digitsOf _
  fractionDigits := .nil
  hasDigit := .inl (unpadded_digitsOf _).nonempty

variable (x : Int)

theorem chars_ofInt_eq :
    (ofInt x).chars = (ofInt x).sign.chars ++ digitChars (digitsOf x.natAbs) := by
  simp [chars, ofInt, fractionChars, exponentChars]

theorem chars_ofInt : (ofInt x).chars = (toString x).toList := by
  rw [chars_ofInt_eq, ← toDigits_eq, Int.toString_eq_repr, Int.repr_eq_if,
    Nat.repr_eq_ofList_toDigits, Nat.repr_eq_ofList_toDigits]
  by_cases negative : x < 0
  case pos =>
    have size : (-x).toNat = x.natAbs := by omega
    rw [if_neg (by omega), size]
    simp [ofInt, negative, Sign.chars]
  case neg =>
    have size : x.toNat = x.natAbs := by omega
    rw [if_pos (by omega), size]
    simp [ofInt, negative, Sign.chars]

/-- Neither a point nor an exponent stands in an integer. -/
theorem positional_ofInt : (ofInt x).chars.any (fun c => c == '.' || c == 'e') = false := by
  have sign : ∀ s : Sign, s.chars.any (fun c => c == '.' || c == 'e') = false := by
    intro s
    cases s <;> rfl
  have digit : ∀ d < 10, (d.digitChar == '.' || d.digitChar == 'e') = false := by decide
  rw [chars_ofInt_eq, List.any_append, sign, Bool.false_or, List.any_eq_false]
  intro c member
  obtain ⟨d, place, rfl⟩ := List.mem_map.1 member
  rw [digit d (allDigits_digitsOf _ d place)]
  exact Bool.false_ne_true

theorem negative_ofInt : (ofInt x).sign.negative = decide (x < 0) := by
  by_cases negative : x < 0 <;> simp [ofInt, negative, Sign.negative]

theorem value_ofInt : (ofInt x).value = x := by
  have whole : ofDigits (ofInt x).whole = x.natAbs := ofDigits_digitsOf _
  have integer : x = if x < 0 then -(x.natAbs : Int) else x.natAbs := by omega
  rw [value_of_whole rfl rfl, negative_ofInt, whole]
  simp only [decide_eq_true_eq, ← integer]

theorem magnitude_ofInt :
    (ofInt x).magnitude = normalize ⟨digitsOf x.natAbs, (digitsOf x.natAbs).length⟩ := by
  simp [magnitude, ofInt, decimals, scale]

theorem canonical_ofInt : (ofInt x).Canonical where
  noExponent := rfl
  sign := by
    have below : (ofInt x).value < 0 ↔ x < 0 := by rw [value_ofInt, Int.cast_lt_zero]
    exact (if_congr below rfl rfl).symm
  unpadded := unpadded_digitsOf _

end Numeral

/-- An integer is printed as the canonical plain decimal of its value. -/
theorem plainText_toString (x : Int) : PlainText x (toString x) :=
  ⟨.ofInt x, Numeral.canonical_ofInt x, Numeral.value_ofInt x, Numeral.chars_ofInt x⟩

/-- An integer of 64 bits is read where it is written, and nowhere else. -/
theorem readInt64?_eq_some {cs : List Char} {n : Int64} :
    readInt64? cs = some n ↔ readInt? cs = some n.toInt := by
  constructor
  · intro read
    obtain ⟨x, found, rfl⟩ := Option.map_eq_some_iff.1 read
    obtain ⟨read, within⟩ := Option.filter_eq_some_iff.1 found
    have bounds := of_decide_eq_true within
    rw [read, Int64.toInt_ofInt_of_le (by omega) (by omega)]
  · intro read
    have low := n.le_toInt
    have high := n.toInt_lt
    have within : -9223372036854775808 ≤ n.toInt ∧ n.toInt ≤ 9223372036854775807 := by omega
    rw [readInt64?, readIntIn?, read, Option.filter_some, if_pos (decide_eq_true within),
      Option.map_some, Int64.ofInt_toInt]

end Decimal

namespace Wire.Numeric

open Decimal

/-- A magnitude within the range of the type has a wire form. -/
theorem exists_ofDecimal? {d : Decimal} (negative : Bool) (length : d.digits.length ≤ maxDigits)
    (low : -129 ≤ d.point) (high : d.point ≤ 126) :
    ∃ bytes, ofDecimal? negative d = some bytes := by
  have inRange : ¬(maxDigits < d.digits.length ∨ d.point < -129 ∨ 126 < d.point) := by omega
  rw [ofDecimal?, if_neg inRange]
  split <;> exact ⟨_, rfl⟩

/-- An integer of at most forty digits has a wire form. -/
theorem exists_encode_ofInt {x : Int} (small : x.natAbs < 10 ^ maxDigits) :
    ∃ bytes, encode (toString x) = .ok bytes ∧
      ofDecimal? (Numeral.ofInt x).sign.negative (Numeral.ofInt x).magnitude = some bytes := by
  have length : (digitsOf x.natAbs).length ≤ 40 := length_digitsOf_le (by decide) small
  obtain ⟨digits, low, high⟩ :=
    normalize_bounds ⟨digitsOf x.natAbs, (digitsOf x.natAbs).length⟩
  rw [← Numeral.magnitude_ofInt] at digits low high
  obtain ⟨bytes, wire⟩ := exists_ofDecimal? (Numeral.ofInt x).sign.negative
    (Nat.le_trans digits length) (by simp only at low; omega) (by simp only at high; omega)
  refine ⟨bytes, encode_eq_ok_iff.2 ⟨.ofInt x, ?_, ?_, wire⟩, wire⟩
  · exact Numeral.spells_of_chars (Numeral.chars_ofInt x)
  · show ExponentFits 0
    simp [ExponentFits]

/-- An integer has a wire form, and its text is what is decoded. -/
theorem decode_encodeInt (n : Int64) :
    ∃ bytes, encodeInt n = .ok bytes ∧ decode bytes = .ok (toString n.toInt) := by
  have low := n.le_toInt
  have high := n.toInt_lt
  have most : maxDigits = 40 := rfl
  obtain ⟨bytes, accepted, wire⟩ := exists_encode_ofInt (x := n.toInt) (by rw [most]; omega)
  obtain ⟨plain, decoded, shown⟩ := decode_numeral wire
  rw [Numeral.value_ofInt] at shown
  exact ⟨bytes, accepted, shown.unique (plainText_toString n.toInt) ▸ decoded⟩

end Wire.Numeric

/-- The text of an integer is the integer. -/
theorem DbType.ofDecimalText_toString (n : Int64) :
    DbType.ofDecimalText (toString n.toInt) = .integer n := by
  have chars : (toString n.toInt).toList = _ :=
    (Decimal.Numeral.chars_ofInt n.toInt).symm.trans (Decimal.Numeral.chars_ofInt_eq n.toInt)
  have read : Decimal.readInt64? (toString n.toInt).toList = some n := by
    refine Decimal.readInt64?_eq_some.2 (Decimal.readInt?_eq_some.2 ⟨_, _,
      (Decimal.unpadded_digitsOf _).nonempty, Decimal.allDigits_digitsOf _, chars, ?_⟩)
    rw [Decimal.Numeral.negative_ofInt, Decimal.ofDigits_digitsOf]
    simp only [decide_eq_true_eq]
    omega
  have positional := Decimal.Numeral.positional_ofInt n.toInt
  rw [Decimal.Numeral.chars_ofInt] at positional
  simp only [DbType.ofDecimalText, positional, read, Bool.false_eq_true, if_false]

end SqlBinder

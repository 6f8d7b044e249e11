import SqlBinder.Proofs.Wire.Exactness
import Mathlib.Algebra.Order.Ring.Abs

/-!
The layout of numbers on the wire. Main statement: zero is one byte, and any other number is an
exponent byte, a mantissa of pairs that neither begins nor ends with the pair 00, and the closing
byte of a short negative number. Twenty pairs are enough unless forty digits are out of step with
the point: then there are twenty-one.
-/
namespace SqlBinder.Wire.Numeric

open SqlBinder.Decimal

/-- The byte of the pair 00. -/
def zeroPair (negative : Bool) : UInt8 := if negative then 101 else 1

/-- The byte stands for a pair. -/
def IsPairByte (negative : Bool) (byte : UInt8) : Prop :=
  if negative then 2 ≤ byte ∧ byte ≤ 101 else 1 ≤ byte ∧ byte ≤ 100

instance (negative : Bool) (byte : UInt8) : Decidable (IsPairByte negative byte) := by
  unfold IsPairByte
  exact inferInstance

/-- Pairs of which the first and the last are not 00. -/
structure IsMantissa (negative : Bool) (body : List UInt8) : Prop where
  nonempty : body ≠ []
  pairs : ∀ byte ∈ body, IsPairByte negative byte
  first : body.head? ≠ some (zeroPair negative)
  last : body.getLast? ≠ some (zeroPair negative)

/-- The byte behind the mantissa of a negative number that is not full. -/
def closing (negative : Bool) (body : List UInt8) : List UInt8 :=
  if negative ∧ body.length < 20 then [102] else []

/-- Exponent byte with the sign in its high bit, `count` pairs, and the closing byte if the number
is negative and has fewer than twenty of them. -/
def LaidOut (negative : Bool) (count : Nat) (bytes : List UInt8) : Prop :=
  ∃ head body, bytes = head :: (body ++ closing negative body) ∧
    (128 ≤ head.toNat ↔ negative = false) ∧ IsMantissa negative body ∧ body.length = count

/-- A number other than zero with one to twenty pairs. -/
def WellFormed (negative : Bool) (bytes : List UInt8) : Prop :=
  ∃ count ≤ 20, LaidOut negative count bytes

/-- From its first digit to base 100 to its last one that is not zero, the number has at most
twenty. -/
def FitsPairs (q : ℚ) : Prop := ∃ (c : Nat) (k : Int), c < 100 ^ 20 ∧ |q| = c * 100 ^ k

theorem LaidOut.length {negative : Bool} {count : Nat} {bytes : List UInt8}
    (h : LaidOut negative count bytes) :
    bytes.length = 1 + count + if negative ∧ count < 20 then 1 else 0 := by
  obtain ⟨head, body, rfl, -, -, rfl⟩ := h
  unfold closing
  split <;> simp only [List.length_cons, List.length_append, List.length_nil] <;> omega

theorem WellFormed.length_le {negative : Bool} {bytes : List UInt8}
    (h : WellFormed negative bytes) : bytes.length ≤ 21 := by
  obtain ⟨count, within, laid⟩ := h
  rw [laid.length]
  split <;> omega

/-! Pairs of digits. -/

section Pairs

variable {negative : Bool} {ds : List Nat}

theorem getLast?_pairs (digits : AllDigits ds) (trailing : ds.getLast? ≠ some 0) :
    (pairs ds).getLast? ≠ some 0 := by
  fun_induction pairs ds with
  | case1 a b rest ih =>
    simp only [allDigits_cons] at digits
    by_cases end' : rest = []
    case pos =>
      subst end'
      have last : b ≠ 0 := by simpa using trailing
      simpa [pairs] using fun zero : 10 * a + b = 0 => last (by omega)
    case neg =>
      have more : pairs rest ≠ [] := pairs_eq_nil.not.2 end'
      rw [List.getLast?_cons_of_ne_nil more]
      refine ih digits.2.2 ?_
      rwa [List.getLast?_cons_of_ne_nil (by simp), List.getLast?_cons_of_ne_nil end'] at trailing
  | case2 a =>
    have last : a ≠ 0 := by simpa using trailing
    simpa using last
  | case3 => simp

/-- With no more than one zero in front of them, digits begin with a pair other than 00. -/
theorem head?_pairs {i : Nat} (most : i ≤ 1) (nonempty : ds ≠ []) (leading : ds.head? ≠ some 0) :
    (pairs (List.replicate i 0 ++ ds)).head? ≠ some 0 := by
  obtain ⟨d, ds, rfl⟩ := List.exists_cons_of_ne_nil nonempty
  have first : d ≠ 0 := by simpa using leading
  obtain rfl | rfl : i = 0 ∨ i = 1 := by omega
  · cases ds with
    | nil => simpa [pairs] using first
    | cons e ds => simpa [pairs] using fun zero : d = 0 => absurd zero first
  · simpa [pairs] using first

/-! Pairs as bytes. -/

theorem isPairByte_pairByte :
    ∀ negative, ∀ p < 100, IsPairByte negative (pairByte negative p) := by
  decide

theorem eq_zero_of_pairByte :
    ∀ negative, ∀ p < 100, pairByte negative p = zeroPair negative → p = 0 := by
  decide

theorem isMantissa_pairBytes {ps : List Nat} (within : ∀ p ∈ ps, p < 100) (nonempty : ps ≠ [])
    (first : ps.head? ≠ some 0) (last : ps.getLast? ≠ some 0) :
    IsMantissa negative (ps.map (pairByte negative)) where
  nonempty := by simpa using nonempty
  pairs := by
    intro byte member
    obtain ⟨p, pair, rfl⟩ := List.mem_map.1 member
    exact isPairByte_pairByte negative p (within p pair)
  first zero := by
    rw [List.head?_map] at zero
    obtain ⟨p, head, byte⟩ := Option.map_eq_some_iff.1 zero
    exact first (eq_zero_of_pairByte negative p (within p (List.mem_of_head? head)) byte ▸ head)
  last zero := by
    rw [List.getLast?_map] at zero
    obtain ⟨p, end', byte⟩ := Option.map_eq_some_iff.1 zero
    exact last (eq_zero_of_pairByte negative p (within p (List.mem_of_getLast? end')) byte ▸ end')

end Pairs

/-! How many pairs there are. -/

section Count

variable {d : Decimal} {negative : Bool} {bytes : List UInt8}

/-- What is on the wire for a number other than zero. One more zero stands in front of its digits
if its point is odd. -/
theorem laidOut_ofDecimal? (normal : d.Normal) (nonempty : d.digits ≠ [])
    (wire : ofDecimal? negative d = some bytes) :
    d.digits.length ≤ 40 ∧
      LaidOut negative ((d.digits.length + (d.point % 2).toNat + 1) / 2) bytes := by
  obtain ⟨i, most, exponent, low, high, length, place, rfl⟩ := ofDecimal?_eq_some nonempty wire
  have parity : (d.point % 2).toNat = i := by omega
  have digits : AllDigits (List.replicate i 0 ++ d.digits) :=
    allDigits_append.2 ⟨allDigits_replicate i (by decide), normal.allDigits⟩
  have trailing : (List.replicate i 0 ++ d.digits).getLast? ≠ some 0 := by
    rw [List.getLast?_append_of_ne_nil _ nonempty]
    exact normal.trailing
  have body : IsMantissa negative
      ((pairs (List.replicate i 0 ++ d.digits)).map (pairByte negative)) :=
    isMantissa_pairBytes (pairs_lt digits) (by simp [pairs_eq_nil, nonempty])
      (head?_pairs most nonempty normal.leading) (getLast?_pairs digits trailing)
  refine ⟨length, UInt8.ofNat (if negative then 255 - exponent else exponent), _, ?_, ?_, body, ?_⟩
  · rw [closing, List.length_map]
  · have sign := (@head_byte negative exponent low high).1
    rw [Bool.eq_iff_iff] at sign
    simpa using sign
  · rw [List.length_map, length_pairs, List.length_append, List.length_replicate, parity,
      Nat.add_comm i]

theorem scaled_two_mul (c : Nat) (k : Int) : scaled c (2 * k) = c * 100 ^ k := by
  rw [scaled, zpow_mul]
  norm_num

/-- A number below its twenty-first place to base 100 is known to be so from its digits. -/
theorem exists_of_pairs_le (digits : AllDigits d.digits)
    (few : (d.digits.length + (d.point % 2).toNat + 1) / 2 ≤ 20) :
    ∃ (c : Nat) (k : Int), c < 100 ^ 20 ∧ d.value = c * 100 ^ k := by
  obtain ⟨i, point⟩ : ∃ i, i = (d.point % 2).toNat := ⟨_, rfl⟩
  obtain ⟨j, length⟩ : ∃ j, j = (d.digits.length + i) % 2 := ⟨_, rfl⟩
  have size : (d.padded i j).digits.length = i + d.digits.length + j := by
    simp [Decimal.padded, Nat.add_assoc]
  have all : AllDigits (d.padded i j).digits := by
    simp only [Decimal.padded, allDigits_append]
    exact ⟨⟨allDigits_replicate i (by decide), digits⟩, allDigits_replicate j (by decide)⟩
  have bound : ofDigits (d.padded i j).digits < 100 ^ 20 := calc
    _ < 10 ^ (d.padded i j).digits.length := ofDigits_lt all
    _ ≤ 10 ^ 40 := Nat.pow_le_pow_right (by decide) (by omega)
    _ = 100 ^ 20 := by norm_num
  refine ⟨_, (d.point + i - (i + d.digits.length + j)) / 2, bound, ?_⟩
  have even : (d.padded i j).point - (d.padded i j).digits.length =
      2 * ((d.point + i - (i + d.digits.length + j)) / 2) := by
    rw [size]
    simp only [Decimal.padded]
    omega
  rw [← scaled_two_mul, ← even, ← Decimal.value, Decimal.value_padded]

/-- Digits that begin with another one than zero are not below their first place. -/
theorem le_ofDigits {ds : List Nat} (digits : AllDigits ds) (leading : ds.head? ≠ some 0) {n : Nat}
    (length : ds.length = n + 1) : 10 ^ n ≤ ofDigits ds := by
  by_contra below
  have short := (Nat.digits_length_le_iff (b := 10) (k := n) (by decide) (ofDigits ds)).2
    (not_le.1 below)
  rw [digits_ofDigits digits leading, List.length_reverse] at short
  omega

/-- Forty digits out of step with the point are no number below 100^20 with a power of 100. -/
theorem not_exists_of_odd (normal : d.Normal) (length : d.digits.length = 40)
    (odd : d.point % 2 = 1) {c : Nat} {k : Int} (below : c < 100 ^ 20) :
    d.value ≠ c * 100 ^ k := by
  obtain ⟨m, place⟩ : ∃ m, d.point - d.digits.length = 2 * m + 1 :=
    ⟨(d.point - 41) / 2, by omega⟩
  have nonempty : d.digits ≠ [] := List.ne_nil_of_length_eq_add_one length
  have units := not_ten_dvd_ofDigits normal.allDigits nonempty normal.trailing
  have large : 10 ^ 39 ≤ ofDigits d.digits := le_ofDigits normal.allDigits normal.leading length
  intro same
  have value : scaled (ofDigits d.digits * 10) (2 * m) = scaled c (2 * k) := by
    rw [scaled_two_mul c, ← same, Decimal.value, place]
    exact (scaled_add (ofDigits d.digits) 1 (2 * m)).symm
  obtain coarse | fine := le_or_gt k m
  · obtain ⟨e, rfl⟩ : ∃ e : Nat, m = k + e := ⟨(m - k).toNat, by omega⟩
    have shift : 2 * (k + e) = 2 * k + (2 * e : Nat) := by push_cast; ring
    rw [shift, scaled_add, scaled_left_inj] at value
    have : ofDigits d.digits * 10 ≤ c := value ▸ Nat.le_mul_of_pos_right _ (by positivity)
    norm_num at below
    omega
  · obtain ⟨e, rfl⟩ : ∃ e : Nat, k = m + (e + 1 : Nat) := ⟨(k - m - 1).toNat, by omega⟩
    have shift : 2 * (m + (e + 1 : Nat)) = 2 * m + (2 * e + 2 : Nat) := by push_cast; ring
    rw [shift, scaled_add, scaled_left_inj, pow_add] at value
    have : ofDigits d.digits = c * 10 ^ (2 * e) * 10 := by
      have : 10 ^ 2 = 10 * 10 := rfl
      rw [this, ← mul_assoc, ← mul_assoc] at value
      omega
    exact units (this ▸ Dvd.intro_left _ rfl)

/-- Twenty pairs are enough exactly for the numbers that fit. -/
theorem exists_iff_pairs_le (normal : d.Normal) (length : d.digits.length ≤ 40) :
    (∃ (c : Nat) (k : Int), c < 100 ^ 20 ∧ d.value = c * 100 ^ k) ↔
      (d.digits.length + (d.point % 2).toNat + 1) / 2 ≤ 20 := by
  refine ⟨?_, exists_of_pairs_le normal.allDigits⟩
  rintro ⟨c, k, below, same⟩
  by_contra many
  exact not_exists_of_odd normal (by omega) (by omega) below same

end Count

theorem abs_value (n : Numeral) : |n.value| = n.magnitude.value := by
  rw [n.value_magnitude, Numeral.value]
  split
  · rw [abs_neg, abs_of_nonneg n.size_nonneg]
  · exact abs_of_nonneg n.size_nonneg

theorem fitsPairs_zero : FitsPairs 0 := ⟨0, 0, by norm_num⟩

/-- What is on the wire for a numeral other than zero. -/
theorem laidOut_numeral {n : Numeral} {bytes : List UInt8} (nonzero : n.value ≠ 0)
    (wire : ofDecimal? n.sign.negative n.magnitude = some bytes) :
    ∃ count ≤ 21, LaidOut (decide (n.value < 0)) count bytes ∧
      (FitsPairs n.value ↔ count ≤ 20) := by
  have nonempty := Numeral.magnitude_digits_eq_nil.not.2 nonzero
  have sign : n.sign.negative = decide (n.value < 0) := by
    rw [Bool.eq_iff_iff, decide_eq_true_iff]
    exact n.negative_iff nonzero
  obtain ⟨length, laid⟩ := laidOut_ofDecimal? n.magnitude_normal nonempty wire
  refine ⟨_, by omega, sign ▸ laid, ?_⟩
  rw [FitsPairs, abs_value, exists_iff_pairs_le n.magnitude_normal length]

/-- An accepted text takes the one byte of zero, or is well-formed with at most 21 bytes, unless
its number does not fit twenty pairs: then there are 21 of them and a byte more. -/
theorem encode_wellFormed {text : String} {bytes : List UInt8}
    (accepted : encode text = .ok bytes) :
    ∃ q, Denotes text q ∧ (q = 0 → bytes = [0x80]) ∧
      (q ≠ 0 → FitsPairs q → WellFormed (decide (q < 0)) bytes ∧ bytes.length ≤ 21) ∧
      (¬FitsPairs q → LaidOut (decide (q < 0)) 21 bytes ∧ bytes.length = 22) := by
  obtain ⟨n, spells, -, wire⟩ := encode_eq_ok_iff.1 accepted
  refine ⟨n.value, ⟨n, spells, rfl⟩, fun zero => ?_, fun nonzero fits => ?_, fun large => ?_⟩
  · rw [ofDecimal?, if_pos (Numeral.magnitude_digits_eq_nil.2 zero)] at wire
    exact (Option.some.inj wire).symm
  · obtain ⟨count, -, laid, few⟩ := laidOut_numeral nonzero wire
    have formed : WellFormed (decide (n.value < 0)) bytes := ⟨count, few.1 fits, laid⟩
    exact ⟨formed, formed.length_le⟩
  · have nonzero : n.value ≠ 0 := fun zero => large (zero ▸ fitsPairs_zero)
    obtain ⟨count, most, laid, few⟩ := laidOut_numeral nonzero wire
    have full : count = 21 := le_antisymm most (not_le.1 (few.not.1 large))
    subst full
    refine ⟨laid, ?_⟩
    rw [laid.length, if_neg (by omega)]

/-- Thirty-nine digits out of step with the point fill the mantissa, and no byte closes it. -/
theorem full_mantissa_wellFormed :
    ∃ bytes, encode "-1.23456789012345678901234567890123456789e4" = .ok bytes ∧
      bytes.length = 21 ∧ ∃ q, Denotes "-1.23456789012345678901234567890123456789e4" q ∧
        WellFormed (decide (q < 0)) bytes := by
  have accepted : encode "-1.23456789012345678901234567890123456789e4" = .ok
      [60, 100, 78, 56, 34, 12, 100, 78, 56, 34, 12, 100, 78, 56, 34, 12, 100, 78, 56, 34, 12] := by
    decide
  obtain ⟨q, denotes, zero, formed, large⟩ := encode_wellFormed accepted
  have nonzero : q ≠ 0 := fun h => absurd (zero h) (by decide)
  have fits : FitsPairs q := by
    by_contra h
    exact absurd (large h).2 (by decide)
  exact ⟨_, accepted, rfl, q, denotes, (formed nonzero fits).1⟩

/-- Forty digits with an odd point are accepted and take 22 bytes. -/
theorem forty_digits_not_wellFormed :
    ∃ bytes, encode "1.234567890123456789012345678901234567891" = .ok bytes ∧
      bytes ≠ [0x80] ∧ (∀ negative, ¬WellFormed negative bytes) ∧ bytes.length = 22 := by
  refine ⟨[193, 2, 24, 46, 68, 90, 2, 24, 46, 68, 90, 2, 24, 46, 68, 90, 2, 24, 46, 68, 90, 11],
    by decide, by decide, fun negative formed => ?_, rfl⟩
  exact absurd formed.length_le (by decide)

end SqlBinder.Wire.Numeric

import SqlBinder.Proofs.Calendar.Chronology
import SqlBinder.Proofs.Wire.Decoding
import SqlBinder.Proofs.Wire.Range
import SqlBinder.Proofs.Wire.Timestamps

/-!
The order of bytes. Numbers and date-times can be told apart by the first byte in which they differ:
the exponent stands in front of the pairs, a negative number is stored the other way round and ends
above every pair, and the fields of a date-time stand in the order of their spans. Main statement:
what has a smaller wire form, byte by byte, is the smaller integer or the earlier date-time.
-/
namespace SqlBinder

/-! ## Lists in the order of their first difference -/

section Lists

variable {α β : Type} [LT α] [LT β] {as as' bs bs' : List α}

theorem append_lt_append_iff (length : as.length = as'.length) :
    as ++ bs < as' ++ bs' ↔ as < as' ∨ as = as' ∧ bs < bs' := by
  induction as generalizing as' with
  | nil =>
    obtain rfl := List.length_eq_zero_iff.1 length.symm
    simp
  | cons a as ih =>
    obtain ⟨a', as', rfl⟩ := List.exists_cons_of_length_eq_add_one length.symm
    rw [List.cons_append, List.cons_append, List.cons_lt_cons_iff, List.cons_lt_cons_iff,
      ih (Nat.succ.inj length), List.cons.injEq]
    tauto

/-- Members that are compared like their images order the lists alike. -/
theorem map_lt_map_iff {f : α → β}
    (order : ∀ a ∈ as, ∀ a' ∈ as', (f a < f a' ↔ a < a') ∧ (f a = f a' ↔ a = a')) :
    as.map f < as'.map f ↔ as < as' := by
  induction as generalizing as' with
  | nil => cases as' <;> simp
  | cons a as ih =>
    cases as' with
    | nil => simp
    | cons a' as' =>
      obtain ⟨lt, eq⟩ := order a List.mem_cons_self a' List.mem_cons_self
      have rest := ih fun b member b' member' =>
        order b (List.mem_cons_of_mem a member) b' (List.mem_cons_of_mem a' member')
      rw [List.map_cons, List.map_cons, List.cons_lt_cons_iff, List.cons_lt_cons_iff, lt, eq, rest]

end Lists

namespace Wire.Numeric

open SqlBinder.Decimal

/-! ## Pairs and what they add up to -/

section Sums

variable {ps qs : List Nat}

theorem sumOf_nonneg (scale : Int) (ps : List Nat) : 0 ≤ sumOf scale ps := by
  rw [← value_unpair]
  exact scaled_nonneg _ _

/-- Pairs add up to less than one at the place in front of them. -/
theorem sumOf_lt (within : ∀ p ∈ ps, p < 100) (scale : Int) :
    sumOf scale ps < 100 ^ (scale + 1) := by
  induction ps generalizing scale with
  | nil => simpa [sumOf] using zpow_pos (by norm_num : (0 : ℚ) < 100) (scale + 1)
  | cons p ps ih =>
    simp only [List.mem_cons, forall_eq_or_imp] at within
    have rest := ih within.2 (scale - 1)
    have pair : (p : ℚ) + 1 ≤ 100 := by exact_mod_cast within.1
    have place : (0 : ℚ) ≤ 100 ^ scale := zpow_nonneg (by norm_num) _
    rw [sub_add_cancel] at rest
    calc
      sumOf scale (p :: ps) = p * 100 ^ scale + sumOf (scale - 1) ps := sumOf_cons scale p ps
      _ < p * 100 ^ scale + 100 ^ scale := add_lt_add_right rest _
      _ = (p + 1) * 100 ^ scale := by ring
      _ ≤ 100 * 100 ^ scale := mul_le_mul_of_nonneg_right pair place
      _ = 100 ^ (scale + 1) := by rw [zpow_add_one₀ (by norm_num), mul_comm]

theorem le_sumOf (leading : ps.head? ≠ some 0) (nonempty : ps ≠ []) (scale : Int) :
    100 ^ scale ≤ sumOf scale ps := by
  obtain ⟨p, ps, rfl⟩ := List.exists_cons_of_ne_nil nonempty
  have first : p ≠ 0 := by simpa using leading
  have pair : (1 : ℚ) ≤ p := by exact_mod_cast Nat.one_le_iff_ne_zero.2 first
  have place : (0 : ℚ) ≤ 100 ^ scale := zpow_nonneg (by norm_num) _
  calc
    (100 : ℚ) ^ scale ≤ p * 100 ^ scale := le_mul_of_one_le_left place pair
    _ ≤ p * 100 ^ scale + sumOf (scale - 1) ps := le_add_of_nonneg_right (sumOf_nonneg _ ps)
    _ = sumOf scale (p :: ps) := (sumOf_cons scale p ps).symm

theorem sumOf_pos (trailing : ps.getLast? ≠ some 0) (nonempty : ps ≠ []) (scale : Int) :
    0 < sumOf scale ps := by
  induction ps generalizing scale with
  | nil => exact absurd rfl nonempty
  | cons p ps ih =>
    have place : (0 : ℚ) < 100 ^ scale := zpow_pos (by norm_num) _
    rw [sumOf_cons]
    by_cases last : ps = []
    case pos =>
      subst last
      have pair : p ≠ 0 := by simpa using trailing
      have positive : (0 : ℚ) < p := by exact_mod_cast Nat.pos_of_ne_zero pair
      exact add_pos_of_pos_of_nonneg (mul_pos positive place) (sumOf_nonneg _ _)
    case neg =>
      rw [List.getLast?_cons_of_ne_nil last] at trailing
      exact add_pos_of_nonneg_of_pos (mul_nonneg p.cast_nonneg place.le) (ih trailing last _)

/-- The first pair in which they differ decides between two numbers. -/
theorem sumOf_lt_of_lt (less : ps < qs) (within : ∀ p ∈ ps, p < 100)
    (trailing : qs.getLast? ≠ some 0) (scale : Int) : sumOf scale ps < sumOf scale qs := by
  induction ps generalizing qs scale with
  | nil =>
    have nonempty : qs ≠ [] := by
      rintro rfl
      exact absurd less (List.not_lt_nil _)
    simpa [sumOf] using sumOf_pos trailing nonempty scale
  | cons p ps ih =>
    obtain _ | ⟨q, qs⟩ := qs
    · exact absurd less (List.not_lt_nil _)
    simp only [List.mem_cons, forall_eq_or_imp] at within
    rw [sumOf_cons, sumOf_cons]
    rcases List.cons_lt_cons_iff.1 less with first | ⟨rfl, rest⟩
    · have place : (0 : ℚ) ≤ 100 ^ scale := zpow_nonneg (by norm_num) _
      have pair : (p : ℚ) + 1 ≤ q := by exact_mod_cast first
      have below := sumOf_lt within.2 (scale - 1)
      rw [sub_add_cancel] at below
      have above := sumOf_nonneg (scale - 1) qs
      have pairs := mul_le_mul_of_nonneg_right pair place
      linarith
    · have nonempty : qs ≠ [] := by
        rintro rfl
        exact absurd rest (List.not_lt_nil _)
      rw [List.getLast?_cons_of_ne_nil nonempty] at trailing
      exact add_lt_add_right (ih rest within.2 trailing _) _

end Sums

/-! ## Numbers -/

/-- A number other than zero to base 100: an exponent and the pairs behind it, of which neither the
first nor the last is 00. -/
structure Places (q : ℚ) (exponent : Nat) (ps : List Nat) : Prop where
  exponent_mem : 128 ≤ exponent ∧ exponent ≤ 255
  nonempty : ps ≠ []
  pairs_lt : ∀ p ∈ ps, p < 100
  leading : ps.head? ≠ some 0
  trailing : ps.getLast? ≠ some 0
  size : |q| = sumOf (exponent - 193) ps

/-- The bytes of a number other than zero. -/
def placeBytes (negative : Bool) (exponent : Nat) (ps : List Nat) : List UInt8 :=
  UInt8.ofNat (if negative then 255 - exponent else exponent) ::
    (ps.map (pairByte negative) ++ if negative ∧ ps.length < 20 then [102] else [])

section Places

variable {q q' : ℚ} {exponent exponent' : Nat} {ps ps' : List Nat}

theorem Places.size_lt_of_lt (h : Places q exponent ps) (h' : Places q' exponent' ps')
    (less : exponent :: ps < exponent' :: ps') : |q| < |q'| := by
  rw [h.size, h'.size]
  rcases List.cons_lt_cons_iff.1 less with exponents | ⟨rfl, pairs⟩
  · calc
      sumOf (exponent - 193) ps < 100 ^ ((exponent : Int) - 193 + 1) := sumOf_lt h.pairs_lt _
      _ ≤ 100 ^ ((exponent' : Int) - 193) := zpow_le_zpow_right₀ (by norm_num) (by omega)
      _ ≤ sumOf (exponent' - 193) ps' := le_sumOf h'.leading h'.nonempty _
  · exact sumOf_lt_of_lt pairs h.pairs_lt h'.trailing _

/-- The exponent decides between two magnitudes, and then the first pair in which they differ. -/
theorem Places.lt_of_size_lt (h : Places q exponent ps) (h' : Places q' exponent' ps')
    (less : |q| < |q'|) : exponent :: ps < exponent' :: ps' := by
  rcases lt_trichotomy (exponent :: ps) (exponent' :: ps') with smaller | same | larger
  · exact smaller
  · obtain ⟨rfl, rfl⟩ := List.cons.inj same
    exact absurd (h.size.trans h'.size.symm) less.ne
  · exact absurd (h'.size_lt_of_lt h larger) less.asymm

end Places

/-! Bytes of pairs. -/

section Bytes

variable {ps qs : List Nat} {p q exponent exponent' n : Nat}

theorem pairByte_lt_iff (negative : Bool) (small : p < 100) (small' : q < 100) :
    pairByte negative p < pairByte negative q ↔ if negative then q < p else p < q := by
  have byte := toNat_pairByte negative p small
  have byte' := toNat_pairByte negative q small'
  rw [UInt8.lt_iff_toNat_lt]
  cases negative <;> simp only [if_true, if_false, Bool.false_eq_true] at * <;> omega

theorem pairByte_inj (negative : Bool) (small : p < 100) (small' : q < 100) :
    pairByte negative p = pairByte negative q ↔ p = q := by
  have byte := toNat_pairByte negative p small
  have byte' := toNat_pairByte negative q small'
  rw [← UInt8.toNat_inj]
  cases negative <;> simp only [if_true, if_false, Bool.false_eq_true] at * <;> omega

/-- The closing byte is above every pair. -/
theorem pairByte_lt_closing (small : p < 100) : pairByte true p < 102 := by
  have byte := toNat_pairByte true p small
  have closing : (102 : UInt8).toNat = 102 := rfl
  rw [UInt8.lt_iff_toNat_lt, closing]
  simp only [if_true] at byte
  omega

/-- Negative pairs are in the opposite order: fewer of them, closed or full, come behind more. -/
theorem closed_lt_of_lt (less : ps < qs) (within : ∀ p ∈ ps, p < 100) (within' : ∀ q ∈ qs, q < 100)
    (most : qs.length ≤ n) :
    qs.map (pairByte true) ++ (if qs.length < n then [102] else []) <
      ps.map (pairByte true) ++ if ps.length < n then [102] else [] := by
  induction ps generalizing qs n with
  | nil =>
    obtain _ | ⟨q, qs⟩ := qs
    · exact absurd less (List.not_lt_nil _)
    have room : 0 < n := Nat.lt_of_lt_of_le (Nat.succ_pos _) most
    simp only [List.mem_cons, forall_eq_or_imp] at within'
    simp only [List.map_cons, List.cons_append, List.map_nil, List.nil_append, List.length_nil,
      room, if_true, List.cons_lt_cons_iff]
    exact .inl (pairByte_lt_closing within'.1)
  | cons p ps ih =>
    obtain _ | ⟨q, qs⟩ := qs
    · exact absurd less (List.not_lt_nil _)
    obtain ⟨n, rfl⟩ : ∃ m, n = m + 1 := ⟨n - 1, by simp only [List.length_cons] at most; omega⟩
    simp only [List.mem_cons, forall_eq_or_imp] at within within'
    simp only [List.length_cons, Nat.add_le_add_iff_right] at most
    simp only [List.map_cons, List.cons_append, List.length_cons, Nat.add_lt_add_iff_right,
      List.cons_lt_cons_iff, pairByte_lt_iff true within'.1 within.1,
      pairByte_inj true within'.1 within.1, if_true]
    rcases List.cons_lt_cons_iff.1 less with first | ⟨rfl, rest⟩
    · exact .inl first
    · exact .inr ⟨rfl, ih rest within.2 within'.2 most⟩

theorem exponentByte_lt_iff (negative : Bool) (high : exponent ≤ 255)
    (high' : exponent' ≤ 255) :
    UInt8.ofNat (if negative then 255 - exponent else exponent) <
        UInt8.ofNat (if negative then 255 - exponent' else exponent') ↔
      if negative then exponent' < exponent else exponent < exponent' := by
  have byte := toNat_exponentByte high negative
  have byte' := toNat_exponentByte high' negative
  rw [UInt8.lt_iff_toNat_lt]
  cases negative <;> simp only [if_true, if_false, Bool.false_eq_true] at * <;> omega

/-- Positive numbers are stored in the order of their exponents and pairs. -/
theorem placeBytes_lt_of_lt {exponent exponent' : Nat} (high : exponent ≤ 255)
    (high' : exponent' ≤ 255) (less : exponent :: ps < exponent' :: qs)
    (within : ∀ p ∈ ps, p < 100) (within' : ∀ q ∈ qs, q < 100) :
    placeBytes false exponent ps < placeBytes false exponent' qs := by
  have body : ps.map (pairByte false) < qs.map (pairByte false) ↔ ps < qs :=
    map_lt_map_iff fun p member q member' =>
      ⟨pairByte_lt_iff false (within p member) (within' q member'),
        pairByte_inj false (within p member) (within' q member')⟩
  simp only [placeBytes, Bool.false_eq_true, false_and, if_false, List.append_nil,
    List.cons_lt_cons_iff, body]
  rcases List.cons_lt_cons_iff.1 less with first | ⟨rfl, rest⟩
  · exact .inl ((exponentByte_lt_iff false high high').2 first)
  · exact .inr ⟨rfl, rest⟩

/-- Negative numbers are stored in the opposite order. -/
theorem placeBytes_lt_of_gt (high : exponent ≤ 255) (high' : exponent' ≤ 255)
    (less : exponent :: ps < exponent' :: qs) (within : ∀ p ∈ ps, p < 100)
    (within' : ∀ q ∈ qs, q < 100) (few : qs.length ≤ 20) :
    placeBytes true exponent' qs < placeBytes true exponent ps := by
  simp only [placeBytes, true_and, List.cons_lt_cons_iff]
  rcases List.cons_lt_cons_iff.1 less with first | ⟨rfl, rest⟩
  · exact .inl ((exponentByte_lt_iff true high' high).2 first)
  · exact .inr ⟨rfl, closed_lt_of_lt rest within within' few⟩

end Bytes

/-! What is written. -/

section Written

variable {q q' : ℚ} {bytes bytes' : List UInt8}

/-- The wire form of a number. A negative one has at most twenty pairs. -/
inductive Written : ℚ → List UInt8 → Prop
  | zero : Written 0 [128]
  | positive {q : ℚ} {exponent : Nat} {ps : List Nat} (sign : 0 < q)
    (places : Places q exponent ps) : Written q (placeBytes false exponent ps)
  | negative {q : ℚ} {exponent : Nat} {ps : List Nat} (sign : q < 0)
    (places : Places q exponent ps) (few : ps.length ≤ 20) :
    Written q (placeBytes true exponent ps)

/-- The first byte of a negative number is below that of zero. -/
theorem Places.negative_lt_zero {exponent : Nat} {ps : List Nat} (places : Places q exponent ps)
    (bytes : List UInt8) : placeBytes true exponent ps < 128 :: bytes := by
  obtain ⟨low, high⟩ := places.exponent_mem
  have byte := toNat_exponentByte high true
  have zero : (128 : UInt8).toNat = 128 := rfl
  unfold placeBytes
  rw [List.cons_lt_cons_iff, UInt8.lt_iff_toNat_lt, zero]
  simp only [if_true] at *
  omega

/-- Zero is below every positive number, also below one with its own first byte. -/
theorem Places.zero_lt_positive {exponent : Nat} {ps : List Nat} (places : Places q exponent ps) :
    [128] < placeBytes false exponent ps := by
  obtain ⟨low, high⟩ := places.exponent_mem
  obtain ⟨p, ps, rfl⟩ := List.exists_cons_of_ne_nil places.nonempty
  have byte := toNat_exponentByte high false
  have zero : (128 : UInt8).toNat = 128 := rfl
  unfold placeBytes
  rw [List.cons_lt_cons_iff, UInt8.lt_iff_toNat_lt, ← UInt8.toNat_inj, zero]
  simp only [Bool.false_eq_true, if_false, List.map_cons, List.cons_append,
    List.nil_lt_cons, and_true] at *
  omega

theorem Written.lt_of_lt (h : Written q bytes) (h' : Written q' bytes') (less : q < q') :
    bytes < bytes' := by
  cases h with
  | zero =>
    cases h' with
    | zero => exact absurd less (lt_irrefl _)
    | positive sign places => exact places.zero_lt_positive
    | negative sign places few => exact absurd less sign.not_gt
  | positive sign places =>
    cases h' with
    | zero => exact absurd less sign.not_gt
    | positive sign' places' =>
      have sizes : |q| < |q'| := by rwa [abs_of_pos sign, abs_of_pos sign']
      exact placeBytes_lt_of_lt places.exponent_mem.2 places'.exponent_mem.2
        (places.lt_of_size_lt places' sizes) places.pairs_lt places'.pairs_lt
    | negative sign' places' few => exact absurd less (sign'.trans sign).not_gt
  | negative sign places few =>
    cases h' with
    | zero => exact places.negative_lt_zero []
    | positive sign' places' =>
      exact List.lt_trans (places.negative_lt_zero []) places'.zero_lt_positive
    | negative sign' places' few' =>
      have sizes : |q'| < |q| := by
        rw [abs_of_neg sign, abs_of_neg sign']
        exact neg_lt_neg less
      exact placeBytes_lt_of_gt places'.exponent_mem.2 places.exponent_mem.2
        (places'.lt_of_size_lt places sizes) places'.pairs_lt places.pairs_lt few

end Written

/-- What is on the wire for a numeral other than zero. -/
theorem exists_places {n : Numeral} {bytes : List UInt8} (nonzero : n.value ≠ 0)
    (wire : ofDecimal? n.sign.negative n.magnitude = some bytes) :
    ∃ exponent ps, Places n.value exponent ps ∧ (FitsPairs n.value ↔ ps.length ≤ 20) ∧
      bytes = placeBytes n.sign.negative exponent ps := by
  have normal := n.magnitude_normal
  have nonempty := Numeral.magnitude_digits_eq_nil.not.2 nonzero
  obtain ⟨i, most, exponent, low, high, length, place, rfl⟩ := ofDecimal?_eq_some nonempty wire
  have parity : (n.magnitude.point % 2).toNat = i := by omega
  have digits : AllDigits (List.replicate i 0 ++ n.magnitude.digits) :=
    allDigits_append.2 ⟨allDigits_replicate i (by decide), normal.allDigits⟩
  have trailing : (List.replicate i 0 ++ n.magnitude.digits).getLast? ≠ some 0 := by
    rw [List.getLast?_append_of_ne_nil _ nonempty]
    exact normal.trailing
  obtain ⟨j, unpaired⟩ := exists_unpair_pairs digits
  refine ⟨exponent, pairs (List.replicate i 0 ++ n.magnitude.digits), ?_, ?_, rfl⟩
  · refine ⟨⟨low, high⟩, by simp [pairs_eq_nil, nonempty], pairs_lt digits,
      head?_pairs most nonempty normal.leading, getLast?_pairs digits trailing, ?_⟩
    have shifted : 2 * ((exponent : Int) - 193 + 1) = n.magnitude.point + i := by omega
    rw [abs_value, ← value_unpair, unpaired, shifted]
    exact (n.magnitude.value_padded i j).symm
  · rw [FitsPairs, abs_value, exists_iff_pairs_le normal length, length_pairs, List.length_append,
      List.length_replicate, parity, Nat.add_comm i]

theorem written_numeral {n : Numeral} {bytes : List UInt8}
    (fits : n.value < 0 → FitsPairs n.value)
    (wire : ofDecimal? n.sign.negative n.magnitude = some bytes) : Written n.value bytes := by
  rcases lt_trichotomy n.value 0 with negative | zero | positive
  · obtain ⟨exponent, ps, places, few, rfl⟩ := exists_places negative.ne wire
    rw [(n.negative_iff negative.ne).2 negative]
    exact .negative negative places (few.1 (fits negative))
  · rw [ofDecimal?, if_pos (Numeral.magnitude_digits_eq_nil.2 zero)] at wire
    cases wire
    rw [zero]
    exact .zero
  · obtain ⟨exponent, ps, places, -, rfl⟩ := exists_places positive.ne' wire
    have sign : n.sign.negative = false :=
      Bool.eq_false_iff.2 ((n.negative_iff positive.ne').not.2 positive.not_gt)
    rw [sign]
    exact .positive positive places

/-- Numbers are written in their order, if those below zero fit their pairs. -/
theorem ofDecimal?_lt_iff {m n : Numeral} {bytes bytes' : List UInt8}
    (fits : m.value < 0 → FitsPairs m.value) (fits' : n.value < 0 → FitsPairs n.value)
    (wire : ofDecimal? m.sign.negative m.magnitude = some bytes)
    (wire' : ofDecimal? n.sign.negative n.magnitude = some bytes') :
    bytes < bytes' ↔ m.value < n.value := by
  have written := written_numeral fits wire
  have written' := written_numeral fits' wire'
  refine ⟨fun less => ?_, written.lt_of_lt written'⟩
  rcases lt_trichotomy m.value n.value with smaller | same | larger
  · exact smaller
  · rw [ofDecimal?_eq_of_value_eq same, wire'] at wire
    rw [Option.some.inj wire] at less
    exact absurd less (List.lt_irrefl _)
  · exact absurd (written'.lt_of_lt written larger) (List.lt_asymm less)

/-- Below zero twenty pairs are too few for forty digits out of step with the point: the first
number is the larger one, but no byte closes its pairs, and so it comes first. -/
example : ∃ bytes bytes', encode "-1.23456789012345678901234567890123456789" = .ok bytes ∧
    encode "-1.234567890123456789012345678901234567891" = .ok bytes' ∧ bytes < bytes' :=
  ⟨[62, 100, 78, 56, 34, 12, 100, 78, 56, 34, 12, 100, 78, 56, 34, 12, 100, 78, 56, 34, 12],
    [62, 100, 78, 56, 34, 12, 100, 78, 56, 34, 12, 100, 78, 56, 34, 12, 100, 78, 56, 34, 12, 91],
    by decide⟩

/-- Integers of 64 bits are encoded in their order. -/
theorem encodeInt_lt_iff (a b : Int64) :
    ∃ bytes bytes', encodeInt a = .ok bytes ∧ encodeInt b = .ok bytes' ∧
      (bytes < bytes' ↔ a < b) := by
  have small (n : Int64) : n.toInt.natAbs < 10 ^ maxDigits := by
    have low := n.le_toInt
    have high := n.toInt_lt
    have most : maxDigits = 40 := rfl
    rw [most]
    omega
  have fits (n : Int64) : FitsPairs (Numeral.ofInt n.toInt).value := by
    refine ⟨n.toInt.natAbs, 0, (small n).trans_eq (by norm_num [maxDigits]), ?_⟩
    rw [Numeral.value_ofInt, zpow_zero, mul_one, ← Int.cast_abs, Int.abs_eq_natAbs,
      Int.cast_natCast]
  obtain ⟨bytes, accepted, wire⟩ := exists_encode_ofInt (small a)
  obtain ⟨bytes', accepted', wire'⟩ := exists_encode_ofInt (small b)
  refine ⟨bytes, bytes', accepted, accepted', ?_⟩
  rw [ofDecimal?_lt_iff (fun _ => fits a) (fun _ => fits b) wire wire', Numeral.value_ofInt,
    Numeral.value_ofInt, Int.cast_lt, Int64.lt_iff_toInt_lt]

end Wire.Numeric

/-! ## Date-times -/

namespace Wire.Temporal

open Calendar

variable {x y : DateTime} {bs cs : List UInt8} {n m : Nat}

/-- Bytes are in the order of the numbers that they hold. -/
theorem lt_iff_map_toNat :
    bs < cs ↔ bs.map (fun b => (b.toNat : Int)) < cs.map fun b => (b.toNat : Int) :=
  Iff.symm <| map_lt_map_iff fun b _ c _ => by
    rw [UInt8.lt_iff_toNat_lt, ← UInt8.toNat_inj, Int.ofNat_lt, Int.ofNat_inj]
    exact ⟨Iff.rfl, Iff.rfl⟩

/-- Reading on with bytes less than 256 keeps the order of what was read before. -/
theorem foldl_bytes_lt_iff (length : bs.length = cs.length) :
    bs.foldl (fun n b => 256 * n + b.toNat) n < cs.foldl (fun n b => 256 * n + b.toNat) m ↔
      n < m ∨ n = m ∧ bs < cs := by
  induction bs generalizing cs n m with
  | nil =>
    obtain rfl := List.length_eq_zero_iff.1 length.symm
    simp
  | cons b bs ih =>
    obtain ⟨c, cs, rfl⟩ := List.exists_cons_of_length_eq_add_one length.symm
    have byte := b.toNat_lt
    have byte' := c.toNat_lt
    have less : 256 * n + b.toNat < 256 * m + c.toNat ↔ n < m ∨ n = m ∧ b.toNat < c.toNat := by
      omega
    have same : 256 * n + b.toNat = 256 * m + c.toNat ↔ n = m ∧ b.toNat = c.toNat := by omega
    rw [List.foldl_cons, List.foldl_cons, ih (Nat.succ.inj length), List.cons_lt_cons_iff,
      UInt8.lt_iff_toNat_lt, ← UInt8.toNat_inj, less, same]
    tauto

/-- Numbers of four bytes, the most significant first, are in the order of their bytes. -/
theorem bigEndian_lt_iff (small : n < 4294967296) (small' : m < 4294967296) :
    bigEndian n < bigEndian m ↔ n < m := by
  have order := @foldl_bytes_lt_iff (bigEndian n) (bigEndian m) 0 0 rfl
  rw [← ofBigEndian, ← ofBigEndian, ofBigEndian_bigEndian small, ofBigEndian_bigEndian small']
    at order
  simpa using order.symm

/-- The seven bytes of a date-time are in the order of its day and its second. -/
theorem dateBytes_lt_iff (range : YearInRange x.date.year) (range' : YearInRange y.date.year) :
    dateBytes x < dateBytes y ↔ x.date.Before y.date ∨
      x.date = y.date ∧ x.secondOfDay < y.secondOfDay := by
  rw [lt_iff_map_toNat, dateBytes_fields range, dateBytes_fields range']
  obtain ⟨⟨year, month, day, _⟩, hour, minute, second, nano, time⟩ := x
  obtain ⟨⟨year', month', day', _⟩, hour', minute', second', nano', time'⟩ := y
  obtain ⟨-, mins, secs, -⟩ := time
  obtain ⟨-, mins', secs', -⟩ := time'
  simp only [dateFields, List.cons_lt_cons_iff, List.not_lt_nil, and_false, or_false, Date.Before,
    Date.mk.injEq, DateTime.secondOfDay]
  omega

theorem dateBytes_inj (range : YearInRange x.date.year) (range' : YearInRange y.date.year) :
    dateBytes x = dateBytes y ↔ x.date = y.date ∧ x.secondOfDay = y.secondOfDay := by
  have bytes : dateBytes x = dateBytes y ↔ dateFields x = dateFields y := by
    rw [← dateBytes_fields range, ← dateBytes_fields range', List.map_inj_right]
    intro b c same
    exact UInt8.toNat_inj.1 (Int.ofNat_inj.1 same)
  rw [bytes]
  obtain ⟨⟨year, month, day, _⟩, hour, minute, second, nano, time⟩ := x
  obtain ⟨⟨year', month', day', _⟩, hour', minute', second', nano', time'⟩ := y
  obtain ⟨-, mins, secs, -⟩ := time
  obtain ⟨-, mins', secs', -⟩ := time'
  simp only [dateFields, List.cons.injEq, and_true, Date.mk.injEq, DateTime.secondOfDay]
  omega

/-- What is encoded outside leap seconds is in the order of time. -/
theorem timestampBytes_lt_iff (range : YearInRange x.date.year) (range' : YearInRange y.date.year)
    (ordinary : x.IsOrdinary) (ordinary' : y.IsOrdinary) :
    dateBytes x ++ bigEndian x.nano < dateBytes y ++ bigEndian y.nano ↔ x < y := by
  have small : x.nano < 4294967296 := Nat.lt_trans ordinary (by decide)
  have small' : y.nano < 4294967296 := Nat.lt_trans ordinary' (by decide)
  have seven : (dateBytes x).length = (dateBytes y).length := rfl
  rw [append_lt_append_iff seven, dateBytes_lt_iff range range', dateBytes_inj range range',
    bigEndian_lt_iff small small', DateTime.lt_iff]
  tauto

end Wire.Temporal

namespace Wire

open Calendar Numeric Temporal

/-- Bytes are in the order of values. Integers of 64 bits all have wire forms, and those are in the
order of the integers. The wire forms of date-times at a scale are in the order of what the scale
leaves of them, which is never a leap second. -/
theorem bytes_in_value_order :
    (∀ a b : Int64, ∃ bytes bytes', encodeInt a = .ok bytes ∧ encodeInt b = .ok bytes' ∧
      (bytes < bytes' ↔ a < b)) ∧
    ∀ (x y : DateTime) (scale : Nat), YearInRange x.date.year → YearInRange y.date.year →
      ∃ bytes bytes', encodeTimestamp x scale = .ok bytes ∧ encodeTimestamp y scale = .ok bytes' ∧
        (bytes < bytes' ↔ x.truncate scale < y.truncate scale) := by
  refine ⟨encodeInt_lt_iff, fun x y scale range range' => ?_⟩
  exact ⟨_, _, encodeTimestamp_eq_ok_iff.2 ⟨range, rfl⟩, encodeTimestamp_eq_ok_iff.2 ⟨range', rfl⟩,
    timestampBytes_lt_iff range range' (x.isOrdinary_truncate scale) (y.isOrdinary_truncate scale)⟩

/-- The end of a century before Christ, and a millisecond and a nanosecond into the next one. -/
theorem century_before_christ_in_order :
    let last : DateTime := ⟨⟨-101, 12, 31, by decide⟩, 23, 59, 59, 999999999, by decide⟩
    let next : DateTime := ⟨⟨-100, 1, 1, by decide⟩, 0, 0, 0, 1000001, by decide⟩
    YearInRange last.date.year ∧ YearInRange next.date.year ∧
      ∃ bytes bytes', encodeTimestamp last 3 = .ok bytes ∧ encodeTimestamp next 3 = .ok bytes' ∧
        bytes < bytes' := by
  intro last next
  have range : YearInRange last.date.year := by decide
  have range' : YearInRange next.date.year := by decide
  obtain ⟨bytes, bytes', encoded, encoded', order⟩ :=
    bytes_in_value_order.2 last next 3 range range'
  exact ⟨range, range', bytes, bytes', encoded, encoded', order.2 (by decide)⟩

end Wire

end SqlBinder

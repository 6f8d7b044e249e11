import SqlBinder.Proofs.Binary.Nearest
import Mathlib.Algebra.Order.Floor.Semifield

/-!
The fewest digits. Main statement: a decimal that reads back as a number is the one printed for it,
if its digits are few against the places of the mantissa.

The search goes through grids of decimals, coarse ones first. On one grid decimals lie a step apart,
so where the numbers that read back alike are within a step, one of them at most is on the grid; and
a decimal with few digits is on a grid that is coarse enough for that.
-/
namespace SqlBinder.Binary

open Decimal

variable {num den : Nat}

/-! ## Decimals on a grid -/

section Units

variable {units : Nat} {exponent : Int}

theorem ofUnits_eq (pos : 0 < units) : ofUnits units exponent =
    Decimal.normalize ⟨digitsOf units, (digitsOf units).length + exponent⟩ := by
  have front : (digitsOf units).dropWhile (· == 0) = digitsOf units := by
    cases digits : digitsOf units with
    | nil => rfl
    | cons d ds =>
      refine List.dropWhile_cons_of_neg fun zero => ?_
      have leading : (digitsOf units).head? = some 0 := by rw [digits, ← beq_iff_eq.1 zero]; rfl
      have number := ofDigits_digitsOf units
      rw [(unpadded_digitsOf units).leading leading, ofDigits_singleton] at number
      omega
  simp only [ofUnits, map_toDigits, Decimal.normalize, front, Nat.sub_self, Nat.cast_zero, sub_zero]

theorem normal_ofUnits (pos : 0 < units) : (ofUnits units exponent).Normal :=
  ofUnits_eq pos ▸ normal_normalize (allDigits_digitsOf units)

theorem value_ofUnits (pos : 0 < units) :
    (ofUnits units exponent).value = scaled units exponent := by
  rw [ofUnits_eq pos, value_normalize, Decimal.value, ofDigits_digitsOf, add_sub_cancel_left]

/-- Decimals on one grid are the same or a step apart. -/
theorem eq_of_near {m n : Nat} (near : |scaled m exponent - scaled n exponent| < 10 ^ exponent) :
    m = n := by
  have step : (0 : ℚ) < 10 ^ exponent := zpow_pos (by norm_num) _
  rw [scaled, scaled, ← sub_mul, abs_mul, abs_of_pos step, mul_lt_iff_lt_one_left step] at near
  have integers : |(m : Int) - n| < 1 := by exact_mod_cast near
  have same := Int.abs_lt_one_iff.1 integers
  omega

end Units

/-- The exponent of a quotient to base 10, one above the highest power in it. -/
theorem decade_bounds (num_pos : 0 < num) (den_pos : 0 < den) :
    (10 : ℚ) ^ (decade num den - 1) ≤ (num : ℚ) / den ∧ (num : ℚ) / den < 10 ^ decade num den := by
  have length : ∀ {n : Nat}, 0 < n → (Nat.toDigits 10 n).length = Nat.log 10 n + 1 := by
    intro n pos
    rw [toDigits_eq, length_digitChars, digitsOf, if_neg pos.ne', List.length_reverse,
      Nat.length_digits 10 n (by decide) pos.ne']
  have between := div_between (b := 10) (by norm_num)
    (by exact_mod_cast Nat.pow_log_le_self 10 num_pos.ne')
    (by exact_mod_cast Nat.lt_pow_succ_log_self (by decide) num)
    (by exact_mod_cast Nat.pow_log_le_self 10 den_pos.ne')
    (by exact_mod_cast Nat.lt_pow_succ_log_self (by decide) den)
  have shift : ((Nat.toDigits 10 num).length : Int) - (Nat.toDigits 10 den).length =
      (Nat.log 10 num : Int) - Nat.log 10 den := by
    rw [length num_pos, length den_pos]
    push_cast
    ring
  rcases exponent_cases between (zpow_le_div_iff (by decide) den_pos _) with
    ⟨high, bounds⟩ | ⟨low, bounds⟩
  · have above : decade num den = (Nat.log 10 num : Int) - Nat.log 10 den + 1 := by
      unfold decade
      rw [shift]
      exact if_pos high
    rw [above, add_sub_cancel_right]
    exact bounds
  · have there : decade num den = (Nat.log 10 num : Int) - Nat.log 10 den := by
      unfold decade
      rw [shift]
      exact if_neg low
    rw [there]
    exact bounds

/-! ## The search for a grid -/

namespace Neighbourhood

variable {n : Neighbourhood} {exponent : Int} {units : Nat}

theorem holds_scaled (pos : 0 < n.den) :
    n.Holds (units * tenTo exponent.toNat) (tenTo (-exponent).toNat) ↔
      n.Has (scaled units exponent) := by
  rw [holds_iff pos (tenTo_pos _), scaled, zpow_eq_div, Nat.cast_mul, cast_tenTo, cast_tenTo,
    mul_div_assoc]

/-- What is given on a grid reads back. -/
theorem has_of_onGrid? (pos : 0 < n.den) (found : n.onGrid? exponent = some units) :
    n.Has (scaled units exponent) := by
  unfold onGrid? at found
  simp only at found
  split at found
  case isTrue upper =>
    obtain rfl := Option.some.inj found
    rw [Bool.and_eq_true, decide_eq_true_eq] at upper
    exact (holds_scaled pos).1 upper.1
  case isFalse =>
    split at found
    case isTrue lower =>
      obtain rfl := Option.some.inj found
      exact (holds_scaled pos).1 (of_decide_eq_true lower)
    case isFalse => cases found

/-- The value of the number. -/
def middle (n : Neighbourhood) : ℚ := (n.value : ℚ) / n.den

/-- If a decimal of the grid reads back, less than a step from the value, there is one. -/
theorem exists_onGrid? (pos : 0 < n.den) (has : n.Has (scaled units exponent))
    (near : |scaled units exponent - n.middle| < 10 ^ exponent) :
    ∃ found, n.onGrid? exponent = some found := by
  have step : (0 : ℚ) < 10 ^ exponent := zpow_pos (by norm_num) _
  have lower : (n.value * tenTo (-exponent).toNat / (n.den * tenTo exponent.toNat) : Nat) =
      ⌊n.middle / 10 ^ exponent⌋₊ := by
    rw [← Nat.floor_div_eq_div (K := ℚ), middle, zpow_eq_div]
    congr 1
    push_cast
    rw [cast_tenTo, cast_tenTo, div_div_div_eq]
  have places : |(units : ℚ) - n.middle / 10 ^ exponent| < 1 := by
    rw [← mul_lt_mul_iff_left₀ step, ← abs_of_pos step, ← abs_mul, sub_mul, abs_of_pos step,
      div_mul_cancel₀ _ step.ne', one_mul]
    exact near
  have nonneg : 0 ≤ n.middle / 10 ^ exponent := by
    unfold middle
    positivity
  have two : units = ⌊n.middle / 10 ^ exponent⌋₊ ∨ units = ⌊n.middle / 10 ^ exponent⌋₊ + 1 := by
    obtain ⟨low, high⟩ := abs_lt.1 places
    have below := Nat.floor_le nonneg
    have above := Nat.lt_floor_add_one (n.middle / 10 ^ exponent)
    have least : ⌊n.middle / 10 ^ exponent⌋₊ < units + 1 := by
      have : (⌊n.middle / 10 ^ exponent⌋₊ : ℚ) < units + 1 := by linarith
      exact_mod_cast this
    have most : units < ⌊n.middle / 10 ^ exponent⌋₊ + 2 := by
      have : (units : ℚ) < ⌊n.middle / 10 ^ exponent⌋₊ + 2 := by linarith
      exact_mod_cast this
    omega
  rw [← lower] at two
  have holds := (holds_scaled pos).2 has
  unfold onGrid?
  simp only
  split
  case isTrue => exact ⟨_, rfl⟩
  case isFalse noUpper =>
    split
    case isTrue => exact ⟨_, rfl⟩
    case isFalse noLower =>
      rw [decide_eq_true_eq] at noLower
      simp only [noLower, decide_false, Bool.not_false, Bool.true_or, Bool.and_true,
        decide_eq_true_eq] at noUpper
      rcases two with rfl | rfl
      · exact absurd holds noLower
      · exact absurd holds noUpper

/-- The search ends on the first grid with a number that reads back. -/
theorem search_eq {top : Int} (count more skipped : Nat)
    (none : ∀ i < skipped, n.onGrid? (top - (count + i : Nat)) = none)
    (found : n.onGrid? (top - (count + skipped : Nat)) = some units) (enough : skipped < more) :
    n.search top count more = ofUnits units (top - (count + skipped : Nat)) := by
  induction skipped generalizing count more with
  | zero =>
    obtain ⟨more, rfl⟩ := Nat.exists_eq_succ_of_ne_zero enough.ne'
    rw [Nat.add_zero] at found ⊢
    simp only [search, found]
  | succ skipped ih =>
    obtain ⟨more, rfl⟩ := Nat.exists_eq_succ_of_ne_zero (Nat.ne_zero_of_lt enough)
    have first := none 0 (Nat.succ_pos _)
    rw [Nat.add_zero] at first
    have shift : ∀ i, count + 1 + i = count + (i + 1) := by
      intro i
      omega
    simp only [search, first]
    rw [← shift skipped] at found ⊢
    refine ih (count + 1) more (fun i less => ?_) found (by omega)
    rw [shift]
    exact none (i + 1) (by omega)

/-- A decimal that reads back is what the search finds, if no other multiple of its last place reads
back and the neighbourhood is narrower than the grid that is tried first. -/
theorem search_of_has {top k : Int} {c : Nat} {width : ℚ} (pos : 0 < n.den)
    (has : n.Has (scaled c k)) (odd : ¬10 ∣ c)
    (narrow : ∀ x y, n.Has x → n.Has y → |x - y| ≤ width)
    (near : |scaled c k - n.middle| ≤ width) (small : width < 10 ^ k)
    (small' : width < 10 ^ (top - 1)) (enough : top - k ≤ 20) :
    (n.search top 1 20).Normal ∧ (n.search top 1 20).value = scaled c k := by
  have c_pos : 0 < c := Nat.pos_of_ne_zero fun zero => odd (by simp [zero])
  by_cases coarse : top - 1 ≤ k
  case pos =>
    -- The first grid has the decimal on it.
    obtain ⟨j, place⟩ : ∃ j : Nat, k = top - 1 + j := ⟨(k - (top - 1)).toNat, by omega⟩
    rw [place, scaled_add] at has near ⊢
    obtain ⟨units, found⟩ := exists_onGrid? pos has (near.trans_lt small')
    have same := eq_of_near ((narrow _ _ (has_of_onGrid? pos found) has).trans_lt small')
    obtain rfl := same
    have ends := search_eq 1 20 0 nofun found (by decide)
    have units_pos : 0 < c * 10 ^ j := by positivity
    rw [ends]
    exact ⟨normal_ofUnits units_pos, value_ofUnits units_pos⟩
  case neg =>
    -- Coarser grids have no such number, since it would be the decimal.
    obtain ⟨j, place⟩ : ∃ j : Nat, k = top - (1 + j : Nat) := ⟨(top - 1 - k).toNat, by omega⟩
    have none : ∀ i < j, n.onGrid? (top - (1 + i : Nat)) = none := by
      intro i coarser
      refine Option.eq_none_iff_forall_ne_some.2 fun units found => odd ?_
      obtain ⟨l, finer⟩ : ∃ l : Nat, top - (1 + i : Nat) = k + l :=
        ⟨(top - (1 + i : Nat) - k).toNat, by omega⟩
      have reads := has_of_onGrid? pos found
      rw [finer, scaled_add] at reads
      have same := eq_of_near ((narrow _ _ has reads).trans_lt small)
      have coarse : scaled c k = scaled units (top - (1 + i : Nat)) := by
        rw [same, ← scaled_add, finer]
      exact ten_dvd_of_scaled_eq (by omega) coarse
    obtain ⟨units, found⟩ := exists_onGrid? pos has (near.trans_lt small)
    obtain rfl := eq_of_near ((narrow _ _ (has_of_onGrid? pos found) has).trans_lt small)
    rw [place] at found ⊢
    rw [search_eq 1 20 j none found (by omega)]
    exact ⟨normal_ofUnits c_pos, value_ofUnits c_pos⟩

end Neighbourhood

/-! ## The decimal that is printed -/

/-- A decimal that reads back as a number with a full mantissa is the one of fewest digits, if it
has so few itself. -/
theorem Format.shortest_of_has {f : Format} {mantissa c : Nat} {scale k : Int}
    (full : twoTo f.fractionBits ≤ mantissa) (bits : 10 ≤ twoTo f.fractionBits)
    (has : (f.neighbourhood mantissa scale).Has (scaled c k)) (odd : ¬10 ∣ c)
    (few : 2 * c < twoTo f.fractionBits) (few' : c < 10 ^ 19) :
    (f.shortest mantissa scale).Normal ∧ (f.shortest mantissa scale).value = scaled c k := by
  have pos : 0 < mantissa := (twoTo_pos _).trans_le full
  have width : (0 : ℚ) < 2 ^ scale := zpow_pos (by norm_num) scale
  have step : (0 : ℚ) < 10 ^ k := zpow_pos (by norm_num) k
  have middle : (f.neighbourhood mantissa scale).middle = mantissa * 2 ^ scale :=
    neighbourhood_value
  -- All that reads back is within half a place of the value.
  have half : ∀ x, (f.neighbourhood mantissa scale).Has x →
      |x - mantissa * 2 ^ scale| ≤ 2 ^ scale / 2 := by
    intro x reads
    have places : |x / 2 ^ scale - mantissa| ≤ 1 / 2 := by
      have low : f.lowerPart mantissa scale ≤ 1 / 2 := lowerPart_le
      rw [neighbourhood_has pos] at reads
      rw [abs_le]
      split at reads <;> constructor <;> linarith
    have scaled' : x - mantissa * 2 ^ scale = (x / 2 ^ scale - mantissa) * 2 ^ scale := by
      rw [sub_mul, div_mul_cancel₀ _ width.ne']
    rw [scaled', abs_mul, abs_of_pos width]
    linarith [mul_le_mul_of_nonneg_right places width.le]
  have full' : (twoTo f.fractionBits : ℚ) * 2 ^ scale ≤ mantissa * 2 ^ scale :=
    mul_le_mul_of_nonneg_right (by exact_mod_cast full) width.le
  obtain ⟨below, above⟩ := abs_le.1 (half _ has)
  have decimal : scaled c k = c * 10 ^ k := rfl
  have small : (2 : ℚ) ^ scale < 10 ^ k := by
    by_contra wide
    have places : (2 * c + 1 : ℚ) * 2 ^ scale ≤ twoTo f.fractionBits * 2 ^ scale :=
      mul_le_mul_of_nonneg_right (by exact_mod_cast few) width.le
    have digits : (c : ℚ) * 10 ^ k ≤ c * 2 ^ scale :=
      mul_le_mul_of_nonneg_left (not_lt.1 wide) c.cast_nonneg
    have nonneg : (0 : ℚ) ≤ c * 2 ^ scale := by positivity
    linarith
  have value_pos : 0 < (f.neighbourhood mantissa scale).value :=
    Nat.mul_pos (Nat.mul_pos (by decide) pos) (twoTo_pos _)
  obtain ⟨least, most⟩ := decade_bounds value_pos neighbourhood_den_pos
  rw [neighbourhood_value] at least most
  unfold shortest
  simp only
  generalize decade (f.neighbourhood mantissa scale).value (f.neighbourhood mantissa scale).den =
    top at least most
  have small' : (2 : ℚ) ^ scale < 10 ^ (top - 1) := by
    have ten : (10 : ℚ) * 2 ^ scale ≤ twoTo f.fractionBits * 2 ^ scale :=
      mul_le_mul_of_nonneg_right (by exact_mod_cast bits) width.le
    have next : (10 : ℚ) ^ top = 10 * 10 ^ (top - 1) := by
      rw [mul_comm, ← zpow_add_one₀ (by norm_num), sub_add_cancel]
    linarith
  have enough : top - k ≤ 20 := by
    have digits : ((c : ℚ) + 1) * 10 ^ k ≤ 10 ^ (19 + k) := by
      rw [zpow_add₀ (by norm_num)]
      exact mul_le_mul_of_nonneg_right (by exact_mod_cast few') step.le
    have power : (10 : ℚ) ^ (top - 1) < 10 ^ (19 + k) := by linarith
    have := (zpow_lt_zpow_iff_right₀ (by norm_num)).1 power
    omega
  refine Neighbourhood.search_of_has neighbourhood_den_pos has odd (fun x y reads reads' => ?_) ?_
    small small' enough
  · have triangle := abs_sub_le x (mantissa * 2 ^ scale) y
    rw [abs_sub_comm ((mantissa : ℚ) * 2 ^ scale) y] at triangle
    linarith [half x reads, half y reads']
  · rw [middle]
    exact (half _ has).trans (by linarith)

end SqlBinder.Binary

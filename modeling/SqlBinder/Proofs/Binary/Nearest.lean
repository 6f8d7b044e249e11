import SqlBinder.Binary.Shortest
import SqlBinder.Proofs.Binary.Numerals
import Mathlib.Tactic.Linarith
import Mathlib.Tactic.Positivity

/-!
The number nearest to a quotient. Main statement: within the range of a format the word nearest to a
quotient is that of a number with a full mantissa, and the quotient is among those that read back as
it.

Everything is counted in places of the mantissa. There the numbers that read back alike reach half a
place up and half a place down, or a quarter above a change of the scale, so rounding to a whole
number of places stays among them. Rounding up to the next power of two is a case of its own.
-/
namespace SqlBinder.Binary

variable {num den : Nat}

/-! Powers with an exponent of either sign, kept as two of which one is 1. -/

theorem cast_twoTo (n : Nat) : (twoTo n : ℚ) = 2 ^ n := by
  rw [twoTo, Nat.pow_eq, Nat.cast_pow, Nat.cast_ofNat]

theorem cast_tenTo (n : Nat) : (tenTo n : ℚ) = 10 ^ n := by
  rw [tenTo, Nat.pow_eq, Nat.cast_pow, Nat.cast_ofNat]

theorem zpow_eq_div (b : ℚ) (e : Int) : b ^ e = b ^ e.toNat / b ^ (-e).toNat := by
  by_cases sign : 0 ≤ e
  case pos =>
    have other : (-e).toNat = 0 := by omega
    rw [other, pow_zero, div_one, ← zpow_natCast, Int.toNat_of_nonneg sign]
  case neg =>
    have other : e.toNat = 0 := by omega
    rw [other, pow_zero, one_div, ← zpow_natCast, Int.toNat_of_nonneg (by omega), zpow_neg, inv_inv]

/-- A quotient reaches a power if the products across do. -/
theorem zpow_le_div_iff {b : Nat} (pos : 0 < b) (den_pos : 0 < den) (e : Int) :
    (b : ℚ) ^ e ≤ (num : ℚ) / den ↔
      if 0 ≤ e then den * b ^ e.toNat ≤ num else den ≤ num * b ^ (-e).toNat := by
  have below : (0 : ℚ) < den := by exact_mod_cast den_pos
  have base : (0 : ℚ) < b := by exact_mod_cast pos
  have across : (b : ℚ) ^ e ≤ (num : ℚ) / den ↔ den * b ^ e.toNat ≤ num * b ^ (-e).toNat := by
    rw [zpow_eq_div, div_le_div_iff₀ (by positivity) below, mul_comm ((b : ℚ) ^ e.toNat)]
    norm_cast
  rw [across]
  split
  case isTrue sign => rw [show (-e).toNat = 0 by omega, pow_zero, mul_one]
  case isFalse sign => rw [show e.toNat = 0 by omega, pow_zero, mul_one]

/-! The exponent of a quotient. -/

/-- Between powers on both sides of a division, the quotient is known up to one power. -/
theorem div_between {b : ℚ} (pos : 0 < b) {i j : Nat} (num_low : b ^ i ≤ num)
    (num_high : num < b ^ (i + 1)) (den_low : b ^ j ≤ den) (den_high : den < b ^ (j + 1)) :
    b ^ ((i : Int) - j - 1) ≤ (num : ℚ) / den ∧ (num : ℚ) / den < b ^ ((i : Int) - j + 1) := by
  have below : (0 : ℚ) < den := (pow_pos pos j).trans_le den_low
  have front : b ^ ((i : Int) - j - 1) * b ^ (j + 1) = b ^ i := by
    rw [← zpow_natCast, ← zpow_natCast, ← zpow_add₀ pos.ne']
    congr 1
    push_cast
    ring
  have behind : b ^ ((i : Int) - j + 1) * b ^ j = b ^ (i + 1) := by
    rw [← zpow_natCast, ← zpow_natCast, ← zpow_add₀ pos.ne']
    congr 1
    push_cast
    ring
  constructor
  · rw [le_div_iff₀ below]
    calc b ^ ((i : Int) - j - 1) * den ≤ b ^ ((i : Int) - j - 1) * b ^ (j + 1) :=
          mul_le_mul_of_nonneg_left den_high.le (zpow_pos pos _).le
      _ ≤ num := front.le.trans num_low
  · rw [div_lt_iff₀ below]
    calc (num : ℚ) < b ^ ((i : Int) - j + 1) * b ^ j := num_high.trans_eq behind.symm
      _ ≤ b ^ ((i : Int) - j + 1) * den :=
          mul_le_mul_of_nonneg_left den_low (zpow_pos pos _).le

/-- Known up to one power, the exponent follows from whether the higher power is reached. -/
theorem exponent_cases {b x : ℚ} {e : Int} {reached : Prop}
    (between : b ^ (e - 1) ≤ x ∧ x < b ^ (e + 1)) (reaches : b ^ e ≤ x ↔ reached) :
    reached ∧ b ^ e ≤ x ∧ x < b ^ (e + 1) ∨ ¬reached ∧ b ^ (e - 1) ≤ x ∧ x < b ^ e := by
  by_cases high : reached
  · exact .inl ⟨high, reaches.2 high, between.2⟩
  · exact .inr ⟨high, between.1, not_le.1 fun le => high (reaches.1 le)⟩

theorem Format.log2Quotient_bounds (num_pos : 0 < num) (den_pos : 0 < den) :
    (2 : ℚ) ^ log2Quotient num den ≤ (num : ℚ) / den ∧
      (num : ℚ) / den < 2 ^ (log2Quotient num den + 1) := by
  have between := div_between (b := 2) (by norm_num)
    (by exact_mod_cast Nat.log2_self_le num_pos.ne') (by exact_mod_cast Nat.lt_log2_self)
    (by exact_mod_cast Nat.log2_self_le den_pos.ne') (by exact_mod_cast Nat.lt_log2_self)
  rcases exponent_cases between (zpow_le_div_iff (by decide) den_pos _) with
    ⟨high, bounds⟩ | ⟨low, bounds⟩
  · rw [show log2Quotient num den = (num.log2 : Int) - den.log2 from if_pos high]
    exact bounds
  · rw [show log2Quotient num den = (num.log2 : Int) - den.log2 - 1 from if_neg low, sub_add_cancel]
    exact bounds

/-! Rounding. -/

/-- The integer is half a unit off at most, and less if it is odd. -/
def Rounds (x : ℚ) (n : Nat) : Prop := |x - n| ≤ 1 / 2 ∧ (n % 2 = 1 → |x - n| < 1 / 2)

namespace Format

theorem rounds_divNearest (den_pos : 0 < den) : Rounds ((num : ℚ) / den) (divNearest num den) := by
  have below : (0 : ℚ) < den := by exact_mod_cast den_pos
  have parts : (num : ℚ) / den = (num / den : Nat) + (num % den : Nat) / den := by
    rw [div_eq_iff below.ne', add_mul, div_mul_cancel₀ _ below.ne', mul_comm]
    exact_mod_cast (Nat.div_add_mod num den).symm
  have twice : ((2 * (num % den) : Nat) : ℚ) = 2 * ((num % den : Nat) / den) * den := by
    rw [mul_assoc, div_mul_cancel₀ _ below.ne', Nat.cast_mul, Nat.cast_ofNat]
  have nonneg : (0 : ℚ) ≤ (num % den : Nat) / den := by positivity
  have small : ((num % den : Nat) : ℚ) / den < 1 :=
    (div_lt_one below).2 (by exact_mod_cast Nat.mod_lt num den_pos)
  -- Both comparisons of the rest with a half, in the numbers that are compared.
  have high : den < 2 * (num % den) ↔ 1 / 2 < ((num % den : Nat) : ℚ) / den := by
    rw [← Nat.cast_lt (α := ℚ), twice, lt_mul_iff_one_lt_left below]
    constructor <;> intro h <;> linarith
  have even : 2 * (num % den) = den ↔ ((num % den : Nat) : ℚ) / den = 1 / 2 := by
    rw [← Nat.cast_inj (R := ℚ), twice, mul_eq_right₀ below.ne']
    constructor <;> intro h <;> linarith
  rw [Rounds, parts]
  simp only [divNearest, gt_iff_lt, high, even]
  generalize ((num % den : Nat) : ℚ) / den = rest at nonneg small
  split
  case isTrue up =>
    have off : |((num / den : Nat) : ℚ) + rest - (num / den + 1 : Nat)| = 1 - rest := by
      rw [abs_sub_comm, abs_of_nonneg (by push_cast; linarith)]
      push_cast
      ring
    rw [off]
    constructor
    · rcases up with more | ⟨tie, -⟩ <;> linarith
    · intro odd
      rcases up with more | ⟨-, odd'⟩
      · linarith
      · omega
  case isFalse down =>
    have off : |((num / den : Nat) : ℚ) + rest - (num / den : Nat)| = rest := by
      rw [add_sub_cancel_left, abs_of_nonneg nonneg]
    simp only [not_or, not_lt, not_and] at down
    rw [off]
    exact ⟨down.1, fun odd => lt_of_le_of_ne down.1 fun tie => down.2 tie odd⟩

theorem rounds_divScaled (den_pos : 0 < den) (scale : Int) :
    Rounds ((num : ℚ) / den / 2 ^ scale) (divScaled num den scale) := by
  rw [zpow_eq_div, divScaled]
  split
  case isTrue sign =>
    have fits : Rounds ((num : ℚ) / (den * twoTo scale.toNat : Nat)) _ :=
      rounds_divNearest (Nat.mul_pos den_pos (twoTo_pos scale.toNat))
    rw [Nat.cast_mul, cast_twoTo] at fits
    rwa [show (-scale).toNat = 0 by omega, pow_zero, div_one, div_div]
  case isFalse sign =>
    have fits : Rounds ((num * twoTo (-scale).toNat : Nat) / den) _ := rounds_divNearest den_pos
    rw [Nat.cast_mul, cast_twoTo] at fits
    rwa [show scale.toNat = 0 by omega, pow_zero, div_div_eq_mul_div, div_one, div_mul_eq_mul_div]

end Format

namespace Rounds

variable {x : ℚ} {n a : Nat}

theorem le_of_le (h : Rounds x n) (low : (a : ℚ) ≤ x) : a ≤ n := by
  by_contra less
  have next : ((n + 1 : Nat) : ℚ) ≤ a := by exact_mod_cast Nat.not_le.1 less
  push_cast at next
  linarith [(abs_le.1 h.1).2]

theorem ge_of_le (h : Rounds x n) (high : x ≤ a) : n ≤ a := by
  by_contra more
  have next : ((a + 1 : Nat) : ℚ) ≤ n := by exact_mod_cast Nat.not_le.1 more
  push_cast at next
  linarith [(abs_le.1 h.1).1]

end Rounds

/-! What reads back. -/

/-- The number is in the neighbourhood. -/
def Neighbourhood.Has (n : Neighbourhood) (x : ℚ) : Prop :=
  if n.closed then (n.low : ℚ) / n.den ≤ x ∧ x ≤ (n.high : ℚ) / n.den
  else (n.low : ℚ) / n.den < x ∧ x < (n.high : ℚ) / n.den

theorem Neighbourhood.holds_iff {n : Neighbourhood} (pos : 0 < n.den) (den_pos : 0 < den) :
    n.Holds num den ↔ n.Has ((num : ℚ) / den) := by
  have below : (0 : ℚ) < n.den := by exact_mod_cast pos
  have below' : (0 : ℚ) < den := by exact_mod_cast den_pos
  unfold Holds Has
  split
  · rw [div_le_div_iff₀ below below', div_le_div_iff₀ below' below]
    norm_cast
  · rw [div_lt_div_iff₀ below below', div_lt_div_iff₀ below' below]
    norm_cast

namespace Format

variable {f : Format} {mantissa : Nat} {scale : Int} {x : ℚ}

/-- The lower end is half a place away, and above a change of the scale a quarter. -/
def lowerPart (f : Format) (mantissa : Nat) (scale : Int) : ℚ :=
  if mantissa = twoTo f.fractionBits ∧ f.lowestScale < scale then 1 / 4 else 1 / 2

theorem lowerPart_le : f.lowerPart mantissa scale ≤ 1 / 2 := by
  unfold lowerPart
  split <;> norm_num

theorem neighbourhood_den_pos : 0 < (f.neighbourhood mantissa scale).den := twoTo_pos _

/-- The numbers of a neighbourhood are in quarters of a place. -/
theorem quarters (n : Nat) (scale : Int) :
    ((n * twoTo (scale - 2).toNat : Nat) : ℚ) / (twoTo (2 - scale).toNat : Nat) =
      n / 4 * 2 ^ scale := by
  have quarter : (2 : ℚ) ^ scale = 4 * 2 ^ (scale - 2) := by
    rw [zpow_sub₀ (by norm_num), zpow_ofNat]
    ring
  rw [quarter, zpow_eq_div 2 (scale - 2), Nat.cast_mul, cast_twoTo, cast_twoTo, neg_sub]
  ring

theorem neighbourhood_value :
    ((f.neighbourhood mantissa scale).value : ℚ) / (f.neighbourhood mantissa scale).den =
      mantissa * 2 ^ scale := by
  refine (quarters (4 * mantissa) scale).trans ?_
  push_cast
  ring

theorem neighbourhood_high :
    ((f.neighbourhood mantissa scale).high : ℚ) / (f.neighbourhood mantissa scale).den =
      (mantissa + 1 / 2) * 2 ^ scale := by
  refine (quarters (4 * mantissa + 2) scale).trans ?_
  push_cast
  ring

theorem neighbourhood_low (pos : 0 < mantissa) :
    ((f.neighbourhood mantissa scale).low : ℚ) / (f.neighbourhood mantissa scale).den =
      (mantissa - f.lowerPart mantissa scale) * 2 ^ scale := by
  refine (quarters _ scale).trans ?_
  unfold lowerPart
  split
  · rw [Nat.cast_sub (by omega)]
    push_cast
    ring
  · rw [Nat.cast_sub (by omega)]
    push_cast
    ring

/-- In places of the mantissa, the neighbourhood reaches half a place up. -/
theorem neighbourhood_has (pos : 0 < mantissa) : (f.neighbourhood mantissa scale).Has x ↔
    if mantissa % 2 = 0 then
      mantissa - f.lowerPart mantissa scale ≤ x / 2 ^ scale ∧ x / 2 ^ scale ≤ mantissa + 1 / 2
    else
      mantissa - f.lowerPart mantissa scale < x / 2 ^ scale ∧
        x / 2 ^ scale < mantissa + 1 / 2 := by
  have power : (0 : ℚ) < 2 ^ scale := zpow_pos (by norm_num) scale
  have closed : (f.neighbourhood mantissa scale).closed = decide (mantissa % 2 = 0) := rfl
  rw [Neighbourhood.Has, neighbourhood_low pos, neighbourhood_high, closed, le_div_iff₀ power,
    div_le_iff₀ power, lt_div_iff₀ power, div_lt_iff₀ power]
  simp only [decide_eq_true_eq]

/-! Words. -/

/-- A word with a full mantissa, as it is read. -/
theorem read_full {k : Nat} (full : twoTo f.fractionBits ≤ mantissa)
    (within : mantissa < 2 * twoTo f.fractionBits) (finite : k + 2 < twoTo f.exponentBits)
    (negative : Bool) :
    f.read (k * twoTo f.fractionBits + mantissa + if negative then f.signWord else 0) =
      .finite negative mantissa (f.lowestScale + k) := by
  have top : f.infinityWord = (twoTo f.exponentBits - 1) * twoTo f.fractionBits := rfl
  have room := Nat.mul_le_mul_right (twoTo f.fractionBits)
    (show k + 2 ≤ twoTo f.exponentBits - 1 by omega)
  rw [← top, Nat.add_mul] at room
  have small : k * twoTo f.fractionBits + mantissa < f.infinityWord := by omega
  have below := f.infinityWord_lt_signWord
  obtain ⟨fraction, rfl⟩ := Nat.exists_eq_add_of_le full
  have pos := twoTo_pos f.fractionBits
  have parts : k * twoTo f.fractionBits + (twoTo f.fractionBits + fraction) =
      fraction + twoTo f.fractionBits * (k + 1) := by ring
  have field : (k * twoTo f.fractionBits + (twoTo f.fractionBits + fraction)) /
      twoTo f.fractionBits = k + 1 := by
    rw [parts, Nat.add_mul_div_left _ _ pos, Nat.div_eq_of_lt (by omega), Nat.zero_add]
  have rest : (k * twoTo f.fractionBits + (twoTo f.fractionBits + fraction)) %
      twoTo f.fractionBits = fraction := by
    rw [parts, Nat.add_mul_mod_self_left, Nat.mod_eq_of_lt (by omega)]
  have sign : decide (f.signWord ≤ k * twoTo f.fractionBits + (twoTo f.fractionBits + fraction) +
      if negative then f.signWord else 0) = negative := by
    cases negative with
    | false => simpa using small.trans below
    | true => simp
  simp only [read, f.mod_signWord small.le negative, sign, field, rest]
  rw [if_neg (by omega), if_neg (by omega), if_neg (by omega), Nat.add_sub_cancel,
    Nat.add_comm fraction]

/-- A number that is rounded to a full mantissa reads back as it. -/
theorem has_of_rounds (full : twoTo f.fractionBits ≤ mantissa)
    (reaches : (twoTo f.fractionBits : ℚ) ≤ x / 2 ^ scale)
    (rounds : Rounds (x / 2 ^ scale) mantissa) :
    (f.neighbourhood mantissa scale).Has x := by
  have pos : 0 < mantissa := (twoTo_pos _).trans_le full
  obtain ⟨low, high⟩ := abs_le.1 rounds.1
  rw [neighbourhood_has pos]
  split
  case isTrue even =>
    refine ⟨?_, by linarith⟩
    unfold lowerPart
    split
    case isTrue least =>
      rw [least.1]
      linarith
    case isFalse => linarith
  case isFalse odd =>
    obtain ⟨low', high'⟩ := abs_lt.1 (rounds.2 (by omega))
    refine ⟨?_, by linarith⟩
    unfold lowerPart
    split
    case isTrue least =>
      rw [least.1]
      linarith
    case isFalse => linarith

/-- A number that is rounded up to the next power of two reads back as that. -/
theorem has_of_carry (bits : 0 < f.fractionBits) (above : f.lowestScale ≤ scale)
    (below : x / 2 ^ scale ≤ 2 * twoTo f.fractionBits)
    (rounds : Rounds (x / 2 ^ scale) (2 * twoTo f.fractionBits)) :
    (f.neighbourhood (twoTo f.fractionBits) (scale + 1)).Has x := by
  have even : twoTo f.fractionBits % 2 = 0 := by
    obtain ⟨n, more⟩ := Nat.exists_eq_succ_of_ne_zero bits.ne'
    rw [more, Nat.succ_eq_add_one, twoTo_succ, Nat.mul_mod_left]
  have half : x / 2 ^ (scale + 1) = x / 2 ^ scale / 2 := by
    rw [zpow_add₀ (by norm_num), zpow_one, div_div]
  have low := (abs_le.1 rounds.1).1
  push_cast at low
  rw [neighbourhood_has (twoTo_pos _), if_pos even, half, lowerPart, if_pos ⟨rfl, by omega⟩]
  constructor <;> linarith

/-- Within the range of a format, the nearest word is that of a number with a full mantissa, among
whose neighbours the quotient is. -/
theorem read_nearest (bits : 0 < f.fractionBits) (num_pos : 0 < num) (den_pos : 0 < den)
    (low : f.lowestScale + f.fractionBits ≤ log2Quotient num den)
    (high : log2Quotient num den + 3 < f.lowestScale + f.fractionBits + twoTo f.exponentBits)
    (negative : Bool) :
    ∃ mantissa scale, f.read (f.nearest negative num den) = .finite negative mantissa scale ∧
      twoTo f.fractionBits ≤ mantissa ∧ (f.neighbourhood mantissa scale).Has ((num : ℚ) / den) := by
  obtain ⟨k, place⟩ : ∃ k : Nat, log2Quotient num den - f.fractionBits = f.lowestScale + k :=
    ⟨(log2Quotient num den - f.fractionBits - f.lowestScale).toNat, by omega⟩
  have power : (0 : ℚ) < 2 ^ (f.lowestScale + k) := zpow_pos (by norm_num) _
  obtain ⟨least, most⟩ := log2Quotient_bounds num_pos den_pos
  have reaches : (twoTo f.fractionBits : ℚ) ≤ (num : ℚ) / den / 2 ^ (f.lowestScale + k) := by
    rw [le_div_iff₀ power, cast_twoTo, ← zpow_natCast, ← zpow_add₀ (by norm_num), ← place]
    rwa [add_sub_cancel]
  have below : (num : ℚ) / den / 2 ^ (f.lowestScale + k) ≤ 2 * twoTo f.fractionBits := by
    rw [div_le_iff₀ power, cast_twoTo, ← zpow_natCast, mul_assoc, ← zpow_add₀ (by norm_num),
      ← place, add_sub_cancel, mul_comm, ← zpow_add_one₀ (by norm_num)]
    exact most.le
  have rounds : Rounds ((num : ℚ) / den / 2 ^ (f.lowestScale + k)) _ := rounds_divScaled den_pos _
  have full := rounds.le_of_le reaches
  have within : divScaled num den (f.lowestScale + k) ≤ 2 * twoTo f.fractionBits :=
    rounds.ge_of_le (by exact_mod_cast below)
  have word : f.nearestMagnitude num den =
      k * twoTo f.fractionBits + divScaled num den (f.lowestScale + k) := by
    have scale : max (log2Quotient num den - f.fractionBits) f.lowestScale = f.lowestScale + k := by
      omega
    have room := Nat.mul_le_mul_right (twoTo f.fractionBits)
      (show k + 2 ≤ twoTo f.exponentBits - 1 by omega)
    rw [Nat.add_mul] at room
    simp only [nearestMagnitude, num_pos.ne', if_false, scale, add_sub_cancel_left,
      Int.toNat_natCast]
    exact Nat.min_eq_left ((Nat.add_le_add_left within _).trans room)
  rw [nearest, word]
  by_cases carry : divScaled num den (f.lowestScale + k) = 2 * twoTo f.fractionBits
  case pos =>
    refine ⟨twoTo f.fractionBits, f.lowestScale + k + 1, ?_, le_rfl, ?_⟩
    · rw [carry, show k * twoTo f.fractionBits + 2 * twoTo f.fractionBits =
        (k + 1) * twoTo f.fractionBits + twoTo f.fractionBits by ring,
        read_full le_rfl (by have := twoTo_pos f.fractionBits; omega) (by omega), Nat.cast_add_one,
        add_assoc]
    · exact has_of_carry bits (by omega) below (carry ▸ rounds)
  case neg =>
    exact ⟨_, _, read_full full (lt_of_le_of_ne within carry) (by omega) negative, full,
      has_of_rounds full reaches rounds⟩

end Format

end SqlBinder.Binary

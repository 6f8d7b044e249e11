import SqlBinder.Proofs.Decimal.Digits
import Mathlib.Algebra.Order.Field.Rat
import Mathlib.Data.List.DropRight
import Mathlib.Data.List.TakeWhile
import Mathlib.Tactic.FieldSimp
import Mathlib.Tactic.Ring
import Mathlib.Tactic.NormNum

/-!
Magnitudes as rational numbers. Main statements: zeros at the ends do not count, and a magnitude
without any is the only one of its value.

A magnitude is a whole number times a power of ten, and one without zeros at its ends is one that
ten does not divide; two of these are equal only with the same number and the same power.
-/
namespace SqlBinder

/-- A whole number times a power of ten. -/
def scaled (n : Nat) (exponent : Int) : ℚ := n * 10 ^ exponent

theorem scaled_add (n k : Nat) (exponent : Int) :
    scaled n (exponent + k) = scaled (n * 10 ^ k) exponent := by
  rw [scaled, scaled, zpow_add₀ (by norm_num), zpow_natCast]
  push_cast
  ring

theorem scaled_left_inj {m n : Nat} {exponent : Int} :
    scaled m exponent = scaled n exponent ↔ m = n := by
  have power : (10 : ℚ) ^ exponent ≠ 0 := zpow_ne_zero _ (by norm_num)
  rw [scaled, scaled, mul_left_inj' power, Nat.cast_inj]

@[simp] theorem scaled_zero (exponent : Int) : scaled 0 exponent = 0 := by simp [scaled]

theorem scaled_eq_zero {n : Nat} {exponent : Int} : scaled n exponent = 0 ↔ n = 0 := by
  rw [← scaled_zero exponent, scaled_left_inj]

theorem scaled_nonneg (n : Nat) (exponent : Int) : 0 ≤ scaled n exponent :=
  mul_nonneg n.cast_nonneg (zpow_nonneg (by norm_num) _)

theorem ten_dvd_of_scaled_eq {m n : Nat} {i j : Int} (finer : i < j)
    (same : scaled m i = scaled n j) : 10 ∣ m := by
  obtain ⟨k, rfl⟩ : ∃ k : Nat, j = i + (k + 1 : Nat) := ⟨(j - i - 1).toNat, by omega⟩
  rw [scaled_add, scaled_left_inj] at same
  exact same ▸ Dvd.dvd.mul_left (dvd_pow_self 10 k.succ_ne_zero) n

/-- Two numbers that ten does not divide are scaled to one value only as the same number by the
same power. -/
theorem scaled_inj {m n : Nat} {i j : Int} (odd : ¬10 ∣ m) (odd' : ¬10 ∣ n)
    (same : scaled m i = scaled n j) : m = n ∧ i = j := by
  obtain finer | rfl | coarser := lt_trichotomy i j
  · exact absurd (ten_dvd_of_scaled_eq finer same) odd
  · exact ⟨scaled_left_inj.1 same, rfl⟩
  · exact absurd (ten_dvd_of_scaled_eq coarser same.symm) odd'

namespace Decimal

variable {c d : Decimal}

/-- The number a magnitude stands for. -/
def value (d : Decimal) : ℚ := scaled (ofDigits d.digits) (d.point - d.digits.length)

/-- Digits on both sides of a point, and how far the point is moved. -/
theorem value_mk (whole decimals : List Nat) (exponent : Int) :
    value ⟨whole ++ decimals, whole.length + exponent⟩ =
      (ofDigits whole + ofDigits decimals / 10 ^ decimals.length) * 10 ^ exponent := by
  have place : (whole.length + exponent - (whole ++ decimals).length : Int) =
      exponent - decimals.length := by
    rw [List.length_append]
    omega
  rw [value, place, scaled, ofDigits_append, zpow_sub₀ (by norm_num), zpow_natCast]
  push_cast
  field_simp

/-- The magnitude with `i` zeros in front and `j` behind. -/
def padded (d : Decimal) (i j : Nat) : Decimal :=
  ⟨List.replicate i 0 ++ d.digits ++ List.replicate j 0, d.point + i⟩

/-- Zeros at the ends do not count. -/
@[simp] theorem value_padded (d : Decimal) (i j : Nat) : (d.padded i j).value = d.value := by
  have digits : ofDigits (d.padded i j).digits = ofDigits d.digits * 10 ^ j := by
    rw [padded, ofDigits_append, ofDigits_zeros, ofDigits_zeros_append, List.length_replicate,
      Nat.add_zero]
  have point : d.point - d.digits.length =
      (d.padded i j).point - (d.padded i j).digits.length + j := by
    simp only [padded, List.length_append, List.length_replicate]
    omega
  rw [value, value, digits, point, scaled_add]

theorem takeWhile_zeros (ds : List Nat) :
    ∃ i, ds = List.replicate i 0 ++ ds.dropWhile (· == 0) ∧
      i = ds.length - (ds.dropWhile (· == 0)).length := by
  have split := (List.takeWhile_append_dropWhile (p := (· == 0)) (l := ds)).symm
  have zeros : ds.takeWhile (· == 0) = List.replicate (ds.takeWhile (· == 0)).length 0 :=
    List.eq_replicate_of_mem fun d member => by simpa using List.mem_takeWhile_imp member
  refine ⟨_, zeros ▸ split, ?_⟩
  have := congrArg List.length split
  rw [List.length_append] at this
  omega

theorem rtakeWhile_zeros (ds : List Nat) :
    ∃ j, ds = dropTrailingZeros ds ++ List.replicate j 0 := by
  have zeros : ds.rtakeWhile (· == 0) = List.replicate (ds.rtakeWhile (· == 0)).length 0 :=
    List.eq_replicate_of_mem fun d member => by simpa using List.mem_rtakeWhile_imp member
  exact ⟨_, zeros ▸ List.rdropWhile_append_rtakeWhile.symm⟩

/-- A magnitude is its normal form with zeros at the ends. -/
theorem exists_padded (d : Decimal) : ∃ i j, d = d.normalize.padded i j := by
  obtain ⟨i, front, count⟩ := takeWhile_zeros d.digits
  obtain ⟨j, back⟩ := rtakeWhile_zeros (d.digits.dropWhile (· == 0))
  refine ⟨i, j, ?_⟩
  obtain ⟨digits, point⟩ := d
  simp only [padded, normalize, mk.injEq] at front back count ⊢
  refine ⟨?_, by omega⟩
  rw [List.append_assoc, ← back, ← front]

theorem normalize_bounds (d : Decimal) : d.normalize.digits.length ≤ d.digits.length ∧
    d.point - d.digits.length ≤ d.normalize.point ∧ d.normalize.point ≤ d.point := by
  obtain ⟨i, j, padding⟩ := d.exists_padded
  have length := congrArg (·.digits.length) padding
  have point := congrArg (·.point) padding
  simp only [padded, List.length_append, List.length_replicate] at length point
  omega

@[simp] theorem value_normalize (d : Decimal) : d.normalize.value = d.value := by
  obtain ⟨i, j, padding⟩ := d.exists_padded
  conv_rhs => rw [padding, value_padded]

/-- Digits that neither begin nor end with zero. -/
structure Normal (d : Decimal) : Prop where
  allDigits : AllDigits d.digits
  leading : d.digits.head? ≠ some 0
  trailing : d.digits.getLast? ≠ some 0

theorem normal_normalize (digits : AllDigits d.digits) : d.normalize.Normal := by
  obtain ⟨i, j, padding⟩ := d.exists_padded
  have first := List.head?_dropWhile_not (· == 0) d.digits
  refine ⟨?_, fun zero => ?_, fun zero => ?_⟩
  · rw [padding] at digits
    simp only [padded, allDigits_append] at digits
    exact digits.1.2
  · -- What is left of the digits behind the zeros in front begins as they do.
    obtain ⟨behind, split⟩ := List.rdropWhile_prefix (· == 0) (l := d.digits.dropWhile (· == 0))
    have head : (d.digits.dropWhile (· == 0)).head? = some 0 := by
      rw [← split, List.head?_append]
      exact Option.or_eq_some_iff.2 (.inl zero)
    simp [head] at first
  · obtain ⟨nonempty, last⟩ := List.mem_getLast?_eq_getLast zero
    exact List.rdropWhile_last_not (· == 0) _ nonempty (beq_iff_eq.2 last.symm)

theorem Normal.ofDigits_eq_zero (h : d.Normal) : ofDigits d.digits = 0 ↔ d.digits = [] := by
  constructor
  · intro zero
    by_contra nonempty
    exact not_ten_dvd_ofDigits h.allDigits nonempty h.trailing (zero ▸ dvd_zero 10)
  · intro empty
    rw [empty, ofDigits_nil]

theorem Normal.value_eq_zero (h : d.Normal) : d.value = 0 ↔ d.digits = [] := by
  rw [← h.ofDigits_eq_zero, value, scaled_eq_zero]

/-- Normal magnitudes of one value are the same, zero apart. -/
theorem Normal.eq_of_value_eq (hc : c.Normal) (hd : d.Normal) (nonempty : c.digits ≠ [])
    (same : c.value = d.value) : c = d := by
  have nonempty' : d.digits ≠ [] := fun empty =>
    nonempty (hc.value_eq_zero.1 (same.trans (hd.value_eq_zero.2 empty)))
  obtain ⟨number, exponent⟩ := scaled_inj
    (not_ten_dvd_ofDigits hc.allDigits nonempty hc.trailing)
    (not_ten_dvd_ofDigits hd.allDigits nonempty' hd.trailing) same
  have digits := ofDigits_inj_of_leading hc.allDigits hd.allDigits hc.leading hd.leading number
  obtain ⟨cs, p⟩ := c
  obtain ⟨ds, q⟩ := d
  cases digits
  simpa using exponent

theorem Normal.allDigits_padded (h : d.Normal) (i j : Nat) : AllDigits (d.padded i j).digits := by
  simp only [padded, allDigits_append]
  exact ⟨⟨allDigits_replicate i (by decide), h.allDigits⟩, allDigits_replicate j (by decide)⟩

/-- Normalizing takes the padding away again. -/
theorem Normal.normalize_padded (h : d.Normal) (nonempty : d.digits ≠ []) (i j : Nat) :
    (d.padded i j).normalize = d := by
  refine (h.eq_of_value_eq (normal_normalize (h.allDigits_padded i j)) nonempty ?_).symm
  rw [value_normalize, value_padded]

end Decimal

end SqlBinder

import SqlBinder.Proofs.Decimal.Magnitude
import SqlBinder.Proofs.Decimal.Numeral
import Mathlib.Data.Rat.Floor
import Mathlib.Tactic.FieldSimp

/-!
Canonical plain decimals: no exponent, no zeros that could be left out, a minus sign only in front
of a number below zero. Main statements: a number has at most one, and the positional text of a
magnitude is the one of its value.

Such a decimal is known part by part: the digits in front of the point from the whole part of the
number, and those behind it from what is left, as none of them can be left out. That a magnitude is
written so has three cases, by where its point lies: in front of the digits, behind or among them.
-/
namespace SqlBinder.Decimal

/-- No digit can be left out: zero alone stands in front of the point if the number is below
one, and the digits behind it end with another one than zero. -/
structure Unpadded (whole : List Nat) (fraction : Option (List Nat)) : Prop where
  nonempty : whole ≠ []
  leading : whole.head? = some 0 → whole = [0]
  trailing : ∀ ds ∈ fraction, ds ≠ [] ∧ ds.getLast? ≠ some 0

namespace Unpadded

variable {whole ds : List Nat} {fraction fraction' : Option (List Nat)}

/-- The digits in front of the point are known from their number. -/
theorem whole_eq (h : Unpadded whole fraction) (digits : AllDigits whole) :
    whole = if ofDigits whole = 0 then [0] else (Nat.digits 10 (ofDigits whole)).reverse := by
  by_cases zero : whole.head? = some 0
  case pos => rw [h.leading zero]; rfl
  case neg =>
    have written := digits_ofDigits digits zero
    rw [written, List.reverse_reverse, if_neg]
    intro nothing
    rw [nothing, Nat.digits_zero] at written
    exact h.nonempty (List.reverse_eq_nil_iff.1 written.symm)

theorem not_ten_dvd (h : Unpadded whole fraction) (written : ds ∈ fraction)
    (digits : AllDigits ds) : ¬10 ∣ ofDigits ds :=
  not_ten_dvd_ofDigits digits (h.trailing ds written).1 (h.trailing ds written).2

/-- The digits behind the point are known from the number behind it. -/
theorem fraction_eq {whole' : List Nat} (h : Unpadded whole fraction)
    (h' : Unpadded whole' fraction') (digits : AllDigits (fraction.getD []))
    (digits' : AllDigits (fraction'.getD []))
    (same : scaled (ofDigits (fraction.getD [])) (-(fraction.getD []).length) =
      scaled (ofDigits (fraction'.getD [])) (-(fraction'.getD []).length)) :
    fraction = fraction' := by
  cases fraction with
  | none =>
    cases fraction' with
    | none => rfl
    | some es =>
      have zero : ofDigits es = 0 := by simpa [scaled_eq_zero] using same.symm
      exact absurd (zero ▸ dvd_zero 10) (h'.not_ten_dvd rfl digits')
  | some ds =>
    cases fraction' with
    | none =>
      have zero : ofDigits ds = 0 := by simpa [scaled_eq_zero] using same
      exact absurd (zero ▸ dvd_zero 10) (h.not_ten_dvd rfl digits)
    | some es =>
      obtain ⟨number, place⟩ :=
        scaled_inj (h.not_ten_dvd rfl digits) (h'.not_ten_dvd rfl digits') same
      have length : ds.length = es.length := by simpa using place
      exact congrArg some (ofDigits_inj digits digits' length number)

end Unpadded

namespace Numeral

variable {m n : Numeral}

/-- The number behind the point. -/
def part (n : Numeral) : ℚ := scaled (ofDigits n.decimals) (-n.decimals.length)

theorem part_nonneg (n : Numeral) : 0 ≤ n.part := scaled_nonneg _ _

theorem part_lt_one (n : Numeral) : n.part < 1 := by
  have bound : (ofDigits n.decimals : ℚ) < 10 ^ n.decimals.length := by
    exact_mod_cast ofDigits_lt n.fractionDigits
  rw [part, scaled, zpow_neg, zpow_natCast, ← div_eq_mul_inv]
  exact (div_lt_one (by positivity)).2 bound

theorem size_eq (n : Numeral) : n.size = (ofDigits n.whole + n.part) * 10 ^ n.scale := by
  rw [size, part, scaled, zpow_neg, zpow_natCast, div_eq_mul_inv]

theorem size_nonneg (n : Numeral) : 0 ≤ n.size := by
  rw [size_eq]
  have := n.part_nonneg
  exact mul_nonneg (by positivity) (zpow_nonneg (by norm_num) _)

/-- The digits with the place of the point. -/
def magnitude (n : Numeral) : Decimal :=
  normalize ⟨n.whole ++ n.decimals, n.whole.length + n.scale⟩

theorem magnitude_normal (n : Numeral) : n.magnitude.Normal :=
  normal_normalize (allDigits_append.2 ⟨n.wholeDigits, n.fractionDigits⟩)

theorem value_magnitude (n : Numeral) : n.magnitude.value = n.size := by
  rw [magnitude, value_normalize, value_mk, size]

theorem value_eq_zero : n.value = 0 ↔ n.size = 0 := by
  unfold value
  split <;> simp

theorem magnitude_digits_eq_nil : n.magnitude.digits = [] ↔ n.value = 0 := by
  rw [value_eq_zero, ← n.value_magnitude, n.magnitude_normal.value_eq_zero]

/-- The sign says whether the number is below zero. -/
theorem value_neg_iff : n.value < 0 ↔ n.sign.negative ∧ n.size ≠ 0 := by
  have := n.size_nonneg
  unfold value
  split
  case isTrue negative =>
    rw [neg_lt_zero, lt_iff_le_and_ne]
    exact ⟨fun h => ⟨negative, h.2.symm⟩, fun h => ⟨this, h.2.symm⟩⟩
  case isFalse positive =>
    exact ⟨fun h => absurd this (not_le.2 h), fun h => absurd h.1 positive⟩

theorem negative_iff (n : Numeral) (nonzero : n.value ≠ 0) : n.sign.negative ↔ n.value < 0 := by
  rw [value_neg_iff, and_iff_left (value_eq_zero.not.1 nonzero)]

theorem size_eq_of_value_eq (sign : m.sign.negative = n.sign.negative)
    (same : m.value = n.value) : m.size = n.size := by
  unfold value at same
  rw [sign] at same
  split at same
  · exact neg_inj.1 same
  · exact same

/-- A canonical plain decimal. -/
structure Canonical (n : Numeral) : Prop where
  noExponent : n.exponent = none
  sign : n.sign = if n.value < 0 then .minus else .absent
  unpadded : Unpadded n.whole n.fraction

theorem Canonical.size_eq (h : n.Canonical) : n.size = ofDigits n.whole + n.part := by
  rw [Numeral.size_eq, scale, h.noExponent, Option.elim_none, zpow_zero, mul_one]

theorem Canonical.floor_size (h : n.Canonical) : ⌊n.size⌋₊ = ofDigits n.whole := by
  rw [Nat.floor_eq_iff n.size_nonneg, h.size_eq]
  exact ⟨le_add_of_nonneg_right n.part_nonneg, add_lt_add_right n.part_lt_one _⟩

/-- A number has at most one canonical plain decimal. -/
theorem Canonical.eq_of_value_eq (hm : m.Canonical) (hn : n.Canonical)
    (same : m.value = n.value) : m = n := by
  have sign : m.sign = n.sign := by rw [hm.sign, hn.sign, same]
  have size : m.size = n.size := size_eq_of_value_eq (congrArg Sign.negative sign) same
  have number : ofDigits m.whole = ofDigits n.whole := by
    rw [← hm.floor_size, size, hn.floor_size]
  have whole : m.whole = n.whole := by
    rw [hm.unpadded.whole_eq m.wholeDigits, number, ← hn.unpadded.whole_eq n.wholeDigits]
  have part : m.part = n.part := by
    rw [hm.size_eq, hn.size_eq, number] at size
    exact add_left_cancel size
  have fraction : m.fraction = n.fraction :=
    hm.unpadded.fraction_eq hn.unpadded m.fractionDigits n.fractionDigits part
  have exponent : m.exponent = n.exponent := hm.noExponent.trans hn.noExponent.symm
  cases m
  cases n
  simp_all

end Numeral

/-! The text of a magnitude. -/

variable {d : Decimal}

theorem digitChars_zeros (n : Nat) :
    digitChars (List.replicate n 0) = List.replicate n '0' := List.map_replicate

/-- The text of the magnitude is these digits around the point: the digits of the magnitude with
the zeros its point asks for, and none that can be left out. -/
structure Shows (d : Decimal) (whole : List Nat) (fraction : Option (List Nat)) : Prop where
  unpadded : Unpadded whole fraction
  padded : ∃ i j, d.padded i j = ⟨whole ++ fraction.getD [], whole.length⟩
  text : d.plainChars = digitChars whole ++ fraction.elim [] fun ds => '.' :: digitChars ds

theorem Normal.shows_below_one (h : d.Normal) (nonempty : d.digits ≠ []) (below : d.point ≤ 0) :
    Shows d [0] (some (List.replicate (-d.point).toNat 0 ++ d.digits)) where
  unpadded := by
    refine ⟨by simp, fun _ => rfl, ?_⟩
    rintro ds ⟨⟩
    rw [List.getLast?_append_of_ne_nil _ nonempty]
    exact ⟨by simp [nonempty], h.trailing⟩
  padded := by
    refine ⟨(-d.point).toNat + 1, 0, ?_⟩
    simp only [Decimal.padded, Option.getD_some, List.replicate_succ, List.replicate_zero,
      List.append_nil, List.cons_append, List.nil_append, mk.injEq, List.length_singleton,
      true_and]
    omega
  text := by simp [plainChars, below, digitChars_zeros]

theorem Normal.shows_whole (h : d.Normal) (nonempty : d.digits ≠ []) (above : ¬d.point ≤ 0)
    (fits : d.digits.length ≤ d.point.toNat) :
    Shows d (d.digits ++ List.replicate (d.point.toNat - d.digits.length) 0) none where
  unpadded := by
    refine ⟨by simp [nonempty], ?_, by simp⟩
    rw [List.head?_append_of_ne_nil _ nonempty]
    exact fun zero => absurd zero h.leading
  padded := by
    refine ⟨0, d.point.toNat - d.digits.length, ?_⟩
    simp only [Decimal.padded, Option.getD_none, List.replicate_zero, List.append_nil,
      List.nil_append, mk.injEq, List.length_append, List.length_replicate, true_and]
    omega
  text := by simp [plainChars, above, fits, digitChars_zeros]

theorem Normal.shows_split (h : d.Normal) (nonempty : d.digits ≠ []) (above : ¬d.point ≤ 0)
    (within : ¬d.digits.length ≤ d.point.toNat) :
    Shows d (d.digits.take d.point.toNat) (some (d.digits.drop d.point.toNat)) := by
  have front : d.point.toNat ≠ 0 := by omega
  refine ⟨⟨?_, ?_, ?_⟩, ⟨0, 0, ?_⟩, ?_⟩
  · simp [List.take_eq_nil_iff, nonempty, front]
  · rw [List.head?_take, if_neg front]
    exact fun zero => absurd zero h.leading
  · rintro ds ⟨⟩
    rw [List.getLast?_drop, if_neg within, ne_eq, List.drop_eq_nil_iff]
    exact ⟨within, h.trailing⟩
  · simp only [Decimal.padded, Option.getD_some, List.replicate_zero, List.append_nil,
      List.nil_append, mk.injEq, List.take_append_drop, List.length_take, true_and]
    omega
  · simp [plainChars, above, within]

theorem Normal.exists_shows (h : d.Normal) (nonempty : d.digits ≠ []) :
    ∃ whole fraction, Shows d whole fraction := by
  by_cases below : d.point ≤ 0
  · exact ⟨_, _, h.shows_below_one nonempty below⟩
  · by_cases fits : d.digits.length ≤ d.point.toNat
    · exact ⟨_, _, h.shows_whole nonempty below fits⟩
    · exact ⟨_, _, h.shows_split nonempty below fits⟩

/-- The text of a magnitude with a sign is the canonical plain decimal of its value. -/
theorem Normal.exists_canonical (h : d.Normal) (nonempty : d.digits ≠ []) (negative : Bool) :
    ∃ n : Numeral, n.Canonical ∧ n.sign.negative = negative ∧ n.size = d.value ∧
      n.chars = withSign negative d.plainChars := by
  obtain ⟨whole, fraction, unpadded, ⟨i, j, parts⟩, text⟩ := h.exists_shows nonempty
  have digits := h.allDigits_padded i j
  rw [parts, allDigits_append] at digits
  let n : Numeral := ⟨if negative then .minus else .absent, whole, fraction, none, digits.1,
    digits.2, .inl unpadded.nonempty⟩
  have sign : n.sign.negative = negative := by cases negative <;> rfl
  have size : n.size = d.value := by
    rw [← d.value_padded i j, parts, ← Int.add_zero (whole.length : Int), value_mk]
    rfl
  have nonzero : n.size ≠ 0 := size ▸ fun zero => nonempty (h.value_eq_zero.1 zero)
  refine ⟨n, ⟨rfl, ?_, unpadded⟩, sign, size, ?_⟩
  · simp only [Numeral.value_neg_iff, sign, nonzero, ne_eq, not_false_iff, and_true]
    rfl
  · rw [text]
    cases negative <;>
      simp [n, Numeral.chars, Numeral.fractionChars, Numeral.exponentChars, withSign, Sign.chars]

/-- The numeral `0`. -/
def Numeral.zero : Numeral := ⟨.absent, [0], none, none, by simp, .nil, .inl (by simp)⟩

theorem Numeral.value_zero : zero.value = 0 := by
  simp [value, size, zero, Sign.negative, decimals]

theorem Numeral.canonical_zero : zero.Canonical :=
  ⟨rfl, by rw [value_zero]; rfl, ⟨by simp [zero], fun _ => rfl, by simp [zero]⟩⟩

/-- The text is a canonical plain decimal of value `q`. -/
def PlainText (q : ℚ) (text : String) : Prop :=
  ∃ n : Numeral, n.Canonical ∧ n.value = q ∧ n.chars = text.toList

theorem plainText_zero : PlainText 0 "0" :=
  ⟨.zero, Numeral.canonical_zero, Numeral.value_zero, rfl⟩

theorem Normal.plainText (h : d.Normal) (nonempty : d.digits ≠ []) (negative : Bool) :
    PlainText (if negative then -d.value else d.value)
      (String.ofList (withSign negative d.plainChars)) := by
  obtain ⟨n, canonical, sign, size, chars⟩ := h.exists_canonical nonempty negative
  refine ⟨n, canonical, ?_, ?_⟩
  · rw [Numeral.value, sign, size]
  · rw [chars, String.toList_ofList]

theorem PlainText.unique {q : ℚ} {s t : String} (hs : PlainText q s) (ht : PlainText q t) :
    s = t := by
  obtain ⟨m, canonical, value, text⟩ := hs
  obtain ⟨n, canonical', value', text'⟩ := ht
  have same := canonical.eq_of_value_eq canonical' (value.trans value'.symm)
  exact String.toList_injective (text.symm.trans (same ▸ text'))

theorem PlainText.value_unique {q r : ℚ} {s : String} (hq : PlainText q s)
    (hr : PlainText r s) : q = r := by
  obtain ⟨m, -, rfl, text⟩ := hq
  obtain ⟨n, -, rfl, text'⟩ := hr
  exact Numeral.value_eq_of_chars_eq (text.trans text'.symm)

end SqlBinder.Decimal

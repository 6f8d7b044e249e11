import SqlBinder.Proofs.Decimal.Magnitude
import SqlBinder.Proofs.Fallible
import SqlBinder.Wire.Numeric

/-!
The wire form of a magnitude. Main statement: decoding gives the positional text of the
magnitude that was encoded, whatever its sign and the parity of its point.

The text is spelled with places that are counted with 32 bits. Two lemmas say all that is needed of
that: digits that are not too many are spelled as their magnitude, and any digits that are spelled
at all give the text of some magnitude with these digits, if not with their point.
-/
namespace SqlBinder.Wire.Numeric

open SqlBinder.Decimal

variable {negative : Bool} {ds ps : List Nat}

theorem pairs_lt (digits : AllDigits ds) : ∀ p ∈ pairs ds, p < 100 := by
  fun_induction pairs ds with
  | case1 a b rest ih =>
    simp only [allDigits_cons] at digits
    simp only [List.mem_cons, forall_eq_or_imp]
    exact ⟨by omega, ih digits.2.2⟩
  | case2 a =>
    simp only [allDigits_cons] at digits
    simp only [List.mem_singleton, forall_eq]
    omega
  | case3 => simp

/-- Pairing and taking apart again leaves at most a zero behind. -/
theorem exists_unpair_pairs (digits : AllDigits ds) :
    ∃ j, unpair (pairs ds) = ds ++ List.replicate j 0 := by
  fun_induction pairs ds with
  | case1 a b rest ih =>
    simp only [allDigits_cons] at digits
    obtain ⟨j, behind⟩ := ih digits.2.2
    refine ⟨j, ?_⟩
    have first : (10 * a + b) / 10 = a := by omega
    have second : (10 * a + b) % 10 = b := by omega
    rw [unpair, List.flatMap_cons, ← unpair, behind, first, second]
    rfl
  | case2 a => exact ⟨1, by simp [unpair]⟩
  | case3 => exact ⟨0, rfl⟩

theorem pairs_eq_nil : pairs ds = [] ↔ ds = [] := by
  fun_cases pairs ds <;> simp

theorem length_pairs : (pairs ds).length = (ds.length + 1) / 2 := by
  fun_induction pairs ds with
  | case1 a b rest ih =>
    simp only [List.length_cons, ih]
    omega
  | case2 a => simp
  | case3 => simp

theorem length_unpair (ps : List Nat) : (unpair ps).length = 2 * ps.length := by
  simp [unpair, Nat.mul_comm]

/-! Pairs as bytes. -/

theorem pair?_pairByte :
    ∀ negative, ∀ p < 100, pair? (!negative) (pairByte negative p) = some p := by
  decide

theorem readPairs_pairBytes (pairs : ∀ p ∈ ps, p < 100) :
    readPairs (!negative) (ps.map (pairByte negative)) = .ok ps := by
  induction ps with
  | nil => rfl
  | cons p ps ih =>
    simp only [List.mem_cons, forall_eq_or_imp] at pairs
    rw [List.map_cons, readPairs, pair?_pairByte negative p pairs.1, ih pairs.2]
    rfl

/-- No pair of a negative number looks like the closing byte. -/
theorem pairByte_ne_closing : ∀ p < 100, pairByte true p ≠ 102 := by
  decide

theorem mantissa_pairBytes (pairs : ∀ p ∈ ps, p < 100) :
    mantissa (!negative) (ps.map (pairByte negative) ++
      if negative ∧ ps.length < 20 then [102] else []) = ps.map (pairByte negative) := by
  cases negative with
  | false => simp [mantissa]
  | true =>
    by_cases short : ps.length < 20
    · simp [mantissa, short]
    · have last : ((ps.map (pairByte true)).getLast? == some 102) = false := by
        refine beq_eq_false_iff_ne.2 fun closing => ?_
        obtain ⟨p, member, byte⟩ := List.mem_map.1 (List.mem_of_getLast? closing)
        exact pairByte_ne_closing p (pairs p member) byte
      rw [if_neg fun h => short h.2, List.append_nil, mantissa, last]
      rfl

/-- What is on the wire for a number other than zero: the digits with a zero in front if the
pairs would not meet at the point otherwise. -/
theorem ofDecimal?_eq_some {d : Decimal} {bytes : List UInt8} (nonempty : d.digits ≠ [])
    (wire : ofDecimal? negative d = some bytes) :
    ∃ i ≤ 1, ∃ exponent : Nat, 128 ≤ exponent ∧ exponent ≤ 255 ∧
      d.digits.length ≤ maxDigits ∧ d.point + (i : Nat) = 2 * (exponent - 192) ∧
      bytes = UInt8.ofNat (if negative then 255 - exponent else exponent) ::
        ((pairs (List.replicate i 0 ++ d.digits)).map (pairByte negative) ++
          if negative ∧ (pairs (List.replicate i 0 ++ d.digits)).length < 20 then [102]
          else []) := by
  rw [ofDecimal?, if_neg nonempty] at wire
  split at wire
  case isTrue => cases wire
  case isFalse inRange =>
    simp only [not_or, not_lt] at inRange
    cases wire
    obtain ⟨length, low, high⟩ := inRange
    by_cases odd : d.point % 2 = 1
    · refine ⟨1, le_rfl, ((d.point + 1) / 2 + 192).toNat, by omega, by omega, length, by omega, ?_⟩
      simp only [odd, if_true]
      rfl
    · refine ⟨0, by decide, (d.point / 2 + 192).toNat, by omega, by omega, length, by omega, ?_⟩
      simp only [odd, if_false]
      rfl

/-- The first byte carries the exponent and, in its high bit, the sign. -/
theorem head_byte {exponent : Nat} (low : 128 ≤ exponent) (high : exponent ≤ 255) :
    decide (128 ≤ (UInt8.ofNat (if negative then 255 - exponent else exponent)).toNat) =
        !negative ∧
      (if !negative then (UInt8.ofNat (if negative then 255 - exponent else exponent)).toNat
        else 255 - (UInt8.ofNat (if negative then 255 - exponent else exponent)).toNat) =
        exponent := by
  cases negative with
  | false =>
    have byte : (UInt8.ofNat exponent).toNat = exponent := by
      rw [UInt8.toNat_ofNat']
      omega
    simp [byte, low]
  | true =>
    have byte : (UInt8.ofNat (255 - exponent)).toNat = 255 - exponent := by
      rw [UInt8.toNat_ofNat']
      omega
    simp only [if_true, byte, Bool.not_true, decide_eq_false_iff_not, Bool.false_eq_true,
      if_false]
    omega

/-! Digits as text. -/

theorem counted_eq {n : Nat} (fits : n < 2 ^ 31) : counted n = n := Int32.toInt_ofNat_of_lt fits

theorem counted_le (n : Nat) : counted n ≤ n := by
  by_cases fits : n < 2 ^ 31
  · rw [counted_eq fits]
  · have below : counted n < 2 ^ 31 := (Int32.ofNat n).toInt_lt
    omega

theorem within32_eq {n : Int} (low : -2 ^ 31 ≤ n) (high : n < 2 ^ 31) : within32 n = .ok n :=
  if_pos ⟨low, by omega⟩

theorem countedChars_eq {d : Decimal} (length : d.digits.length < 2 ^ 31)
    (high : d.point < 2 ^ 31) :
    countedChars d.digits d.point = .ok d.plainChars := by
  rw [countedChars, plainChars, counted_eq length]
  by_cases below : d.point ≤ 0
  · rw [if_pos below, if_pos below]
    rfl
  rw [if_neg below, if_neg below]
  by_cases whole : (d.digits.length : Int) ≤ d.point
  · have zeros : (d.point - d.digits.length).toNat = d.point.toNat - d.digits.length := by omega
    rw [if_pos whole, if_pos (by omega), within32_eq (by omega) (by omega), ← zeros]
    rfl
  · rw [if_neg whole, if_neg (by omega)]
    rfl

/-- However long they are, digits show with a point at some place. -/
theorem exists_countedChars {point : Int} {cs : List Char} (nonempty : ds ≠ [])
    (counted : countedChars ds point = .ok cs) :
    ∃ place, cs = (⟨ds, place⟩ : Decimal).plainChars := by
  have length : 0 < ds.length := List.length_pos_iff.2 nonempty
  rw [countedChars] at counted
  split at counted
  case isTrue below =>
    exact ⟨point, by rw [← Except.ok.inj counted, plainChars, if_pos below]⟩
  case isFalse above =>
    split at counted
    case isTrue =>
      obtain ⟨zeros, -, shown⟩ := Except.bind_ok.1 counted
      refine ⟨(ds.length + zeros.toNat : Nat), ?_⟩
      rw [← Except.ok.inj shown, plainChars, if_neg (by simp only; omega),
        if_pos (by simp only; omega), Int.toNat_natCast, Nat.add_sub_cancel_left]
    case isFalse split =>
      have inside := counted_le ds.length
      refine ⟨point, ?_⟩
      rw [← Except.ok.inj counted, plainChars, if_neg above, if_neg (by simp only; omega)]

/-- Digits are spelled as their magnitude if 32 bits count them and the zeros around them. -/
theorem spell_eq {d : Decimal} (few : d.digits.length ≤ 2 ^ 31 - 400) (low : -400 ≤ d.point)
    (high : d.point ≤ 400) :
    spell negative d.digits d.point = .ok (if d.normalize.digits = [] then "0" else
      String.ofList (withSign negative d.normalize.plainChars)) := by
  obtain ⟨length, least, most⟩ := normalize_bounds d
  have leading : counted (d.digits.length - (d.digits.dropWhile (· == 0)).length) =
      (d.digits.length - (d.digits.dropWhile (· == 0)).length : Nat) := counted_eq (by omega)
  have point : within32 (d.point - counted (d.digits.length -
      (d.digits.dropWhile (· == 0)).length)) = .ok d.normalize.point := by
    rw [leading]
    exact within32_eq (n := d.normalize.point) (by omega) (by omega)
  have chars : countedChars d.normalize.digits d.normalize.point = .ok d.normalize.plainChars :=
    countedChars_eq (by omega) (by omega)
  have spelled : spell negative d.digits d.point =
      if d.normalize.digits.isEmpty then .ok "0" else do
        let point ← within32 (d.point - counted (d.digits.length -
          (d.digits.dropWhile (· == 0)).length))
        return String.ofList (withSign negative (← countedChars d.normalize.digits point)) := rfl
  rw [spelled, point]
  simp only [List.isEmpty_iff]
  split
  · rfl
  · show (countedChars d.normalize.digits d.normalize.point >>= _) = _
    rw [chars]
    rfl

/-- What is spelled of digits is the text of a magnitude, however many they are. -/
theorem exists_normal_of_spell {place : Int} {text : String} (digits : AllDigits ds)
    (spelled : spell negative ds place = .ok text) :
    text = "0" ∨ ∃ d : Decimal, d.Normal ∧ d.digits ≠ [] ∧
      text = String.ofList (withSign negative d.plainChars) := by
  have normal : (normalize ⟨ds, place⟩).Normal := normal_normalize digits
  simp only [spell, List.isEmpty_iff] at spelled
  split at spelled
  case isTrue => exact .inl (Except.ok.inj spelled).symm
  case isFalse nonempty =>
    obtain ⟨point, -, chars⟩ := Except.bind_ok.1 spelled
    obtain ⟨cs, counted, shown⟩ := Except.bind_ok.1 chars
    obtain ⟨place, rfl⟩ := exists_countedChars nonempty counted
    exact .inr ⟨⟨_, place⟩, ⟨normal.allDigits, normal.leading, normal.trailing⟩, nonempty,
      (Except.ok.inj shown).symm⟩

/-- Zeros around the digits of a magnitude do not show. -/
theorem spell_padded {d : Decimal} (normal : d.Normal) (nonempty : d.digits ≠ []) {i j : Nat}
    (few : (d.padded i j).digits.length ≤ 2 ^ 31 - 400) (low : -400 ≤ (d.padded i j).point)
    (high : (d.padded i j).point ≤ 400) :
    spell negative (d.padded i j).digits (d.padded i j).point =
      .ok (String.ofList (withSign negative d.plainChars)) := by
  rw [spell_eq few low high, normal.normalize_padded nonempty, if_neg nonempty]

theorem decode_ofDecimal? {d : Decimal} {bytes : List UInt8} (normal : d.Normal)
    (nonempty : d.digits ≠ []) (wire : ofDecimal? negative d = some bytes) :
    decode bytes = .ok (String.ofList (withSign negative d.plainChars)) := by
  obtain ⟨i, one, exponent, low, high, length, place, rfl⟩ := ofDecimal?_eq_some nonempty wire
  have digits : AllDigits (List.replicate i 0 ++ d.digits) :=
    allDigits_append.2 ⟨allDigits_replicate i (by decide), normal.allDigits⟩
  obtain ⟨j, unpaired⟩ := exists_unpair_pairs digits
  have within := pairs_lt digits
  obtain ⟨sign, head⟩ := @head_byte negative exponent low high
  have body : pairs (List.replicate i 0 ++ d.digits) ≠ [] := by simp [pairs_eq_nil, nonempty]
  have few : (d.padded i j).digits.length ≤ 2 ^ 31 - 400 := by
    have most : maxDigits = 40 := rfl
    have same : (d.padded i j).digits = unpair (pairs (List.replicate i 0 ++ d.digits)) :=
      unpaired.symm
    rw [same, length_unpair, length_pairs, List.length_append, List.length_replicate]
    omega
  have point : 2 * ((exponent : Int) - 193 + 1) = (d.padded i j).point := by
    show _ = d.point + i
    omega
  have spelled : spell negative (unpair (pairs (List.replicate i 0 ++ d.digits)))
      (2 * ((exponent : Int) - 193 + 1)) =
        .ok (String.ofList (withSign negative d.plainChars)) := by
    rw [unpaired, point]
    exact spell_padded normal nonempty few (by omega) (by omega)
  simp only [decode, sign, head, mantissa_pairBytes within, readPairs_pairBytes within, bind,
    Except.bind, Fault.ofExcept_ok, Bool.not_not, List.isEmpty_iff, List.append_eq_nil_iff,
    List.map_eq_nil_iff, body, false_and, if_false]
  exact spelled

end SqlBinder.Wire.Numeric

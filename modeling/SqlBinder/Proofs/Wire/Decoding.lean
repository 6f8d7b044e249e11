import SqlBinder.Proofs.Wire.Integers
import SqlBinder.Proofs.Wire.Layout

/-!
Decoding numbers from any bytes. Main statement: bytes are refused exactly if there are none or one
behind the first stands for no pair, and otherwise their text is the canonical plain decimal of what
the pairs add up to, be there zeros at either end, no closing byte, or more pairs than the type has.

That the text is the one of the number needs 32 bits to count its digits. Bytes may be too many for
that, and how many is said in one place, `Countable`. What is refused does not depend on it, and
what is decoded of any bytes is at least the text of some number.
-/
namespace SqlBinder.Wire.Numeric

open SqlBinder.Decimal

/-! What bytes stand for. -/

/-- The high bit of the first byte is the sign. -/
def isNegative (head : UInt8) : Bool := decide (head.toNat < 128)

/-- The power of 100 that the first pair counts. -/
def scaleOf (head : UInt8) : Int :=
  (if isNegative head then 255 - head.toNat else head.toNat : Nat) - 193

/-- The pair that a byte stands for, if it stands for one. -/
def pairOf (negative : Bool) (byte : UInt8) : Nat :=
  if negative then 101 - byte.toNat else byte.toNat - 1

/-- The pairs behind the first byte, where the closing byte of a negative number is none. -/
def pairsOf (negative : Bool) (body : List UInt8) : List Nat :=
  (if negative = true ∧ body.getLast? = some 102 then body.dropLast else body).map (pairOf negative)

/-- One of the bytes stands for no pair and does not close a negative number. -/
def HasStray (negative : Bool) (body : List UInt8) : Prop :=
  ∃ front byte back, body = front ++ byte :: back ∧ ¬IsPairByte negative byte ∧
    ¬(negative = true ∧ byte = 102 ∧ back = [])

/-- Bytes that are no number. -/
def Malformed : List UInt8 → Prop
  | [] => True
  | head :: body => HasStray (isNegative head) body

/-- What pairs add up to, each counting a hundredth of the one before it. -/
def sumOf (scale : Int) (ps : List Nat) : ℚ :=
  (ps.mapIdx fun i (p : Nat) => (p : ℚ) * 100 ^ (scale - i)).sum

/-- The number of a first byte and the pairs behind it. -/
def numberOf (head : UInt8) (body : List UInt8) : ℚ :=
  (if isNegative head then -1 else 1) * sumOf (scaleOf head) (pairsOf (isNegative head) body)

/-- The text of the bytes of a number. A first byte alone is zero or, with the sign, the lower end
of the type. -/
inductive Shown : List UInt8 → String → Prop
  | zero {head : UInt8} (sign : isNegative head = false) : Shown [head] "0"
  | lowest {head : UInt8} (sign : isNegative head = true) : Shown [head] "-1e126"
  | pairs {head : UInt8} {body : List UInt8} {text : String} (more : body ≠ [])
    (plain : PlainText (numberOf head body) text) : Shown (head :: body) text

/-- 32 bits count the digits of the bytes, two each, and the places in front of them. -/
def Countable (bytes : List UInt8) : Prop := bytes.length ≤ 2 ^ 30 - 200

/-- A text that is decoded of bytes, be it that of their number or not. -/
inductive Printed : String → Prop
  | lowest : Printed "-1e126"
  | plain {q : ℚ} {text : String} (shown : PlainText q text) : Printed text

/-- The digits of the pairs with the place of their point. -/
def magnitudeOf (head : UInt8) (body : List UInt8) : Decimal :=
  Decimal.normalize ⟨unpair (pairsOf (isNegative head) body), 2 * (scaleOf head + 1)⟩

/-! Bytes and pairs. -/

section Bytes

variable {negative : Bool} {byte head : UInt8} {body bytes : List UInt8}

/-- The bytes of pairs are a hundred in a row. -/
theorem isPairByte_iff : IsPairByte negative byte ↔
    if negative then 2 ≤ byte.toNat ∧ byte.toNat ≤ 101 else 1 ≤ byte.toNat ∧ byte.toNat ≤ 100 := by
  cases negative <;> simp [IsPairByte, UInt8.le_iff_toNat_le]

theorem pairOf_lt (pair : IsPairByte negative byte) : pairOf negative byte < 100 := by
  rw [isPairByte_iff] at pair
  unfold pairOf
  split at pair <;> simp only [*, if_true, if_false, Bool.false_eq_true] <;> omega

/-- The pair is computed modulo 256, which keeps a byte out of the row above 99. -/
theorem pair?_eq : pair? (!negative) byte =
    if IsPairByte negative byte then some (pairOf negative byte) else none := by
  have below := byte.toNat_lt
  simp only [isPairByte_iff, pairOf]
  cases negative with
  | false =>
    have pair : (byte - 1).toNat = (255 + byte.toNat) % 256 := UInt8.toNat_sub byte 1
    simp only [pair?, Bool.not_false, if_true, pair, Bool.false_eq_true, if_false]
    by_cases inRow : 1 ≤ byte.toNat ∧ byte.toNat ≤ 100
    · rw [if_pos inRow, if_pos (by omega)]
      congr 1
      omega
    · rw [if_neg inRow, if_neg (by omega)]
  | true =>
    have pair : (101 - byte).toNat = (256 - byte.toNat + 101) % 256 := UInt8.toNat_sub 101 byte
    simp only [pair?, Bool.not_true, Bool.false_eq_true, if_false, pair, if_true]
    by_cases inRow : 2 ≤ byte.toNat ∧ byte.toNat ≤ 101
    · rw [if_pos inRow, if_pos (by omega)]
      congr 1
      omega
    · rw [if_neg inRow, if_neg (by omega)]

theorem readPairs_of_pairBytes (pairs : ∀ byte ∈ bytes, IsPairByte negative byte) :
    readPairs (!negative) bytes = .ok (bytes.map (pairOf negative)) := by
  induction bytes with
  | nil => rfl
  | cons byte rest ih =>
    simp only [List.mem_cons, forall_eq_or_imp] at pairs
    rw [readPairs, pair?_eq, if_pos pairs.1, ih pairs.2]
    rfl

theorem readPairs_of_stray (stray : ∃ byte ∈ bytes, ¬IsPairByte negative byte) :
    ∃ m, readPairs (!negative) bytes = .error (.protocol m) := by
  induction bytes with
  | nil => simp at stray
  | cons byte rest ih =>
    by_cases pair : IsPairByte negative byte
    case neg =>
      rw [readPairs, pair?_eq, if_neg pair]
      exact ⟨_, rfl⟩
    case pos =>
      simp only [List.mem_cons, exists_eq_or_imp, pair, not_true, false_or] at stray
      obtain ⟨m, refused⟩ := ih stray
      refine ⟨m, ?_⟩
      rw [readPairs, pair?_eq, if_pos pair, refused]
      rfl

theorem mantissa_eq : mantissa (!negative) body =
    if negative = true ∧ body.getLast? = some 102 then body.dropLast else body := by
  simp [mantissa]

theorem map_mantissa :
    (mantissa (!negative) body).map (pairOf negative) = pairsOf negative body := by
  rw [mantissa_eq, pairsOf]

/-- A stray byte is one of the mantissa. -/
theorem hasStray_iff :
    HasStray negative body ↔ ∃ byte ∈ mantissa (!negative) body, ¬IsPairByte negative byte := by
  rw [mantissa_eq]
  split
  case isTrue closed =>
    obtain ⟨front, rfl⟩ := List.getLast?_eq_some_iff.1 closed.2
    rw [List.dropLast_concat]
    constructor
    · rintro ⟨before, byte, after, split, stray, inside⟩
      obtain rfl | ⟨after, last, rfl⟩ := after.eq_nil_or_concat
      · obtain ⟨-, closing⟩ := List.append_inj' split rfl
        exact absurd ⟨closed.1, (List.cons.inj closing).1.symm, rfl⟩ inside
      · rw [List.concat_eq_append, ← List.cons_append, ← List.append_assoc] at split
        obtain ⟨rfl, -⟩ := List.append_inj' split rfl
        exact ⟨byte, by simp, stray⟩
    · rintro ⟨byte, member, stray⟩
      obtain ⟨before, after, rfl⟩ := List.append_of_mem member
      exact ⟨before, byte, after ++ [102], by simp, stray, by simp⟩
  case isFalse open' =>
    constructor
    · rintro ⟨before, byte, after, rfl, stray, -⟩
      exact ⟨byte, by simp, stray⟩
    · rintro ⟨byte, member, stray⟩
      obtain ⟨before, after, rfl⟩ := List.append_of_mem member
      refine ⟨before, byte, after, rfl, stray, ?_⟩
      rintro ⟨sign, rfl, rfl⟩
      exact open' ⟨sign, by simp⟩

theorem not_hasStray (tidy : ¬HasStray negative body) :
    ∀ byte ∈ mantissa (!negative) body, IsPairByte negative byte := by
  simpa [hasStray_iff] using tidy

theorem pairsOf_lt (tidy : ¬HasStray negative body) : ∀ p ∈ pairsOf negative body, p < 100 := by
  rw [← map_mantissa]
  rintro p member
  obtain ⟨byte, place, rfl⟩ := List.mem_map.1 member
  exact pairOf_lt (not_hasStray tidy byte place)

end Bytes

/-! What pairs add up to. -/

section Sums

variable {ps : List Nat}

theorem allDigits_unpair (within : ∀ p ∈ ps, p < 100) : AllDigits (unpair ps) := by
  intro d member
  simp only [unpair, List.mem_flatMap, List.mem_cons, List.not_mem_nil, or_false] at member
  obtain ⟨p, place, rfl | rfl⟩ := member
  · have := within p place
    omega
  · omega

theorem sumOf_cons (scale : Int) (p : Nat) (ps : List Nat) :
    sumOf scale (p :: ps) = p * 100 ^ scale + sumOf (scale - 1) ps := by
  have place : ∀ i : Nat, scale - ((i + 1 : Nat) : Int) = scale - 1 - i := by
    intro i
    push_cast
    ring
  simp only [sumOf, List.mapIdx_cons, List.sum_cons, place, Nat.cast_zero, sub_zero]

/-- The digits of pairs, with the point in its place, stand for their sum. -/
theorem value_unpair (scale : Int) (ps : List Nat) :
    (⟨unpair ps, 2 * (scale + 1)⟩ : Decimal).value = sumOf scale ps := by
  induction ps generalizing scale with
  | nil => simp [Decimal.value, unpair, sumOf]
  | cons p ps ih =>
    have digits :
        ofDigits (unpair (p :: ps)) = p * 10 ^ (2 * ps.length) + ofDigits (unpair ps) := by
      have front : unpair (p :: ps) = [p / 10, p % 10] ++ unpair ps := rfl
      have pair : ofDigits [p / 10, p % 10] = p := by
        simp only [ofDigits, List.foldl_cons, List.foldl_nil]
        omega
      rw [front, ofDigits_append, pair, length_unpair]
    have place : 2 * (scale + 1) - (2 * (ps.length + 1) : Nat) =
        2 * (scale - 1 + 1) - (2 * ps.length : Nat) := by
      push_cast
      ring
    have first : scaled (p * 10 ^ (2 * ps.length)) (2 * (scale - 1 + 1) - (2 * ps.length : Nat)) =
        p * 100 ^ scale := by
      rw [← scaled_add, ← scaled_two_mul]
      congr 1
      ring
    rw [sumOf_cons, ← ih, ← first, Decimal.value, Decimal.value, digits, length_unpair,
      length_unpair, List.length_cons, place]
    simp only [scaled]
    push_cast
    ring

end Sums

/-! Decoding. -/

section Decode

variable {head : UInt8} {body bytes : List UInt8}

theorem positive_eq : decide (128 ≤ head.toNat) = !isNegative head := by
  simp only [isNegative, ← decide_not, Nat.not_lt]

theorem exponent_eq :
    ((if (!isNegative head) = true then head.toNat else 255 - head.toNat : Nat) : Int) - 193 =
      scaleOf head := by
  unfold scaleOf
  cases isNegative head <;> rfl

/-- Decoding goes by the pairs of the body. -/
theorem decode_cons (more : body ≠ []) : decode (head :: body) =
    Fault.ofExcept (readPairs (!isNegative head) (mantissa (!isNegative head) body)) >>= fun ps =>
      spell (isNegative head) (unpair ps) (2 * (scaleOf head + 1)) := by
  have some : body.isEmpty = false := by simpa using more
  simp only [decode, positive_eq, some, Bool.not_not, ← exponent_eq]
  rfl

theorem decode_tidy (more : body ≠ []) (tidy : ¬HasStray (isNegative head) body) :
    decode (head :: body) = spell (isNegative head) (unpair (pairsOf (isNegative head) body))
      (2 * (scaleOf head + 1)) := by
  rw [decode_cons more, readPairs_of_pairBytes (not_hasStray tidy), map_mantissa]
  rfl

/-- What the first byte alone stands for. -/
theorem decode_singleton (head : UInt8) :
    decode [head] = .ok (if isNegative head then "-1e126" else "0") := by
  simp only [decode, positive_eq]
  cases isNegative head <;> rfl

theorem decode_malformed (malformed : Malformed bytes) :
    ∃ m, decode bytes = .error (.refused (.protocol m)) := by
  cases bytes with
  | nil => exact ⟨_, rfl⟩
  | cons head body =>
    have stray : HasStray (isNegative head) body := malformed
    have more : body ≠ [] := by
      rintro rfl
      obtain ⟨front, byte, back, split, -⟩ := stray
      simp at split
    obtain ⟨m, refused⟩ := readPairs_of_stray (hasStray_iff.1 stray)
    refine ⟨m, ?_⟩
    rw [decode_cons more, refused]
    rfl

theorem not_malformed {text : String} (decoded : decode bytes = .ok text) : ¬Malformed bytes := by
  intro malformed
  obtain ⟨m, refused⟩ := decode_malformed malformed
  rw [decoded] at refused
  cases refused

/-- The digits of the pairs are those of their sum. -/
theorem value_magnitudeOf (head : UInt8) (body : List UInt8) :
    (magnitudeOf head body).value = sumOf (scaleOf head) (pairsOf (isNegative head) body) := by
  rw [magnitudeOf, value_normalize, value_unpair]

theorem numberOf_eq (head : UInt8) (body : List UInt8) :
    numberOf head body = if isNegative head then -(magnitudeOf head body).value
      else (magnitudeOf head body).value := by
  rw [numberOf, value_magnitudeOf]
  split <;> ring

theorem length_pairsOf_le (negative : Bool) (body : List UInt8) :
    (pairsOf negative body).length ≤ body.length := by
  unfold pairsOf
  split <;> simp

theorem scaleOf_bounds (head : UInt8) : -193 ≤ scaleOf head ∧ scaleOf head ≤ 62 := by
  have := head.toNat_lt
  unfold scaleOf
  split <;> omega

/-- The text of pairs that 32 bits count is that of their sum. -/
theorem decode_pairs (more : body ≠ []) (tidy : ¬HasStray (isNegative head) body)
    (few : body.length ≤ 2 ^ 30 - 200) :
    ∃ text, decode (head :: body) = .ok text ∧ PlainText (numberOf head body) text := by
  have pairs := length_pairsOf_le (isNegative head) body
  have scale := scaleOf_bounds head
  have digits : (unpair (pairsOf (isNegative head) body)).length ≤ 2 ^ 31 - 400 := by
    rw [length_unpair]
    omega
  have decoded : decode (head :: body) = .ok (if (magnitudeOf head body).digits = [] then "0" else
      String.ofList (withSign (isNegative head) (magnitudeOf head body).plainChars)) :=
    (decode_tidy more tidy).trans (spell_eq (d := ⟨_, 2 * (scaleOf head + 1)⟩) digits
      (by simp only; omega) (by simp only; omega))
  have normal : (magnitudeOf head body).Normal :=
    normal_normalize (allDigits_unpair (pairsOf_lt tidy))
  refine ⟨_, decoded, ?_⟩
  split
  case isTrue zero =>
    have value : numberOf head body = 0 := by
      rw [numberOf_eq, normal.value_eq_zero.2 zero, neg_zero, ite_self]
    exact value ▸ plainText_zero
  case isFalse nonempty => exact numberOf_eq head body ▸ normal.plainText nonempty _

theorem decode_countable (tidy : ¬Malformed bytes) (few : Countable bytes) :
    ∃ text, decode bytes = .ok text ∧ Shown bytes text := by
  cases bytes with
  | nil => exact absurd trivial tidy
  | cons head body =>
    cases body with
    | nil =>
      refine ⟨_, decode_singleton head, ?_⟩
      cases sign : isNegative head with
      | false => exact .zero sign
      | true => exact .lowest sign
    | cons byte rest =>
      have fewer : (byte :: rest).length ≤ 2 ^ 30 - 200 := by
        have : (head :: byte :: rest).length ≤ 2 ^ 30 - 200 := few
        simp only [List.length_cons] at this ⊢
        omega
      obtain ⟨text, decoded, plain⟩ := decode_pairs (List.cons_ne_nil byte rest) tidy fewer
      exact ⟨text, decoded, .pairs (List.cons_ne_nil byte rest) plain⟩

/-- Whatever is decoded is the text of a number. -/
theorem printed_of_decode {text : String} (decoded : decode bytes = .ok text) : Printed text := by
  have tidy := not_malformed decoded
  cases bytes with
  | nil => exact absurd trivial tidy
  | cons head body =>
    by_cases more : body = []
    case pos =>
      subst more
      obtain rfl := Except.ok.inj ((decode_singleton head).symm.trans decoded)
      split
      · exact .lowest
      · exact .plain plainText_zero
    case neg =>
      rw [decode_tidy more tidy] at decoded
      obtain rfl | ⟨d, normal, nonempty, rfl⟩ :=
        exists_normal_of_spell (allDigits_unpair (pairsOf_lt tidy)) decoded
      · exact .plain plainText_zero
      · exact .plain (normal.plainText nonempty _)

end Decode

end SqlBinder.Wire.Numeric

import SqlBinder.Proofs.Binary.Numerals
import SqlBinder.Proofs.Conversion.RoundTrip
import SqlBinder.Proofs.Wire.Range

/-!
Acceptance and encoding agree. Main statement: a value that a type does not accept is refused, and
one that it accepts is encoded unless the number, the date or the place of its content is in the
way; encoding never finds a shape that accepting let through.

The proof goes through the shapes of values and, for each, the types that accept it. Numbers are
encoded through their text, whose only trouble can be that the number is too large or has too many
digits; fields of a date may roll out of the calendar, or to a year that the server does not have.
-/
namespace SqlBinder

open Decimal Text Wire

/-! Texts that are accepted as numbers. -/

namespace Wire.Numeric

variable {text : String}

/-- A whole number of up to forty digits is within the type. -/
theorem representable_intCast {x : Int} (small : x.natAbs < 10 ^ 40) :
    Representable (x : ℚ) := by
  by_cases zero : x = 0
  case pos => exact .inl (by rw [zero, Int.cast_zero])
  case neg =>
    have size : |(x : ℚ)| = (x.natAbs : ℚ) := by rw [Nat.cast_natAbs, Int.cast_abs]
    have one : (1 : ℚ) ≤ x.natAbs := by exact_mod_cast Nat.one_le_iff_ne_zero.2 (by omega)
    have forty : (x.natAbs : ℚ) < 10 ^ (40 : Int) := by exact_mod_cast small
    refine .inr ⟨⟨x.natAbs, 0, small, by rw [size, scaled, zpow_zero, mul_one]⟩, ?_, ?_⟩
    · rw [size]
      exact (zpow_le_one_of_nonpos₀ (by norm_num) (by norm_num)).trans one
    · rw [size]
      exact forty.trans_le (zpow_le_zpow_right₀ (by norm_num) (by norm_num))

theorem exponentFits_of_plain {n : Numeral} (plain : n.exponent = none) :
    ExponentFits n.scale := by
  rw [Numeral.scale, plain]
  exact ⟨by decide, by decide⟩

theorem exists_encode_of_representable {n : Numeral} (spells : n.Spells text)
    (fits : ExponentFits n.scale) (within : Representable n.value) :
    ∃ bytes, encode text = .ok bytes := by
  obtain ⟨bytes, wire⟩ := (exists_ofDecimal?_iff n).2 within
  exact ⟨bytes, encode_eq_ok_iff.2 ⟨n, spells, fits, wire⟩⟩

/-- A numeral without exponent is refused only as out of range. -/
theorem encode_plain {n : Numeral} (spells : n.Spells text) (plain : n.exponent = none) :
    (∃ bytes, encode text = .ok bytes) ∨ encode text = .error .unrepresentable := by
  rw [encode_numeral spells (exponentFits_of_plain plain)]
  cases ofDecimal? n.sign.negative n.magnitude with
  | some bytes => exact .inl ⟨bytes, rfl⟩
  | none => exact .inr rfl

/-- A float that is a number is refused only as out of range. -/
theorem encodeDouble_cases {x : Double} (real : x.isNaN = false) :
    (∃ bytes, encodeDouble x = .ok bytes) ∨ encodeDouble x = .error .unrepresentable := by
  cases infinite : x.isInfinite with
  | true => exact .inr (by simp only [encodeDouble, real, infinite]; rfl)
  | false =>
    obtain ⟨n, spells, plain⟩ := Double.exists_numeral_of_plain real infinite
    have text : encodeDouble x = encode x.plain := by
      simp only [encodeDouble, real, infinite]
      rfl
    rw [text]
    exact encode_plain spells plain

end Wire.Numeric

namespace DbType

variable {t : DbType} {o : ConvertOptions} {v : Value} {s : String}

/-- The text of an integer of 64 bits has a NUMBER form. -/
theorem exists_encode_of_isIntegerText (integer : isIntegerText s) :
    ∃ bytes, Numeric.encode s = .ok bytes := by
  obtain ⟨x, found⟩ := Option.isSome_iff_exists.1 integer
  obtain ⟨n, chars, plain, value⟩ := Numeral.exists_of_readInt? (readInt64?_eq_some.1 found)
  refine Numeric.exists_encode_of_representable (Numeral.spells_of_trim chars.symm)
    (Numeric.exponentFits_of_plain plain) ?_
  rw [value]
  exact Numeric.representable_intCast (by
    have low := x.le_toInt
    have high := x.toInt_lt
    omega)

theorem exists_encode_of_isNumberText (number : isNumberText s) :
    ∃ bytes, Numeric.encode s = .ok bytes := by
  unfold isNumberText at number
  cases encoded : Numeric.encode s with
  | ok bytes => exact ⟨bytes, rfl⟩
  | error e => rw [encoded] at number; cases number

/-- A text that has a NUMBER form reads as a float, infinite at most. -/
theorem parse?_of_isNumberText (number : isNumberText s) :
    ∃ x, Double.parse? (trim s.toList) = some x ∧ x.isNaN = false := by
  obtain ⟨bytes, encoded⟩ := exists_encode_of_isNumberText number
  obtain ⟨n, spells, -, -⟩ := Numeric.encode_eq_ok_iff.1 encoded
  rw [spells.trim]
  exact Double.parse?_chars n

/-! Types, one family after the other. -/

/-- Why a value that a type accepts may still be refused. -/
inductive Refusal (t : DbType) : Value → Error → Prop where
  /-- The number of a float is out of range. -/
  | range (x : Double) (type : t = number ∨ t = binaryInteger) :
    Refusal t (.float x) .unrepresentable
  /-- The date is out of range. -/
  | temporal {v : Value} (message : String) (type : t.isTemporal) :
    Refusal t v (.invalidTemporal message)
  /-- The text has no locator yet. -/
  | text (s : String) (type : t.isLob) :
    Refusal t (.string s)
      (.conversion "string value must be written to a temporary LOB before it is bound")
  /-- The bytes have no locator yet. -/
  | bytes (b : List UInt8) (type : t.isLob) :
    Refusal t (.bytes b)
      (.conversion "bytes value must be written to a temporary LOB before it is bound")

/-- The value is encoded, or refused for one of the reasons above. -/
def Settled (t : DbType) (v : Value) (r : Except Error WireValue) : Prop :=
  (∃ w, r = .ok w) ∨ ∃ e, r = .error e ∧ Refusal t v e

theorem Settled.ok {w : WireValue} : Settled t v (.ok w) := .inl ⟨w, rfl⟩

theorem Settled.map_ok {α : Type} {r : Except Error α} {f : α → WireValue}
    (encoded : ∃ a, r = .ok a) : Settled t v (f <$> r) := by
  obtain ⟨a, rfl⟩ := encoded
  exact .ok

/-- NaN is no number to any type. -/
theorem isNaN_of_accepts {x : Double} (accepted : t.accepts (.float x)) : x.isNaN = false := by
  cases t with
  | number | binaryFloat | binaryDouble => simpa [accepts] using accepted
  | binaryInteger =>
    -- A float that is an integer is finite.
    refine Bool.eq_false_iff.2 fun nan => ?_
    have number := beq_iff_eq.1 nan
    simp [accepts, Double.toInt?, number] at accepted
  | _ => cases accepted

theorem encodeNumber_settled (type : t = number ∨ t = binaryInteger) (accepted : t.accepts v) :
    Settled t v (encodeNumber v) := by
  unfold encodeNumber
  cases v with
  | integer n =>
    obtain ⟨bytes, encoded, -⟩ := Numeric.decode_encodeInt n
    exact .map_ok ⟨bytes, encoded⟩
  | float x =>
    rcases Numeric.encodeDouble_cases (isNaN_of_accepts accepted) with encoded | refused
    · exact .map_ok encoded
    · exact .inr ⟨_, congrArg (WireValue.number <$> ·) refused, .range x type⟩
  | number s | string s =>
    refine .map_ok ?_
    rcases type with rfl | rfl
    · exact exists_encode_of_isNumberText accepted
    · exact exists_encode_of_isIntegerText accepted
  | _ => rcases type with rfl | rfl <;> cases accepted

theorem exists_floatOf {t' : DbType} (type : t = binaryFloat ∨ t = binaryDouble)
    (accepted : t.accepts v) : ∃ x, floatOf t' v = .ok x := by
  cases v with
  | integer n => exact ⟨_, by simp [floatOf, Double.isNaN_ofInt]; rfl⟩
  | float x => exact ⟨x, by simp [floatOf, isNaN_of_accepts accepted]; rfl⟩
  | number s | string s =>
    have number : isNumberText s := by rcases type with rfl | rfl <;> exact accepted
    obtain ⟨x, parsed, real⟩ := parse?_of_isNumberText number
    exact ⟨x, by simp [floatOf, parsed, real]; rfl⟩
  | _ => rcases type with rfl | rfl <;> cases accepted

/-- The result is there, or a date was out of range. -/
def Dated {α : Type} (r : Except Error α) : Prop :=
  (∃ a, r = .ok a) ∨ ∃ m, r = .error (.invalidTemporal m)

theorem Dated.bind {α β : Type} {r : Except Error α} {f : α → Except Error β} (h : Dated r)
    (next : ∀ a, Dated (f a)) : Dated (r >>= f) := by
  rcases h with ⟨a, rfl⟩ | ⟨m, rfl⟩
  · exact next a
  · exact .inr ⟨m, rfl⟩

theorem Dated.settled {α : Type} {r : Except Error α} {f : α → WireValue} (h : Dated r)
    (type : t.isTemporal) : Settled t v (f <$> r) := by
  rcases h with ⟨a, rfl⟩ | ⟨m, rfl⟩
  · exact .ok
  · exact .inr ⟨_, rfl, .temporal m type⟩

theorem dated_normalize (p : Calendar.Parts) : Dated p.normalize := by
  unfold Calendar.Parts.normalize
  split
  · exact .inr ⟨_, rfl⟩
  · split
    · exact .inr ⟨_, rfl⟩
    · exact .inl ⟨_, rfl⟩

theorem dated_encodeDate (dt : Calendar.DateTime) : Dated (Temporal.encodeDate dt) := by
  unfold Temporal.encodeDate
  split
  · exact .inl ⟨_, rfl⟩
  · exact .inr ⟨_, rfl⟩

theorem dated_encodeTimestamp (dt : Calendar.DateTime) (scale : Nat) :
    Dated (Temporal.encodeTimestamp dt scale) :=
  .bind (dated_encodeDate _) fun _ => .inl ⟨_, rfl⟩

theorem dated_dateTimeOf {t' : DbType} (type : t = date ∨ t = timestamp)
    (accepted : t.accepts v) : Dated (dateTimeOf t' v) := by
  cases v with
  | date dt => exact .inl ⟨dt, rfl⟩
  | dateParts p => exact dated_normalize p
  | _ => rcases type with rfl | rfl <;> cases accepted

theorem encodeScalar_lob_settled (type : t = clob ∨ t = nclob ∨ t = blob)
    (accepted : t.accepts v) : Settled t v (t.encodeScalar v o) := by
  have lob : t.isLob := by rcases type with rfl | rfl | rfl <;> rfl
  cases v with
  | lob l => rcases type with rfl | rfl | rfl <;> exact .ok
  | string s => exact .inr ⟨_, by rcases type with rfl | rfl | rfl <;> rfl, .text s lob⟩
  | bytes b => exact .inr ⟨_, by rcases type with rfl | rfl | rfl <;> rfl, .bytes b lob⟩
  | _ => rcases type with rfl | rfl | rfl <;> cases accepted

/-- A value that a type accepts is encoded, or there is a reason why it is not. -/
theorem encodeScalar_settled (accepted : t.accepts v) : Settled t v (t.encodeScalar v o) := by
  cases t with
  | varchar | char | long | raw | longRaw | cursor | boolean =>
    cases v <;> first | exact .ok | cases accepted
  | number => exact encodeNumber_settled (.inl rfl) accepted
  | binaryInteger => exact encodeNumber_settled (.inr rfl) accepted
  | binaryFloat => exact .map_ok (exists_floatOf (.inl rfl) accepted)
  | binaryDouble => exact .map_ok (exists_floatOf (.inr rfl) accepted)
  | date =>
    have dated : Dated (dateTimeOf date v >>= Temporal.encodeDate) :=
      .bind (dated_dateTimeOf (.inl rfl) accepted) dated_encodeDate
    exact dated.settled rfl
  | timestamp =>
    have dated : Dated (dateTimeOf timestamp v >>= (Temporal.encodeTimestamp · o.timestampScale)) :=
      .bind (dated_dateTimeOf (.inr rfl) accepted) fun dt => dated_encodeTimestamp dt _
    exact dated.settled rfl
  | clob | nclob | blob => exact encodeScalar_lob_settled (by decide) accepted

/-- No reason is a shape that the type does not bind. -/
theorem Refusal.ne_mismatch {e : Error} (h : Refusal t v e) (t' : DbType) (w : Value) :
    e ≠ mismatch t' w := by
  intro same
  cases h with
  | range => cases same
  | temporal => cases same
  | text =>
    have head := congrArg (·.toList.head?) (Error.conversion.inj same)
    simp [String.toList_append] at head
  | bytes =>
    have head := congrArg (·.toList.head?) (Error.conversion.inj same)
    simp [String.toList_append] at head

/-! All values. -/

/-- A value that is neither null nor an array nor sent as null: if the type does not accept it,
encoding refuses it. If the type accepts it, encoding succeeds, or the number of a float, a date or
content without a locator is in the way: it is never a shape that the type does not bind, and
on a binary type a text reads as a float. -/
theorem encode_agrees_with_validates {v : Value} (content : v.isNull = false)
    (scalar : ∀ items, v ≠ .array items) (sent : t.sendsNull v = false) :
    (t.validates v = false → ∃ e, t.encode o v = .error e) ∧
    (t.validates v = true →
      ((∃ w, t.encode o v = .ok w) ∨ ∃ e, t.encode o v = .error e ∧ Refusal t v e) ∧
      (∀ t' w, t.encode o v ≠ .error (mismatch t' w)) ∧
      ∀ s, v.text? = some s → t = binaryFloat ∨ t = binaryDouble →
        ∃ x, Double.parse? (trim s.toList) = some x ∧ x.isNaN = false) := by
  have leaf := encode_leaf (t := t) (o := o) scalar
  constructor
  · intro refused
    rw [validates, content, Bool.false_or] at refused
    rw [leaf, encodeLeaf, sent, refused]
    cases v.isNaN && t.isNumeric with
    | true => exact ⟨_, rfl⟩
    | false => exact ⟨_, rfl⟩
  · intro validated
    have accepted : t.accepts v := by rwa [validates, content, Bool.false_or] at validated
    have real : (v.isNaN && t.isNumeric) = false := by
      cases v with
      | float x => rw [Value.isNaN, isNaN_of_accepts accepted, Bool.false_and]
      | _ => rfl
    have scalarForm : t.encode o v = t.encodeScalar v o := by
      rw [leaf, encodeLeaf, sent, real, accepted]
      rfl
    have settled := encodeScalar_settled (o := o) accepted
    rw [← scalarForm] at settled
    refine ⟨settled, fun t' w mismatched => ?_, fun s text type => ?_⟩
    · rcases settled with ⟨w', encoded⟩ | ⟨e, refused, reason⟩
      · rw [encoded] at mismatched
        cases mismatched
      · rw [refused] at mismatched
        exact reason.ne_mismatch t' w (Except.error.inj mismatched)
    · refine parse?_of_isNumberText ?_
      cases v with
      | string s' | number s' =>
        cases text
        rcases type with rfl | rfl <;> exact accepted
      | _ => cases text

/-- A numeral on a binary type, and the beginning of one on NUMBER. -/
theorem encode_agrees_on_texts :
    (binaryFloat.validates (.string " -1.5e3 ") = true ∧
      ((∃ w, binaryFloat.encode {} (.string " -1.5e3 ") = .ok w) ∨
        ∃ e, binaryFloat.encode {} (.string " -1.5e3 ") = .error e ∧
          Refusal binaryFloat (.string " -1.5e3 ") e) ∧
      (∀ t' w, binaryFloat.encode {} (.string " -1.5e3 ") ≠ .error (mismatch t' w)) ∧
      ∃ x, Double.parse? (trim " -1.5e3 ".toList) = some x ∧ x.isNaN = false) ∧
    number.validates (.string "1e") = false ∧ ∃ e, number.encode {} (.string "1e") = .error e := by
  have numeral : binaryFloat.validates (.string " -1.5e3 ") = true := by decide
  have beginning : number.validates (.string "1e") = false := by decide
  obtain ⟨settled, shaped, parsed⟩ :=
    (encode_agrees_with_validates (o := {}) (v := .string " -1.5e3 ") rfl nofun rfl).2 numeral
  exact ⟨⟨numeral, settled, shaped, parsed _ rfl (.inl rfl)⟩, beginning,
    (encode_agrees_with_validates (v := .string "1e") rfl nofun rfl).1 beginning⟩

/-- A float beyond NUMBER is accepted and then refused. -/
example : number.validates (.float (.ofInt (10 ^ 126))) = true ∧
    Numeric.encodeDouble (.ofInt (10 ^ 126)) = .error .unrepresentable := by
  decide +kernel

end DbType

end SqlBinder

import SqlBinder.Proofs.Conversion.Acceptance

/-!
NaN in conversions. No wire form has a NaN in it, however it might come in: as a float, in arrays of
any depth, by numeric text or by the way to 32 bits. A value with a NaN in it has no wire form, and
for a numeric type the error says so exactly if nothing in front of the NaN has another.

The float of a number or of a text is a number, so a NaN on the wire could only come from a NaN, and
there encoding stops. Arrays are an induction on their elements: what decides is the first that has
a NaN in it, unless one in front of it fails for another reason.
-/
namespace SqlBinder

open Binary Decimal Text

/-! ## NaN and formats -/

namespace Binary.Format

variable (f : Format)

/-- What is no NaN is written as a word up to the one of infinity. -/
theorem exists_magnitude {n : Number} (real : n ≠ .nan) :
    ∃ magnitude ≤ f.infinityWord, ∃ negative : Bool,
      f.write n = magnitude + if negative then f.signWord else 0 := by
  cases n with
  | nan => exact absurd rfl real
  | infinite negative => exact ⟨_, le_rfl, negative, rfl⟩
  | finite negative mantissa scale =>
    simp only [write]
    split
    · exact ⟨_, f.nearestMagnitude_le _ _, negative, rfl⟩
    · exact ⟨_, f.nearestMagnitude_le _ _, negative, rfl⟩

end Binary.Format

/-- The nearest number of 32 bits is one. -/
theorem Double.isNaN_toSingle {x : Double} (real : x.isNaN = false) : x.toSingle.isNaN = false := by
  obtain ⟨magnitude, small, negative, written⟩ :=
    singleFormat.exists_magnitude (beq_eq_false_iff_ne.1 real)
  have below := singleFormat.infinityWord_lt_signWord
  have wide : singleFormat.signWord = 2 ^ 31 := rfl
  have kept : (UInt32.ofNat (singleFormat.write x.number)).toNat =
      magnitude + if negative then singleFormat.signWord else 0 := by
    rw [written, UInt32.toNat_ofNat', Nat.mod_eq_of_lt]
    split <;> omega
  rw [Single.isNaN, Single.number, toSingle, kept]
  exact beq_eq_false_iff_ne.2 (singleFormat.read_ne_nan small negative)

/-! ## NaN in values and wire values -/

/-- A NaN is in the value, at any depth. -/
inductive Value.HasNaN : Value → Prop where
  | float {x : Double} (nan : x.isNaN = true) : HasNaN (.float x)
  | element {items : List Value} {v : Value} (member : v ∈ items) (nan : HasNaN v) :
    HasNaN (.array items)
  | field {fields : List (String × Value)} {name : String} {v : Value}
    (member : (name, v) ∈ fields) (nan : HasNaN v) : HasNaN (.object fields)

/-- A NaN is in the wire value, of 64 or of 32 bits and at any depth. -/
inductive WireValue.HasNaN : WireValue → Prop where
  | double {x : Double} (nan : x.isNaN = true) : HasNaN (.double x)
  | single {x : Single} (nan : x.isNaN = true) : HasNaN (.single x)
  | element {items : List WireValue} {w : WireValue} (member : w ∈ items) (nan : HasNaN w) :
    HasNaN (.array items)

namespace DbType

variable {t : DbType} {o : ConvertOptions} {v : Value} {w : WireValue}

/-- The value is a NaN or an array in which every element up to the one with the first NaN is
encoded. -/
inductive ReachesNaN (t : DbType) (o : ConvertOptions) : Value → Prop where
  | float {x : Double} (nan : x.isNaN = true) : ReachesNaN t o (.float x)
  | element {before after : List Value} {v : Value}
    (each : ∀ u ∈ before, ∃ w, t.encode o u = .ok w) (nan : ReachesNaN t o v) :
    ReachesNaN t o (.array (before ++ v :: after))

/-! ## Single values -/

/-- The float of a number or of a text is a number. -/
theorem floatOf_ok {x : Double} (h : floatOf t v = .ok x) : x.isNaN = false := by
  have real : ∀ y : Double, (if y.isNaN then
      (throw .notANumber : Except Error PUnit) >>= fun _ => pure y else pure y) = .ok x →
      x.isNaN = false := by
    intro y checked
    obtain ⟨real, made⟩ := Except.ite_throw_bind_ok.1 checked
    obtain rfl := Except.ok.inj made
    simpa using real
  cases v with
  | integer n => exact real _ h
  | float y => exact real y h
  | number s | string s =>
    cases parsed : Double.parse? (trim s.toList) with
    | some y =>
      simp only [floatOf, parsed] at h
      exact real y h
    | none =>
      simp only [floatOf, parsed] at h
      cases h
  | _ => cases h

/-- One value alone is encoded as a number at most. -/
theorem not_hasNaN_encodeScalar (h : t.encodeScalar v o = .ok w) : ¬w.HasNaN := by
  intro nan
  cases t with
  | varchar | char | long | raw | longRaw | clob | nclob | blob | cursor | boolean =>
    cases v
    all_goals cases h
    all_goals cases nan
  | number | binaryInteger | date | timestamp =>
    obtain ⟨b, -, rfl⟩ := Except.map_ok.1 h
    cases nan
  | binaryDouble =>
    obtain ⟨x, read, rfl⟩ := Except.map_ok.1 h
    cases nan with
    | double nan => exact absurd nan (by simp [floatOf_ok read])
  | binaryFloat =>
    obtain ⟨x, read, rfl⟩ := Except.map_ok.1 h
    cases nan with
    | single nan => exact absurd nan (by simp [Double.isNaN_toSingle (floatOf_ok read)])

theorem not_hasNaN_encodeLeaf (h : t.encodeLeaf v o = .ok w) : ¬w.HasNaN := by
  unfold encodeLeaf at h
  split at h
  case isTrue =>
    obtain rfl := Except.ok.inj h
    nofun
  case isFalse =>
    simp only [Except.ite_throw_ok] at h
    exact not_hasNaN_encodeScalar h.2.2

/-- No type accepts a value with a NaN in it. -/
theorem validates_eq_false (nan : v.HasNaN) : t.validates v = false := by
  cases nan with
  | @float x nan =>
    have refused : ¬t.accepts (.float x) := by
      intro accepted
      rw [isNaN_of_accepts accepted] at nan
      cases nan
    simpa [validates, Value.isNull] using refused
  | element => cases t <;> rfl
  | field => cases t <;> rfl

theorem encodeLeaf_error (scalar : ∀ items, v ≠ .array items) (nan : v.HasNaN) :
    ∃ e, t.encodeLeaf v o = .error e := by
  have sent : t.sendsNull v = false := by
    cases nan <;> rfl
  have refused : t.accepts v = false := by
    have invalid := validates_eq_false (t := t) nan
    rw [validates, Bool.or_eq_false_iff] at invalid
    exact invalid.2
  rw [encodeLeaf, sent, refused]
  cases v.isNaN && t.isNumeric with
  | true => exact ⟨_, rfl⟩
  | false => exact ⟨_, rfl⟩

/-- The error is NaN for nothing but a NaN, and for that with a numeric type alone. -/
theorem encodeLeaf_notANumber (h : t.encodeLeaf v o = .error .notANumber) :
    t.isNumeric = true ∧ t.ReachesNaN o v := by
  unfold encodeLeaf at h
  split at h
  case isTrue => cases h
  case isFalse =>
    split at h
    case isTrue nan =>
      rw [Bool.and_eq_true] at nan
      refine ⟨nan.2, ?_⟩
      cases v with
      | float x => exact .float nan.1
      | _ => cases nan.1
    case isFalse =>
      split at h
      case isTrue => cases h
      case isFalse accepted =>
        rcases encodeScalar_settled (o := o) (by simpa using accepted) with ⟨w, encoded⟩ |
          ⟨e, refused, reason⟩
        · cases encoded.symm.trans h
        · obtain rfl := Except.error.inj (refused.symm.trans h)
          cases reason

/-! ## Arrays -/

theorem encodeAll_eq_mapM (items : List Value) : t.encodeAll o items = items.mapM (t.encode o) := by
  induction items with
  | nil => rfl
  | cons v rest ih => rw [encodeAll, List.mapM_cons, ih]

theorem encode_array {items : List Value} {e : Error} :
    t.encode o (.array items) = .error e ↔ items.mapM (t.encode o) = .error e := by
  rw [encode, Except.map_error, encodeAll_eq_mapM]

/-! ## All values -/

/-- A wire value with a NaN in it is the form of no value. -/
theorem encode_ne_of_hasNaN (nan : w.HasNaN) (v : Value) : t.encode o v ≠ .ok w := by
  intro encoded
  induction nan generalizing v with
  | double nan =>
    cases v with
    | array items =>
      obtain ⟨ws, -, made⟩ := Except.map_ok.1 encoded
      cases made
    | _ => exact not_hasNaN_encodeLeaf encoded (.double nan)
  | single nan =>
    cases v with
    | array items =>
      obtain ⟨ws, -, made⟩ := Except.map_ok.1 encoded
      cases made
    | _ => exact not_hasNaN_encodeLeaf encoded (.single nan)
  | element member nan ih =>
    cases v with
    | array items =>
      obtain ⟨ws, all, made⟩ := Except.map_ok.1 encoded
      obtain rfl := WireValue.array.inj made
      rw [encodeAll_eq_mapM] at all
      obtain ⟨u, -, one⟩ := Except.mem_of_mapM all member
      exact ih u one
    | _ => exact not_hasNaN_encodeLeaf encoded (.element member nan)

/-- A value with a NaN in it has no wire form. -/
theorem encode_error_of_hasNaN (nan : v.HasNaN) : ∃ e, t.encode o v = .error e := by
  induction nan with
  | float nan => exact encodeLeaf_error nofun (.float nan)
  | field member nan => exact encodeLeaf_error nofun (.field member nan)
  | element member nan ih =>
    obtain ⟨e, refused⟩ := ih
    obtain ⟨e', all⟩ := Except.exists_mapM_error member refused
    exact ⟨e', encode_array.2 all⟩

theorem encode_of_reachesNaN (numeric : t.isNumeric = true) (reaches : t.ReachesNaN o v) :
    t.encode o v = .error .notANumber := by
  induction reaches with
  | @float x nan =>
    have scalar : ∀ items, Value.float x ≠ .array items := nofun
    simp only [encode_leaf scalar, encodeLeaf, sendsNull, Value.isNaN, nan, numeric]
    rfl
  | element each nan ih => exact encode_array.2 (Except.mapM_eq_error.2 ⟨_, _, _, rfl, each, ih⟩)

theorem reachesNaN_of_encode (v : Value) (h : t.encode o v = .error .notANumber) :
    t.isNumeric = true ∧ t.ReachesNaN o v := by
  match v with
  | .array items =>
    obtain ⟨before, u, after, split, each, refused⟩ := Except.mapM_eq_error.1 (encode_array.1 h)
    have smaller : sizeOf u < sizeOf items := List.sizeOf_lt_of_mem (by simp [split])
    obtain ⟨numeric, reaches⟩ := reachesNaN_of_encode u refused
    exact ⟨numeric, split ▸ .element each reaches⟩
  | .null | .integer _ | .float _ | .number _ | .string _ | .bytes _ | .boolean _ | .date _
  | .dateParts _ | .lob _ | .cursor _ | .object _ => exact encodeLeaf_notANumber h
termination_by sizeOf v

end DbType

end SqlBinder

import SqlBinder.Proofs.Wire.Dates
import SqlBinder.Proofs.Wire.Integers

/-!
Values there and back. Main statement: what a type can carry is encoded, and decoding gives the
value again, in arrays of any depth, except that text and bytes without content become null, dates
lose the digits of their fraction that the type does not keep, and calendar fields become the date
they roll to.
-/
namespace SqlBinder

open Calendar Wire

namespace DbType

/-- The values that a type carries as they are. -/
inductive Carries : DbType → Value → Prop where
  | null {t : DbType} : Carries t .null
  | text {t : DbType} (s : String) (type : t = varchar ∨ t = char ∨ t = long) :
    Carries t (.string s)
  | emptyText {t : DbType} (type : t.isText) : Carries t (.string "")
  | bytes {t : DbType} (b : List UInt8) (type : t = raw ∨ t = longRaw) : Carries t (.bytes b)
  | emptyBytes {t : DbType} (type : t.isBinary) : Carries t (.bytes [])
  | integer {t : DbType} (n : Int64) (type : t = number ∨ t = binaryInteger) :
    Carries t (.integer n)
  | float (x : Double) (real : x.isNaN = false) : Carries binaryDouble (.float x)
  | boolean (b : Bool) : Carries boolean (.boolean b)
  | clob {t : DbType} (l : LobLocator) (kind : l.kind = .clob) (type : t = clob ∨ t = nclob) :
    Carries t (.lob l)
  | blob (l : LobLocator) (kind : l.kind = .blob) : Carries blob (.lob l)
  | cursor (c : CursorLocator) (exists' : c.id ≠ 0) : Carries cursor (.cursor c)
  | date {t : DbType} (dt : DateTime) (range : Temporal.YearInRange dt.date.year)
    (type : t = date ∨ t = timestamp) : Carries t (.date dt)
  | dateParts {t : DbType} (p : Parts) {dt : DateTime} (rolled : p.normalize = .ok dt)
    (range : Temporal.YearInRange dt.date.year) (type : t = date ∨ t = timestamp) :
    Carries t (.dateParts p)
  | array {t : DbType} (items : List Value) (all : ∀ v ∈ items, Carries t v) :
    Carries t (.array items)

/-- The digits of a fraction that a type keeps. -/
def keptDigits (t : DbType) (scale : Nat) : Nat := if t = date then 0 else scale

mutual

/-- What comes back for a value. -/
def returned (t : DbType) (scale : Nat) : Value → Value
  | .string s => if s = "" then .null else .string s
  | .bytes b => if b = [] then .null else .bytes b
  | .date dt => .date (dt.truncate (t.keptDigits scale))
  | .dateParts p =>
    match p.normalize with
    | .ok dt => .date (dt.truncate (t.keptDigits scale))
    | .error _ => .dateParts p
  | .array items => .array (returnedAll t scale items)
  | v => v

/-- What comes back for each of the elements. -/
def returnedAll (t : DbType) (scale : Nat) : List Value → List Value
  | [] => []
  | v :: rest => returned t scale v :: returnedAll t scale rest

end

/-- The value is encoded, and decoding gives `w`. -/
def ComesBack (t : DbType) (o : ConvertOptions) (v w : Value) : Prop :=
  ∃ wire, t.encode o v = .ok wire ∧ t.decode o wire = .ok w

variable {t : DbType} {o : ConvertOptions}

theorem encode_leaf {v : Value} (scalar : ∀ items, v ≠ .array items) :
    t.encode o v = t.encodeLeaf v o := by
  cases v with
  | array items => exact absurd rfl (scalar items)
  | _ => rfl

/-- Nothing is in the way of a value that is accepted and is not sent as null. -/
theorem ComesBack.of_accepted {v w : Value} (wire : WireValue)
    (scalar : ∀ items, v ≠ .array items) (content : t.sendsNull v = false)
    (number : v.isNaN = false) (accepted : t.accepts v)
    (encoded : t.encodeScalar v o = .ok wire) (decoded : t.decode o wire = .ok w) :
    t.ComesBack o v w := by
  refine ⟨wire, ?_, decoded⟩
  rw [encode_leaf scalar, encodeLeaf, content, number, accepted]
  exact encoded

/-- What is sent as null comes back as null. -/
theorem ComesBack.of_sendsNull {v : Value} (scalar : ∀ items, v ≠ .array items)
    (empty : t.sendsNull v) : t.ComesBack o v .null := by
  refine ⟨.null, ?_, rfl⟩
  rw [encode_leaf scalar, encodeLeaf, empty]
  rfl

/-! One lemma for each family of values. -/

theorem ComesBack.text {s : String} (type : t = varchar ∨ t = char ∨ t = long) (content : s ≠ "") :
    t.ComesBack o (.string s) (.string s) := by
  have content' : s.isEmpty = false := by simpa using content
  have decoded : DbType.ofText s = .string s := by rw [ofText, content']; rfl
  refine .of_accepted (.text s) nofun (by simp [sendsNull, content']) rfl ?_ ?_ ?_
  · rcases type with rfl | rfl | rfl <;> rfl
  · rcases type with rfl | rfl | rfl <;> rfl
  · rcases type with rfl | rfl | rfl <;> exact congrArg Except.ok decoded

theorem ComesBack.bytes {b : List UInt8} (type : t = raw ∨ t = longRaw) (content : b ≠ []) :
    t.ComesBack o (.bytes b) (.bytes b) := by
  have content' : b.isEmpty = false := by simpa using content
  have decoded : DbType.ofBytes b = .bytes b := by rw [ofBytes, content']; rfl
  refine .of_accepted (.raw b) nofun (by simp [sendsNull, content']) rfl ?_ ?_ ?_
  · rcases type with rfl | rfl <;> rfl
  · rcases type with rfl | rfl <;> rfl
  · rcases type with rfl | rfl <;> exact congrArg Except.ok decoded

theorem ComesBack.integer {n : Int64} (plain : o.fetchAsText = [])
    (type : t = number ∨ t = binaryInteger) : t.ComesBack o (.integer n) (.integer n) := by
  obtain ⟨bytes, encoded, decoded⟩ := Numeric.decode_encodeInt n
  have back : decodeNumber o (.number bytes) = .ok (.integer n) := by
    simp only [decodeNumber, decoded, ConvertOptions.asText, plain, List.contains_nil]
    exact congrArg Except.ok (ofDecimalText_toString n)
  refine .of_accepted (.number bytes) nofun rfl rfl ?_ ?_ ?_
  · rcases type with rfl | rfl <;> rfl
  · rcases type with rfl | rfl <;> simp [encodeScalar, encodeNumber, encoded]
  · rcases type with rfl | rfl
    · exact back
    · simp only [decode, decodeScalar, back]
      rfl

theorem ComesBack.float {x : Double} (plain : o.fetchAsText = []) (real : x.isNaN = false) :
    binaryDouble.ComesBack o (.float x) (.float x) := by
  refine .of_accepted (.double x) nofun rfl real (by simp [accepts, real]) ?_ ?_
  · simp [encodeScalar, floatOf, real]
    rfl
  · simp [decode, decodeScalar, decodeFloat, ConvertOptions.asText, plain]
    rfl

theorem ComesBack.boolean {b : Bool} : boolean.ComesBack o (.boolean b) (.boolean b) :=
  .of_accepted _ nofun rfl rfl rfl rfl rfl

theorem ComesBack.lob {l : LobLocator}
    (kind : l.kind = .clob ∧ (t = clob ∨ t = nclob) ∨ l.kind = .blob ∧ t = blob) :
    t.ComesBack o (.lob l) (.lob l) := by
  refine .of_accepted (.lob l) nofun rfl rfl ?_ ?_ ?_ <;>
    rcases kind with ⟨kind, rfl | rfl⟩ | ⟨kind, rfl⟩ <;>
    simp [accepts, kind, encodeScalar, decode, decodeScalar] <;> rfl

theorem ComesBack.cursor {c : CursorLocator} (real : c.id ≠ 0) :
    cursor.ComesBack o (.cursor c) (.cursor c) := by
  refine .of_accepted (.cursor c) nofun rfl rfl rfl rfl ?_
  simp only [decode, decodeScalar, real, if_false]
  rfl

theorem decodeTemporal_date {bytes : List UInt8} {dt : DateTime} (plain : o.fetchAsText = [])
    (decoded : Temporal.decodeTimestamp bytes = .ok dt) :
    decodeTemporal o (.date bytes) = .ok (.date dt) := by
  simp only [decodeTemporal, decoded, ConvertOptions.asText, plain, List.contains_nil]
  rfl

/-- The value is a date-time, or calendar fields that roll to it. -/
def MeansDate (v : Value) (dt : DateTime) : Prop :=
  v = .date dt ∨ ∃ p, v = .dateParts p ∧ p.normalize = .ok dt

theorem ComesBack.temporal {v : Value} {dt : DateTime} (plain : o.fetchAsText = [])
    (type : t = date ∨ t = timestamp) (means : MeansDate v dt)
    (range : Temporal.YearInRange dt.date.year) :
    t.ComesBack o v (.date (dt.truncate (t.keptDigits o.timestampScale))) := by
  have rolled : ∀ type, dateTimeOf type v = .ok dt := by
    rcases means with rfl | ⟨p, rfl, rolled⟩
    · exact fun _ => rfl
    · exact fun _ => rolled
  obtain ⟨bytes, encoded, decoded⟩ : ∃ bytes, t.encodeScalar v o = .ok (.date bytes) ∧
      Temporal.decodeTimestamp bytes = .ok (dt.truncate (t.keptDigits o.timestampScale)) := by
    rcases type with rfl | rfl
    · obtain ⟨encoded, decoded⟩ := Temporal.decodeTimestamp_encodeDate range
      refine ⟨_, ?_, decoded⟩
      simp only [encodeScalar, rolled]
      exact congrArg (WireValue.date <$> ·) encoded
    · obtain ⟨bytes, encoded, decoded⟩ :=
        Temporal.decodeTimestamp_encodeTimestamp range o.timestampScale
      refine ⟨bytes, ?_, decoded⟩
      simp only [encodeScalar, rolled]
      exact congrArg (WireValue.date <$> ·) encoded
  have back := decodeTemporal_date plain decoded
  rcases means with rfl | ⟨p, rfl, -⟩ <;>
    exact .of_accepted _ nofun rfl rfl (by rcases type with rfl | rfl <;> rfl) encoded
      (by rcases type with rfl | rfl <;> exact back)

/-! Arrays. -/

theorem ComesBack.array {items : List Value} {scale : Nat}
    (all : ∀ v ∈ items, t.ComesBack o v (t.returned scale v)) :
    t.ComesBack o (.array items) (.array (t.returnedAll scale items)) := by
  obtain ⟨wires, encoded, decoded⟩ : ∃ wires, t.encodeAll o items = .ok wires ∧
      t.decodeAll o wires = .ok (t.returnedAll scale items) := by
    induction items with
    | nil => exact ⟨[], rfl, rfl⟩
    | cons v rest ih =>
      simp only [List.mem_cons, forall_eq_or_imp] at all
      obtain ⟨wire, encoded, decoded⟩ := all.1
      obtain ⟨wires, encodedRest, decodedRest⟩ := ih all.2
      refine ⟨wire :: wires, ?_, ?_⟩
      · simp only [encodeAll, encoded, encodedRest]
        rfl
      · simp only [decodeAll, decoded, decodedRest, returnedAll]
        rfl
  refine ⟨.array wires, ?_, ?_⟩
  · simp only [encode, encoded]
    rfl
  · simp only [decode, decoded]
    rfl

/-- What a type carries is encoded and comes back, as a whole and element by element, but for empty
content, digits of a fraction that the type does not keep, and fields that roll. -/
theorem carried_comes_back {v : Value} (plain : o.fetchAsText = []) (carried : t.Carries v) :
    ∃ wire, t.encode o v = .ok wire ∧
      t.decode o wire = .ok (t.returned o.timestampScale v) := by
  show t.ComesBack o v (t.returned o.timestampScale v)
  induction carried with
  | null => exact ⟨.null, rfl, rfl⟩
  | text s type =>
    by_cases empty : s = ""
    · subst empty
      exact .of_sendsNull nofun (by rcases type with rfl | rfl | rfl <;> rfl)
    · rw [returned, if_neg empty]
      exact .text type empty
  | emptyText type => exact .of_sendsNull nofun (by simp [sendsNull, type])
  | bytes b type =>
    by_cases empty : b = []
    · subst empty
      exact .of_sendsNull nofun (by rcases type with rfl | rfl <;> rfl)
    · rw [returned, if_neg empty]
      exact .bytes type empty
  | emptyBytes type => exact .of_sendsNull nofun (by simp [sendsNull, type])
  | integer n type => exact .integer plain type
  | float x real => exact .float plain real
  | boolean b => exact .boolean
  | clob l kind type => exact .lob (.inl ⟨kind, type⟩)
  | blob l kind => exact .lob (.inr ⟨kind, rfl⟩)
  | cursor c real => exact .cursor real
  | date dt range type => exact .temporal plain type (.inl rfl) range
  | dateParts p rolled range type =>
    rw [returned, rolled]
    exact .temporal plain type (.inr ⟨p, rfl, rolled⟩) range
  | array items all ih => exact .array ih

/-- Fields of 30 February and a leap second, in arrays, at three digits of the fraction. -/
theorem nested_dates_come_back :
    ∃ wire,
      timestamp.encode { timestampScale := 3 }
        (.array [.dateParts ⟨2016, 2, 30, 23, 59, 60, 123456789⟩, .null,
          .array [.date ⟨⟨-4712, 1, 1, by decide⟩, 23, 59, 59, 1999999999, by decide⟩]]) =
          .ok wire ∧
      timestamp.decode { timestampScale := 3 } wire =
        .ok (.array [.date ⟨⟨2016, 3, 2, by decide⟩, 0, 0, 0, 123000000, by decide⟩, .null,
          .array [.date ⟨⟨-4712, 1, 1, by decide⟩, 23, 59, 59, 999000000, by decide⟩]]) := by
  have rolled : (⟨2016, 2, 30, 23, 59, 60, 123456789⟩ : Parts).normalize =
      .ok ⟨⟨2016, 3, 2, by decide⟩, 0, 0, 0, 123456789, by decide⟩ := rfl
  have leap : timestamp.Carries
      (.date ⟨⟨-4712, 1, 1, by decide⟩, 23, 59, 59, 1999999999, by decide⟩) :=
    .date _ (by decide) (.inr rfl)
  refine carried_comes_back rfl (.array _ ?_)
  simp only [List.mem_cons, List.not_mem_nil, or_false, forall_eq_or_imp, forall_eq]
  exact ⟨.dateParts _ rolled (by decide) (.inr rfl), .null, .array _ (by simpa using leap)⟩

end DbType

end SqlBinder

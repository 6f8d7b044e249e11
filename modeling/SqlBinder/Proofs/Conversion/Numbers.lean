import SqlBinder.Proofs.Binary.Texts
import SqlBinder.Proofs.Wire.Decoding

/-!
Numbers from the wire as values. Main statements: whichever of an integer, a float and a text is
chosen for a NUMBER, its plain text is that of the bytes, so no digit is lost; and an integer type
takes every whole number and refuses the fractions whose text is that of a float.

The choice goes by the text alone. What is said of it therefore holds of all bytes that have a text,
also of those that are too many for the text to be that of their number.
-/
namespace SqlBinder

open Wire

/-! ## Whole numbers in text -/

namespace Decimal

variable {text : String} {q : ℚ} {x : Int}

theorem PlainText.denotes (plain : PlainText q text) : Denotes text q := by
  obtain ⟨n, -, value, chars⟩ := plain
  exact ⟨n, Numeral.spells_of_chars chars, value⟩

/-- An integer that is read from a canonical text prints as that text. -/
theorem PlainText.eq_toString (plain : PlainText q text) (read : readInt? text.toList = some x) :
    toString x = text := by
  obtain ⟨n, chars, -, value⟩ := Numeral.exists_of_readInt? read
  have same : q = x := plain.denotes.unique ⟨n, Numeral.spells_of_chars chars, value⟩
  exact (plainText_toString x).unique (same ▸ plain)

/-- The text denotes a whole number. -/
def Whole (text : String) : Prop := ∃ z : Int, Denotes text z

theorem PlainText.whole_iff (plain : PlainText q text) : Whole text ↔ ∃ z : Int, q = z :=
  ⟨fun ⟨z, denotes⟩ => ⟨z, plain.denotes.unique denotes⟩,
    fun ⟨z, same⟩ => ⟨z, same ▸ plain.denotes⟩⟩

/-- A canonical text has a point exactly if its number is not whole. -/
theorem PlainText.pointed_iff (plain : PlainText q text) :
    text.toList.any (fun c => c == '.' || c == 'e') = true ↔ ¬Whole text := by
  rw [plain.whole_iff]
  constructor
  · rintro pointed ⟨z, rfl⟩
    rw [plain.unique (plainText_toString z), ← Numeral.chars_ofInt, Numeral.positional_ofInt]
      at pointed
    cases pointed
  · intro broken
    obtain ⟨n, canonical, rfl, chars⟩ := plain
    cases fraction : n.fraction with
    | none => exact absurd ⟨_, Numeral.value_of_whole fraction canonical.noExponent⟩ broken
    | some ds =>
      have point : '.' ∈ n.chars := by simp [Numeral.chars, Numeral.fractionChars, fraction]
      exact List.any_eq_true.2 ⟨'.', chars ▸ point, rfl⟩

theorem whole_lowest : Whole "-1e126" := by
  let exponent : Exponent := ⟨'e', .absent, [1, 2, 6], .inl rfl, by simp, by simp⟩
  let n : Numeral := ⟨.minus, [1], none, some exponent, by simp, .nil, .inl (by simp)⟩
  refine ⟨-10 ^ 126, n, Numeral.spells_of_chars (by decide), ?_⟩
  norm_num [Numeral.value, Numeral.size, n, exponent, Numeral.decimals, Numeral.scale,
    Exponent.value, Sign.negative, ofDigits, show Sign.absent ≠ .minus by decide]

end Decimal

/-! ## The choice of a value -/

open Decimal

namespace DbType

variable {bytes : List UInt8} {text : String} {o : ConvertOptions}

/-- The value of a text is an integer it reads as, a float of that text, or the text. -/
inductive Chosen (text : String) : Value → Prop where
  | integer (n : Int64) (whole : text.toList.any (fun c => c == '.' || c == 'e') = false)
    (read : readInt? text.toList = some n.toInt) : Chosen text (.integer n)
  | float (x : Double) (pointed : text.toList.any (fun c => c == '.' || c == 'e') = true)
    (read : Double.parse? text.toList = some x) (finite : x.isFinite = true)
    (plain : x.plain = text) : Chosen text (.float x)
  | text (other : text.toList.any (fun c => c == '.' || c == 'e') = true → ¬Double.Keeps text) :
    Chosen text (.number text)

theorem chosen_ofDecimalText (text : String) : Chosen text (ofDecimalText text) := by
  unfold ofDecimalText
  split
  case isTrue pointed =>
    split
    case h_1 x read =>
      split
      case isTrue kept =>
        simp only [Bool.and_eq_true, beq_iff_eq] at kept
        exact .float x pointed read kept.1 kept.2
      case isFalse lost =>
        refine .text fun _ ⟨y, read', finite, plain⟩ => lost ?_
        obtain rfl := Option.some.inj (read.symm.trans read')
        simp [finite, plain]
    case h_2 unread => exact .text fun _ ⟨y, read, _⟩ => by simp [unread] at read
  case isFalse whole =>
    split
    case h_1 n read => exact .integer n (by simpa using whole) (readInt64?_eq_some.1 read)
    case h_2 => exact .text fun pointed => absurd pointed whole

theorem Chosen.plain {v : Value} (h : Chosen text v) (printed : Numeric.Printed text) :
    v.plain = text := by
  cases h with
  | text => rfl
  | float x pointed read finite plain => exact plain
  | integer n whole read =>
    cases printed with
    | lowest => exact absurd whole (by decide)
    | plain shown => exact shown.eq_toString read

/-- What decoding makes of the text of a number. -/
def numberValue (o : ConvertOptions) (text : String) : Value :=
  if o.asText number then .string text else ofDecimalText text

theorem decodeNumber_ok (decoded : Numeric.decode bytes = .ok text) :
    decodeNumber o (.number bytes) = .ok (numberValue o text) := by
  rw [decodeNumber, decoded]
  rfl

theorem decodeNumber_error {fault : Fault} (failed : Numeric.decode bytes = .error fault) :
    decodeNumber o (.number bytes) = .error fault := by
  rw [decodeNumber, failed]
  rfl

theorem plain_numberValue (printed : Numeric.Printed text) : (numberValue o text).plain = text := by
  unfold numberValue
  split
  · rfl
  · exact (chosen_ofDecimalText text).plain printed

/-- The text of a fraction is the canonical one. -/
theorem Printed.exists_plainText (printed : Numeric.Printed text) (broken : ¬Whole text) :
    ∃ q, PlainText q text := by
  cases printed with
  | lowest => exact absurd whole_lowest broken
  | plain shown => exact ⟨_, shown⟩

theorem Printed.pointed_of_broken (printed : Numeric.Printed text) (broken : ¬Whole text) :
    text.toList.any (fun c => c == '.' || c == 'e') = true := by
  obtain ⟨q, plain⟩ := Printed.exists_plainText printed broken
  exact plain.pointed_iff.2 broken

theorem Printed.broken_of_pointed (printed : Numeric.Printed text)
    (pointed : text.toList.any (fun c => c == '.' || c == 'e') = true) (other : text ≠ "-1e126") :
    ¬Whole text := by
  cases printed with
  | lowest => exact absurd rfl other
  | plain shown => exact shown.pointed_iff.1 pointed

/-- A float is chosen exactly for the fractions whose text it keeps. -/
theorem Chosen.float_iff {v : Value} (h : Chosen text v) (printed : Numeric.Printed text) :
    (∃ x, v = .float x) ↔ ¬Whole text ∧ Double.Keeps text := by
  constructor
  · rintro ⟨x, rfl⟩
    cases h with
    | float x pointed read finite plain =>
      have keeps : Double.Keeps text := ⟨x, read, finite, plain⟩
      refine ⟨Printed.broken_of_pointed printed pointed ?_, keeps⟩
      rintro rfl
      exact Double.not_keeps_lowest keeps
  · rintro ⟨broken, keeps⟩
    have pointed := Printed.pointed_of_broken printed broken
    cases h with
    | float x => exact ⟨x, rfl⟩
    | integer n whole =>
      rw [pointed] at whole
      cases whole
    | text other => exact absurd keeps (other pointed)

/-- What an integer type says of a fraction. -/
def notIntegral (text : String) : Error :=
  .protocol ("BINARY_INTEGER value " ++ text ++ " is not integral")

theorem decodeInteger_float {x : Double} (decoded : Numeric.decode bytes = .ok text)
    (float : numberValue o text = .float x) :
    binaryInteger.decode o (.number bytes) = .error (.refused (notIntegral x.plain)) := by
  show binaryInteger.decodeScalar o (.number bytes) = _
  rw [decodeScalar, decodeNumber_ok decoded, float]
  rfl

theorem decodeInteger_other (decoded : Numeric.decode bytes = .ok text)
    (other : ∀ x, numberValue o text ≠ .float x) :
    binaryInteger.decode o (.number bytes) = .ok (numberValue o text) := by
  show binaryInteger.decodeScalar o (.number bytes) = _
  rw [decodeScalar, decodeNumber_ok decoded]
  cases value : numberValue o text with
  | float x => exact absurd value (other x)
  | _ => rfl

/-- A number is a float exactly if it is a fraction that is not fetched as text and keeps its
text. -/
theorem numberValue_float_iff (printed : Numeric.Printed text) :
    (∃ x, numberValue o text = .float x) ↔
      ¬Whole text ∧ o.asText number = false ∧ Double.Keeps text := by
  cases fetched : o.asText number with
  | true => simp [numberValue, fetched]
  | false =>
    simp only [numberValue, fetched, Bool.false_eq_true, if_false, true_and]
    exact (chosen_ofDecimalText text).float_iff printed

/-- An integer type refuses bytes that are no number and takes every whole number as it is. A
fraction it refuses exactly if NUMBER is not fetched as text and a float has the fraction's text,
as one has that of each fraction of up to fifteen digits. The text is that of the bytes as long as
32 bits count their digits. -/
theorem decode_integer_refuses (bytes : List UInt8) (o : ConvertOptions) :
    (Numeric.Malformed bytes →
      ∃ m, binaryInteger.decode o (.number bytes) = .error (.refused (.protocol m))) ∧
    (¬Numeric.Malformed bytes → Numeric.Countable bytes →
      ∃ text, Numeric.decode bytes = .ok text ∧ Numeric.Shown bytes text) ∧
    (∀ text, Numeric.decode bytes = .ok text →
      (Whole text → ∃ v, binaryInteger.decode o (.number bytes) = .ok v ∧ v.plain = text) ∧
      (¬Whole text →
        ((∃ fault, binaryInteger.decode o (.number bytes) = .error fault) ↔
          o.asText number = false ∧ Double.Keeps text) ∧
        (∀ fault, binaryInteger.decode o (.number bytes) = .error fault →
          fault = .refused (notIntegral text)) ∧
        ∀ q, Denotes text q → Double.Short q → o.asText number = false →
          binaryInteger.decode o (.number bytes) = .error (.refused (notIntegral text)))) := by
  refine ⟨?_, Numeric.decode_countable, ?_⟩
  · intro malformed
    obtain ⟨m, refused⟩ := Numeric.decode_malformed malformed
    refine ⟨m, ?_⟩
    show binaryInteger.decodeScalar o (.number bytes) = _
    rw [decodeScalar, decodeNumber_error refused]
    rfl
  · intro text decoded
    have printed := Numeric.printed_of_decode decoded
    have plain : (numberValue o text).plain = text := plain_numberValue printed
    have float := numberValue_float_iff (o := o) printed
    refine ⟨fun whole => ?_, fun broken => ?_⟩
    · refine ⟨_, decodeInteger_other decoded fun x chosen => ?_, plain⟩
      exact (float.1 ⟨x, chosen⟩).1 whole
    · have refused : o.asText number = false ∧ Double.Keeps text →
          binaryInteger.decode o (.number bytes) = .error (.refused (notIntegral text)) := by
        intro kept
        obtain ⟨x, chosen⟩ := float.2 ⟨broken, kept⟩
        rw [chosen, Value.plain] at plain
        rw [decodeInteger_float decoded chosen, plain]
      have taken : ∀ fault, binaryInteger.decode o (.number bytes) = .error fault →
          o.asText number = false ∧ Double.Keeps text := by
        intro fault error
        by_contra other
        rw [decodeInteger_other decoded fun x chosen => other (float.1 ⟨x, chosen⟩).2] at error
        cases error
      refine ⟨⟨fun ⟨fault, error⟩ => taken fault error, fun kept => ⟨_, refused kept⟩⟩, ?_, ?_⟩
      · intro fault error
        exact (Except.error.inj ((refused (taken fault error)).symm.trans error)).symm
      · intro q denotes short fetched
        obtain ⟨r, canonical⟩ := Printed.exists_plainText printed broken
        obtain rfl := canonical.denotes.unique denotes
        exact refused ⟨fetched, Double.keeps_of_short canonical short⟩

theorem denotes_three_halves : Denotes "1.5" (3 / 2) := by
  let numeral : Numeral := ⟨.absent, [1], some [5], none, by simp, by simp, .inl (by simp)⟩
  refine ⟨numeral, Numeral.spells_of_chars (by decide), ?_⟩
  norm_num [Numeral.value, Numeral.size, numeral, Numeral.decimals, Numeral.scale, Sign.negative,
    ofDigits, show Sign.absent ≠ .minus by decide]

theorem short_three_halves : Double.Short (3 / 2) := by
  have size : |(3 / 2 : ℚ)| = 3 / 2 := abs_of_pos (by norm_num)
  refine ⟨⟨15, -1, by norm_num, by norm_num [size, scaled]⟩, ?_, ?_⟩
  · exact (zpow_le_one_of_nonpos₀ (by norm_num) (by norm_num)).trans (by norm_num [size])
  · have ten : (10 : ℚ) ^ (1 : Int) ≤ 10 ^ (300 : Int) :=
      zpow_le_zpow_right₀ (by norm_num) (by norm_num)
    rw [size]
    exact lt_of_lt_of_le (by norm_num) ten

/-- A whole number, a fraction and a byte that is no pair. -/
theorem decode_integer_refuses_half :
    (∃ v, binaryInteger.decode {} (.number [194, 2, 51]) = .ok v ∧ v.plain = "150") ∧
    (Numeric.Shown [193, 2, 51] "1.5" ∧
      binaryInteger.decode {} (.number [193, 2, 51]) = .error (.refused (notIntegral "1.5"))) ∧
    ∃ m, binaryInteger.decode {} (.number [193, 2, 0]) = .error (.refused (.protocol m)) := by
  have fifteen : Numeric.decode [193, 2, 51] = .ok "1.5" := by decide
  have hundreds : Numeric.decode [194, 2, 51] = .ok "150" := by decide
  have few : Numeric.Countable [193, 2, 51] := by
    show 3 ≤ 2 ^ 30 - 200
    norm_num
  refine ⟨?_, ?_, ?_⟩
  · refine ((decode_integer_refuses [194, 2, 51] {}).2.2 _ hundreds).1 (not_not.1 fun broken => ?_)
    exact absurd (Printed.pointed_of_broken (Numeric.printed_of_decode hundreds) broken) (by decide)
  · obtain ⟨-, shows', refuses⟩ := decode_integer_refuses [193, 2, 51] {}
    obtain ⟨text, decoded, shown⟩ := shows' (Numeric.not_malformed fifteen) few
    obtain rfl : text = "1.5" := Except.ok.inj (decoded.symm.trans fifteen)
    have broken : ¬Whole "1.5" := Printed.broken_of_pointed (Numeric.printed_of_decode fifteen)
      (by decide) (by decide)
    exact ⟨shown, ((refuses _ fifteen).2 broken).2.2 _ denotes_three_halves short_three_halves rfl⟩
  · exact (decode_integer_refuses [193, 2, 0] {}).1 ⟨[2], 0, [], rfl, by decide, by decide⟩

/-- A fraction with more digits than a float has, and one that is fetched as text. -/
theorem decode_integer_takes_fractions :
    (∃ text, Numeric.decode [192, 13, 35, 57, 79, 91, 13, 35, 57, 79, 91] = .ok text ∧
      ¬Whole text ∧
      ∃ v, binaryInteger.decode {} (.number [192, 13, 35, 57, 79, 91, 13, 35, 57, 79, 91]) =
        .ok v ∧ v.plain = "0.1234567890123456789") ∧
    ∃ text, Numeric.decode [193, 2, 51] = .ok text ∧ ¬Whole text ∧
      binaryInteger.decode { fetchAsText := [number] } (.number [193, 2, 51]) =
        .ok (.string "1.5") := by
  constructor
  · have long : Numeric.decode [192, 13, 35, 57, 79, 91, 13, 35, 57, 79, 91] =
        .ok "0.1234567890123456789" := by decide
    have printed := Numeric.printed_of_decode long
    refine ⟨_, long, Printed.broken_of_pointed printed (by decide) (by decide), _,
      decodeInteger_other long fun x chosen => ?_, plain_numberValue printed⟩
    exact Double.not_keeps_long ((numberValue_float_iff printed).1 ⟨x, chosen⟩).2.2
  · have half : Numeric.decode [193, 2, 51] = .ok "1.5" := by decide
    have printed := Numeric.printed_of_decode half
    have broken := Printed.broken_of_pointed printed (by decide) (by decide)
    exact ⟨_, half, broken, decodeInteger_other half nofun⟩

end DbType

end SqlBinder

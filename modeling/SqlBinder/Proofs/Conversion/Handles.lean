import SqlBinder.Conversion
import SqlBinder.Proofs.Fallible

/-!
Handles among decoded values. A locator that comes out of decoding is the one that went in, and a
cursor is decoded by a cursor type only.

Every other form is decoded to a plain value, whatever the type. So the handles of a response can be
counted before anything is decoded, which is what custody relies on.
-/
namespace SqlBinder

/-- The value stands for something on the server. -/
def Value.isHandle : Value → Bool
  | .lob _ | .cursor _ => true
  | _ => false

namespace DbType

variable {t : DbType} {o : ConvertOptions} {wire : WireValue} {v : Value}

theorem isHandle_ofText (s : String) : (ofText s).isHandle = false := by
  unfold ofText
  split <;> rfl

theorem isHandle_ofBytes (b : List UInt8) : (ofBytes b).isHandle = false := by
  unfold ofBytes
  split <;> rfl

theorem isHandle_ofDecimalText (s : String) : (ofDecimalText s).isHandle = false := by
  unfold ofDecimalText
  split
  · split
    · split <;> rfl
    · rfl
  · split <;> rfl

theorem isHandle_decodeNumber (h : decodeNumber o wire = .ok v) : v.isHandle = false := by
  cases wire with
  | number b =>
    simp only [decodeNumber, Except.bind_ok] at h
    obtain ⟨text, -, made⟩ := h
    obtain rfl := Except.ok.inj made
    split
    · rfl
    · exact isHandle_ofDecimalText text
  | _ => simp [decodeNumber] at h

theorem isHandle_floatValue (x : Double) (text : Bool) :
    (if text then Value.string x.plain else Value.float x).isHandle = false := by
  split <;> rfl

theorem isHandle_decodeFloat (h : decodeFloat o wire = .ok v) : v.isHandle = false := by
  cases wire with
  | double x =>
    obtain rfl := Except.ok.inj h
    exact isHandle_floatValue _ _
  | single x =>
    obtain rfl := Except.ok.inj h
    exact isHandle_floatValue _ _
  | _ => simp [decodeFloat, bind, Except.bind, throw, throwThe, MonadExceptOf.throw] at h

theorem isHandle_decodeTemporal (h : decodeTemporal o wire = .ok v) : v.isHandle = false := by
  cases wire with
  | date b =>
    simp only [decodeTemporal, Except.bind_ok] at h
    obtain ⟨dt, -, made⟩ := h
    split at made
    · split at made
      · obtain rfl := Except.ok.inj made
        rfl
      · simp at made
    · obtain rfl := Except.ok.inj made
      rfl
  | _ => simp [decodeTemporal] at h

/-- What decoding makes of one wire value. -/
inductive Decoded (t : DbType) : WireValue → Value → Prop where
  | lob (l : LobLocator) : Decoded t (.lob l) (.lob l)
  | cursor (l : CursorLocator) (type : t = .cursor) (real : l.id ≠ 0) :
    Decoded t (.cursor l) (.cursor l)
  | plain {wire : WireValue} {v : Value} (wirePlain : ∀ l, wire ≠ .cursor l)
    (plain : v.isHandle = false) : Decoded t wire v

theorem decodeScalar_cursor {l : CursorLocator} (h : decodeScalar t o (.cursor l) = .ok v) :
    t = .cursor ∧ v = .cursor l ∧ l.id ≠ 0 := by
  cases t with
  | cursor =>
    by_cases none : l.id = 0
    · simp [decodeScalar, none] at h
    · simp only [decodeScalar, none, if_false] at h
      exact ⟨rfl, (Except.ok.inj h).symm, none⟩
  | _ => simp [decodeScalar, decodeNumber, decodeFloat, decodeTemporal, bind, Except.bind, throw,
      throwThe, MonadExceptOf.throw] at h

theorem decodeScalar_lob {l : LobLocator} (h : decodeScalar t o (.lob l) = .ok v) :
    v = .lob l := by
  cases t with
  | clob => exact (Except.ok.inj h).symm
  | nclob => exact (Except.ok.inj h).symm
  | blob => exact (Except.ok.inj h).symm
  | _ => simp [decodeScalar, decodeNumber, decodeFloat, decodeTemporal, bind, Except.bind, throw,
      throwThe, MonadExceptOf.throw] at h

theorem isHandle_decodeScalar (h : decodeScalar t o wire = .ok v) (lob : ∀ l, wire ≠ .lob l)
    (cursor : ∀ l, wire ≠ .cursor l) : v.isHandle = false := by
  cases t with
  | number => exact isHandle_decodeNumber h
  | binaryInteger =>
    simp only [decodeScalar, Except.bind_ok] at h
    obtain ⟨u, number, made⟩ := h
    have plain := isHandle_decodeNumber number
    cases u with
    | float x => simp at made
    | _ =>
      obtain rfl := Except.ok.inj made
      exact plain
  | binaryFloat => exact isHandle_decodeFloat h
  | binaryDouble => exact isHandle_decodeFloat h
  | date => exact isHandle_decodeTemporal h
  | timestamp => exact isHandle_decodeTemporal h
  | varchar | char | long =>
    cases wire with
    | text text =>
      obtain rfl := Except.ok.inj h
      exact isHandle_ofText text
    | _ => simp [decodeScalar] at h
  | raw | longRaw =>
    cases wire with
    | raw b =>
      obtain rfl := Except.ok.inj h
      exact isHandle_ofBytes b
    | _ => simp [decodeScalar] at h
  | clob | nclob | blob =>
    cases wire with
    | text text =>
      obtain rfl := Except.ok.inj h
      exact isHandle_ofText text
    | raw b =>
      obtain rfl := Except.ok.inj h
      exact isHandle_ofBytes b
    | lob l => exact absurd rfl (lob l)
    | _ => simp [decodeScalar] at h
  | cursor =>
    cases wire with
    | cursor l => exact absurd rfl (cursor l)
    | _ => simp [decodeScalar] at h
  | boolean =>
    cases wire with
    | boolean b =>
      obtain rfl := Except.ok.inj h
      rfl
    | _ => simp [decodeScalar] at h

theorem decodeScalar_decoded (h : decodeScalar t o wire = .ok v) : Decoded t wire v := by
  cases wire with
  | cursor l =>
    obtain ⟨type, rfl, real⟩ := decodeScalar_cursor h
    exact .cursor l type real
  | lob l =>
    obtain rfl := decodeScalar_lob h
    exact .lob l
  | _ => exact .plain (by simp) (isHandle_decodeScalar h (by simp) (by simp))

/-- A locator that comes out of decoding went in. -/
theorem decode_decoded (h : t.decode o wire = .ok v) : Decoded t wire v := by
  cases wire with
  | null =>
    obtain rfl := Except.ok.inj ((decode.eq_def t o .null).symm.trans h)
    exact .plain (by simp) rfl
  | array items =>
    cases all : decodeAll t o items with
    | error e => simp [decode, all, Functor.map, Except.map] at h
    | ok values =>
      obtain rfl : Value.array values = v := by simpa [decode, all, Functor.map, Except.map] using h
      exact .plain (by simp) rfl
  | _ =>
    simp only [decode] at h
    exact decodeScalar_decoded h

end DbType

end SqlBinder

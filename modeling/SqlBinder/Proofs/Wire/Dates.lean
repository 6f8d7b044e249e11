import SqlBinder.Proofs.Calendar.Instants
import SqlBinder.Wire.Temporal

/-!
Date-times on the wire. Main statement: every date-time whose year the server has is encoded, and
what is read back is the same second, without a fraction for a DATE and with the digits that the
scale keeps for a TIMESTAMP.

Every field is within its byte, so it is read back as it was written; what is left is that the
fields read back are those of a day and of a time of day, which they were before.
-/
namespace SqlBinder

open Calendar

namespace Wire.Temporal

variable {dt : DateTime}

theorem toNat_byte {n : Nat} (h : n < 256) : (UInt8.ofNat n).toNat = n := by
  rw [UInt8.toNat_ofNat']
  omega

theorem lessOne_byte {n : Nat} (h : n < 255) : lessOne (UInt8.ofNat (n + 1)) = n := by
  have byte : (UInt8.ofNat (n + 1)).toNat = n + 1 := toNat_byte (by omega)
  have one : (1 : UInt8).toNat = 1 := rfl
  rw [lessOne, UInt8.toNat_sub, byte, one]
  omega

theorem ofBigEndian_bigEndian {n : Nat} (h : n < 4294967296) :
    ofBigEndian (bigEndian n) = n := by
  simp only [ofBigEndian, bigEndian, List.foldl_cons, List.foldl_nil, UInt8.toNat_ofNat',
    Nat.shiftRight_eq_div_pow]
  omega

/-- The fields of a date-time are read back from its bytes. -/
theorem ofFields_bytes (dt : DateTime) (range : YearInRange dt.date.year)
    (ordinary : dt.IsOrdinary) :
    ofFields (UInt8.ofNat (dt.date.year / 100 + 100).toNat)
      (UInt8.ofNat (dt.date.year % 100 + 100).toNat) (UInt8.ofNat dt.date.month)
      (UInt8.ofNat dt.date.day) (UInt8.ofNat (dt.hour + 1)) (UInt8.ofNat (dt.minute + 1))
      (UInt8.ofNat (dt.second + 1)) dt.nano = .ok dt := by
  obtain ⟨low, high, -⟩ := range
  obtain ⟨-, -, -, month, -, day⟩ := dt.date.isDay
  have days := daysInMonth_le dt.date.year dt.date.month
  obtain ⟨hour, minute, second, -⟩ := dt.isTime
  have century : (UInt8.ofNat (dt.date.year / 100 + 100).toNat).toNat =
      (dt.date.year / 100 + 100).toNat := toNat_byte (by omega)
  have ofCentury : (UInt8.ofNat (dt.date.year % 100 + 100).toNat).toNat =
      (dt.date.year % 100 + 100).toNat := toNat_byte (by omega)
  have year : (((dt.date.year / 100 + 100).toNat : Int) - 100) * 100 +
      ((dt.date.year % 100 + 100).toNat : Int) - 100 = dt.date.year := by
    omega
  simp only [ofFields, century, ofCentury, year, toNat_byte (show dt.date.month < 256 by omega),
    toNat_byte (show dt.date.day < 256 by omega), Date.ofFields?_eq,
    lessOne_byte (show dt.hour < 255 by omega), lessOne_byte (show dt.minute < 255 by omega),
    lessOne_byte (show dt.second < 255 by omega), if_pos (show dt.nano < billion from ordinary),
    DateTime.ofFields?_eq ordinary]
  rfl

/-- A DATE is read back without its fraction. -/
theorem decodeTimestamp_encodeDate (range : YearInRange dt.date.year) :
    encodeDate dt = .ok (dateBytes dt) ∧
      decodeTimestamp (dateBytes dt) = .ok (dt.truncate 0) := by
  refine ⟨if_pos range, ?_⟩
  have back := ofFields_bytes (dt.truncate 0) range (dt.isOrdinary_truncate 0)
  rwa [dt.truncate_zero_nano] at back

/-- A TIMESTAMP is read back with the digits of its fraction that the scale keeps. -/
theorem decodeTimestamp_encodeTimestamp (range : YearInRange dt.date.year) (scale : Nat) :
    ∃ bytes, encodeTimestamp dt scale = .ok bytes ∧
      decodeTimestamp bytes = .ok (dt.truncate scale) := by
  have ordinary := dt.isOrdinary_truncate scale
  have small : (dt.truncate scale).nano < 2 ^ 32 := Nat.lt_trans ordinary (by decide)
  refine ⟨dateBytes (dt.truncate scale) ++ bigEndian (dt.truncate scale).nano, ?_, ?_⟩
  · have date : encodeDate (dt.truncate scale) = .ok (dateBytes (dt.truncate scale)) :=
      if_pos range
    simp only [encodeTimestamp, date]
    rfl
  · have back := ofFields_bytes (dt.truncate scale) range ordinary
    rw [← ofBigEndian_bigEndian small] at back
    exact back

end Wire.Temporal

end SqlBinder

import SqlBinder.Proofs.Wire.Dates

/-!
What the bytes of dates stand for. Main statements: a date-time is encoded if the server has its
year, its fields go into bytes without wrapping, and what is read back is the same second with the
digits that the scale keeps; bytes are read if they name a day of the calendar and a time of day,
and what was read is written as the same bytes.
-/
namespace SqlBinder.Wire.Temporal

open Calendar

variable {dt : DateTime} {century year month day hour minute second a b c d : UInt8} {nano n : Nat}
  {fraction bytes : List UInt8}

/-! ## From fields to bytes -/

/-- The numbers that the bytes of a DATE hold. -/
def dateFields (dt : DateTime) : List Int :=
  [dt.date.year / 100 + 100, dt.date.year % 100 + 100, dt.date.month, dt.date.day, dt.hour + 1,
    dt.minute + 1, dt.second + 1]

theorem encodeDate_eq_ok_iff :
    encodeDate dt = .ok bytes ↔ YearInRange dt.date.year ∧ bytes = dateBytes dt := by
  unfold encodeDate
  by_cases range : YearInRange dt.date.year
  · simp [range, pure, Except.pure, eq_comm]
  · simp [range, throw]

theorem encodeTimestamp_eq_ok_iff {scale : Nat} :
    encodeTimestamp dt scale = .ok bytes ↔
      YearInRange dt.date.year ∧
        bytes = dateBytes (dt.truncate scale) ++ bigEndian (dt.truncate scale).nano := by
  have year : (dt.truncate scale).date.year = dt.date.year := rfl
  unfold encodeTimestamp encodeDate
  by_cases range : YearInRange dt.date.year
  · simp [year, range, pure, Except.pure, bind, Except.bind, eq_comm]
  · simp [year, range, throw, bind, Except.bind]

/-- The fields of a year in range fit their bytes. -/
theorem dateBytes_fields (range : YearInRange dt.date.year) :
    (dateBytes dt).map (fun b => (b.toNat : Int)) = dateFields dt := by
  obtain ⟨low, high, -⟩ := range
  obtain ⟨-, -, -, month, -, day⟩ := dt.date.isDay
  have days := daysInMonth_le dt.date.year dt.date.month
  obtain ⟨hour, minute, second, -⟩ := dt.isTime
  simp only [dateBytes, dateFields, List.map_cons, List.map_nil, UInt8.toNat_ofNat',
    List.cons.injEq, and_true]
  omega

/-- Seven bytes are read as a DATE as they are read as a TIMESTAMP without a fraction, and no
others are read. -/
theorem decodeDate_eq_ok_iff :
    decodeDate bytes = .ok dt ↔ bytes.length = 7 ∧ decodeTimestamp bytes = .ok dt := by
  unfold decodeDate
  split
  · simp [decodeTimestamp]
  · next other =>
    refine iff_of_false (by simp [throw]) fun ⟨seven, _⟩ => ?_
    match bytes, seven with
    | [century, year, month, day, hour, minute, second], _ => exact other _ _ _ _ _ _ _ rfl

/-- A date-time is encoded, as a DATE and as a TIMESTAMP of any scale, if and only if the server
has its year. The numbers in the bytes are its fields, none of which wraps, and what is read back
is the same second with the digits that are kept. -/
theorem encoded_iff_year_in_range (dt : DateTime) (scale : Nat) :
    ((∃ bytes, encodeTimestamp dt scale = .ok bytes) ↔ YearInRange dt.date.year) ∧
    ((∃ bytes, encodeDate dt = .ok bytes) ↔ YearInRange dt.date.year) ∧
    (∀ bytes, encodeTimestamp dt scale = .ok bytes →
      decodeTimestamp bytes = .ok (dt.truncate scale) ∧
      (bytes.take 7).map (fun b => (b.toNat : Int)) = dateFields dt ∧
      ofBigEndian (bytes.drop 7) = (dt.truncate scale).nano) ∧
    (∀ bytes, encodeDate dt = .ok bytes →
      decodeDate bytes = .ok (dt.truncate 0) ∧ decodeTimestamp bytes = .ok (dt.truncate 0) ∧
      bytes.map (fun b => (b.toNat : Int)) = dateFields dt) ∧
    (YearInRange dt.date.year →
      52 ≤ dt.date.year / 100 + 100 ∧ dt.date.year / 100 + 100 ≤ 199 ∧
      100 ≤ dt.date.year % 100 + 100 ∧ dt.date.year % 100 + 100 ≤ 199) := by
  refine ⟨⟨?_, ?_⟩, ⟨?_, ?_⟩, fun bytes encoded => ?_, fun bytes encoded => ?_, fun range => ?_⟩
  · exact fun ⟨bytes, encoded⟩ => (encodeTimestamp_eq_ok_iff.1 encoded).1
  · exact fun range => ⟨_, encodeTimestamp_eq_ok_iff.2 ⟨range, rfl⟩⟩
  · exact fun ⟨bytes, encoded⟩ => (encodeDate_eq_ok_iff.1 encoded).1
  · exact fun range => ⟨_, encodeDate_eq_ok_iff.2 ⟨range, rfl⟩⟩
  · obtain ⟨range, bytes_eq⟩ := encodeTimestamp_eq_ok_iff.1 encoded
    obtain ⟨bytes', encoded', decoded⟩ := decodeTimestamp_encodeTimestamp range scale
    obtain rfl : bytes = bytes' := Except.ok.inj (encoded.symm.trans encoded')
    have small : (dt.truncate scale).nano < 2 ^ 32 :=
      Nat.lt_trans (dt.isOrdinary_truncate scale) (by decide)
    refine ⟨decoded, ?_, ?_⟩
    · rw [bytes_eq]
      exact dateBytes_fields range
    · rw [bytes_eq]
      exact ofBigEndian_bigEndian small
  · obtain ⟨range, rfl⟩ := encodeDate_eq_ok_iff.1 encoded
    have decoded := (decodeTimestamp_encodeDate range).2
    exact ⟨decodeDate_eq_ok_iff.2 ⟨rfl, decoded⟩, decoded, dateBytes_fields range⟩
  · obtain ⟨low, high, -⟩ := range
    omega

/-- A leap second at the end of the first year that the server has. -/
def firstLeapSecond : DateTime := ⟨⟨-4712, 12, 31, by decide⟩, 23, 59, 59, 1999999999, by decide⟩

/-- A leap second that no minute ends with. -/
def leapWithinMinute : DateTime := ⟨⟨2024, 1, 15, by decide⟩, 23, 56, 4, 1333333333, by decide⟩

/-- Three digits of a leap second are written, and it is read back as the second it extends, be
that the last of a minute or not. -/
theorem first_leap_second_encoded :
    (encodeTimestamp firstLeapSecond 3 = .ok [52, 188, 12, 31, 24, 60, 60, 59, 139, 135, 192] ∧
      decodeTimestamp [52, 188, 12, 31, 24, 60, 60, 59, 139, 135, 192] =
        .ok (firstLeapSecond.truncate 3) ∧
      (firstLeapSecond.truncate 3).nano = 999000000) ∧
    encodeTimestamp leapWithinMinute 3 = .ok [120, 124, 1, 15, 24, 57, 5, 19, 217, 45, 64] ∧
      decodeTimestamp [120, 124, 1, 15, 24, 57, 5, 19, 217, 45, 64] =
        .ok (leapWithinMinute.truncate 3) ∧
      (leapWithinMinute.truncate 3).nano = 333000000 := by
  have last : encodeTimestamp firstLeapSecond 3 =
      .ok [52, 188, 12, 31, 24, 60, 60, 59, 139, 135, 192] :=
    encodeTimestamp_eq_ok_iff.2 (by decide +kernel)
  have within : encodeTimestamp leapWithinMinute 3 =
      .ok [120, 124, 1, 15, 24, 57, 5, 19, 217, 45, 64] :=
    encodeTimestamp_eq_ok_iff.2 (by decide +kernel)
  refine ⟨⟨last, ?_, by decide +kernel⟩, within, ?_, by decide +kernel⟩
  · exact ((encoded_iff_year_in_range firstLeapSecond 3).2.2.1 _ last).1
  · exact ((encoded_iff_year_in_range leapWithinMinute 3).2.2.1 _ within).1

/-! ## From bytes to fields -/

/-- The year that the first two bytes stand for. -/
def fullYear (century year : UInt8) : Int := ((century.toNat : Int) - 100) * 100 + year.toNat - 100

/-- The bytes name a day of the calendar and a time of day. -/
structure Names (century year month day hour minute second : UInt8) (fraction : List UInt8) :
    Prop where
  month_in_year : 1 ≤ month.toNat ∧ month.toNat ≤ 12
  day_in_month : 1 ≤ day.toNat ∧ day.toNat ≤ daysInMonth (fullYear century year) month.toNat
  hour_in_day : 1 ≤ hour.toNat ∧ hour.toNat ≤ 24
  minute_in_hour : 1 ≤ minute.toNat ∧ minute.toNat ≤ 60
  second_in_minute : 1 ≤ second.toNat ∧ second.toNat ≤ 60
  fraction_bytes : fraction.length = 0 ∨ fraction.length = 4
  fraction_of_second : ofBigEndian fraction < billion

theorem lessOne_lt_iff (bound : n < 256) : lessOne a < n ↔ 1 ≤ a.toNat ∧ a.toNat ≤ n := by
  have one : (1 : UInt8).toNat = 1 := rfl
  have byte := a.toNat_lt
  rw [lessOne, UInt8.toNat_sub, one]
  omega

/-- A byte from 1 on is one more than its field. -/
theorem byte_of_lessOne (positive : 1 ≤ a.toNat) : UInt8.ofNat (lessOne a + 1) = a := by
  have one : (1 : UInt8).toNat = 1 := rfl
  have byte := a.toNat_lt
  rw [← UInt8.toNat_inj, UInt8.toNat_ofNat', lessOne, UInt8.toNat_sub, one]
  omega

theorem bigEndian_ofBigEndian (a b c d : UInt8) :
    bigEndian (ofBigEndian [a, b, c, d]) = [a, b, c, d] := by
  have := a.toNat_lt
  have := b.toNat_lt
  have := c.toNat_lt
  have := d.toNat_lt
  simp only [ofBigEndian, bigEndian, List.foldl_cons, List.foldl_nil, List.cons.injEq, and_true,
    ← UInt8.toNat_inj, UInt8.toNat_ofNat', Nat.shiftRight_eq_div_pow]
  omega

/-- The fields of a date-time are those of the bytes that it is read from. -/
structure ReadFrom (dt : DateTime) (century year month day hour minute second : UInt8)
    (nano : Nat) : Prop where
  year_eq : dt.date.year = fullYear century year
  month_eq : dt.date.month = month.toNat
  day_eq : dt.date.day = day.toNat
  hour_eq : dt.hour = lessOne hour
  minute_eq : dt.minute = lessOne minute
  second_eq : dt.second = lessOne second
  nano_eq : dt.nano = nano
  ordinary : nano < billion

theorem ofFields_eq_ok_iff :
    ofFields century year month day hour minute second nano = .ok dt ↔
      nano < billion ∧ ∃ date,
        Date.ofFields? (fullYear century year) month.toNat day.toNat = some date ∧
        DateTime.ofFields? date (lessOne hour) (lessOne minute) (lessOne second) nano =
          some dt := by
  rw [ofFields, ← fullYear]
  cases Date.ofFields? (fullYear century year) month.toNat day.toNat with
  | none => simp [throw]
  | some date =>
    by_cases ordinary : nano < billion
    · cases found :
          DateTime.ofFields? date (lessOne hour) (lessOne minute) (lessOne second) nano <;>
        simp [ordinary, found, throw, pure, Except.pure]
    · simp [ordinary, throw]

theorem readFrom_of_ofFields
    (read : ofFields century year month day hour minute second nano = .ok dt) :
    ReadFrom dt century year month day hour minute second nano := by
  obtain ⟨ordinary, date, day, time⟩ := ofFields_eq_ok_iff.1 read
  obtain ⟨year_eq, month_eq, day_eq⟩ := Date.ofFields?_eq_some day
  obtain ⟨rfl, hour_eq, minute_eq, second_eq, nano_eq⟩ := DateTime.ofFields?_eq_some time
  exact ⟨year_eq, month_eq, day_eq, hour_eq, minute_eq, second_eq, nano_eq, ordinary⟩

/-- Bytes that name a day and a time are read. -/
theorem Names.ofFields (names : Names century year month day hour minute second fraction) :
    ∃ dt, ofFields century year month day hour minute second (ofBigEndian fraction) = .ok dt := by
  have supported : minYear ≤ fullYear century year ∧ fullYear century year ≤ maxYear := by
    have := century.toNat_lt
    have := year.toNat_lt
    unfold minYear maxYear fullYear
    omega
  have isDay : IsDay (fullYear century year) month.toNat day.toNat :=
    ⟨supported.1, supported.2, names.month_in_year.1, names.month_in_year.2, names.day_in_month.1,
      names.day_in_month.2⟩
  have below := names.fraction_of_second
  have isTime : IsTime (lessOne hour) (lessOne minute) (lessOne second) (ofBigEndian fraction) :=
    ⟨(lessOne_lt_iff (by decide)).2 names.hour_in_day,
      (lessOne_lt_iff (by decide)).2 names.minute_in_hour,
      (lessOne_lt_iff (by decide)).2 names.second_in_minute, by omega⟩
  exact ⟨_, ofFields_eq_ok_iff.2 ⟨below, _, dif_pos isDay, dif_pos ⟨isTime, by omega⟩⟩⟩

/-- A date-time that was read shows that the bytes name a day and a time. -/
theorem ReadFrom.names
    (read : ReadFrom dt century year month day hour minute second (ofBigEndian fraction))
    (length : fraction.length = 0 ∨ fraction.length = 4) :
    Names century year month day hour minute second fraction := by
  obtain ⟨-, -, first, last, low, high⟩ := dt.date.isDay
  obtain ⟨hour, minute, second, -⟩ := dt.isTime
  rw [read.month_eq] at first last high
  rw [read.day_eq] at low high
  rw [read.year_eq] at high
  rw [read.hour_eq, lessOne_lt_iff (by decide)] at hour
  rw [read.minute_eq, lessOne_lt_iff (by decide)] at minute
  rw [read.second_eq, lessOne_lt_iff (by decide)] at second
  exact ⟨⟨first, last⟩, ⟨low, high⟩, hour, minute, second, length, read.ordinary⟩

/-- A year byte from 100 to 199 and its century byte are those of their year. -/
theorem year_bytes (century : UInt8) (low : 100 ≤ year.toNat) (high : year.toNat ≤ 199) :
    UInt8.ofNat (fullYear century year / 100 + 100).toNat = century ∧
      UInt8.ofNat (fullYear century year % 100 + 100).toNat = year := by
  have := century.toNat_lt
  simp only [fullYear, ← UInt8.toNat_inj, UInt8.toNat_ofNat']
  omega

theorem ReadFrom.dateBytes_eq (read : ReadFrom dt century year month day hour minute second nano)
    (names : Names century year month day hour minute second fraction)
    (low : 100 ≤ year.toNat) (high : year.toNat ≤ 199) :
    dateBytes dt = [century, year, month, day, hour, minute, second] := by
  obtain ⟨century_eq, year_eq⟩ := year_bytes century low high
  rw [dateBytes, read.year_eq, century_eq, year_eq, read.month_eq, read.day_eq, read.hour_eq,
    read.minute_eq, read.second_eq, UInt8.ofNat_toNat, UInt8.ofNat_toNat,
    byte_of_lessOne names.hour_in_day.1, byte_of_lessOne names.minute_in_hour.1,
    byte_of_lessOne names.second_in_minute.1]

/-- What is read as a TIMESTAMP has seven bytes and a fraction of four or none. -/
theorem decodeTimestamp_eq_ok_iff :
    decodeTimestamp bytes = .ok dt ↔
      ∃ century year month day hour minute second fraction,
        bytes = [century, year, month, day, hour, minute, second] ++ fraction ∧
        (fraction.length = 0 ∨ fraction.length = 4) ∧
        ofFields century year month day hour minute second (ofBigEndian fraction) = .ok dt := by
  constructor
  · intro read
    unfold decodeTimestamp at read
    split at read
    · exact ⟨_, _, _, _, _, _, _, [], rfl, .inl rfl, read⟩
    · exact ⟨_, _, _, _, _, _, _, [_, _, _, _], rfl, .inr rfl, read⟩
    · cases read
  · rintro ⟨_, _, _, _, _, _, _, fraction, rfl, lengths, read⟩
    match fraction, lengths with
    | [], _ => exact read
    | [_, _, _, _], _ => exact read

/-- A date-time that was read with a year byte from 100 to 199 is written as the same bytes, with
a fraction of zeros if there was none. -/
theorem encodeTimestamp_of_ofFields
    (read : ofFields century year month day hour minute second (ofBigEndian fraction) = .ok dt)
    (lengths : fraction.length = 0 ∨ fraction.length = 4) (low : 100 ≤ year.toNat)
    (high : year.toNat ≤ 199) (range : YearInRange dt.date.year) :
    encodeTimestamp dt 9 =
      .ok ([century, year, month, day, hour, minute, second] ++
        bigEndian (ofBigEndian fraction)) := by
  have from_bytes := readFrom_of_ofFields read
  have names := from_bytes.names lengths
  have ordinary : dt.IsOrdinary := by
    rw [DateTime.IsOrdinary, from_bytes.nano_eq]
    exact from_bytes.ordinary
  refine encodeTimestamp_eq_ok_iff.2 ⟨range, ?_⟩
  rw [DateTime.truncate_nine ordinary, from_bytes.dateBytes_eq names low high, from_bytes.nano_eq]

/-- Bytes are read as a TIMESTAMP if and only if there are seven or eleven of them and they name a
day of the calendar and a time of day; as a DATE the seven bytes among these are read, as the same
date-time. If the year byte is one of 100 to 199 and the server has the year, what was read is
written as the same bytes, with a fraction of zeros if there was none. -/
theorem decoded_iff_names (bytes : List UInt8) :
    ((∃ dt, decodeTimestamp bytes = .ok dt) ↔
      ∃ century year month day hour minute second fraction,
        bytes = [century, year, month, day, hour, minute, second] ++ fraction ∧
        Names century year month day hour minute second fraction) ∧
    (∀ dt, decodeDate bytes = .ok dt ↔ bytes.length = 7 ∧ decodeTimestamp bytes = .ok dt) ∧
    (∀ dt, decodeTimestamp bytes = .ok dt →
      (∀ year, bytes[1]? = some year → 100 ≤ year.toNat ∧ year.toNat ≤ 199) →
      YearInRange dt.date.year →
      encodeTimestamp dt 9 = .ok (if bytes.length = 7 then bytes ++ [0, 0, 0, 0] else bytes)) := by
  refine ⟨⟨?_, ?_⟩, fun dt => decodeDate_eq_ok_iff, fun dt read year_byte range => ?_⟩
  · rintro ⟨dt, read⟩
    obtain ⟨_, _, _, _, _, _, _, fraction, bytes_eq, lengths, read⟩ :=
      decodeTimestamp_eq_ok_iff.1 read
    exact ⟨_, _, _, _, _, _, _, fraction, bytes_eq, (readFrom_of_ofFields read).names lengths⟩
  · rintro ⟨_, _, _, _, _, _, _, fraction, bytes_eq, names⟩
    obtain ⟨dt, read⟩ := names.ofFields
    exact ⟨dt, decodeTimestamp_eq_ok_iff.2
      ⟨_, _, _, _, _, _, _, fraction, bytes_eq, names.fraction_bytes, read⟩⟩
  · obtain ⟨_, year, _, _, _, _, _, fraction, rfl, lengths, read⟩ :=
      decodeTimestamp_eq_ok_iff.1 read
    obtain ⟨low, high⟩ := year_byte year rfl
    rw [encodeTimestamp_of_ofFields read lengths low high range]
    match fraction, lengths with
    | [], _ => rfl
    | [a, b, c, d], _ =>
      rw [bigEndian_ofBigEndian]
      rfl

/-- Seven bytes for a leap day are read, and written with a fraction of zeros. -/
theorem leap_day_decoded :
    ∃ dt, decodeTimestamp [120, 124, 2, 29, 24, 60, 1] = .ok dt ∧ YearInRange dt.date.year ∧
      encodeTimestamp dt 9 = .ok [120, 124, 2, 29, 24, 60, 1, 0, 0, 0, 0] := by
  obtain ⟨read_iff, -, written⟩ := decoded_iff_names [120, 124, 2, 29, 24, 60, 1]
  have names : Names 120 124 2 29 24 60 1 [] :=
    ⟨by decide, by decide, by decide, by decide, by decide, .inl rfl, by decide⟩
  obtain ⟨dt, read⟩ := read_iff.2 ⟨_, _, _, _, _, _, _, [], rfl, names⟩
  have from_bytes : ReadFrom dt 120 124 2 29 24 60 1 0 := readFrom_of_ofFields read
  have range : YearInRange dt.date.year := by
    rw [from_bytes.year_eq]
    decide
  exact ⟨dt, read, range, written dt read (fun year same => by cases same; decide) range⟩

end SqlBinder.Wire.Temporal

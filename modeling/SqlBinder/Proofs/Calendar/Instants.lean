import SqlBinder.Calendar.DateTime
import SqlBinder.Proofs.Calendar.Days

/-!
Date-times and their instants. Main statement: an instant stands for one date-time outside leap
seconds, provided that its day has a supported year, and every such date-time has its instant.

An instant is cut into the number of its day and the nanoseconds since midnight by one division, and
each part is found by itself. Leap seconds have to be left out: their instants are those of the
second behind them.
-/
namespace SqlBinder.Calendar.DateTime

variable {dt : DateTime} {date : Date} {hour minute second nano n : Nat} {instant : Int}

theorem dayNanos_eq : dayNanos = 86400000000000 := rfl

/-- Outside leap seconds a date-time is found by its fields. -/
theorem ofFields?_eq (ordinary : dt.IsOrdinary) :
    ofFields? dt.date dt.hour dt.minute dt.second dt.nano = some dt :=
  dif_pos ⟨dt.isTime, fun leap => absurd ordinary (Nat.not_lt.2 leap)⟩

theorem ofFields?_eq_some (found : ofFields? date hour minute second nano = some dt) :
    dt.date = date ∧ dt.hour = hour ∧ dt.minute = minute ∧ dt.second = second ∧ dt.nano = nano := by
  unfold ofFields? at found
  split at found
  · cases found
    exact ⟨rfl, rfl, rfl, rfl, rfl⟩
  · cases found

/-! ## Times of day -/

/-- Nanoseconds since midnight. -/
def nanos (dt : DateTime) : Nat := ((dt.hour * 60 + dt.minute) * 60 + dt.second) * billion + dt.nano

/-- The time of day at so many nanoseconds since midnight. -/
def atNanos? (n : Nat) (date : Date) : Option DateTime :=
  ofFields? date (n / billion / 3600) (n / billion / 60 % 60) (n / billion % 60) (n % billion)

/-- Outside leap seconds the time of day is within the day. -/
theorem nanos_lt (ordinary : dt.IsOrdinary) : dt.nanos < dayNanos := by
  obtain ⟨hour, minute, second, -⟩ := dt.isTime
  unfold IsOrdinary at ordinary
  simp only [nanos, dayNanos, billion] at *
  omega

theorem atNanos?_nanos (ordinary : dt.IsOrdinary) : atNanos? dt.nanos dt.date = some dt := by
  obtain ⟨hour, minute, second, -⟩ := dt.isTime
  have seconds : dt.nanos / billion = (dt.hour * 60 + dt.minute) * 60 + dt.second := by
    rw [nanos, Nat.add_comm, Nat.add_mul_div_right _ _ (by decide), Nat.div_eq_of_lt ordinary,
      Nat.zero_add]
  have fraction : dt.nanos % billion = dt.nano := by
    rw [nanos, Nat.add_comm, Nat.add_mul_mod_self_right, Nat.mod_eq_of_lt ordinary]
  rw [atNanos?, seconds, fraction, ← ofFields?_eq ordinary]
  congr 1 <;> omega

theorem atNanos?_eq_some (found : atNanos? n date = some dt) :
    dt.date = date ∧ dt.nanos = n ∧ dt.IsOrdinary := by
  obtain ⟨day, hour, minute, second, nano⟩ := ofFields?_eq_some found
  have seconds : (n / billion / 3600 * 60 + n / billion / 60 % 60) * 60 + n / billion % 60 =
      n / billion := by
    omega
  refine ⟨day, ?_, ?_⟩
  · rw [nanos, hour, minute, second, nano, seconds, Nat.div_add_mod']
  · rw [IsOrdinary, nano]
    exact Nat.mod_lt _ (by decide)

/-! ## Instants -/

theorem instant_eq (dt : DateTime) : dt.instant = dt.date.number * dayNanos + dt.nanos := rfl

theorem ofInstant?_eq (instant : Int) :
    ofInstant? instant =
      (Date.ofNumber? (instant / dayNanos)).bind (atNanos? (instant % dayNanos).toNat) :=
  rfl

/-- A date-time outside leap seconds is found by its instant, and by no other one. -/
theorem ofInstant?_eq_some_iff :
    ofInstant? instant = some dt ↔ dt.IsOrdinary ∧ dt.instant = instant := by
  rw [ofInstant?_eq]
  constructor
  · intro some
    obtain ⟨date, day, time⟩ := Option.bind_eq_some_iff.1 some
    obtain ⟨rfl, nanos, ordinary⟩ := atNanos?_eq_some time
    have positive : (dayNanos : Int) ≠ 0 := by decide
    rw [instant_eq, Date.ofNumber?_eq_some_iff.1 day, nanos,
      Int.toNat_of_nonneg (Int.emod_nonneg instant positive), Int.mul_comm]
    exact ⟨ordinary, Int.mul_ediv_add_emod instant dayNanos⟩
  · rintro ⟨ordinary, rfl⟩
    have within := nanos_lt ordinary
    rw [dayNanos_eq] at within
    have day : dt.instant / dayNanos = dt.date.number := by
      rw [instant_eq, dayNanos_eq]
      omega
    have rest : (dt.instant % dayNanos).toNat = dt.nanos := by
      rw [instant_eq, dayNanos_eq]
      omega
    rw [day, rest, Date.ofNumber?_eq_some_iff.2 rfl, Option.bind_some, atNanos?_nanos ordinary]

/-! ## Fractions of a second -/

section Truncation

variable (dt : DateTime) (scale : Nat)

/-- What is left of a fraction is below a second, also within a leap second. -/
theorem isOrdinary_truncate : (dt.truncate scale).IsOrdinary :=
  Nat.lt_of_le_of_lt (Nat.sub_le _ _) (Nat.mod_lt _ (by decide))

theorem truncate_zero_nano : (dt.truncate 0).nano = 0 := by
  have whole : dt.subsecond % tenTo 9 = dt.subsecond := Nat.mod_mod _ _
  simp [truncate, whole]

variable {dt} in
/-- Nine digits are all that there are outside leap seconds. -/
theorem truncate_nine (ordinary : dt.IsOrdinary) : dt.truncate 9 = dt := by
  have fraction : dt.subsecond - dt.subsecond % tenTo (9 - min 9 9) = dt.nano := by
    show dt.subsecond - dt.subsecond % 1 = dt.nano
    rw [Nat.mod_one, Nat.sub_zero, subsecond, Nat.mod_eq_of_lt ordinary]
  simp only [truncate, fraction]

end Truncation

end SqlBinder.Calendar.DateTime

import SqlBinder.Calendar.Parts
import SqlBinder.Proofs.Calendar.Instants

/-!
Calendar fields that roll over. Fields stand for an instant, whatever their size: the first of the
month that year and month name, and as much time behind it as the other fields say. Main statement:
fields in range are left alone, an amount may be given in one field or carried over to the next,
and larger fields come to a later instant.
-/
namespace SqlBinder.Calendar

/-! ## Months counted on -/

/-- Days in front of a month, by the months since January of year 0. -/
def daysBeforeMonths (months : Int) : Int :=
  daysBeforeYear (months / 12) + daysBeforeMonth (months / 12) ((months % 12).toNat + 1)

/-- The next month begins where a month ends. -/
theorem daysBeforeMonths_succ (months : Int) :
    daysBeforeMonths (months + 1) =
      daysBeforeMonths months + daysInMonth (months / 12) ((months % 12).toNat + 1) := by
  unfold daysBeforeMonths
  have low := Int.emod_nonneg months (show (12 : Int) ≠ 0 by decide)
  have succ := daysBeforeMonth_succ (months / 12) (show 1 ≤ (months % 12).toNat + 1 by omega)
  by_cases december : months % 12 = 11
  · have year : (months + 1) / 12 = months / 12 + 1 := by omega
    have month : ((months + 1) % 12).toNat + 1 = 1 := by omega
    have first : daysBeforeMonth (months / 12 + 1) 1 = 0 := rfl
    have last : (months % 12).toNat + 1 = 12 := by omega
    rw [last] at succ ⊢
    rw [daysBeforeMonth_year] at succ
    rw [year, month, first, daysBeforeYear_succ]
    omega
  · have year : (months + 1) / 12 = months / 12 := by omega
    have month : ((months + 1) % 12).toNat = (months % 12).toNat + 1 := by omega
    rw [year, month, succ]
    omega

/-- A later month begins later. -/
theorem daysBeforeMonths_lt (months : Int) (more : Nat) :
    daysBeforeMonths months < daysBeforeMonths (months + more + 1) := by
  have length (months : Int) := daysInMonth_pos (months / 12) ((months % 12).toNat + 1)
  rw [daysBeforeMonths_succ]
  induction more with
  | zero =>
    have here := length months
    rw [Int.natCast_zero, Int.add_zero]
    omega
  | succ more ih =>
    have last := length (months + more + 1)
    rw [Int.natCast_succ, ← Int.add_assoc, daysBeforeMonths_succ]
    omega

namespace Parts

variable {p q : Parts} {dt dt' first : DateTime}

/-! ## The instant of fields -/

/-- The instant that fields stand for, in any year. -/
def instant (p : Parts) : Int := daysBeforeMonths p.months * dayNanos + p.offset

/-- The first of the month is there if its year is supported. -/
theorem isSome_firstOfMonth?_iff :
    p.firstOfMonth?.isSome ↔ minYear ≤ p.months / 12 ∧ p.months / 12 ≤ maxYear := by
  have low := Int.emod_nonneg p.months (show (12 : Int) ≠ 0 by decide)
  have positive := daysInMonth_pos (p.months / 12) ((p.months % 12).toNat + 1)
  have midnight : NamesTime 0 0 0 0 := by decide
  unfold firstOfMonth? Date.ofFields?
  split
  · next day =>
    simp only [Option.bind_some, DateTime.ofFields?, dif_pos midnight, Option.isSome_some, true_iff]
    exact ⟨day.1, day.2.1⟩
  · next none =>
    simp only [Option.bind_none, Option.isSome_none, Bool.false_eq_true, false_iff]
    rintro ⟨first, last⟩
    exact none ⟨first, last, by omega, by omega, Nat.le_refl 1, positive⟩

theorem firstOfMonth?_eq_some (found : p.firstOfMonth? = some first) :
    first.date.year = p.months / 12 ∧ first.date.month = (p.months % 12).toNat + 1 ∧
      first.instant = daysBeforeMonths p.months * dayNanos := by
  obtain ⟨date, day, midnight⟩ := Option.bind_eq_some_iff.1 found
  obtain ⟨rfl, hour, minute, second, nano⟩ := DateTime.ofFields?_eq_some midnight
  obtain ⟨year, month, day⟩ := Date.ofFields?_eq_some day
  refine ⟨year, month, ?_⟩
  simp [DateTime.instant_eq, DateTime.nanos, Date.number, daysBeforeMonths, *]

/-- Fields that roll to a date-time stand for its instant. -/
theorem normalize_eq_ok_iff :
    p.normalize = .ok dt ↔
      p.firstOfMonth?.isSome ∧ dt.IsOrdinary ∧ dt.instant = p.instant := by
  unfold normalize
  cases month : p.firstOfMonth? with
  | none => simp
  | some first =>
    rw [← DateTime.ofInstant?_eq_some_iff, instant, ← (firstOfMonth?_eq_some month).2.2]
    dsimp only
    cases DateTime.ofInstant? (first.instant + p.offset) <;> simp [throw, pure, Except.pure]

/-- Why fields that roll nowhere are refused. -/
def refusal (p : Parts) : String :=
  if p.firstOfMonth?.isSome then "date out of range: " else "year out of range: "

/-- Fields that roll nowhere are refused. -/
theorem normalize_cases (p : Parts) :
    (∃ dt, p.normalize = .ok dt) ∨
      p.normalize = .error (.invalidTemporal (p.refusal ++ p.describe)) := by
  unfold normalize refusal
  cases p.firstOfMonth? with
  | none => exact .inr rfl
  | some first =>
    dsimp only
    cases DateTime.ofInstant? (first.instant + p.offset) with
    | none => exact .inr rfl
    | some dt => exact .inl ⟨dt, rfl⟩

/-! ## Carries -/

/-- Fields come to the same date-time, or both are refused, in the same words but for the fields
themselves. -/
inductive Agree (p q : Parts) : Prop where
  | rolled (dt : DateTime) (here : p.normalize = .ok dt) (there : q.normalize = .ok dt)
  | refused (words : String)
      (here : p.normalize = .error (.invalidTemporal (words ++ p.describe)))
      (there : q.normalize = .error (.invalidTemporal (words ++ q.describe)))

/-- Fields agree that stand for the same instant, with months that are both supported or both
not. -/
theorem agree_of_instant (months : p.firstOfMonth?.isSome ↔ q.firstOfMonth?.isSome)
    (instant : p.instant = q.instant) : Agree p q := by
  have same (dt : DateTime) : p.normalize = .ok dt ↔ q.normalize = .ok dt := by
    rw [normalize_eq_ok_iff, normalize_eq_ok_iff, months, instant]
  have words : p.refusal = q.refusal := by simp only [refusal, months]
  rcases p.normalize_cases with ⟨dt, ok⟩ | refused
  · exact .rolled dt ok ((same dt).1 ok)
  · rcases q.normalize_cases with ⟨dt, ok⟩ | refused'
    · cases refused.symm.trans ((same dt).2 ok)
    · exact .refused p.refusal refused (words ▸ refused')

/-- The same fields but for an amount that was carried over to the next larger field. -/
inductive Carry : Parts → Parts → Prop where
  | months (p : Parts) : Carry { p with month := p.month + 12 } { p with year := p.year + 1 }
  | hours (p : Parts) : Carry { p with hour := p.hour + 24 } { p with day := p.day + 1 }
  | minutes (p : Parts) : Carry { p with minute := p.minute + 60 } { p with hour := p.hour + 1 }
  | seconds (p : Parts) : Carry { p with second := p.second + 60 } { p with minute := p.minute + 1 }
  | nanoseconds (p : Parts) :
    Carry { p with nanosecond := p.nanosecond + billion } { p with second := p.second + 1 }
  /-- The days of a month behind which there are more; both months have a supported year. -/
  | days {p : Parts} {first : DateTime} (month : p.firstOfMonth? = some first)
      (next : { p with month := p.month + 1 }.firstOfMonth?.isSome)
      (more : daysInMonth first.date.year first.date.month < p.day) :
    Carry p { p with
      month := p.month + 1
      day := p.day - daysInMonth first.date.year first.date.month }

/-- Twelve months are a year. -/
theorem months_next_year (p : Parts) :
    Parts.months { p with month := p.month + 12 } = Parts.months { p with year := p.year + 1 } := by
  simp only [Parts.months]
  omega

namespace Carry

theorem months_supported (carry : Carry p q) :
    p.firstOfMonth?.isSome ↔ q.firstOfMonth?.isSome := by
  rw [isSome_firstOfMonth?_iff, isSome_firstOfMonth?_iff]
  cases carry with
  | months p =>
    rw [months_next_year]
  | hours p | minutes p | seconds p | nanoseconds p => exact Iff.rfl
  | days month next more =>
    have here : p.firstOfMonth?.isSome := by simp [month]
    exact iff_of_true (isSome_firstOfMonth?_iff.1 here) (isSome_firstOfMonth?_iff.1 next)

theorem instant_eq (carry : Carry p q) : p.instant = q.instant := by
  cases carry with
  | months p =>
    simp only [instant, months_next_year, offset]
  | hours p | minutes p | seconds p | nanoseconds p =>
    simp only [instant, Parts.months, offset, billion]
    omega
  | @days _ first month next more =>
    obtain ⟨year, month, -⟩ := firstOfMonth?_eq_some month
    have succ : Parts.months { p with
        month := p.month + 1
        day := p.day - daysInMonth first.date.year first.date.month } = p.months + 1 := by
      simp only [Parts.months]
      omega
    simp only [instant, succ, daysBeforeMonths_succ, offset, ← year, ← month, DateTime.dayNanos_eq,
      billion]
    omega

end Carry

/-! ## Larger fields -/

/-- No field is smaller, and some field is larger. -/
structure Less (p q : Parts) : Prop where
  year : p.year ≤ q.year
  month : p.month ≤ q.month
  day : p.day ≤ q.day
  hour : p.hour ≤ q.hour
  minute : p.minute ≤ q.minute
  second : p.second ≤ q.second
  nanosecond : p.nanosecond ≤ q.nanosecond
  different : p ≠ q

namespace Less

theorem months_le (less : Less p q) : p.months ≤ q.months := by
  have year := less.year
  have month := less.month
  simp only [Parts.months]
  omega

theorem offset_le (less : Less p q) : p.offset ≤ q.offset := by
  obtain ⟨-, -, day, hour, minute, second, nanosecond, -⟩ := less
  simp only [offset, billion]
  omega

/-- Within a month some field behind it is larger. -/
theorem offset_lt (less : Less p q) (month : p.months = q.months) : p.offset < q.offset := by
  obtain ⟨year, months, day, hour, minute, second, nanosecond, different⟩ := less
  obtain ⟨y, mo, d, h, mi, s, n⟩ := p
  obtain ⟨y', mo', d', h', mi', s', n'⟩ := q
  simp only [Parts.months, offset, billion, ne_eq, mk.injEq] at *
  omega

theorem instant_lt (less : Less p q) : p.instant < q.instant := by
  have offsets := less.offset_le
  have positive : (0 : Int) < dayNanos := by decide
  rcases Int.lt_or_eq_of_le less.months_le with earlier | same
  · obtain ⟨more, last⟩ := Int.le.dest earlier
    have days := daysBeforeMonths_lt p.months more
    rw [show p.months + more + 1 = q.months by omega] at days
    have nanos := Int.mul_lt_mul_of_pos_right days positive
    unfold instant
    omega
  · have later := less.offset_lt same
    unfold instant
    rw [same]
    omega

end Less

end Parts

/-- The fields of a date-time. -/
def DateTime.parts (dt : DateTime) : Parts :=
  ⟨dt.date.year, dt.date.month, dt.date.day, dt.hour, dt.minute, dt.second, dt.nano⟩

namespace DateTime

variable (dt : DateTime)

/-- A month in range is that month of that year. -/
theorem months_parts :
    dt.parts.months / 12 = dt.date.year ∧ (dt.parts.months % 12).toNat + 1 = dt.date.month := by
  obtain ⟨-, -, first, last, -, -⟩ := dt.date.isDay
  simp only [Parts.months, parts]
  omega

theorem isSome_firstOfMonth?_parts : dt.parts.firstOfMonth?.isSome := by
  rw [Parts.isSome_firstOfMonth?_iff, dt.months_parts.1]
  exact ⟨dt.date.isDay.1, dt.date.isDay.2.1⟩

theorem instant_parts : dt.parts.instant = dt.instant := by
  obtain ⟨year, month⟩ := dt.months_parts
  rw [Parts.instant, daysBeforeMonths, year, month, instant_eq, Date.number, nanos, dayNanos_eq]
  simp only [Parts.offset, parts, billion]
  omega

end DateTime

namespace Parts

/-- Fields that are in range are left alone. An amount that is carried over to the next larger
field, or from a month to the next, comes to the same date-time, or is refused likewise. Larger
fields come to a later instant. -/
theorem normalize_rolls_forward :
    (∀ dt : DateTime, dt.IsOrdinary → dt.parts.normalize = .ok dt) ∧
    (∀ p q, Carry p q → Agree p q) ∧
    (∀ p q dt dt', Less p q → p.normalize = .ok dt → q.normalize = .ok dt' →
      dt.instant < dt'.instant) := by
  refine ⟨fun dt ordinary => ?_, fun p q carry => ?_, fun p q dt dt' less here there => ?_⟩
  · exact normalize_eq_ok_iff.2 ⟨dt.isSome_firstOfMonth?_parts, ordinary, dt.instant_parts.symm⟩
  · exact agree_of_instant carry.months_supported carry.instant_eq
  · rw [(normalize_eq_ok_iff.1 here).2.2, (normalize_eq_ok_iff.1 there).2.2]
    exact less.instant_lt

/-- Midnight of the leap day of 2016. -/
def leapDay : DateTime := ⟨⟨2016, 2, 29, by decide⟩, 0, 0, 0, 0, by decide⟩

/-- Midnight behind the leap day of 2016. -/
def marchFirst : DateTime := ⟨⟨2016, 3, 1, by decide⟩, 0, 0, 0, 0, by decide⟩

/-- Day 30 of February 2016 is 1 March, which is later than day 29. -/
theorem thirtieth_of_february_rolls :
    Parts.normalize ⟨2016, 2, 30, 0, 0, 0, 0⟩ = .ok marchFirst ∧
      leapDay.instant < marchFirst.instant := by
  obtain ⟨kept, carried, later⟩ := normalize_rolls_forward
  have rolls : Parts.normalize ⟨2016, 2, 30, 0, 0, 0, 0⟩ = .ok marchFirst := by
    have month : Parts.firstOfMonth? ⟨2016, 2, 30, 0, 0, 0, 0⟩ =
        some ⟨⟨2016, 2, 1, by decide⟩, 0, 0, 0, 0, by decide⟩ := by decide +kernel
    have carry : Carry ⟨2016, 2, 30, 0, 0, 0, 0⟩ marchFirst.parts :=
      .days month (by decide +kernel) (by decide)
    have stays := kept marchFirst (by decide)
    cases carried _ _ carry with
    | rolled dt here there => rw [here, ← there, stays]
    | refused words here there => cases there.symm.trans stays
  have less : Less leapDay.parts ⟨2016, 2, 30, 0, 0, 0, 0⟩ :=
    ⟨by decide, by decide, by decide, by decide, by decide, by decide, by decide, by decide⟩
  exact ⟨rolls, later _ _ _ _ less (kept leapDay (by decide)) rolls⟩

end Parts

end SqlBinder.Calendar

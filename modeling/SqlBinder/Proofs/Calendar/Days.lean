import SqlBinder.Calendar.Date

/-!
Days and their numbers. Years and months follow one another without gaps, so a day number falls in
one year and there in one month, and later days have larger numbers. Main statement: the dates and
the numbers of the days in supported years correspond one to one.

A date is a day of its year, and years and the months in them are laid end to end; so two dates in
calendar order have their numbers in that order, and a number is counted back to a year, to a month
and to a day in only one way.
-/
namespace SqlBinder.Calendar

variable {year year' number : Int} {month month' day : Nat} {d e : Date}

/-! ## Years -/

theorem isLeap_iff (year : Int) :
    isLeap year = true ↔ year % 4 = 0 ∧ year % 100 ≠ 0 ∨ year % 400 = 0 := by
  simp [isLeap]

/-- Length of a year. -/
def daysInYear (year : Int) : Nat := if isLeap year then 366 else 365

theorem daysBeforeYear_eq (year : Int) :
    daysBeforeYear year =
      365 * (year - 1) + (year - 1) / 4 - (year - 1) / 100 + (year - 1) / 400 :=
  rfl

/-- A year begins where the one before ends. -/
theorem daysBeforeYear_succ (year : Int) :
    daysBeforeYear (year + 1) = daysBeforeYear year + daysInYear year := by
  have leap := isLeap_iff year
  rw [daysBeforeYear_eq, daysBeforeYear_eq, daysInYear]
  cases h : isLeap year with
  | true =>
    rw [if_pos rfl]
    have days := leap.1 h
    omega
  | false =>
    rw [if_neg Bool.false_ne_true]
    have days : ¬ (year % 4 = 0 ∧ year % 100 ≠ 0 ∨ year % 400 = 0) :=
      fun days => Bool.false_ne_true (h.symm.trans (leap.2 days))
    omega

theorem daysBeforeYear_mono (le : year ≤ year') : daysBeforeYear year ≤ daysBeforeYear year' := by
  rw [daysBeforeYear_eq, daysBeforeYear_eq]
  omega

/-- A later year begins behind the end of an earlier one. -/
theorem daysBeforeYear_of_lt (lt : year < year') :
    daysBeforeYear year + daysInYear year ≤ daysBeforeYear year' := by
  rw [← daysBeforeYear_succ]
  exact daysBeforeYear_mono lt

/-- Four hundred years have the same number of days, wherever they begin. -/
theorem daysBeforeYear_cycle (cycle past : Int) :
    daysBeforeYear (400 * cycle + past + 1) = 146097 * cycle + daysBeforeYear (past + 1) := by
  rw [daysBeforeYear_eq, daysBeforeYear_eq]
  omega

/-- A day number is one of the year it falls in. -/
theorem daysBeforeYear_yearOf (number : Int) :
    daysBeforeYear (yearOf number) ≤ number ∧
      number < daysBeforeYear (yearOf number) + daysInYear (yearOf number) := by
  have split := Int.mul_ediv_add_emod number 146097
  have low := Int.emod_nonneg number (show (146097 : Int) ≠ 0 by decide)
  have high := Int.emod_lt_of_pos number (show (0 : Int) < 146097 by decide)
  rw [← daysBeforeYear_succ]
  simp only [yearOf]
  generalize number / 146097 = cycle at *
  generalize number % 146097 = rest at *
  have year_eq (past : Int) : 400 * cycle + past + 1 + 1 = 400 * cycle + (past + 1) + 1 := by omega
  rw [year_eq, daysBeforeYear_cycle, daysBeforeYear_cycle]
  -- Up to a year of the cycle there are at most 97 leap days.
  split
  · next early =>
    simp only [daysBeforeYear_eq, Int.add_sub_cancel] at early ⊢
    omega
  · next late =>
    simp only [daysBeforeYear_eq, Int.add_sub_cancel, Int.sub_add_cancel] at late ⊢
    omega

/-- No other year has the day. -/
theorem yearOf_unique (first : daysBeforeYear year ≤ number)
    (last : number < daysBeforeYear year + daysInYear year) : yearOf number = year := by
  obtain ⟨first', last'⟩ := daysBeforeYear_yearOf number
  rcases Int.lt_trichotomy (yearOf number) year with earlier | same | later
  · have apart := daysBeforeYear_of_lt earlier
    omega
  · exact same
  · have apart := daysBeforeYear_of_lt later
    omega

/-! ## Months -/

theorem daysBeforeMonth_succ (year : Int) (positive : 1 ≤ month) :
    daysBeforeMonth year (month + 1) = daysBeforeMonth year month + daysInMonth year month := by
  obtain ⟨month, rfl⟩ := Nat.exists_eq_add_of_le' positive
  rfl

theorem daysInMonth_le (year : Int) (month : Nat) : daysInMonth year month ≤ 31 := by
  unfold daysInMonth
  split
  · split <;> omega
  · split <;> omega

theorem daysInMonth_pos (year : Int) (month : Nat) : 1 ≤ daysInMonth year month := by
  unfold daysInMonth
  split
  · split <;> omega
  · split <;> omega

/-- The months make up the year. -/
theorem daysBeforeMonth_year (year : Int) : daysBeforeMonth year 13 = daysInYear year := by
  simp only [daysBeforeMonth, daysInMonth, daysInYear]
  cases isLeap year <;> rfl

/-- A later month begins behind the end of an earlier one. -/
theorem daysBeforeMonth_of_lt (year : Int) (positive : 1 ≤ month) (lt : month < month') :
    daysBeforeMonth year month + daysInMonth year month ≤ daysBeforeMonth year month' := by
  induction month' with
  | zero => omega
  | succ month' ih =>
    rcases Nat.eq_or_lt_of_le (Nat.le_of_lt_succ lt) with rfl | lt
    · exact Nat.le_of_eq (daysBeforeMonth_succ year positive).symm
    · rw [daysBeforeMonth_succ year (by omega)]
      have behind := ih lt
      omega

/-- A day of the year, counted on from a month, falls in one of the months from there on. -/
theorem monthOf_spec (year : Int) (day more : Nat) (positive : 1 ≤ month)
    (short : daysBeforeMonth year month + day < daysBeforeMonth year (month + more + 1)) :
    let found := monthOf year month day more
    month ≤ found.1 ∧ found.1 ≤ month + more ∧ 1 ≤ found.2 ∧
      found.2 ≤ daysInMonth year found.1 ∧
      daysBeforeMonth year found.1 + found.2 = daysBeforeMonth year month + day + 1 := by
  induction more generalizing month day with
  | zero =>
    rw [Nat.add_zero, daysBeforeMonth_succ year positive] at short
    simp only [monthOf]
    omega
  | succ more ih =>
    simp only [monthOf]
    split
    · next here =>
      dsimp only
      omega
    · next beyond =>
      have next_month := daysBeforeMonth_succ year positive
      have found := ih (day - daysInMonth year month) (Nat.le_add_left 1 month)
        (by rw [next_month, show month + 1 + more = month + (more + 1) by omega]; omega)
      simp only at found
      omega

/-! ## Dates -/

namespace Date

/-- The earlier day in calendar order. -/
def Before (d e : Date) : Prop :=
  d.year < e.year ∨ d.year = e.year ∧ (d.month < e.month ∨ d.month = e.month ∧ d.day < e.day)

/-- A date is a day of its year. -/
theorem number_in_year (d : Date) :
    daysBeforeYear d.year ≤ d.number ∧ d.number < daysBeforeYear d.year + daysInYear d.year := by
  obtain ⟨-, -, first, last, day, days⟩ := d.isDay
  have rest := daysBeforeMonth_of_lt d.year first (show d.month < 13 by omega)
  rw [daysBeforeMonth_year] at rest
  unfold number
  omega

/-- Days are numbered in calendar order. -/
theorem number_lt_of_before (before : d.Before e) : d.number < e.number := by
  rcases before with years | ⟨year, months | ⟨month, days⟩⟩
  · have apart := daysBeforeYear_of_lt years
    have here := d.number_in_year.2
    have there := e.number_in_year.1
    omega
  · obtain ⟨-, -, first, -, -, days⟩ := d.isDay
    obtain ⟨-, -, -, -, day, -⟩ := e.isDay
    have apart := daysBeforeMonth_of_lt d.year first months
    unfold number
    rw [← year]
    omega
  · unfold number
    rw [← year, ← month]
    omega

theorem eq_or_before (d e : Date) : d = e ∨ d.Before e ∨ e.Before d := by
  obtain ⟨year, month, day, _⟩ := d
  obtain ⟨year', month', day', _⟩ := e
  simp only [Before, mk.injEq]
  omega

theorem number_injective (same : d.number = e.number) : d = e := by
  rcases d.eq_or_before e with eq | before | before
  · exact eq
  · exact absurd same (Int.ne_of_lt (number_lt_of_before before))
  · exact absurd same.symm (Int.ne_of_lt (number_lt_of_before before))

theorem ofFields?_eq (d : Date) : ofFields? d.year d.month d.day = some d := dif_pos d.isDay

theorem ofFields?_eq_some {date : Date} (found : ofFields? year month day = some date) :
    date.year = year ∧ date.month = month ∧ date.day = day := by
  unfold ofFields? at found
  split at found
  · cases found
    exact ⟨rfl, rfl, rfl⟩
  · cases found

/-- A date is found by its number, and by no other one. -/
theorem ofNumber?_eq_some_iff : ofNumber? number = some d ↔ d.number = number := by
  obtain ⟨first, last⟩ := daysBeforeYear_yearOf number
  generalize place : monthOf (yearOf number) 1 (number - daysBeforeYear (yearOf number)).toNat 11 =
    found
  have ofFields : ofNumber? number = ofFields? (yearOf number) found.1 found.2 := by
    rw [← place]
    rfl
  have spec := monthOf_spec (yearOf number) (number - daysBeforeYear (yearOf number)).toNat 11
    (Nat.le_refl 1) (by
      rw [show 1 + 11 + 1 = 13 from rfl, daysBeforeMonth_year]
      show 0 + _ < _
      omega)
  obtain ⟨low, high, day, days, behind⟩ : 1 ≤ found.1 ∧ _ := place ▸ spec
  have none_before : daysBeforeMonth (yearOf number) 1 = 0 := rfl
  rw [ofFields]
  constructor
  · intro some
    obtain ⟨year_eq, month_eq, day_eq⟩ := ofFields?_eq_some some
    rw [Date.number, year_eq, month_eq, day_eq]
    omega
  · rintro rfl
    obtain ⟨first', last'⟩ := d.number_in_year
    have year_eq := yearOf_unique first' last'
    have isDay : IsDay (yearOf d.number) found.1 found.2 := by
      rw [year_eq] at days ⊢
      exact ⟨d.isDay.1, d.isDay.2.1, low, by omega, day, days⟩
    rw [ofFields?, dif_pos isDay]
    congr 1
    apply number_injective
    rw [Date.number]
    dsimp only
    omega

end Date

end SqlBinder.Calendar

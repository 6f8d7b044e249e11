import SqlBinder.Proofs.Calendar.Instants

/-!
Date-times in the order of time, and what cutting their fractions does to it. A date-time is earlier
by its day, then by its second of the day, then by its nanosecond; outside leap seconds that is the
order of instants. Main statement: a fraction cut twice is one cut at the coarser scale, and outside
leap seconds cutting goes back to the last whole step of the scale, so it keeps the order.
-/
namespace SqlBinder

/-! ## Whole steps -/

/-- The last multiple of a step up to a number. -/
def roundDown (n step : Nat) : Nat := n - n % step

section Steps

variable {step coarse : Nat} (n : Nat)

theorem roundDown_dvd : step ∣ roundDown n step := Nat.dvd_sub_mod n

/-- Integers are rounded down alike, and in their order. -/
theorem sub_emod_le_sub_emod {a b : Int} (positive : 0 < step) (le : a ≤ b) :
    a - a % step ≤ b - b % step := by
  have quotient : a / step ≤ b / step := Int.ediv_le_ediv (Int.natCast_pos.2 positive) le
  calc
    a - a % step = step * (a / step) := by rw [Int.emod_def]; omega
    _ ≤ step * (b / step) := Int.mul_le_mul_of_nonneg_left quotient (Int.natCast_nonneg _)
    _ = b - b % step := by rw [Int.emod_def]; omega

variable {n} in
theorem roundDown_eq (whole : step ∣ n) : roundDown n step = n := by
  rw [roundDown, Nat.mod_eq_zero_of_dvd whole, Nat.sub_zero]

/-- A whole coarse step is a whole fine one. -/
theorem roundDown_finer (finer : step ∣ coarse) :
    roundDown (roundDown n coarse) step = roundDown n coarse :=
  roundDown_eq (Nat.dvd_trans finer (roundDown_dvd n))

/-- Going back by fine steps does not pass a coarse one. -/
theorem roundDown_coarser (finer : step ∣ coarse) :
    roundDown (roundDown n step) coarse = roundDown n coarse := by
  obtain rfl | positive := Nat.eq_zero_or_pos coarse
  · simp [roundDown]
  have behind : n % coarse % step = n % step := Nat.mod_mod_of_dvd n finer
  have less : n % coarse % step ≤ n % coarse := Nat.mod_le _ _
  have below : n % coarse < coarse := Nat.mod_lt n positive
  have split : roundDown n step = coarse * (n / coarse) + (n % coarse - n % step) := by
    have whole := Nat.div_add_mod n coarse
    unfold roundDown
    omega
  have rest : roundDown n step % coarse = n % coarse - n % step := by
    rw [split, Nat.mul_add_mod, Nat.mod_eq_of_lt (by omega)]
  rw [roundDown, rest, roundDown, roundDown]
  omega

end Steps

namespace Calendar

variable {x y : DateTime}

instance (d e : Date) : Decidable (d.Before e) := inferInstanceAs (Decidable (_ ∨ _))

namespace DateTime

/-! ## Earlier and later -/

/-- Whole seconds since midnight. -/
def secondOfDay (dt : DateTime) : Nat := (dt.hour * 60 + dt.minute) * 60 + dt.second

theorem nanos_eq (dt : DateTime) : dt.nanos = dt.secondOfDay * billion + dt.nano := rfl

instance : LT DateTime where
  lt x y := x.date.Before y.date ∨ x.date = y.date ∧
    (x.secondOfDay < y.secondOfDay ∨ x.secondOfDay = y.secondOfDay ∧ x.nano < y.nano)

instance : LE DateTime where
  le x y := x < y ∨ x = y

instance (x y : DateTime) : Decidable (x < y) := inferInstanceAs (Decidable (_ ∨ _))

instance (x y : DateTime) : Decidable (x ≤ y) := inferInstanceAs (Decidable (_ ∨ _))

theorem lt_iff : x < y ↔ x.date.Before y.date ∨ x.date = y.date ∧
    (x.secondOfDay < y.secondOfDay ∨ x.secondOfDay = y.secondOfDay ∧ x.nano < y.nano) :=
  Iff.rfl

theorem le_iff : x ≤ y ↔ x < y ∨ x = y := Iff.rfl

theorem eq_or_lt (x y : DateTime) : x = y ∨ x < y ∨ y < x := by
  rcases x.date.eq_or_before y.date with date | before | before
  · by_cases same : x.secondOfDay = y.secondOfDay ∧ x.nano = y.nano
    · obtain ⟨-, minute, second, -⟩ := x.isTime
      obtain ⟨-, minute', second', -⟩ := y.isTime
      obtain ⟨xd, xh, xm, xs, xn, _⟩ := x
      obtain ⟨yd, yh, ym, ys, yn, _⟩ := y
      simp only [secondOfDay] at *
      left
      simp only [mk.injEq]
      exact ⟨date, by omega, by omega, by omega, same.2⟩
    · right
      simp only [lt_iff, date, true_and]
      omega
  · exact .inr (.inl (.inl before))
  · exact .inr (.inr (.inl before))

/-- Outside leap seconds time has gone on between an earlier date-time and a later one. -/
theorem instant_lt_of_lt (ordinary : x.IsOrdinary) (lt : x < y) : x.instant < y.instant := by
  have within := nanos_lt ordinary
  rw [instant_eq, instant_eq]
  rcases lt_iff.1 lt with before | ⟨date, time⟩
  · have days := Date.number_lt_of_before before
    simp only [dayNanos_eq] at *
    omega
  · unfold IsOrdinary at ordinary
    simp only [date, nanos_eq, billion] at *
    omega

theorem lt_iff_instant_lt (ordinary : x.IsOrdinary) (ordinary' : y.IsOrdinary) :
    x < y ↔ x.instant < y.instant := by
  refine ⟨instant_lt_of_lt ordinary, fun instants => ?_⟩
  rcases eq_or_lt x y with rfl | earlier | later
  · exact absurd instants (Int.lt_irrefl _)
  · exact earlier
  · exact absurd (instant_lt_of_lt ordinary' later) (Int.lt_asymm instants)

theorem le_iff_instant_le (ordinary : x.IsOrdinary) (ordinary' : y.IsOrdinary) :
    x ≤ y ↔ x.instant ≤ y.instant := by
  rw [le_iff, lt_iff_instant_lt ordinary ordinary']
  constructor
  · rintro (earlier | rfl)
    · exact Int.le_of_lt earlier
    · exact Int.le_refl _
  · intro instants
    rcases eq_or_lt x y with same | earlier | later
    · exact .inr same
    · exact .inl (instant_lt_of_lt ordinary earlier)
    · exact absurd (instant_lt_of_lt ordinary' later) (Int.not_lt_of_ge instants)

/-! ## Cut fractions -/

section Truncation

variable (s t : Nat)

/-- Nanoseconds from one fraction that a scale keeps to the next. -/
def step (scale : Nat) : Nat := tenTo (9 - min scale 9)

theorem step_pos : 0 < step s := tenTo_pos _

theorem step_dvd_billion : step s ∣ billion :=
  Nat.pow_dvd_pow 10 (Nat.sub_le 9 (min s 9))

variable {s t} in
/-- More digits are kept in finer steps. -/
theorem step_dvd_step (le : s ≤ t) : step t ∣ step s := Nat.pow_dvd_pow 10 (by omega)

variable (x)

theorem truncate_nano : (x.truncate s).nano = roundDown x.subsecond (step s) := rfl

/-- A second with a cut fraction is no leap second any more. -/
theorem truncate_subsecond : (x.truncate s).subsecond = roundDown x.subsecond (step s) :=
  Nat.mod_eq_of_lt (x.isOrdinary_truncate s)

/-- What is left of a date-time by cutting is known from the fraction that is left. -/
theorem truncate_truncate_eq (r : Nat)
    (fraction : roundDown (roundDown x.subsecond (step s)) (step t) =
      roundDown x.subsecond (step r)) : (x.truncate s).truncate t = x.truncate r := by
  rw [← truncate_subsecond, ← truncate_nano, ← truncate_nano] at fraction
  show DateTime.mk _ _ _ _ _ _ = DateTime.mk _ _ _ _ _ _
  simp only [mk.injEq]
  exact ⟨rfl, rfl, rfl, rfl, fraction⟩

/-- The coarser scale decides. -/
theorem truncate_truncate : (x.truncate s).truncate t = x.truncate (min s t) := by
  refine truncate_truncate_eq x s t (min s t) ?_
  obtain fine | coarse := Nat.le_total s t
  · rw [Nat.min_eq_left fine, roundDown_finer _ (step_dvd_step fine)]
  · rw [Nat.min_eq_right coarse, roundDown_coarser _ (step_dvd_step coarse)]

variable {x} in
/-- Outside leap seconds a cut goes back to the last whole step. -/
theorem instant_truncate (ordinary : x.IsOrdinary) :
    (x.truncate s).instant = x.instant - x.instant % step s := by
  obtain ⟨c, whole⟩ := step_dvd_billion s
  have seconds : x.instant =
      x.nano + (billion : Int) * (x.date.number * 86400 + x.secondOfDay) := by
    rw [instant_eq, nanos_eq, dayNanos_eq, billion]
    omega
  have rest : x.instant % step s = (x.nano % step s : Nat) := by
    rw [seconds, whole, Int.natCast_mul, Int.mul_assoc, Int.add_mul_emod_self_left,
      Int.natCast_emod]
  have fraction : (x.truncate s).nano = x.nano - x.nano % step s := by
    rw [truncate_nano, subsecond, Nat.mod_eq_of_lt ordinary, roundDown]
  have less : x.nano % step s ≤ x.nano := Nat.mod_le _ _
  have date : (x.truncate s).date = x.date := rfl
  have second : (x.truncate s).secondOfDay = x.secondOfDay := rfl
  rw [rest, instant_eq, instant_eq, nanos_eq, nanos_eq, fraction, date, second]
  omega

/-- Cutting twice is cutting once at the coarser scale, so a second cut at one scale changes
nothing. Outside leap seconds a cut date-time is not later, less than a step of the scale is cut
off, and what was not later stays so. -/
theorem truncate_rounds_down (x y : DateTime) (s t : Nat) :
    (x.truncate s).truncate t = x.truncate (min s t) ∧
      (x.truncate s).truncate s = x.truncate s ∧
      (x.IsOrdinary →
        x.truncate s ≤ x ∧ x.instant - (x.truncate s).instant < tenTo (9 - min s 9)) ∧
      (x.IsOrdinary → y.IsOrdinary → x ≤ y → x.truncate s ≤ y.truncate s) := by
  have positive : (0 : Int) < step s := Int.natCast_pos.2 (step_pos s)
  refine ⟨truncate_truncate x s t, ?_, fun ordinary => ⟨?_, ?_⟩, fun ordinary ordinary' le => ?_⟩
  · rw [truncate_truncate, Nat.min_self]
  · rw [le_iff_instant_le (x.isOrdinary_truncate s) ordinary, instant_truncate s ordinary]
    have rest := Int.emod_nonneg x.instant (Int.ne_of_gt positive)
    omega
  · have below := Int.emod_lt_of_pos x.instant positive
    have size : step s = tenTo (9 - min s 9) := rfl
    rw [instant_truncate s ordinary, ← size]
    omega
  · rw [le_iff_instant_le (x.isOrdinary_truncate s) (y.isOrdinary_truncate s),
      instant_truncate s ordinary, instant_truncate s ordinary']
    exact sub_emod_le_sub_emod (step_pos s) ((le_iff_instant_le ordinary ordinary').1 le)

/-- The last nanosecond of year 1. -/
def lastNanosecond : DateTime := ⟨⟨1, 12, 31, by decide⟩, 23, 59, 59, 999999999, by decide⟩

/-- A microsecond and a nanosecond before it. -/
def microsecondBefore : DateTime := ⟨⟨1, 12, 31, by decide⟩, 23, 59, 59, 999998998, by decide⟩

/-- Six digits of both are kept, and the earlier one stays the earlier one. -/
theorem six_digits_keep_order :
    lastNanosecond.IsOrdinary ∧ microsecondBefore.IsOrdinary ∧
      microsecondBefore ≤ lastNanosecond ∧
      microsecondBefore.instant - (microsecondBefore.truncate 6).instant < 1000 ∧
      microsecondBefore.truncate 6 ≤ lastNanosecond.truncate 6 := by
  have ordinary : lastNanosecond.IsOrdinary := by decide
  have ordinary' : microsecondBefore.IsOrdinary := by decide
  have le : microsecondBefore ≤ lastNanosecond := by decide
  obtain ⟨-, -, cut, order⟩ := truncate_rounds_down microsecondBefore lastNanosecond 6 9
  exact ⟨ordinary, ordinary', le, (cut ordinary').2, order ordinary' ordinary le⟩

/-- A leap second loses the second that it adds, and so comes in front of what was before it. -/
example :
    let before : DateTime := ⟨⟨1, 12, 31, by decide⟩, 23, 59, 59, 999999999, by decide⟩
    let leap : DateTime := ⟨⟨1, 12, 31, by decide⟩, 23, 59, 59, 1000000000, by decide⟩
    before ≤ leap ∧ ¬before.truncate 3 ≤ leap.truncate 3 := by
  decide

end Truncation

end DateTime

end Calendar

end SqlBinder

import SqlBinder.Decimal.Literal
import SqlBinder.Decimal.Plain
import Mathlib.Data.Nat.Digits.Lemmas

/-!
Runs of decimal digits: what is read where digits are written, and the number a run denotes. A run
that neither begins nor ends with zero is known from its number and its place.

A number alone does not tell how many zeros stand in front of it, so runs are compared at one
length, or with a first digit other than zero, from which the length follows.
-/
namespace SqlBinder.Decimal

/-- Every member is a digit. -/
def AllDigits (ds : List Nat) : Prop := ∀ d ∈ ds, d < 10

section Runs

variable {d : Nat} {ds es : List Nat} {cs rest : List Char}

@[simp] theorem AllDigits.nil : AllDigits [] := by simp [AllDigits]

@[simp] theorem allDigits_cons : AllDigits (d :: ds) ↔ d < 10 ∧ AllDigits ds := by
  simp [AllDigits]

@[simp] theorem allDigits_append : AllDigits (ds ++ es) ↔ AllDigits ds ∧ AllDigits es := by
  simp [AllDigits, or_imp, forall_and]

@[simp] theorem allDigits_reverse : AllDigits ds.reverse ↔ AllDigits ds := by
  simp [AllDigits]

theorem allDigits_replicate (n : Nat) (h : d < 10) : AllDigits (List.replicate n d) :=
  fun _ h' => List.eq_of_mem_replicate h' ▸ h

/-! Digits as characters. -/

theorem digit?_digitChar (h : d < 10) : digit? d.digitChar = some d := by
  revert d
  decide

theorem digit?_eq_some {c : Char} (h : digit? c = some d) : d < 10 ∧ d.digitChar = c := by
  unfold digit? at h
  split at h
  case isFalse => cases h
  case isTrue bounds =>
    have low : '0'.toNat ≤ c.toNat := bounds.1
    have high : c.toNat ≤ '9'.toNat := bounds.2
    have small : c.toNat - '0'.toNat < 10 := by
      have : '0'.toNat = 48 := rfl
      have : '9'.toNat = 57 := rfl
      omega
    cases h
    refine ⟨small, Char.toNat_inj.1 ?_⟩
    rw [Nat.toNat_digitChar_of_lt_ten small]
    have : '0'.toNat = 48 := rfl
    omega

@[simp] theorem digitChars_nil : digitChars [] = [] := rfl

@[simp] theorem digitChars_cons : digitChars (d :: ds) = d.digitChar :: digitChars ds := rfl

@[simp] theorem digitChars_append : digitChars (ds ++ es) = digitChars ds ++ digitChars es :=
  List.map_append

@[simp] theorem length_digitChars : (digitChars ds).length = ds.length := List.length_map _

/-- What stands behind a run of digits does not begin with one. -/
def Ends (rest : List Char) : Prop := ∀ c ∈ rest.head?, digit? c = none

theorem leadingDigits_digitChars (digits : AllDigits ds) (ends : Ends rest) :
    leadingDigits (digitChars ds ++ rest) = ds := by
  induction ds with
  | nil =>
    cases rest with
    | nil => rfl
    | cons c rest => simp [leadingDigits, ends c rfl]
  | cons d ds ih =>
    rw [allDigits_cons] at digits
    simp [leadingDigits, digit?_digitChar digits.1, ih digits.2]

theorem allDigits_leadingDigits (cs : List Char) : AllDigits (leadingDigits cs) := by
  fun_induction leadingDigits cs with
  | case1 => exact .nil
  | case2 c rest d found ih => exact allDigits_cons.2 ⟨(digit?_eq_some found).1, ih⟩
  | case3 => exact .nil

/-- A text is the digits it begins with and what is behind them. -/
theorem digitChars_leadingDigits (cs : List Char) :
    digitChars (leadingDigits cs) ++ cs.drop (leadingDigits cs).length = cs := by
  fun_induction leadingDigits cs with
  | case1 => rfl
  | case2 c rest d found ih => simp [(digit?_eq_some found).2, ih]
  | case3 => rfl

end Runs

/-! The number of a run. -/

section Numbers

variable {d : Nat} {ds es : List Nat}

theorem ofDigits_eq (ds : List Nat) : ofDigits ds = Nat.ofDigits 10 ds.reverse := by
  induction ds using List.reverseRecOn with
  | nil => rfl
  | append_singleton ds d ih =>
    rw [List.reverse_append, List.reverse_singleton, List.singleton_append, Nat.ofDigits_cons,
      ← ih, ofDigits, List.foldl_append, ← ofDigits]
    simp [Nat.add_comm]

@[simp] theorem ofDigits_nil : ofDigits [] = 0 := rfl

theorem ofDigits_append (ds es : List Nat) :
    ofDigits (ds ++ es) = ofDigits ds * 10 ^ es.length + ofDigits es := by
  simp only [ofDigits_eq, List.reverse_append, Nat.ofDigits_append, List.length_reverse]
  rw [Nat.add_comm, Nat.mul_comm]

@[simp] theorem ofDigits_singleton (d : Nat) : ofDigits [d] = d := by simp [ofDigits]

theorem ofDigits_zeros (n : Nat) : ofDigits (List.replicate n 0) = 0 := by
  induction n with
  | zero => rfl
  | succ n ih => rw [List.replicate_succ', ofDigits_append, ih]; simp

/-- Zeros in front do not count. -/
theorem ofDigits_zeros_append (n : Nat) (ds : List Nat) :
    ofDigits (List.replicate n 0 ++ ds) = ofDigits ds := by
  rw [ofDigits_append, ofDigits_zeros, Nat.zero_mul, Nat.zero_add]

theorem ofDigits_lt (digits : AllDigits ds) : ofDigits ds < 10 ^ ds.length := by
  rw [ofDigits_eq, ← List.length_reverse]
  exact Nat.ofDigits_lt_base_pow_length (by decide) (allDigits_reverse.2 digits)

/-- Runs of one length with one number are the same. -/
theorem ofDigits_inj (digits : AllDigits ds) (digits' : AllDigits es)
    (length : ds.length = es.length) (same : ofDigits ds = ofDigits es) : ds = es := by
  rw [ofDigits_eq, ofDigits_eq] at same
  refine List.reverse_injective (Nat.ofDigits_inj_of_len_eq (b := 10) (by decide) ?_ ?_ ?_ same)
  · simpa using length
  · exact allDigits_reverse.2 digits
  · exact allDigits_reverse.2 digits'

/-- A run that does not begin with zero is the digits of its number. -/
theorem digits_ofDigits (digits : AllDigits ds) (leading : ds.head? ≠ some 0) :
    Nat.digits 10 (ofDigits ds) = ds.reverse := by
  rw [ofDigits_eq]
  refine Nat.digits_ofDigits 10 (by decide) _ (allDigits_reverse.2 digits) fun nonempty zero => ?_
  rw [List.getLast_reverse] at zero
  exact leading ((List.head?_eq_some_head (by simpa using nonempty)).trans (congrArg some zero))

theorem ofDigits_inj_of_leading (digits : AllDigits ds) (digits' : AllDigits es)
    (leading : ds.head? ≠ some 0) (leading' : es.head? ≠ some 0)
    (same : ofDigits ds = ofDigits es) : ds = es := by
  apply List.reverse_injective
  rw [← digits_ofDigits digits leading, ← digits_ofDigits digits' leading', same]

/-- The number of a run that does not end with zero is no multiple of ten. -/
theorem not_ten_dvd_ofDigits (digits : AllDigits ds) (nonempty : ds ≠ [])
    (trailing : ds.getLast? ≠ some 0) : ¬ 10 ∣ ofDigits ds := by
  obtain ⟨front, last, rfl⟩ := ds.eq_nil_or_concat.resolve_left nonempty
  simp only [List.concat_eq_append, allDigits_append, allDigits_cons,
    List.getLast?_append, List.getLast?_singleton, Option.some_or, ne_eq, Option.some.injEq]
    at digits trailing
  have := digits.2.1
  rw [List.concat_eq_append, ofDigits_append, ofDigits_singleton, List.length_singleton, pow_one]
  omega

end Numbers

end SqlBinder.Decimal

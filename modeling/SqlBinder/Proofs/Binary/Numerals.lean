import SqlBinder.Proofs.Wire.Integers
import SqlBinder.Binary.Text

/-!
Floating-point numbers and numerals. Main statements: the plain text of a finite number is a numeral
without exponent, and every numeral reads as a number, infinite at most.

What is printed are digits with a point among them, whichever digits they are, so the shape of the
text does not depend on how few of them are enough. Reading takes the sign off and meets a digit or
the point, so no numeral is taken for the name of a number.
-/
namespace SqlBinder

open Decimal

namespace Binary

namespace Format

variable (f : Format)

theorem infinityWord_lt_signWord : f.infinityWord < f.signWord := by
  have power : f.signWord = twoTo f.exponentBits * twoTo f.fractionBits := by
    rw [Nat.mul_comm]
    exact Nat.pow_add 2 _ _
  rw [power, infinityWord]
  have := twoTo_pos f.exponentBits
  exact Nat.mul_lt_mul_of_pos_right (by omega) (twoTo_pos _)

/-- A sign does not change what is below it. -/
theorem mod_signWord {magnitude : Nat} (small : magnitude ≤ f.infinityWord) (negative : Bool) :
    (magnitude + if negative then f.signWord else 0) % f.signWord = magnitude := by
  have below := f.infinityWord_lt_signWord
  cases negative with
  | false => simpa using Nat.mod_eq_of_lt (by omega)
  | true => simpa using Nat.mod_eq_of_lt (by omega)

/-- A word up to the one of infinity is a number, with either sign. -/
theorem read_ne_nan {magnitude : Nat} (small : magnitude ≤ f.infinityWord) (negative : Bool) :
    f.read (magnitude + if negative then f.signWord else 0) ≠ .nan := by
  unfold read
  simp only [f.mod_signWord small, gt_iff_lt, Nat.not_lt.2 small, if_false]
  split
  · nofun
  · split <;> nofun

theorem nearestMagnitude_le (num den : Nat) : f.nearestMagnitude num den ≤ f.infinityWord := by
  unfold nearestMagnitude
  split
  · exact Nat.zero_le _
  · exact Nat.min_le_right _ _

end Format

/-! The fewest digits. -/

theorem exists_search (n : Neighbourhood) (top : Int) (count more : Nat) :
    ∃ units exponent, n.search top count more = ofUnits units exponent := by
  induction more generalizing count with
  | zero => exact ⟨_, _, rfl⟩
  | succ more ih =>
    cases found : n.onGrid? (top - count) with
    | some units => exact ⟨units, _, by rw [Neighbourhood.search, found]⟩
    | none =>
      obtain ⟨units, exponent, further⟩ := ih (count + 1)
      exact ⟨units, exponent, by rw [Neighbourhood.search, found, further]⟩

/-- The digits of a number of units, as they are taken from its print. -/
theorem map_toDigits (units : Nat) :
    (Nat.toDigits 10 units).map (fun c => c.toNat - '0'.toNat) = digitsOf units := by
  rw [toDigits_eq, digitChars, List.map_map]
  refine (List.map_congr_left fun d member => ?_).trans (List.map_id _)
  have digit := allDigits_digitsOf units d member
  have zero : '0'.toNat = 48 := rfl
  simp only [Function.comp_apply, Nat.toNat_digitChar_of_lt_ten digit, zero, id_eq]
  omega

theorem allDigits_ofUnits (units : Nat) (exponent : Int) :
    AllDigits (ofUnits units exponent).digits := by
  intro d member
  simp only [ofUnits, map_toDigits] at member
  exact allDigits_digitsOf units d ((List.rdropWhile_prefix _ _).subset member)

theorem Format.allDigits_shortest (f : Format) (mantissa : Nat) (scale : Int) :
    AllDigits (f.shortest mantissa scale).digits := by
  unfold shortest
  obtain ⟨units, exponent, found⟩ := exists_search (f.neighbourhood mantissa scale)
    (decade (f.neighbourhood mantissa scale).value (f.neighbourhood mantissa scale).den) 1 20
  rw [found]
  exact allDigits_ofUnits units exponent

end Binary

/-! Plain text as a numeral. -/

namespace Decimal

/-- Digits in front of the point and behind it, with a sign. -/
def Numeral.positional (negative : Bool) (whole : List Nat) (fraction : Option (List Nat))
    (digits : AllDigits whole) (digits' : AllDigits (fraction.getD [])) (nonempty : whole ≠ []) :
    Numeral :=
  ⟨if negative then .minus else .absent, whole, fraction, none, digits, digits', .inl nonempty⟩

theorem Numeral.chars_positional {negative : Bool} {whole : List Nat}
    {fraction : Option (List Nat)} {digits : AllDigits whole}
    {digits' : AllDigits (fraction.getD [])} {nonempty : whole ≠ []} :
    (positional negative whole fraction digits digits' nonempty).chars =
      withSign negative
        (digitChars whole ++ fraction.elim [] fun ds => '.' :: digitChars ds) := by
  cases negative <;>
    simp [positional, chars, fractionChars, Numeral.exponentChars, withSign, Sign.chars]

/-- Positional text is a numeral without exponent, whatever the digits are. -/
theorem exists_numeral_of_plainChars {d : Decimal} (digits : AllDigits d.digits)
    (negative : Bool) :
    ∃ n : Numeral, n.chars = withSign negative d.plainChars ∧ n.exponent = none := by
  have zeros : ∀ n, AllDigits (List.replicate n 0) := fun n => allDigits_replicate n (by decide)
  by_cases below : d.point ≤ 0
  case pos =>
    refine ⟨.positional negative [0] (some (List.replicate (-d.point).toNat 0 ++ d.digits))
      (by simp) (allDigits_append.2 ⟨zeros _, digits⟩) (by simp), ?_, rfl⟩
    rw [Numeral.chars_positional]
    simp only [plainChars, below, if_true, Option.elim_some, digitChars_append, digitChars_zeros]
    rfl
  case neg =>
    by_cases fits : d.digits.length ≤ d.point.toNat
    case pos =>
      refine ⟨.positional negative
        (d.digits ++ List.replicate (d.point.toNat - d.digits.length) 0) none
        (allDigits_append.2 ⟨digits, zeros _⟩) .nil ?_, ?_, rfl⟩
      · refine List.ne_nil_of_length_pos ?_
        rw [List.length_append, List.length_replicate]
        omega
      · rw [Numeral.chars_positional]
        simp [plainChars, below, fits, digitChars_zeros]
    case neg =>
      have front : AllDigits (d.digits.take d.point.toNat) :=
        fun e member => digits e (List.mem_of_mem_take member)
      have behind : AllDigits (d.digits.drop d.point.toNat) :=
        fun e member => digits e (List.mem_of_mem_drop member)
      refine ⟨.positional negative (d.digits.take d.point.toNat)
        (some (d.digits.drop d.point.toNat)) front behind ?_, ?_, rfl⟩
      · refine List.ne_nil_of_length_pos ?_
        rw [List.length_take]
        omega
      · rw [Numeral.chars_positional]
        simp [plainChars, below, fits]

end Decimal

namespace Double

variable {x : Double}

/-- The plain text of a finite number is a numeral without exponent. -/
theorem exists_numeral_of_plain (real : x.isNaN = false) (finite : x.isInfinite = false) :
    ∃ n : Numeral, n.Spells x.plain ∧ n.exponent = none := by
  suffices ∃ n : Numeral, n.chars = x.plain.toList ∧ n.exponent = none by
    obtain ⟨n, chars, plain⟩ := this
    exact ⟨n, Numeral.spells_of_chars chars, plain⟩
  unfold plain
  cases number : x.number with
  | nan => simp [isNaN, number] at real
  | infinite negative => simp [isInfinite, number] at finite
  | finite negative mantissa scale =>
    simp only [Binary.Number.plain, String.toList_ofList]
    split
    case isTrue =>
      refine ⟨.positional negative [0] none (by simp) .nil (by simp), ?_, rfl⟩
      rw [Numeral.chars_positional]
      rfl
    case isFalse =>
      exact exists_numeral_of_plainChars (Binary.doubleFormat.allDigits_shortest _ _) negative

/-! Reading. -/

theorem toNat_word {magnitude : Nat} (small : magnitude ≤ Binary.doubleFormat.infinityWord)
    (negative : Bool) :
    (UInt64.ofNat (magnitude + if negative then Binary.doubleFormat.signWord else 0)).toNat =
      magnitude + if negative then Binary.doubleFormat.signWord else 0 := by
  have below := Binary.doubleFormat.infinityWord_lt_signWord
  have wide : Binary.doubleFormat.signWord = 2 ^ 63 := rfl
  rw [UInt64.toNat_ofNat', Nat.mod_eq_of_lt]
  split <;> omega

theorem isNaN_word {magnitude : Nat} (small : magnitude ≤ Binary.doubleFormat.infinityWord)
    (negative : Bool) :
    (⟨UInt64.ofNat
      (magnitude + if negative then Binary.doubleFormat.signWord else 0)⟩ : Double).isNaN =
        false := by
  rw [isNaN, number, toNat_word small]
  exact beq_eq_false_iff_ne.2 (Binary.doubleFormat.read_ne_nan small negative)

/-- An integer is nearest to a number. -/
theorem isNaN_ofInt (n : Int) : (ofInt n).isNaN = false :=
  isNaN_word (Binary.doubleFormat.nearestMagnitude_le _ _) _

/-- Decimal digits are nearest to a number. -/
theorem isNaN_ofDecimal (negative : Bool) (d : Decimal) :
    (ofDecimal negative d).isNaN = false := by
  unfold ofDecimal
  simp only
  split
  · exact isNaN_word (Binary.doubleFormat.nearestMagnitude_le _ _) _
  · split
    · exact isNaN_word le_rfl _
    · exact isNaN_word (Binary.doubleFormat.nearestMagnitude_le _ _) _

/-- Behind its sign a numeral begins with a digit or the point. -/
theorem exists_head (n : Numeral) :
    ∃ c cs, digitChars n.whole ++ (n.fractionChars ++ n.exponentChars) = c :: cs ∧
      ((∃ d < 10, c = d.digitChar) ∨ c = '.') := by
  cases whole : n.whole with
  | cons d ds =>
    have digits := n.wholeDigits
    rw [whole, allDigits_cons] at digits
    exact ⟨_, _, rfl, .inl ⟨d, digits.1, rfl⟩⟩
  | nil =>
    have decimals := n.hasDigit.resolve_left (not_not.2 whole)
    unfold Numeral.fractionChars
    cases written : n.fraction with
    | none => simp [written] at decimals
    | some ds => exact ⟨_, _, rfl, .inr rfl⟩

/-- No numeral is the name of a number. -/
theorem named?_chars (n : Numeral) : named? n.chars = none := by
  obtain ⟨c, cs, split, head⟩ := exists_head n
  have digit : ∀ d < 10, d.digitChar.toLower ≠ 'n' ∧ d.digitChar.toLower ≠ 'i' := by decide
  have lower : c.toLower ≠ 'n' ∧ c.toLower ≠ 'i' := by
    rcases head with ⟨d, small, rfl⟩ | rfl
    · exact digit d small
    · decide
  have name : ∀ {d : Char} {ds : List Char}, c.toLower ≠ d →
      String.ofList ((c :: cs).map Char.toLower) ≠ String.ofList (d :: ds) := by
    intro d ds other same
    exact other (List.cons.inj (String.ofList_injective same)).1
  have sign : splitSign n.chars = (n.sign.negative, c :: cs) := by
    rw [← split]
    exact splitSign_append n.sign n.unsigned
  simp only [named?, sign]
  rw [if_neg (name lower.1), if_neg (not_or.2 ⟨name lower.2, name lower.2⟩)]

theorem exponent?_exponentChars (n : Numeral) : exponent? n.exponentChars = some n.scale := by
  rcases n.exponential_exponentChars with ⟨rest, scale⟩ | ⟨mark, digits, rest, marked, read⟩
  · rw [rest, scale]
    rfl
  · rw [rest, exponent?, if_pos marked, read]

/-- A numeral reads as the number nearest to its digits. -/
theorem parse?_numeral (n : Numeral) : parse? n.chars =
    some (ofDecimal n.sign.negative ⟨n.whole ++ n.decimals, n.whole.length + n.scale⟩) := by
  have hasDigit : Literal.HasDigit ⟨n.sign.negative, n.whole, n.decimals, n.exponentChars⟩ :=
    n.hasDigit
  simp only [parse?, named?_chars, n.read_chars, hasDigit, if_true, exponent?_exponentChars]
  rfl

/-- Every numeral reads as a number. -/
theorem parse?_chars (n : Numeral) : ∃ x, parse? n.chars = some x ∧ x.isNaN = false :=
  ⟨_, parse?_numeral n, isNaN_ofDecimal _ _⟩

end Double

end SqlBinder

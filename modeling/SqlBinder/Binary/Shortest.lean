import SqlBinder.Binary.Format
import SqlBinder.Decimal.Plain

/-!
The fewest decimal digits that read back as the same binary number. Of several with as few digits
the nearest is taken, and of two equally near the larger.

The numbers that read back as a word are a neighbourhood of its own number, bounded halfway to its
neighbours. The search goes from coarse powers of ten to fine ones and stops at the first of which a
multiple lies in the neighbourhood; the bounds belong to it if the word is even.
-/
namespace SqlBinder.Binary

/-- The numbers that read back as one word, around that word's value: all over
one denominator. -/
structure Neighbourhood where
  low : Nat
  value : Nat
  high : Nat
  den : Nat
  /-- The ends read back too. -/
  closed : Bool
  deriving DecidableEq, Repr

/-- The neighbourhood of `mantissa · 2^scale`. Below a power of two the next
number is nearer. -/
def Format.neighbourhood (f : Format) (mantissa : Nat) (scale : Int) : Neighbourhood :=
  let below := if mantissa = twoTo f.fractionBits ∧ f.lowestScale < scale then 1 else 2
  let up := twoTo (scale - 2).toNat
  ⟨(4 * mantissa - below) * up, 4 * mantissa * up, (4 * mantissa + 2) * up,
    twoTo (2 - scale).toNat, mantissa % 2 = 0⟩

/-- Whether `num / den` reads back. -/
def Neighbourhood.Holds (n : Neighbourhood) (num den : Nat) : Prop :=
  if n.closed then n.low * den ≤ num * n.den ∧ num * n.den ≤ n.high * den
  else n.low * den < num * n.den ∧ num * n.den < n.high * den

instance (n : Neighbourhood) (num den : Nat) : Decidable (n.Holds num den) := by
  unfold Neighbourhood.Holds
  exact inferInstance

/-- The exponent `e` with `10^(e-1) ≤ num / den < 10^e`, for positive numbers. -/
def decade (num den : Nat) : Int :=
  let e : Int := ((Nat.toDigits 10 num).length : Int) - (Nat.toDigits 10 den).length
  let reached := if 0 ≤ e then den * tenTo e.toNat ≤ num else den ≤ num * tenTo (-e).toNat
  if reached then e + 1 else e

/-- The two neighbours of the value on the grid of `10^exponent`: the lower one in
units of the grid, and whether each reads back. The nearer one that does is given. -/
def Neighbourhood.onGrid? (n : Neighbourhood) (exponent : Int) : Option Nat :=
  let up := tenTo exponent.toNat
  let down := tenTo (-exponent).toNat
  let lower := n.value * down / (n.den * up)
  let lowerHolds := decide (n.Holds (lower * up) down)
  let upperHolds := decide (n.Holds ((lower + 1) * up) down)
  -- Distances to the value, in units of `1 / (2 · den · down)`.
  let upperIsNearer := decide ((2 * lower + 1) * up * n.den ≤ 2 * n.value * down)
  if upperHolds && (!lowerHolds || upperIsNearer) then some (lower + 1)
  else if lowerHolds then some lower
  else none

/-- The digits of a positive number of units of `10^exponent`. -/
def ofUnits (units : Nat) (exponent : Int) : Decimal :=
  let digits := (Nat.toDigits 10 units).map fun c => c.toNat - '0'.toNat
  ⟨Decimal.dropTrailingZeros digits, digits.length + exponent⟩

/-- The first grid with a number that reads back, from `count` digits on and for
at most `more` grids. -/
def Neighbourhood.search (n : Neighbourhood) (top : Int) (count : Nat) : Nat → Decimal
  | 0 => ofUnits (n.value / n.den) 0
  | more + 1 =>
    match n.onGrid? (top - count) with
    | some units => ofUnits units (top - count)
    | none => n.search top (count + 1) more

/-- The fewest digits of the positive number `mantissa · 2^scale`. Twenty are more
than either format needs. -/
def Format.shortest (f : Format) (mantissa : Nat) (scale : Int) : Decimal :=
  let n := f.neighbourhood mantissa scale
  n.search (decade n.value n.den) 1 20

end SqlBinder.Binary

import SqlBinder.Powers

/-!
Binary interchange formats. A word is read as a sign, an exponent field and a fraction field; a
rational is written as the nearest word, a half to the even one.

All arithmetic is exact, on natural numbers and on fractions of them. So the width of a format is
data, both widths go through the same functions, and what is proved of one rounding holds of all
that the program does: reading a literal, narrowing 64 bits to 32, and taking an integer over.
-/
namespace SqlBinder.Binary

/-- Widths of the two fields below the sign bit. Everything else about a format follows from them:
its bias, its largest exponent and the spacing of its numbers. -/
structure Format where
  fractionBits : Nat
  exponentBits : Nat
  deriving DecidableEq, Repr

/-- The format of 64 bits: 52 bits of fraction and 11 of exponent. -/
def doubleFormat : Format := ⟨52, 11⟩

/-- The format of 32 bits: 23 bits of fraction and 8 of exponent. -/
def singleFormat : Format := ⟨23, 8⟩

/-- What a word stands for, whatever its format. The number of a word is exact; nothing is rounded
in reading it. -/
inductive Number where
  | nan
  | infinite (negative : Bool)
  /-- The value `mantissa · 2^scale`, with its sign. -/
  | finite (negative : Bool) (mantissa : Nat) (scale : Int)
  deriving DecidableEq, Repr

namespace Format

/-- The word of positive infinity, one above the largest finite word. -/
def infinityWord (f : Format) : Nat := (twoTo f.exponentBits - 1) * twoTo f.fractionBits

/-- The bit of the sign as a number, which is also how many words there are of either sign. -/
def signWord (f : Format) : Nat := twoTo (f.fractionBits + f.exponentBits)

/-- Scale of the last place of the smallest numbers. -/
def lowestScale (f : Format) : Int := 2 - twoTo (f.exponentBits - 1) - f.fractionBits

/-- Take a word apart. An exponent field of all ones marks infinities and NaN; a field of zeros
marks the numbers near zero, whose leading bit is not implied. -/
def read (f : Format) (word : Nat) : Number :=
  let negative := decide (f.signWord ≤ word)
  let magnitude := word % f.signWord
  let field := magnitude / twoTo f.fractionBits
  let fraction := magnitude % twoTo f.fractionBits
  if magnitude > f.infinityWord then .nan
  else if magnitude = f.infinityWord then .infinite negative
  else if field = 0 then .finite negative fraction f.lowestScale
  else .finite negative (fraction + twoTo f.fractionBits) (f.lowestScale + (field - 1 : Nat))

/-- The quotient rounded to the nearest integer, a half to the even one. -/
def divNearest (num den : Nat) : Nat :=
  let quotient := num / den
  let twice := 2 * (num % den)
  if twice > den ∨ (twice = den ∧ quotient % 2 = 1) then quotient + 1 else quotient

/-- The quotient scaled by a power of two, rounded as `divNearest`. -/
def divScaled (num den : Nat) (scale : Int) : Nat :=
  if 0 ≤ scale then divNearest num (den * twoTo scale.toNat)
  else divNearest (num * twoTo (-scale).toNat) den

/-- The exponent `e` with `2^e ≤ num / den < 2^(e+1)`, for positive numbers. -/
def log2Quotient (num den : Nat) : Int :=
  let e : Int := (num.log2 : Int) - den.log2
  let reached := if 0 ≤ e then den * twoTo e.toNat ≤ num else den ≤ num * twoTo (-e).toNat
  if reached then e else e - 1

/-- The word without sign nearest to a quotient. -/
def nearestMagnitude (f : Format) (num den : Nat) : Nat :=
  if num = 0 then 0
  else
    let scale := max (log2Quotient num den - f.fractionBits) f.lowestScale
    let mantissa := divScaled num den scale
    let word := (scale - f.lowestScale).toNat * twoTo f.fractionBits + mantissa
    min word f.infinityWord

/-- The word nearest to a quotient with a sign. -/
def nearest (f : Format) (negative : Bool) (num den : Nat) : Nat :=
  f.nearestMagnitude num den + if negative then f.signWord else 0

/-- The word for NaN that conversions give: without a sign, and with the first bit of the fraction
set. -/
def nanWord (f : Format) : Nat := f.infinityWord + twoTo (f.fractionBits - 1)

/-- The word nearest to a number of any format. -/
def write (f : Format) : Number → Nat
  | .nan => f.nanWord
  | .infinite negative => f.infinityWord + if negative then f.signWord else 0
  | .finite negative mantissa scale =>
    if 0 ≤ scale then f.nearest negative (mantissa * twoTo scale.toNat) 1
    else f.nearest negative mantissa (twoTo (-scale).toNat)

end Format

end SqlBinder.Binary

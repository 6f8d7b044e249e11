/-!
Decimal magnitudes as a run of digits with a point, and their positional text.

The point is counted from the left end of the digits and may lie outside of them. A magnitude is
normal if no zero stands at either end; then its text is the canonical one of its value, which has
neither an exponent nor a digit too many.
-/
namespace SqlBinder

/-- The magnitude `0.d₁d₂… · 10^point`, most significant digit first. Without zeros at its ends it
is the only one of its number. -/
structure Decimal where
  digits : List Nat
  point : Int
  deriving DecidableEq, Repr

namespace Decimal

/-- The list without the zeros behind. -/
def dropTrailingZeros (digits : List Nat) : List Nat :=
  (digits.reverse.dropWhile (· == 0)).reverse

/-- The same magnitude without zeros at either end; zero has no digits. -/
def normalize (d : Decimal) : Decimal :=
  let digits := d.digits.dropWhile (· == 0)
  ⟨dropTrailingZeros digits, d.point - (d.digits.length - digits.length : Nat)⟩

/-- Digits as characters, most significant first. -/
def digitChars (digits : List Nat) : List Char := digits.map Nat.digitChar

/-- Positional text, never with an exponent: `12.5`, `0.003`, `1200`. A digit
stands in front of the point. -/
def plainChars (d : Decimal) : List Char :=
  if d.point ≤ 0 then
    '0' :: '.' :: List.replicate (-d.point).toNat '0' ++ digitChars d.digits
  else if d.digits.length ≤ d.point.toNat then
    digitChars d.digits ++ List.replicate (d.point.toNat - d.digits.length) '0'
  else
    digitChars (d.digits.take d.point.toNat) ++ '.' :: digitChars (d.digits.drop d.point.toNat)

/-- Text with one digit in front of the point and an exponent: `1.5e-7`. -/
def exponentChars (d : Decimal) : List Char :=
  let first := digitChars (d.digits.take 1)
  let rest := digitChars (d.digits.drop 1)
  first ++ (if rest.isEmpty then [] else '.' :: rest) ++ 'e' :: (toString (d.point - 1)).toList

end Decimal

/-- A text with a minus sign in front of it, if asked for. -/
def withSign (negative : Bool) (cs : List Char) : List Char :=
  if negative then '-' :: cs else cs

end SqlBinder

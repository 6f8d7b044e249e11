import SqlBinder.Binary.Double
import SqlBinder.Binary.Shortest
import SqlBinder.Decimal.Literal

/-!
Floating-point numbers as text. Plain text is positional with the fewest digits; inspected text
marks integral numbers with `.0` and gives very large and very small ones an exponent. Reading takes
the nearest number.

Plain text is what a NUMBER is made of and what a caller is shown, so it has to be read back as the
same number; inspected text stands in messages only.
-/
namespace SqlBinder

open Binary

/-- Positional text: `1`, `0.0000001`, `-0`, `NaN`, `inf`. -/
def Binary.Number.plain (f : Format) : Number → String
  | .nan => "NaN"
  | .infinite negative => String.ofList (withSign negative ['i', 'n', 'f'])
  | .finite negative mantissa scale =>
    String.ofList <| withSign negative <|
      if mantissa = 0 then ['0'] else (f.shortest mantissa scale).plainChars

/-- Text that shows the type: `1.0`, `1e16`, `1.5e-7`. From `10^16` on and below
`10^-4` an exponent is written. -/
def Binary.Number.inspected (f : Format) : Number → String
  | .nan => "NaN"
  | .infinite negative => String.ofList (withSign negative ['i', 'n', 'f'])
  | .finite negative mantissa scale =>
    String.ofList <| withSign negative <|
      if mantissa = 0 then ['0', '.', '0']
      else
        let d := f.shortest mantissa scale
        if d.point > 16 ∨ d.point < -3 then d.exponentChars
        else if (d.digits.length : Int) ≤ d.point then d.plainChars ++ ['.', '0']
        else d.plainChars

/-- Positional text with the fewest digits. -/
def Double.plain (x : Double) : String := x.number.plain doubleFormat

/-- The number of 64 bits as text for developers. -/
def Double.inspected (x : Double) : String := x.number.inspected doubleFormat

/-- The number of 32 bits as text for developers, with the digits that its own width needs. -/
def Single.inspected (x : Single) : String := x.number.inspected singleFormat

namespace Double

/-- The number nearest to `0.d₁d₂… · 10^point`. Far outside the range the digits
do not matter. -/
def ofDecimal (negative : Bool) (d : Decimal) : Double :=
  let d := d.normalize
  ⟨UInt64.ofNat <|
    if d.digits = [] ∨ d.point < -400 then doubleFormat.nearest negative 0 1
    else if d.point > 400 then doubleFormat.write (.infinite negative)
    else
      let exponent := d.point - d.digits.length
      doubleFormat.nearest negative (Decimal.ofDigits d.digits * tenTo exponent.toNat)
        (tenTo (-exponent).toNat)⟩

/-- The names of numbers that digits cannot write, in any ASCII case. -/
def named? (cs : List Char) : Option Number :=
  let (negative, cs) := Decimal.splitSign cs
  let name := String.ofList (cs.map Char.toLower)
  if name = "nan" then some .nan
  else if name = "inf" ∨ name = "infinity" then some (.infinite negative)
  else none

/-- The exponent behind a literal: none at all, or `e` and an integer. -/
def exponent? : List Char → Option Int
  | [] => some 0
  | c :: rest => if c = 'e' ∨ c = 'E' then Decimal.readInt? rest else none

/-- The number a text denotes, rounded to the nearest one of 64 bits. -/
def parse? (cs : List Char) : Option Double :=
  match named? cs with
  | some n => some (ofNumber n)
  | none =>
    let l := Decimal.Literal.read cs
    if l.HasDigit then
      (exponent? l.rest).map fun e =>
        ofDecimal l.negative ⟨l.whole ++ l.fraction, l.whole.length + e⟩
    else none

end Double

end SqlBinder

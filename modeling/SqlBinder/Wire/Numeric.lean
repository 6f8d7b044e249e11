import SqlBinder.Decimal.Literal
import SqlBinder.Decimal.Plain
import SqlBinder.Binary.Text
import SqlBinder.Text.Blank
import SqlBinder.Text.Quoted
import SqlBinder.Error

/-!
The NUMBER wire form. The first byte is an exponent to base 100 with the sign in
its high bit. The pairs of decimal digits follow, each stored plus 1, or for a
negative number taken from 101; a negative number with fewer than 20 pairs ends
with a byte 102. Zero is the byte 128 alone.

What is encoded has at most 40 digits. Bytes that are decoded may be any, and of any length; as
places among their digits are counted with 32 bits, the text of a gigabyte of them is another one
than that of their number.
-/
namespace SqlBinder.Wire.Numeric

open SqlBinder.Text

/-- The most decimal digits a number may have. -/
def maxDigits : Nat := 40

/-- Digits in pairs from the left. A digit left over is the first of its pair. -/
def pairs : List Nat → List Nat
  | a :: b :: rest => (10 * a + b) :: pairs rest
  | [a] => [10 * a]
  | [] => []

/-- The digits of pairs, in order. -/
def unpair (ps : List Nat) : List Nat := ps.flatMap fun p => [p / 10, p % 10]

/-- The byte that stands for a pair, which depends on the sign of the number. -/
def pairByte (negative : Bool) (pair : Nat) : UInt8 :=
  UInt8.ofNat (if negative then 101 - pair else pair + 1)

/-- The wire form of a magnitude without zeros at its ends, or none beyond the
range of the type. -/
def ofDecimal? (negative : Bool) (d : Decimal) : Option (List UInt8) :=
  if d.digits = [] then some [0x80]
  else if maxDigits < d.digits.length ∨ d.point < -129 ∨ 126 < d.point then none
  else
    -- Pairs have to meet at the point.
    let odd := d.point % 2 = 1
    let digits := if odd then 0 :: d.digits else d.digits
    let point := if odd then d.point + 1 else d.point
    let exponent := (point / 2 + 192).toNat
    let body := pairs digits
    some <|
      UInt8.ofNat (if negative then 255 - exponent else exponent) ::
        body.map (pairByte negative) ++
        if negative ∧ body.length < 20 then [102] else []

/-- The magnitude a literal denotes with a given exponent. -/
def magnitude (l : Decimal.Literal) (exponent : Int) : Decimal :=
  Decimal.normalize ⟨l.whole ++ l.fraction, l.whole.length + exponent⟩

/-- The wire form of a number in text: sign, digits with an optional point, and an
optional exponent; blanks around it do not count. -/
def encode (text : String) : Except Error (List UInt8) := do
  let cs := trim text.toList
  let invalid := Error.conversion ("'" ++ String.ofList cs ++ "' is not a valid number")
  let l := Decimal.Literal.read cs
  if ¬l.HasDigit then throw invalid
  let exponent : Int ←
    match l.rest with
    | [] => pure 0
    | c :: rest =>
      if c = 'e' ∨ c = 'E' then
        match Decimal.readExponent? rest with
        | some e => pure e
        | none =>
          throw (.conversion ("'" ++ String.ofList cs ++ "' has an invalid exponent"))
      else throw invalid
  match ofDecimal? l.negative (magnitude l exponent) with
  | some bytes => pure bytes
  | none => throw .unrepresentable

/-- The wire form of a floating-point number. -/
def encodeDouble (x : Double) : Except Error (List UInt8) :=
  if x.isNaN then throw .notANumber
  else if x.isInfinite then throw .unrepresentable
  else encode x.plain

/-- The wire form of an integer. -/
def encodeInt (n : Int64) : Except Error (List UInt8) := encode (toString n.toInt)

/-- The pair a byte stands for, if it stands for one. -/
def pair? (positive : Bool) (byte : UInt8) : Option Nat :=
  let pair := (if positive then byte - 1 else 101 - byte).toNat
  if pair ≤ 99 then some pair else none

/-- The pairs that bytes stand for. The first byte that stands for none is told. -/
def readPairs (positive : Bool) : List UInt8 → Except Error (List Nat)
  | [] => pure []
  | byte :: rest =>
    match pair? positive byte with
    | some pair => return pair :: (← readPairs positive rest)
    | none =>
      throw (.protocol ("invalid NUMBER mantissa byte 0x" ++ String.ofList (hexByte byte)))

/-- The bytes behind the exponent without the closing 102 of a negative number. -/
def mantissa (positive : Bool) (bytes : List UInt8) : List UInt8 :=
  if !positive && bytes.getLast? == some 102 then bytes.dropLast else bytes

/-- How many there are of something, as a number of 32 bits with a sign: what does not fit wraps
around. -/
def counted (n : Nat) : Int := (Int32.ofNat n).toInt

/-- The result of arithmetic on numbers of 32 bits, which breaks off where it does not fit. -/
def within32 (n : Int) : Except Fault Int :=
  if -2147483648 ≤ n ∧ n ≤ 2147483647 then .ok n else throw .brokenOff

/-- The positional text of digits with the point at a place counted from their left. As how many
digits there are is counted with 32 bits, this is the text of the magnitude only up to a length. -/
def countedChars (digits : List Nat) (point : Int) : Except Fault (List Char) :=
  if point ≤ 0 then
    return '0' :: '.' :: List.replicate (-point).toNat '0' ++ Decimal.digitChars digits
  else if counted digits.length ≤ point then do
    let zeros ← within32 (point - counted digits.length)
    return Decimal.digitChars digits ++ List.replicate zeros.toNat '0'
  else
    return Decimal.digitChars (digits.take point.toNat) ++
      '.' :: Decimal.digitChars (digits.drop point.toNat)

/-- The text of digits, be there zeros at either end or not, with the point at a place counted from
their left. -/
def spell (negative : Bool) (digits : List Nat) (place : Int) : Except Fault String := do
  let behind := digits.dropWhile (· == 0)
  let leading := digits.length - behind.length
  let digits := Decimal.dropTrailingZeros behind
  if digits.isEmpty then return "0"
  let point ← within32 (place - counted leading)
  return String.ofList (withSign negative (← countedChars digits point))

/-- The decimal text of a number on the wire: exact, unless the bytes are so many that 32 bits do
not count their digits. -/
def decode : List UInt8 → Except Fault String
  | [] => throw (.refused (.protocol "NUMBER value has no bytes"))
  | head :: body => do
    let positive := decide (128 ≤ head.toNat)
    if body.isEmpty then return if positive then "0" else "-1e126"
    let ps ← Fault.ofExcept (readPairs positive (mantissa positive body))
    let exponent : Int := (if positive then head.toNat else 255 - head.toNat : Nat) - 193
    spell (!positive) (unpair ps) (2 * (exponent + 1))

end SqlBinder.Wire.Numeric

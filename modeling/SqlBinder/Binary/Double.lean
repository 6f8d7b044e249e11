import SqlBinder.Binary.Format

/-!
Floating-point numbers of 64 and 32 bits, kept as their words, with the conversions that values go
through.

A word is the whole state of such a number, so that two of them are equal exactly if the program
could not tell them apart, NaN and the sign of zero included. What a word stands for is read from it
with exact arithmetic; nothing here depends on how a machine computes with it.
-/
namespace SqlBinder

open Binary

/-- A floating-point number of 64 bits, kept as its word. Two words may stand for the same number,
as those of NaN do, and zero has a sign. -/
structure Double where
  word : UInt64
  deriving DecidableEq, Repr

/-- A floating-point number of 32 bits, kept as its word. Values are never of this width; it is met
only on the wire. -/
structure Single where
  word : UInt32
  deriving DecidableEq, Repr

namespace Double

/-- What the word stands for: an exact number with its sign, an infinity, or NaN. -/
def number (x : Double) : Number := doubleFormat.read x.word.toNat

/-- The number of 64 bits nearest to a number. -/
def ofNumber (n : Number) : Double := ⟨UInt64.ofNat (doubleFormat.write n)⟩

/-- The number of 64 bits nearest to an integer. -/
def ofInt (n : Int) : Double := ofNumber (.finite (decide (n < 0)) n.natAbs 0)

/-- The word stands for no number. There are many such words, and none of them may be sent. -/
def isNaN (x : Double) : Bool := x.number == .nan

/-- The word stands for an infinity of either sign. -/
def isInfinite (x : Double) : Bool :=
  match x.number with
  | .infinite _ => true
  | _ => false

/-- The word stands for a number, zero of either sign included. -/
def isFinite (x : Double) : Bool := !x.isNaN && !x.isInfinite

/-- The integer a number is, if it is one. -/
def toInt? (x : Double) : Option Int :=
  match x.number with
  | .finite negative mantissa scale =>
    let magnitude : Option Nat :=
      if 0 ≤ scale then some (mantissa * twoTo scale.toNat)
      else if mantissa % twoTo (-scale).toNat = 0 then some (mantissa / twoTo (-scale).toNat)
      else none
    magnitude.map fun n => if negative then -(n : Int) else n
  | _ => none

/-- The integer of 64 bits nearest to an integer; beyond the range, its end. -/
def clampInt64 (n : Int) : Int64 := 
  Int64.ofInt (max (-9223372036854775808) (min n 9223372036854775807))

/-- An integral number as an integer of 64 bits; beyond the range, its end. -/
def toInt64? (x : Double) : Option Int64 := x.toInt?.map clampInt64

/-- The nearest number of 32 bits. -/
def toSingle (x : Double) : Single := ⟨UInt32.ofNat (singleFormat.write x.number)⟩

end Double

namespace Single

/-- What the word of 32 bits stands for, in the same terms as that of 64. -/
def number (x : Single) : Number := singleFormat.read x.word.toNat

/-- The word of 32 bits stands for no number. -/
def isNaN (x : Single) : Bool := x.number == .nan

/-- The same number with 64 bits, which have room for every number of 32. -/
def toDouble (x : Single) : Double := Double.ofNumber x.number

end Single

end SqlBinder

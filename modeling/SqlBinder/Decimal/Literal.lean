/-!
How numbers are written in text: signs, runs of digits, points and exponents. Digits are the ASCII
ones.

A literal is taken apart without a look at what it is worth, so that what is refused for its form
and what is refused for its size are different questions. Integers of a fixed width are read here
too; they have digits and a sign only.
-/
namespace SqlBinder.Decimal

/-- What a character counts as a digit. Digits of other scripts are none. -/
def digit? (c : Char) : Option Nat :=
  if '0' ≤ c ∧ c ≤ '9' then some (c.toNat - '0'.toNat) else none

/-- The digits that a text begins with, up to the first character that is none. -/
def leadingDigits : List Char → List Nat
  | [] => []
  | c :: rest =>
    match digit? c with
    | some d => d :: leadingDigits rest
    | none => []

/-- A text split behind its sign. -/
def splitSign : List Char → Bool × List Char
  | '-' :: rest => (true, rest)
  | '+' :: rest => (false, rest)
  | rest => (false, rest)

/-- The number a run of digits denotes. -/
def ofDigits (digits : List Nat) : Nat := digits.foldl (fun n d => 10 * n + d) 0

/-- A run of digits with an optional point, and what stands behind it. Reading stops at the first
character that is none of these, so the rest tells whether the text is a number. -/
structure Literal where
  negative : Bool
  whole : List Nat
  fraction : List Nat
  rest : List Char
  deriving DecidableEq, Repr

/-- The longest literal a text begins with, exponent not included. -/
def Literal.read (cs : List Char) : Literal :=
  let (negative, cs) := splitSign cs
  let whole := leadingDigits cs
  match cs.drop whole.length with
  | '.' :: rest =>
    let fraction := leadingDigits rest
    ⟨negative, whole, fraction, rest.drop fraction.length⟩
  | rest => ⟨negative, whole, [], rest⟩

/-- At least one digit stands on either side of the point. -/
def Literal.HasDigit (l : Literal) : Prop := l.whole ≠ [] ∨ l.fraction ≠ []

instance (l : Literal) : Decidable l.HasDigit := inferInstanceAs (Decidable (_ ∨ _))

/-- An integer: an optional sign and at least one digit, nothing else. -/
def readInt? (cs : List Char) : Option Int :=
  let (negative, cs) := splitSign cs
  let digits := leadingDigits cs
  if digits ≠ [] ∧ digits.length = cs.length then
    some (if negative then -(ofDigits digits : Int) else ofDigits digits)
  else none

/-- An integer within bounds, both included. -/
def readIntIn? (low high : Int) (cs : List Char) : Option Int :=
  (readInt? cs).filter fun n => decide (low ≤ n ∧ n ≤ high)

/-- An integer of 64 bits, with or without a sign in front; nothing else may stand around it. -/
def readInt64? (cs : List Char) : Option Int64 :=
  (readIntIn? (-9223372036854775808) 9223372036854775807 cs).map Int64.ofInt

/-- An integer of 32 bits, as an exponent has to be. -/
def readExponent? (cs : List Char) : Option Int := readIntIn? (-2147483648) 2147483647 cs

end SqlBinder.Decimal

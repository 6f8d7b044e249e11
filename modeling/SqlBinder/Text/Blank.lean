import SqlBinder.Text.Ranges

/-!
Blank characters: the Unicode property White_Space. Trimming and the gap between a colon and its
name go by this class, which holds more than the blanks of ASCII: no-break spaces and the wide blank
of Chinese text are in it, a zero-width space is not.
-/
namespace SqlBinder.Text

/-- Where runs of White_Space characters begin and end. -/
def blankBoundaries : List Nat :=
  [
    0x9, 0xe, 0x20, 0x21, 0x85, 0x86, 0xa0, 0xa1, 0x1680, 0x1681, 0x2000, 0x200b, 0x2028, 0x202a,
    0x202f, 0x2030, 0x205f, 0x2060, 0x3000, 0x3001
  ]

/-- A White_Space character. -/
def isBlank (c : Char) : Bool := inside blankBoundaries c.toNat

/-- The text without the blanks in front. -/
def trimStart (cs : List Char) : List Char := cs.dropWhile isBlank

/-- The text without the blanks behind. -/
def trimEnd (cs : List Char) : List Char := (cs.reverse.dropWhile isBlank).reverse

/-- The text without the blanks at both ends. -/
def trim (cs : List Char) : List Char := trimEnd (trimStart cs)

end SqlBinder.Text

import SqlBinder.Calendar.Text

/-!
Patterns for dates as text. A directive begins with a percent sign and names a number or a word of
the date-time, or several of them with marks between; most numbers may carry a mark for how they are
padded; all else stands for itself. Directives for a time zone are none here, since a date-time has
none. A pattern is taken apart into its items first, so that whether it can be followed is known
without a date-time, and what it gives is put together from the items one by one.
-/
namespace SqlBinder.Calendar

/-- What fills a number up to its width, which depends on the field. -/
inductive Padding where
  | bare
  | zero
  | space
  deriving DecidableEq, Repr

/-- A number taken from a date-time. Weeks begin on Sunday or Monday and are counted from the first
such day of the year, or they belong to the year that their Thursday is in. -/
inductive Field where
  | year | century | yearOfCentury | quarter | month | day | dayOfYear
  | weekFromSunday | weekFromMonday | isoYear | isoYearOfCentury | isoWeek
  | weekdayFromSunday | weekdayFromMonday
  | hour | hour12 | minute | second | nanosecond
  /-- Seconds since 1 January 1970. -/
  | timestamp
  deriving DecidableEq, Repr

/-- A word taken from a date-time. -/
inductive Word where
  | shortMonth | longMonth | shortWeekday | longWeekday | upperHalf | lowerHalf
  deriving DecidableEq, Repr

/-- One item of a pattern. A letter for several items at once, such as a date with slashes, is these
items one behind the other. -/
inductive Item where
  | text (c : Char)
  | number (field : Field) (padding : Padding)
  | word (w : Word)
  /-- The fraction with its point, as short as it may be. -/
  | fraction
  /-- That many digits of the fraction, with or without a point. -/
  | digits (point : Bool) (count : Nat)
  deriving DecidableEq, Repr

/-- The number a letter stands for, with its own padding. -/
def Field.ofLetter? : Char → Option (Field × Padding)
  | 'Y' => some (.year, .zero)
  | 'C' => some (.century, .zero)
  | 'y' => some (.yearOfCentury, .zero)
  | 'q' => some (.quarter, .bare)
  | 'm' => some (.month, .zero)
  | 'd' => some (.day, .zero)
  | 'e' => some (.day, .space)
  | 'j' => some (.dayOfYear, .zero)
  | 'U' => some (.weekFromSunday, .zero)
  | 'W' => some (.weekFromMonday, .zero)
  | 'G' => some (.isoYear, .zero)
  | 'g' => some (.isoYearOfCentury, .zero)
  | 'V' => some (.isoWeek, .zero)
  | 'w' => some (.weekdayFromSunday, .bare)
  | 'u' => some (.weekdayFromMonday, .bare)
  | 'H' => some (.hour, .zero)
  | 'k' => some (.hour, .space)
  | 'I' => some (.hour12, .zero)
  | 'l' => some (.hour12, .space)
  | 'M' => some (.minute, .zero)
  | 'S' => some (.second, .zero)
  | 'f' => some (.nanosecond, .zero)
  | 's' => some (.timestamp, .bare)
  | _ => none

/-- Month, day and year with slashes. -/
def Item.slashedDate : List Item :=
  [.number .month .zero, .text '/', .number .day .zero, .text '/', .number .yearOfCentury .zero]

/-- Hour, minute and second, where `dial` says which hour it is. -/
def Item.timeOfDay (dial : Field) : List Item :=
  [.number dial .zero, .text ':', .number .minute .zero, .text ':', .number .second .zero]

/-- The items that a letter which is not a number stands for. -/
def Item.ofLetter? : Char → Option (List Item)
  | 'b' | 'h' => some [.word .shortMonth]
  | 'B' => some [.word .longMonth]
  | 'a' => some [.word .shortWeekday]
  | 'A' => some [.word .longWeekday]
  | 'p' => some [.word .upperHalf]
  | 'P' => some [.word .lowerHalf]
  | 'n' => some [.text '\n']
  | 't' => some [.text '\t']
  | '%' => some [.text '%']
  | 'F' => some [.number .year .zero, .text '-', .number .month .zero, .text '-',
      .number .day .zero]
  | 'v' => some [.number .day .space, .text '-', .word .shortMonth, .text '-',
      .number .year .zero]
  | 'D' | 'x' => some slashedDate
  | 'T' | 'X' => some (timeOfDay .hour)
  | 'r' => some (timeOfDay .hour12 ++ [.text ' ', .word .upperHalf])
  | 'c' => some ([.word .shortWeekday, .text ' ', .word .shortMonth, .text ' ',
      .number .day .space, .text ' '] ++ timeOfDay .hour ++ [.text ' ', .number .year .zero])
  | 'R' => some [.number .hour .zero, .text ':', .number .minute .zero]
  | _ => none

/-- The padding a mark asks for. -/
def Padding.ofMark? : Char → Option Padding
  | '-' => some .bare
  | '0' => some .zero
  | '_' => some .space
  | _ => none

/-- The items of a pattern, or none if it holds a directive that does not exist. -/
def items? : List Char → Option (List Item)
  | [] => some []
  | '%' :: '.' :: 'f' :: rest => (items? rest).map (.fraction :: ·)
  | '%' :: '.' :: '3' :: 'f' :: rest => (items? rest).map (.digits true 3 :: ·)
  | '%' :: '.' :: '6' :: 'f' :: rest => (items? rest).map (.digits true 6 :: ·)
  | '%' :: '.' :: '9' :: 'f' :: rest => (items? rest).map (.digits true 9 :: ·)
  | '%' :: '3' :: 'f' :: rest => (items? rest).map (.digits false 3 :: ·)
  | '%' :: '6' :: 'f' :: rest => (items? rest).map (.digits false 6 :: ·)
  | '%' :: '9' :: 'f' :: rest => (items? rest).map (.digits false 9 :: ·)
  | ['%'] => none
  | ['%', c] => directive? c
  | '%' :: c :: d :: rest =>
    match Padding.ofMark? c with
    | some padding =>
      match Field.ofLetter? d with
      | some (field, _) => (items? rest).map (.number field padding :: ·)
      | none => none
    | none =>
      match directive? c with
      | some items => (items? (d :: rest)).map (items ++ ·)
      | none => none
  | c :: rest => (items? rest).map (.text c :: ·)
where
  /-- The items of a letter behind a percent sign. -/
  directive? (c : Char) : Option (List Item) :=
    match Field.ofLetter? c with
    | some (field, padding) => some [.number field padding]
    | none => Item.ofLetter? c

/-- A number that is signed or not, padded to a width. -/
def numberChars (padding : Padding) (width n : Nat) : List Char :=
  match padding with
  | .bare => fill '0' 0 n
  | .zero => fill '0' width n
  | .space => fill ' ' width n

/-- A number that carries a sign below zero only, padded to a width that counts the sign. -/
def signedChars (padding : Padding) (width : Nat) (n : Int) : List Char :=
  let sign := if n < 0 then ['-'] else []
  match padding with
  | .bare => sign ++ fill '0' 0 n.natAbs
  | .zero => sign ++ fill '0' (width - sign.length) n.natAbs
  | .space =>
    let body := sign ++ fill '0' 0 n.natAbs
    List.replicate (width - body.length) ' ' ++ body

/-- A year of four places, with a sign beyond 0 to 9999. -/
def paddedYear (padding : Padding) (year : Int) : List Char :=
  if 0 ≤ year ∧ year ≤ 9999 then numberChars padding 4 year.toNat
  else
    let sign := if year < 0 then '-' else '+'
    match padding with
    | .bare => sign :: fill '0' 0 year.natAbs
    | .zero => sign :: fill '0' 4 year.natAbs
    | .space =>
      let body := sign :: fill '0' 0 year.natAbs
      List.replicate (5 - body.length) ' ' ++ body

/-- A number below 256 in two places. The tens are one character, counted on from
`0` even when there are ten or more of them. -/
def twoPlaces (padding : Padding) (n : Nat) : List Char :=
  let tens := n / 10
  let ones := [Char.ofNat ('0'.toNat + n % 10)]
  match tens, padding with
  | 0, .bare => ones
  | 0, .space => ' ' :: ones
  | _, _ => Char.ofNat ('0'.toNat + tens) :: ones

/-- English names of the months, January first. Their first three letters are the short names. -/
def monthNames : List String :=
  ["January", "February", "March", "April", "May", "June", "July", "August", "September",
    "October", "November", "December"]

/-- English names of the days of the week, Monday first. Their first three letters are the short
names. -/
def weekdayNames : List String :=
  ["Monday", "Tuesday", "Wednesday", "Thursday", "Friday", "Saturday", "Sunday"]

/-- The hour on a clock face. -/
def clockHour (hour : Nat) : Nat := if hour % 12 = 0 then 12 else hour % 12

/-- Whole seconds since 1 January 1970, which is day 719162. -/
def DateTime.timestamp (dt : DateTime) : Int :=
  (dt.date.number - 719162) * 86400 + ((dt.hour * 60 + dt.minute) * 60 + dt.second : Nat)

/-- A number of a date-time as text. -/
def Field.render (dt : DateTime) (padding : Padding) : Field → List Char
  | .year => paddedYear padding dt.date.year
  | .century => twoPlaces padding (dt.date.year / 100 % 256).toNat
  | .yearOfCentury => twoPlaces padding (dt.date.year % 100).toNat
  | .quarter => fill '0' 0 ((dt.date.month + 2) / 3)
  | .month => twoPlaces padding dt.date.month
  | .day => twoPlaces padding dt.date.day
  | .dayOfYear => numberChars padding 3 dt.date.dayOfYear
  | .weekFromSunday => twoPlaces padding (dt.date.weekFrom 6)
  | .weekFromMonday => twoPlaces padding (dt.date.weekFrom 0)
  | .isoYear => paddedYear padding dt.date.isoWeek.1
  | .isoYearOfCentury => twoPlaces padding (dt.date.isoWeek.1 % 100).toNat
  | .isoWeek => twoPlaces padding dt.date.isoWeek.2
  | .weekdayFromSunday => fill '0' 0 ((dt.date.weekday + 1) % 7)
  | .weekdayFromMonday => fill '0' 0 (dt.date.weekday + 1)
  | .hour => twoPlaces padding dt.hour
  | .hour12 => twoPlaces padding (clockHour dt.hour)
  | .minute => twoPlaces padding dt.minute
  | .second => twoPlaces padding dt.clockSecond
  | .nanosecond => numberChars padding 9 dt.subsecond
  | .timestamp => signedChars padding 9 dt.timestamp

/-- A word of a date-time. -/
def Word.render (dt : DateTime) : Word → List Char
  | .shortMonth => (monthNames.getD (dt.date.month - 1) "").toList.take 3
  | .longMonth => (monthNames.getD (dt.date.month - 1) "").toList
  | .shortWeekday => (weekdayNames.getD dt.date.weekday "").toList.take 3
  | .longWeekday => (weekdayNames.getD dt.date.weekday "").toList
  | .upperHalf => if dt.hour < 12 then ['A', 'M'] else ['P', 'M']
  | .lowerHalf => if dt.hour < 12 then ['a', 'm'] else ['p', 'm']

/-- One item as text. -/
def Item.render (dt : DateTime) : Item → List Char
  | .text c => [c]
  | .number field padding => field.render dt padding
  | .word w => w.render dt
  | .fraction => fractionChars dt.subsecond
  | .digits point count =>
    let digits := fill '0' count (dt.subsecond / tenTo (9 - count))
    if point then '.' :: digits else digits

/-- A date-time as a pattern asks for it, if the pattern can be followed. -/
def DateTime.render? (dt : DateTime) (pattern : String) : Option String :=
  (items? pattern.toList).map fun items => String.ofList (items.flatMap (·.render dt))

end SqlBinder.Calendar

/-!
# Numbers and dates of settings

A number or a date of a settings file is recognised and otherwise passed over, since no
option holds one. What is recognised is exactly what TOML allows: an integer fits into
64 bits with its sign, a float that would round to positive infinity is refused, and dates
and times lie in the calendar and on the clock.
-/

namespace Phrasebook.Settings

/-- Whether a character is a decimal digit. -/
def isDecimalDigit (c : Char) : Bool :=
  '0' ≤ c && c ≤ '9'

/-- Whether a character is a hexadecimal digit. -/
def isHexDigit (c : Char) : Bool :=
  isDecimalDigit c || ('a' ≤ c && c ≤ 'f') || ('A' ≤ c && c ≤ 'F')

/-- The value of a digit in any base up to sixteen. -/
def digitValue (c : Char) : Nat :=
  if isDecimalDigit c then c.toNat - '0'.toNat
  else if 'a' ≤ c then c.toNat - 'a'.toNat + 10
  else c.toNat - 'A'.toNat + 10

/-- The number that a row of digits spells in a base, underscores apart. -/
def rowValue (base : Nat) (row : List Char) : Nat :=
  row.foldl (fun n c => if c = '_' then n else base * n + digitValue c) 0

/-- Whether a text is a row of digits, with single underscores between digits at most. -/
def isDigitRow (digit : Char → Bool) : List Char → Bool
  | [] => false
  | [c] => digit c
  | c :: '_' :: rest => digit c && isDigitRow digit rest
  | c :: rest => digit c && isDigitRow digit rest

/-- Whether a text is a row of decimal digits without superfluous zeros in front. -/
def isDecimalRow (row : List Char) : Bool :=
  isDigitRow isDecimalDigit row && (row.length == 1 || row.head? != some '0')

/-- The greatest integer. -/
def maxInteger : Nat := Nat.pow 2 63 - 1

/-- Whether a text is an integer in some base, without sign. -/
def isPrefixedInteger (base : Nat) (digit : Char → Bool) (row : List Char) : Bool :=
  isDigitRow digit row && rowValue base row ≤ maxInteger

/-- Whether a text is an integer. -/
def isInteger : List Char → Bool
  | '0' :: 'x' :: row => isPrefixedInteger 16 isHexDigit row
  | '0' :: 'o' :: row => isPrefixedInteger 8 (fun c => '0' ≤ c && c ≤ '7') row
  | '0' :: 'b' :: row => isPrefixedInteger 2 (fun c => c == '0' || c == '1') row
  | '-' :: row => isDecimalRow row && rowValue 10 row ≤ maxInteger + 1
  | '+' :: row => isDecimalRow row && rowValue 10 row ≤ maxInteger
  | row => isDecimalRow row && rowValue 10 row ≤ maxInteger

/-! ### Floats -/

/-- The least number that rounds to infinity as a 64-bit float. -/
def infinityThreshold : Nat := Nat.pow 2 1024 - Nat.pow 2 970

/-- Whether `mantissa * 10 ^ exponent` rounds to infinity. Numbers whose first digit alone
decides are not computed. -/
def roundsToInfinity (mantissa : Nat) (exponent : Int) : Bool :=
  let magnitude : Int := (Nat.toDigits 10 mantissa).length + exponent
  if mantissa = 0 || magnitude < 300 then false
  else if 310 < magnitude then true
  else
    decide (infinityThreshold * Nat.pow 10 (-exponent).toNat ≤ mantissa * Nat.pow 10 exponent.toNat)

/-- The exponent that a text spells after its `e`, if it does. -/
def exponent? : List Char → Option Int
  | '-' :: row => if isDigitRow isDecimalDigit row then some (-(rowValue 10 row : Int)) else none
  | '+' :: row => if isDigitRow isDecimalDigit row then some (rowValue 10 row) else none
  | row => if isDigitRow isDecimalDigit row then some (rowValue 10 row) else none

/-- Whether a character may stand in a row of digits. -/
def isRowChar (c : Char) : Bool :=
  isDecimalDigit c || c == '_'

/-- The mantissa and the exponent of a float without sign. -/
def unsignedFloat? (s : List Char) : Option (Nat × Int) := do
  let whole := s.takeWhile isRowChar
  if !isDecimalRow whole then failure
  match s.dropWhile isRowChar with
  | '.' :: rest =>
    let fraction := rest.takeWhile isRowChar
    if !isDigitRow isDecimalDigit fraction then failure
    let places := (fraction.filter isDecimalDigit).length
    let mantissa := rowValue 10 (whole ++ fraction)
    match rest.dropWhile isRowChar with
    | [] => return (mantissa, -(places : Int))
    | c :: row =>
      if c = 'e' ∨ c = 'E' then return (mantissa, (← exponent? row) - places) else failure
  | c :: row =>
    if c = 'e' ∨ c = 'E' then return (rowValue 10 whole, ← exponent? row) else failure
  | [] => failure

/-- Whether a text is a float without sign, among these the two special ones. -/
def isUnsignedFloat (s : List Char) (negative : Bool) : Bool :=
  s == ['i', 'n', 'f'] || s == ['n', 'a', 'n'] ||
    (unsignedFloat? s).any fun float => negative || !roundsToInfinity float.1 float.2

/-- Whether a text is a float. -/
def isFloat : List Char → Bool
  | '-' :: s => isUnsignedFloat s true
  | '+' :: s => isUnsignedFloat s false
  | s => isUnsignedFloat s false

/-! ### Dates and times -/

/-- The number of two digits. -/
def twoDigits? (a b : Char) : Option Nat :=
  if isDecimalDigit a && isDecimalDigit b then some (10 * digitValue a + digitValue b) else none

/-- Whether a year has a leap day. -/
def isLeapYear (year : Nat) : Bool :=
  year % 4 == 0 && (year % 100 != 0 || year % 400 == 0)

/-- How many days a month has. -/
def daysInMonth (year month : Nat) : Nat :=
  if month = 2 then (if isLeapYear year then 29 else 28)
  else if month = 4 ∨ month = 6 ∨ month = 9 ∨ month = 11 then 30
  else 31

/-- What follows a date at the beginning of a text. -/
def afterDate? : List Char → Option (List Char)
  | a :: b :: c :: d :: '-' :: e :: f :: '-' :: g :: h :: rest => do
    let year := 100 * (← twoDigits? a b) + (← twoDigits? c d)
    let month ← twoDigits? e f
    let day ← twoDigits? g h
    if 1 ≤ month ∧ month ≤ 12 ∧ 1 ≤ day ∧ day ≤ daysInMonth year month then return rest
    else failure
  | _ => none

/-- What follows the fraction of a second, if there is one, at the beginning of a text. -/
def afterFraction? : List Char → Option (List Char)
  | '.' :: rest =>
    if (rest.takeWhile isDecimalDigit).isEmpty then none else some (rest.dropWhile isDecimalDigit)
  | rest => some rest

/-- What follows a time at the beginning of a text. A minute may have a leap second. -/
def afterTime? : List Char → Option (List Char)
  | a :: b :: ':' :: c :: d :: ':' :: e :: f :: rest => do
    let hour ← twoDigits? a b
    let minute ← twoDigits? c d
    let second ← twoDigits? e f
    if hour ≤ 23 ∧ minute ≤ 59 ∧ second ≤ 60 then afterFraction? rest else failure
  | _ => none

/-- Whether a text is the offset of a time zone, or nothing. -/
def isOffset : List Char → Bool
  | [] => true
  | [c] => c == 'Z' || c == 'z'
  | [sign, a, b, ':', c, d] =>
    (sign == '+' || sign == '-') && (twoDigits? a b).any (· ≤ 23) && (twoDigits? c d).any (· ≤ 59)
  | _ => false

/-- Whether a text is a time, perhaps with the offset of a time zone. -/
def isZonedTime (s : List Char) : Bool :=
  (afterTime? s).any isOffset

/-- Whether a text is a date. -/
def isDate (s : List Char) : Bool :=
  afterDate? s == some []

/-- Whether a text is a date, a time, or both with a `T` between them. -/
def isMoment (s : List Char) : Bool :=
  isDate s || afterTime? s == some [] ||
    match afterDate? s with
    | some (c :: time) => (c == 'T' || c == 't') && isZonedTime time
    | _ => false

end Phrasebook.Settings

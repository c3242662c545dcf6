import AlloyAssist.Number.Digits
import AlloyAssist.Toml.Value

/-!
# TOML numbers, dates and truth values

Everything that is neither quoted nor bracketed is one run of characters, judged as
a whole. Digits may be grouped by single underscores, decimal numbers have no
leading zeros, and dates must exist in the calendar.
-/

namespace AlloyAssist.Toml

open Number

/-! ## Numbers -/

/-- Digits that follow a first one; each underscore stands between two digits. -/
def isRunTail (isDigit : Char → Bool) : List Char → Bool
  | [] => true
  | '_' :: c :: rest => isDigit c && isRunTail isDigit rest
  | c :: rest => isDigit c && isRunTail isDigit rest

/-- At least one digit, possibly grouped by underscores. -/
def isRun (isDigit : Char → Bool) : List Char → Bool
  | [] => false
  | c :: rest => isDigit c && isRunTail isDigit rest

/-- A run of decimal digits without leading zero. -/
def isDecimal (text : List Char) : Bool :=
  isRun Char.isDigit text && (text.head? != some '0' || text.length == 1)

/-- Drop a sign. -/
def unsigned : List Char → List Char
  | '+' :: rest => rest
  | '-' :: rest => rest
  | text => text

/-- A whole number in one of the four bases. Only decimal numbers have a sign. -/
def isInteger (text : List Char) : Bool :=
  match text with
  | '0' :: 'x' :: rest => isRun (fun c => (hexDigit? c).isSome) rest
  | '0' :: 'o' :: rest => isRun (fun c => '0' ≤ c && c ≤ '7') rest
  | '0' :: 'b' :: rest => isRun (fun c => c == '0' || c == '1') rest
  | _ => isDecimal (unsigned text)

/-- The mark of a base that no digits follow. -/
def isBareBase (text : List Char) : Bool :=
  text == ['0', 'x'] || text == ['0', 'o'] || text == ['0', 'b']

/-- The mark in front of an exponent. -/
def isExponentMark (c : Char) : Bool :=
  c == 'e' || c == 'E'

/-- The parts of a decimal fraction as written. -/
structure Fraction where
  whole : List Char
  fraction : Option (List Char)
  exponent : Option (List Char)

namespace Fraction

/-- Cut an unsigned number at its point and at its exponent mark. -/
def ofChars (text : List Char) : Fraction :=
  let mantissa := text.takeWhile fun c => !isExponentMark c
  { whole := mantissa.takeWhile (· != '.')
    fraction :=
      match mantissa.dropWhile (· != '.') with
      | [] => none
      | _ :: digits => some digits
    exponent :=
      match text.dropWhile fun c => !isExponentMark c with
      | [] => none
      | _ :: digits => some digits }

/-- The digits of a run without the underscores that group them. -/
def plainDigits (text : List Char) : List Char :=
  text.filter Char.isDigit

/-- The power of ten by which the digits are scaled. -/
def scale (number : Fraction) : Int :=
  (match number.exponent with
    | none => 0
    | some ('-' :: digits) => -(decimalValue (plainDigits digits) : Int)
    | some digits => (decimalValue (plainDigits digits) : Int)) -
    ((number.fraction.elim 0 fun digits => (plainDigits digits).length) : Int)

/-- A number with a point or an exponent, every part in order. -/
def isWellFormed (number : Fraction) : Bool :=
  isDecimal number.whole &&
    (number.fraction.isSome || number.exponent.isSome) &&
    number.fraction.all (isRun Char.isDigit) &&
    number.exponent.all (fun digits => isRun Char.isDigit (unsigned digits))

/-- More than a double can hold. -/
def overflows (number : Fraction) : Bool :=
  leavesDoubles (plainDigits (number.whole ++ number.fraction.getD [])) number.scale

end Fraction

/-- A number with a point or an exponent, an infinity or a value that is no
number. -/
def isFloat (text : List Char) : Bool :=
  unsigned text == ['i', 'n', 'f'] || unsigned text == ['n', 'a', 'n'] ||
    (Fraction.ofChars (unsigned text)).isWellFormed

/-- A number with a point or an exponent that is more than a double can hold. -/
def overflowsDoubles (text : List Char) : Bool :=
  (Fraction.ofChars (unsigned text)).isWellFormed &&
    (Fraction.ofChars (unsigned text)).overflows

/-! ## Dates and times -/

/-- Read exactly so many digits. -/
def readDigits? (count : Nat) (text : List Char) : Option (Nat × List Char) :=
  if (text.take count).length = count ∧ (text.take count).all Char.isDigit then
    some (decimalValue (text.take count), text.drop count)
  else none

/-- Take a given character off the front. -/
def expect? (c : Char) (text : List Char) : Option (List Char) :=
  match text with
  | other :: rest => if other = c then some rest else none
  | [] => none

/-- How many days a month has. -/
def daysInMonth (year month : Nat) : Nat :=
  if month = 2 then
    if year % 4 = 0 ∧ (year % 100 ≠ 0 ∨ year % 400 = 0) then 29 else 28
  else if month = 4 ∨ month = 6 ∨ month = 9 ∨ month = 11 then 30
  else 31

/-- Take a calendar date off the front. -/
def readDate? (text : List Char) : Option (List Char) := do
  let (year, text) ← readDigits? 4 text
  let (month, text) ← readDigits? 2 (← expect? '-' text)
  let (day, text) ← readDigits? 2 (← expect? '-' text)
  guard (1 ≤ month ∧ month ≤ 12 ∧ 1 ≤ day ∧ day ≤ daysInMonth year month)
  return text

/-- Take the digits behind the seconds off the front, if there are any. -/
def readSubseconds? (text : List Char) : Option (List Char) :=
  match text with
  | '.' :: rest =>
      if (rest.takeWhile Char.isDigit).isEmpty then none else some (rest.dropWhile Char.isDigit)
  | _ => some text

/-- Take a time of day off the front. Seconds may be left out, and a minute may have
a leap second. -/
def readTime? (text : List Char) : Option (List Char) := do
  let (hour, text) ← readDigits? 2 text
  let (minute, text) ← readDigits? 2 (← expect? ':' text)
  guard (hour ≤ 23 ∧ minute ≤ 59)
  match text with
  | ':' :: rest =>
      let (second, text) ← readDigits? 2 rest
      guard (second ≤ 60)
      readSubseconds? text
  | _ => return text

/-- What may follow date and time: nothing, or the distance from universal time. -/
def isOffset (text : List Char) : Bool :=
  match text with
  | [] => true
  | 'Z' :: [] => true
  | 'z' :: [] => true
  | c :: rest =>
      (c == '+' || c == '-') &&
        ((do
          let (hour, text) ← readDigits? 2 rest
          let (minute, text) ← readDigits? 2 (← expect? ':' text)
          return hour ≤ 23 && minute ≤ 59 && text.isEmpty) : Option Bool).getD false

/-- A date, a time, or both joined by a letter or a space. -/
def isDateTime (text : List Char) : Bool :=
  match readDate? text with
  | some [] => true
  | some (c :: rest) =>
      (c == 'T' || c == 't' || c == ' ') && (readTime? rest).any isOffset
  | none => readTime? text == some []

/-! ## Classification -/

/-- Characters that unquoted values are made of. -/
def isScalarChar (c : Char) : Bool :=
  c.isAlphanum || c == '+' || c == '-' || c == '_' || c == '.' || c == ':'

/-- The value that an unquoted run spells. -/
def classify? (text : List Char) : Option Value :=
  if text = ['t', 'r', 'u', 'e'] then some (.boolean true)
  else if text = ['f', 'a', 'l', 's', 'e'] then some (.boolean false)
  else if isBareBase text || overflowsDoubles text then some (.valueless (String.ofList text))
  else if isInteger text then some (.integer (String.ofList text))
  else if isFloat text then some (.float (String.ofList text))
  else if isDateTime text then some (.dateTime (String.ofList text))
  else none

/-- A space between a date and a digit joins date and time. -/
def joinsTime (run rest : List Char) : Bool :=
  (readDate? run == some []) &&
    match rest with
    | ' ' :: c :: _ => c.isDigit
    | _ => false

/-- Read an unquoted value. -/
def readScalar? (text : List Char) : Option (Value × List Char) :=
  let run := text.takeWhile isScalarChar
  let rest := text.dropWhile isScalarChar
  if joinsTime run rest then
    (classify? (run ++ ' ' :: rest.tail.takeWhile isScalarChar)).map fun value =>
      (value, rest.tail.dropWhile isScalarChar)
  else (classify? run).map fun value => (value, rest)

end AlloyAssist.Toml

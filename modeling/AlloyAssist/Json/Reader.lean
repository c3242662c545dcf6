import AlloyAssist.Json.Basic
import AlloyAssist.Number.Digits

/-!
# Reading JSON

The reader takes a value off the front of a text and returns what is left, so that
a caller can judge what follows. Objects and arrays may lie inside each other up
to a fixed depth; deeper texts are refused like malformed ones, and so are numbers
too large for a double and escapes that spell half a surrogate pair.
-/

namespace AlloyAssist.Json

open Number

/-- The four blanks that may stand between the parts of a value. -/
def isGap (c : Char) : Bool :=
  c == ' ' || c == '\t' || c == '\n' || c == '\r'

/-- Drop the blanks in front. -/
def skipGap (text : List Char) : List Char :=
  text.dropWhile isGap

/-! ## Strings -/

/-- Cut a text behind the quote that closes a string. An escaped quote does not
close it. -/
def cutString : List Char → Option (List Char × List Char)
  | [] => none
  | '"' :: rest => some ([], rest)
  | '\\' :: c :: rest =>
      (cutString rest).map fun (body, tail) => ('\\' :: c :: body, tail)
  | c :: rest => (cutString rest).map fun (body, tail) => (c :: body, tail)

/-- The characters written with a backslash and one more character. -/
def shortEscape? (c : Char) : Option Char :=
  match c with
  | '"' => some '"'
  | '\\' => some '\\'
  | '/' => some '/'
  | 'b' => some '\x08'
  | 'f' => some '\x0c'
  | 'n' => some '\n'
  | 'r' => some '\r'
  | 't' => some '\t'
  | _ => none

/-- The first half of a surrogate pair. -/
def isHighSurrogate (unit : Nat) : Bool :=
  0xD800 ≤ unit && unit ≤ 0xDBFF

/-- The second half of a surrogate pair. -/
def isLowSurrogate (unit : Nat) : Bool :=
  0xDC00 ≤ unit && unit ≤ 0xDFFF

/-- The character that a surrogate pair spells. -/
def pairChar (high low : Nat) : Char :=
  Char.ofNat (0x10000 + (high - 0xD800) * 0x400 + (low - 0xDC00))

/-- Resolve the escapes of a string's body. Control characters must be escaped,
and a surrogate must have its other half. -/
def unescape : List Char → Option (List Char)
  | [] => some []
  | '\\' :: 'u' :: a :: b :: c :: d :: rest =>
      match hexValue? [a, b, c, d] with
      | none => none
      | some unit =>
          if isHighSurrogate unit then
            match rest with
            | '\\' :: 'u' :: e :: f :: g :: h :: tail =>
                match hexValue? [e, f, g, h] with
                | none => none
                | some low =>
                    if isLowSurrogate low then
                      (unescape tail).map (pairChar unit low :: ·)
                    else none
            | _ => none
          else if isLowSurrogate unit then none
          else (unescape rest).map (Char.ofNat unit :: ·)
  | '\\' :: c :: rest =>
      match shortEscape? c with
      | some char => (unescape rest).map (char :: ·)
      | none => none
  | c :: rest =>
      if c = '\\' ∨ c.toNat < 0x20 then none else (unescape rest).map (c :: ·)

/-- Read the rest of a string whose opening quote is already taken. -/
def readString? (text : List Char) : Option (String × List Char) :=
  (cutString text).bind fun (body, rest) =>
    (unescape body).map fun value => (String.ofList value, rest)

/-! ## Numbers -/

/-- The parts of a number as written. -/
structure Numeral where
  negative : Bool
  whole : List Char
  /-- The digits behind the point; empty when there is no point. -/
  fraction : List Char
  /-- Sign and digits of the exponent, if there is one. -/
  exponent : Option (Bool × List Char)
  deriving Repr

namespace Numeral

/-- Read the digits of an exponent and what follows. -/
def readExponent? (text : List Char) : Option (Option (Bool × List Char) × List Char) :=
  match text with
  | c :: rest =>
      if c = 'e' ∨ c = 'E' then
        let (negative, digits) :=
          match rest with
          | '-' :: digits => (true, digits)
          | '+' :: digits => (false, digits)
          | digits => (false, digits)
        match digits.takeWhile Char.isDigit with
        | [] => none
        | run => some (some (negative, run), digits.dropWhile Char.isDigit)
      else some (none, text)
  | [] => some (none, [])

/-- Read the digits behind the point, if there is one, and what follows. -/
def readFraction? (text : List Char) : Option (List Char × List Char) :=
  match text with
  | '.' :: rest =>
      match rest.takeWhile Char.isDigit with
      | [] => none
      | run => some (run, rest.dropWhile Char.isDigit)
  | _ => some ([], text)

/-- Read the digits in front of the point. A leading zero stands alone. -/
def readWhole? (text : List Char) : Option (List Char × List Char) :=
  match text.takeWhile Char.isDigit with
  | [] => none
  | '0' :: _ :: _ => none
  | run => some (run, text.dropWhile Char.isDigit)

/-- Read a number and what follows. -/
def read? (text : List Char) : Option (Numeral × List Char) := do
  let (negative, text) :=
    match text with
    | '-' :: rest => (true, rest)
    | _ => (false, text)
  let (whole, text) ← readWhole? text
  let (fraction, text) ← readFraction? text
  let (exponent, text) ← readExponent? text
  return ({ negative, whole, fraction, exponent }, text)

/-- The number has neither fraction nor exponent. -/
def isWhole (numeral : Numeral) : Bool :=
  numeral.fraction.isEmpty && numeral.exponent.isNone

/-- The power of ten that the exponent names. -/
def power (numeral : Numeral) : Int :=
  match numeral.exponent with
  | none => 0
  | some (true, digits) => -(decimalValue digits : Int)
  | some (false, digits) => (decimalValue digits : Int)

/-- The leading digits that fit in 64 bits as one number, and the power of ten by which
it is scaled. Digits that do not fit count as zeros. -/
def leading (numeral : Numeral) : Nat × Int :=
  match takeDigits 0 numeral.whole with
  | (value, wholeLeft) =>
      match takeDigits value numeral.fraction with
      | (value, fractionLeft) =>
          (value,
            numeral.power + (wholeLeft.length : Int) -
              ((numeral.fraction.length - fractionLeft.length : Nat) : Int))

/-- The number is too large for a double. -/
def overflows (numeral : Numeral) : Bool :=
  match numeral.leading with
  | (value, scale) => productLeavesDoubles value scale

/-- The number as written. -/
def literal (numeral : Numeral) : String :=
  String.ofList
    ((if numeral.negative then ['-'] else []) ++ numeral.whole ++
      (if numeral.fraction.isEmpty then [] else '.' :: numeral.fraction) ++
      (match numeral.exponent with
        | none => []
        | some (negative, digits) => 'e' :: (if negative then '-' :: digits else digits)))

/-- The value of a number. Whole numbers that fit in 64 bits, signed or unsigned,
are kept as such; a negative zero is not one of them. -/
def toJson? (numeral : Numeral) : Option Json :=
  let value := decimalValue numeral.whole
  if numeral.isWhole && !numeral.negative && value < Nat.pow 2 64 then some (.int value)
  else if numeral.isWhole && numeral.negative && 0 < value && value ≤ Nat.pow 2 63 then
    some (.int (-(value : Int)))
  else if numeral.overflows then none
  else some (.decimal numeral.literal)

end Numeral

/-! ## Values -/

/-- Read the items of an array or object up to the closing bracket. Items are
separated by commas, and at least one must be there. The number bounds how many
items are read; the length of the text is always enough. -/
def readItems? {α : Type} (item : List Char → Option (α × List Char)) (close : Char) :
    Nat → List Char → Option (List α × List Char)
  | 0, _ => none
  | bound + 1, text =>
      match item (skipGap text) with
      | none => none
      | some (value, rest) =>
          match skipGap rest with
          | [] => none
          | c :: tail =>
              if c = ',' then
                (readItems? item close bound tail).map fun (values, tail) =>
                  (value :: values, tail)
              else if c = close then some ([value], tail)
              else none

/-- Read the items of an array or object, of which there may be none. -/
def readAll? {α : Type} (item : List Char → Option (α × List Char)) (close : Char)
    (text : List Char) : Option (List α × List Char) :=
  match skipGap text with
  | [] => none
  | c :: rest => if c = close then some ([], rest) else readItems? item close text.length text

/-- Read a member of an object: a name, a colon and a value. -/
def readMember? (value : List Char → Option (Json × List Char)) (text : List Char) :
    Option ((String × Json) × List Char) :=
  match text with
  | '"' :: rest =>
      match readString? rest with
      | none => none
      | some (name, rest) =>
          match skipGap rest with
          | ':' :: rest =>
              (value (skipGap rest)).map fun (json, rest) => ((name, json), rest)
          | _ => none
  | _ => none

/-- Read a value that starts right here. The number says how many levels of
arrays and objects it may have. -/
def readValue? : Nat → List Char → Option (Json × List Char)
  | depth, text =>
      match text with
      | 'n' :: 'u' :: 'l' :: 'l' :: rest => some (.null, rest)
      | 't' :: 'r' :: 'u' :: 'e' :: rest => some (.bool true, rest)
      | 'f' :: 'a' :: 'l' :: 's' :: 'e' :: rest => some (.bool false, rest)
      | '"' :: rest => (readString? rest).map fun (value, rest) => (.string value, rest)
      | '[' :: rest =>
          match depth with
          | 0 => none
          | depth + 1 =>
              (readAll? (readValue? depth) ']' rest).map fun (values, rest) =>
                (.array values, rest)
      | '{' :: rest =>
          match depth with
          | 0 => none
          | depth + 1 =>
              (readAll? (readMember? (readValue? depth)) '}' rest).map fun (members, rest) =>
                (.object members, rest)
      | _ =>
          (Numeral.read? text).bind fun (numeral, rest) =>
            numeral.toJson?.map fun value => (value, rest)

/-- How deep arrays and objects may lie inside each other. -/
def maxDepth : Nat := 127

/-- Take a value off the front of a text. -/
def readFront? (text : List Char) : Option (Json × List Char) :=
  readValue? maxDepth (skipGap text)

/-- Read a text that holds one value and nothing else. -/
def parse? (text : String) : Option Json :=
  match readFront? text.toList with
  | some (json, rest) => if skipGap rest = [] then some json else none
  | none => none

end AlloyAssist.Json

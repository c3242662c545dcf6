import AlloyAssist.Number.Digits
import AlloyAssist.Text.Pieces

/-!
# Tables of characters

What is known about the characters of domain names is kept in tables. A table is a text
of words, and each word holds the numbers of one row, in hexadecimal digits with marks
between them. Tables speak of characters beyond ASCII that a name may hold in the end;
they say nothing of value about any others.
-/

namespace AlloyAssist.Url.Domain

open Number Text

/-- The numbers of a word. -/
def numbers (word : List Char) : List Nat :=
  (pieces (fun c => (hexDigit? c).isNone) word).map fun digits => (hexValue? digits).getD 0

/-- The rows of a table. -/
def rows (table : String) : List (List Nat) :=
  ((pieces Char.isWhitespace table.toList).filter fun word => !word.isEmpty).map numbers

/-- A range of code points, both ends included. -/
structure Range where
  first : Nat
  last : Nat
  deriving DecidableEq, Repr

namespace Range

/-- Whether a code point lies in a range. -/
def contains (range : Range) (code : Nat) : Bool :=
  range.first ≤ code && code ≤ range.last

/-- The range of a row: one code point, or the first and the last. -/
def ofRow? : List Nat → Option Range
  | [code] => some ⟨code, code⟩
  | [first, last] => some ⟨first, last⟩
  | _ => none

end Range

/-- The ranges of a table. -/
def ranges (table : String) : List Range :=
  (rows table).filterMap Range.ofRow?

/-- Whether a code point lies in one of some ranges. -/
def covers (ranges : List Range) (code : Nat) : Bool :=
  ranges.any fun range => range.contains code

end AlloyAssist.Url.Domain

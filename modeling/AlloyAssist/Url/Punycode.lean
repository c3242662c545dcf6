import AlloyAssist.Text.Pieces

/-!
# Punycode

Labels of domain names that go beyond ASCII are written in ASCII. The ASCII
characters of the label come first. The others are put in among them one by one, in
rising order, and each such insertion is described by its distance from the one
before. `distances` finds these numbers from the label alone; `write` spells them
with digits whose weights adapt to the numbers already written. On the way back
`read?` finds the numbers and `insertAll?` follows them.
-/

namespace AlloyAssist.Url.Punycode

open Text

/-! ## Distances -/

/-- A character put into a label that is still growing: its code point, and how many
characters stand in front of it at that time. -/
structure Insertion where
  code : Nat
  index : Nat
  deriving DecidableEq, Repr

/-- The insertions of a label's characters beyond ASCII, from left to right, where
`before` holds the code points already passed. Smaller characters are all in place by
the time of an insertion, and of equal ones those further left. -/
def insertions (before : List Nat) : List Nat → List Insertion
  | [] => []
  | code :: label =>
      let others := insertions (code :: before) label
      if code < 0x80 then others else ⟨code, before.countP (· ≤ code)⟩ :: others

/-- The insertions in the order in which they are made. -/
def ordered (label : List Nat) : List Insertion :=
  (insertions [] label).mergeSort fun left right => left.code ≤ right.code

/-- How far each insertion lies from the place where the last one left off. A label
of `length` characters has one place more than that for every code point. -/
def distances (length : Nat) (place : Insertion) : List Insertion → List Nat
  | [] => []
  | next :: later =>
      ((next.code - place.code) * (length + 1) + next.index - place.index) ::
        distances (length + 1) ⟨next.code, next.index + 1⟩ later

/-- Numbers have 32 bits. -/
def numberLimit : Nat := Nat.pow 2 32

/-- Make the insertions that lie at these distances from each other. Each must put in a
character that there is. -/
def insertAll? (place : Insertion) (label : List Char) : List Nat → Option (List Char)
  | [] => some label
  | distance :: later =>
      let way := place.index + distance
      let code := place.code + way / (label.length + 1)
      let index := way % (label.length + 1)
      if code.isValidChar ∧ way < numberLimit then
        insertAll? ⟨code, index + 1⟩
          (label.take index ++ Char.ofNat code :: label.drop index) later
      else none

/-! ## Digits -/

/-- Digits are letters, then decimal digits. -/
def digit (value : Nat) : Char :=
  if value < 26 then Char.ofNat ('a'.toNat + value) else Char.ofNat ('0'.toNat + (value - 26))

/-- The value of a digit. -/
def digitValue? (c : Char) : Option Nat :=
  if c.isLower then some (c.toNat - 'a'.toNat)
  else if c.isDigit then some (c.toNat - '0'.toNat + 26)
  else none

/-- A digit below this bound is the last one of its number. -/
def lastBound (bias position : Nat) : Nat :=
  max 1 (min 26 (36 * (position + 1) - bias))

/-- What is left of a number behind one of its digits is smaller than the number. -/
theorem excess_div_lt {number bound : Nat} (radix : Nat) (positive : 1 ≤ bound)
    (goesOn : ¬number < bound) : (number - bound) / radix < number := by
  have := Nat.div_le_self (number - bound) radix
  omega

/-- The digits of a number from a position on, the least significant one first. -/
def digits (bias position number : Nat) : List Nat :=
  let bound := lastBound bias position
  let radix := 36 - bound
  if number < bound then [number]
  else
    (bound + (number - bound) % radix) ::
      digits bias (position + 1) ((number - bound) / radix)
termination_by number
decreasing_by exact excess_div_lt _ (Nat.le_max_left ..) (by assumption)

/-- The bias under which numbers of about this size are written shortly. -/
def biasFor (size : Nat) : Nat :=
  if size ≤ 455 then 36 * size / (size + 38) else 36 + biasFor (size / 35)
termination_by size

/-- The bias behind a distance. Cut down by `damping` and spread over the characters then
in place, a distance foretells the size of the next one. -/
def nextBias (damping length distance : Nat) : Nat :=
  let size := distance / damping
  biasFor (size + size / (length + 1))

/-- Write distances one behind the other. -/
def write (bias damping length : Nat) : List Nat → List Char
  | [] => []
  | distance :: later =>
      (digits bias 0 distance).map digit ++
        write (nextBias damping length distance) 2 (length + 1) later

/-- A number of which some digits have been read: how many, the weight of the next one,
and the value so far. -/
structure Unfinished where
  position : Nat
  weight : Nat
  value : Nat
  deriving DecidableEq, Repr

namespace Unfinished

/-- Before the first digit. -/
def start : Unfinished := ⟨0, 1, 0⟩

/-- Take in a digit. -/
def push (number : Unfinished) (bias digit : Nat) : Unfinished :=
  { position := number.position + 1
    weight := number.weight * (36 - lastBound bias number.position)
    value := number.value + digit * number.weight }

end Unfinished

/-- Read distances one behind the other, the first of which may have been begun. -/
def read? (bias damping length : Nat) (number : Unfinished) : List Char → Option (List Nat)
  | [] => if number = .start then some [] else none
  | c :: text =>
      match digitValue? c with
      | none => none
      | some digit =>
          let next := number.push bias digit
          if numberLimit ≤ number.weight ∨ numberLimit ≤ next.value then none
          else if digit < lastBound bias number.position then
            (read? (nextBias damping length next.value) 2 (length + 1) .start text).map
              (next.value :: ·)
          else read? bias damping length next text

/-! ## Labels -/

/-- The bias of the first distance. -/
def firstBias : Nat := 72

/-- The damping of the first distance. It also covers all code points below the smallest
inserted one, so it is damped more than the others. -/
def firstDamping : Nat := 700

/-- Where the first distance starts. -/
def firstPlace : Insertion := ⟨0x80, 0⟩

/-- Write a label in ASCII. -/
def encode (label : List Char) : List Char :=
  let basic := label.filter fun c => c.toNat < 0x80
  let lead := if basic.isEmpty then [] else basic ++ ['-']
  lead ++ write firstBias firstDamping basic.length
    (distances basic.length firstPlace (ordered (label.map Char.toNat)))

/-- Read a label that is written in ASCII. The last hyphen ends its ASCII characters, of
which there must be some. -/
def decode? (text : List Char) : Option (List Char) :=
  let follow (basic code : List Char) : Option (List Char) :=
    (read? firstBias firstDamping basic.length .start code).bind (insertAll? firstPlace basic)
  match cutAtLast '-' text with
  | (none, code) => follow [] code
  | (some [], _) => none
  | (some basic, code) => follow basic code

end AlloyAssist.Url.Punycode

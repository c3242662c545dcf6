/-!
# Digits

Numbers are read digit by digit in several notations. The value of a run of digits
and the range of doubles are stated here once for all of them. Two notations judge the
range differently: one rounds the number that was written, the other multiplies its
digits and its power of ten after each has been rounded.
-/

namespace AlloyAssist.Number

/-- The value of a decimal digit. -/
def digitValue (digit : Char) : Nat :=
  digit.toNat - '0'.toNat

/-- The value of a run of decimal digits. -/
def decimalValue (digits : List Char) : Nat :=
  digits.foldl (fun value digit => 10 * value + digitValue digit) 0

/-- The value of a hexadecimal digit, in either case. -/
def hexDigit? (c : Char) : Option Nat :=
  if '0' ≤ c ∧ c ≤ '9' then some (c.toNat - '0'.toNat)
  else if 'a' ≤ c ∧ c ≤ 'f' then some (c.toNat - 'a'.toNat + 10)
  else if 'A' ≤ c ∧ c ≤ 'F' then some (c.toNat - 'A'.toNat + 10)
  else none

/-- The value of a run of hexadecimal digits. -/
def hexValue? (digits : List Char) : Option Nat :=
  digits.foldlM (fun value digit => (hexDigit? digit).map (16 * value + ·)) 0

/-- From this value on a number rounds to infinity as a double: half a unit in the
last place above the largest finite one. -/
def doubleLimit : Nat :=
  Nat.pow 2 1024 - Nat.pow 2 970

/-- Whether digits scaled by a power of ten leave the range of doubles. Scales far
outside the range are judged without computing the power. -/
def leavesDoubles (digits : List Char) (scale : Int) : Bool :=
  let value := decimalValue digits
  if value = 0 then false
  else if 400 < scale then true
  else if 0 ≤ scale then doubleLimit ≤ value * Nat.pow 10 scale.toNat
  else if scale + digits.length < 300 then false
  else doubleLimit * Nat.pow 10 (-scale).toNat ≤ value

/-- The double nearest to a whole number; halfway between two of them, the even one. -/
def nearestDouble (value : Nat) : Nat :=
  let unit := Nat.pow 2 (value.log2 - 52)
  let below := value / unit
  let excess := value % unit
  if unit < 2 * excess ∨ (unit = 2 * excess ∧ below % 2 = 1) then (below + 1) * unit
  else below * unit

/-- Whether a whole number times a power of ten leaves the range of doubles when both
are rounded before they are multiplied. -/
def productLeavesDoubles (value : Nat) (scale : Int) : Bool :=
  if value = 0 ∨ scale < 0 then false
  else if 308 < scale then true
  else doubleLimit ≤ nearestDouble value * nearestDouble (Nat.pow 10 scale.toNat)

/-- Take digits into a number for as long as it has 64 bits. What is left over starts
with the first digit that does not fit. -/
def takeDigits (value : Nat) : List Char → Nat × List Char
  | [] => (value, [])
  | digit :: digits =>
      if 10 * value + digitValue digit < Nat.pow 2 64 then
        takeDigits (10 * value + digitValue digit) digits
      else (value, digit :: digits)

end AlloyAssist.Number

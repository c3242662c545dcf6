import AlloyAssist.Number.Digits
import AlloyAssist.Text.Pieces
import AlloyAssist.Url.Domain.Name
import AlloyAssist.Url.Percent

/-!
# Hosts

The host of a URL is a domain name, an address of version 4 or 6, or, for schemes
that nothing is known about, an opaque text. Every host is brought into one form:
domain names in lower case ASCII, addresses with the fewest digits.
-/

namespace AlloyAssist.Url

open Number Text

/-! ## Version 4 addresses -/

/-- The value of a run of digits in a base, or nothing if another character
occurs. -/
def valueInBase? (base : Nat) (digits : List Char) : Option Nat :=
  digits.foldlM
    (fun value c => (hexDigit? c).bind fun d => if d < base then some (base * value + d) else none)
    0

/-- A part of an address: decimal, or octal with a leading zero, or hexadecimal. -/
def ipv4Part? (part : List Char) : Option Nat :=
  match part with
  | [] => none
  | '0' :: 'x' :: digits => valueInBase? 16 digits
  | '0' :: 'X' :: digits => valueInBase? 16 digits
  | '0' :: c :: digits => valueInBase? 8 (c :: digits)
  | digits => valueInBase? 10 digits

/-- The parts of a dotted name; a dot at the end adds none. -/
def dottedParts (domain : List Char) : List (List Char) :=
  let parts := pieces (· == '.') domain
  if parts.getLast? = some [] ∧ 1 < parts.length then parts.dropLast else parts

/-- A domain whose last part is a number is read as an address. -/
def endsInNumber (domain : List Char) : Bool :=
  match (dottedParts domain).getLast? with
  | none => false
  | some part => (!part.isEmpty && part.all Char.isDigit) || (ipv4Part? part).isSome

/-- Put the parts of an address together. All but the last stand for one byte, the
last for all bytes that remain. -/
def ipv4Value? (parts : List Nat) : Option Nat :=
  match parts.reverse with
  | [] => none
  | last :: front =>
      if 4 < parts.length ∨ front.any (255 < ·) ∨ Nat.pow 256 (5 - parts.length) ≤ last then none
      else
        let places := front.reverse.zipIdx.map fun (part, i) => part * Nat.pow 256 (3 - i)
        some (places.foldr (· + ·) last)

/-- Write an address of version 4. -/
def writeIpv4 (value : Nat) : List Char :=
  let byte (i : Nat) := Nat.toDigits 10 (value / Nat.pow 256 (3 - i) % 256)
  byte 0 ++ '.' :: byte 1 ++ '.' :: byte 2 ++ '.' :: byte 3

/-- Read an address of version 4 and write it in its usual form. -/
def ipv4? (domain : List Char) : Option (List Char) :=
  (((dottedParts domain).mapM ipv4Part?).bind ipv4Value?).map writeIpv4

/-! ## Version 6 addresses -/

/-- One of the four decimal parts that an address of version 6 may end with. -/
def plainByte? (part : List Char) : Option Nat :=
  if part.isEmpty || !part.all Char.isDigit || (1 < part.length && part.head? == some '0') then none
  else if decimalValue part ≤ 255 then some (decimalValue part) else none

/-- The two pieces that four decimal parts stand for. -/
def embeddedIpv4? (text : List Char) : Option (List Nat) :=
  match (pieces (· == '.') text).mapM plainByte? with
  | some [a, b, c, d] => some [a * 256 + b, c * 256 + d]
  | _ => none

/-- Read pieces separated by colons. Only where the address ends may they end in four
decimal parts. -/
def ipv6Pieces? (isEnd : Bool) : List (List Char) → Option (List Nat)
  | [] => some []
  | [text] =>
      if isEnd && text.contains '.' then embeddedIpv4? text
      else if text.isEmpty || 4 < text.length then none
      else (hexValue? text).map ([·])
  | text :: texts =>
      if text.isEmpty || 4 < text.length then none
      else (hexValue? text).bind fun piece => (ipv6Pieces? isEnd texts).map (piece :: ·)

/-- One side of the gap in an address; an empty side has no pieces. -/
def ipv6Side? (isEnd : Bool) (text : List Char) : Option (List Nat) :=
  if text.isEmpty then some [] else ipv6Pieces? isEnd (pieces (· == ':') text)

/-- Cut an address at its first double colon. -/
def cutAtGap : List Char → Option (List Char × List Char)
  | ':' :: ':' :: rest => some ([], rest)
  | c :: rest => (cutAtGap rest).map fun (left, right) => (c :: left, right)
  | [] => none

/-- The eight pieces of an address. A double colon stands for at least one zero. -/
def ipv6Value? (text : List Char) : Option (List Nat) :=
  match cutAtGap text with
  | some (left, right) => do
      let left ← ipv6Side? false left
      let right ← ipv6Side? true right
      guard (left.length + right.length ≤ 7)
      return left ++ List.replicate (8 - left.length - right.length) 0 ++ right
  | none =>
      match ipv6Pieces? true (pieces (· == ':') text) with
      | some values => if values.length = 8 then some values else none
      | none => none

/-- How many zeros a list starts with. -/
def zerosInFront (values : List Nat) : Nat :=
  (values.takeWhile (· == 0)).length

/-- Where the first of the longest runs of zeros starts, and how long it is. -/
def longestZeros (values : List Nat) : Nat × Nat :=
  (List.range values.length).foldl
    (fun (start, length) i =>
      if length < zerosInFront (values.drop i) then (i, zerosInFront (values.drop i))
      else (start, length))
    (0, 0)

/-- Pieces in lower case digits, joined by colons. -/
def joinPieces (values : List Nat) : List Char :=
  [':'].intercalate (values.map (Nat.toDigits 16))

/-- Write an address of version 6. The first of the longest runs of at least two
zeros is left out. -/
def writeIpv6 (values : List Nat) : List Char :=
  match longestZeros values with
  | (start, length) =>
      if length < 2 then joinPieces values
      else joinPieces (values.take start) ++ ':' :: ':' :: joinPieces (values.drop (start + length))

/-- Read an address in brackets and write it in its usual form. -/
def ipv6? (text : List Char) : Option (List Char) :=
  match text.getLast? with
  | some ']' =>
      (ipv6Value? (text.drop 1).dropLast).map fun values => '[' :: writeIpv6 values ++ [']']
  | _ => none

/-! ## Names -/

/-- Characters that no host holds as they are. -/
def isForbiddenInHost (c : Char) : Bool :=
  c.toNat == 0 ||
    ['\t', '\n', '\r', ' ', '#', '/', ':', '<', '>', '?', '@', '[', '\\', ']', '^', '|'].contains c

/-- Read the host of a scheme of the web. It may be escaped, and must not be empty. -/
def domainHost? (text : List Char) : Option (List Char) :=
  if text.head? = some '[' then ipv6? text
  else
    (decode? text).bind fun decoded =>
      (Domain.ascii? decoded).bind fun domain =>
        if domain.isEmpty then none
        else if endsInNumber domain then ipv4? domain
        else some domain

/-- Read the host of any other scheme. -/
def opaqueHost? (text : List Char) : Option (List Char) :=
  if text.head? = some '[' then ipv6? text
  else if text.any isForbiddenInHost then none
  else some (encode isControl text)

end AlloyAssist.Url

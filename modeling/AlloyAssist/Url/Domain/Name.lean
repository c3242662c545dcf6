import AlloyAssist.Url.Domain.Direction
import AlloyAssist.Url.Domain.Folding
import AlloyAssist.Url.Domain.Joining
import AlloyAssist.Url.Domain.Normal
import AlloyAssist.Url.Percent
import AlloyAssist.Url.Punycode

/-!
# Domain names

A domain name is brought into lower case ASCII. It is folded and normalized as a whole and
then judged label by label. Labels that go beyond ASCII are encoded; labels that are
encoded already must be the encoding of a label that could have been written plainly.
-/

namespace AlloyAssist.Url.Domain

open Text

/-- A character of ASCII. -/
def isAscii (c : Char) : Bool := c.toNat < 0x80

/-- Characters that no domain name holds. -/
def isForbidden (c : Char) : Bool :=
  isControl c ||
    [' ', '#', '%', '/', ':', '<', '>', '?', '@', '[', '\\', ']', '^', '|'].contains c

/-- What encoded labels start with. -/
def encodedStart : List Char := ['x', 'n', '-', '-']

/-- The longest label that is encoded. -/
def maxPlain : Nat := 1000

/-- The longest encoding that is decoded. -/
def maxEncoded : Nat := 2000

/-- A label as it is read and as it is written in ASCII. -/
structure Label where
  plain : List Char
  ascii : List Char
  deriving DecidableEq, Repr

namespace Label

/-- A text may be a label: it does not start with a mark, and its joiners matter. -/
def isWellFormed (text : List Char) : Bool :=
  !text.head?.any (fun c => isMark c.toNat) && joinersMatter [] text

/-- A text is in the form that names are compared in. -/
def isSettled (text : List Char) : Bool :=
  let codes := text.map Char.toNat
  codes.all isFolded && normalForm codes == codes

/-- Decode a label that is encoded already. -/
def decode? (text : List Char) : Option Label := do
  let code := text.drop encodedStart.length
  guard (text.all isAscii && code.length ≤ maxEncoded)
  let plain ← Punycode.decode? code
  guard (!plain.all isAscii && isSettled plain && isWellFormed plain)
  return ⟨plain, text⟩

/-- Read a label that is folded and normalized. -/
def read? (text : List Char) : Option Label :=
  if encodedStart.isPrefixOf text then decode? text
  else if text.all isAscii then some ⟨text, text⟩
  else if isWellFormed text && text.length ≤ maxPlain then
    some ⟨text, encodedStart ++ Punycode.encode text⟩
  else none

/-- The directions of the characters of a label. -/
def directions (label : Label) : List Direction :=
  label.plain.map Direction.ofChar

end Label

/-- Where some label is written from right to left, each label keeps to one direction. -/
def directionsKeep (labels : List Label) : Bool :=
  !labels.any (fun label => label.directions.any Direction.turnsName) ||
    labels.all fun label => Direction.keep label.directions

/-- Fold and normalize a name. -/
def settle? (name : List Char) : Option (List Char) :=
  (name.mapM fun c => fold? c.toNat).map fun codes => (normalForm codes.flatten).map Char.ofNat

/-- A domain name in lower case ASCII. -/
def ascii? (name : List Char) : Option (List Char) := do
  let settled ← settle? name
  guard (!settled.any isForbidden)
  let labels ← (pieces (· == '.') settled).mapM Label.read?
  guard (directionsKeep labels)
  return ['.'].intercalate (labels.map Label.ascii)

end AlloyAssist.Url.Domain

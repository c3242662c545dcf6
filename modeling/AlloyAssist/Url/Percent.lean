import AlloyAssist.Number.Digits

/-!
# Percent encoding

Each part of a URL has a set of ASCII characters that must not stand in it as they
are; characters outside ASCII never do. They are written as the bytes of their
UTF-8 form, each as a percent sign and two upper case digits.
-/

namespace AlloyAssist.Url

open Number

/-- The two upper case digits of a byte. -/
def hexPair (byte : Nat) : List Char :=
  [(Nat.digitChar (byte / 16)).toUpper, (Nat.digitChar (byte % 16)).toUpper]

/-- Control characters. -/
def isControl (c : Char) : Bool :=
  c.toNat < 0x20 || c.toNat == 0x7F

/-- What is encoded in the fragment. -/
def inFragmentSet (c : Char) : Bool :=
  isControl c || [' ', '"', '<', '>', '\x60'].contains c

/-- What is encoded in the query. The schemes of the web also encode the
apostrophe. -/
def inQuerySet (special : Bool) (c : Char) : Bool :=
  isControl c || [' ', '"', '#', '<', '>'].contains c || (special && c == '\x27')

/-- What is encoded in the segments of a path. -/
def inPathSet (c : Char) : Bool :=
  inFragmentSet c || ['#', '?', '{', '}'].contains c

/-- What is encoded in user name and password. -/
def inUserSet (c : Char) : Bool :=
  inPathSet c || ['/', ':', ';', '=', '@', '[', '\\', ']', '^', '|'].contains c

/-- Encode one character. -/
def encodeChar (inSet : Char → Bool) (c : Char) : List Char :=
  if c.toNat < 0x80 && !inSet c then [c]
  else c.toString.toUTF8.toList.flatMap fun byte => '%' :: hexPair byte.toNat

/-- Encode a text. -/
def encode (inSet : Char → Bool) (text : List Char) : List Char :=
  text.flatMap (encodeChar inSet)

/-- The bytes of a text with its percent escapes resolved. A percent sign that two
digits do not follow stands for itself. -/
def decodeBytes : List Char → List UInt8
  | [] => []
  | '%' :: a :: b :: rest =>
      match hexValue? [a, b] with
      | some value => value.toUInt8 :: decodeBytes rest
      | none => 0x25 :: decodeBytes (a :: b :: rest)
  | c :: rest => c.toString.toUTF8.toList ++ decodeBytes rest

/-- Resolve the percent escapes of a text; the result must be UTF-8. -/
def decode? (text : List Char) : Option (List Char) :=
  (String.fromUTF8? ⟨(decodeBytes text).toArray⟩).map String.toList

end AlloyAssist.Url

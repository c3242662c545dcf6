import AlloyAssist.Number.Digits

/-!
# TOML strings

Strings come in four forms: with escapes or literal, on one line or on several.
Each reader starts behind the opening quotes and returns the text and what follows
the closing ones. On several lines up to two quotes may stand right in front of the
closing three.
-/

namespace AlloyAssist.Toml

open Number

/-- The quote of literal strings. -/
def apostrophe : Char := '\x27'

/-- Characters that may stand in a string as they are: everything but control
characters, of which only the tab is allowed. -/
def isTextChar (c : Char) : Bool :=
  c == '\t' || (0x20 ≤ c.toNat && c.toNat != 0x7F)

/-- The character of a code point, which must not be a surrogate. -/
def scalar? (code : Nat) : Option Char :=
  if code < 0xD800 ∨ (0xDFFF < code ∧ code < 0x110000) then some (Char.ofNat code) else none

/-- The character that hexadecimal digits name. -/
def hexChar? (digits : List Char) : Option Char :=
  (hexValue? digits).bind scalar?

/-- Characters written with a backslash and one letter. -/
def shortEscape? : Char → Option Char
  | 'b' => some '\x08'
  | 't' => some '\t'
  | 'n' => some '\n'
  | 'f' => some '\x0c'
  | 'r' => some '\r'
  | 'e' => some '\x1b'
  | '"' => some '"'
  | '\\' => some '\\'
  | _ => none

/-- Put a character in front of the text read so far. -/
def consText (c : Char) (read : Option (List Char × List Char)) :
    Option (List Char × List Char) :=
  read.map fun (text, rest) => (c :: text, rest)

/-- Put a character that may be missing in front of the text read so far. -/
def consText? (c : Option Char) (read : Option (List Char × List Char)) :
    Option (List Char × List Char) :=
  c.bind fun c => consText c read

/-- A string with escapes on one line. -/
def readBasic? : List Char → Option (List Char × List Char)
  | '"' :: rest => some ([], rest)
  | '\\' :: 'x' :: a :: b :: rest => consText? (hexChar? [a, b]) (readBasic? rest)
  | '\\' :: 'u' :: a :: b :: c :: d :: rest =>
      consText? (hexChar? [a, b, c, d]) (readBasic? rest)
  | '\\' :: 'U' :: a :: b :: c :: d :: e :: f :: g :: h :: rest =>
      consText? (hexChar? [a, b, c, d, e, f, g, h]) (readBasic? rest)
  | '\\' :: c :: rest => consText? (shortEscape? c) (readBasic? rest)
  | c :: rest => if isTextChar c && c != '\\' then consText c (readBasic? rest) else none
  | [] => none

/-- A literal string on one line. -/
def readLiteral? : List Char → Option (List Char × List Char)
  | [] => none
  | c :: rest =>
      if c = apostrophe then some ([], rest)
      else if isTextChar c then consText c (readLiteral? rest)
      else none

/-- A backslash here ends its line: only blanks follow up to the line break. -/
def endsLine (rest : List Char) : Bool :=
  match rest.dropWhile fun c => c == ' ' || c == '\t' with
  | '\n' :: _ => true
  | '\r' :: '\n' :: _ => true
  | _ => false

/-- A string with escapes on several lines. While `trimming`, blanks and line breaks
are passed over: a backslash at the end of a line takes them out. -/
def readLongBasic? (trimming : Bool) : List Char → Option (List Char × List Char)
  | '"' :: '"' :: '"' :: '"' :: '"' :: rest => some (['"', '"'], rest)
  | '"' :: '"' :: '"' :: '"' :: rest => some (['"'], rest)
  | '"' :: '"' :: '"' :: rest => some ([], rest)
  | '\\' :: 'x' :: a :: b :: rest => consText? (hexChar? [a, b]) (readLongBasic? false rest)
  | '\\' :: 'u' :: a :: b :: c :: d :: rest =>
      consText? (hexChar? [a, b, c, d]) (readLongBasic? false rest)
  | '\\' :: 'U' :: a :: b :: c :: d :: e :: f :: g :: h :: rest =>
      consText? (hexChar? [a, b, c, d, e, f, g, h]) (readLongBasic? false rest)
  | '\\' :: c :: rest =>
      if endsLine (c :: rest) then readLongBasic? true (c :: rest)
      else consText? (shortEscape? c) (readLongBasic? false rest)
  | '\r' :: '\n' :: rest =>
      if trimming then readLongBasic? true rest
      else consText '\r' (consText '\n' (readLongBasic? false rest))
  | '\n' :: rest =>
      if trimming then readLongBasic? true rest else consText '\n' (readLongBasic? false rest)
  | c :: rest =>
      if trimming && (c == ' ' || c == '\t') then readLongBasic? true rest
      else if isTextChar c && c != '\\' then consText c (readLongBasic? false rest)
      else none
  | [] => none

/-- A literal string on several lines. -/
def readLongLiteral? : List Char → Option (List Char × List Char)
  | '\x27' :: '\x27' :: '\x27' :: '\x27' :: '\x27' :: rest =>
      some ([apostrophe, apostrophe], rest)
  | '\x27' :: '\x27' :: '\x27' :: '\x27' :: rest => some ([apostrophe], rest)
  | '\x27' :: '\x27' :: '\x27' :: rest => some ([], rest)
  | '\r' :: '\n' :: rest => consText '\r' (consText '\n' (readLongLiteral? rest))
  | '\n' :: rest => consText '\n' (readLongLiteral? rest)
  | c :: rest => if isTextChar c then consText c (readLongLiteral? rest) else none
  | [] => none

/-- A line break right behind the opening quotes is not part of the text. -/
def dropFirstBreak : List Char → List Char
  | '\n' :: rest => rest
  | '\r' :: '\n' :: rest => rest
  | text => text

/-- Read a string in any of the four forms. The text must start with a quote. -/
def readString? (text : List Char) : Option (List Char × List Char) :=
  match text with
  | '"' :: '"' :: '"' :: rest => readLongBasic? false (dropFirstBreak rest)
  | '"' :: rest => readBasic? rest
  | '\x27' :: '\x27' :: '\x27' :: rest => readLongLiteral? (dropFirstBreak rest)
  | '\x27' :: rest => readLiteral? rest
  | _ => none

end AlloyAssist.Toml

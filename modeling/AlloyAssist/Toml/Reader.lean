import AlloyAssist.Toml.Quoted
import AlloyAssist.Toml.Scalar
import AlloyAssist.Toml.Value

/-!
# Reading TOML

A text is a run of lines: headers that choose a table, and keys with values that go
into it. The reader follows version 1.1 of the format, where inline tables may
spread over lines and end in a comma. A text is read as a whole or not at all.
-/

namespace AlloyAssist.Toml

/-! ## Between values -/

/-- Blanks inside a line. -/
def isSpace (c : Char) : Bool :=
  c == ' ' || c == '\t'

/-- Drop the blanks in front. -/
def skipSpace (text : List Char) : List Char :=
  text.dropWhile isSpace

/-- Take a line break off the front. A carriage return alone is none. -/
def readBreak? : List Char → Option (List Char)
  | '\n' :: rest => some rest
  | '\r' :: '\n' :: rest => some rest
  | _ => none

/-- Drop a comment, up to the end of its line. -/
def skipComment (text : List Char) : List Char :=
  match text with
  | '#' :: rest => rest.dropWhile isTextChar
  | _ => text

/-- Finish a line: blanks, a comment, and a line break or the end of the text. -/
def readLineEnd? (text : List Char) : Option (List Char) :=
  match skipComment (skipSpace text) with
  | [] => some []
  | rest => readBreak? rest

/-- Drop blanks, line breaks and comments. `commented` tells whether a comment is
being passed over. -/
def skipTrivia? (commented : Bool) : List Char → Option (List Char)
  | [] => some []
  | '\n' :: rest => skipTrivia? false rest
  | '\r' :: '\n' :: rest => skipTrivia? false rest
  | c :: rest =>
      if commented then if isTextChar c then skipTrivia? true rest else none
      else if isSpace c then skipTrivia? false rest
      else if c = '#' then skipTrivia? true rest
      else some (c :: rest)

/-! ## Keys -/

/-- Characters of keys that need no quotes. -/
def isBareKeyChar (c : Char) : Bool :=
  c.isAlphanum || c == '_' || c == '-'

/-- Read one part of a key. -/
def readKeyPart? (text : List Char) : Option (String × List Char) :=
  match text with
  | '"' :: rest => (readBasic? rest).map fun (key, rest) => (String.ofList key, rest)
  | '\x27' :: rest => (readLiteral? rest).map fun (key, rest) => (String.ofList key, rest)
  | _ =>
      match text.takeWhile isBareKeyChar with
      | [] => none
      | key => some (String.ofList key, text.dropWhile isBareKeyChar)

/-- A key: the parts in front of the last dot, and the last part. -/
structure Key where
  path : List String
  last : String

namespace Key

/-- All parts of a key. -/
def parts (key : Key) : List String :=
  key.path ++ [key.last]

end Key

/-- How deep arrays and inline tables may lie inside each other, and how many parts a
key may have. -/
def maxDepth : Nat := 80

/-- Read so many parts of a key at most, joined by dots. -/
def readKeyParts? : Nat → List Char → Option (Key × List Char)
  | 0, _ => none
  | bound + 1, text =>
      match readKeyPart? text with
      | none => none
      | some (part, rest) =>
          match skipSpace rest with
          | '.' :: rest =>
              (readKeyParts? bound (skipSpace rest)).map fun (key, rest) =>
                ({ key with path := part :: key.path }, rest)
          | rest => some (⟨[], part⟩, rest)

/-- Read a key and the blanks behind it. -/
def readKey? : List Char → Option (Key × List Char) :=
  readKeyParts? maxDepth

/-- Read a key, an equals sign and a value. The gaps around the equals sign are passed
over as told. -/
def readPair? (gap : List Char → Option (List Char))
    (value : List Char → Option (Value × List Char)) (text : List Char) :
    Option ((Key × Value) × List Char) := do
  let (key, rest) ← readKey? text
  match ← gap rest with
  | '=' :: rest =>
      let (value, rest) ← value (← gap rest)
      return ((key, value), rest)
  | _ => none

/-! ## Values -/

/-- Read items separated by commas up to a closing bracket. The last item may have a
comma, too. The number bounds how many items are read; one more than the length of
the text is always enough. -/
def readItems? {α : Type} (item : List Char → Option (α × List Char)) (close : Char) :
    Nat → List Char → Option (List α × List Char)
  | 0, _ => none
  | bound + 1, text =>
      match skipTrivia? false text with
      | none => none
      | some [] => none
      | some (c :: rest) =>
          if c = close then some ([], rest)
          else
            match item (c :: rest) with
            | none => none
            | some (value, rest) =>
                match skipTrivia? false rest with
                | some (',' :: rest) =>
                    (readItems? item close bound rest).map fun (values, rest) =>
                      (value :: values, rest)
                | some (c :: rest) => if c = close then some ([value], rest) else none
                | _ => none

/-- Put the pairs of an inline table together. -/
def inlineTable? (pairs : List (Key × Value)) : Option Value :=
  (pairs.foldlM (fun (entries : Entries) (pair : Key × Value) =>
    Entries.set? pair.2 pair.1.path pair.1.last entries) []).map (.table .inline)

/-- Read a value. The number says how many levels of arrays and inline tables it may
have. -/
def readValue? : Nat → List Char → Option (Value × List Char)
  | depth, text =>
      match text with
      | '[' :: rest =>
          match depth with
          | 0 => none
          | depth + 1 =>
              (readItems? (readValue? depth) ']' text.length rest).map fun (values, rest) =>
                (.array values, rest)
      | '{' :: rest =>
          match depth with
          | 0 => none
          | depth + 1 =>
              (readItems? (readPair? (skipTrivia? false) (readValue? depth)) '}' text.length
                rest).bind
                fun (pairs, rest) => (inlineTable? pairs).map fun table => (table, rest)
      | _ =>
          if text.head? = some '"' ∨ text.head? = some apostrophe then
            (readString? text).map fun (value, rest) => (.string (String.ofList value), rest)
          else readScalar? text

/-! ## Documents -/

/-- What has been read so far: the tree, and the table that keys go into. -/
structure Draft where
  root : Entries
  current : List String

namespace Draft

/-- Nothing read yet: keys go into the root. -/
def empty : Draft := ⟨[], []⟩

/-- Follow a header of a table. -/
def openTable? (draft : Draft) (key : Key) : Option Draft :=
  (Entries.descend? (Entries.openTable? key.last) key.path draft.root).map (⟨·, key.parts⟩)

/-- Follow a header of an array of tables. -/
def openElement? (draft : Draft) (key : Key) : Option Draft :=
  (Entries.descend? (Entries.openElement? key.last) key.path draft.root).map (⟨·, key.parts⟩)

/-- Set a key in the current table. -/
def set? (draft : Draft) (key : Key) (value : Value) : Option Draft :=
  (Entries.descend? (Entries.set? value key.path key.last) draft.current draft.root).map
    (⟨·, draft.current⟩)

end Draft

/-- Read what stands between the brackets of a header and its closing bracket. -/
def readHeader? (text : List Char) : Option (Key × List Char) :=
  match readKey? (skipSpace text) with
  | some (key, ']' :: rest) => some (key, rest)
  | _ => none

/-- Read one line that is not blank and enter what it says. -/
def readStatement? (draft : Draft) (text : List Char) : Option (Draft × List Char) :=
  match text with
  | '[' :: '[' :: rest =>
      match readHeader? rest with
      | some (key, ']' :: rest) => (draft.openElement? key).map fun draft => (draft, rest)
      | _ => none
  | '[' :: rest =>
      (readHeader? rest).bind fun (key, rest) =>
        (draft.openTable? key).map fun draft => (draft, rest)
  | _ =>
      (readPair? (some ∘ skipSpace) (readValue? maxDepth) text).bind fun ((key, value), rest) =>
        (draft.set? key value).map fun draft => (draft, rest)

/-- Read line after line. The number bounds how many lines are read; one more than
the length of the text is always enough. -/
def readLines? : Nat → Draft → List Char → Option Draft
  | 0, _, _ => none
  | bound + 1, draft, text =>
      match skipSpace text with
      | [] => some draft
      | c :: rest =>
          if c = '#' ∨ c = '\n' ∨ c = '\r' then
            (readLineEnd? (c :: rest)).bind (readLines? bound draft)
          else
            match readStatement? draft (c :: rest) with
            | none => none
            | some (draft, rest) => (readLineEnd? rest).bind (readLines? bound draft)

/-- Read a text. A byte order mark in front is passed over. -/
def parse? (text : String) : Option Entries :=
  let chars :=
    match text.toList with
    | '\ufeff' :: rest => rest
    | chars => chars
  (readLines? (chars.length + 1) Draft.empty chars).map Draft.root

end AlloyAssist.Toml

/-!
# Lines and their endings

A text is a run of lines, each closed by a line feed, and one last line that
nothing closes. A carriage return right in front of the line feed belongs to the
ending; anywhere else it is an ordinary character of its line. A byte order mark
counts only as the very first character of the text, and is set aside.

`Lines` has this shape by construction: there is always a last line, and the
others always carry an ending. `Lines.join` puts the text back together.
-/

namespace AlloyAssist.Text

/-- The character that may open a text to tell its encoding. -/
def byteOrderMark : Char := '\ufeff'

/-- What closes a line. -/
inductive Ending where
  | lf
  | crlf
  deriving DecidableEq, Repr

namespace Ending

/-- The characters an ending is written with. -/
def chars : Ending → List Char
  | lf => ['\n']
  | crlf => ['\r', '\n']

end Ending

/-- A line together with the ending that closes it. -/
structure ClosedLine where
  content : List Char
  ending : Ending
  deriving DecidableEq, Repr

namespace ClosedLine

/-- Read what stands in front of a line feed: a carriage return at its end is
part of the ending. -/
def ofPiece (piece : List Char) : ClosedLine :=
  if piece.getLast? = some '\r' then ⟨piece.dropLast, .crlf⟩ else ⟨piece, .lf⟩

/-- The line with its ending, as written. -/
def chars (line : ClosedLine) : List Char :=
  line.content ++ line.ending.chars

end ClosedLine

/-- The pieces in front of each line feed, and what follows the last one. -/
def cut : List Char → List (List Char) × List Char
  | [] => ([], [])
  | c :: text =>
      match cut text with
      | (pieces, last) =>
          if c = '\n' then ([] :: pieces, last)
          else
            match pieces with
            | [] => ([], c :: last)
            | piece :: pieces => ((c :: piece) :: pieces, last)

/-- A piece of a text, found without the others: pass over as many line feeds as its
number says, and read up to the next one. There is no such piece if the line feeds run
out. -/
def seekPiece? : Nat → List Char → Option (List Char)
  | 0, text => some (text.takeWhile (· != '\n'))
  | index + 1, text =>
      match text.dropWhile (· != '\n') with
      | [] => none
      | _ :: rest => seekPiece? index rest

/-- A text taken apart into lines. -/
structure Lines where
  /-- Whether the text opens with a byte order mark. -/
  hasMark : Bool
  /-- The lines that a line feed closes. -/
  closed : List ClosedLine
  /-- The line behind the last line feed. -/
  last : List Char
  deriving DecidableEq, Repr

namespace Lines

/-- Take apart a text whose byte order mark is already dealt with. -/
def ofUnmarked (hasMark : Bool) (text : List Char) : Lines :=
  match cut text with
  | (pieces, last) => { hasMark, closed := pieces.map ClosedLine.ofPiece, last }

/-- Take a text apart. -/
def split (text : List Char) : Lines :=
  match text with
  | [] => ofUnmarked false []
  | c :: rest => if c = byteOrderMark then ofUnmarked true rest else ofUnmarked false (c :: rest)

/-- The text that was taken apart. -/
def join (lines : Lines) : List Char :=
  (if lines.hasMark then [byteOrderMark] else []) ++
    lines.closed.flatMap ClosedLine.chars ++ lines.last

/-- The contents of all lines in order, without endings. -/
def contents (lines : Lines) : List (List Char) :=
  lines.closed.map ClosedLine.content ++ [lines.last]

/-- The ending of each line in order; only the last line has none. -/
def endings (lines : Lines) : List (Option Ending) :=
  lines.closed.map (fun line => some line.ending) ++ [none]

@[simp] theorem length_contents (lines : Lines) :
    lines.contents.length = lines.closed.length + 1 := by
  simp [contents]

@[simp] theorem length_endings (lines : Lines) :
    lines.endings.length = lines.closed.length + 1 := by
  simp [endings]

end Lines

end AlloyAssist.Text

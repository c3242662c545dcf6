import AlloyAssist.Line.Kind
import AlloyAssist.Text.Lines

/-!
# Indentation

A document is laid out again by moving its lines to the depth of their block.
Only the ends of a trimmed line steer the depth: a line that starts with a closing
brace steps out first, and one that ends with an opening brace steps in for the
lines below it. Blank lines and `//` comments are left alone, and every line keeps
its own ending.
-/

namespace AlloyAssist

open Text

namespace Indentation

/-- Lines that keep their layout and do not steer the depth. -/
def isKept (line : List Char) : Bool :=
  match LineKind.classify line with
  | .blank | .lineComment => true
  | .blockComment | .code => false

/-- The level a line is put on, given the level of its surroundings. -/
def ownLevel (level : Nat) (line : List Char) : Nat :=
  if (trim line).head? = some '}' then level - 1 else level

/-- The level that the lines below start from. -/
def nextLevel (level : Nat) (line : List Char) : Nat :=
  if isKept line then level
  else if (trim line).getLast? = some '{' then ownLevel level line + 1
  else ownLevel level line

/-- Two spaces for every level. -/
def margin (level : Nat) : List Char :=
  List.replicate (2 * level) ' '

/-- Put a line on its level. -/
def place (level : Nat) (line : List Char) : List Char :=
  if isKept line then line else margin (ownLevel level line) ++ trim line

/-- The level that holds behind a run of lines. -/
def levelAfter (level : Nat) (lines : List (List Char)) : Nat :=
  lines.foldl nextLevel level

/-- Put consecutive lines on their levels. -/
def placeAll (level : Nat) : List ClosedLine → List ClosedLine
  | [] => []
  | line :: lines =>
      { line with content := place level line.content } ::
        placeAll (nextLevel level line.content) lines

/-- Put every line of a document on its level. -/
def layOut (lines : Lines) : Lines :=
  { lines with
    closed := placeAll 0 lines.closed
    last := place (levelAfter 0 (lines.closed.map ClosedLine.content)) lines.last }

/-- Lay a document out again. -/
def format (text : String) : String :=
  String.ofList (layOut (Lines.split text.toList)).join

end Indentation

end AlloyAssist

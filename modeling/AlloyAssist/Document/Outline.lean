import AlloyAssist.Line.Declaration
import AlloyAssist.Line.Kind
import AlloyAssist.Text.Lines

/-!
# Outline

The outline of a document lists its component declarations with the lines that
their blocks span. A block ends on the first code line at which the braces counted
from the declaration on no longer leave one open, and reaches to the end of the
document if there is no such line.
-/

namespace AlloyAssist

open Text

/-- A declared component and the lines of its block, both ends included. -/
structure OutlineSymbol where
  declaration : Declaration
  startLine : Nat
  endLine : Nat
  deriving DecidableEq, Repr

namespace Outline

/-- The first code line at which no brace is left open. `index` numbers the first
of the lines and `depth` counts the braces open above it. -/
def closingLine? (depth : Int) (index : Nat) : List (List Char) → Option Nat
  | [] => none
  | line :: lines =>
      if Line.isCode line then
        if depth + Line.braceDelta line ≤ 0 then some index
        else closingLine? (depth + Line.braceDelta line) (index + 1) lines
      else closingLine? depth (index + 1) lines

/-- The line that closes the block of a declaration, which stands on line `index` in
front of `lines`. The braces of its own line count whatever kind of line it is. -/
def closingLineFrom? (index : Nat) (line : List Char) (lines : List (List Char)) : Option Nat :=
  if Line.braceDelta line ≤ 0 then some index
  else closingLine? (Line.braceDelta line) (index + 1) lines

/-- The symbols of consecutive lines up to the end of the document. `index`
numbers the first of them and `lastLine` the last line of the document. -/
def symbolsFrom (lastLine index : Nat) : List (List Char) → List OutlineSymbol
  | [] => []
  | line :: lines =>
      if Line.isCode line then
        match Declaration.read? line with
        | some declaration =>
            { declaration
              startLine := index
              endLine := (closingLineFrom? index line lines).getD lastLine } ::
              symbolsFrom lastLine (index + 1) lines
        | none => symbolsFrom lastLine (index + 1) lines
      else symbolsFrom lastLine (index + 1) lines

/-- The symbols of a document's lines, in line order. -/
def symbols (lines : List (List Char)) : List OutlineSymbol :=
  symbolsFrom (lines.length - 1) 0 lines

/-- The outline of a document. -/
def ofText (text : String) : List OutlineSymbol :=
  symbols (Lines.split text.toList).contents

end Outline

end AlloyAssist

import AlloyAssist.Text.Blank

/-!
# Kinds of lines

Every question about a document is asked line by line, and most of them pass over
the lines that hold no code. A line is judged by what its first solid characters
are; where a comment ends is not followed.
-/

namespace AlloyAssist

open Text

/-- What a line is, judged by its first solid characters. -/
inductive LineKind where
  | blank
  /-- The line starts with `//`. -/
  | lineComment
  /-- The line starts with `/*`. -/
  | blockComment
  | code
  deriving DecidableEq, Repr

namespace LineKind

/-- The kind of a line. -/
def classify (line : List Char) : LineKind :=
  match trim line with
  | [] => blank
  | '/' :: '/' :: _ => lineComment
  | '/' :: '*' :: _ => blockComment
  | _ => code

/-- Lines that checking and outlining pass over. -/
def isSkipped (kind : LineKind) : Bool :=
  kind != code

end LineKind

namespace Line

/-- A line that checking and outlining look at. -/
def isCode (line : List Char) : Bool :=
  !(LineKind.classify line).isSkipped

/-- Opening braces less closing braces, wherever they stand on the line. -/
def braceDelta (line : List Char) : Int :=
  (line.count '{' : Int) - (line.count '}' : Int)

/-- How many double quotes the line holds. -/
def quoteCount (line : List Char) : Nat :=
  line.count '"'

end Line

end AlloyAssist

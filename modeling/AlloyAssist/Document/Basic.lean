import AlloyAssist.Text.Lines
import AlloyAssist.Url.Basic

/-!
# Open documents

A document is open under a URL. Its lines are numbered the way an editor numbers
them: every line feed starts a new one, a carriage return at the end of a line is
hidden, and a byte order mark is part of the first line.
-/

namespace AlloyAssist

open Text

/-- The text of an open document and the language its editor takes it for. -/
structure Document where
  content : String
  languageId : String
  deriving DecidableEq, Repr

namespace Document

/-- The language that is checked and laid out. -/
def alloyLanguage : String := "alloy"

/-- The ending of paths that tell the language. -/
def alloyExtension : String := ".alloy"

/-- Whether a document is to be checked and laid out: either its language or its path
says so. -/
def isAlloy (document : Document) (url : Url) : Bool :=
  document.languageId == alloyLanguage || url.pathEndsWith alloyExtension

/-- Hide a carriage return at the end of a line. -/
def hideReturn (line : List Char) : List Char :=
  if line.getLast? = some '\r' then line.dropLast else line

/-- The lines of a text as an editor shows them. -/
def shownLines (text : List Char) : List (List Char) :=
  match cut text with
  | (pieces, last) => (pieces ++ [last]).map hideReturn

/-- The lines of a document. -/
def lines (document : Document) : List (List Char) :=
  shownLines document.content.toList

/-- A line of a document, looked for on its own; behind the last one all lines are
empty. -/
def line (document : Document) (index : Nat) : List Char :=
  ((seekPiece? index document.content.toList).map hideReturn).getD []

end Document

end AlloyAssist
